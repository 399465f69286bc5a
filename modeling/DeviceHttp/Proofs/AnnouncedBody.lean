import DeviceHttp.Proofs.Accounting
import DeviceHttp.Proofs.HeaderLookup
import DeviceHttp.Proofs.Partition
import DeviceHttp.Proofs.UnannouncedBody

/-!
# The announced length of a body

A peer announces the length of a body in its header block, and what it sends behind the body is not
meant for this request. A server that answers one request on each connection has no use for such
bytes, but it must not take them for the body either.

**A positive length is honoured** in a request that is read from bytes and in one that is received,
wherever its pieces end: the body is that many bytes, and they are the ones right behind the header
block. **A length of zero is not**, nor is one without a digit, which reads as zero. A head holds
the number alone, so such an announcement is taken for none at all, and everything behind the header
block becomes the body, a second request included.

## Main definitions

* `Request.BodyAsAnnounced` — the body takes up the announced length, behind the header block
* `Request.TreatsAnnouncement` — the body for every announcement, and when it is as announced

## How

`Request.CutFrom` knows the pieces that the bytes of a request are cut into, with the rest behind
them, and every request that is read is cut from its bytes (`Request.exists_cutFrom_of_ofBytes`). A
request that was received is read from the bytes that were handed over
(`Reader.ofBytes_of_progress`), and these are the front of what the reader streams.
-/

namespace DeviceHttp

namespace Request

/-- The body is what was announced: as many bytes as the length says, those right behind the header
block. -/
structure BodyAsAnnounced (r : Request) : Prop where
  length : r.body.length = r.contentLength
  behind : ∃ front rest, Header.blockEnd? r.bytes = some front.length ∧
    r.bytes = front ++ (r.body ++ rest)

/-- The body of a request that was cut from bytes with the given first line and header block. -/
structure TreatsAnnouncement (b l block : Bytes) (r : Request) : Prop where
  bytes : r.bytes = b
  headerBlock : r.headerBlock = block
  /-- A header block with a Content-Length line announces the number on the first of these lines. -/
  announced : (∃ line ∈ Bytes.lines block, Header.IsNamed "content-length" line) →
    ∃ value, Header.find? block "content-length" = some value ∧
      r.contentLength = Header.contentLength value
  /-- A positive length is honoured, whatever follows the body. -/
  positive : 0 < r.contentLength → r.BodyAsAnnounced ∧
    r.body = (b.drop (l ++ (Bytes.crlf ++ block)).length).take r.contentLength
  /-- With a length of zero, all that follows the header block is the body. -/
  zero : r.contentLength = 0 → r.body = b.drop (l ++ (Bytes.crlf ++ block)).length
  /-- So the body is as announced exactly if the length is positive, or nothing follows the header
  block. -/
  asAnnounced_iff : r.BodyAsAnnounced ↔ 0 < r.contentLength ∨ b = l ++ (Bytes.crlf ++ block)

variable {b l block rest : Bytes} {r : Request}

/-- The body of a request stands behind its header block. -/
theorem CutFrom.drop_eq (cut : CutFrom b l block rest r) :
    b.drop (l ++ (Bytes.crlf ++ block)).length = r.body ++ rest := by
  have pieces := cut.pieces
  rw [cut.headerBlock, ← List.append_assoc Bytes.crlf, ← List.append_assoc l] at pieces
  rw [pieces, List.drop_left]

/-- A request whose body is as long as announced has it behind the header block. -/
theorem CutFrom.bodyAsAnnounced (cut : CutFrom b l block rest r) (head : HasHead b l block)
    (length : r.body.length = r.contentLength) : r.BodyAsAnnounced := by
  refine ⟨length, l ++ (Bytes.crlf ++ block), rest, ?_, ?_⟩
  · rw [cut.bytes]
    exact head.blockEnd?
  · rw [cut.bytes, ← cut.drop_eq]
    exact (List.prefix_iff_eq_append.1 head.begins).symm

/-- **The number alone decides about the body.** No bytes are as long as the largest length. -/
theorem CutFrom.treatsAnnouncement (cut : CutFrom b l block rest r) (head : HasHead b l block)
    (small : b.length < maxLength) : TreatsAnnouncement b l block r := by
  have behind := cut.drop_eq
  have zero : r.contentLength = 0 → r.body = b.drop (l ++ (Bytes.crlf ++ block)).length := by
    intro none
    rw [behind, cut.unannounced none, List.append_nil]
  refine ⟨cut.bytes, cut.headerBlock, ?_, ?_, zero, ?_⟩
  · intro named
    obtain ⟨value, found⟩ := Header.exists_find?_iff.2 named
    refine ⟨value, found, ?_⟩
    rw [cut.contentLength, Header.announced, found]
    rfl
  · intro pos
    have length := cut.announced pos small
    refine ⟨cut.bodyAsAnnounced head length, ?_⟩
    rw [behind, ← length, List.take_left]
  · constructor
    · intro asAnnounced
      rcases Nat.eq_zero_or_pos r.contentLength with none | pos
      · have nothing : b.drop (l ++ (Bytes.crlf ++ block)).length = [] := by
          rw [← zero none]
          exact List.eq_nil_of_length_eq_zero (asAnnounced.length.trans none)
        have whole := List.prefix_iff_eq_append.1 head.begins
        rw [nothing, List.append_nil] at whole
        exact .inr whole.symm
      · exact .inl pos
    · rintro (pos | whole)
      · exact cut.bodyAsAnnounced head (cut.announced pos small)
      · rcases Nat.eq_zero_or_pos r.contentLength with none | pos
        · refine cut.bodyAsAnnounced head ?_
          rw [zero none, whole, List.drop_length, none]
          rfl
        · exact cut.bodyAsAnnounced head (cut.announced pos small)

/-- A request that is read is cut from its bytes. -/
theorem exists_cutFrom_of_ofBytes (read : ofBytes b = .ok r) :
    ∃ l block rest, HasHead b l block ∧ CutFrom b l block rest r := by
  have partitioned := partitioned b
  by_cases ended : Bytes.crlf ++ Bytes.crlf <:+: b
  · obtain ⟨l, block, head⟩ := partitioned.headed ended
    cases good : RequestLine.ofBytes l with
    | error reason =>
      rw [partitioned.badLine head good] at read
      cases read
    | ok line =>
      rcases Nat.lt_or_ge b.length (wholeLength l block) with short | all
      · rw [(partitioned.incomplete head good).2 short] at read
        cases read
      · obtain ⟨r', rest, read', cut⟩ := partitioned.request head good all
        cases read.symm.trans read'
        exact ⟨l, block, rest, head, cut⟩
  · rw [partitioned.unended ended] at read
    cases read

end Request

open Request

variable {σ : Type}

/-- A request that is received is read from the bytes that were handed over. -/
theorem Reader.ofBytes_of_progress {r : Reader σ} {b : ReceiveBuffer} {s : σ} {n : Nat}
    {request : Request} (received : (r.progress b s n).outcome = some (.ok (some request))) :
    ofBytes (r.progress b s n).consumed = .ok request := by
  have tallied := r.tallied_progress b s n
  rw [← tallied.filled]
  exact (ReceiveBuffer.ofBytes_of_demand_eq_complete (tallied.held request received)).2

/-- A request that was received from somewhere: what it is cut from was handed over, and an
announced body is what the stream brings right behind the header block. -/
structure Reader.HandsOver (r : Reader σ) (b : ReceiveBuffer) (s : σ) (n : Nat)
    (l block : Bytes) (request : Request) : Prop where
  head : HasHead (r.progress b s n).consumed l block
  body : TreatsAnnouncement (r.progress b s n).consumed l block request
  streamed : 0 < request.contentLength → ∀ {stream : σ → Nat → Option UInt8}, r.Streams stream →
    ∀ i < request.contentLength,
      stream s ((l ++ (Bytes.crlf ++ block)).length + i) = request.body[i]?

theorem Reader.exists_handsOver {r : Reader σ} {b : ReceiveBuffer} {s : σ} {n : Nat}
    {request : Request} (small : b.capacity < maxLength)
    (received : (r.progress b s n).outcome = some (.ok (some request))) :
    ∃ l block, r.HandsOver b s n l block request := by
  have fits : (r.progress b s n).consumed.length ≤ b.capacity := by
    rw [← (r.tallied_progress b s n).filled]
    exact r.length_filled_progress_le b s n
  obtain ⟨l, block, rest, head, cut⟩ := exists_cutFrom_of_ofBytes (ofBytes_of_progress received)
  have body := cut.treatsAnnouncement head (Nat.lt_of_le_of_lt fits small)
  refine ⟨l, block, head, body, fun pos stream streams i within => ?_⟩
  have length := cut.announced pos (Nat.lt_of_le_of_lt fits small)
  have behind := cut.drop_eq
  -- the byte of the stream is among those that were handed over
  have inside : (l ++ (Bytes.crlf ++ block)).length + i < (r.progress b s n).consumed.length := by
    have together := congrArg List.length behind
    simp only [List.length_drop, List.length_append] at together ⊢
    omega
  rw [ahead_progress streams b s n, ahead, if_pos inside, ← List.getElem?_drop, behind,
    List.getElem?_append_left (by omega)]

namespace Request

/-- **A length that is announced is honoured exactly if it is positive or nothing follows the header
block**, in a request that is read from bytes, that is received from any reader, and that is received
from a connection. -/
theorem treats_every_announcement {b : Bytes} {buffer : ReceiveBuffer} {r : Request}
    (small : b.length < maxLength) (room : buffer.capacity < maxLength) :
    (ofBytes b = .ok r → ∃ l block, HasHead b l block ∧ TreatsAnnouncement b l block r) ∧
    (∀ {σ : Type} {reader : Reader σ} {s : σ} {n : Nat},
      (reader.progress buffer s n).outcome = some (.ok (some r)) →
        ∃ l block, reader.HandsOver buffer s n l block r) ∧
    ∀ {c : Connection}, (Reception.receive buffer c).outcome = .ok (some r) →
      ∃ l block, HasHead r.bytes l block ∧ TreatsAnnouncement r.bytes l block r ∧
        (0 < r.contentLength → ∀ i < r.contentLength,
          c.unread[(l ++ (Bytes.crlf ++ block)).length + i]? = r.body[i]?) := by
  refine ⟨?_, Reader.exists_handsOver room, ?_⟩
  · intro read
    obtain ⟨l, block, rest, head, cut⟩ := exists_cutFrom_of_ofBytes read
    exact ⟨l, block, head, cut.treatsAnnouncement head small⟩
  · intro c received
    obtain ⟨n, rooms, outcome, -⟩ := Reception.runsInTurns buffer c
    rw [received] at outcome
    obtain ⟨l, block, head, body, streamed⟩ := Reader.exists_handsOver room outcome
    rw [← body.bytes] at head body
    exact ⟨l, block, head, body, fun pos => streamed pos Reader.streams_ofConnection⟩

/-- A body of two bytes in front of the next request, read as a whole and received in pieces of
which the second one ends the header block and begins the next request. -/
theorem treats_announcement_of_two :
    let head := Utf8.encode "PUT /a HTTP/1.1\r\ncontent-LENGTH:\t02x\r\n\r\n"
    let sent := head ++ Utf8.encode "okGET"
    let pieces : Connection := { arrivals := [.data (sent.take 30), .data (sent.drop 30)] }
    ∃ r r', ofBytes sent = .ok r ∧ (Reception.receive (.new 64) pieces).outcome = .ok (some r') ∧
      (∃ l block, HasHead sent l block ∧ TreatsAnnouncement sent l block r) ∧
        (∃ n l block, Reader.ofConnection.HandsOver (.new 64) pieces n l block r') ∧
          (∃ l block, HasHead r'.bytes l block ∧ TreatsAnnouncement r'.bytes l block r') ∧
            r.body = Utf8.encode "ok" ∧ r'.body = Utf8.encode "ok" := by
  intro head sent pieces
  have read : (ofBytes sent).map Request.body = .ok (Utf8.encode "ok") := by decide +kernel
  have received : (Reception.receive (.new 64) pieces).outcome.map (Option.map Request.body) =
      .ok (some (Utf8.encode "ok")) := by decide +kernel
  cases whole : ofBytes sent with
  | error e =>
    rw [whole] at read
    cases read
  | ok r =>
    rw [whole] at read
    obtain ⟨r', outcome, body⟩ := Reception.exists_request_of_map received
    obtain ⟨n, -, last, -⟩ := Reception.runsInTurns (.new 64) pieces
    rw [outcome] at last
    have small : sent.length < maxLength := by decide +kernel
    have room : (ReceiveBuffer.new 64).capacity < maxLength := by decide
    obtain ⟨ofWhole, -, -⟩ := treats_every_announcement small room
    obtain ⟨-, ofReader, ofConnection⟩ := treats_every_announcement small room
    obtain ⟨l, block, inPieces⟩ := ofReader last
    obtain ⟨l', block', head', treats', -⟩ := ofConnection outcome
    exact ⟨r, r', rfl, outcome, ofWhole whole, ⟨n, l, block, inPieces⟩, ⟨l', block', head', treats'⟩,
      Except.ok.inj read, body⟩

/-- A length of zero in front of the next request, which becomes the body. -/
theorem zero_length_takes_next_request :
    let next := Utf8.encode "GET /x HTTP/1.1\r\n\r\n"
    let sent := Utf8.encode "POST / HTTP/1.1\r\nContent-Length: 0\r\n\r\n" ++ next
    ∃ r, ofBytes sent = .ok r ∧
      (Reception.receive (.new 64) { arrivals := [.data sent] }).outcome = .ok (some r) ∧
        (∃ line ∈ Bytes.lines r.headerBlock, Header.IsNamed "content-length" line) ∧
          r.contentLength = 0 ∧ r.body = next ∧ ¬ r.BodyAsAnnounced := by
  intro next sent
  let r : Request := {
    bytes := sent
    line := ⟨.ofString "POST", .ofString "/", .empty, 1, 1⟩
    headerBlock := Utf8.encode "Content-Length: 0\r\n\r\n"
    body := next
    contentLength := 0 }
  have read : ofBytes sent = .ok r := by decide +kernel
  have received : (Reception.receive (.new 64) { arrivals := [.data sent] }).outcome =
      .ok (some r) := by decide +kernel
  have found : Header.find? r.headerBlock "content-length" = some [48] := by decide +kernel
  refine ⟨r, read, received, Header.exists_find?_iff.1 ⟨_, found⟩, rfl, rfl, ?_⟩
  intro asAnnounced
  exact absurd asAnnounced.length (by decide)

end Request

end DeviceHttp
