import DeviceHttp.Proofs.Agreement
import DeviceHttp.Proofs.Octets
import DeviceHttp.Proofs.Pieces
import DeviceHttp.Proofs.WrittenLine

/-!
# The request line that was sent

A request holds copies of what its first line names, and a copy may be cut. Routing and lookups work
on the copies, but what they ought to mean is a matter of the line itself. `SentLine` is what a line
names at its full length, and `SentLine.ofBytes?` finds it in the bytes of a request.

`Request.ReadFrom` says that a request came from given bytes, in either of the two ways in which a
request can arrive. Such a request holds copies of the line that was sent and of nothing else
(`SentLine.exists_isCopiedTo`).
-/

namespace DeviceHttp

/-- What a request line names, at its full length. -/
structure SentLine where
  method : String
  path : String
  query : String
deriving DecidableEq

/-- The request holds what was read from the bytes, or was received as these bytes. -/
inductive Request.ReadFrom (d : Bytes) (r : Request) : Prop where
  | whole : Request.ofBytes d = .ok r → ReadFrom d r
  | received {b : ReceiveBuffer} {c : Connection} :
      (Reception.receive b c).outcome = .ok (some r) → r.bytes = d → ReadFrom d r

/-- However a request arrived, its bytes read as it. -/
theorem Request.ReadFrom.ofBytes {d : Bytes} {r : Request} (h : r.ReadFrom d) :
    Request.ofBytes d = .ok r := by
  cases h with
  | whole read => exact read
  | received received bytes => exact bytes ▸ (Reception.complete_of_receive received).reads

namespace SentLine

/-- What a line names: the first token is the method, and the second one is the URI. -/
def ofChars? (cs : List Char) : Option SentLine :=
  match RequestLine.tokens cs with
  | method :: uri :: _ =>
    let (path, query) := RequestLine.pathAndQuery uri
    some ⟨String.ofList method, String.ofList path, String.ofList query⟩
  | _ => none

/-- What the first line of some bytes names. -/
def ofBytes? (d : Bytes) : Option SentLine := do
  let lineEnd ← Bytes.indexOf? Bytes.crlf d
  ofChars? (← Utf8.decode? (d.take lineEnd)).toList

/-- The fields of a request line are copies of what was sent. -/
structure IsCopiedTo (sent : SentLine) (line : RequestLine) : Prop where
  method : line.method = .ofString sent.method
  path : line.path = .ofString sent.path
  query : line.query = .ofString sent.query

variable {line : RequestLine}

theorem isCopiedTo_of_ofChars {cs : List Char} (h : RequestLine.ofChars cs = .ok line) :
    ∃ sent, ofChars? cs = some sent ∧ sent.IsCopiedTo line := by
  rw [RequestLine.ofChars] at h
  split at h
  next method uri version _ tokens =>
    split at h
    next => cases h
    next major minor _ =>
      cases h
      rw [ofChars?, tokens]
      exact ⟨_, rfl, rfl, rfl, rfl⟩
  next => cases h

theorem isCopiedTo_of_ofBytes {d : Bytes} {lineEnd : Nat}
    (ended : Bytes.indexOf? Bytes.crlf d = some lineEnd)
    (h : RequestLine.ofBytes (d.take lineEnd) = .ok line) :
    ∃ sent, ofBytes? d = some sent ∧ sent.IsCopiedTo line := by
  rw [RequestLine.ofBytes] at h
  split at h
  next => cases h
  next text decoded =>
    obtain ⟨sent, named, copied⟩ := isCopiedTo_of_ofChars h
    refine ⟨sent, ?_, copied⟩
    simp only [ofBytes?, ended, decoded, Option.bind_eq_bind, Option.bind_some]
    exact named

/-- The line that a head is read with is the first line of all the bytes. -/
theorem isCopiedTo_of_read {d : Bytes} {headerEnd : Nat} {head : Head}
    (h : Head.read d headerEnd = .ok head) :
    ∃ sent, ofBytes? d = some sent ∧ sent.IsCopiedTo head.line := by
  rw [Head.read] at h
  split at h
  next => cases h
  next lineEnd ended =>
    have inside := Bytes.add_length_le_of_indexOf? ended
    have stable := Bytes.indexOf?_append ended (d.drop headerEnd)
    rw [List.take_append_drop] at stable
    have same : (d.take headerEnd).take lineEnd = d.take lineEnd := by
      rw [List.length_take] at inside
      rw [List.take_take, Nat.min_eq_left (by omega)]
    rw [same] at h
    cases line : RequestLine.ofBytes (d.take lineEnd) with
    | error reason =>
      rw [line] at h
      cases h
    | ok line' =>
      rw [line] at h
      cases h
      exact isCopiedTo_of_ofBytes stable line

/-- **A request holds copies of the line that was sent.** -/
theorem exists_isCopiedTo {d : Bytes} {r : Request} (h : r.ReadFrom d) :
    ∃ sent, ofBytes? d = some sent ∧ sent.IsCopiedTo r.line := by
  have judged := Request.judges_ofBytes d
  rw [h.ofBytes] at judged
  cases judged with
  | complete _ read _ => exact isCopiedTo_of_read read

theorem isCopiedTo {d : Bytes} {r : Request} {sent : SentLine} (h : r.ReadFrom d)
    (named : ofBytes? d = some sent) : sent.IsCopiedTo r.line := by
  obtain ⟨sent', named', copied⟩ := exists_isCopiedTo h
  rw [named] at named'
  cases named'
  exact copied

/-! ## Lines that can be sent -/

/-- What can stand between the separators of a first line: no space, and no line ending. A carriage
return or a line feed alone ends no line. -/
structure IsPart (cs : List Char) : Prop where
  unspaced : ' ' ∉ cs
  unended : ¬ Bytes.crlf <:+: Utf8.encodeChars cs

theorem IsPart.mono {cs part : List Char} (h : IsPart cs) (inside : part <:+: cs) :
    IsPart part where
  unspaced mem := h.unspaced (inside.subset mem)
  unended ends := h.unended (ends.trans (Utf8.infix_encodeChars inside))

/-- Without a carriage return there is no line ending. -/
theorem IsPart.of_notMem {cs : List Char} (unspaced : ' ' ∉ cs) (unreturned : '\r' ∉ cs) :
    IsPart cs where
  unspaced := unspaced
  unended ends := absurd (ends.subset List.mem_cons_self) (Utf8.notMem_encodeChars unreturned)

/-- The lines that a peer can send. -/
structure Sendable (sent : SentLine) : Prop where
  method_ne_nil : sent.method.toList ≠ []
  method : IsPart sent.method.toList
  path : IsPart sent.path.toList
  /-- The path ends at the first question mark. -/
  path_plain : '?' ∉ sent.path.toList
  query : IsPart sent.query.toList

variable {sent : SentLine} {d : Bytes}

theorem isPart_of_mem_tokens {cs token : List Char}
    (unended : ¬ Bytes.crlf <:+: Utf8.encodeChars cs) (mem : token ∈ RequestLine.tokens cs) :
    token ≠ [] ∧ IsPart token := by
  obtain ⟨segment, nonempty⟩ := List.mem_filter.1 mem
  have ne_nil : token ≠ [] := by
    rintro rfl
    cases nonempty
  refine ⟨ne_nil, fun space => ?_, fun ends => ?_⟩
  · have := unmarked_of_mem_segments segment ' ' space
    cases this
  · exact unended (ends.trans (Utf8.infix_encodeChars (infix_of_mem_segments segment)))

/-- Path and query are parts of the URI, and the path holds no question mark. -/
theorem infix_pathAndQuery (uri : List Char) :
    (RequestLine.pathAndQuery uri).1 <:+: uri ∧ '?' ∉ (RequestLine.pathAndQuery uri).1 ∧
      (RequestLine.pathAndQuery uri).2 <:+: uri := by
  rw [RequestLine.pathAndQuery]
  cases cut : cut? (· == '?') uri with
  | none =>
    refine ⟨List.infix_refl uri, fun mark => ?_, List.nil_infix⟩
    have := cut?_eq_none_iff.1 cut '?' mark
    cases this
  | some pieces =>
    obtain ⟨path, query⟩ := pieces
    obtain ⟨m, rfl, -, plain⟩ := cut?_eq_some_iff.1 cut
    refine ⟨(List.prefix_append _ _).isInfix, fun mark => ?_, ?_⟩
    · have := plain '?' mark
      cases this
    · exact ((List.suffix_cons m query).trans (List.suffix_append path _)).isInfix

/-- What a first line names can be sent. -/
theorem sendable_of_ofBytes? (named : ofBytes? d = some sent) : sent.Sendable := by
  rw [ofBytes?] at named
  obtain ⟨lineEnd, ended, named⟩ := Option.bind_eq_some_iff.1 named
  obtain ⟨text, decoded, named⟩ := Option.bind_eq_some_iff.1 named
  have unended : ¬ Bytes.crlf <:+: Utf8.encodeChars text.toList := by
    have := Bytes.not_infix_take_of_indexOf? ended
    rwa [Utf8.decode?_eq_some_iff.1 decoded] at this
  rw [ofChars?] at named
  split at named
  next method uri _ tokens =>
    have inMethod := isPart_of_mem_tokens unended (tokens ▸ List.mem_cons_self)
    have inUri := isPart_of_mem_tokens unended
      (tokens ▸ List.mem_cons_of_mem method List.mem_cons_self)
    obtain ⟨path, plain, query⟩ := infix_pathAndQuery uri
    cases named
    constructor <;> simp only [String.toList_ofList]
    · exact inMethod.1
    · exact inMethod.2
    · exact inUri.2.mono path
    · exact plain
    · exact inUri.2.mono query
  next => cases named

/-- The line as it is sent, in version 1.1. The query is there even if it is empty. -/
def chars (sent : SentLine) : List Char :=
  sent.method.toList ++ ' ' :: (sent.path.toList ++ '?' :: sent.query.toList) ++
    ' ' :: "HTTP/1.1".toList

/-- The line as a request without header fields. -/
def bytes (sent : SentLine) : Bytes :=
  Utf8.encodeChars sent.chars ++ (Bytes.crlf ++ Bytes.crlf)

namespace Sendable

theorem tokens_chars (h : sent.Sendable) : RequestLine.tokens sent.chars =
    [sent.method.toList, sent.path.toList ++ '?' :: sent.query.toList, "HTTP/1.1".toList] := by
  have inUri : ' ' ∉ sent.path.toList ++ '?' :: sent.query.toList := by
    simp [h.path.unspaced, h.query.unspaced]
  rw [chars, List.append_assoc, List.cons_append]
  exact RequestLine.tokens_of_parts h.method_ne_nil
    (List.append_ne_nil_of_right_ne_nil _ (List.cons_ne_nil _ _)) (by decide) h.method.unspaced
    inUri (by decide)

theorem pathAndQuery_chars (h : sent.Sendable) :
    RequestLine.pathAndQuery (sent.path.toList ++ '?' :: sent.query.toList) =
      (sent.path.toList, sent.query.toList) := by
  rw [RequestLine.pathAndQuery, cut?_append_cons (unmarked_of_notMem h.path_plain) rfl]
  rfl

theorem ofChars?_chars (h : sent.Sendable) : ofChars? sent.chars = some sent := by
  rw [ofChars?, h.tokens_chars]
  simp only [h.pathAndQuery_chars, String.ofList_toList]

theorem exists_ofChars (h : sent.Sendable) :
    ∃ line, RequestLine.ofChars sent.chars = .ok line := by
  have version : RequestLine.version? "HTTP/1.1".toList = some (1, 1) := by decide
  rw [RequestLine.ofChars, h.tokens_chars]
  simp only [version]
  exact ⟨_, rfl⟩

/-- The separators are no part of a line ending, so none is made by putting the line together. -/
theorem unended_chars (h : sent.Sendable) :
    ¬ Bytes.crlf <:+: Utf8.encodeChars sent.chars := by
  have octets : Utf8.encodeChars sent.chars = Utf8.encodeChars sent.method.toList ++
      32 :: (Utf8.encodeChars sent.path.toList ++ 63 :: (Utf8.encodeChars sent.query.toList ++
        32 :: Utf8.encodeChars "HTTP/1.1".toList)) := by
    simp only [chars, Utf8.encodeChars_append, Utf8.encodeChars_cons, List.append_assoc,
      List.cons_append]
    rfl
  rw [octets]
  intro ends
  rcases infix_of_infix_append_cons ends (by decide) with ends | ends
  · exact h.method.unended ends
  rcases infix_of_infix_append_cons ends (by decide) with ends | ends
  · exact h.path.unended ends
  rcases infix_of_infix_append_cons ends (by decide) with ends | ends
  · exact h.query.unended ends
  · have absent : '\r' ∉ "HTTP/1.1".toList := by decide
    exact absurd (ends.subset List.mem_cons_self) (Utf8.notMem_encodeChars absent)

theorem indexOf?_crlf_bytes (h : sent.Sendable) :
    Bytes.indexOf? Bytes.crlf sent.bytes = some (Utf8.encodeChars sent.chars).length :=
  Bytes.indexOf?_append_needle (by decide) h.unended_chars Bytes.crlf

theorem take_bytes : sent.bytes.take (Utf8.encodeChars sent.chars).length =
    Utf8.encodeChars sent.chars := List.take_left

theorem decode?_take_bytes (sent : SentLine) :
    Utf8.decode? (sent.bytes.take (Utf8.encodeChars sent.chars).length) =
      some (String.ofList sent.chars) := by
  rw [take_bytes, Utf8.decode?_eq_some_iff, Utf8.encode, String.toList_ofList]

/-- The line that is sent is the one that its bytes name. -/
theorem ofBytes?_bytes (h : sent.Sendable) : ofBytes? sent.bytes = some sent := by
  simp only [ofBytes?, h.indexOf?_crlf_bytes, decode?_take_bytes, Option.bind_eq_bind,
    Option.bind_some, String.toList_ofList]
  exact h.ofChars?_chars

theorem blockEnd?_bytes (h : sent.Sendable) :
    Header.blockEnd? sent.bytes = some sent.bytes.length := by
  have stands : startsWith (Bytes.crlf ++ Bytes.crlf)
      (sent.bytes.drop (Utf8.encodeChars sent.chars).length) = true := by
    rw [bytes, List.drop_left]
    rfl
  have found := Bytes.indexOf?_extend h.indexOf?_crlf_bytes stands
  rw [Header.blockEnd?]
  show (Bytes.indexOf? (Bytes.crlf ++ Bytes.crlf) _).map _ = _
  rw [found, bytes, List.length_append]
  rfl

theorem exists_read_bytes (h : sent.Sendable) :
    ∃ head, Head.read sent.bytes sent.bytes.length = .ok head ∧ head.contentLength = 0 := by
  obtain ⟨line, read⟩ := h.exists_ofChars
  have reads : RequestLine.ofBytes (sent.bytes.take (Utf8.encodeChars sent.chars).length) =
      .ok line := by
    rw [RequestLine.ofBytes, decode?_take_bytes]
    show RequestLine.ofChars (String.ofList sent.chars).toList = _
    rw [String.toList_ofList, read]
  have block : sent.bytes.drop ((Utf8.encodeChars sent.chars).length + 2) = Bytes.crlf := by
    rw [bytes, List.drop_length_add_append]
    rfl
  rw [Head.read, List.take_length]
  simp only [h.indexOf?_crlf_bytes, reads, block]
  exact ⟨_, rfl, rfl⟩

/-- **Every line that can be sent is the line of some request.** -/
theorem exists_readFrom (h : sent.Sendable) :
    ∃ r : Request, r.ReadFrom sent.bytes ∧ ofBytes? sent.bytes = some sent := by
  obtain ⟨head, read, announced⟩ := h.exists_read_bytes
  have complete : head.requestLength ≤ sent.bytes.length := by
    rw [Head.requestLength, announced, Head.headerEnd_read read, Nat.add_zero]
    exact Nat.min_le_left _ _
  exact ⟨_, .whole (Request.ofBytes_of_complete h.blockEnd?_bytes read complete),
    h.ofBytes?_bytes⟩

end Sendable

end SentLine

end DeviceHttp
