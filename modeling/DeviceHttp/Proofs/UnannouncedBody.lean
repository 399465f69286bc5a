import DeviceHttp.Proofs.Agreement

/-!
# Bodies without an announced length

A request that announces no length for its body, or announces a length of zero, is complete as soon
as its header block has ended. What has arrived behind the header block by then is handed to the
handler as the body. How much that is depends on the pieces in which the bytes arrive: it is the
rest of the piece that brings the end of the header block, as far as the buffer holds it.

## Main statements

* `Reception.outcome_receive_of_unannounced` — the request that is received, for every buffer and
  all pieces
* `Reception.bodyAsCut_of_unannounced` — which bodies the same bytes can have. It is any beginning
  of what follows the header block, as long as it fits, and so the pieces show unless nothing
  follows or nothing fits

For a request that announces a length, `Reception.announced_receive_eq_of_delivers` says that the
pieces do not show.

## How

A read asks for as much as fits until the header block has ended, so it takes whole pieces.
`Arrival.upTo` collects them up to the one that brings a given byte. The induction is on the reads
that are made, with the pieces that are still to come in the place of the bytes.
-/

namespace DeviceHttp

/-! ## Pieces -/

namespace Arrival

/-- The bytes of the pieces up to the one that brings the `n`-th byte. Only interruptions may stand
between them. -/
def upTo : Nat → List Arrival → Bytes
  | n, data bytes :: rest =>
    if n ≤ bytes.length then bytes else bytes ++ upTo (n - bytes.length) rest
  | n, fault .interrupted :: rest => upTo n rest
  | _, _ => []

variable {n room : Nat} {arrivals : List Arrival} {bytes : Bytes}

/-- A read that has room for the `n`-th byte and brings it takes the piece that holds it, as far as
there is room. -/
theorem take_upTo_of_next (fits : n ≤ room) (answer : (next room arrivals).1 = .ok bytes)
    (ne_nil : bytes ≠ []) (brought : n ≤ bytes.length) : (upTo n arrivals).take room = bytes := by
  match arrivals with
  | [] | close :: _ =>
    cases answer
    exact absurd rfl ne_nil
  | fault _ :: _ => cases answer
  | data piece :: rest =>
    rw [next] at answer
    split at answer
    next whole =>
      cases answer
      rw [upTo, if_pos brought, List.take_of_length_le whole]
    next cut =>
      cases answer
      rw [upTo, if_pos (by omega)]

/-- A read that does not reach the `n`-th byte takes a whole piece. -/
theorem upTo_of_next (fits : n ≤ room) (answer : (next room arrivals).1 = .ok bytes)
    (ne_nil : bytes ≠ []) (short : bytes.length < n) :
    upTo n arrivals = bytes ++ upTo (n - bytes.length) (next room arrivals).2 := by
  match arrivals with
  | [] | close :: _ =>
    cases answer
    exact absurd rfl ne_nil
  | fault _ :: _ => cases answer
  | data piece :: rest =>
    rw [next] at answer ⊢
    split at answer
    next whole =>
      cases answer
      rw [upTo, if_neg (by omega), if_pos whole]
    next cut =>
      -- the read would have taken all the room, and there is enough of it
      cases answer
      rw [List.length_take] at short
      omega

/-- A read that is interrupted takes nothing. -/
theorem upTo_of_interruption (answer : (next room arrivals).1 = .error .interrupted) :
    upTo n arrivals = upTo n (next room arrivals).2 := by
  match arrivals with
  | [] | close :: _ => cases answer
  | fault _ :: _ =>
    cases answer
    rfl
  | data piece :: rest =>
    rw [next] at answer
    split at answer <;> cases answer

/-- Pieces bring the bytes from the first one on. -/
theorem upTo_prefix {cutoff : Cutoff} {d : Bytes} (delivers : Delivers cutoff d arrivals)
    (n : Nat) : upTo n arrivals <+: d := by
  induction delivers generalizing n with
  | usedUp => exact List.prefix_refl []
  | cutoff cutoff rest =>
    have none : upTo n (cutoff.arrival :: rest) = [] := by
      cases cutoff with
      | close => rfl
      | fault kind lasting => cases kind <;> first | rfl | exact absurd rfl lasting
    simp only [none, List.nil_prefix]
  | interruption _ ih => exact ih n
  | @piece _ bytes d arrivals _ _ ih =>
    rw [upTo]
    split
    · exact List.prefix_append bytes d
    · exact (List.prefix_append_right_inj bytes).2 (ih _)

end Arrival

/-! ## Heads that announce no body -/

/-- The header block ends behind `i` bytes, and its head announces no body: there is no length, or
one that reads as zero. -/
structure Unannounced (d : Bytes) (i : Nat) : Prop where
  ended : Header.blockEnd? d = some i
  silent : (Head.read d i).map Head.contentLength = .ok 0

instance (d : Bytes) (i : Nat) : Decidable (Unannounced d i) :=
  decidable_of_iff
    (Header.blockEnd? d = some i ∧ (Head.read d i).map Head.contentLength = .ok 0)
    ⟨fun ⟨ended, silent⟩ => ⟨ended, silent⟩, fun ⟨ended, silent⟩ => ⟨ended, silent⟩⟩

theorem Unannounced.exists_head {d : Bytes} {i : Nat} (unannounced : Unannounced d i) :
    ∃ head, Head.read d i = .ok head ∧ head.contentLength = 0 := by
  have silent := unannounced.silent
  cases read : Head.read d i with
  | error e =>
    rw [read] at silent
    cases silent
  | ok head =>
    rw [read] at silent
    exact ⟨head, rfl, Except.ok.inj silent⟩

/-- The end of a header block is found without the bytes behind it. -/
theorem Header.blockEnd?_of_append {b c : Bytes} {i : Nat}
    (h : Header.blockEnd? (b ++ c) = some i) (within : i ≤ b.length) :
    Header.blockEnd? b = some i := by
  obtain ⟨j, found, rfl⟩ := Option.map_eq_some_iff.1 h
  rw [Header.blockEnd?, Bytes.indexOf?_of_append found within]
  rfl

theorem Head.requestLength_of_unannounced {d : Bytes} {i : Nat} {head : Head}
    (good : Head.read d i = .ok head) (silent : head.contentLength = 0) :
    head.requestLength ≤ i := by
  rw [Head.requestLength, Head.headerEnd_read good, silent]
  omega

theorem Request.body_ofHead_of_unannounced {d : Bytes} {i : Nat} {head : Head}
    (good : Head.read d i = .ok head) (silent : head.contentLength = 0) (b : Bytes) :
    (Request.ofHead b head).body = b.drop i := by
  have none : ¬ 0 < head.contentLength := by omega
  rw [Request.ofHead, Head.headerEnd_read good, if_neg none]

namespace ReceiveBuffer

variable {b : ReceiveBuffer} {d : Bytes} {i : Nat} {head : Head}

/-- Before the header block has ended, anything that fits is wanted. -/
theorem demand_of_early (ended : Header.blockEnd? (b.filled ++ d) = some i) (fits : i ≤ b.capacity)
    (early : b.filled.length < i) : b.demand = .wants b.room := by
  have unended : Header.blockEnd? b.filled = none := by
    cases found : Header.blockEnd? b.filled with
    | none => rfl
    | some j =>
      have within := Header.blockEnd?_le found
      have same := (Header.blockEnd?_append found d).symm.trans ended
      cases same
      omega
  exact Demands.eq_demand (.unended unended (decide_eq_false (by omega)))

/-- Once the header block has ended, a request without an announced body is complete. -/
theorem demand_of_unannounced (ended : Header.blockEnd? (b.filled ++ d) = some i)
    (good : Head.read (b.filled ++ d) i = .ok head) (silent : head.contentLength = 0)
    (reached : i ≤ b.filled.length) : b.demand = .complete (Request.ofHead b.filled head) := by
  have ended' := Header.blockEnd?_of_append ended reached
  rw [Head.read_append reached] at good
  exact Demands.eq_demand
    (.complete ended' good (Nat.le_trans (Head.requestLength_of_unannounced good silent) reached))

/-! What the buffer holds after a read that asked for all that fits, with the pieces up to the `i`-th
byte in the place of those that were read. -/

section Pieces

variable {arrivals : List Arrival} {bytes : Bytes}

theorem filled_append_of_reached (answer : (Arrival.next b.room arrivals).1 = .ok bytes)
    (ne_nil : bytes ≠ []) (fits : i ≤ b.capacity)
    (reached : i ≤ (b.append bytes).filled.length) :
    (b.append bytes).filled = (b.append (Arrival.upTo (i - b.filled.length) arrivals)).filled := by
  have enough : i - b.filled.length ≤ b.room := by
    rw [room]
    omega
  have length : bytes.length ≤ b.room :=
    Connection.length_read_le (c := { arrivals }) answer
  have brought : i - b.filled.length ≤ bytes.length := by
    rw [filled_append length, List.length_append] at reached
    omega
  rw [filled_append length, ← Arrival.take_upTo_of_next enough answer ne_nil brought]
  rfl

theorem append_append_of_later (answer : (Arrival.next b.room arrivals).1 = .ok bytes)
    (ne_nil : bytes ≠ []) (fits : i ≤ b.capacity)
    (later : (b.append bytes).filled.length < i) :
    (b.append bytes).append (Arrival.upTo (i - (b.append bytes).filled.length)
        (Arrival.next b.room arrivals).2) =
      b.append (Arrival.upTo (i - b.filled.length) arrivals) := by
  have enough : i - b.filled.length ≤ b.room := by
    rw [room]
    omega
  have length : bytes.length ≤ b.room :=
    Connection.length_read_le (c := { arrivals }) answer
  rw [filled_append length, List.length_append] at later ⊢
  have short : bytes.length < i - b.filled.length := by omega
  rw [append_append, Arrival.upTo_of_next enough answer ne_nil short, Nat.sub_add_eq]

end Pieces

end ReceiveBuffer

namespace Reception

variable {b : ReceiveBuffer} {c : Connection} {d : Bytes} {i : Nat} {head : Head}

/-- **A request without an announced body is complete with the piece that ends its header block.**
The induction is on the reads that are made. Each moves bytes from the pieces into the buffer, and
the buffer with the pieces that are wanted stays the same. -/
theorem outcome_resume_of_unannounced (delivers : Delivers .close d c.arrivals)
    (ended : Header.blockEnd? (b.filled ++ d) = some i)
    (good : Head.read (b.filled ++ d) i = .ok head) (silent : head.contentLength = 0)
    (fits : i ≤ b.capacity) (early : b.filled.length < i) :
    (resume b c).outcome =
      .ok (some (Request.ofHead
        (b.append (Arrival.upTo (i - b.filled.length) c.arrivals)).filled head)) := by
  have wants := ReceiveBuffer.demand_of_early ended fits early
  induction b, c using resume.induct generalizing d with
  | case1 b c request h | case2 b c reason h =>
    rw [wants] at h
    cases h
  | case3 b c room h answer =>
    -- The peer would have closed its side before the end of the header block.
    have meets := delivers.readMeets (ReceiveBuffer.pos_of_demand_eq_wants h)
    rw [answer] at meets
    cases meets with
    | close _ _ nothing =>
      rw [nothing, List.append_nil] at ended
      have := Header.blockEnd?_le ended
      omega
    | piece ne_nil => exact absurd rfl ne_nil
  | case4 b c room h bytes answer ne_nil ih =>
    obtain rfl : room = b.room := by
      rw [wants] at h
      exact (ReceiveBuffer.Demand.wants.inj h).symm
    have kept := ReceiveBuffer.filled_append (Connection.length_read_le answer)
    have meets := delivers.readMeets (ReceiveBuffer.pos_of_demand_eq_wants h)
    rw [answer] at meets
    cases meets with
    | close => exact absurd rfl ne_nil
    | @piece _ left _ _ split delivers =>
      have same : b.filled ++ d = (b.append bytes).filled ++ left := by
        rw [kept, split, List.append_assoc]
      rw [same] at ended good
      rw [resume_of_piece h answer ne_nil]
      by_cases reached : i ≤ (b.append bytes).filled.length
      · rw [resume_of_complete (ReceiveBuffer.demand_of_unannounced ended good silent reached),
          ReceiveBuffer.filled_append_of_reached answer ne_nil fits reached]
      · have later : (b.append bytes).filled.length < i := Nat.lt_of_not_le reached
        have whole := ReceiveBuffer.append_append_of_later answer ne_nil fits later
        rw [ih delivers ended good fits later (ReceiveBuffer.demand_of_early ended fits later),
          ← whole]
        rfl
  | case5 b c room h answer ih =>
    have meets := delivers.readMeets (ReceiveBuffer.pos_of_demand_eq_wants h)
    rw [answer] at meets
    cases meets with
    | fault _ lasting => exact absurd rfl lasting
    | interruption delivers =>
      rw [resume_of_interruption h answer, ih delivers ended good fits early wants,
        Arrival.upTo_of_interruption answer]
      rfl
  | case6 b c room h kind answer lasting =>
    have meets := delivers.readMeets (ReceiveBuffer.pos_of_demand_eq_wants h)
    rw [answer] at meets
    cases meets with
    | interruption => exact absurd rfl lasting
    | fault _ _ _ broken => cases broken

/-- The request that is received, for every buffer that can hold its head. -/
theorem outcome_receive_of_unannounced (unannounced : Unannounced d i)
    (delivers : Delivers .close d c.arrivals) (fits : i ≤ b.capacity) :
    ∃ request, (receive b c).outcome = .ok (some request) ∧
      request.body = ((Arrival.upTo i c.arrivals).take b.capacity).drop i := by
  obtain ⟨head, good, silent⟩ := unannounced.exists_head
  have ended := unannounced.ended
  have pos : 0 < i := by
    obtain ⟨j, -, rfl⟩ := Option.map_eq_some_iff.1 ended
    omega
  have outcome := outcome_resume_of_unannounced (b := b.reset) delivers ended good silent fits pos
  exact ⟨_, outcome, Request.body_ofHead_of_unannounced good silent _⟩

/-- A head that the buffer cannot hold is refused. -/
theorem outcome_receive_of_capacity_lt (unannounced : Unannounced d i)
    (delivers : Delivers .close d c.arrivals) (exceeds : b.capacity < i) :
    (receive b c).outcome = .error .headTooLarge := by
  have within := Header.blockEnd?_le unannounced.ended
  have filled : (b.reset.append d).filled = d.take b.capacity := rfl
  have unended : Header.blockEnd? (d.take b.capacity) = none := by
    cases found : Header.blockEnd? (d.take b.capacity) with
    | none => rfl
    | some j =>
      have later := Header.blockEnd?_append found (d.drop b.capacity)
      have below := Header.blockEnd?_le found
      rw [List.take_append_drop, unannounced.ended] at later
      cases later
      rw [List.length_take] at below
      omega
  have full : (b.reset.append d).isFull = true := by
    have length : (d.take b.capacity).length = b.capacity := List.length_take_of_le (by omega)
    exact decide_eq_true length
  have refused : (receive b c).announced = .error .headTooLarge := by
    rw [receive, announced_resume delivers,
      ReceiveBuffer.conclude_of_refused (.unendedFull (filled ▸ unended) full)]
    rfl
  rw [announced] at refused
  cases outcome : (receive b c).outcome with
  | error e =>
    rw [outcome] at refused
    exact congrArg Except.error (Except.error.inj refused)
  | ok received =>
    rw [outcome] at refused
    cases refused

/-! ## What the pieces show -/

/-- The peer sends the first `n` bytes in one piece and the others in another one. -/
def cutAt (n : Nat) (d : Bytes) : Connection where
  arrivals := .data (d.take n) :: if d.drop n = [] then [] else [.data (d.drop n)]

theorem delivers_cutAt {n : Nat} (nonempty : d.take n ≠ []) :
    Delivers .close d (cutAt n d).arrivals := by
  have delivers : Delivers .close (d.take n ++ d.drop n) (cutAt n d).arrivals := by
    rw [cutAt]
    split
    next none =>
      rw [none]
      exact .piece nonempty .usedUp
    next some =>
      have last := Delivers.piece some (Delivers.usedUp)
      rw [List.append_nil] at last
      exact .piece nonempty last
  rwa [List.take_append_drop] at delivers

/-- Whatever the pieces are in which a peer sends some bytes before it closes its side, the requests
that are received have the same body. -/
def PiecesDoNotShow (capacity : Nat) (d : Bytes) : Prop :=
  ∀ {b b' : ReceiveBuffer} {c c' : Connection} {request request' : Request},
    b.capacity = capacity → b'.capacity = capacity →
      Delivers .close d c.arrivals → Delivers .close d c'.arrivals →
        (receive b c).outcome = .ok (some request) →
          (receive b' c').outcome = .ok (some request') → request.body = request'.body

/-- What becomes of bytes whose header block ends behind `i` of them and announces no body. -/
structure BodyAsCut (capacity : Nat) (d : Bytes) (i : Nat) : Prop where
  /-- The body is the rest of the piece that ends the header block, as far as it fits. -/
  received : i ≤ capacity → ∀ {b : ReceiveBuffer} {c : Connection}, b.capacity = capacity →
    Delivers .close d c.arrivals → ∃ request, (receive b c).outcome = .ok (some request) ∧
      request.body = ((Arrival.upTo i c.arrivals).take capacity).drop i
  refused : capacity < i → ∀ {b : ReceiveBuffer} {c : Connection}, b.capacity = capacity →
    Delivers .close d c.arrivals → (receive b c).outcome = .error .headTooLarge
  /-- Every beginning of what follows the header block is the body for some pieces, if it fits. -/
  beginnings : ∀ body, body <+: d.drop i → i + body.length ≤ capacity →
    ∃ (c : Connection) (request : Request), Delivers .close d c.arrivals ∧
      (receive (.new capacity) c).outcome = .ok (some request) ∧ request.body = body
  piecesDoNotShow_iff : PiecesDoNotShow capacity d ↔ d.length = i ∨ capacity ≤ i

theorem exists_request_of_map {outcome : Except Error (Option Request)} {body : Bytes}
    (known : outcome.map (Option.map Request.body) = .ok (some body)) :
    ∃ request, outcome = .ok (some request) ∧ request.body = body := by
  cases outcome with
  | error e => cases known
  | ok received =>
    obtain ⟨request, rfl, same⟩ := Option.map_eq_some_iff.1 (Except.ok.inj known)
    exact ⟨request, rfl, same⟩

theorem exists_body_of_prefix (unannounced : Unannounced d i) {capacity : Nat} {body : Bytes}
    (beginning : body <+: d.drop i) (fits : i + body.length ≤ capacity) :
    ∃ (c : Connection) (request : Request), Delivers .close d c.arrivals ∧
      (receive (.new capacity) c).outcome = .ok (some request) ∧ request.body = body := by
  -- The first piece is cut behind the wanted body.
  have within := Header.blockEnd?_le unannounced.ended
  obtain ⟨rest, split⟩ := beginning
  have whole : d = (d.take i ++ body) ++ rest := by
    rw [List.append_assoc, split, List.take_append_drop]
  have length : (d.take i ++ body).length = i + body.length := by
    rw [List.length_append, List.length_take_of_le within]
  have first : d.take (i + body.length) = d.take i ++ body :=
    calc
      d.take (i + body.length) = (d.take i ++ body ++ rest).take (i + body.length) :=
        congrArg _ whole
      _ = d.take i ++ body := List.take_left' length
  have pos : 0 < i := by
    obtain ⟨j, -, rfl⟩ := Option.map_eq_some_iff.1 unannounced.ended
    omega
  have nonempty : d.take (i + body.length) ≠ [] := by
    rw [first]
    exact List.length_pos_iff.1 (by omega)
  have delivers := delivers_cutAt nonempty
  obtain ⟨request, outcome, same⟩ := outcome_receive_of_unannounced (b := .new capacity)
    unannounced delivers (show i ≤ capacity by omega)
  refine ⟨_, request, delivers, outcome, same.trans ?_⟩
  have upTo : Arrival.upTo i (cutAt (i + body.length) d).arrivals = d.take i ++ body := by
    rw [cutAt, Arrival.upTo, first, if_pos (by omega)]
  have all : (d.take i ++ body).take capacity = d.take i ++ body :=
    List.take_of_length_le (by omega)
  rw [upTo]
  show ((d.take i ++ body).take capacity).drop i = body
  rw [all, List.drop_left' (List.length_take_of_le within)]

/-- Where nothing follows the header block, or nothing more fits, there is no body to differ. -/
theorem piecesDoNotShow_of_nothing (unannounced : Unannounced d i) {capacity : Nat}
    (nothing : d.length = i ∨ capacity ≤ i) : PiecesDoNotShow capacity d := by
  have empty : ∀ {b : ReceiveBuffer} {c : Connection} {request : Request}, b.capacity = capacity →
      Delivers .close d c.arrivals → (receive b c).outcome = .ok (some request) →
        request.body = [] := by
    intro b c request same delivers outcome
    by_cases fits : i ≤ b.capacity
    · obtain ⟨request', outcome', body⟩ := outcome_receive_of_unannounced unannounced delivers fits
      have within := (Arrival.upTo_prefix delivers i).length_le
      cases outcome.symm.trans outcome'
      rw [body]
      refine List.drop_of_length_le ?_
      rw [List.length_take]
      omega
    · rw [outcome_receive_of_capacity_lt unannounced delivers (Nat.lt_of_not_le fits)] at outcome
      cases outcome
  intro b b' c c' request request' same same' delivers delivers' outcome outcome'
  rw [empty same delivers outcome, empty same' delivers' outcome']

/-- **The body is what the pieces make it.** Of what follows the header block, the handler gets what
came in one piece with the end of the header block, and any beginning can have come so. -/
theorem bodyAsCut_of_unannounced (unannounced : Unannounced d i) (capacity : Nat) :
    BodyAsCut capacity d i where
  received fits b c same delivers := by
    obtain ⟨request, outcome, body⟩ :=
      outcome_receive_of_unannounced unannounced delivers (same ▸ fits : i ≤ b.capacity)
    exact ⟨request, outcome, same ▸ body⟩
  refused exceeds b c same delivers :=
    outcome_receive_of_capacity_lt unannounced delivers (same ▸ exceeds : b.capacity < i)
  beginnings body beginning fits := exists_body_of_prefix unannounced beginning fits
  piecesDoNotShow_iff := by
    refine ⟨fun doNotShow => ?_, piecesDoNotShow_of_nothing unannounced⟩
    have within := Header.blockEnd?_le unannounced.ended
    by_cases more : d.length = i ∨ capacity ≤ i
    · exact more
    · -- One byte follows and fits. It is the body in one run, and there is none in another one.
      have length : ((d.drop i).take 1).length = 1 := by
        rw [List.length_take, List.length_drop]
        omega
      obtain ⟨c, request, delivers, outcome, body⟩ :=
        exists_body_of_prefix unannounced (List.nil_prefix : [] <+: d.drop i)
          (show i ≤ capacity by omega)
      obtain ⟨c', request', delivers', outcome', body'⟩ :=
        exists_body_of_prefix unannounced (List.take_prefix 1 (d.drop i))
          (show i + _ ≤ capacity by omega)
      have equal := doNotShow rfl rfl delivers delivers' outcome outcome'
      rw [body, body'] at equal
      rw [← equal] at length
      cases length

/-- A length of zero announces no body. Two of the three bytes that follow the header block fit. -/
theorem bodyAsCut_of_zero_length :
    Unannounced (Utf8.encode "POST / HTTP/1.1\r\nContent-Length: 0\r\n\r\nabc") 38 ∧
      BodyAsCut 40 (Utf8.encode "POST / HTTP/1.1\r\nContent-Length: 0\r\n\r\nabc") 38 := by
  have unannounced :
      Unannounced (Utf8.encode "POST / HTTP/1.1\r\nContent-Length: 0\r\n\r\nabc") 38 := by
    decide +kernel
  exact ⟨unannounced, bodyAsCut_of_unannounced unannounced 40⟩

/-- The same bytes have the body `abc` when they come in one piece, and none when they are cut
behind the header block. -/
theorem pieces_show_in_body :
    let sent := Utf8.encode "GET / HTTP/1.1\r\n\r\nabc"
    let received (n : Nat) := (receive (.new 64) (cutAt n sent)).outcome
    Unannounced sent 18 ∧
      (received 21).map (Option.map Request.body) = .ok (some (Utf8.encode "abc")) ∧
        (received 18).map (Option.map Request.body) = .ok (some []) ∧
          ¬ PiecesDoNotShow 64 sent := by
  intro sent received
  have unannounced : Unannounced sent 18 := by decide +kernel
  have whole : (received 21).map (Option.map Request.body) = .ok (some (Utf8.encode "abc")) := by
    decide +kernel
  have cut : (received 18).map (Option.map Request.body) = .ok (some []) := by decide +kernel
  refine ⟨unannounced, whole, cut, fun doNotShow => ?_⟩
  obtain ⟨request, outcome, body⟩ := exists_request_of_map whole
  obtain ⟨request', outcome', body'⟩ := exists_request_of_map cut
  have equal := doNotShow rfl rfl (delivers_cutAt (by decide +kernel))
    (delivers_cutAt (by decide +kernel)) outcome outcome'
  rw [body, body'] at equal
  exact absurd equal (by decide +kernel)

end Reception

end DeviceHttp
