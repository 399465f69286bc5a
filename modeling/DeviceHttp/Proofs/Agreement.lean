import DeviceHttp.Proofs.Fragmentation

/-!
# Receiving agrees with reading

A request reaches the library in two ways. `Reception.receive` collects it from a connection, piece
by piece, and decides after every read whether it is complete; `Request.ofBytes` is handed all of
its bytes at once. They share the reading of a head and nothing else: completeness, bounds and the
order of the checks are decided in each of them anew. This module shows that they come to the same.

## Main statements

`Reception.receive_agrees` says both halves.

* **What was received reads as itself** (`Reception.Complete`). Whatever a connection does, a
  request that was received fits the buffer, its bytes are those that the reception took from the
  connection, and reading them gives the request again.
* **What can be read is received** (`Reception.foretold`, `Reception.EndsFull`). For a peer that
  sends some bytes and closes its side, the outcome of the reception is told by reading all the
  bytes at once. The two are for peers that send less than the capacity, and at least as much.

## How

The first half is an invariant of `Reception.resume`: what the buffer holds and what is left to read
make up the same bytes all along (`Reception.filled_append_unread_resume`). For the second half
`Reception.announced_resume` has already reduced a reception to the conclusion of a buffer that is
given everything. What is left is to compare the two ways to judge given bytes, `Request.Judges` and
`ReceiveBuffer.Demands`, case by case.
-/

namespace DeviceHttp

/-! ## Reading given bytes -/

/-- Only the request line can make a head unreadable. -/
theorem Head.eq_of_read_eq_error {b : Bytes} {headerEnd : Nat} {e : Error}
    (h : Head.read b headerEnd = .error e) :
    e = .malformedLine ∨ e = .lineNotUtf8 ∨ e = .malformedVersion := by
  rw [Head.read] at h
  split at h
  next => exact .inl (Except.error.inj h).symm
  next lineEnd _ =>
    cases line : RequestLine.ofBytes ((b.take headerEnd).take lineEnd) with
    | ok line =>
      rw [line] at h
      cases h
    | error reason =>
      rw [line] at h
      obtain rfl : reason = e := Except.error.inj h
      rw [RequestLine.ofBytes] at line
      split at line
      next => exact .inr (.inl (Except.error.inj line).symm)
      next text _ =>
        rw [RequestLine.ofChars] at line
        split at line
        next =>
          split at line
          next => exact .inr (.inr (Except.error.inj line).symm)
          next => cases line
        next => exact .inl (Except.error.inj line).symm

theorem Head.headerEnd_read {b : Bytes} {headerEnd : Nat} {head : Head}
    (h : Head.read b headerEnd = .ok head) : head.headerEnd = headerEnd := by
  rw [Head.read] at h
  split at h
  next => cases h
  next lineEnd _ =>
    cases line : RequestLine.ofBytes ((b.take headerEnd).take lineEnd) with
    | ok line =>
      rw [line] at h
      cases h
      rfl
    | error reason =>
      rw [line] at h
      cases h

namespace Request

/-- The length that the bytes of a request announce for the whole of it: up to the end of the header
block and then the announced length of the body. It stops at the largest length. There is none as
long as the header block has not ended, or if the request line cannot be read. -/
def announcedLength? (d : Bytes) : Option Nat := do
  let headerEnd ← Header.blockEnd? d
  let head ← (Head.read d headerEnd).toOption
  return min (headerEnd + head.contentLength) maxLength

/-- Why given bytes read as they do. -/
inductive Judges (d : Bytes) : Except Error Request → Prop where
  | unended : Header.blockEnd? d = none → Judges d (.error .incomplete)
  | badHead {i : Nat} {reason : Error} : Header.blockEnd? d = some i →
      Head.read d i = .error reason → Judges d (.error reason)
  | unfinished {i : Nat} {head : Head} : Header.blockEnd? d = some i →
      Head.read d i = .ok head → d.length < head.requestLength → Judges d (.error .incomplete)
  | complete {i : Nat} {head : Head} : Header.blockEnd? d = some i →
      Head.read d i = .ok head → head.requestLength ≤ d.length →
        Judges d (.ok (Request.ofHead d head))

theorem judges_ofBytes (d : Bytes) : Judges d (ofBytes d) := by
  rw [ofBytes]
  split
  next unended => exact .unended unended
  next i ended =>
    cases read : Head.read d i with
    | error reason => exact .badHead ended read
    | ok head =>
      show Judges d (if d.length < head.requestLength then .error .incomplete
        else .ok (ofHead d head))
      split
      next short => exact .unfinished ended read short
      next all => exact .complete ended read (Nat.le_of_not_lt all)

/-- Bytes that hold a whole request read as it. -/
theorem ofBytes_of_complete {d : Bytes} {i : Nat} {head : Head}
    (ended : Header.blockEnd? d = some i)
    (good : Head.read d i = .ok head) (all : head.requestLength ≤ d.length) :
    ofBytes d = .ok (ofHead d head) := by
  rw [ofBytes, ended]
  simp only [good]
  exact if_neg (Nat.not_lt.2 all)

theorem ofBytes_of_badHead {d : Bytes} {i : Nat} {reason : Error}
    (ended : Header.blockEnd? d = some i) (bad : Head.read d i = .error reason) :
    ofBytes d = .error reason := by
  rw [ofBytes, ended]
  simp only [bad]
  rfl

theorem announcedLength?_of_unended {d : Bytes} (unended : Header.blockEnd? d = none) :
    announcedLength? d = none := by
  rw [announcedLength?, unended]
  rfl

theorem announcedLength?_of_badHead {d : Bytes} {i : Nat} {reason : Error}
    (ended : Header.blockEnd? d = some i) (bad : Head.read d i = .error reason) :
    announcedLength? d = none := by
  rw [announcedLength?, ended]
  show (Head.read d i).toOption.bind _ = _
  rw [bad]
  rfl

theorem announcedLength?_of_head {d : Bytes} {i : Nat} {head : Head}
    (ended : Header.blockEnd? d = some i) (good : Head.read d i = .ok head) :
    announcedLength? d = some head.requestLength := by
  rw [announcedLength?, ended]
  show (Head.read d i).toOption.bind _ = _
  rw [good, Head.requestLength, Head.headerEnd_read good]
  rfl

end Request

/-! ## What is received reads as itself -/

namespace ReceiveBuffer

variable {b : ReceiveBuffer}

/-- A buffer never wants more than it has room for. -/
theorem le_room_of_demand_eq_wants {room : Nat} (h : b.demand = .wants room) : room ≤ b.room := by
  have reason := b.demands_demand
  rw [h] at reason
  cases reason with
  | unended => exact Nat.le_refl _
  | unfinished _ _ fits _ => exact Nat.sub_le_sub_right fits _

/-- A request that a buffer holds is made up of all the bytes in the buffer, and reads as
itself. -/
theorem ofBytes_of_demand_eq_complete {request : Request} (h : b.demand = .complete request) :
    request.bytes = b.filled ∧ Request.ofBytes b.filled = .ok request := by
  have reason := b.demands_demand
  rw [h] at reason
  cases reason with
  | complete ended good all => exact ⟨rfl, Request.ofBytes_of_complete ended good all⟩

end ReceiveBuffer

namespace Reception

/-- A read moves bytes from what is left into the buffer. -/
theorem filled_append_unread {b : ReceiveBuffer} {c : Connection} {room : Nat} {bytes : Bytes}
    (h : b.demand = .wants room) (answer : (c.read room).1 = .ok bytes) :
    (b.append bytes).filled ++ (c.read room).2.unread = b.filled ++ c.unread := by
  have fits := Nat.le_trans (Connection.length_read_le answer)
    (ReceiveBuffer.le_room_of_demand_eq_wants h)
  rw [ReceiveBuffer.filled_append fits, Connection.unread_read answer, List.append_assoc]

/-- **No byte is lost and none is made up.** What the buffer holds and what is left to read make up
the same bytes before and after a reception. -/
theorem filled_append_unread_resume (b : ReceiveBuffer) (c : Connection) :
    (resume b c).buffer.filled ++ (resume b c).connection.unread = b.filled ++ c.unread := by
  induction b, c using resume.induct with
  | case1 b c request h => rw [resume_of_complete h]
  | case2 b c reason h => rw [resume_of_refused h]
  | case3 b c room h answer =>
    have nothing := Connection.unread_read answer
    rw [List.nil_append] at nothing
    rw [resume_of_closed h answer, nothing]
  | case4 b c room h bytes answer ne_nil ih =>
    rw [resume_of_piece h answer ne_nil, ih, filled_append_unread h answer]
  | case5 b c room h answer ih =>
    rw [resume_of_interruption h answer, ih, Connection.unread_read_of_error answer]
  | case6 b c room h kind answer lasting =>
    rw [resume_of_fault h answer lasting, Connection.unread_read_of_error answer]

/-- A request is received only when the buffer holds it. -/
theorem demand_resume_of_some {b : ReceiveBuffer} {c : Connection} {request : Request}
    (received : (resume b c).outcome = .ok (some request)) :
    (resume b c).buffer.demand = .complete request := by
  induction b, c using resume.induct with
  | case1 b c request' h =>
    rw [resume_of_complete h] at received ⊢
    cases received
    exact h
  | case2 b c reason h =>
    rw [resume_of_refused h] at received
    cases received
  | case3 b c room h answer =>
    rw [resume_of_closed h answer] at received
    simp only at received
    split at received <;> cases received
  | case4 b c room h bytes answer ne_nil ih =>
    rw [resume_of_piece h answer ne_nil] at received ⊢
    exact ih received
  | case5 b c room h answer ih =>
    rw [resume_of_interruption h answer] at received ⊢
    exact ih received
  | case6 b c room h kind answer lasting =>
    rw [resume_of_fault h answer lasting] at received
    simp only at received
    split at received <;> cases received

/-- What holds of a request that was received with a buffer from a connection. -/
structure Complete (b : ReceiveBuffer) (c : Connection) (request : Request) : Prop where
  fits : request.bytes.length ≤ b.capacity
  /-- The bytes of the request are those that were taken from the connection. -/
  taken : c.unread = request.bytes ++ (receive b c).connection.unread
  /-- They read as the request, with all its components. -/
  reads : Request.ofBytes request.bytes = .ok request

theorem complete_of_receive {b : ReceiveBuffer} {c : Connection} {request : Request}
    (received : (receive b c).outcome = .ok (some request)) : Complete b c request := by
  have held := demand_resume_of_some received
  have kept := filled_append_unread_resume b.reset c
  have capacity := capacity_resume b.reset c
  rw [ReceiveBuffer.filled_reset, List.nil_append] at kept
  obtain ⟨bytes, reads⟩ := ReceiveBuffer.ofBytes_of_demand_eq_complete held
  rw [← bytes] at reads kept
  refine ⟨?_, kept.symm, reads⟩
  rw [bytes, ← ReceiveBuffer.capacity_reset b, ← capacity]
  exact (resume b.reset c).buffer.fits

end Reception

/-! ## What can be read is received -/

/-- The outcome of a reception from a peer that sends fewer bytes than the buffer can hold and
closes its side, as reading all the bytes at once foretells it. -/
def Reception.foretold (capacity : Nat) (d : Bytes) : Except Error (Option Announced) :=
  match Request.ofBytes d with
  | .ok request => .ok (some request.announced)
  | .error .incomplete =>
    if d = [] then .ok none
    else
      match Request.announcedLength? d with
      | none => .error .closedEarly
      | some needed =>
        if capacity < needed then .error (.requestTooLarge needed capacity)
        else .error .closedEarly
  | .error e => .error e

/-- How a reception ends from a peer that sends at least as many bytes as the buffer can hold. The
header block has to end within the capacity, and then it matters how much is announced. -/
structure Reception.EndsFull (capacity : Nat) (d : Bytes)
    (outcome : Except Error (Option Announced)) : Prop where
  headTooLarge : outcome = .error .headTooLarge ↔ Header.blockEnd? (d.take capacity) = none
  /-- A request line that cannot be read. -/
  malformed : Header.blockEnd? (d.take capacity) ≠ none → Request.announcedLength? d = none →
    ∃ e, Request.ofBytes d = .error e ∧ outcome = .error e
  tooLarge : Header.blockEnd? (d.take capacity) ≠ none → ∀ needed,
    Request.announcedLength? d = some needed → capacity < needed →
      outcome = .error (.requestTooLarge needed capacity)
  request : Header.blockEnd? (d.take capacity) ≠ none → ∀ needed,
    Request.announcedLength? d = some needed → needed ≤ capacity →
      ∃ request, Request.ofBytes d = .ok request ∧ outcome = .ok (some request.announced)

namespace Reception.EndsFull

variable {capacity : Nat} {d : Bytes} {i : Nat} {head : Head}

theorem of_unended (unended : Header.blockEnd? (d.take capacity) = none) :
    EndsFull capacity d (.error .headTooLarge) where
  headTooLarge := ⟨fun _ => unended, fun _ => rfl⟩
  malformed found := absurd unended found
  tooLarge found := absurd unended found
  request found := absurd unended found

section Ended

variable (found : Header.blockEnd? (d.take capacity) ≠ none) (ended : Header.blockEnd? d = some i)

include found ended

theorem of_badHead {reason : Error} (bad : Head.read d i = .error reason) :
    EndsFull capacity d (.error reason) where
  headTooLarge := by
    refine ⟨fun eq => ?_, fun unended => absurd unended found⟩
    obtain rfl : reason = .headTooLarge := Except.error.inj eq
    simpa using Head.eq_of_read_eq_error bad
  malformed _ _ := ⟨reason, Request.ofBytes_of_badHead ended bad, rfl⟩
  tooLarge _ needed announced := by
    rw [Request.announcedLength?_of_badHead ended bad] at announced
    cases announced
  request _ needed announced := by
    rw [Request.announcedLength?_of_badHead ended bad] at announced
    cases announced

variable (good : Head.read d i = .ok head)

include good

theorem of_tooLarge (exceeds : capacity < head.requestLength) :
    EndsFull capacity d (.error (.requestTooLarge head.requestLength capacity)) where
  headTooLarge := ⟨nofun, fun unended => absurd unended found⟩
  malformed _ announced := by
    rw [Request.announcedLength?_of_head ended good] at announced
    cases announced
  tooLarge _ needed announced _ := by
    rw [Request.announcedLength?_of_head ended good] at announced
    cases announced
    rfl
  request _ needed announced fits := by
    rw [Request.announcedLength?_of_head ended good] at announced
    cases announced
    omega

theorem of_request {request : Announced} (fits : head.requestLength ≤ capacity)
    (all : head.requestLength ≤ d.length) (same : (Request.ofHead d head).announced = request) :
    EndsFull capacity d (.ok (some request)) where
  headTooLarge := ⟨nofun, fun unended => absurd unended found⟩
  malformed _ announced := by
    rw [Request.announcedLength?_of_head ended good] at announced
    cases announced
  tooLarge _ needed announced exceeds := by
    rw [Request.announcedLength?_of_head ended good] at announced
    cases announced
    omega
  request _ needed announced _ := by
    subst same
    exact ⟨_, Request.ofBytes_of_complete ended good all, rfl⟩

end Ended

end Reception.EndsFull

namespace ReceiveBuffer

variable {b : ReceiveBuffer} {cutoff : Cutoff}

theorem conclude_of_complete {request : Request} (h : b.Demands (.complete request)) :
    b.conclude cutoff = .ok (some request) := by
  rw [conclude, h.eq_demand]

theorem conclude_of_refused {reason : Error} (h : b.Demands (.refused reason)) :
    b.conclude cutoff = .error reason := by
  rw [conclude, h.eq_demand]

theorem conclude_of_wants {room : Nat} (h : b.Demands (.wants room)) :
    b.conclude cutoff = b.cutOffBy cutoff := by
  rw [conclude, h.eq_demand]

theorem cutOffBy_close (b : ReceiveBuffer) :
    b.cutOffBy .close = if b.filled = [] then .ok none else .error .closedEarly := by
  rw [cutOffBy, isEmpty]
  cases b.filled <;> rfl

/-- Bytes that leave room in the buffer are concluded as reading them foretells. -/
theorem conclude_eq_foretold {d : Bytes} (filled : b.filled = d) (below : d.length < b.capacity) :
    (b.conclude .close).map (Option.map Request.announced) =
      Reception.foretold b.capacity d := by
  subst filled
  have notFull : b.isFull = false := decide_eq_false (Nat.ne_of_lt below)
  have judges := Request.judges_ofBytes b.filled
  rw [Reception.foretold]
  generalize Request.ofBytes b.filled = judgement at judges ⊢
  cases judges with
  | unended unended =>
    rw [conclude_of_wants (.unended unended notFull), cutOffBy_close,
      Request.announcedLength?_of_unended unended]
    by_cases empty : b.filled = []
    · simp only [if_pos empty]
      rfl
    · simp only [if_neg empty]
      rfl
  | badHead ended bad =>
    rw [conclude_of_refused (.badHead ended bad)]
    -- None of the three reasons is that bytes are missing, so the reason stays as it is.
    obtain rfl | rfl | rfl := Head.eq_of_read_eq_error bad <;> rfl
  | @unfinished i head ended good short =>
    have nonempty : b.filled ≠ [] := by
      intro empty
      rw [empty] at ended
      cases ended
    simp only [if_neg nonempty, Request.announcedLength?_of_head ended good]
    by_cases exceeds : b.capacity < head.requestLength
    · rw [conclude_of_refused (.tooLarge ended good exceeds), if_pos exceeds]
      rfl
    · rw [conclude_of_wants (.unfinished ended good (Nat.le_of_not_lt exceeds) short),
        cutOffBy_close, if_neg nonempty, if_neg exceeds]
      rfl
  | complete ended good all =>
    rw [conclude_of_complete (.complete ended good all)]
    rfl

/-- Bytes that fill the buffer are concluded by the header block that ends among them. -/
theorem endsFull_conclude {d : Bytes} (filled : b.filled = d.take b.capacity)
    (enough : b.capacity ≤ d.length) :
    Reception.EndsFull b.capacity d ((b.conclude .close).map (Option.map Request.announced)) := by
  have length : b.filled.length = b.capacity := by
    rw [filled, List.length_take_of_le enough]
  obtain ⟨rest, rfl⟩ : ∃ rest, d = b.filled ++ rest :=
    ⟨d.drop b.capacity, by rw [filled, List.take_append_drop]⟩
  cases ended : Header.blockEnd? b.filled with
  | none =>
    rw [conclude_of_refused (.unendedFull ended (decide_eq_true length))]
    exact .of_unended (filled ▸ ended)
  | some i =>
    have found : Header.blockEnd? ((b.filled ++ rest).take b.capacity) ≠ none := by
      rw [← filled, ended]
      exact Option.some_ne_none i
    -- The bytes that did not fit move neither the end of the header block nor the head.
    have ended' := Header.blockEnd?_append ended rest
    have same := Head.read_append (Header.blockEnd?_le ended) rest
    cases read : Head.read b.filled i with
    | error reason =>
      rw [conclude_of_refused (.badHead ended read)]
      exact .of_badHead found ended' (same.trans read)
    | ok head =>
      by_cases exceeds : b.capacity < head.requestLength
      · rw [conclude_of_refused (.tooLarge ended read exceeds)]
        exact .of_tooLarge found ended' (same.trans read) exceeds
      · have all : head.requestLength ≤ b.filled.length := by omega
        rw [conclude_of_complete (.complete ended read all)]
        have later : head.requestLength ≤ (b.filled ++ rest).length := by
          rw [List.length_append]
          omega
        exact .of_request found ended' (same.trans read) (Nat.le_of_not_lt exceeds) later
          (Request.announced_ofHead_append all rest)

end ReceiveBuffer

namespace Reception

/-- **Receiving agrees with reading.** A request that was received reads as itself from the bytes
that were taken for it. Conversely, whatever pieces a peer sends before it closes its side, reading
all its bytes at once tells how the reception ends. -/
theorem receive_agrees (b : ReceiveBuffer) (c : Connection) :
    (∀ request, (receive b c).outcome = .ok (some request) → Complete b c request) ∧
      ∀ d, Delivers .close d c.arrivals →
        (d.length < b.capacity → (receive b c).announced = foretold b.capacity d) ∧
        (b.capacity ≤ d.length → EndsFull b.capacity d (receive b c).announced) := by
  refine ⟨fun request received => complete_of_receive received, fun d delivers => ?_⟩
  rw [receive, announced_resume delivers]
  constructor
  · intro below
    have filled : (b.reset.append d).filled = d := List.take_of_length_le (Nat.le_of_lt below)
    exact ReceiveBuffer.conclude_eq_foretold filled below
  · intro enough
    exact ReceiveBuffer.endsFull_conclude (b := b.reset.append d) rfl enough

/-- A request with a body that arrives in two pieces, for a buffer that holds it and for one that
is full before the body is there. -/
theorem receive_agrees_of_cut_request :
    let front := Utf8.encode "POST /up HTTP/1.1\r\nContent-Length: 9\r\n\r"
    let back := Utf8.encode "\n012345678"
    let c : Connection := { arrivals := [.data front, .fault .interrupted, .data back] }
    (∃ request, (receive (.new 64) c).outcome = .ok (some request) ∧
        Complete (.new 64) c request) ∧
      Delivers .close (front ++ back) c.arrivals ∧
      (front ++ back).length < 64 ∧
      (receive (.new 64) c).announced = foretold 64 (front ++ back) ∧
      45 ≤ (front ++ back).length ∧
      EndsFull 45 (front ++ back) (receive (.new 45) c).announced := by
  intro front back c
  have delivers : Delivers .close (front ++ back) c.arrivals := by
    rw [← List.append_nil back]
    exact .piece (by decide) (.interruption (.piece (by decide) .usedUp))
  have below : (front ++ back).length < 64 := by decide
  have enough : 45 ≤ (front ++ back).length := by decide
  obtain ⟨complete, agrees⟩ := receive_agrees (.new 64) c
  have told : (receive (.new 64) c).announced = foretold 64 (front ++ back) :=
    (agrees _ delivers).1 below
  refine ⟨?_, delivers, below, told, enough, ((receive_agrees (.new 45) c).2 _ delivers).2 enough⟩
  have isRequest : (foretold 64 (front ++ back)).toOption.join.isSome = true := by decide +kernel
  rw [← told, announced] at isRequest
  cases outcome : (receive (.new 64) c).outcome with
  | error e =>
    rw [outcome] at isRequest
    cases isRequest
  | ok received =>
    cases received with
    | none =>
      rw [outcome] at isRequest
      cases isRequest
    | some request => exact ⟨request, rfl, complete request outcome⟩

end Reception

end DeviceHttp
