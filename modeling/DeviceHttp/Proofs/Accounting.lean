import DeviceHttp.Proofs.Agreement
import Mathlib.Logic.Function.Iterate

/-!
# Every byte that is read is accounted for

A reception goes on reading for as long as its buffer wants more. Whether it ever ends depends on
the peer, who may send one byte at a time, interrupt any read, and have no end of bytes. So nothing
is assumed here about what is read from: a `Reader` hands over at most the bytes that it is asked
for, and that is all that is known of it.

## Main statements

`Reader.accounted` is about every reader and every moment of a reception.

* **The buffer holds what was handed over**, in order and all of it.
* **A reception ends**, unless it is interrupted for ever. Every read brings something that the
  buffer has room for, or is interrupted, or is the last one.
* **Nothing beyond a request is read**, if the length of its body was known in time. The reads that
  look for the end of the header block may have taken more, and no read gives bytes back.

`Reception.every_read_accounted` adds that a reception from a `Connection` is a run of such turns.

## How

`Reader.turn` makes at most one read. `Turned` says all that a turn can do, and every invariant is
kept by a turn and therefore by any number of them. A bound on the number of reads needs a measure
that grows with each of them: the number of bytes in the buffer and the number of interruptions,
together.

Once the header block has ended within the announced length, the room that the buffer wants is what
is left of that length, and this stays so (`keepsWithin_turn`).
-/

namespace DeviceHttp

/-- Something to read from. Asked for at most so many bytes, it hands over some or fails. Nothing
says that it ever comes to an end. -/
structure Reader (σ : Type) where
  read : σ → Nat → Except FaultKind Bytes × σ
  length_le : ∀ {s : σ} {room : Nat} {bytes : Bytes},
    (read s room).1 = .ok bytes → bytes.length ≤ room

/-- A connection is read from until its peer closes it. -/
def Reader.ofConnection : Reader Connection where
  read := Connection.read
  length_le := Connection.length_read_le

/-- The bytes that an answer to a read hands over. -/
def handedOver : Except FaultKind Bytes → Bytes
  | .ok bytes => bytes
  | .error _ => []

/-- The number of interrupted reads. -/
def interruptions (answers : List (Except FaultKind Bytes)) : Nat :=
  answers.countP fun answer => answer matches .error .interrupted

/-- A reception under way. -/
structure Progress (σ : Type) where
  buffer : ReceiveBuffer
  source : σ
  /-- The answers to the reads so far, the latest one last. -/
  answers : List (Except FaultKind Bytes) := []
  /-- The outcome, once the reception has ended. -/
  outcome : Option (Except Error (Option Request)) := none

variable {σ : Type}

namespace Progress

/-- The bytes that were handed over so far. -/
def consumed (p : Progress σ) : Bytes := p.answers.flatMap handedOver

/-- What a read makes of a reception: it adds a piece, has to be made again, or is the last one. -/
def afterRead (p : Progress σ) (answer : Except FaultKind Bytes) (source : σ) : Progress σ :=
  let answers := p.answers ++ [answer]
  match answer with
  | .ok bytes =>
    if bytes = [] then { p with source, answers, outcome := some (p.buffer.cutOffBy .close) }
    else { p with source, answers, buffer := p.buffer.append bytes }
  | .error kind =>
    if lasting : kind ≠ .interrupted then
      { p with source, answers, outcome := some (p.buffer.cutOffBy (.fault kind lasting)) }
    else { p with source, answers }

end Progress

namespace Reader

variable (r : Reader σ)

/-- One turn of a reception: it looks at the buffer and makes at most one read. -/
def turn (p : Progress σ) : Progress σ :=
  match p.outcome with
  | some _ => p
  | none =>
    match p.buffer.demand with
    | .complete request => { p with outcome := some (.ok (some request)) }
    | .refused reason => { p with outcome := some (.error reason) }
    | .wants room => p.afterRead (r.read p.source room).1 (r.read p.source room).2

/-- The reception after some turns. It begins with an empty buffer. -/
def progress (b : ReceiveBuffer) (s : σ) (n : Nat) : Progress σ :=
  r.turn^[n] { buffer := b.reset, source := s }

end Reader

/-- What a turn can do. -/
inductive Turned (r : Reader σ) (p : Progress σ) : Progress σ → Prop where
  /-- A reception that has ended stays as it is. -/
  | ended {outcome : Except Error (Option Request)} : p.outcome = some outcome → Turned r p p
  /-- The buffer holds a request. -/
  | complete {request : Request} : p.outcome = none → p.buffer.demand = .complete request →
      Turned r p { p with outcome := some (.ok (some request)) }
  /-- No further bytes can help. -/
  | refused {reason : Error} : p.outcome = none → p.buffer.demand = .refused reason →
      Turned r p { p with outcome := some (.error reason) }
  /-- A read hands over something. -/
  | piece {room : Nat} {bytes : Bytes} : p.outcome = none → p.buffer.demand = .wants room →
      (r.read p.source room).1 = .ok bytes → bytes ≠ [] →
        Turned r p { p with
          buffer := p.buffer.append bytes
          source := (r.read p.source room).2
          answers := p.answers ++ [.ok bytes] }
  /-- A read is interrupted. -/
  | interruption {room : Nat} : p.outcome = none → p.buffer.demand = .wants room →
      (r.read p.source room).1 = .error .interrupted →
        Turned r p { p with
          source := (r.read p.source room).2
          answers := p.answers ++ [.error .interrupted] }
  /-- A read ends the reception, without a request. -/
  | cutOff {room : Nat} {answer : Except FaultKind Bytes} (cutoff : Cutoff) :
      p.outcome = none → p.buffer.demand = .wants room → (r.read p.source room).1 = answer →
        handedOver answer = [] →
          Turned r p { p with
            source := (r.read p.source room).2
            answers := p.answers ++ [answer]
            outcome := some (p.buffer.cutOffBy cutoff) }

variable {r : Reader σ} {p : Progress σ} {b : ReceiveBuffer} {s : σ}

theorem turned_turn (r : Reader σ) (p : Progress σ) : Turned r p (r.turn p) := by
  unfold Reader.turn
  split
  · next ended => exact .ended ended
  · next underway =>
    split
    · next complete => exact .complete underway complete
    · next refused => exact .refused underway refused
    · next room wants =>
      cases answered : (r.read p.source room).1 with
      | ok bytes =>
        unfold Progress.afterRead
        dsimp only
        split
        · next nothing => exact .cutOff .close underway wants answered nothing
        · next something => exact .piece underway wants answered something
      | error kind =>
        unfold Progress.afterRead
        dsimp only
        split
        · next lasting => exact .cutOff (.fault kind lasting) underway wants answered rfl
        · next passing =>
          obtain rfl := Decidable.not_not.1 passing
          exact .interruption underway wants answered

/-! ## The tally -/

theorem interruptions_append (answers : List (Except FaultKind Bytes))
    (answer : Except FaultKind Bytes) :
    interruptions (answers ++ [answer]) = interruptions answers + interruptions [answer] :=
  List.countP_append

/-- What holds all along a reception with a buffer. -/
structure Tallied (b : ReceiveBuffer) (p : Progress σ) : Prop where
  capacity : p.buffer.capacity = b.capacity
  /-- The buffer holds what was handed over. -/
  filled : p.buffer.filled = p.consumed
  /-- Every read but the last one has left its mark. -/
  reads : p.answers.length ≤
    p.buffer.filled.length + interruptions p.answers + if p.outcome = none then 0 else 1
  /-- A request is one that the buffer holds. -/
  held : ∀ request, p.outcome = some (.ok (some request)) → p.buffer.demand = .complete request

/-- **A turn keeps the tally.** -/
theorem tallied_turn (tallied : Tallied b p) : Tallied b (r.turn p) := by
  obtain ⟨capacity, filled, reads, held⟩ := tallied
  have turned := turned_turn r p
  generalize r.turn p = q at turned ⊢
  cases turned with
  | ended => exact ⟨capacity, filled, reads, held⟩
  | @complete request underway complete =>
    refine ⟨capacity, filled, ?_, ?_⟩
    · rw [if_pos underway] at reads
      exact Nat.le_add_right_of_le reads
    · intro other same
      rw [← Option.some.inj (Except.ok.inj (Option.some.inj same))]
      exact complete
  | refused underway refused =>
    refine ⟨capacity, filled, ?_, nofun⟩
    rw [if_pos underway] at reads
    exact Nat.le_add_right_of_le reads
  | @piece room bytes underway wants answered something =>
    have fits := Nat.le_trans (r.length_le answered)
      (ReceiveBuffer.le_room_of_demand_eq_wants wants)
    refine ⟨capacity, ?_, ?_, fun request ended => ?_⟩
    · show (p.buffer.append bytes).filled = _
      rw [ReceiveBuffer.filled_append fits, filled, Progress.consumed, Progress.consumed,
        List.flatMap_append, List.flatMap_singleton]
      rfl
    · -- the buffer grows by at least one byte
      have grows := List.length_pos_iff.2 something
      rw [if_pos underway] at reads
      simp only [underway, if_true, ReceiveBuffer.filled_append fits, List.length_append,
        List.length_singleton, interruptions_append]
      omega
    · rw [underway] at ended
      cases ended
  | interruption underway wants answered =>
    refine ⟨capacity, ?_, ?_, held⟩
    · rw [filled, Progress.consumed, Progress.consumed, List.flatMap_append,
        List.flatMap_singleton]
      exact (List.append_nil _).symm
    · have counted : interruptions [.error .interrupted] = 1 := rfl
      rw [if_pos underway] at reads
      simp only [underway, if_true, List.length_append, List.length_singleton,
        interruptions_append, counted]
      omega
  | @cutOff room answer cutoff underway wants answered nothing =>
    refine ⟨capacity, ?_, ?_, ?_⟩
    · rw [filled, Progress.consumed, Progress.consumed, List.flatMap_append,
        List.flatMap_singleton, nothing, List.append_nil]
    · rw [if_pos underway] at reads
      simp only [reduceCtorEq, if_false, List.length_append, List.length_singleton,
        interruptions_append]
      omega
    · intro request ended
      exact absurd (Option.some.inj ended) (p.buffer.cutOffBy_ne_request cutoff request)

namespace Reader

theorem progress_succ (r : Reader σ) (b : ReceiveBuffer) (s : σ) (n : Nat) :
    r.progress b s (n + 1) = r.turn (r.progress b s n) :=
  Function.iterate_succ_apply' _ _ _

theorem tallied_progress (r : Reader σ) (b : ReceiveBuffer) (s : σ) (n : Nat) :
    Tallied b (r.progress b s n) := by
  induction n with
  | zero => exact ⟨rfl, rfl, Nat.le_refl 0, nofun⟩
  | succ n ih =>
    rw [progress_succ]
    exact tallied_turn ih

theorem length_filled_progress_le (r : Reader σ) (b : ReceiveBuffer) (s : σ) (n : Nat) :
    (r.progress b s n).buffer.filled.length ≤ b.capacity := by
  rw [← (r.tallied_progress b s n).capacity]
  exact (r.progress b s n).buffer.fits

/-! ## The end of a reception -/

theorem turn_of_ended {outcome : Except Error (Option Request)} (ended : p.outcome = some outcome) :
    r.turn p = p := by
  unfold turn
  rw [ended]

/-- After its end a reception stays as it is. -/
theorem progress_of_ended {n : Nat} {outcome : Except Error (Option Request)}
    (ended : (r.progress b s n).outcome = some outcome) {m : Nat} (later : n ≤ m) :
    r.progress b s m = r.progress b s n := by
  induction later with
  | refl => rfl
  | step _ ih => rw [progress_succ, ih, turn_of_ended ended]

/-- A turn that does not end the reception has made a read. -/
theorem length_answers_of_underway {n : Nat} (underway : (r.progress b s n).outcome = none) :
    (r.progress b s n).answers.length = n := by
  induction n with
  | zero => rfl
  | succ n ih =>
    rw [progress_succ] at underway ⊢
    have turned := turned_turn r (r.progress b s n)
    generalize r.turn (r.progress b s n) = q at turned underway ⊢
    cases turned with
    | ended ended =>
      rw [ended] at underway
      cases underway
    | complete | refused | cutOff => cases underway
    | piece before | interruption before =>
      rw [List.length_append, List.length_singleton, ih before]

/-! ## The length of a request -/

/-- The header block has ended with a head, and what the buffer holds is within the length that the
head announces. -/
structure KeepsWithin (headerEnd : Nat) (head : Head) (p : Progress σ) : Prop where
  ended : Header.blockEnd? p.buffer.filled = some headerEnd
  good : Head.read p.buffer.filled headerEnd = .ok head
  within : p.buffer.filled.length ≤ head.requestLength

/-- **Nothing beyond the announced length is read** once it is known. -/
theorem keepsWithin_turn {headerEnd : Nat} {head : Head} (keeps : KeepsWithin headerEnd head p) :
    KeepsWithin headerEnd head (r.turn p) := by
  have turned := turned_turn r p
  generalize r.turn p = q at turned ⊢
  cases turned with
  | ended | complete | refused | interruption | cutOff => exact ⟨keeps.1, keeps.2, keeps.3⟩
  | @piece room bytes underway wants answered something =>
    have asked := r.length_le answered
    have fits := Nat.le_trans asked (ReceiveBuffer.le_room_of_demand_eq_wants wants)
    have filled := ReceiveBuffer.filled_append fits
    -- the buffer wants what is missing from the announced length
    have missing : room = head.requestLength - p.buffer.filled.length := by
      have reason := p.buffer.demands_demand
      rw [wants] at reason
      cases reason with
      | unended unended =>
        rw [keeps.ended] at unended
        cases unended
      | unfinished ended good =>
        rw [keeps.ended] at ended
        cases ended
        rw [keeps.good] at good
        cases good
        rfl
    have within := keeps.within
    refine ⟨?_, ?_, ?_⟩
    · show Header.blockEnd? (p.buffer.append bytes).filled = _
      rw [filled]
      exact Header.blockEnd?_append keeps.ended bytes
    · show Head.read (p.buffer.append bytes).filled headerEnd = _
      rw [filled, Head.read_append (Header.blockEnd?_le keeps.ended)]
      exact keeps.good
    · show (p.buffer.append bytes).filled.length ≤ _
      rw [filled, List.length_append]
      omega

theorem keepsWithin_progress {headerEnd m n : Nat} {head : Head}
    (keeps : KeepsWithin headerEnd head (r.progress b s m)) (later : m ≤ n) :
    KeepsWithin headerEnd head (r.progress b s n) := by
  induction later with
  | refl => exact keeps
  | step _ ih =>
    rw [progress_succ]
    exact keepsWithin_turn ih

theorem prefix_turn (r : Reader σ) (p : Progress σ) :
    p.buffer.filled <+: (r.turn p).buffer.filled := by
  have turned := turned_turn r p
  generalize r.turn p = q at turned ⊢
  cases turned with
  | ended | complete | refused | interruption | cutOff => exact List.prefix_rfl
  | piece => exact List.prefix_append _ _

/-- The buffer only grows. -/
theorem prefix_progress (r : Reader σ) (b : ReceiveBuffer) (s : σ) {m n : Nat} (later : m ≤ n) :
    (r.progress b s m).buffer.filled <+: (r.progress b s n).buffer.filled := by
  induction later with
  | refl => exact List.prefix_rfl
  | step _ ih =>
    rw [progress_succ]
    exact ih.trans (prefix_turn r _)

/-- **A request takes what it announces**, if the buffer held no more than that when the header
block had ended. -/
theorem length_consumed_eq {m n headerEnd : Nat} {request : Request}
    (received : (r.progress b s n).outcome = some (.ok (some request)))
    (ended : Header.blockEnd? (r.progress b s m).buffer.filled = some headerEnd)
    (within : (r.progress b s m).buffer.filled.length ≤ headerEnd + request.contentLength)
    (small : b.capacity < maxLength) :
    (r.progress b s n).consumed.length = headerEnd + request.contentLength := by
  have tallied := r.tallied_progress b s n
  have fits := r.length_filled_progress_le b s n
  have fits' := r.length_filled_progress_le b s m
  -- The reception does not go on after its end, so it ends behind the moment of the header block.
  have last : r.progress b s (max m n) = r.progress b s n :=
    progress_of_ended received (Nat.le_max_right m n)
  obtain ⟨more, grown⟩ := r.prefix_progress b s (Nat.le_max_left m n)
  rw [last] at grown
  have reason := (r.progress b s n).buffer.demands_demand
  rw [tallied.held request received] at reason
  cases reason with
  | @complete i head ended' good all =>
    have same : Header.blockEnd? (r.progress b s n).buffer.filled = some headerEnd := by
      rw [← grown]
      exact Header.blockEnd?_append ended more
    obtain rfl : i = headerEnd := Option.some.inj (ended'.symm.trans same)
    have length : head.requestLength = min (i + head.contentLength) maxLength := by
      rw [Head.requestLength, Head.headerEnd_read good]
    have announced : (Request.ofHead (r.progress b s n).buffer.filled head).contentLength =
        head.contentLength := rfl
    rw [announced] at within ⊢
    have keeps : KeepsWithin i head (r.progress b s m) := by
      refine ⟨ended, ?_, by omega⟩
      rw [← Head.read_append (Header.blockEnd?_le ended) more, grown]
      exact good
    have atEnd := (keepsWithin_progress keeps (Nat.le_max_left m n)).within
    rw [last] at atEnd
    rw [← tallied.filled]
    omega

/-! ## The bytes of a stream -/

/-- Some bytes, followed by a stream. A stream has a byte at every place before its end, if it has
one. -/
def ahead (bytes : Bytes) (stream : Nat → Option UInt8) (i : Nat) : Option UInt8 :=
  if i < bytes.length then bytes[i]? else stream (i - bytes.length)

theorem ahead_append (front back : Bytes) (stream : Nat → Option UInt8) :
    ahead (front ++ back) stream = ahead front (ahead back stream) := by
  funext i
  unfold ahead
  rw [List.length_append]
  by_cases inFront : i < front.length
  · rw [if_pos inFront, if_pos (by omega), List.getElem?_append_left inFront]
  · rw [if_neg inFront, List.getElem?_append_right (by omega)]
    by_cases inBack : i - front.length < back.length
    · rw [if_pos inBack, if_pos (by omega)]
    · rw [if_neg inBack, if_neg (by omega), Nat.sub_sub]

/-- What is read comes from a stream: a read takes from its front what it hands over. -/
def Streams (r : Reader σ) (stream : σ → Nat → Option UInt8) : Prop :=
  ∀ (s : σ) (room : Nat),
    stream s = ahead (handedOver (r.read s room).1) (stream (r.read s room).2)

/-- A connection hands over the bytes that it has still to come. -/
theorem streams_ofConnection : ofConnection.Streams fun c i => c.unread[i]? := by
  intro c room
  funext i
  show c.unread[i]? = ahead (handedOver (c.read room).1) (fun i => (c.read room).2.unread[i]?) i
  unfold ahead
  cases answered : (c.read room).1 with
  | error kind =>
    rw [← Connection.unread_read_of_error answered]
    rfl
  | ok bytes =>
    rw [Connection.unread_read answered]
    split
    · next inside => exact List.getElem?_append_left inside
    · next behind => exact List.getElem?_append_right (Nat.le_of_not_lt behind)

/-- **No byte is lost and none is made up**: the bytes that were handed over, and then what is left,
are the stream. -/
theorem ahead_progress {stream : σ → Nat → Option UInt8} (streams : r.Streams stream)
    (b : ReceiveBuffer) (s : σ) (n : Nat) :
    stream s = ahead (r.progress b s n).consumed (stream (r.progress b s n).source) := by
  induction n with
  | zero => rfl
  | succ n ih =>
    rw [progress_succ]
    have turned := turned_turn r (r.progress b s n)
    have read : ∀ {room : Nat} {answer : Except FaultKind Bytes},
        (r.read (r.progress b s n).source room).1 = answer →
          stream s = ahead (((r.progress b s n).answers ++ [answer]).flatMap handedOver)
            (stream (r.read (r.progress b s n).source room).2) := by
      intro room answer answered
      rw [List.flatMap_append, List.flatMap_singleton, ahead_append, ← answered, ← streams]
      exact ih
    generalize r.turn (r.progress b s n) = q at turned ⊢
    cases turned with
    | ended | complete | refused => exact ih
    | piece _ _ answered => exact read answered
    | interruption _ _ answered => exact read answered
    | cutOff _ _ _ answered => exact read answered

/-! ## Receptions from any reader -/

/-- What holds of a reception from a reader, however long it goes on. -/
structure Accounted (r : Reader σ) (b : ReceiveBuffer) (s : σ) : Prop where
  /-- After its end nothing happens. -/
  stays : ∀ {m n : Nat} {outcome : Except Error (Option Request)},
    (r.progress b s n).outcome = some outcome → n ≤ m → r.progress b s m = r.progress b s n
  /-- At any time, there were at most so many reads. -/
  reads : ∀ n, (r.progress b s n).answers.length ≤
    b.capacity + interruptions (r.progress b s n).answers + 1
  /-- If there are only so many interruptions, then the end is near. -/
  ends : ∀ limit, (∀ n, interruptions (r.progress b s n).answers ≤ limit) →
    (r.progress b s (b.capacity + limit + 1)).outcome ≠ none
  /-- The buffer holds what was handed over, and nothing from before. -/
  filled : ∀ n, (r.progress b s n).buffer.filled = (r.progress b s n).consumed
  fits : ∀ n, (r.progress b s n).buffer.filled.length ≤ b.capacity
  /-- What was handed over has been taken from the front of the stream. -/
  streamed : ∀ {stream : σ → Nat → Option UInt8}, r.Streams stream → ∀ n,
    stream s = ahead (r.progress b s n).consumed (stream (r.progress b s n).source)
  /-- A request takes exactly what it announces, if the buffer held no more than that at a time when
  the header block had ended. The byte behind it is then the next one. No buffer is as large as the
  largest length. -/
  exact : ∀ {m n headerEnd : Nat} {request : Request},
    (r.progress b s n).outcome = some (.ok (some request)) →
      Header.blockEnd? (r.progress b s m).buffer.filled = some headerEnd →
        (r.progress b s m).buffer.filled.length ≤ headerEnd + request.contentLength →
          b.capacity < maxLength →
            (r.progress b s n).consumed.length = headerEnd + request.contentLength ∧
              ∀ {stream : σ → Nat → Option UInt8}, r.Streams stream →
                stream (r.progress b s n).source 0 = stream s (headerEnd + request.contentLength)

/-- **Every reception is accounted for**, whatever is read from and whatever the buffer held. -/
theorem accounted (r : Reader σ) (b : ReceiveBuffer) (s : σ) : r.Accounted b s where
  stays ended later := progress_of_ended ended later
  reads n := by
    have tallied := r.tallied_progress b s n
    have fits := r.length_filled_progress_le b s n
    have reads := tallied.reads
    split at reads <;> omega
  ends limit bounded := by
    intro underway
    have tallied := r.tallied_progress b s (b.capacity + limit + 1)
    have fits := r.length_filled_progress_le b s (b.capacity + limit + 1)
    have reads := tallied.reads
    have few := bounded (b.capacity + limit + 1)
    rw [length_answers_of_underway underway, if_pos underway] at reads
    omega
  filled n := (r.tallied_progress b s n).filled
  fits := r.length_filled_progress_le b s
  streamed streams := ahead_progress streams b s
  exact {m n headerEnd request} received ended within small := by
    have length := length_consumed_eq received ended within small
    refine ⟨length, fun streams => ?_⟩
    rw [ahead_progress streams b s n, ahead, length, if_neg (Nat.lt_irrefl _), Nat.sub_self]

end Reader

/-! ## Receptions from connections -/

namespace Reception

open Reader (ofConnection)

/-- A reception from a connection is a run of turns. -/
theorem exists_iterate_turn_eq (b : ReceiveBuffer) (c : Connection)
    (answers : List (Except FaultKind Bytes)) :
    ∃ n later, ofConnection.turn^[n] ⟨b, c, answers, none⟩ =
      ⟨(resume b c).buffer, (resume b c).connection, later, some (resume b c).outcome⟩ := by
  induction b, c using resume.induct generalizing answers with
  | case1 b c request h =>
    rw [resume_of_complete h]
    refine ⟨1, answers, ?_⟩
    simp only [Function.iterate_one, Reader.turn, h]
  | case2 b c reason h =>
    rw [resume_of_refused h]
    refine ⟨1, answers, ?_⟩
    simp only [Function.iterate_one, Reader.turn, h]
  | case3 b c room h answer =>
    have read : (ofConnection.read c room).1 = .ok [] := answer
    rw [resume_of_closed h answer]
    refine ⟨1, answers ++ [.ok []], ?_⟩
    simp only [Function.iterate_one, Reader.turn, h, read, Progress.afterRead, if_true]
    rfl
  | case4 b c room h bytes answer ne_nil ih =>
    have read : (ofConnection.read c room).1 = .ok bytes := answer
    obtain ⟨n, later, run⟩ := ih (answers ++ [.ok bytes])
    rw [resume_of_piece h answer ne_nil]
    refine ⟨n + 1, later, ?_⟩
    rw [Function.iterate_succ_apply, ← run]
    simp only [Reader.turn, h, read, Progress.afterRead, ne_nil, if_false]
    rfl
  | case5 b c room h answer ih =>
    have read : (ofConnection.read c room).1 = .error .interrupted := answer
    obtain ⟨n, later, run⟩ := ih (answers ++ [.error .interrupted])
    rw [resume_of_interruption h answer]
    refine ⟨n + 1, later, ?_⟩
    rw [Function.iterate_succ_apply, ← run]
    simp only [Reader.turn, h, read, Progress.afterRead]
    rfl
  | case6 b c room h kind answer lasting =>
    have read : (ofConnection.read c room).1 = .error kind := answer
    rw [resume_of_fault h answer lasting]
    refine ⟨1, answers ++ [.error kind], ?_⟩
    simp only [Function.iterate_one, Reader.turn, h, read, Progress.afterRead, dif_pos lasting]
    rfl

/-- Each answer belongs to a read of the connection. -/
theorem exists_history_progress (b : ReceiveBuffer) (c : Connection) (n : Nat) :
    ∃ rooms : List Nat, rooms.length = (ofConnection.progress b c n).answers.length ∧
      (ofConnection.progress b c n).source.history = c.history ++ rooms.map Operation.read := by
  induction n with
  | zero => exact ⟨[], rfl, (List.append_nil _).symm⟩
  | succ n ih =>
    obtain ⟨rooms, count, history⟩ := ih
    rw [Reader.progress_succ]
    have turned := turned_turn ofConnection (ofConnection.progress b c n)
    generalize ofConnection.turn (ofConnection.progress b c n) = q at turned ⊢
    have read : ∀ room : Nat, ∀ answer : Except FaultKind Bytes,
        (rooms ++ [room]).length = ((ofConnection.progress b c n).answers ++ [answer]).length ∧
          (ofConnection.read (ofConnection.progress b c n).source room).2.history =
            c.history ++ (rooms ++ [room]).map Operation.read := by
      intro room answer
      constructor
      · rw [List.length_append, List.length_append, count]
        rfl
      · show (ofConnection.progress b c n).source.history ++ [Operation.read room] = _
        rw [history, List.map_append, List.append_assoc]
        rfl
    cases turned with
    | ended | complete | refused => exact ⟨rooms, count, history⟩
    | @piece room => exact ⟨_, read room _⟩
    | @interruption room => exact ⟨_, read room _⟩
    | @cutOff room => exact ⟨_, read room _⟩

/-- The reception from a connection is what some turns come to, with as many reads of the connection
as there were answers. -/
def RunsInTurns (b : ReceiveBuffer) (c : Connection) : Prop :=
  ∃ (n : Nat) (rooms : List Nat),
    (ofConnection.progress b c n).outcome = some (receive b c).outcome ∧
    (ofConnection.progress b c n).buffer = (receive b c).buffer ∧
    (ofConnection.progress b c n).source = (receive b c).connection ∧
    (ofConnection.progress b c n).answers.length = rooms.length ∧
    (receive b c).connection.history = c.history ++ rooms.map Operation.read

theorem runsInTurns (b : ReceiveBuffer) (c : Connection) : RunsInTurns b c := by
  obtain ⟨n, later, run⟩ := exists_iterate_turn_eq b.reset c []
  obtain ⟨rooms, count, history⟩ := exists_history_progress b c n
  have last : ofConnection.progress b c n =
      ⟨(receive b c).buffer, (receive b c).connection, later, some (receive b c).outcome⟩ := run
  refine ⟨n, rooms, ?_, ?_, ?_, count.symm, ?_⟩
  · rw [last]
  · rw [last]
  · rw [last]
  · rw [← history, last]

/-- **The reader neither loses, nor repeats, nor oversteps a byte, and it ends.** This holds of every
source of bytes, with or without an end, and a reception from a connection is an instance of it. -/
theorem every_read_accounted :
    (∀ {σ : Type} (r : Reader σ) (b : ReceiveBuffer) (s : σ), r.Accounted b s) ∧
      ∀ (b : ReceiveBuffer) (c : Connection), RunsInTurns b c :=
  ⟨Reader.accounted, runsInTurns⟩

end Reception

end DeviceHttp
