import DeviceHttp.Proofs.Accounting
import DeviceHttp.Proofs.WordLengths

/-!
# Receiving with machine words

A `ReceiveBuffer` holds a list of bytes and tells from that list alone what it wants next. A device
has cells instead, and a word that says how many of them are filled. It looks for the end of the
header block until it has found it, reads the head once, and from then on compares words. What it
asks a read for is a slice of its cells between two words.

**A device receives what a buffer receives, and without a breach** (`WordProgress.exists_progress`).
This holds at every moment of a reception from any reader, and for every length that a peer
announces. So no difference falls below zero, no sum wraps around, and no read is handed cells that
are not there. Together with what the lengths are, this is `WordProgress.lengths_saturate`.

## How

`WordProgress.Mirrors` says which state of a device stands for which state of a reception. A turn
keeps it (`WordProgress.exists_turn`). The cases are those of `ReceiveBuffer.Demands`, the reasons
for what a buffer wants. A device that has read the head still holds the head of what is in its
buffer, since further bytes do not change it.
-/

namespace DeviceHttp

variable {σ : Type}

/-! ## Buffers -/

/-- The cells of a receive buffer, of which so many are filled. -/
structure WordBuffer where
  cells : Bytes
  len : UInt64

namespace WordBuffer

/-- A buffer of so many cells without any contents. -/
def cleared (capacity : Nat) : WordBuffer := ⟨List.replicate capacity 0, 0⟩

def capacity (w : WordBuffer) : UInt64 := Word.length w.cells

/-- What the buffer holds. -/
def filled (w : WordBuffer) : Except Breach Bytes := Word.slice w.cells 0 w.len

def isFull (w : WordBuffer) : Bool := w.len = w.capacity

def isEmpty (w : WordBuffer) : Bool := w.len = 0

/-- One read of at most `most` bytes into the cells that are free. The answer is how many it has
brought. -/
def fillFrom (r : Reader σ) (w : WordBuffer) (s : σ) (most : UInt64) :
    Except Breach (Except FaultKind UInt64 × WordBuffer × σ) := do
  let stop := Word.least (Word.saturatingAdd w.len most) w.capacity
  let free ← Word.slice w.cells w.len stop
  match r.read s free.length with
  | (.error kind, s) => return (.error kind, w, s)
  | (.ok bytes, s) =>
    let n := Word.least (Word.length bytes) (← Word.sub stop w.len)
    let len ← Word.add w.len n
    let behind := w.cells.drop (w.len.toNat + bytes.length)
    return (.ok n, ⟨w.cells.take w.len.toNat ++ (bytes ++ behind), len⟩, s)

/-- The cells of a device stand for a buffer. -/
structure Holds (w : WordBuffer) (b : ReceiveBuffer) : Prop where
  capacity : w.cells.length = b.capacity
  len : w.len.toNat = b.filled.length
  filled : w.cells.take b.filled.length = b.filled

variable {w : WordBuffer} {b : ReceiveBuffer}

theorem holds_cleared (b : ReceiveBuffer) : (cleared b.capacity).Holds b.reset where
  capacity := List.length_replicate
  len := rfl
  filled := rfl

namespace Holds

theorem toNat_capacity (holds : w.Holds b) (small : b.capacity ≤ maxLength) :
    w.capacity.toNat = b.capacity := by
  rw [WordBuffer.capacity, Word.toNat_length (holds.capacity ▸ small), holds.capacity]

theorem filled_eq (holds : w.Holds b) : w.filled = .ok b.filled := by
  have fits := b.fits
  rw [WordBuffer.filled, Word.slice_from_start (by rw [holds.len, holds.capacity]; exact fits),
    holds.len, holds.filled]

theorem isFull_eq (holds : w.Holds b) (small : b.capacity ≤ maxLength) : w.isFull = b.isFull := by
  rw [WordBuffer.isFull, ReceiveBuffer.isFull, decide_eq_decide, ← UInt64.toNat_inj, holds.len,
    holds.toNat_capacity small]

theorem isEmpty_eq (holds : w.Holds b) : w.isEmpty = b.isEmpty := by
  have none : (0 : UInt64).toNat = 0 := rfl
  rw [WordBuffer.isEmpty, ReceiveBuffer.isEmpty, Bool.eq_iff_iff, decide_eq_true_eq,
    ← UInt64.toNat_inj, holds.len, none, List.isEmpty_iff_length_eq_zero]

/-- What a read brings stands behind what was there. -/
theorem append (holds : w.Holds b) {bytes : Bytes} (fits : bytes.length ≤ b.room) {len : UInt64}
    (len_eq : len.toNat = b.filled.length + bytes.length) :
    Holds ⟨w.cells.take w.len.toNat ++ (bytes ++ w.cells.drop (w.len.toNat + bytes.length)), len⟩
      (b.append bytes) := by
  have room : b.room = b.capacity - b.filled.length := rfl
  have within := b.fits
  have cells := holds.capacity
  have grown := ReceiveBuffer.filled_append fits
  rw [holds.len, holds.filled]
  refine ⟨?_, ?_, ?_⟩
  · show _ = b.capacity
    rw [List.length_append, List.length_append, List.length_drop, cells]
    omega
  · rw [grown, List.length_append, len_eq]
  · show (b.filled ++ (bytes ++ _)).take _ = _
    rw [grown, ← List.append_assoc, List.take_left]

variable {r : Reader σ} {s : σ} {most : UInt64} {room : Nat}

/-- The cells that a read is given are there, and there are as many as it should bring at most. -/
theorem exists_free (holds : w.Holds b) (small : b.capacity ≤ maxLength)
    (room_eq : room = min most.toNat b.room) :
    ∃ stop free, Word.least (Word.saturatingAdd w.len most) w.capacity = stop ∧
      Word.slice w.cells w.len stop = .ok free ∧ free.length = room ∧
        stop.toNat = b.filled.length + room := by
  have within := b.fits
  have free : b.room = b.capacity - b.filled.length := rfl
  have stop_eq : (Word.least (Word.saturatingAdd w.len most) w.capacity).toNat =
      b.filled.length + room := by
    rw [Word.toNat_least, Word.toNat_saturatingAdd, holds.len, holds.toNat_capacity small]
    omega
  refine ⟨_, _, rfl, Word.slice_of_le ?_ ?_, ?_, stop_eq⟩
  · rw [stop_eq, holds.len]
    exact Nat.le_add_right _ _
  · rw [stop_eq, holds.capacity]
    omega
  · rw [stop_eq, holds.len, List.length_take, List.length_drop, holds.capacity]
    omega

/-- A read that fails leaves the buffer as it is. -/
theorem fillFrom_of_error (holds : w.Holds b) (small : b.capacity ≤ maxLength)
    (room_eq : room = min most.toNat b.room) {kind : FaultKind}
    (answered : (r.read s room).1 = .error kind) :
    w.fillFrom r s most = .ok (.error kind, w, (r.read s room).2) := by
  obtain ⟨stop, free, stop_def, slice, length, -⟩ := holds.exists_free small room_eq
  have read : r.read s free.length = (.error kind, (r.read s room).2) := by
    rw [length, ← answered]
  rw [fillFrom, stop_def]
  simp only [bind, Except.bind, slice, read]
  rfl

/-- **A read that brings something is added up without a breach.** -/
theorem exists_fillFrom_of_ok (holds : w.Holds b) (small : b.capacity ≤ maxLength)
    (room_eq : room = min most.toNat b.room) {bytes : Bytes}
    (answered : (r.read s room).1 = .ok bytes) :
    ∃ n w', w.fillFrom r s most = .ok (.ok n, w', (r.read s room).2) ∧
      n.toNat = bytes.length ∧ w'.Holds (b.append bytes) := by
  obtain ⟨stop, free, stop_def, slice, length, stop_eq⟩ := holds.exists_free small room_eq
  have within := b.fits
  have room_def : b.room = b.capacity - b.filled.length := rfl
  have brought := r.length_le answered
  have read : r.read s free.length = (.ok bytes, (r.read s room).2) := by
    rw [length, ← answered]
  obtain ⟨space, difference, space_eq⟩ :=
    Word.exists_sub (a := stop) (b := w.len) (by rw [stop_eq, holds.len]; omega)
  have n_eq : (Word.least (Word.length bytes) space).toNat = bytes.length := by
    rw [Word.toNat_least, Word.toNat_length (by omega), space_eq, stop_eq, holds.len]
    omega
  obtain ⟨len, sum, len_eq⟩ :=
    Word.exists_add (a := w.len) (b := Word.least (Word.length bytes) space)
      (by rw [n_eq, holds.len]; omega)
  rw [n_eq, holds.len] at len_eq
  refine ⟨_, _, ?_, n_eq, holds.append (by omega) len_eq⟩
  rw [fillFrom, stop_def]
  simp only [bind, Except.bind, slice, read, difference, sum]
  rfl

end Holds

end WordBuffer

/-! ## Receptions -/

/-- A reception under way on a device. -/
structure WordProgress (σ : Type) where
  buffer : WordBuffer
  source : σ
  /-- The head of the request, once the header block has ended. -/
  head : Option PlacedHead := none
  /-- The outcome, once the reception has ended. -/
  outcome : Option (Except Error (Option PlacedRequest)) := none

namespace WordProgress

/-- The reception has ended. -/
def ended (p : WordProgress σ) (outcome : Except Error (Option PlacedRequest)) : WordProgress σ :=
  { p with outcome := some outcome }

/-- Takes up a head that was read. It is refused if its request is too long for the buffer. -/
def takeUp (p : WordProgress σ) : Except Error PlacedHead → WordProgress σ
  | .error reason => p.ended (.error reason)
  | .ok head =>
    if p.buffer.capacity < head.requestLength then
      p.ended (.error (.requestTooLarge head.requestLength.toNat p.buffer.capacity.toNat))
    else { p with head := some head }

/-- Looks for the end of the header block, and reads the head where it has ended. -/
def seek (p : WordProgress σ) : Except Breach (WordProgress σ) :=
  match p.head with
  | some _ => return p
  | none => do
    let filled ← p.buffer.filled
    match ← Word.blockEnd? filled with
    | none => return p
    | some headerEnd => return p.takeUp (← PlacedHead.read filled headerEnd)

/-- Reads at most `most` bytes. A peer that closes its side, or lets the time run out, before it has
sent anything has made no request. Once there is a head it has. -/
def fill (r : Reader σ) (p : WordProgress σ) (most : UInt64) : Except Breach (WordProgress σ) := do
  let idle := p.head.isNone && p.buffer.isEmpty
  let (answer, buffer, source) ← p.buffer.fillFrom r p.source most
  match answer with
  | .ok n =>
    if n = 0 then return ended { p with source } (if idle then .ok none else .error .closedEarly)
    else return { p with source, buffer }
  | .error kind =>
    if kind = .interrupted then return { p with source }
    else
      return ended { p with source }
        (if kind.isTimeout && idle then .ok none else .error (.transport (.plain kind)))

/-- Goes on with what is known of the head: a read of what fits, a read of what is missing, or the
request. -/
def goOn (r : Reader σ) (p : WordProgress σ) : Except Breach (WordProgress σ) :=
  match p.head with
  | none =>
    if p.buffer.isFull then return p.ended (.error .headTooLarge)
    else p.fill r Word.largest
  | some head =>
    let needed := head.requestLength
    if p.buffer.len < needed then do
      let missing ← Word.sub needed p.buffer.len
      p.fill r missing
    else do
      return p.ended (.ok (some (← PlacedRequest.ofHead (← p.buffer.filled) head)))

/-- One turn of a reception. It makes at most one read. -/
def turn (r : Reader σ) (p : WordProgress σ) : Except Breach (WordProgress σ) :=
  match p.outcome with
  | some _ => return p
  | none => do
    let p ← p.seek
    match p.outcome with
    | some _ => return p
    | none => p.goOn r

/-- The reception after some turns. It begins with cells that have been cleared. -/
def progress (r : Reader σ) (capacity : Nat) (s : σ) : (n : Nat) → Except Breach (WordProgress σ)
  | 0 => .ok { buffer := .cleared capacity, source := s }
  | n + 1 => do (← progress r capacity s n).turn r

end WordProgress

/-- An outcome with a request by places stands for one with the request that is cut out there. -/
inductive ConcludesAs : Option (Except Error (Option PlacedRequest)) →
    Option (Except Error (Option Request)) → Prop where
  | underway : ConcludesAs none none
  | failure (reason : Error) : ConcludesAs (some (.error reason)) (some (.error reason))
  | nothing : ConcludesAs (some (.ok none)) (some (.ok none))
  | request {placed : PlacedRequest} {request : Request} : placed.cutOut = .ok request →
      ConcludesAs (some (.ok (some placed))) (some (.ok (some request)))

/-- Both have ended, or neither has. -/
theorem ConcludesAs.eq_none_iff {outcome : Option (Except Error (Option PlacedRequest))}
    {outcome' : Option (Except Error (Option Request))} (concludes : ConcludesAs outcome outcome') :
    outcome = none ↔ outcome' = none := by
  cases concludes with
  | underway => exact iff_of_true rfl rfl
  | failure | nothing | request => exact iff_of_false nofun nofun

namespace WordProgress

/-- The head that a device has read is that of a request which its buffer can hold. -/
structure Knows (b : ReceiveBuffer) (placed : PlacedHead) (head : Head) : Prop where
  ended : Header.blockEnd? b.filled = some head.headerEnd
  good : Head.read b.filled head.headerEnd = .ok head
  places : placed.Places b.filled head
  fits : head.requestLength ≤ b.capacity

/-- A state of a device stands for a state of a reception. -/
structure Mirrors (p : WordProgress σ) (q : Progress σ) : Prop where
  buffer : p.buffer.Holds q.buffer
  source : p.source = q.source
  head : ∀ placed, p.head = some placed → ∃ head, Knows q.buffer placed head
  outcome : ConcludesAs p.outcome q.outcome

variable {p : WordProgress σ} {q : Progress σ} {r : Reader σ}

/-! ### Looking for the head -/

theorem seek_of_unended (mirrors : p.Mirrors q)
    (unended : Header.blockEnd? q.buffer.filled = none) : p.seek = .ok p ∧ p.head = none := by
  have unknown : p.head = none := by
    refine Option.eq_none_iff_forall_ne_some.2 fun placed known => ?_
    obtain ⟨head, knows⟩ := mirrors.head placed known
    rw [knows.ended] at unended
    cases unended
  refine ⟨?_, unknown⟩
  rw [seek, unknown]
  simp only [bind, Except.bind, mirrors.buffer.filled_eq, Word.blockEnd?_of_none unended]
  rfl

/-- Where the header block has ended and the head is not known, a device reads it. -/
theorem exists_seek_eq (mirrors : p.Mirrors q) (small : q.buffer.capacity ≤ maxLength)
    (unknown : p.head = none) {i : Nat} (found : Header.blockEnd? q.buffer.filled = some i) :
    ∃ headerEnd : UInt64, headerEnd.toNat = i ∧
      p.seek = (PlacedHead.read q.buffer.filled headerEnd).map p.takeUp := by
  obtain ⟨headerEnd, ended, headerEnd_eq⟩ :=
    Word.exists_blockEnd?_of_some (Nat.le_trans q.buffer.fits small) found
  refine ⟨headerEnd, headerEnd_eq, ?_⟩
  rw [seek, unknown]
  simp only [bind, Except.bind, mirrors.buffer.filled_eq, ended]
  cases PlacedHead.read q.buffer.filled headerEnd <;> rfl

/-- What a device makes of the end of a header block. -/
inductive Sought (p : WordProgress σ) (b : ReceiveBuffer) (i : Nat) : WordProgress σ → Prop where
  | badHead {reason : Error} : Head.read b.filled i = .error reason →
      Sought p b i (p.ended (.error reason))
  | tooLarge {head : Head} : Head.read b.filled i = .ok head → b.capacity < head.requestLength →
      Sought p b i (p.ended (.error (.requestTooLarge head.requestLength b.capacity)))
  | known {placed : PlacedHead} {head : Head} : Head.read b.filled i = .ok head →
      Knows b placed head → Sought p b i { p with head := some placed }

/-- **A device knows the head as soon as the header block has ended**, and it reads it only once. -/
theorem exists_sought (mirrors : p.Mirrors q) (small : q.buffer.capacity ≤ maxLength) {i : Nat}
    (found : Header.blockEnd? q.buffer.filled = some i) :
    ∃ p', p.seek = .ok p' ∧ Sought p q.buffer i p' := by
  cases known : p.head with
  | some placed =>
    obtain ⟨head, knows⟩ := mirrors.head placed known
    obtain rfl : head.headerEnd = i := Option.some.inj (knows.ended.symm.trans found)
    have kept : { p with head := some placed } = p := by rw [← known]
    refine ⟨{ p with head := some placed }, ?_, .known knows.good knows⟩
    rw [kept, seek, known]
    rfl
  | none =>
    obtain ⟨headerEnd, rfl, sought⟩ := exists_seek_eq mirrors small known found
    have within := Header.blockEnd?_le found
    have fits := q.buffer.fits
    obtain ⟨reason, read, bad⟩ | ⟨placed, head, read, good, places⟩ :=
      PlacedHead.read_cases (by omega) within
    · rw [read] at sought
      exact ⟨_, sought, .badHead bad⟩
    · rw [read] at sought
      have needed := PlacedHead.toNat_requestLength places
      have capacity := mirrors.buffer.toNat_capacity small
      have exceeds_iff : p.buffer.capacity < placed.requestLength ↔
          q.buffer.capacity < head.requestLength := by
        rw [UInt64.lt_iff_toNat_lt, capacity, needed]
      refine ⟨_, sought, ?_⟩
      rw [takeUp]
      split
      · next exceeds =>
        rw [needed, capacity]
        exact .tooLarge good (exceeds_iff.1 exceeds)
      · next fits' =>
        have whereabouts := Head.headerEnd_read good
        refine .known good ⟨?_, ?_, places, Nat.le_of_not_lt fun exceeds =>
          fits' (exceeds_iff.2 exceeds)⟩
        · rw [whereabouts, found]
        · rw [whereabouts, good]

/-! ### A read -/

/-- Further bytes do not change what is known of the head. -/
theorem Knows.append {b : ReceiveBuffer} {placed : PlacedHead} {head : Head}
    (knows : Knows b placed head) (bytes : Bytes) : Knows (b.append bytes) placed head := by
  obtain ⟨kept, grown⟩ := b.exists_filled_append bytes
  refine ⟨?_, ?_, ?_, knows.fits⟩
  · rw [grown]
    exact Header.blockEnd?_append knows.ended kept
  · rw [grown, Head.read_append (Header.blockEnd?_le knows.ended)]
    exact knows.good
  · rw [grown]
    exact knows.places.append kept

/-- Once the head is known, the buffer holds something. -/
theorem idle_eq (mirrors : p.Mirrors q) :
    (p.head.isNone && p.buffer.isEmpty) = q.buffer.isEmpty := by
  rw [mirrors.buffer.isEmpty_eq]
  cases known : p.head with
  | none => rfl
  | some placed =>
    obtain ⟨head, knows⟩ := mirrors.head placed known
    have holds : q.buffer.filled ≠ [] := by
      intro nothing
      have ended := knows.ended
      rw [nothing] at ended
      cases ended
    exact (List.isEmpty_eq_false_iff.2 holds).symm

/-- Both sides end in the same way. -/
theorem Mirrors.ended (mirrors : p.Mirrors q) {outcome : Except Error (Option PlacedRequest)}
    {outcome' : Except Error (Option Request)}
    (concludes : ConcludesAs (some outcome) (some outcome')) :
    (p.ended outcome).Mirrors { q with outcome := some outcome' } :=
  ⟨mirrors.buffer, mirrors.source, mirrors.head, concludes⟩

/-- **A read is the same read**: it asks for as many bytes, and its answer means the same. -/
theorem exists_fill (mirrors : p.Mirrors q) (small : q.buffer.capacity ≤ maxLength) {most : UInt64} {room : Nat}
    (room_eq : room = min most.toNat q.buffer.room) :
    ∃ p', p.fill r most = .ok p' ∧
      p'.Mirrors (q.afterRead (r.read q.source room).1 (r.read q.source room).2) := by
  have idle := idle_eq mirrors
  have concludes := mirrors.outcome
  have before : ∀ (source : σ) (answers : List (Except FaultKind Bytes)),
      Mirrors { p with source } { q with source, answers } := fun _ _ =>
    ⟨mirrors.buffer, rfl, mirrors.head, mirrors.outcome⟩
  cases answered : (r.read q.source room).1 with
  | error kind =>
    have failed := mirrors.buffer.fillFrom_of_error small room_eq answered
    rw [fill, mirrors.source, failed, idle, Progress.afterRead]
    by_cases passing : kind = .interrupted
    · rw [dif_neg (not_not_intro passing)]
      refine ⟨{ p with source := (r.read q.source room).2 }, ?_, before _ _⟩
      simp only [bind, Except.bind, if_pos passing]
      rfl
    · rw [dif_pos passing, ReceiveBuffer.cutOffBy]
      simp only [bind, Except.bind, if_neg passing]
      refine ⟨_, rfl, (before _ _).ended ?_⟩
      cases kind.isTimeout && q.buffer.isEmpty with
      | true => exact .nothing
      | false => exact .failure _
  | ok bytes =>
    obtain ⟨n, w, filled, n_eq, holds⟩ :=
      mirrors.buffer.exists_fillFrom_of_ok small room_eq answered
    have nothing_iff : n = 0 ↔ bytes = [] := by
      rw [← List.length_eq_zero_iff, ← n_eq, ← UInt64.toNat_inj]
      rfl
    rw [fill, mirrors.source, filled, idle, Progress.afterRead]
    by_cases nothing : bytes = []
    · rw [if_pos nothing, ReceiveBuffer.cutOffBy]
      simp only [bind, Except.bind, if_pos (nothing_iff.2 nothing)]
      refine ⟨_, rfl, (before _ _).ended ?_⟩
      cases q.buffer.isEmpty with
      | true => exact .nothing
      | false => exact .failure _
    · rw [if_neg nothing]
      simp only [bind, Except.bind, if_neg fun none => nothing (nothing_iff.1 none)]
      refine ⟨_, rfl, holds, rfl, fun placed known => ?_, concludes⟩
      obtain ⟨head, knows⟩ := mirrors.head placed known
      exact ⟨head, knows.append bytes⟩

/-! ### A turn -/

/-- Until the header block has ended, a device reads whatever fits. -/
theorem exists_goOn_of_unknown (mirrors : p.Mirrors q) (underway : q.outcome = none)
    (small : q.buffer.capacity ≤ maxLength) (unended : Header.blockEnd? q.buffer.filled = none)
    (unknown : p.head = none) : ∃ p', p.goOn r = .ok p' ∧ p'.Mirrors (r.turn q) := by
  rw [goOn, unknown, Reader.turn, underway]
  simp only [mirrors.buffer.isFull_eq small]
  cases full : q.buffer.isFull with
  | true =>
    rw [ReceiveBuffer.Demands.eq_demand (.unendedFull unended full)]
    exact ⟨_, rfl, mirrors.ended (.failure _)⟩
  | false =>
    rw [ReceiveBuffer.Demands.eq_demand (.unended unended full)]
    refine exists_fill mirrors small ?_
    have within : q.buffer.room ≤ q.buffer.capacity := Nat.sub_le _ _
    rw [Word.toNat_largest]
    omega

/-- **A device that knows the head reads what is missing of the request**, and no difference of
lengths falls below zero. -/
theorem exists_goOn_of_known (mirrors : p.Mirrors q) (underway : q.outcome = none)
    (small : q.buffer.capacity ≤ maxLength) {placed : PlacedHead} {head : Head}
    (known : p.head = some placed) (knows : Knows q.buffer placed head) :
    ∃ p', p.goOn r = .ok p' ∧ p'.Mirrors (r.turn q) := by
  have within := q.buffer.fits
  have needed := PlacedHead.toNat_requestLength knows.places
  have length := mirrors.buffer.len
  have short_iff : p.buffer.len < placed.requestLength ↔
      q.buffer.filled.length < head.requestLength := by
    rw [UInt64.lt_iff_toNat_lt, length, needed]
  rw [goOn, known, Reader.turn, underway]
  simp only
  by_cases short : q.buffer.filled.length < head.requestLength
  · rw [if_pos (short_iff.2 short),
      ReceiveBuffer.Demands.eq_demand (.unfinished knows.ended knows.good knows.fits short)]
    obtain ⟨missing, difference, missing_eq⟩ :=
      Word.exists_sub (a := placed.requestLength) (b := p.buffer.len) (by omega)
    rw [difference]
    refine exists_fill mirrors small ?_
    have fits := knows.fits
    have room : q.buffer.room = q.buffer.capacity - q.buffer.filled.length := rfl
    omega
  · obtain ⟨request, made, cut⟩ := PlacedRequest.exists_ofHead (by omega) knows.places
    rw [if_neg fun short' => short (short_iff.1 short'), mirrors.buffer.filled_eq,
      ReceiveBuffer.Demands.eq_demand (.complete knows.ended knows.good (Nat.le_of_not_lt short))]
    simp only [bind, Except.bind, made]
    exact ⟨_, rfl, mirrors.ended (.request cut)⟩

/-- **A turn on a device is a turn of the reception.** -/
theorem exists_turn (mirrors : p.Mirrors q) (small : q.buffer.capacity ≤ maxLength) :
    ∃ p', p.turn r = .ok p' ∧ p'.Mirrors (r.turn q) := by
  have concludes := mirrors.outcome
  cases ended : p.outcome with
  | some outcome =>
    rw [ended] at concludes
    obtain ⟨outcome', ended'⟩ := Option.ne_none_iff_exists'.1 fun underway =>
      Option.some_ne_none outcome (concludes.eq_none_iff.2 underway)
    rw [turn, ended, Reader.turn_of_ended ended']
    exact ⟨p, rfl, mirrors⟩
  | none =>
    have underway := concludes.eq_none_iff.1 ended
    rw [turn, ended]
    cases found : Header.blockEnd? q.buffer.filled with
    | none =>
      obtain ⟨sought, unknown⟩ := seek_of_unended mirrors found
      simp only [bind, Except.bind, sought, ended]
      exact exists_goOn_of_unknown mirrors underway small found unknown
    | some i =>
      obtain ⟨p', sought, result⟩ := exists_sought mirrors small found
      simp only [bind, Except.bind, sought]
      cases result with
      | badHead bad =>
        rw [Reader.turn, underway, ReceiveBuffer.Demands.eq_demand (.badHead found bad)]
        exact ⟨_, rfl, mirrors.ended (.failure _)⟩
      | tooLarge good exceeds =>
        rw [Reader.turn, underway, ReceiveBuffer.Demands.eq_demand (.tooLarge found good exceeds)]
        exact ⟨_, rfl, mirrors.ended (.failure _)⟩
      | @known placed head good knows =>
        simp only [ended]
        refine exists_goOn_of_known ⟨mirrors.buffer, mirrors.source, ?_, ?_⟩ underway small rfl knows
        · rintro _ ⟨rfl⟩
          exact ⟨head, knows⟩
        · rw [underway]
          exact .underway

/-- **A device receives what a buffer receives, and without a breach.** -/
theorem exists_progress (r : Reader σ) (b : ReceiveBuffer) (s : σ) (small : b.capacity ≤ maxLength)
    (n : Nat) :
    ∃ p, progress r b.capacity s n = .ok p ∧ p.Mirrors (r.progress b s n) := by
  induction n with
  | zero => exact ⟨_, rfl, WordBuffer.holds_cleared b, rfl, nofun, .underway⟩
  | succ n ih =>
    obtain ⟨p, here, mirrors⟩ := ih
    have capacity := (r.tallied_progress b s n).capacity
    rw [progress, here, Reader.progress_succ]
    exact exists_turn mirrors (capacity ▸ small)

/-- A reception from a connection comes to its outcome on a device as well. -/
theorem exists_progress_of_receive (b : ReceiveBuffer) (c : Connection)
    (small : b.capacity ≤ maxLength) :
    ∃ n p, progress .ofConnection b.capacity c n = .ok p ∧
      p.buffer.Holds (Reception.receive b c).buffer ∧
      p.source = (Reception.receive b c).connection ∧
      ConcludesAs p.outcome (some (Reception.receive b c).outcome) := by
  obtain ⟨n, -, outcome, buffer, connection, -, -⟩ := Reception.runsInTurns b c
  obtain ⟨p, received, mirrors⟩ := exists_progress .ofConnection b c small n
  refine ⟨n, p, received, ?_, ?_, ?_⟩
  · rw [← buffer]
    exact mirrors.buffer
  · rw [← connection]
    exact mirrors.source
  · rw [← outcome]
    exact mirrors.outcome

/-- **Lengths saturate and never wrap.** A value announces the number that its digits stand for, or
the largest length, and a request takes its head and that length together, or the largest length.
With these lengths reading and receiving come to the same in machine words, for every byte string and
for whatever is read from: no difference falls below zero, no sum wraps around, and nothing is cut out
where no bytes are. No byte string on a device is longer than the largest length. -/
theorem lengths_saturate :
    (∀ value, ∃ blanks digits rest, Bytes.StartsWithDigits value blanks digits rest) ∧
    (∀ {value blanks digits rest}, Bytes.StartsWithDigits value blanks digits rest →
      Header.contentLength value = min (Bytes.decimal digits) maxLength ∧
        ∃ n, Word.contentLength value = .ok n ∧ n.toNat = min (Bytes.decimal digits) maxLength) ∧
    (∀ head : Head, head.requestLength = min (head.headerEnd + head.contentLength) maxLength) ∧
    (∀ placed : PlacedHead, placed.requestLength.toNat =
      min (placed.headerEnd.toNat + placed.contentLength.toNat) maxLength) ∧
    (∀ b : Bytes, b.length ≤ maxLength → PlacedRequest.reads b = .ok (Request.ofBytes b)) ∧
    (∀ {σ : Type} (r : Reader σ) (b : ReceiveBuffer) (s : σ), b.capacity ≤ maxLength →
      ∀ n, ∃ p, progress r b.capacity s n = .ok p ∧ p.Mirrors (r.progress b s n)) ∧
    ∀ (b : ReceiveBuffer) (c : Connection), b.capacity ≤ maxLength →
      ∃ n p, progress .ofConnection b.capacity c n = .ok p ∧
        p.buffer.Holds (Reception.receive b c).buffer ∧
        p.source = (Reception.receive b c).connection ∧
        ConcludesAs p.outcome (some (Reception.receive b c).outcome) := by
  refine ⟨fun value => ⟨_, _, _, Bytes.startsWithDigits value⟩, ?_, ?_, ?_, ?_, exists_progress,
    exists_progress_of_receive⟩
  · intro value blanks digits rest starts
    have length := Header.contentLength_eq starts
    obtain ⟨n, read, n_eq⟩ := Word.exists_contentLength value
    exact ⟨length, n, read, n_eq.trans length⟩
  · intro head
    rfl
  · intro placed
    exact Word.toNat_saturatingAdd _ _
  · intro b small
    exact PlacedRequest.reads_eq small

/-- More nines than a word can hold, behind zeros and in front of something else. The request is not
there as a whole, and no buffer can hold it. -/
theorem lengths_saturate_of_many_nines :
    let digits := Utf8.encode "00099999999999999999999"
    let request := Utf8.encode "PUT / HTTP/1.1\r\nContent-Length: \t 00099999999999999999999;\r\n\r\n"
    let c : Connection := { arrivals := [.data (request.take 30), .data (request.drop 30)] }
    Bytes.StartsWithDigits (Utf8.encode "\t 00099999999999999999999;") [9, 32] digits [59] ∧
      maxLength < Bytes.decimal digits ∧
      Header.contentLength (Utf8.encode "\t 00099999999999999999999;") = maxLength ∧
      PlacedRequest.reads request = .ok (.error .incomplete) ∧
      ∃ n p, progress .ofConnection 80 c n = .ok p ∧
        p.outcome = some (.error (.requestTooLarge maxLength 80)) := by
  intro digits request c
  obtain ⟨-, announces, -, -, reads, progresses, -⟩ := lengths_saturate
  have starts : Bytes.StartsWithDigits (Utf8.encode "\t 00099999999999999999999;") [9, 32] digits
      [59] := Bytes.startsWithDigits (Utf8.encode "\t 00099999999999999999999;")
  have huge : maxLength < Bytes.decimal digits := by decide +kernel
  refine ⟨starts, huge, ?_, ?_, ?_⟩
  · rw [(announces starts).1, Nat.min_eq_right (Nat.le_of_lt huge)]
  · rw [reads request (by decide)]
    exact congrArg Except.ok (by decide +kernel)
  · obtain ⟨p, received, mirrors⟩ := progresses .ofConnection (.new 80) c (by decide) 3
    have refused : (Reader.ofConnection.progress (.new 80) c 3).outcome =
        some (.error (.requestTooLarge maxLength 80)) := by decide +kernel
    have concludes := mirrors.outcome
    rw [refused] at concludes
    refine ⟨3, p, received, ?_⟩
    generalize p.outcome = outcome at concludes ⊢
    cases concludes with
    | failure => rfl

end WordProgress

end DeviceHttp
