import DeviceHttp.Bytes

/-!
# The header buffer

The header of a response is put together from pieces in a buffer of fixed capacity that is used
again for every response. A piece is kept whole or not at all, and after one that did not fit the
buffer takes nothing more.

The buffer is a row of cells that are filled from the front. Nothing clears them: behind the pieces
of one header the cells hold what earlier headers have left there.

## Main statements

* `HeaderBuffer.overflowed_fill_iff` — filling overflows exactly when the pieces together are longer
  than the capacity
* `HeaderBuffer.bytes_fill` — otherwise the buffer holds exactly the pieces, whatever its cells held
-/

namespace DeviceHttp

/-- The pieces of a header so far, in the cells of a buffer. -/
structure HeaderBuffer where
  /-- What was last written to each cell. -/
  cells : Bytes
  /-- How many cells the pieces take. -/
  used : Nat := 0
  /-- Whether a piece did not fit. -/
  overflowed : Bool := false
  fits : used ≤ cells.length := by simp
deriving DecidableEq

namespace HeaderBuffer

/-- A buffer to which nothing was written yet. -/
def new (capacity : Nat) : HeaderBuffer where
  cells := List.replicate capacity 0

/-- The number of cells. -/
def capacity (b : HeaderBuffer) : Nat := b.cells.length

/-- The pieces so far. -/
def bytes (b : HeaderBuffer) : Bytes := b.cells.take b.used

/-- The buffer without pieces. The cells keep what they hold. -/
def reset (b : HeaderBuffer) : HeaderBuffer where
  cells := b.cells

/-- Writes a piece that fits behind the pieces so far. -/
def write (b : HeaderBuffer) (piece : Bytes) (_room : piece.length ≤ b.capacity - b.used) :
    HeaderBuffer where
  cells := b.bytes ++ piece ++ b.cells.drop (b.used + piece.length)
  used := b.used + piece.length
  overflowed := b.overflowed
  fits := by
    have := b.fits
    simp only [bytes, List.length_append, List.length_take, List.length_drop]
    omega

/-- Adds a piece if it fits. Once a piece did not fit, nothing is added. -/
def push (b : HeaderBuffer) (piece : Bytes) : HeaderBuffer :=
  if b.overflowed then b
  else if room : piece.length ≤ b.capacity - b.used then b.write piece room
  else { b with overflowed := true }

/-- The buffer with nothing but the given pieces. -/
def fill (b : HeaderBuffer) (pieces : List Bytes) : HeaderBuffer := pieces.foldl push b.reset

@[simp] theorem capacity_new (capacity : Nat) : (new capacity).capacity = capacity :=
  List.length_replicate

@[simp] theorem capacity_reset (b : HeaderBuffer) : b.reset.capacity = b.capacity := rfl

@[simp] theorem bytes_reset (b : HeaderBuffer) : b.reset.bytes = [] := rfl

theorem length_bytes (b : HeaderBuffer) : b.bytes.length = b.used :=
  List.length_take_of_le b.fits

theorem length_bytes_le (b : HeaderBuffer) : b.bytes.length ≤ b.capacity :=
  b.length_bytes ▸ b.fits

/-- The pieces after a write are those before it and the new one. -/
theorem bytes_write {b : HeaderBuffer} {piece : Bytes}
    (room : piece.length ≤ b.capacity - b.used) :
    (b.write piece room).bytes = b.bytes ++ piece := by
  have length : (b.bytes ++ piece).length = b.used + piece.length := by
    rw [List.length_append, length_bytes]
  exact List.take_left' length

/-- A write changes cells, but not how many there are. -/
theorem capacity_write {b : HeaderBuffer} {piece : Bytes}
    (room : piece.length ≤ b.capacity - b.used) : (b.write piece room).capacity = b.capacity := by
  have := b.fits
  simp only [capacity] at room
  simp only [capacity, write, List.length_append, length_bytes, List.length_drop]
  omega

@[simp] theorem capacity_push (b : HeaderBuffer) (piece : Bytes) :
    (b.push piece).capacity = b.capacity := by
  unfold push
  split
  · rfl
  · split
    next room => exact capacity_write room
    next => rfl

@[simp] theorem capacity_fill (b : HeaderBuffer) (pieces : List Bytes) :
    (b.fill pieces).capacity = b.capacity := by
  have kept (b : HeaderBuffer) : (pieces.foldl push b).capacity = b.capacity := by
    induction pieces generalizing b with
    | nil => rfl
    | cons piece pieces ih => rw [List.foldl_cons, ih, capacity_push]
  rw [fill, kept, capacity_reset]

theorem foldl_push_of_overflowed {b : HeaderBuffer} (h : b.overflowed = true)
    (pieces : List Bytes) : pieces.foldl push b = b := by
  induction pieces with
  | nil => rfl
  | cons piece pieces ih => rw [List.foldl_cons, push, if_pos h, ih]

/-- A piece that fits is added. -/
theorem push_of_fits {b : HeaderBuffer} {piece : Bytes} (intact : b.overflowed = false)
    (h : (b.bytes ++ piece).length ≤ b.capacity) :
    (b.push piece).bytes = b.bytes ++ piece ∧ (b.push piece).overflowed = false := by
  rw [List.length_append, length_bytes] at h
  have room : piece.length ≤ b.capacity - b.used := by omega
  rw [push, if_neg (by simp [intact]), dif_pos room]
  exact ⟨bytes_write room, intact⟩

theorem overflowed_push {b : HeaderBuffer} {piece : Bytes}
    (h : b.capacity < (b.bytes ++ piece).length) : (b.push piece).overflowed = true := by
  have := b.length_bytes_le
  rw [List.length_append, length_bytes] at h
  rw [length_bytes] at this
  unfold push
  split
  · assumption
  · rw [dif_neg (by omega)]

/-- Pieces that fit together are all kept. -/
theorem foldl_push_of_fits {b : HeaderBuffer} (intact : b.overflowed = false) {pieces : List Bytes}
    (h : (b.bytes ++ pieces.flatten).length ≤ b.capacity) :
    (pieces.foldl push b).bytes = b.bytes ++ pieces.flatten ∧
      (pieces.foldl push b).overflowed = false := by
  induction pieces generalizing b with
  | nil => exact ⟨(List.append_nil _).symm, intact⟩
  | cons piece pieces ih =>
    rw [List.flatten_cons, ← List.append_assoc] at h
    have fits : (b.bytes ++ piece).length ≤ b.capacity := by
      rw [List.length_append] at h
      omega
    obtain ⟨pushed, still⟩ := push_of_fits intact fits
    obtain ⟨kept, last⟩ := ih still (by rw [pushed, capacity_push]; exact h)
    rw [List.foldl_cons, kept, pushed, List.flatten_cons, List.append_assoc]
    exact ⟨rfl, last⟩

/-- Of pieces that do not fit together, one does not fit. -/
theorem overflowed_foldl_push {b : HeaderBuffer} (intact : b.overflowed = false)
    {pieces : List Bytes} (h : b.capacity < (b.bytes ++ pieces.flatten).length) :
    (pieces.foldl push b).overflowed = true := by
  induction pieces generalizing b with
  | nil =>
    have := b.length_bytes_le
    rw [List.flatten_nil, List.append_nil] at h
    omega
  | cons piece pieces ih =>
    rw [List.flatten_cons, ← List.append_assoc] at h
    rw [List.foldl_cons]
    by_cases room : (b.bytes ++ piece).length ≤ b.capacity
    · obtain ⟨pushed, still⟩ := push_of_fits intact room
      exact ih still (by rw [pushed, capacity_push]; exact h)
    · have : (b.push piece).overflowed = true := overflowed_push (by omega)
      rw [foldl_push_of_overflowed this, this]

/-- A fill overflows exactly when the pieces together are longer than the capacity. -/
theorem overflowed_fill_iff {b : HeaderBuffer} {pieces : List Bytes} :
    (b.fill pieces).overflowed = true ↔ b.capacity < pieces.flatten.length := by
  constructor
  · intro h
    by_cases fits : pieces.flatten.length ≤ b.capacity
    · have := (foldl_push_of_fits (b := b.reset) rfl fits).2
      rw [fill, this] at h
      cases h
    · omega
  · intro h
    exact overflowed_foldl_push (b := b.reset) rfl h

/-- Unless it overflows, a fill leaves exactly the pieces in the buffer, whatever the cells held
before. -/
theorem bytes_fill {b : HeaderBuffer} {pieces : List Bytes}
    (h : pieces.flatten.length ≤ b.capacity) : (b.fill pieces).bytes = pieces.flatten :=
  (foldl_push_of_fits (b := b.reset) rfl h).1

end HeaderBuffer

end DeviceHttp
