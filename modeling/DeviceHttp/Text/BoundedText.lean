import DeviceHttp.Text.Quoted
import DeviceHttp.Text.Utf8

/-!
# Bounded texts

A field of a request is stored in at most a fixed number of octets. A longer text is cut at the last
character boundary that fits, and the copy remembers that it was cut.

Two bounded texts are equal when both the text and the mark agree, so a cut copy differs from a copy
of its own text.
-/

namespace DeviceHttp

/-- The longest run of leading characters that takes at most `room` octets. -/
def fittingChars : (room : Nat) → List Char → List Char
  | _, [] => []
  | room, c :: cs =>
    if c.utf8Size ≤ room then c :: fittingChars (room - c.utf8Size) cs else []

theorem size_fittingChars_le (room : Nat) (cs : List Char) :
    Utf8.size (fittingChars room cs) ≤ room := by
  induction cs generalizing room with
  | nil => simp [fittingChars]
  | cons c cs ih =>
    simp only [fittingChars]
    split
    · have := ih (room - c.utf8Size)
      simp only [Utf8.size_cons]
      omega
    · simp

/-- What fits is a beginning of the text. -/
theorem fittingChars_append_drop (room : Nat) (cs : List Char) :
    fittingChars room cs ++ cs.drop (fittingChars room cs).length = cs := by
  induction cs generalizing room with
  | nil => simp [fittingChars]
  | cons c cs ih =>
    simp only [fittingChars]
    split
    · simp [ih]
    · simp

/-- Nothing is cut exactly when the whole text fits. -/
theorem fittingChars_eq_self_iff {room : Nat} {cs : List Char} :
    fittingChars room cs = cs ↔ Utf8.size cs ≤ room := by
  constructor
  · intro h
    rw [← h]
    exact size_fittingChars_le room cs
  · intro h
    induction cs generalizing room with
    | nil => rfl
    | cons c cs ih =>
      simp only [Utf8.size_cons] at h
      rw [fittingChars, if_pos (by omega), ih (by omega)]

/-- The character after the cut no longer fits. -/
theorem lt_size_add_of_drop_fittingChars {room : Nat} {cs rest : List Char} {c : Char}
    (h : cs.drop (fittingChars room cs).length = c :: rest) :
    room < Utf8.size (fittingChars room cs) + c.utf8Size := by
  induction cs generalizing room with
  | nil => simp [fittingChars] at h
  | cons d cs ih =>
    simp only [fittingChars] at h ⊢
    split
    · next fits =>
      simp only [fits, if_true, List.length_cons, List.drop_succ_cons] at h
      have := ih h
      simp only [Utf8.size_cons]
      omega
    · next tooWide =>
      simp only [tooWide, if_false, List.length_nil, List.drop_zero, List.cons.injEq] at h
      rw [← h.1]
      simpa using tooWide

/-- A text of at most `capacity` octets that may be the beginning of a longer one. -/
structure BoundedText (capacity : Nat) where
  /-- What is stored. -/
  text : String
  /-- Whether the text that was copied was longer. -/
  cut : Bool
  fits : text.utf8ByteSize ≤ capacity
deriving DecidableEq

namespace BoundedText

variable {capacity : Nat}

/-- The empty text. -/
def empty : BoundedText capacity := ⟨"", false, by simp⟩

/-- Copies as many leading characters of a text as fit. -/
def ofString (s : String) : BoundedText capacity where
  text := String.ofList (fittingChars capacity s.toList)
  cut := decide (capacity < s.utf8ByteSize)
  fits := by
    rw [Utf8.utf8ByteSize_ofList]
    exact size_fittingChars_le capacity s.toList

/-- The octets of the stored text. -/
def octets (b : BoundedText capacity) : Bytes := Utf8.encode b.text

/-- The text between quotes, followed by a mark if it was cut. -/
def quoted (b : BoundedText capacity) : String :=
  Text.quoted b.text ++ if b.cut then " (truncated)" else ""

/-- A copy is marked exactly when it is shorter than the text. -/
theorem cut_ofString_iff {s : String} :
    (ofString s : BoundedText capacity).cut = true ↔
      (ofString s : BoundedText capacity).text ≠ s := by
  have eq_self : (ofString s : BoundedText capacity).text = s ↔ Utf8.size s.toList ≤ capacity := by
    rw [← fittingChars_eq_self_iff, ← String.toList_inj]
    simp [ofString]
  rw [ne_eq, eq_self, ofString, Utf8.utf8ByteSize_eq_size]
  simp

theorem text_copyOf_of_fits {s : String} (h : s.utf8ByteSize ≤ capacity) :
    (ofString s : BoundedText capacity).text = s := by
  rw [Utf8.utf8ByteSize_eq_size] at h
  simp [ofString, fittingChars_eq_self_iff.2 h]

end BoundedText

end DeviceHttp
