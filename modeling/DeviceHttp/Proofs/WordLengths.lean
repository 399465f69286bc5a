import DeviceHttp.Proofs.Agreement
import DeviceHttp.Proofs.Numerals
import DeviceHttp.Proofs.PartPlaces
import DeviceHttp.Proofs.Pieces
import Mathlib.Data.Nat.Digits.Defs

/-!
# Lengths in machine words

Lengths and places are numbers here, and a length that is too large has become the largest one. A
device has words instead. A sum of words wraps around, a difference below zero does so as well, and a
slice between places that are wrong is an error. This module reads a request with words and counts
all of these as a `Breach`.

* **A length is the number that its digits stand for, or the largest one** (`Header.contentLength_eq`).
  It does not matter how many digits there are, whether zeros stand in front, or what follows.
* **Words come to the same** (`Word.exists_contentLength`), since no step of the sum wraps.
* **Reading a request with words is reading a request** (`PlacedRequest.reads_eq`). No length that a
  peer announces leads to a breach.

## How

The words of a sum that saturates are those of the sum of numbers, up to the largest one
(`Word.toNat_saturatingAdd`, `Word.toNat_saturatingMul`). What is left are comparisons of numbers: a
line ends within the head, a head within the bytes, and the length of a whole request is at least
the place where its head ends, also where it has become the largest length.
-/

namespace DeviceHttp

/-- The ways in which arithmetic with lengths and places could go wrong. -/
inductive Breach where
  /-- A difference below zero. -/
  | underflow
  /-- A sum beyond the largest word. -/
  | overflow
  /-- A slice of bytes that are not there. -/
  | outOfBounds
deriving DecidableEq, Repr

/-! ## The number in front of a value -/

namespace Bytes

/-- The number that decimal digits stand for. -/
def decimal (digits : Bytes) : Nat := Nat.ofDigits 10 ((digits.map fun d => d.toNat - 48).reverse)

theorem decimal_concat (digits : Bytes) (d : UInt8) :
    decimal (digits ++ [d]) = 10 * decimal digits + (d.toNat - 48) := by
  rw [decimal, decimal, List.map_append, List.reverse_append]
  show Nat.ofDigits 10 ((d.toNat - 48) :: (digits.map fun d => d.toNat - 48).reverse) = _
  rw [Nat.ofDigits_cons, Nat.add_comm]

/-- A value as its reader takes it apart: spaces and tabs, digits, and what follows them. -/
structure StartsWithDigits (value blanks digits rest : Bytes) : Prop where
  pieces : value = blanks ++ (digits ++ rest)
  blank : ∀ b ∈ blanks, b = 32 ∨ b = 9
  digit : ∀ b ∈ digits, 48 ≤ b ∧ b ≤ 57
  /-- All leading spaces and tabs are taken. -/
  begins : ∀ b ∈ (digits ++ rest).head?, ¬ (b = 32 ∨ b = 9)
  /-- All digits are taken. -/
  stops : ∀ b ∈ rest.head?, ¬ (48 ≤ b ∧ b ≤ 57)

theorem isBlank_iff_eq {b : UInt8} : isBlank b = true ↔ b = 32 ∨ b = 9 := by
  rw [isBlank, Bool.or_eq_true, decide_eq_true_eq, decide_eq_true_eq]

theorem isDigit_iff {b : UInt8} : isDigit b = true ↔ 48 ≤ b ∧ b ≤ 57 := by
  rw [isDigit, Bool.and_eq_true, decide_eq_true_eq, decide_eq_true_eq]

namespace StartsWithDigits

variable {value blanks digits rest : Bytes}

/-- The pieces are found again. -/
theorem takeWhile_dropBlanks (starts : StartsWithDigits value blanks digits rest) :
    (dropBlanks value).takeWhile isDigit = digits := by
  have behind : dropBlanks value = digits ++ rest := by
    rw [starts.pieces]
    apply dropWhile_append_of_stops
    · intro b mem
      exact isBlank_iff_eq.2 (starts.blank b mem)
    · intro b mem
      exact Bool.eq_false_iff.2 fun blank => starts.begins b mem (isBlank_iff_eq.1 blank)
  rw [behind]
  apply takeWhile_append_of_stops
  · intro b mem
    exact isDigit_iff.2 (starts.digit b mem)
  · intro b mem
    exact Bool.eq_false_iff.2 fun digit => starts.stops b mem (isDigit_iff.1 digit)

end StartsWithDigits

/-- Every value is taken apart in this way. -/
theorem startsWithDigits (value : Bytes) :
    StartsWithDigits value (value.takeWhile isBlank) ((dropBlanks value).takeWhile isDigit)
      ((dropBlanks value).dropWhile isDigit) := by
  refine ⟨?_, ?_, ?_, ?_, ?_⟩
  · rw [List.takeWhile_append_dropWhile, dropBlanks, List.takeWhile_append_dropWhile]
  · intro b mem
    exact isBlank_iff_eq.1 (List.all_eq_true.1 List.all_takeWhile b mem)
  · intro b mem
    exact isDigit_iff.1 (List.all_eq_true.1 List.all_takeWhile b mem)
  · rw [List.takeWhile_append_dropWhile]
    intro b mem blank
    rw [← isBlank_iff_eq, head?_dropWhile_unmarked value b mem] at blank
    cases blank
  · intro b mem digit
    rw [← isDigit_iff, head?_dropWhile_unmarked _ b mem] at digit
    cases digit

end Bytes

namespace Header

/-- **Digits stand for the number that they are, or for the largest length.** Once the largest length
is reached, further digits leave it there, and they only make the number larger. -/
theorem foldl_pushDigit_eq (digits : Bytes) :
    digits.foldl pushDigit 0 = min (Bytes.decimal digits) maxLength := by
  induction digits using List.reverseRecOn with
  | nil => rfl
  | append_singleton digits d ih =>
    rw [List.foldl_concat, ih, pushDigit_of_min, Bytes.decimal_concat]

/-- A value is read as the number that its digits stand for, or as the largest length. -/
theorem contentLength_eq {value blanks digits rest : Bytes}
    (starts : Bytes.StartsWithDigits value blanks digits rest) :
    contentLength value = min (Bytes.decimal digits) maxLength := by
  rw [contentLength, starts.takeWhile_dropBlanks, foldl_pushDigit_eq]

end Header

/-! ## Words -/

namespace Word

variable {a b : UInt64}

/-- The largest word. -/
def largest : UInt64 := UInt64.ofNat maxLength

/-- A sum that stops at the largest word. A sum that has wrapped around is smaller than what was
added to. -/
def saturatingAdd (a b : UInt64) : UInt64 := if a + b < a then largest else a + b

/-- A product that stops at the largest word. -/
def saturatingMul (a b : UInt64) : UInt64 := if b ≠ 0 ∧ largest / b < a then largest else a * b

/-- A sum that must not wrap around. -/
def add (a b : UInt64) : Except Breach UInt64 :=
  if a + b < a then .error .overflow else .ok (a + b)

/-- A difference that must not wrap around. -/
def sub (a b : UInt64) : Except Breach UInt64 := if b ≤ a then .ok (a - b) else .error .underflow

/-- The smaller one of two words. -/
def least (a b : UInt64) : UInt64 := if a ≤ b then a else b

/-- The bytes from one place to another. -/
def slice (bytes : Bytes) (start stop : UInt64) : Except Breach Bytes :=
  (Bytes.slice bytes start.toNat stop.toNat).mapError fun _ => .outOfBounds

/-- The number of bytes, as a word. -/
def length (bytes : Bytes) : UInt64 := UInt64.ofNat bytes.length

theorem toNat_le (a : UInt64) : a.toNat ≤ maxLength := Nat.le_pred_of_lt a.toNat_lt_size

theorem toNat_ofNat {n : Nat} (small : n ≤ maxLength) : (UInt64.ofNat n).toNat = n :=
  UInt64.toNat_ofNat_of_lt' (Nat.lt_of_le_pred (by decide) small)

theorem toNat_largest : largest.toNat = maxLength := toNat_ofNat (Nat.le_refl _)

theorem toNat_length {bytes : Bytes} (small : bytes.length ≤ maxLength) :
    (length bytes).toNat = bytes.length := toNat_ofNat small

/-- A sum wraps around exactly if it is larger than the largest word. -/
theorem add_lt_iff : a + b < a ↔ maxLength < a.toNat + b.toNat := by
  have := toNat_le a
  have := toNat_le b
  have size : maxLength = 2 ^ 64 - 1 := rfl
  rw [UInt64.lt_iff_toNat_lt, UInt64.toNat_add]
  omega

theorem toNat_add_of_le (fits : a.toNat + b.toNat ≤ maxLength) :
    (a + b).toNat = a.toNat + b.toNat := by
  have size : maxLength = 2 ^ 64 - 1 := rfl
  rw [UInt64.toNat_add]
  exact Nat.mod_eq_of_lt (by omega)

/-- **A sum that saturates is the sum of the numbers, or the largest one.** -/
theorem toNat_saturatingAdd (a b : UInt64) :
    (saturatingAdd a b).toNat = min (a.toNat + b.toNat) maxLength := by
  rw [saturatingAdd]
  split
  · next wraps =>
    rw [toNat_largest, Nat.min_eq_right (Nat.le_of_lt (add_lt_iff.1 wraps))]
  · next fits =>
    have fits := Nat.le_of_not_lt fun wraps => fits (add_lt_iff.2 wraps)
    rw [toNat_add_of_le fits, Nat.min_eq_left fits]

/-- **A product that saturates is the product of the numbers, or the largest one.** -/
theorem toNat_saturatingMul (a b : UInt64) :
    (saturatingMul a b).toNat = min (a.toNat * b.toNat) maxLength := by
  by_cases zero : b = 0
  · rw [saturatingMul, if_neg fun wraps => wraps.1 zero, zero]
    simp
  · have pos : 0 < b.toNat := by
      rw [Nat.pos_iff_ne_zero]
      exact fun none => zero (UInt64.toNat_inj.1 none)
    have wraps_iff : largest / b < a ↔ maxLength < a.toNat * b.toNat := by
      rw [UInt64.lt_iff_toNat_lt, UInt64.toNat_div, toNat_largest, Nat.div_lt_iff_lt_mul pos]
    rw [saturatingMul]
    split
    · next wraps =>
      rw [toNat_largest, Nat.min_eq_right (Nat.le_of_lt (wraps_iff.1 wraps.2))]
    · next fits =>
      have fits := Nat.le_of_not_lt fun wraps => fits ⟨zero, wraps_iff.2 wraps⟩
      have size : maxLength = 2 ^ 64 - 1 := rfl
      rw [UInt64.toNat_mul, Nat.min_eq_left fits]
      exact Nat.mod_eq_of_lt (by omega)

theorem toNat_least (a b : UInt64) : (least a b).toNat = min a.toNat b.toNat := by
  rw [least]
  split
  · next le => exact (Nat.min_eq_left (UInt64.le_iff_toNat_le.1 le)).symm
  · next lt =>
    rw [UInt64.le_iff_toNat_le] at lt
    exact (Nat.min_eq_right (Nat.le_of_not_le lt)).symm

theorem exists_add (fits : a.toNat + b.toNat ≤ maxLength) :
    ∃ c, add a b = .ok c ∧ c.toNat = a.toNat + b.toNat := by
  refine ⟨a + b, ?_, toNat_add_of_le fits⟩
  rw [add, if_neg fun wraps => Nat.not_lt.2 fits (add_lt_iff.1 wraps)]

/-- A place in bytes that are there, and a step from it. -/
theorem exists_add_ofNat {i : Nat} (fits : i + b.toNat ≤ maxLength) :
    ∃ c, add (UInt64.ofNat i) b = .ok c ∧ c.toNat = i + b.toNat := by
  have place : (UInt64.ofNat i).toNat = i := toNat_ofNat (Nat.le_of_add_right_le fits)
  have sum := exists_add (a := UInt64.ofNat i) (b := b)
  rw [place] at sum
  exact sum fits

theorem exists_sub (le : b.toNat ≤ a.toNat) :
    ∃ c, sub a b = .ok c ∧ c.toNat = a.toNat - b.toNat := by
  have le' := UInt64.le_iff_toNat_le.2 le
  exact ⟨a - b, if_pos le', UInt64.toNat_sub_of_le a b le'⟩

theorem slice_of_le {bytes : Bytes} (ordered : a.toNat ≤ b.toNat)
    (within : b.toNat ≤ bytes.length) :
    slice bytes a b = .ok ((bytes.drop a.toNat).take (b.toNat - a.toNat)) := by
  rw [slice, Bytes.slice, if_pos ⟨ordered, within⟩]
  rfl

theorem slice_from_start {bytes : Bytes} (within : b.toNat ≤ bytes.length) :
    slice bytes 0 b = .ok (bytes.take b.toNat) := by
  have start : Bytes.slice bytes (0 : UInt64).toNat b.toNat = .ok (bytes.take b.toNat) :=
    Bytes.slice_from_start within
  rw [slice, start]
  rfl

theorem slice_to_end {bytes : Bytes} (small : bytes.length ≤ maxLength)
    (within : a.toNat ≤ bytes.length) :
    slice bytes a (length bytes) = .ok (bytes.drop a.toNat) := by
  rw [slice, toNat_length small, Bytes.slice_to_end within]
  rfl

/-! ## The announced length -/

/-- The number that a digit stands for. -/
def digitValue (digit : UInt8) : Except Breach UInt64 :=
  if 48 ≤ digit then .ok (digit - 48).toUInt64 else .error .underflow

/-- Appends a decimal digit to a length. -/
def pushDigit (n : UInt64) (digit : UInt8) : Except Breach UInt64 := do
  let d ← digitValue digit
  return saturatingAdd (saturatingMul n 10) d

/-- Reads the decimal digits that start a value, after spaces and tabs. -/
def contentLength (value : Bytes) : Except Breach UInt64 :=
  ((Bytes.dropBlanks value).takeWhile Bytes.isDigit).foldlM pushDigit 0

/-- **No step of the sum wraps**, and it is the step on numbers. -/
theorem exists_pushDigit (n : UInt64) {digit : UInt8} (isDigit : Bytes.isDigit digit = true) :
    ∃ m, pushDigit n digit = .ok m ∧ m.toNat = Header.pushDigit n.toNat digit := by
  have low : 48 ≤ digit := (Bytes.isDigit_iff.1 isDigit).1
  refine ⟨saturatingAdd (saturatingMul n 10) (digit - 48).toUInt64, ?_, ?_⟩
  · rw [pushDigit, digitValue, if_pos low]
    rfl
  · have ten : (10 : UInt64).toNat = 10 := rfl
    have base : (48 : UInt8).toNat = 48 := rfl
    rw [toNat_saturatingAdd, toNat_saturatingMul, UInt8.toNat_toUInt64,
      UInt8.toNat_sub_of_le _ _ low, ten, base, Header.pushDigit]

theorem exists_foldlM_pushDigit (n : UInt64) {digits : Bytes}
    (all : ∀ d ∈ digits, Bytes.isDigit d = true) :
    ∃ m, digits.foldlM pushDigit n = .ok m ∧ m.toNat = digits.foldl Header.pushDigit n.toNat := by
  induction digits generalizing n with
  | nil => exact ⟨n, rfl, rfl⟩
  | cons d digits ih =>
    obtain ⟨m, pushed, value⟩ := exists_pushDigit n (all d List.mem_cons_self)
    obtain ⟨k, folded, total⟩ := ih m fun e mem => all e (List.mem_cons_of_mem d mem)
    refine ⟨k, ?_, ?_⟩
    · rw [List.foldlM_cons, pushed]
      exact folded
    · rw [List.foldl_cons, ← value, total]

/-- **A device reads the announced length without a breach.** -/
theorem exists_contentLength (value : Bytes) :
    ∃ n, contentLength value = .ok n ∧ n.toNat = Header.contentLength value :=
  exists_foldlM_pushDigit 0 fun _ mem => List.all_eq_true.1 List.all_takeWhile _ mem

/-! ## The end of the header block -/

/-- Where the header block ends, if it does. -/
def blockEnd? (b : Bytes) : Except Breach (Option UInt64) :=
  match Bytes.indexOf? (Bytes.crlf ++ Bytes.crlf) b with
  | none => .ok none
  | some i => (add (UInt64.ofNat i) 4).map some

theorem blockEnd?_of_none {bytes : Bytes} (unended : Header.blockEnd? bytes = none) :
    blockEnd? bytes = .ok none := by
  have missed : Bytes.indexOf? (Bytes.crlf ++ Bytes.crlf) bytes = none :=
    Option.map_eq_none_iff.1 unended
  rw [blockEnd?, missed]

/-- A header block ends within the bytes, so its end is a word. -/
theorem exists_blockEnd?_of_some {bytes : Bytes} (small : bytes.length ≤ maxLength) {i : Nat}
    (found : Header.blockEnd? bytes = some i) :
    ∃ headerEnd, blockEnd? bytes = .ok (some headerEnd) ∧ headerEnd.toNat = i := by
  obtain ⟨place, here, rfl⟩ := Option.map_eq_some_iff.1 found
  have here : Bytes.indexOf? (Bytes.crlf ++ Bytes.crlf) bytes = some place := here
  have within : place + (4 : UInt64).toNat ≤ bytes.length := Bytes.add_length_le_of_indexOf? here
  obtain ⟨headerEnd, sum, headerEnd_eq⟩ := exists_add_ofNat (Nat.le_trans within small)
  refine ⟨headerEnd, ?_, headerEnd_eq⟩
  rw [blockEnd?, here]
  simp only [sum]
  rfl

end Word

/-! ## Reading with words -/

/-- What is known about a request once its header block has ended, with places in its bytes. -/
structure PlacedHead where
  line : RequestLine
  /-- Where the first line ends. -/
  lineEnd : UInt64
  headerEnd : UInt64
  contentLength : UInt64

namespace PlacedHead

/-- The announced length of a body, zero without an announcement. -/
def announced (block : Bytes) : Except Breach UInt64 :=
  match Header.find? block "content-length" with
  | none => .ok 0
  | some value => Word.contentLength value

/-- Reads the head that ends at `headerEnd`. -/
def read (b : Bytes) (headerEnd : UInt64) : Except Breach (Except Error PlacedHead) := do
  let head ← Word.slice b 0 headerEnd
  match Bytes.indexOf? Bytes.crlf head with
  | none => return .error .malformedLine
  | some i =>
    let lineEnd := UInt64.ofNat i
    match RequestLine.ofBytes (← Word.slice head 0 lineEnd) with
    | .error reason => return .error reason
    | .ok line =>
      let block ← Word.slice head (← Word.add lineEnd 2) (Word.length head)
      return .ok { line, lineEnd, headerEnd, contentLength := ← announced block }

/-- The number of bytes that the whole request takes. -/
def requestLength (head : PlacedHead) : UInt64 :=
  Word.saturatingAdd head.headerEnd head.contentLength

/-- Where the body ends: with the announced length, or else with the bytes. -/
def bodyEnd (b : Bytes) (head : PlacedHead) : UInt64 :=
  if 0 < head.contentLength then Word.least (Word.length b) head.requestLength else Word.length b

/-- The places are those of a head in the bytes that it was read from. -/
structure Places (b : Bytes) (placed : PlacedHead) (head : Head) : Prop where
  line : placed.line = head.line
  headerEnd : placed.headerEnd.toNat = head.headerEnd
  contentLength : placed.contentLength.toNat = head.contentLength
  ordered : placed.lineEnd.toNat + 2 ≤ head.headerEnd
  within : head.headerEnd ≤ b.length
  headerBlock : head.headerBlock = (b.take head.headerEnd).drop (placed.lineEnd.toNat + 2)

variable {b : Bytes} {placed : PlacedHead} {head : Head} {headerEnd : UInt64}

/-- Further bytes do not move the places of a head. -/
theorem Places.append (places : Places b placed head) (more : Bytes) :
    Places (b ++ more) placed head where
  line := places.line
  headerEnd := places.headerEnd
  contentLength := places.contentLength
  ordered := places.ordered
  within := by
    rw [List.length_append]
    exact Nat.le_add_right_of_le places.within
  headerBlock := by
    rw [List.take_append_of_le_length places.within]
    exact places.headerBlock

theorem exists_announced (block : Bytes) :
    ∃ n, announced block = .ok n ∧
      n.toNat = ((Header.find? block "content-length").map Header.contentLength).getD 0 := by
  rw [announced]
  cases Header.find? block "content-length" with
  | none => exact ⟨0, rfl, rfl⟩
  | some value => exact Word.exists_contentLength value

/-- **A head is read as it is, and without a breach.** -/
theorem read_cases (small : b.length ≤ maxLength) (within : headerEnd.toNat ≤ b.length) :
    (∃ reason, read b headerEnd = .ok (.error reason) ∧
      Head.read b headerEnd.toNat = .error reason) ∨
    ∃ placed head, read b headerEnd = .ok (.ok placed) ∧
      Head.read b headerEnd.toNat = .ok head ∧ Places b placed head := by
  have length : (b.take headerEnd.toNat).length = headerEnd.toNat := List.length_take_of_le within
  rw [read, Word.slice_from_start within, Head.read]
  simp only [bind, Except.bind]
  cases found : Bytes.indexOf? Bytes.crlf (b.take headerEnd.toNat) with
  | none => exact .inl ⟨.malformedLine, rfl, rfl⟩
  | some i =>
    have fits := Bytes.add_length_le_of_indexOf? found
    have two : Bytes.crlf.length = 2 := rfl
    rw [length, two] at fits
    have place : (UInt64.ofNat i).toNat = i := Word.toNat_ofNat (by omega)
    have first : Word.slice (b.take headerEnd.toNat) 0 (UInt64.ofNat i) =
        .ok ((b.take headerEnd.toNat).take i) := by
      rw [Word.slice_from_start (by omega), place]
    simp only [first]
    cases RequestLine.ofBytes ((b.take headerEnd.toNat).take i) with
    | error reason => exact .inl ⟨reason, rfl, rfl⟩
    | ok line =>
      obtain ⟨start, added, start_eq⟩ := Word.exists_add_ofNat (i := i) (b := 2)
        (Nat.le_trans fits (Nat.le_trans within small))
      have start_eq : start.toNat = i + 2 := start_eq
      have block : Word.slice (b.take headerEnd.toNat) start
          (Word.length (b.take headerEnd.toNat)) =
            .ok ((b.take headerEnd.toNat).drop (i + 2)) := by
        rw [Word.slice_to_end (by omega) (by omega), start_eq]
      obtain ⟨n, read, value⟩ := exists_announced ((b.take headerEnd.toNat).drop (i + 2))
      simp only [added, block, read]
      refine .inr ⟨_, _, rfl, rfl, rfl, rfl, value, ?_, within, ?_⟩
      · show (UInt64.ofNat i).toNat + 2 ≤ headerEnd.toNat
        omega
      · show _ = (b.take headerEnd.toNat).drop ((UInt64.ofNat i).toNat + 2)
        rw [place]

theorem toNat_requestLength (places : Places b placed head) :
    placed.requestLength.toNat = head.requestLength := by
  rw [requestLength, Word.toNat_saturatingAdd, places.headerEnd, places.contentLength,
    Head.requestLength]

/-- A whole request is at least as long as its head, also if its length has become the largest. -/
theorem headerEnd_le (small : b.length ≤ maxLength) (places : Places b placed head) :
    head.headerEnd ≤ head.requestLength := by
  have := places.within
  rw [Head.requestLength]
  omega

/-- **The body never runs past the bytes**, whatever length was announced for it. -/
theorem slice_body (small : b.length ≤ maxLength) (places : Places b placed head) :
    Word.slice b placed.headerEnd (placed.bodyEnd b) = .ok (Request.ofHead b head).body := by
  have within := places.within
  have least := headerEnd_le small places
  have pos_iff : 0 < placed.contentLength ↔ 0 < head.contentLength := by
    rw [UInt64.lt_iff_toNat_lt, places.contentLength]
    rfl
  rw [Request.ofHead, bodyEnd]
  by_cases pos : 0 < head.contentLength
  · have stop : (Word.least (Word.length b) placed.requestLength).toNat =
        min b.length head.requestLength := by
      rw [Word.toNat_least, Word.toNat_length small, toNat_requestLength places]
    have ends : head.headerEnd ≤ min b.length head.requestLength := Nat.le_min.2 ⟨within, least⟩
    rw [if_pos (pos_iff.2 pos), if_pos pos, Word.slice_of_le
      (by rw [places.headerEnd, stop]; exact ends) (by rw [stop]; exact Nat.min_le_left _ _),
      places.headerEnd, stop, List.drop_take]
    -- what stands behind the head ends where the bytes do
    refine congrArg Except.ok (List.take_eq_take_iff.2 ?_)
    rw [List.length_drop]
    omega
  · rw [if_neg fun pos' => pos (pos_iff.1 pos'), if_neg pos,
      Word.slice_to_end small (by rw [places.headerEnd]; exact within), places.headerEnd]

end PlacedHead

/-- A request with the places of its pieces in the bytes that it was read from. -/
structure PlacedRequest where
  bytes : Bytes
  line : RequestLine
  headersStart : UInt64
  bodyStart : UInt64
  bodyEnd : UInt64
  contentLength : UInt64

namespace PlacedRequest

/-- The request with a given head, whose body has arrived. The body starts where the header block
ends. -/
def ofHead (b : Bytes) (head : PlacedHead) : Except Breach PlacedRequest := do
  return {
    bytes := b
    line := head.line
    headersStart := ← Word.add head.lineEnd 2
    bodyStart := head.headerEnd
    bodyEnd := head.bodyEnd b
    contentLength := head.contentLength }

/-- The pieces at the places of a request. -/
def cutOut (r : PlacedRequest) : Except Breach Request := do
  let headerBlock ← Word.slice r.bytes r.headersStart r.bodyStart
  let body ← Word.slice r.bytes r.bodyStart r.bodyEnd
  return ⟨r.bytes, r.line, headerBlock, body, r.contentLength.toNat⟩

/-- Reads a request that is there as a whole. -/
def ofBytes (b : Bytes) : Except Breach (Except Error PlacedRequest) := do
  match ← Word.blockEnd? b with
  | none => return .error .incomplete
  | some headerEnd =>
    match ← PlacedHead.read b headerEnd with
    | .error reason => return .error reason
    | .ok head =>
      if Word.length b < head.requestLength then return .error .incomplete
      else return .ok (← ofHead b head)

/-- The outcome of reading, with the pieces of the request. -/
def reads (b : Bytes) : Except Breach (Except Error Request) := do
  match ← ofBytes b with
  | .error reason => return .error reason
  | .ok r => return .ok (← r.cutOut)

variable {b : Bytes} {placed : PlacedHead} {head : Head}

/-- **A request is cut out as it is**, and no slice runs past the bytes. -/
theorem exists_ofHead (small : b.length ≤ maxLength) (places : placed.Places b head) :
    ∃ r, ofHead b placed = .ok r ∧ r.cutOut = .ok (Request.ofHead b head) := by
  have within := places.within
  have ordered := places.ordered
  have two : (2 : UInt64).toNat = 2 := rfl
  obtain ⟨start, added, start_eq⟩ := Word.exists_add (a := placed.lineEnd) (b := 2) (by omega)
  rw [two] at start_eq
  have block : Word.slice b start placed.headerEnd = .ok head.headerBlock := by
    rw [Word.slice_of_le (by rw [places.headerEnd]; omega) (by rw [places.headerEnd]; exact within),
      places.headerBlock, places.headerEnd, start_eq, List.drop_take]
  rw [ofHead, added]
  refine ⟨_, rfl, ?_⟩
  rw [cutOut]
  simp only [bind, Except.bind, block, PlacedHead.slice_body small places]
  simp only [pure, Except.pure, Request.ofHead, places.line, places.contentLength]

/-- **Reading with words is reading**: no byte string and no announced length leads to a breach. -/
theorem reads_eq (small : b.length ≤ maxLength) : reads b = .ok (Request.ofBytes b) := by
  rw [reads, ofBytes, Request.ofBytes]
  cases found : Header.blockEnd? b with
  | none =>
    rw [Word.blockEnd?_of_none found]
    rfl
  | some i =>
    have within := Header.blockEnd?_le found
    obtain ⟨headerEnd, ended, rfl⟩ := Word.exists_blockEnd?_of_some small found
    rw [ended]
    simp only [bind, Except.bind]
    obtain ⟨reason, read, bad⟩ | ⟨placed, head, read, good, places⟩ :=
      PlacedHead.read_cases small within
    · simp only [read, bad]
      rfl
    · have short_iff : Word.length b < placed.requestLength ↔ b.length < head.requestLength := by
        rw [UInt64.lt_iff_toNat_lt, Word.toNat_length small, PlacedHead.toNat_requestLength places]
      simp only [read, good]
      by_cases short : b.length < head.requestLength
      · rw [if_pos (short_iff.2 short), if_pos short]
        rfl
      · obtain ⟨r, made, cut⟩ := exists_ofHead small places
        rw [if_neg fun short' => short (short_iff.1 short'), if_neg short, made]
        simp only [pure, Except.pure, cut]

end PlacedRequest

end DeviceHttp
