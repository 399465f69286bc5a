import DeviceHttp.Segments

/-!
# Byte sequences

Everything a peer sends or receives is a list of octets. This module fixes that type and the few
searches that request parsing is made of: the leftmost occurrence of a pattern, the lines of a
block, and comparisons that ignore ASCII case.

## Main definitions

* `Bytes.indexOf?` — the least index at which a non-empty pattern occurs
* `Bytes.lines` — the pieces of a block between its CRLFs
* `Bytes.dropStartIgnoreCase?` — what follows a given beginning, up to case
-/

namespace DeviceHttp

/-- A sequence of octets. -/
abbrev Bytes := List UInt8

namespace Bytes

/-- The line ending of HTTP, a carriage return and a line feed. -/
def crlf : Bytes := [13, 10]

/-- Capital ASCII letters become small, everything else stays. -/
def lowerAscii (b : UInt8) : UInt8 :=
  if 65 ≤ b ∧ b ≤ 90 then b + 32 else b

/-- What follows the given beginning, if the sequence starts with it up to ASCII case. -/
def dropStartIgnoreCase? : (start b : Bytes) → Option Bytes
  | [], b => some b
  | _ :: _, [] => none
  | s :: start, x :: b =>
    if lowerAscii s = lowerAscii x then dropStartIgnoreCase? start b else none

/-- The least index at which `needle` occurs. An empty needle occurs nowhere. -/
def indexOf? (needle : Bytes) : Bytes → Option Nat
  | [] => none
  | x :: b =>
    if !needle.isEmpty && startsWith needle (x :: b) then some 0
    else (indexOf? needle b).map (· + 1)

/-- The lines of a block: the pieces between its CRLFs, so one more than there are CRLFs. A block
that ends in CRLF has a last line that is empty. -/
def lines : Bytes → List Bytes
  | [] => [[]]
  | 13 :: 10 :: b => [] :: lines b
  | x :: b =>
    match lines b with
    | [] => [[x]]
    | line :: rest => (x :: line) :: rest

/-- Space and horizontal tab. -/
def isBlank (b : UInt8) : Bool := b = 32 || b = 9

/-- The sequence without its leading spaces and tabs. -/
def dropBlanks (b : Bytes) : Bytes := b.dropWhile isBlank

/-- The decimal digits `0` to `9`. -/
def isDigit (b : UInt8) : Bool := 48 ≤ b && b ≤ 57

/-- The value of a hexadecimal digit of either case. -/
def hexValue? (b : UInt8) : Option UInt8 :=
  if 48 ≤ b ∧ b ≤ 57 then some (b - 48)
  else if 97 ≤ b ∧ b ≤ 102 then some (b - 87)
  else if 65 ≤ b ∧ b ≤ 70 then some (b - 55)
  else none

/-- Where a needle is found, it stands. -/
theorem drop_of_indexOf? {needle b : Bytes} {i : Nat} (h : indexOf? needle b = some i) :
    needle ≠ [] ∧ ∃ rest, b.drop i = needle ++ rest := by
  induction b generalizing i with
  | nil => simp [indexOf?] at h
  | cons x b ih =>
    simp only [indexOf?] at h
    split at h
    next found =>
      simp only [Bool.and_eq_true, Bool.not_eq_eq_eq_not, Bool.not_true, List.isEmpty_eq_false_iff,
        startsWith_iff] at found
      cases h
      simpa using found
    next =>
      obtain ⟨j, hj, rfl⟩ := Option.map_eq_some_iff.1 h
      simpa using ih hj

/-- A needle that is found fits behind the place where it is found. -/
theorem add_length_le_of_indexOf? {needle b : Bytes} {i : Nat} (h : indexOf? needle b = some i) :
    i + needle.length ≤ b.length := by
  obtain ⟨ne_nil, rest, eq⟩ := drop_of_indexOf? h
  have len := congrArg List.length eq
  have : needle.length ≠ 0 := by simpa using ne_nil
  simp only [List.length_drop, List.length_append] at len
  omega

theorem lines_ne_nil (b : Bytes) : lines b ≠ [] := by
  fun_induction lines b <;> simp

end Bytes

end DeviceHttp
