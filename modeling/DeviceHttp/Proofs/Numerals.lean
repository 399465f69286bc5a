import DeviceHttp.Proofs.Octets
import DeviceHttp.Proofs.Pieces
import DeviceHttp.Request.Header
import DeviceHttp.Text.Ascii

/-!
# Decimal numerals

Numbers are read in two ways: `Text.unsigned?` takes a whole token and refuses what is not a
numeral, `Header.contentLength` takes the digits in front and stops growing at the largest length.
Both read back the numeral that `toString` writes.
-/

namespace DeviceHttp

/-- A numeral is made of digits. -/
theorem isDigit_of_mem_toString {n : Nat} {c : Char} (mem : c ∈ (toString n).toList) :
    Text.isDigit c = true := by
  have chars : (toString n).toList = Nat.toDigits 10 n := Nat.toList_repr
  rw [chars] at mem
  have digit := Nat.isDigit_of_mem_toDigits (by omega) (by omega) mem
  simpa [Char.isDigit, Text.isDigit, Char.le_def] using digit

/-- Digit by digit, a numeral adds up to its number. -/
theorem ofDigitChars_toString (n : Nat) : Nat.ofDigitChars 10 (toString n).toList 0 = n := by
  have chars : (toString n).toList = Nat.toDigits 10 n := Nat.toList_repr
  rw [chars, Nat.ofDigitChars_ten_toDigits]

/-- Digits have no sign in front. -/
theorem Text.dropPlus_of_digits {cs : List Char} (digits : ∀ c ∈ cs, Text.isDigit c = true) :
    Text.dropPlus cs = cs := by
  unfold Text.dropPlus
  split
  next rest =>
    have plus : Text.isDigit '+' = true := digits '+' List.mem_cons_self
    exact absurd plus (by decide)
  next => rfl

/-- **A numeral is read back** if its number is below the bound, and refused otherwise. -/
theorem Text.unsigned?_toString_eq (bound n : Nat) :
    Text.unsigned? bound (toString n).toList = if n < bound then some n else none := by
  have digits : ∀ c ∈ (toString n).toList, Text.isDigit c = true := fun _ => isDigit_of_mem_toString
  have value : Text.ofDigits (toString n).toList = n := ofDigitChars_toString n
  have nonempty : (toString n).toList ≠ [] := by
    have chars : (toString n).toList = Nat.toDigits 10 n := Nat.toList_repr
    rw [chars]
    exact Nat.toDigits_ne_nil
  rw [Text.unsigned?, Text.dropPlus_of_digits digits, value]
  simp only [ne_eq, nonempty, not_false_eq_true, List.all_eq_true.2 digits, true_and]

theorem ascii_of_isDigit {c : Char} (digit : Text.isDigit c = true) :
    48 ≤ c.toNat ∧ c.toNat ≤ 57 := by
  simp only [Text.isDigit, Bool.and_eq_true, decide_eq_true_eq, Char.le_def,
    UInt32.le_iff_toNat_le] at digit
  exact digit

namespace Header

/-- Adding a digit to a length that stops at the largest one stops there, too. -/
theorem pushDigit_of_min (n : Nat) (digit : UInt8) :
    pushDigit (min n maxLength) digit = min (10 * n + (digit.toNat - 48)) maxLength := by
  rw [pushDigit]
  omega

theorem pushDigit_min (n : Nat) {c : Char} (digit : Text.isDigit c = true) :
    pushDigit (min n maxLength) (Utf8.asciiOctet c) =
      min (10 * n + (c.toNat - '0'.toNat)) maxLength := by
  have range := ascii_of_isDigit digit
  have zero : '0'.toNat = 48 := rfl
  rw [pushDigit_of_min, Utf8.toNat_asciiOctet (by omega), zero]

/-- Digits stand for the number that they are, or for the largest length. -/
theorem foldl_pushDigit {cs : List Char} (digits : ∀ c ∈ cs, Text.isDigit c = true) (n : Nat) :
    (cs.map Utf8.asciiOctet).foldl pushDigit (min n maxLength) =
      min (Nat.ofDigitChars 10 cs n) maxLength := by
  induction cs generalizing n with
  | nil => rfl
  | cons c cs ih =>
    rw [List.map_cons, List.foldl_cons, pushDigit_min n (digits c List.mem_cons_self),
      ih fun d mem => digits d (List.mem_cons_of_mem c mem)]
    rfl

theorem isDigit_asciiOctet {c : Char} (digit : Text.isDigit c = true) :
    Bytes.isDigit (Utf8.asciiOctet c) = true ∧ Bytes.isBlank (Utf8.asciiOctet c) = false := by
  have range := ascii_of_isDigit digit
  have octet := Utf8.toNat_asciiOctet (c := c) (by omega)
  simp only [Bytes.isDigit, Bytes.isBlank, Bool.and_eq_true, Bool.or_eq_false_iff,
    decide_eq_true_eq, decide_eq_false_iff_not, UInt8.le_iff_toNat_le, ← UInt8.toNat_inj]
  simp only [octet, UInt8.reduceToNat]
  omega

/-- **The numeral of a length is read as that length.** -/
theorem contentLength_toString {n : Nat} (small : n ≤ maxLength) :
    contentLength (Utf8.encode (toString n)) = n := by
  have digits : ∀ c ∈ (toString n).toList, Text.isDigit c = true := fun _ => isDigit_of_mem_toString
  have octets : ∀ b ∈ (toString n).toList.map Utf8.asciiOctet,
      Bytes.isDigit b = true ∧ Bytes.isBlank b = false := by
    intro b mem
    obtain ⟨c, inside, rfl⟩ := List.mem_map.1 mem
    exact isDigit_asciiOctet (digits c inside)
  have encoded : Utf8.encode (toString n) = (toString n).toList.map Utf8.asciiOctet := by
    refine Utf8.encodeChars_of_ascii fun c mem => ?_
    have := ascii_of_isDigit (digits c mem)
    omega
  have unblank : Bytes.dropBlanks (Utf8.encode (toString n)) = Utf8.encode (toString n) := by
    rw [encoded]
    exact dropWhile_eq_self_of_head fun b mem => (octets b (List.mem_of_mem_head? mem)).2
  have all : (Utf8.encode (toString n)).takeWhile Bytes.isDigit = Utf8.encode (toString n) := by
    have stops : ∀ b ∈ ([] : Bytes).head?, Bytes.isDigit b = false := by simp
    rw [encoded]
    simpa using takeWhile_append_of_stops (fun b mem => (octets b mem).1) stops
  have sum := foldl_pushDigit digits 0
  rw [ofDigitChars_toString, Nat.min_eq_left small, Nat.zero_min] at sum
  rw [contentLength, unblank, all, encoded, sum]

end Header

end DeviceHttp
