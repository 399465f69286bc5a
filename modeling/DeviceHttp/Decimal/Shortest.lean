import DeviceHttp.Decimal.Binary64

/-!
# The shortest decimal of a number

A decimal stands for a binary number if it lies between the midpoints to the two neighbours of that
number; the midpoints themselves count when the mantissa is even. Of all decimals that stand for a
number, `Binary64.shortest` takes one with the fewest digits, of these the one closest to the
number, and on a tie the even one.

On a grid of decimals only the two points next to the number have to be looked at: if any point of
the grid stands for the number, one of them does.
-/

namespace DeviceHttp

/-- The number `digits * 10 ^ exponent`. -/
structure Decimal where
  digits : Nat
  exponent : Int
deriving DecidableEq, Repr

namespace Decimal

/-- The number of decimal digits of a natural number, one for zero. -/
def digitCount (n : Nat) : Nat := (Nat.toDigits 10 n).length

/-- The same number without zeros at the end of its digits. -/
def strip (d : Decimal) : Decimal :=
  if d.digits ≠ 0 ∧ d.digits % 10 = 0 then strip ⟨d.digits / 10, d.exponent + 1⟩ else d
termination_by d.digits
decreasing_by omega

end Decimal

namespace Binary64

/-- The exponent of the leading decimal digit of a number that is not zero. -/
def leadingExponent (x : Binary64) : Int :=
  let (num, den) := x.ratio
  if den ≤ num then Decimal.digitCount (num / den) - 1
  else -Decimal.digitCount ((den - 1) / num)

/-- The midpoints to the neighbours of a number, and the number between them, all in quarters of its
last bit. -/
def quarters (x : Binary64) : Nat × Nat × Nat :=
  let m := 4 * x.mantissa
  let below := if x.mantissa = Nat.pow 2 52 ∧ minExponent < x.exponent then 1 else 2
  (m - below, m, m + 2)

/-- Whether `digits * 10 ^ exponent` stands for the number. -/
def isDecimal (x : Binary64) (d : Decimal) : Bool :=
  let (low, _, high) := x.quarters
  -- Both sides are multiplied by the denominators of the two powers.
  let (twos, perTwos) := scaled 1 2 (x.exponent - 2)
  let (tens, perTens) := scaled 1 10 d.exponent
  let point := d.digits * tens * perTwos
  let bound (n : Nat) := n * twos * perTens
  if x.mantissa % 2 = 0 then bound low ≤ point && point ≤ bound high
  else bound low < point && point < bound high

/-- The decimal with the given exponent that stands for the number and is closest to it, if there is
one: one of the two points of the grid next to the number. On a tie the even one is taken. -/
def closest? (x : Binary64) (exponent : Int) : Option Decimal :=
  let (_, middle, _) := x.quarters
  let (twos, perTwos) := scaled 1 2 (x.exponent - 2)
  let (tens, perTens) := scaled 1 10 exponent
  let num := middle * twos * perTens
  let den := tens * perTwos
  let below : Decimal := ⟨num / den, exponent⟩
  let above : Decimal := ⟨num / den + 1, exponent⟩
  match x.isDecimal below, x.isDecimal above with
  | true, true => some ⟨roundDiv num den, exponent⟩
  | true, false => some below
  | false, true => some above
  | false, false => none

/-- The shortest decimal of a number that is not zero. Seventeen digits always suffice. -/
def shortest (x : Binary64) : Decimal :=
  let leading := x.leadingExponent
  let found := (List.range 17).findSome? fun (n : Nat) => x.closest? (leading - n)
  (found.getD ⟨roundDiv x.ratio.1 x.ratio.2, 0⟩).strip

end Binary64

/-- Where decimals are written with a point and where with an exponent. -/
structure DecimalNotation where
  /-- The least exponent of the leading digit that is written without an exponent. -/
  minPositional : Int
  /-- The greatest exponent of the leading digit that is written without an exponent. -/
  maxPositional : Int
  /-- What follows the digits of an integer that is written without an exponent. -/
  integerEnd : String
  /-- What stands before a positive and before a negative exponent. -/
  positiveMark : String
  negativeMark : String

namespace DecimalNotation

/-- Writes a decimal whose digits do not start with zero. -/
def write (style : DecimalNotation) (d : Decimal) : String :=
  let digits := Nat.toDigits 10 d.digits
  let leading : Int := d.exponent + digits.length - 1
  if leading < style.minPositional ∨ style.maxPositional < leading then
    let exponent :=
      if leading < 0 then style.negativeMark ++ toString leading.natAbs
      else style.positiveMark ++ toString leading.natAbs
    let fraction := if digits.length = 1 then [] else '.' :: digits.drop 1
    String.ofList (digits.take 1 ++ fraction) ++ exponent
  else if 0 ≤ d.exponent then
    String.ofList (digits ++ List.replicate d.exponent.toNat '0') ++ style.integerEnd
  else if 0 ≤ leading then
    let whole := leading.toNat + 1
    String.ofList (digits.take whole ++ '.' :: digits.drop whole)
  else
    String.ofList ('0' :: '.' :: List.replicate (leading.natAbs - 1) '0' ++ digits)

end DecimalNotation

end DeviceHttp
