/-!
# ASCII letters and digits

Names of headers, media types and parameters are compared without regard to the case of the letters
`A` to `Z`; all other characters must be the same. Numbers are read from the digits `0` to `9`
alone.
-/

namespace DeviceHttp.Text

/-- Capital ASCII letters become small, everything else stays. -/
def lowerAscii (c : Char) : Char := if 'A' ≤ c ∧ c ≤ 'Z' then Char.ofNat (c.toNat + 32) else c

/-- Whether two texts agree up to ASCII case. -/
def eqIgnoreCase (cs ds : List Char) : Bool := cs.map lowerAscii == ds.map lowerAscii

/-- The characters `0` to `9`. -/
def isDigit (c : Char) : Bool := '0' ≤ c && c ≤ '9'

/-- The value of a decimal digit. -/
def digitValue (c : Char) : Nat := c.toNat - '0'.toNat

/-- The value of a hexadecimal digit of either case. -/
def hexDigit? (c : Char) : Option Nat :=
  if '0' ≤ c ∧ c ≤ '9' then some (c.toNat - '0'.toNat)
  else if 'a' ≤ c ∧ c ≤ 'f' then some (c.toNat - 'a'.toNat + 10)
  else if 'A' ≤ c ∧ c ≤ 'F' then some (c.toNat - 'A'.toNat + 10)
  else none

/-- The number that decimal digits stand for. -/
def ofDigits (cs : List Char) : Nat := cs.foldl (fun n c => 10 * n + digitValue c) 0

/-- The characters after an optional plus sign. -/
def dropPlus : List Char → List Char
  | '+' :: cs => cs
  | cs => cs

/-- Reads an unsigned number below `bound`: an optional plus sign and at least one decimal digit,
with leading zeros allowed, and nothing else. -/
def unsigned? (bound : Nat) (cs : List Char) : Option Nat :=
  let digits := dropPlus cs
  if digits ≠ [] ∧ digits.all isDigit ∧ ofDigits digits < bound then some (ofDigits digits)
  else none

theorem unsigned?_lt {bound n : Nat} {cs : List Char} (h : unsigned? bound cs = some n) :
    n < bound := by
  simp only [unsigned?, Option.ite_none_right_eq_some, Option.some.injEq] at h
  omega

end DeviceHttp.Text
