import DeviceHttp.Decimal.Shortest
import DeviceHttp.Text.Ascii

/-!
# Numbers in JSON

An integer that a 64-bit word holds is kept as it is. Every other number is a binary64 number.

The digits of such a number are collected in a 64-bit significand while they fit. A digit of the
integer part that no longer fits multiplies by ten instead; the first digit of the fraction that
does not fit ends the significand. The result is the significand times or divided by a power of ten,
both rounded first. A number that is too large is an error, one that is too small is zero.
-/

namespace DeviceHttp.Json

/-- A number of a JSON text. -/
inductive Number where
  | integer (n : Int)
  | float (negative : Bool) (magnitude : Binary64)
deriving DecidableEq, Repr

namespace Number

/-- How numbers with a fraction or an exponent are written. -/
def floatNotation : DecimalNotation where
  minPositional := -5
  maxPositional := 15
  integerEnd := ".0"
  positiveMark := "e+"
  negativeMark := "e-"

/-- The text of a number. -/
def text : Number → String
  | integer n => toString n
  | float negative magnitude =>
    let digits :=
      if magnitude.isZero then "0.0" else floatNotation.write magnitude.shortest
    (if negative then "-" else "") ++ digits

/-! ## Reading -/

/-- The greatest 64-bit word. -/
def maxWord : Nat := UInt64.size - 1

/-- Digits collected so far, as `significand * 10 ^ exponent`. -/
structure Collected where
  significand : Nat
  exponent : Int

/-- Appends the digits of an integer part. Once one does not fit, all that follow only multiply. -/
def collectInteger : Collected → List Char → Collected
  | n, [] => n
  | n, c :: cs =>
    let longer := n.significand * 10 + Text.digitValue c
    if n.exponent = 0 ∧ longer ≤ maxWord then collectInteger ⟨longer, 0⟩ cs
    else collectInteger ⟨n.significand, n.exponent + 1⟩ cs

/-- Appends the digits of a fraction, up to the first one that does not fit. -/
def collectFraction : Collected → List Char → Collected
  | n, [] => n
  | n, c :: cs =>
    let longer := n.significand * 10 + Text.digitValue c
    if longer ≤ maxWord then collectFraction ⟨longer, n.exponent - 1⟩ cs else n

/-- The greatest power of ten that one step scales by. -/
def maxStep : Nat := 308

/-- Divides by `10 ^ k`, at most `10 ^ 308` at a time. -/
def divPowTen? (x : Binary64) (k : Nat) : Option Binary64 :=
  if k ≤ maxStep then do x.div? (← Binary64.powTen? k)
  else if x.isZero then some x
  else do
    let x ← x.div? (← Binary64.powTen? maxStep)
    divPowTen? x (k - maxStep)
termination_by k
decreasing_by simp only [maxStep] at *; omega

/-- The binary64 number for collected digits, unless it is too large. -/
def scale? (n : Collected) : Option Binary64 := do
  let x ← Binary64.ofNat? n.significand
  if n.exponent < 0 then divPowTen? x n.exponent.natAbs
  else if n.exponent.natAbs ≤ maxStep then x.mul? (← Binary64.powTen? n.exponent.natAbs)
  else if x.isZero then some x
  else none

/-- The exponents that are told apart lie within 32 bits. -/
def clampExponent (e : Int) : Int := max Int32.minValue.toInt (min Int32.maxValue.toInt e)

/-- The digits at the start of a text and what follows them. -/
def spanDigits (cs : List Char) : List Char × List Char :=
  (cs.takeWhile Text.isDigit, cs.dropWhile Text.isDigit)

/-- The integer part: at least one digit, and only one if it is a zero. -/
def integerPart? (cs : List Char) : Option (List Char × List Char) :=
  match spanDigits cs with
  | ([], _) => none
  | (['0'], rest) => some (['0'], rest)
  | ('0' :: _, _) => none
  | (digits, rest) => some (digits, rest)

/-- The fraction: nothing, or a point and at least one digit. -/
def fraction? : List Char → Option (Option (List Char) × List Char)
  | '.' :: cs =>
    match spanDigits cs with
    | ([], _) => none
    | (digits, rest) => some (some digits, rest)
  | cs => some (none, cs)

/-- The exponent: nothing, or the letter e, a sign or none, and at least one digit. -/
def exponent? : List Char → Option (Option Int × List Char)
  | c :: cs =>
    if c = 'e' ∨ c = 'E' then
      let (sign, cs) : Int × List Char := match cs with
        | '-' :: cs => (-1, cs)
        | '+' :: cs => (1, cs)
        | cs => (1, cs)
      match spanDigits cs with
      | ([], _) => none
      | (digits, rest) => some (some (sign * Text.ofDigits digits), rest)
    else some (none, c :: cs)
  | [] => some (none, [])

/-- The number with a sign and three parts, of which the last two may be missing. -/
def ofParts? (negative : Bool) (integerDigits : List Char) (fractionDigits : Option (List Char))
    (exponent : Option Int) : Option Number :=
  let whole := collectInteger ⟨0, 0⟩ integerDigits
  let isInteger := fractionDigits.isNone && exponent.isNone && whole.exponent = 0
  if isInteger && !negative then some (.integer whole.significand)
  else if isInteger && 0 < whole.significand && whole.significand ≤ Nat.pow 2 63 then
    some (.integer (-whole.significand))
  else do
    let n := collectFraction whole (fractionDigits.getD [])
    let e := exponent.getD 0
    if e.natAbs < Nat.pow 2 31 then
      let magnitude ← scale? ⟨n.significand, clampExponent (n.exponent + e)⟩
      return .float negative magnitude
    else if n.significand = 0 ∨ e < 0 then return .float negative .zero
    else none

/-- Reads the number at the start of a text. -/
def read? (cs : List Char) : Option (Number × List Char) := do
  let (negative, cs) := match cs with
    | '-' :: cs => (true, cs)
    | cs => (false, cs)
  let (integerDigits, cs) ← integerPart? cs
  let (fractionDigits, cs) ← fraction? cs
  let (exponent, cs) ← exponent? cs
  let number ← ofParts? negative integerDigits fractionDigits exponent
  return (number, cs)

end Number

end DeviceHttp.Json
