/-!
# Binary floating point numbers of 64 bits

The non-negative finite numbers of IEEE 754 binary64, as a mantissa of at most 53 bits and a power
of two. Arithmetic is that of ratios of natural numbers, rounded to the nearest number and on a tie
to the one with an even mantissa.
-/

namespace DeviceHttp

/-- The number `mantissa * 2 ^ exponent`. -/
structure Binary64 where
  mantissa : Nat
  exponent : Int
deriving DecidableEq, Repr

namespace Binary64

/-- The exponent of the least positive number. -/
def minExponent : Int := -1074

/-- The exponent of the greatest number. -/
def maxExponent : Int := 971

def zero : Binary64 := ⟨0, minExponent⟩

def isZero (x : Binary64) : Bool := x.mantissa = 0

/-- A natural number with an integer power of a base as numerator and denominator. -/
def scaled (n base : Nat) (e : Int) : Nat × Nat :=
  if 0 ≤ e then (n * Nat.pow base e.toNat, 1) else (n, Nat.pow base (-e).toNat)

/-- The number as numerator and denominator. -/
def ratio (x : Binary64) : Nat × Nat := scaled x.mantissa 2 x.exponent

/-- The quotient of two numbers rounded to the nearest one, on a tie to the even one. -/
def roundDiv (num den : Nat) : Nat :=
  let quotient := num / den
  let twice := 2 * (num % den)
  if twice < den then quotient
  else if den < twice then quotient + 1
  else quotient + quotient % 2

/-- The number nearest to `num / den`, on a tie the one with an even mantissa. There is none if the
ratio rounds to `2 ^ 1024` or more. -/
def ofRatio? (num den : Nat) : Option Binary64 :=
  if num = 0 then some zero
  else
    -- `2 ^ guess` is at most the ratio or half of it, so the mantissa has 53 or 54 bits.
    let guess : Int := num.log2 - den.log2 - 53
    let mantissaAt (e : Int) : Nat × Nat :=
      let (n, d) := scaled num 2 (-e)
      (n, d * den)
    let (n, d) := mantissaAt guess
    let exponent := max (if n < d * Nat.pow 2 53 then guess else guess + 1) minExponent
    let (n, d) := mantissaAt exponent
    let mantissa := roundDiv n d
    let x : Binary64 :=
      if mantissa = Nat.pow 2 53 then ⟨Nat.pow 2 52, exponent + 1⟩ else ⟨mantissa, exponent⟩
    if maxExponent < x.exponent then none else some x

/-- The number nearest to `n`. -/
def ofNat? (n : Nat) : Option Binary64 := ofRatio? n 1

/-- The product, rounded. -/
def mul? (x y : Binary64) : Option Binary64 :=
  let (a, b) := x.ratio
  let (c, d) := y.ratio
  ofRatio? (a * c) (b * d)

/-- The quotient by a number that is not zero, rounded. -/
def div? (x y : Binary64) : Option Binary64 :=
  let (a, b) := x.ratio
  let (c, d) := y.ratio
  ofRatio? (a * d) (b * c)

/-- The number nearest to `10 ^ k`. -/
def powTen? (k : Nat) : Option Binary64 := ofNat? (Nat.pow 10 k)

end Binary64

end DeviceHttp
