/-!
# Finite binary floating-point numbers

A finite number of the 64-bit binary format is a sign and a magnitude
`mantissa * 2 ^ exponent` in the one form that the format allows.  Numbers are
made by rounding a ratio of natural numbers to the nearest representable value,
ties to the even mantissa, so every operation is exact arithmetic followed by one
rounding.  A result beyond the largest finite number is `none`.
-/

namespace Dialogue

/-- A finite number of the 64-bit binary format. -/
structure Binary64 where
  /-- Whether the sign bit is set; zero has both signs. -/
  negative : Bool
  /-- The integer significand, of at most 53 bits. -/
  mantissa : Nat
  /-- The power of two that scales the significand. -/
  exponent : Int
  /-- Significands have 53 bits, or fewer at the least exponent. -/
  canonical : mantissa < Nat.pow 2 53 ∧
    (exponent = -1074 ∨ Nat.pow 2 52 ≤ mantissa ∧ -1074 < exponent ∧ exponent ≤ 971)
deriving DecidableEq

namespace Binary64

/-- Zero with a sign. -/
def zero (negative : Bool) : Binary64 :=
  ⟨negative, 0, -1074, by decide⟩

instance : Inhabited Binary64 :=
  ⟨zero false⟩

/-- Whether the magnitude is zero. -/
def isZero (number : Binary64) : Bool :=
  number.mantissa == 0

/-- Numeric equality, under which the two zeros are one number. -/
def same (left right : Binary64) : Bool :=
  left == right || left.isZero && right.isZero

/-- The number with the opposite sign. -/
def neg (number : Binary64) : Binary64 :=
  { number with negative := !number.negative }

/-- The quotient rounded to the nearest natural number, ties to even. -/
def roundDiv (numerator denominator : Nat) : Nat :=
  let quotient := numerator / denominator
  let remainder := numerator % denominator
  if 2 * remainder < denominator then quotient
  else if 2 * remainder = denominator then quotient + quotient % 2
  else quotient + 1

/-- The number with a sign, significand and exponent, if the format has it. -/
def make? (negative : Bool) (mantissa : Nat) (exponent : Int) : Option Binary64 :=
  if h : mantissa < Nat.pow 2 53 ∧
      (exponent = -1074 ∨ Nat.pow 2 52 ≤ mantissa ∧ -1074 < exponent ∧ exponent ≤ 971) then
    some ⟨negative, mantissa, exponent, h⟩
  else none

/-- The number of units `2 ^ exponent` in a ratio, as a ratio again. -/
def unitsAt (numerator denominator : Nat) (exponent : Int) : Nat × Nat :=
  (numerator * Nat.pow 2 (-exponent).toNat, denominator * Nat.pow 2 exponent.toNat)

/-- Rounds a ratio with a positive denominator to the nearest number, ties to the
even significand.  The exponent is first chosen so that the quotient has at least
53 bits, then raised by one if it has 54. -/
def ofRatio? (negative : Bool) (numerator denominator : Nat) : Option Binary64 :=
  if numerator = 0 then some (zero negative) else
  let bits : Int := (Nat.log2 numerator : Int) - (Nat.log2 denominator : Int)
  let low := max (-1074) (bits - 53)
  let units := unitsAt numerator denominator low
  let exponent := if units.1 / units.2 < Nat.pow 2 53 then low else low + 1
  let units := unitsAt numerator denominator exponent
  let mantissa := roundDiv units.1 units.2
  if mantissa = Nat.pow 2 53 then make? negative (Nat.pow 2 52) (exponent + 1)
  else make? negative mantissa exponent

/-- The magnitude as a ratio. -/
def ratio (number : Binary64) : Nat × Nat :=
  (number.mantissa * Nat.pow 2 number.exponent.toNat, Nat.pow 2 (-number.exponent).toNat)

/-- The nearest number to a natural number. -/
def ofNat? (value : Nat) : Option Binary64 :=
  ofRatio? false value 1

/-- The nearest number to an integer. -/
def ofInt? (value : Int) : Option Binary64 :=
  ofRatio? (decide (value < 0)) value.natAbs 1

/-- The rounded product; its sign is the exclusive or of the signs. -/
def mul? (left right : Binary64) : Option Binary64 :=
  let (leftTop, leftBottom) := left.ratio
  let (rightTop, rightBottom) := right.ratio
  ofRatio? (left.negative != right.negative) (leftTop * rightTop) (leftBottom * rightBottom)

/-- The rounded quotient by a number that is not zero. -/
def div? (left right : Binary64) : Option Binary64 :=
  let (leftTop, leftBottom) := left.ratio
  let (rightTop, rightBottom) := right.ratio
  if rightTop = 0 then none
  else ofRatio? (left.negative != right.negative) (leftTop * rightBottom) (leftBottom * rightTop)

/-- The nearest number to `significand * 10 ^ exponent`. -/
def ofDecimal? (negative : Bool) (significand : Nat) (exponent : Int) : Option Binary64 :=
  ofRatio? negative (significand * Nat.pow 10 exponent.toNat) (Nat.pow 10 (-exponent).toNat)

end Binary64

end Dialogue
