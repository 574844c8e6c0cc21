import Dialogue.Number.Binary64

/-!
# Decimal literals

A literal denotes a floating-point number in one of two ways.  `Binary64.nearest?`
rounds its exact value once.  `Binary64.ofLiteral?` reads it in one pass into a
significand of at most 64 bits and a decimal exponent; the significand becomes a
floating-point number and is then scaled by a power of ten with one rounding, so that
the last place can differ from that of the nearest number.
-/

namespace Dialogue

/-- The value of an ASCII digit. -/
def digitValue (char : Char) : Nat :=
  char.toNat - '0'.toNat

/-- The number that decimal digits denote. -/
def decimalValue (digits : List Char) : Nat :=
  digits.foldl (fun value digit => value * 10 + digitValue digit) 0

/-- A decimal literal split into its parts. -/
structure Literal where
  /-- Whether a minus sign stands in front. -/
  negative : Bool
  /-- The digits before the point. -/
  whole : List Char
  /-- The digits after the point. -/
  fraction : List Char
  /-- The power of ten after the exponent sign. -/
  exponent : Int

namespace Literal

/-- The bound of the significand. -/
def wordEnd : Nat := Nat.pow 2 64

/-- Appends digits to a significand while it stays below the bound.  Gives the
significand and the digits that are left. -/
def accumulate (significand : Nat) : List Char → Nat × List Char
  | [] => (significand, [])
  | char :: chars =>
      let next := significand * 10 + digitValue char
      if next < wordEnd then accumulate next chars else (significand, char :: chars)

/-- The significand and the decimal exponent of a literal.  Digits before the point
that do not fit raise the exponent; those after it are dropped. -/
def parts (literal : Literal) : Nat × Int :=
  let (whole, cut) := accumulate 0 literal.whole
  let (significand, dropped) := accumulate whole literal.fraction
  let used : Int := (literal.fraction.length : Int) - dropped.length
  (significand, literal.exponent + cut.length - used)

/-- The significand, if no digit before the point was cut. -/
def whole? (literal : Literal) : Option Nat :=
  match accumulate 0 literal.whole with
  | (value, []) => some value
  | _ => none

end Literal

namespace Binary64

/-- The greatest power of ten that is used as a factor. -/
def greatestPower : Nat := 308

/-- Ten to a power that the format holds. -/
def powerOfTen (exponent : Nat) : Binary64 :=
  (ofDecimal? false 1 exponent).getD default

/-- Divides by the greatest factor several times; zero stays zero. -/
def shrinkTimes : Nat → Binary64 → Option Binary64
  | 0, number => some number
  | times + 1, number =>
      if number.isZero then some number
      else (number.div? (powerOfTen greatestPower)).bind (shrinkTimes times)

/-- Divides by a power of ten: by the greatest factor while the power is greater,
then by what is left. -/
def shrink (number : Binary64) (exponent : Nat) : Option Binary64 :=
  let times := (exponent - 1) / greatestPower
  (shrinkTimes times number).bind fun smaller =>
    smaller.div? (powerOfTen (exponent - greatestPower * times))

/-- Multiplies by a power of ten; none beyond the finite numbers. -/
def grow (number : Binary64) (exponent : Nat) : Option Binary64 :=
  if exponent ≤ greatestPower then number.mul? (powerOfTen exponent)
  else if number.isZero then some number
  else none

/-- The number that a literal denotes when it is read in one pass; none beyond the
finite numbers. -/
def ofLiteral? (literal : Literal) : Option Binary64 := do
  let (significand, exponent) := literal.parts
  let whole ← ofNat? significand
  let magnitude ←
    if 0 ≤ exponent then whole.grow exponent.toNat else whole.shrink (-exponent).toNat
  return if literal.negative then magnitude.neg else magnitude

/-- Literals whose first digit stands at a greater place, or below the negative of
it, are beyond the finite numbers or round to zero. -/
def placeLimit : Int := 400

/-- The nearest number to the exact value of a literal; none beyond the finite
numbers. -/
def nearest? (literal : Literal) : Option Binary64 :=
  let digits := (literal.whole ++ literal.fraction).dropWhile (· == '0')
  let exponent := literal.exponent - literal.fraction.length
  let place : Int := digits.length + exponent
  if digits.isEmpty || place < -placeLimit then some (zero literal.negative)
  else if placeLimit < place then none
  else ofDecimal? literal.negative (decimalValue digits) exponent

end Binary64

end Dialogue
