import Dialogue.Number.Binary64

/-!
# Shortest decimals

The reals that round to a number form an interval around it.  `shortest` gives the
decimal with the fewest digits in that interval, of several the nearest to the
number, and of two equally near ones the one with an even last digit.  All tests
are comparisons of natural numbers.
-/

namespace Dialogue

/-- The positive decimal `digits * 10 ^ exponent`. -/
structure Decimal where
  /-- The digits read as one natural number. -/
  digits : Nat
  /-- The power of ten that scales the digits. -/
  exponent : Int
deriving DecidableEq, Inhabited

namespace Decimal

/-- Moves trailing zeros of the digits into the exponent, at most `limit` of them. -/
def strip : Nat → Decimal → Decimal
  | 0, decimal => decimal
  | limit + 1, decimal =>
      if decimal.digits % 10 = 0 ∧ decimal.digits ≠ 0 then
        strip limit ⟨decimal.digits / 10, decimal.exponent + 1⟩
      else decimal

end Decimal

namespace Binary64

/-- The interval that rounds to a number, in quarters of its unit over a common
denominator: value, lower end, upper end, and whether the ends belong to it. -/
structure Neighbourhood where
  /-- The number itself. -/
  value : Nat
  /-- Halfway to the next smaller number. -/
  lower : Nat
  /-- Halfway to the next greater number. -/
  upper : Nat
  /-- What all three are divided by. -/
  denominator : Nat
  /-- A tie rounds to the even significand, so the ends belong to even ones. -/
  closed : Bool

/-- The neighbourhood of a number that is not zero.  Below a power of two the gap
to the next smaller number is half as wide. -/
def neighbourhood (number : Binary64) : Neighbourhood where
  value := 4 * number.mantissa * Nat.pow 2 (number.exponent - 2).toNat
  lower :=
    (if number.mantissa = Nat.pow 2 52 ∧ -1074 < number.exponent then 4 * number.mantissa - 1
      else 4 * number.mantissa - 2) * Nat.pow 2 (number.exponent - 2).toNat
  upper := (4 * number.mantissa + 2) * Nat.pow 2 (number.exponent - 2).toNat
  denominator := Nat.pow 2 (2 - number.exponent).toNat
  closed := number.mantissa % 2 = 0

namespace Neighbourhood

/-- A decimal over the denominator of the neighbourhood and a power of ten: the
decimal's side and the factor for the other side. -/
def scaled (area : Neighbourhood) (decimal : Decimal) : Nat × Nat :=
  (decimal.digits * Nat.pow 10 decimal.exponent.toNat * area.denominator,
    Nat.pow 10 (-decimal.exponent).toNat)

/-- Whether a decimal rounds to the number. -/
def holds (area : Neighbourhood) (decimal : Decimal) : Bool :=
  let (side, factor) := area.scaled decimal
  if area.closed then
    decide (area.lower * factor ≤ side) && decide (side ≤ area.upper * factor)
  else
    decide (area.lower * factor < side) && decide (side < area.upper * factor)

/-- The greatest decimal with a given exponent that is at most the number. -/
def below (area : Neighbourhood) (exponent : Int) : Decimal where
  digits := area.value * Nat.pow 10 (-exponent).toNat
    / (area.denominator * Nat.pow 10 exponent.toNat)
  exponent := exponent

/-- The nearer of two neighbouring decimals, the even one of a tie. -/
def nearer (area : Neighbourhood) (low high : Decimal) : Decimal :=
  let (lowSide, factor) := area.scaled low
  let (highSide, _) := area.scaled high
  let twice := 2 * area.value * factor
  if twice < lowSide + highSide then low
  else if lowSide + highSide < twice then high
  else if low.digits % 2 = 0 then low
  else high

/-- The decimal with a given exponent that rounds to the number and is nearest to
it, if there is one. -/
def onGrid? (area : Neighbourhood) (exponent : Int) : Option Decimal :=
  let low := area.below exponent
  let high : Decimal := { low with digits := low.digits + 1 }
  match area.holds low, area.holds high with
  | true, true => some (area.nearer low high)
  | true, false => some low
  | false, true => some high
  | false, false => none

/-- The first decimal found on grids of falling exponents. -/
def search (area : Neighbourhood) : Nat → Int → Option Decimal
  | 0, _ => none
  | grids + 1, exponent =>
      match area.onGrid? exponent with
      | some decimal => some decimal
      | none => search area grids (exponent - 1)

end Neighbourhood

/-- The exact decimal value of a magnitude. -/
def exact (number : Binary64) : Decimal where
  digits := number.mantissa * Nat.pow 2 number.exponent.toNat * Nat.pow 5 (-number.exponent).toNat
  exponent := min 0 number.exponent

/-- The number of decimal digits of a natural number, at least one. -/
def digitCount (value : Nat) : Nat :=
  (Nat.toDigits 10 value).length

/-- The shortest decimal that rounds to the magnitude of a number other than zero.
The search starts one place above the first digit and tries seventeen digits, which
always suffice; the exact value stands behind it. -/
def shortest (number : Binary64) : Decimal :=
  let area := number.neighbourhood
  let exact := number.exact
  let first := exact.exponent + (digitCount exact.digits : Int)
  ((area.search 18 first).getD exact).strip 800

end Binary64

end Dialogue
