import Dialogue.Number.Hex
import Dialogue.Text.Split
import Dialogue.Toml.Basic

/-!
# Unquoted TOML values

Booleans, numbers and points in time are words without quotes.  Underscores may
stand between the digits of a number.
-/

namespace Dialogue.Toml

/-- The digits of a number without the underscores between them. -/
def digits? (isDigit : Char → Bool) (chars : List Char) : Option (List Char) :=
  let parts := Text.split (· == '_') chars
  if parts.all fun part => !part.isEmpty && part.all isDigit then some parts.flatten else none

/-- The digits of a decimal number, which starts with a zero only if it is zero. -/
def decimalDigits? (chars : List Char) : Option (List Char) :=
  (digits? Char.isDigit chars).filter fun digits => digits.length == 1 || digits.head? != some '0'

/-- The number that digits denote in a base of at most sixteen. -/
def baseNumber? (base : Nat) (chars : List Char) : Option Nat := do
  let digits ← digits? (fun char => (hexValue? char).any (· < base)) chars
  return digits.foldl (fun value digit => value * base + (hexValue? digit).getD 0) 0

/-- An integer, if it is neither below minus 2 to the 127 nor from 2 to the 128 on. -/
def boundedInteger? (value : Int) : Option Toml :=
  if -(Int.pow 2 127) ≤ value ∧ value < Int.pow 2 128 then some (.integer value) else none

/-- Whether a character opens an exponent. -/
def isExponentMark (char : Char) : Bool :=
  char == 'e' || char == 'E'

/-- The exponent that a text denotes. -/
def exponent? : List Char → Option Int
  | '-' :: chars => (digits? Char.isDigit chars).map fun digits => -(decimalValue digits : Int)
  | '+' :: chars => (digits? Char.isDigit chars).map fun digits => (decimalValue digits : Int)
  | chars => (digits? Char.isDigit chars).map fun digits => (decimalValue digits : Int)

/-- A decimal number without its sign.  It is an integer if it has neither a fraction
nor an exponent. -/
def decimal? (negative : Bool) (chars : List Char) : Option Toml := do
  let (mantissa, exponent) := chars.span (!isExponentMark ·)
  let (whole, fraction) := mantissa.span (· != '.')
  let whole ← decimalDigits? whole
  if exponent.isEmpty && fraction.isEmpty then
    let value : Int := decimalValue whole
    boundedInteger? (if negative then -value else value)
  else
    let fraction ← if fraction.isEmpty then some [] else digits? Char.isDigit (fraction.drop 1)
    let exponent ← if exponent.isEmpty then some 0 else exponent? (exponent.drop 1)
    let value ← Binary64.nearest? ⟨negative, whole, fraction, exponent⟩
    return .float (some value)

/-- A number behind its sign. -/
def signed? (negative : Bool) : List Char → Option Toml
  | ['i', 'n', 'f'] => some (.float none)
  | ['n', 'a', 'n'] => some (.float none)
  | chars => decimal? negative chars

/-- The value that a word denotes. -/
def scalar? : List Char → Option Toml
  | ['t', 'r', 'u', 'e'] => some (.bool true)
  | ['f', 'a', 'l', 's', 'e'] => some (.bool false)
  | '0' :: 'x' :: chars => (baseNumber? 16 chars).bind fun value => boundedInteger? value
  | '0' :: 'o' :: chars => (baseNumber? 8 chars).bind fun value => boundedInteger? value
  | '0' :: 'b' :: chars => (baseNumber? 2 chars).bind fun value => boundedInteger? value
  | '-' :: chars => signed? true chars
  | '+' :: chars => signed? false chars
  | chars => ((Moment.parse? chars).map Toml.moment).or (signed? false chars)

end Dialogue.Toml
