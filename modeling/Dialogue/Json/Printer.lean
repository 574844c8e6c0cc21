import Dialogue.Json.Basic
import Dialogue.Number.Hex
import Dialogue.Number.Shortest

/-!
# Compact JSON text

`Json.compact` writes a value without blanks and members in the order they are
listed in.  Integers are written in full, floating-point numbers with the fewest
digits that read back.  Every writer takes the text that follows, so that a value
is written in one pass.
-/

namespace Dialogue

namespace Decimal

/-- Decimals from this exponent of the first digit on are written with an exponent. -/
def positionalEnd : Int := 16

/-- Decimals below this exponent of the first digit are written with an exponent. -/
def positionalStart : Int := -5

/-- The text of a positive decimal: always with a fraction or an exponent, the
exponent with its sign and without leading zeros. -/
def text (decimal : Decimal) : List Char :=
  let digits := Nat.toDigits 10 decimal.digits
  let places : Int := (digits.length : Int) + decimal.exponent
  let leading := places - 1
  if leading < positionalStart ∨ positionalEnd ≤ leading then
    let fraction := digits.drop 1
    digits.take 1
      ++ (if fraction.isEmpty then [] else '.' :: fraction)
      ++ 'e' :: (if leading < 0 then '-' else '+') :: Nat.toDigits 10 leading.natAbs
  else if places ≤ 0 then
    '0' :: '.' :: (List.replicate (-places).toNat '0' ++ digits)
  else if 0 ≤ decimal.exponent then
    digits ++ List.replicate decimal.exponent.toNat '0' ++ ['.', '0']
  else
    digits.take places.toNat ++ '.' :: digits.drop places.toNat

end Decimal

namespace Number

/-- The text of a number. -/
def text : Number → List Char
  | .int value =>
      if value < 0 then '-' :: Nat.toDigits 10 value.natAbs else Nat.toDigits 10 value.natAbs
  | .float value =>
      let magnitude := if value.isZero then ['0', '.', '0'] else value.shortest.text
      if value.negative then '-' :: magnitude else magnitude

end Number

namespace Json

/-- A character inside a string: quotes, backslashes and control characters are
escaped. -/
def escape (char : Char) : List Char :=
  if char = '"' then ['\\', '"']
  else if char = '\\' then ['\\', '\\']
  else if char = '\x08' then ['\\', 'b']
  else if char = '\t' then ['\\', 't']
  else if char = '\n' then ['\\', 'n']
  else if char = '\x0c' then ['\\', 'f']
  else if char = '\r' then ['\\', 'r']
  else if char.toNat < 32 then
    ['\\', 'u', '0', '0', hexDigit (char.toNat / 16), hexDigit (char.toNat % 16)]
  else [char]

/-- Escaped characters and a closing quote before the text that follows. -/
def writeChars : List Char → List Char → List Char
  | [], rest => '"' :: rest
  | char :: chars, rest => escape char ++ writeChars chars rest

/-- A quoted string before the text that follows. -/
def writeString (text : String) (rest : List Char) : List Char :=
  '"' :: writeChars text.toList rest

mutual

/-- A value before the text that follows. -/
def write : Json → List Char → List Char
  | .null, rest => 'n' :: 'u' :: 'l' :: 'l' :: rest
  | .bool true, rest => 't' :: 'r' :: 'u' :: 'e' :: rest
  | .bool false, rest => 'f' :: 'a' :: 'l' :: 's' :: 'e' :: rest
  | .number value, rest => value.text ++ rest
  | .string text, rest => writeString text rest
  | .array [], rest => '[' :: ']' :: rest
  | .array (item :: items), rest => '[' :: write item (writeItems items rest)
  | .object [], rest => '{' :: '}' :: rest
  | .object ((name, value) :: members), rest =>
      '{' :: writeString name (':' :: write value (writeMembers members rest))

/-- The items after the first one and the closing bracket. -/
def writeItems : List Json → List Char → List Char
  | [], rest => ']' :: rest
  | item :: items, rest => ',' :: write item (writeItems items rest)

/-- The members after the first one and the closing brace. -/
def writeMembers : List (String × Json) → List Char → List Char
  | [], rest => '}' :: rest
  | (name, value) :: members, rest =>
      ',' :: writeString name (':' :: write value (writeMembers members rest))

end

/-- The compact text of a value. -/
def compact (value : Json) : String :=
  String.ofList (write value [])

end Json

end Dialogue
