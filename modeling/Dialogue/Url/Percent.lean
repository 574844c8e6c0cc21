import Dialogue.Number.Hex

/-!
# Percent encoding

In addresses a byte may be written as a percent sign with two hexadecimal digits.
Characters outside of ASCII are written as the bytes of their UTF-8 form.
-/

namespace Dialogue.Url

/-- A byte as a percent sign and two upper-case digits. -/
def encodeByte (byte : UInt8) : List Char :=
  ['%', (hexDigit (byte.toNat / 16)).toUpper, (hexDigit (byte.toNat % 16)).toUpper]

/-- A character by its bytes. -/
def encodeChar (char : Char) : List Char :=
  (String.utf8EncodeChar char).flatMap encodeByte

/-- Encodes the characters of a class and all that are no printable ASCII. -/
def encode (isReserved : Char → Bool) (chars : List Char) : List Char :=
  chars.flatMap fun char =>
    if char.toNat ≤ 0x20 || 0x7F ≤ char.toNat || isReserved char then encodeChar char else [char]

/-- The bytes of a text, where the encoded ones are read. -/
def decodeBytes : List Char → List UInt8
  | [] => []
  | '%' :: high :: low :: chars =>
      match hexNumber? [high, low] with
      | some value => value.toUInt8 :: decodeBytes chars
      | none => '%'.toNat.toUInt8 :: decodeBytes (high :: low :: chars)
  | char :: chars => String.utf8EncodeChar char ++ decodeBytes chars

/-- The text that an encoded text stands for, if its bytes are UTF-8. -/
def decode? (chars : List Char) : Option (List Char) :=
  (String.fromUTF8? ⟨(decodeBytes chars).toArray⟩).map String.toList

/-- Whether a form field keeps a character. -/
def isFormChar (char : Char) : Bool :=
  char.isAlphanum || char == '*' || char == '-' || char == '.' || char == '_'

/-- A form field: blanks become plus signs, other characters are encoded. -/
def encodeField (text : String) : String :=
  String.ofList (text.toList.flatMap fun char =>
    if char = ' ' then ['+'] else if isFormChar char then [char] else encodeChar char)

end Dialogue.Url
