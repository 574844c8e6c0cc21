import Dialogue.Json.Basic
import Dialogue.Number.Hex
import Dialogue.Number.Scan

/-!
# Reading JSON text

`Json.parse?` accepts one value with blanks around it.  Arrays and objects nest at
most 127 deep, a lone half of a surrogate pair is refused, and of two members with
one name the later one counts.  A reader that has to know which members are repeated
keeps them all: `collect` says what becomes of the members of an object.
-/

namespace Dialogue

namespace Json

/-- The four blanks that may stand between tokens. -/
def isBlank (char : Char) : Bool :=
  char == ' ' || char == '\n' || char == '\t' || char == '\r'

/-- Drops blanks from the front. -/
def skipBlanks (chars : List Char) : List Char :=
  chars.dropWhile isBlank

/-- The value of four hexadecimal digits. -/
def unit? (first second third fourth : Char) : Option Nat :=
  hexNumber? [first, second, third, fourth]

/-- Whether a 16-bit unit opens a surrogate pair. -/
def isLeading (unit : Nat) : Bool :=
  0xD800 ≤ unit && unit < 0xDC00

/-- Whether a 16-bit unit closes a surrogate pair. -/
def isTrailing (unit : Nat) : Bool :=
  0xDC00 ≤ unit && unit < 0xE000

/-- The character behind a one-letter escape. -/
def unescape? : Char → Option Char
  | '"' => some '"'
  | '\\' => some '\\'
  | '/' => some '/'
  | 'b' => some '\x08'
  | 'f' => some '\x0c'
  | 'n' => some '\n'
  | 'r' => some '\r'
  | 't' => some '\t'
  | _ => none

/-- The rest of a string after its opening quote, with the characters read so far
in reverse, up to the closing quote. -/
def readChars (read : List Char) : List Char → Option (String × List Char)
  | '"' :: rest => some (String.ofList read.reverse, rest)
  | '\\' :: 'u' :: a :: b :: c :: d :: rest =>
      match unit? a b c d with
      | none => none
      | some unit =>
          if isLeading unit then
            match rest with
            | '\\' :: 'u' :: a :: b :: c :: d :: rest =>
                match unit? a b c d with
                | none => none
                | some second =>
                    if isTrailing second then
                      let scalar := 0x10000 + (unit - 0xD800) * 0x400 + (second - 0xDC00)
                      readChars (Char.ofNat scalar :: read) rest
                    else none
            | _ => none
          else if isTrailing unit then none
          else readChars (Char.ofNat unit :: read) rest
  | '\\' :: letter :: rest =>
      match unescape? letter with
      | none => none
      | some char => readChars (char :: read) rest
  | char :: rest => if char.toNat < 32 then none else readChars (char :: read) rest
  | [] => none

/-- Splits decimal digits from the front. -/
def spanDigits (chars : List Char) : List Char × List Char :=
  chars.span Char.isDigit

/-- The digits before the point: a single zero, or digits that start with another. -/
def readWhole (chars : List Char) : Option (List Char × List Char) :=
  match spanDigits chars with
  | ([], _) => none
  | (digits, rest) =>
      if digits.head? = some '0' ∧ digits.length ≠ 1 then none else some (digits, rest)

/-- The digits after a point, if there is a point. -/
def readFraction : List Char → Option (Option (List Char) × List Char)
  | '.' :: chars =>
      match spanDigits chars with
      | ([], _) => none
      | (digits, rest) => some (some digits, rest)
  | chars => some (none, chars)

/-- The digits of an exponent as an integer. -/
def exponentOf (negative : Bool) (digits : List Char) : Int :=
  let magnitude : Int := decimalValue digits
  if negative then -magnitude else magnitude

/-- Takes a minus sign off the front and tells whether there was one. -/
def spanMinus : List Char → Bool × List Char
  | '-' :: chars => (true, chars)
  | chars => (false, chars)

/-- Takes a sign off the front and tells whether it was a minus sign. -/
def spanSign : List Char → Bool × List Char
  | '+' :: chars => (false, chars)
  | chars => spanMinus chars

/-- The exponent after its letter, if there is one. -/
def readExponent : List Char → Option (Option Int × List Char)
  | char :: chars =>
      if char = 'e' ∨ char = 'E' then
        match spanDigits (spanSign chars).2 with
        | ([], _) => none
        | (digits, rest) => some (some (exponentOf (spanSign chars).1 digits), rest)
      else some (none, char :: chars)
  | [] => some (none, [])

/-- The parts of a number after its sign. -/
structure NumberParts where
  /-- The digits before the point. -/
  whole : List Char
  /-- The digits after the point, if there is one. -/
  fraction : Option (List Char)
  /-- The exponent, if there is one. -/
  exponent : Option Int

/-- The parts of a number at the front, after its sign. -/
def readParts (chars : List Char) : Option (NumberParts × List Char) := do
  let (whole, chars) ← readWhole chars
  let (fraction, chars) ← readFraction chars
  let (exponent, chars) ← readExponent chars
  return (⟨whole, fraction, exponent⟩, chars)

/-- The integer of a literal without fraction and exponent: minus zero and what
does not fit 64 bits are no integers. -/
def integer? (literal : Literal) : Option Int := do
  let value ← literal.whole?
  if literal.negative then
    if value = 0 ∨ Nat.pow 2 63 < value then none else some (-value)
  else some value

/-- The number that a sign and parts denote. -/
def NumberParts.number? (negative : Bool) (parts : NumberParts) : Option Number :=
  let literal : Literal := ⟨negative, parts.whole, parts.fraction.getD [], parts.exponent.getD 0⟩
  let exact :=
    if parts.fraction.isNone && parts.exponent.isNone then integer? literal else none
  match exact with
  | some value => some (.int value)
  | none => (Binary64.ofLiteral? literal).map .float

/-- A number at the front. -/
def readNumber (chars : List Char) : Option (Number × List Char) := do
  let (parts, rest) ← readParts (spanMinus chars).2
  let number ← parts.number? (spanMinus chars).1
  return (number, rest)

/-- The greatest depth of nested arrays and objects. -/
def depthLimit : Nat := 127

section

variable (collect : List (String × Json) → Json)

mutual

/-- A value at the front of the text.  The first number bounds the number of
steps and the second one the depth. -/
def readValue : Nat → Nat → List Char → Option (Json × List Char)
  | 0, _, _ => none
  | fuel + 1, depth, chars =>
      match chars with
      | 'n' :: 'u' :: 'l' :: 'l' :: rest => some (.null, rest)
      | 't' :: 'r' :: 'u' :: 'e' :: rest => some (.bool true, rest)
      | 'f' :: 'a' :: 'l' :: 's' :: 'e' :: rest => some (.bool false, rest)
      | '"' :: rest => (readChars [] rest).map fun (text, rest) => (.string text, rest)
      | '[' :: rest =>
          match depth with
          | 0 => none
          | depth + 1 =>
              match skipBlanks rest with
              | ']' :: rest => some (.array [], rest)
              | rest => readItems fuel depth [] rest
      | '{' :: rest =>
          match depth with
          | 0 => none
          | depth + 1 =>
              match skipBlanks rest with
              | '}' :: rest => some (collect [], rest)
              | rest => readMembers fuel depth [] rest
      | rest => (readNumber rest).map fun (value, rest) => (.number value, rest)

/-- The items of an array from the next one on, with the items read so far in
reverse. -/
def readItems : Nat → Nat → List Json → List Char → Option (Json × List Char)
  | 0, _, _, _ => none
  | fuel + 1, depth, read, chars =>
      match readValue fuel depth (skipBlanks chars) with
      | none => none
      | some (item, rest) =>
          match skipBlanks rest with
          | ',' :: rest => readItems fuel depth (item :: read) rest
          | ']' :: rest => some (.array (item :: read).reverse, rest)
          | _ => none

/-- The members of an object from the next one on, with the members read so far in
reverse. -/
def readMembers :
    Nat → Nat → List (String × Json) → List Char → Option (Json × List Char)
  | 0, _, _, _ => none
  | fuel + 1, depth, read, chars =>
      match skipBlanks chars with
      | '"' :: rest =>
          match readChars [] rest with
          | none => none
          | some (name, rest) =>
              match skipBlanks rest with
              | ':' :: rest =>
                  match readValue fuel depth (skipBlanks rest) with
                  | none => none
                  | some (value, rest) =>
                      match skipBlanks rest with
                      | ',' :: rest => readMembers fuel depth ((name, value) :: read) rest
                      | '}' :: rest => some (collect ((name, value) :: read).reverse, rest)
                      | _ => none
              | _ => none
      | _ => none

end

/-- The value that a whole text denotes.  Every step consumes a character, so the
length of the text bounds their number. -/
def parseWith? (text : String) : Option Json :=
  let chars := text.toList
  match readValue collect (2 * chars.length + 2) depthLimit (skipBlanks chars) with
  | some (value, rest) => if (skipBlanks rest).isEmpty then some value else none
  | none => none

end

/-- The value that a whole text denotes, with the members of objects by name. -/
def parse? : String → Option Json :=
  parseWith? ofMembers

end Json

end Dialogue
