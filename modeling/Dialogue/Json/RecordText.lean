import Dialogue.Json.Parser
import Dialogue.Json.Record

/-!
# Records in text

A record that is read straight from a text has its known members read and the others
skipped.  A known member must not be repeated.  A skipped one has to look like a value,
and no more than that: it may nest deeper than a value that is read, and its numbers and
escaped characters need not exist.  Deeper inside a known member, which members count
depends on what is read there; `repeatsNone` looks for repeated ones in a value that is
kept as it was written.
-/

namespace Dialogue

namespace Json

/-- Skips the rest of a string after its opening quote. -/
def skipChars : List Char → Option (List Char)
  | '"' :: rest => some rest
  | '\\' :: 'u' :: a :: b :: c :: d :: rest =>
      match unit? a b c d with
      | some _ => skipChars rest
      | none => none
  | '\\' :: letter :: rest =>
      match unescape? letter with
      | some _ => skipChars rest
      | none => none
  | char :: rest => if char.toNat < 32 then none else skipChars rest
  | [] => none

/-- Skips a number at the front. -/
def skipNumber (chars : List Char) : Option (List Char) :=
  (readParts (spanMinus chars).2).map Prod.snd

mutual

/-- Skips a value at the front of the text.  The number bounds the number of steps. -/
def skipValue : Nat → List Char → Option (List Char)
  | 0, _ => none
  | fuel + 1, chars =>
      match chars with
      | 'n' :: 'u' :: 'l' :: 'l' :: rest => some rest
      | 't' :: 'r' :: 'u' :: 'e' :: rest => some rest
      | 'f' :: 'a' :: 'l' :: 's' :: 'e' :: rest => some rest
      | '"' :: rest => skipChars rest
      | '[' :: rest =>
          match skipBlanks rest with
          | ']' :: rest => some rest
          | rest => skipItems fuel rest
      | '{' :: rest =>
          match skipBlanks rest with
          | '}' :: rest => some rest
          | rest => skipMembers fuel rest
      | rest => skipNumber rest

/-- Skips the items of an array from the next one on. -/
def skipItems : Nat → List Char → Option (List Char)
  | 0, _ => none
  | fuel + 1, chars =>
      match skipValue fuel (skipBlanks chars) with
      | none => none
      | some rest =>
          match skipBlanks rest with
          | ',' :: rest => skipItems fuel rest
          | ']' :: rest => some rest
          | _ => none

/-- Skips the members of an object from the next one on. -/
def skipMembers : Nat → List Char → Option (List Char)
  | 0, _ => none
  | fuel + 1, chars =>
      match skipBlanks chars with
      | '"' :: rest =>
          match skipChars rest with
          | none => none
          | some rest =>
              match skipBlanks rest with
              | ':' :: rest =>
                  match skipValue fuel (skipBlanks rest) with
                  | none => none
                  | some rest =>
                      match skipBlanks rest with
                      | ',' :: rest => skipMembers fuel rest
                      | '}' :: rest => some rest
                      | _ => none
              | _ => none
      | _ => none

end

section

variable (collect : List (String × Json) → Json) (names : List String)

/-- The member of a record at the front of the text, after its name and a colon, put to
the members read so far if its name is known. -/
def readMember (bound : Nat) (read : Entries Json) (name : String) (chars : List Char) :
    Option (Entries Json × List Char) :=
  if names.contains name then
    if (read.find? name).isSome then none
    else
      (readValue collect bound (depthLimit - 1) chars).map fun (value, rest) =>
        ((name, value) :: read, rest)
  else (skipValue bound chars).map fun rest => (read, rest)

/-- The known members of a record from the next one on, with those read so far in
reverse. -/
def readRecord (bound : Nat) : Nat → Entries Json → List Char → Option (Entries Json × List Char)
  | 0, _, _ => none
  | fuel + 1, read, chars =>
      match skipBlanks chars with
      | '"' :: rest =>
          match readChars [] rest with
          | none => none
          | some (name, rest) =>
              match skipBlanks rest with
              | ':' :: rest =>
                  match readMember collect names bound read name (skipBlanks rest) with
                  | none => none
                  | some (read, rest) =>
                      match skipBlanks rest with
                      | ',' :: rest => readRecord bound fuel read rest
                      | '}' :: rest => some (read.reverse, rest)
                      | _ => none
              | _ => none
      | _ => none

/-- The known members of a record after its opening brace. -/
def readKnown (bound : Nat) (chars : List Char) : Option (Entries Json × List Char) :=
  match skipBlanks chars with
  | '}' :: rest => some ([], rest)
  | rest => readRecord collect names bound bound [] rest

/-- The known members of the record that a whole text denotes. -/
def recordOfText? (text : String) : Option (Entries Json) :=
  let chars := text.toList
  match skipBlanks chars with
  | '{' :: rest =>
      match readKnown collect names (2 * chars.length + 2) rest with
      | some (members, rest) => if (skipBlanks rest).isEmpty then some members else none
      | none => none
  | _ => (parseWith? collect text).bind (record? names)

end

end Json

/-- Whether none of the listed members is repeated. -/
def Entries.repeatsNone (names : List String) (members : Entries Json) : Bool :=
  names.all fun name => members.countP (fun member => member.1 == name) ≤ 1

/-- Whether a record repeats none of the listed members. -/
def Json.repeatsNone (names : List String) : Json → Bool
  | .object members => Entries.repeatsNone names members
  | _ => true

end Dialogue
