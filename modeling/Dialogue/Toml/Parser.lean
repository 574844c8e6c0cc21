import Dialogue.Toml.Draft
import Dialogue.Toml.Quoted
import Dialogue.Toml.Scalar

/-!
# Reading TOML documents

A document is a list of lines: a key with its value, or the header of the table that
holds the keys of the following lines.  Arrays and tables within braces may run over
several lines and may end with a comma.
-/

namespace Dialogue.Toml

/-- Whether a character is blank within a line. -/
def isBlank (char : Char) : Bool :=
  char == ' ' || char == '\t'

/-- Drops blanks from the front. -/
def skipBlanks (chars : List Char) : List Char :=
  chars.dropWhile isBlank

/-- Drops blanks, line breaks and comments from the front; the first argument tells
whether a comment has begun. -/
def skipGap? (inComment : Bool) : List Char → Option (List Char)
  | [] => some []
  | '\n' :: rest => skipGap? false rest
  | '\r' :: '\n' :: rest => skipGap? false rest
  | char :: rest =>
      if inComment then if isPlain char then skipGap? true rest else none
      else if isBlank char then skipGap? false rest
      else if char = '#' then skipGap? true rest
      else some (char :: rest)

/-- Whether nothing but a comment is left of a line. -/
def endsLine (chars : List Char) : Bool :=
  match skipBlanks chars with
  | [] => true
  | '#' :: _ => true
  | '\n' :: _ => true
  | '\r' :: '\n' :: _ => true
  | _ => false

/-- Whether a character may stand in a key without quotes. -/
def isBareChar (char : Char) : Bool :=
  char.isAlphanum || char == '-' || char == '_'

/-- One name of a key at the front. -/
def readName? (chars : List Char) : Option (String × List Char) :=
  match chars.span isBareChar with
  | ([], rest) => readQuotedLine rest
  | (name, rest) => some (String.ofList name, rest)

/-- A key at the front, with the names before it.  The first argument bounds the
number of names. -/
def readKey? : Nat → List String → List Char → Option (Draft.Key × List Char)
  | 0, _, _ => none
  | fuel + 1, path, chars => do
      let (name, rest) ← readName? chars
      match skipBlanks rest with
      | '.' :: rest => readKey? fuel (path ++ [name]) (skipBlanks rest)
      | rest => return (⟨path, name⟩, rest)

/-- A key and the equals sign behind it. -/
def readAssigned? (chars : List Char) : Option (Draft.Key × List Char) := do
  let (key, rest) ← readKey? chars.length [] chars
  match rest with
  | '=' :: rest => return (key, skipBlanks rest)
  | _ => none

/-- Whether a character ends a word. -/
def endsWord (char : Char) : Bool :=
  [' ', '\t', '\n', '\r', ',', '#', '=', '[', ']', '\x7b', '\x7d', '"', '\''].contains char

/-- A word at the front.  A time of day may follow a date behind one blank. -/
def readWord (chars : List Char) : List Char × List Char :=
  let (word, rest) := chars.span (!endsWord ·)
  match Date.read? word, rest with
  | some (_, []), ' ' :: digit :: more =>
      if digit.isDigit then
        let (time, rest) := (digit :: more).span (!endsWord ·)
        (word ++ ' ' :: time, rest)
      else (word, rest)
  | _, _ => (word, rest)

/-- The greatest depth of nested arrays and tables within braces. -/
def depthLimit : Nat := 80

mutual

/-- A value at the front.  The first argument bounds the number of steps and the
second one the depth. -/
def readValue? : Nat → Nat → List Char → Option (Toml × List Char)
  | 0, _, _ => none
  | fuel + 1, depth, chars =>
      match chars with
      | '[' :: rest =>
          match depth with
          | 0 => none
          | depth + 1 => readItems? fuel depth [] rest
      | '\x7b' :: rest =>
          match depth with
          | 0 => none
          | depth + 1 => readMembers? fuel depth [] rest
      | '"' :: _ => (readQuoted chars).map fun (text, rest) => (.string text, rest)
      | '\'' :: _ => (readQuoted chars).map fun (text, rest) => (.string text, rest)
      | _ =>
          let (word, rest) := readWord chars
          (scalar? word).map fun value => (value, rest)

/-- The items of an array from the next one on, with those read so far in reverse. -/
def readItems? : Nat → Nat → List Toml → List Char → Option (Toml × List Char)
  | 0, _, _, _ => none
  | fuel + 1, depth, read, chars =>
      match skipGap? false chars with
      | none => none
      | some (']' :: rest) => some (.array read.reverse, rest)
      | some chars =>
          match readValue? fuel depth chars with
          | none => none
          | some (item, rest) =>
              match skipGap? false rest with
              | some (',' :: rest) => readItems? fuel depth (item :: read) rest
              | some (']' :: rest) => some (.array (item :: read).reverse, rest)
              | _ => none

/-- The members of a table within braces from the next one on, added to those read so
far. -/
def readMembers? : Nat → Nat → Draft.Members → List Char → Option (Toml × List Char)
  | 0, _, _, _ => none
  | fuel + 1, depth, members, chars =>
      match skipGap? false chars with
      | none => none
      | some ('\x7d' :: rest) => some (.table (Draft.finishMembers members), rest)
      | some chars =>
          match readAssigned? chars with
          | none => none
          | some (key, rest) =>
              match readValue? fuel depth rest with
              | none => none
              | some (value, rest) =>
                  match Draft.assignKey key value members, skipGap? false rest with
                  | some members, some (',' :: rest) => readMembers? fuel depth members rest
                  | some members, some ('\x7d' :: rest) =>
                      some (.table (Draft.finishMembers members), rest)
                  | _, _ => none

end

/-- A document whose lines have been read up to some place. -/
structure Document where
  /-- The members of the document. -/
  members : Draft.Members := []
  /-- The table that holds the keys of the next lines. -/
  current : List String := []

namespace Document

/-- Opens a table. -/
def openTable (document : Document) (key : Draft.Key) : Option Document :=
  (Draft.change .header (Draft.openTable key.name) key.path document.members).map fun members =>
    ⟨members, key.names⟩

/-- Opens one more table of a list. -/
def openNext (document : Document) (key : Draft.Key) : Option Document :=
  (Draft.change .header (Draft.openNext key.name) key.path document.members).map fun members =>
    ⟨members, key.names⟩

/-- Gives a value to a key of the current table. -/
def assign (document : Document) (key : Draft.Key) (value : Toml) : Option Document :=
  (Draft.change .header (Draft.assignKey key value) document.current document.members).map
    fun members => ⟨members, document.current⟩

/-- A header of one more table of a list, behind its first brackets. -/
def readNext? (document : Document) (chars : List Char) : Option (Document × List Char) := do
  let (key, rest) ← readKey? chars.length [] (skipBlanks chars)
  match rest with
  | ']' :: ']' :: rest => return (← document.openNext key, rest)
  | _ => none

/-- A header of a table, behind its first bracket. -/
def readTable? (document : Document) (chars : List Char) : Option (Document × List Char) := do
  let (key, rest) ← readKey? chars.length [] (skipBlanks chars)
  match rest with
  | ']' :: rest => return (← document.openTable key, rest)
  | _ => none

/-- A line with a key and its value. -/
def readKeyValue? (document : Document) (chars : List Char) : Option (Document × List Char) := do
  let (key, rest) ← readAssigned? chars
  let (value, rest) ← readValue? (2 * rest.length + 2) depthLimit rest
  return (← document.assign key value, rest)

/-- A line that is not empty. -/
def readLine? (document : Document) : List Char → Option (Document × List Char)
  | '[' :: '[' :: rest => document.readNext? rest
  | '[' :: rest => document.readTable? rest
  | chars => document.readKeyValue? chars

/-- The lines of a text from the next one on.  The first argument bounds their
number. -/
def readLines? : Nat → Document → List Char → Option Document
  | 0, _, _ => none
  | fuel + 1, document, chars =>
      match skipGap? false chars with
      | none => none
      | some [] => some document
      | some chars =>
          match document.readLine? chars with
          | none => none
          | some (document, rest) =>
              if endsLine rest then readLines? fuel document rest else none

end Document

/-- The members of the document that a text spells.  Every line has a character, so
the length of the text bounds their number. -/
def parse? (text : String) : Option (List (String × Toml)) :=
  let chars := match text.toList with
    | '\uFEFF' :: chars => chars
    | chars => chars
  (Document.readLines? (chars.length + 1) {} chars).map fun document =>
    Draft.finishMembers document.members

end Dialogue.Toml
