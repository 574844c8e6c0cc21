import Dialogue.Json.Printer
import Dialogue.Toml.Parser

/-!
# Writing TOML documents

The members of a document that are tables follow the others, each with its members
on lines below its header.  Tables within them stand between braces.
-/

namespace Dialogue.Toml

/-- A character between double quotes. -/
def quoteChar (char : Char) : List Char :=
  if char = '"' then ['\\', '"']
  else if char = '\\' then ['\\', '\\']
  else if char = '\n' then ['\\', 'n']
  else if char.toNat < 0x20 ∨ char.toNat = 0x7F then
    ['\\', 'u', '0', '0', hexDigit (char.toNat / 16), hexDigit (char.toNat % 16)]
  else [char]

/-- A text between double quotes. -/
def quoted (text : String) : List Char :=
  '"' :: text.toList.flatMap quoteChar ++ ['"']

/-- A name in a key, between quotes where it needs them. -/
def keyChars (name : String) : List Char :=
  let chars := name.toList
  if !chars.isEmpty && chars.all isBareChar then chars else quoted name

/-- The text of a floating-point number. -/
def floatChars : Option Binary64 → List Char
  | some value => (Number.float value).text
  | none => ['n', 'a', 'n']

/-- Texts with commas between them. -/
def commaSeparated : List (List Char) → List Char
  | [] => []
  | [last] => last
  | first :: rest => first ++ ',' :: ' ' :: commaSeparated rest

mutual

/-- The text of a value. -/
def chars : Toml → List Char
  | .string text => quoted text
  | .integer value => (Number.int value).text
  | .float value => floatChars value
  | .bool value => if value then ['t', 'r', 'u', 'e'] else ['f', 'a', 'l', 's', 'e']
  | .moment value => value.text.toList
  | .array items => '[' :: commaSeparated (itemChars items) ++ [']']
  | .table members => '\x7b' :: commaSeparated (memberChars members) ++ ['\x7d']

/-- The texts of items. -/
def itemChars : List Toml → List (List Char)
  | [] => []
  | item :: items => chars item :: itemChars items

/-- The texts of members. -/
def memberChars : List (String × Toml) → List (List Char)
  | [] => []
  | (name, value) :: members =>
      (keyChars name ++ ' ' :: '=' :: ' ' :: chars value) :: memberChars members

end

/-- The members of a table. -/
def table? : Toml → Option (List (String × Toml))
  | .table members => some members
  | _ => none

/-- Lines with one member each. -/
def memberLines (members : List (String × Toml)) : List Char :=
  (memberChars members).flatMap (· ++ ['\n'])

/-- The header of a table and the lines of its members. -/
def sectionLines (name : String) (members : List (String × Toml)) : List Char :=
  '\n' :: '[' :: keyChars name ++ ']' :: '\n' :: memberLines members

/-- The text of a document. -/
def document (members : List (String × Toml)) : String :=
  let plain := members.filter fun member => member.2.table?.isNone
  let sections := members.flatMap fun (name, value) =>
    match value.table? with
    | some inner => sectionLines name inner
    | none => []
  String.ofList (memberLines plain ++ sections)

end Dialogue.Toml
