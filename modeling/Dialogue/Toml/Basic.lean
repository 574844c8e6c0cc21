import Dialogue.Json.Record
import Dialogue.Toml.Moment

/-!
# TOML values

A configuration file is a TOML document.  Most values have a counterpart in JSON; a
point in time becomes an object with one member that holds its text.
-/

namespace Dialogue

/-- A TOML value. -/
inductive Toml where
  | string (text : String)
  | integer (value : Int)
  /-- A floating-point number; none stands for infinities and for what is no number. -/
  | float (value : Option Binary64)
  | bool (value : Bool)
  | moment (value : Toml.Moment)
  | array (items : List Toml)
  | table (members : List (String × Toml))

namespace Toml

instance : Inhabited Toml :=
  ⟨.bool false⟩

/-- The member that holds the text of a point in time. -/
def momentMember : String := "$__toml_private_datetime"

/-- The integers that JSON keeps exactly. -/
def jsonInteger? (value : Int) : Option Json :=
  if -(Int.pow 2 63) ≤ value ∧ value < Int.pow 2 64 then some (.number (.int value)) else none

mutual

/-- The JSON value of a TOML value; none if an integer is too large.  Infinities and
what is no number become null. -/
def toJson? : Toml → Option Json
  | .string text => some (.string text)
  | .integer value => jsonInteger? value
  | .float value => some ((value.map Json.ofBinary64).getD .null)
  | .bool value => some (.bool value)
  | .moment value => some (Json.ofMembers [(momentMember, .string value.text)])
  | .array items => (itemsToJson? items).map Json.array
  | .table members => (membersToJson? members).map Json.ofMembers

/-- The JSON values of items. -/
def itemsToJson? : List Toml → Option (List Json)
  | [] => some []
  | item :: items => do
      let first ← toJson? item
      let rest ← itemsToJson? items
      return first :: rest

/-- The JSON values of members. -/
def membersToJson? : List (String × Toml) → Option (List (String × Json))
  | [] => some []
  | (name, value) :: members => do
      let first ← toJson? value
      let rest ← membersToJson? members
      return (name, first) :: rest

end

mutual

/-- The TOML value of a JSON value; none if there is a null. -/
def ofJson? : Json → Option Toml
  | .null => none
  | .bool value => some (.bool value)
  | .number (.int value) => some (.integer value)
  | .number (.float value) => some (.float (some value))
  | .string text => some (.string text)
  | .array items => (itemsOfJson? items).map Toml.array
  | .object members => (membersOfJson? members).map Toml.table

/-- The TOML values of items. -/
def itemsOfJson? : List Json → Option (List Toml)
  | [] => some []
  | item :: items => do
      let first ← ofJson? item
      let rest ← itemsOfJson? items
      return first :: rest

/-- The TOML values of members. -/
def membersOfJson? : List (String × Json) → Option (List (String × Toml))
  | [] => some []
  | (name, value) :: members => do
      let first ← ofJson? value
      let rest ← membersOfJson? members
      return (name, first) :: rest

end

/-- The members of a record that is written as a table, as an array that gives the
first members in the listed order, or as a point in time, which gives none of them. -/
def record? (names : List String) : Toml → Option (Entries Toml)
  | .table members => some members
  | .array items => some (names.zip items)
  | .moment _ => some []
  | _ => none

end Toml

end Dialogue
