import Dialogue.Json.Basic

/-!
# Reading records

A record is an object with known members.  Unknown members are ignored, an optional
member may be missing or null, and a member with a default may be missing but not
null.  Some records may also be written as an array of their members in order.
-/

namespace Dialogue

namespace Json

/-- The members of a record that is written as an object, or as an array that gives
the first members in the listed order. -/
def record? (names : List String) : Json → Option (Entries Json)
  | .object members => some members
  | .array items => if items.length ≤ names.length then some (names.zip items) else none
  | _ => none

end Json

namespace Entries

variable {α : Type}

/-- A member that has to be there. -/
def required (members : Entries Json) (name : String) (read : Json → Option α) : Option α :=
  (members.find? name).bind read

/-- A member that may be missing or null. -/
def optional (members : Entries Json) (name : String) (read : Json → Option α) :
    Option (Option α) :=
  match members.find? name with
  | none => some none
  | some .null => some none
  | some value => (read value).map some

/-- A member that may be missing. -/
def defaulted (members : Entries Json) (name : String) (standard : α)
    (read : Json → Option α) : Option α :=
  match members.find? name with
  | none => some standard
  | some value => read value

/-- The members under other names. -/
def without (members : Entries Json) (names : List String) : Entries Json :=
  members.filter fun member => !names.contains member.1

end Entries

namespace Json

/-- Reads every item of an array. -/
def list? {α : Type} (read : Json → Option α) : Json → Option (List α)
  | .array items => items.mapM read
  | _ => none

/-- Reads every member of an object. -/
def table? {α : Type} (read : Json → Option α) : Json → Option (Table α)
  | .object members =>
      (members.mapM fun member => (read member.2).map (Prod.mk member.1)).map Table.ofList
  | _ => none

/-- Members listed with those that are there. -/
def present (members : List (String × Option Json)) : List (String × Json) :=
  members.filterMap fun member => member.2.map (Prod.mk member.1)

end Json

end Dialogue
