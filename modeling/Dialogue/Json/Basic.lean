import Dialogue.Table
import Dialogue.Number.Binary64

/-!
# JSON values

Slots, entities, templates and event metadata carry arbitrary JSON.  A number is
either an integer or a floating-point number, and the two kinds are never equal.
Objects list their members in the order of their names; `Json.ofMembers` builds
such a list.
-/

namespace Dialogue

/-- A JSON number: integers keep their exact value. -/
inductive Number where
  /-- A number written without fraction and exponent. -/
  | int (value : Int)
  /-- Any other number. -/
  | float (value : Binary64)
deriving DecidableEq

namespace Number

/-- Equality of numbers of one kind; the two floating-point zeros are equal. -/
def same : Number → Number → Bool
  | .int left, .int right => left == right
  | .float left, .float right => left.same right
  | _, _ => false

end Number

/-- A JSON value. -/
inductive Json where
  | null
  | bool (value : Bool)
  | number (value : Number)
  | string (text : String)
  | array (items : List Json)
  | object (members : List (String × Json))

namespace Json

instance : Inhabited Json :=
  ⟨.null⟩

mutual

/-- Equality of values, member by member. -/
def same : Json → Json → Bool
  | .null, .null => true
  | .bool left, .bool right => left == right
  | .number left, .number right => left.same right
  | .string left, .string right => left == right
  | .array left, .array right => sameItems left right
  | .object left, .object right => sameMembers left right
  | _, _ => false

/-- Equality of lists of values. -/
def sameItems : List Json → List Json → Bool
  | [], [] => true
  | left :: lefts, right :: rights => same left right && sameItems lefts rights
  | _, _ => false

/-- Equality of lists of members. -/
def sameMembers : List (String × Json) → List (String × Json) → Bool
  | [], [] => true
  | (leftName, left) :: lefts, (rightName, right) :: rights =>
      leftName == rightName && same left right && sameMembers lefts rights
  | _, _ => false

end

instance : BEq Json :=
  ⟨same⟩

/-- An object with the given members, listed by name. -/
def ofMembers (members : List (String × Json)) : Json :=
  .object (Entries.ofList members)

/-- An object with the members of a table. -/
def ofTable (table : Table Json) : Json :=
  .object table.entries

/-- An array of strings. -/
def ofStrings (texts : List String) : Json :=
  .array (texts.map .string)

/-- A natural number as a value. -/
def ofNat (value : Nat) : Json :=
  .number (.int value)

/-- A floating-point number as a value. -/
def ofBinary64 (value : Binary64) : Json :=
  .number (.float value)

/-- A string, or null where there is none. -/
def ofString? : Option String → Json
  | some text => .string text
  | none => .null

/-- Whether a value is null. -/
def isNull : Json → Bool
  | .null => true
  | _ => false

/-- The text of a string. -/
def string? : Json → Option String
  | .string text => some text
  | _ => none

/-- The value of a boolean. -/
def bool? : Json → Option Bool
  | .bool value => some value
  | _ => none

/-- The items of an array. -/
def array? : Json → Option (List Json)
  | .array items => some items
  | _ => none

/-- The members of an object. -/
def object? : Json → Option (List (String × Json))
  | .object members => some members
  | _ => none

/-- The value of an integer that fits an unsigned word of 64 bits. -/
def word? : Json → Option Nat
  | .number (.int value) =>
      if 0 ≤ value ∧ value < Int.pow 2 64 then some value.toNat else none
  | _ => none

/-- The value of a number as a floating-point number; integers are rounded. -/
def binary64? : Json → Option Binary64
  | .number (.int value) => Binary64.ofInt? value
  | .number (.float value) => some value
  | _ => none

/-- The strings of an array that holds nothing else. -/
def strings? : Json → Option (List String)
  | .array items => items.mapM string?
  | _ => none

end Json

end Dialogue
