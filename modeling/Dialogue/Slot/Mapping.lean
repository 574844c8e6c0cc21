import Dialogue.Slot.IntentFilter
import Dialogue.Json.Printer
import Dialogue.Tracker.Basic

/-!
# Slot mappings

A mapping says where the value of a slot comes from and to which messages it
applies.  `SlotMapping.ofJson` reads a mapping leniently in its lists and strictly
in its type; `SlotMapping.toJson` writes it back.
-/

namespace Dialogue

/-- Where the value of a slot comes from. -/
inductive SlotSource where
  /-- An entity of a kind, with exactly this role and group. -/
  | entity (entity : String) (role group : Option String)
  /-- A fixed value, for the intent of the message. -/
  | intent (value : Json)
  /-- A fixed value, while a form is being activated. -/
  | triggerIntent (value : Json)
  /-- The text of the message. -/
  | text

/-- The four types of mappings. -/
inductive MappingKind where
  | entity
  | intent
  | triggerIntent
  | text
deriving DecidableEq

namespace MappingKind

/-- All types. -/
def all : List MappingKind :=
  [.entity, .intent, .triggerIntent, .text]

/-- The name of a type. -/
def name : MappingKind → String
  | .entity => "from_entity"
  | .intent => "from_intent"
  | .triggerIntent => "from_trigger_intent"
  | .text => "from_text"

/-- The type with a name. -/
def ofName? (name : String) : Option MappingKind :=
  all.find? fun kind => kind.name == name

end MappingKind

/-- A rule for filling a slot from a message. -/
structure SlotMapping where
  /-- Where the value comes from. -/
  source : SlotSource
  /-- The messages to which the rule applies. -/
  intents : IntentFilter := .any

namespace SlotMapping

/-- The value of an entity. -/
def fromEntity (entity : String) : SlotMapping where
  source := .entity entity none none

/-- A fixed value for an intent. -/
def fromIntent (value : Json) : SlotMapping where
  source := .intent value

/-- A fixed value while a form is being activated. -/
def fromTriggerIntent (value : Json) : SlotMapping where
  source := .triggerIntent value

/-- The text of the message. -/
def fromText : SlotMapping where
  source := .text

/-- The same rule for other messages. -/
def withIntents (mapping : SlotMapping) (intents : IntentFilter) : SlotMapping :=
  { mapping with intents := intents }

/-- Asks for a role; only entities have one. -/
def withRole (mapping : SlotMapping) (role : String) : SlotMapping :=
  match mapping.source with
  | .entity entity _ group => { mapping with source := .entity entity (some role) group }
  | _ => mapping

/-- Asks for a group; only entities have one. -/
def withGroup (mapping : SlotMapping) (group : String) : SlotMapping :=
  match mapping.source with
  | .entity entity role _ => { mapping with source := .entity entity role (some group) }
  | _ => mapping

/-- The type of a mapping. -/
def kind (mapping : SlotMapping) : MappingKind :=
  match mapping.source with
  | .entity .. => .entity
  | .intent _ => .intent
  | .triggerIntent _ => .triggerIntent
  | .text => .text

/-- Whether the latest message of a tracker is one to which the mapping applies. -/
def applies (mapping : SlotMapping) (tracker : Tracker) : Bool :=
  mapping.intents.accepts tracker.latestIntentName

/-- Equality of mappings. -/
def same (left right : SlotMapping) : Bool :=
  left.intents == right.intents
    && match left.source, right.source with
      | .entity leftEntity leftRole leftGroup, .entity rightEntity rightRole rightGroup =>
          leftEntity == rightEntity && leftRole == rightRole && leftGroup == rightGroup
      | .intent left, .intent right => left == right
      | .triggerIntent left, .triggerIntent right => left == right
      | .text, .text => true
      | _, _ => false

/-- The strings of a list member: a string stands for itself alone, and items that
are no strings are skipped. -/
def stringList : Option Json → List String
  | some (.string text) => [text]
  | some (.array items) => items.filterMap Json.string?
  | _ => []

/-- A member that counts only if it is a string. -/
def stringMember (members : Entries Json) (name : String) : Option String :=
  (members.find? name).bind Json.string?

/-- Reads the source of a mapping with a type. -/
def readSource (members : Entries Json) : MappingKind → Except MappingError SlotSource
  | .entity =>
      match stringMember members "entity" with
      | some entity =>
          .ok (.entity entity (stringMember members "role") (stringMember members "group"))
      | none => .error (.missingField MappingKind.entity.name "entity")
  | .intent => .ok (.intent ((members.find? "value").getD .null))
  | .triggerIntent => .ok (.triggerIntent ((members.find? "value").getD .null))
  | .text => .ok .text

/-- Reads a mapping. -/
def ofJson (value : Json) : Except MappingError SlotMapping :=
  match value with
  | .object members =>
      match stringMember members "type" with
      | none => .error .missingType
      | some name =>
          match MappingKind.ofName? name with
          | none => .error (.unsupportedType name)
          | some kind => do
              let intents ← IntentFilter.ofLists
                (stringList (Entries.find? "intent" members))
                (stringList (Entries.find? "not_intent" members))
              let source ← readSource members kind
              return ⟨source, intents⟩
  | value => .error (.notAMapping value.compact)

/-- The members of a source. -/
def sourceMembers : SlotSource → List (String × Json)
  | .entity entity role group =>
      Json.present [
        ("entity", some (.string entity)),
        ("role", role.map .string),
        ("group", group.map .string)]
  | .intent value => [("value", value)]
  | .triggerIntent value => [("value", value)]
  | .text => []

/-- Writes a mapping. -/
def toJson (mapping : SlotMapping) : Json :=
  Json.ofMembers (
    ("type", .string mapping.kind.name)
      :: mapping.intents.members
      ++ sourceMembers mapping.source)

end SlotMapping

end Dialogue
