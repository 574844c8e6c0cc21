import Dialogue.Slot.Mapping

/-!
# Domains

The domain declares what an assistant knows: intents, slots, forms, actions and
responses.  It is built by adding declarations, and derived entries stay consistent:
a form is also an action and declares the slot that holds the question asked last,
and a response is also an action.
-/

namespace Dialogue

/-- The slot that holds the name of the slot a form has asked for. -/
def requestedSlot : String := "requested_slot"

/-- The kinds of values that a slot may hold. -/
inductive SlotType where
  | text
  | bool
  | categorical
  | float
  | list
  | any
deriving DecidableEq

namespace SlotType

/-- All kinds. -/
def all : List SlotType :=
  [.text, .bool, .categorical, .float, .list, .any]

/-- The name of a kind. -/
def name : SlotType → String
  | .text => "text"
  | .bool => "bool"
  | .categorical => "categorical"
  | .float => "float"
  | .list => "list"
  | .any => "any"

/-- The kind with a name. -/
def ofName? (name : String) : Option SlotType :=
  all.find? fun kind => kind.name == name

end SlotType

/-- The declaration of a slot. -/
structure SlotSpec where
  /-- The name of the slot. -/
  name : String
  /-- The kind of its values. -/
  type : SlotType
  /-- The value it starts with. -/
  initialValue : Json := .null
  /-- The rules by which messages fill it, in order. -/
  mappings : List SlotMapping := []
  /-- Whether predictions depend on it. -/
  influencesConversation : Bool := true

/-- The declaration of a form. -/
structure FormSpec where
  /-- The name of the form. -/
  name : String
  /-- The slots that it fills, in the order of asking. -/
  requiredSlots : List String
  /-- Rules that take precedence over those of the slots. -/
  slotMappings : Table (List SlotMapping) := Table.empty

/-- The same form with rules for a slot. -/
def FormSpec.withSlotMappings (form : FormSpec) (slot : String)
    (mappings : List SlotMapping) : FormSpec :=
  { form with slotMappings := form.slotMappings.insert slot mappings }

/-- The custom action that validates what a form has extracted. -/
def validationAction (form : String) : String :=
  "action_validate_" ++ form

/-- What an assistant knows. -/
structure Domain where
  /-- The intents. -/
  intents : NameSet := Table.empty
  /-- The slots in the order of their declaration. -/
  slots : List SlotSpec := []
  /-- The forms by name. -/
  forms : Table FormSpec := Table.empty
  /-- The names of all actions. -/
  actions : NameSet := Table.empty
  /-- The variations of every response. -/
  responses : Table (List Json) := Table.empty

namespace Domain

/-- The domain without declarations. -/
def empty : Domain := {}

/-- The declaration of a slot. -/
def slot? (domain : Domain) (name : String) : Option SlotSpec :=
  domain.slots.find? fun slot => slot.name == name

/-- The declaration of a form. -/
def form? (domain : Domain) (name : String) : Option FormSpec :=
  domain.forms.find? name

/-- Whether an action is declared. -/
def hasAction (domain : Domain) (name : String) : Bool :=
  domain.actions.contains name

/-- Declares intents. -/
def withIntents (domain : Domain) (intents : List String) : Domain :=
  { domain with intents := domain.intents.addAll intents }

/-- Declares actions. -/
def withActions (domain : Domain) (actions : List String) : Domain :=
  { domain with actions := domain.actions.addAll actions }

/-- Puts a slot in the place of the one with its name, or at the end. -/
def placeSlot (slot : SlotSpec) : List SlotSpec → List SlotSpec
  | [] => [slot]
  | declared :: rest =>
      if declared.name = slot.name then slot :: rest else declared :: placeSlot slot rest

/-- Declares a slot; a second declaration replaces the first in its place. -/
def withSlot (domain : Domain) (slot : SlotSpec) : Domain :=
  { domain with slots := placeSlot slot domain.slots }

/-- The slot for the question asked last, which no prediction depends on. -/
def requestedSlotSpec : SlotSpec where
  name := requestedSlot
  type := .any
  influencesConversation := false

/-- Declares a form, its action, and the slot for the question asked last. -/
def withForm (domain : Domain) (form : FormSpec) : Domain :=
  { domain with
    slots :=
      if (domain.slot? requestedSlot).isNone then domain.slots ++ [requestedSlotSpec]
      else domain.slots
    actions := domain.actions.add form.name
    forms := domain.forms.insert form.name form }

/-- Declares a response and its action. -/
def withResponse (domain : Domain) (name : String) (variations : List Json) : Domain :=
  { domain with
    actions := domain.actions.add name
    responses := domain.responses.insert name variations }

/-- The initial values of the declared slots. -/
def slotSchema (domain : Domain) : SlotSchema :=
  Table.ofList (domain.slots.map fun slot => (slot.name, slot.initialValue))

end Domain

/-- Writes the declaration of a slot. -/
def SlotSpec.toJson (slot : SlotSpec) : Json :=
  Json.ofMembers [
    ("name", .string slot.name),
    ("type", .string slot.type.name),
    ("initial_value", slot.initialValue),
    ("mappings", .array (slot.mappings.map SlotMapping.toJson)),
    ("influence_conversation", .bool slot.influencesConversation)]

/-- Writes the declaration of a form. -/
def FormSpec.toJson (form : FormSpec) : Json :=
  Json.ofMembers [
    ("name", .string form.name),
    ("required_slots", Json.ofStrings form.requiredSlots),
    ("slot_mappings", Json.ofTable (form.slotMappings.map fun _ mappings =>
      .array (mappings.map SlotMapping.toJson)))]

/-- Writes a domain. -/
def Domain.toJson (domain : Domain) : Json :=
  Json.ofMembers [
    ("intents", Json.ofStrings domain.intents.keys),
    ("slots", .array (domain.slots.map SlotSpec.toJson)),
    ("forms", Json.ofTable (domain.forms.map fun _ form => form.toJson)),
    ("action_names", Json.ofStrings domain.actions.keys),
    ("responses", Json.ofTable (domain.responses.map fun _ variations => .array variations))]

end Dialogue
