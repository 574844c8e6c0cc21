import Dialogue.Config.Error
import Dialogue.Domain.Basic
import Dialogue.Json.Record

/-!
# Loading domains

A domain is read from JSON in two steps: first its shape, then the slot mappings in
it, so that an error in a mapping names its slot.  Slots come in the order of their
names, then forms in the order of theirs, each with its slots in order.
-/

namespace Dialogue

/-- Reads the kind of a slot: its name, or an object with that name over null. -/
def SlotType.ofJson? : Json → Option SlotType
  | .string name => ofName? name
  | .object [(name, .null)] => ofName? name
  | _ => none

/-- The declaration of a slot before its mappings are read. -/
structure SlotOutline where
  /-- The kind of its values. -/
  type : SlotType
  /-- The value it starts with. -/
  initialValue : Json
  /-- Its mappings. -/
  mappings : List Json
  /-- Whether predictions depend on it. -/
  influencesConversation : Bool

namespace SlotOutline

/-- The members of a slot declaration in order. -/
def memberNames : List String :=
  ["type", "initial_value", "mappings", "influence_conversation"]

/-- Reads the outline of a slot. -/
def ofJson? (value : Json) : Option SlotOutline := do
  let members ← value.record? memberNames
  let type ← members.defaulted "type" .text SlotType.ofJson?
  let initialValue ← members.defaulted "initial_value" .null some
  let mappings ← members.defaulted "mappings" [] Json.array?
  let influences ← members.defaulted "influence_conversation" true Json.bool?
  return ⟨type, initialValue, mappings, influences⟩

end SlotOutline

/-- The declaration of a form before its mappings are read. -/
structure FormOutline where
  /-- The slots that it fills. -/
  requiredSlots : List String
  /-- Its mappings by slot. -/
  slotMappings : Table Json

namespace FormOutline

/-- The members of a form declaration in order. -/
def memberNames : List String :=
  ["required_slots", "slot_mappings"]

/-- Reads the outline of a form. -/
def ofJson? (value : Json) : Option FormOutline := do
  let members ← value.record? memberNames
  let requiredSlots ← members.defaulted "required_slots" [] Json.strings?
  let slotMappings ← members.defaulted "slot_mappings" Table.empty (Json.table? some)
  return ⟨requiredSlots, slotMappings⟩

end FormOutline

/-- A domain before its mappings are read. -/
structure DomainOutline where
  /-- The intents. -/
  intents : List String
  /-- The slots by name. -/
  slots : Table SlotOutline
  /-- The forms by name. -/
  forms : Table FormOutline
  /-- The actions. -/
  actions : List String
  /-- The responses by name. -/
  responses : Table (List Json)

namespace DomainOutline

/-- The members of a domain in order. -/
def memberNames : List String :=
  ["intents", "slots", "forms", "actions", "responses"]

/-- Reads the outline of a domain. -/
def ofJson? (value : Json) : Option DomainOutline := do
  let members ← value.record? memberNames
  let intents ← members.defaulted "intents" [] Json.strings?
  let slots ← members.defaulted "slots" Table.empty (Json.table? SlotOutline.ofJson?)
  let forms ← members.defaulted "forms" Table.empty (Json.table? FormOutline.ofJson?)
  let actions ← members.defaulted "actions" [] Json.strings?
  let responses ← members.defaulted "responses" Table.empty (Json.table? Json.array?)
  return ⟨intents, slots, forms, actions, responses⟩

end DomainOutline

namespace Domain

/-- Reads the mappings of a slot up to the first error. -/
def readMappings (slot : String) (mappings : List Json) :
    Except ConfigError (List SlotMapping) :=
  mappings.mapM fun mapping => (SlotMapping.ofJson mapping).mapError (.slotMapping slot)

/-- Declares a slot from its outline. -/
def loadSlot (domain : Domain) (name : String) (outline : SlotOutline) :
    Except ConfigError Domain := do
  let mappings ← readMappings name outline.mappings
  return domain.withSlot {
    name := name
    type := outline.type
    initialValue := outline.initialValue
    mappings := mappings
    influencesConversation := outline.influencesConversation }

/-- The mappings of a form for one slot: an array of them, or a single one. -/
def mappingItems : Json → List Json
  | .array items => items
  | single => [single]

/-- Reads the mappings of a form. -/
def readSlotMappings (slotMappings : Table Json) :
    Except ConfigError (List (String × List SlotMapping)) :=
  slotMappings.entries.mapM fun (slot, value) => do
    let mappings ← readMappings slot (mappingItems value)
    return (slot, mappings)

/-- Declares a form from its outline. -/
def loadForm (domain : Domain) (name : String) (outline : FormOutline) :
    Except ConfigError Domain := do
  let slotMappings ← readSlotMappings outline.slotMappings
  return domain.withForm {
    name := name
    requiredSlots := outline.requiredSlots
    slotMappings := Table.ofList slotMappings }

/-- Declares everything in an outline. -/
def ofOutline (outline : DomainOutline) : Except ConfigError Domain := do
  let domain := (empty.withIntents outline.intents).withActions outline.actions
  let domain ← outline.slots.entries.foldlM
    (fun domain (name, slot) => domain.loadSlot name slot) domain
  let domain ← outline.forms.entries.foldlM
    (fun domain (name, form) => domain.loadForm name form) domain
  return outline.responses.entries.foldl
    (fun domain (name, variations) => domain.withResponse name variations) domain

/-- Reads a domain. -/
def ofJson (value : Json) : Except ConfigError Domain :=
  match DomainOutline.ofJson? value with
  | some outline => ofOutline outline
  | none => .error (.load "invalid domain")

end Domain

end Dialogue
