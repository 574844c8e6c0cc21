import Dialogue.Domain.Basic

/-!
# Slot resolution

A slot gets its value from the first of its mappings that applies to the latest
message and yields a value.  The mappings of a form come before those of the slot,
and a slot without mappings takes the entity of its own name.
-/

namespace Dialogue

/-- Several values as one: none, the value itself, or the array of all. -/
def combineValues : List Json → Option Json
  | [] => none
  | [value] => some value
  | values => some (.array values)

/-- The values of an entity in the latest message as one value. -/
def Tracker.entityValue (tracker : Tracker) (entity : String) (role group : Option String) :
    Option Json :=
  combineValues (tracker.entityValues entity role group)

/-- Where mappings are looked up. -/
structure SlotResolver where
  /-- The declarations. -/
  domain : Domain
  /-- The form whose mappings come first. -/
  form : Option FormSpec := none

namespace SlotResolver

/-- The mappings of the form for a slot, unless there are none. -/
def formMappings? (resolver : SlotResolver) (slot : String) : Option (List SlotMapping) :=
  (resolver.form.bind fun form => form.slotMappings.find? slot).filter fun mappings =>
    !mappings.isEmpty

/-- The mappings that the slot declares, unless there are none. -/
def slotMappings? (resolver : SlotResolver) (slot : String) : Option (List SlotMapping) :=
  ((resolver.domain.slot? slot).map SlotSpec.mappings).filter fun mappings => !mappings.isEmpty

/-- The mappings of a slot in order. -/
def mappingsFor (resolver : SlotResolver) (slot : String) : List SlotMapping :=
  match resolver.formMappings? slot with
  | some mappings => mappings
  | none =>
      match resolver.slotMappings? slot with
      | some mappings => mappings
      | none => [SlotMapping.fromEntity slot]

/-- The value that a source yields for the slot that was asked for. -/
def requestedValue (tracker : Tracker) : SlotSource → Option Json
  | .entity entity role group => tracker.entityValue entity role group
  | .intent value => some value
  | .triggerIntent _ => none
  | .text => (tracker.latestMessage.bind UserMessage.text).map .string

/-- The value that a source yields for a slot that was not asked for. -/
def otherValue (tracker : Tracker) (activating : Bool) : SlotSource → Option Json
  | .entity entity role group => tracker.entityValue entity role group
  | .triggerIntent value => if activating then some value else none
  | .intent _ => none
  | .text => none

/-- The value of a mapping, if it applies and yields one that is not null. -/
def mappingValue (tracker : Tracker) (yield : SlotSource → Option Json)
    (mapping : SlotMapping) : Option Json :=
  if mapping.applies tracker then (yield mapping.source).filter fun value => !value.isNull
  else none

/-- The value of the slot that was asked for. -/
def resolveSlot (resolver : SlotResolver) (slot : String) (tracker : Tracker) : Option Json :=
  (resolver.mappingsFor slot).findSome? (mappingValue tracker (requestedValue tracker))

/-- The value of a slot that was filled without being asked for.  Trigger intents
count while the form is being activated. -/
def resolveOtherSlot (resolver : SlotResolver) (slot : String) (tracker : Tracker)
    (activating : Bool) : Option Json :=
  (resolver.mappingsFor slot).findSome? (mappingValue tracker (otherValue tracker activating))

end SlotResolver

end Dialogue
