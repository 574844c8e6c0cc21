import Dialogue.Domain.Loading
import Dialogue.Proofs.Json.Shape

/-!
# The shape of domains

A value has the shape of a domain if its members are lists and tables of what they should
be; the mappings in it may still be anything.  `DomainOutline.Of` tells which outline a
value of that shape has, and an outline is read exactly from such values.
-/

namespace Dialogue

/-- A value names a kind of slot, on its own or as an object that holds null. -/
inductive SlotType.Named : Json → SlotType → Prop where
  | alone (type : SlotType) : Named (.string type.name) type
  | holding (type : SlotType) : Named (.object [(type.name, .null)]) type

theorem SlotType.ofName?_eq_some_iff {name : String} {type : SlotType} :
    ofName? name = some type ↔ type.name = name := by
  constructor
  · intro found
    simpa using List.find?_some found
  · rintro rfl
    cases type <;> rfl

theorem SlotType.ofJson?_eq_some_iff {value : Json} {type : SlotType} :
    ofJson? value = some type ↔ Named value type := by
  constructor
  · intro read
    unfold ofJson? at read
    split at read
    · obtain rfl := ofName?_eq_some_iff.mp read
      exact .alone type
    · obtain rfl := ofName?_eq_some_iff.mp read
      exact .holding type
    · cases read
  · rintro (_ | _)
    · exact ofName?_eq_some_iff.mpr rfl
    · exact ofName?_eq_some_iff.mpr rfl

/-- A value has the shape of a slot declaration with an outline. -/
inductive SlotOutline.Of : Json → SlotOutline → Prop where
  | members {value : Json} {members : Entries Json} {outline : SlotOutline}
      (has : Json.HasMembers SlotOutline.memberNames value members)
      (type : members.Gives "type" .text SlotType.Named outline.type)
      (initialValue : members.Gives "initial_value" .null Eq outline.initialValue)
      (mappings : members.Gives "mappings" [] (fun value items => value = .array items)
        outline.mappings)
      (influences : members.Gives "influence_conversation" true
        (fun value flag => value = .bool flag) outline.influencesConversation) :
      Of value outline

theorem SlotOutline.ofJson?_eq_some_iff {value : Json} {outline : SlotOutline} :
    ofJson? value = some outline ↔ Of value outline := by
  unfold ofJson?
  simp only [bind, Option.bind_eq_some_iff, pure, Option.some.injEq, Json.record?_eq_some_iff,
    Entries.defaulted_eq_some_iff SlotType.ofJson?_eq_some_iff,
    Entries.defaulted_eq_some_iff Json.array?_eq_some_iff,
    Entries.defaulted_eq_some_iff Json.bool?_eq_some_iff,
    Entries.defaulted_eq_some_iff Option.some_inj]
  constructor
  · rintro ⟨members, has, type, isType, initialValue, isInitial, mappings, areMappings, influences,
      isInfluence, rfl⟩
    exact .members has isType isInitial areMappings isInfluence
  · rintro ⟨has, isType, isInitial, areMappings, isInfluence⟩
    exact ⟨_, has, _, isType, _, isInitial, _, areMappings, _, isInfluence, rfl⟩

/-- A value gives mappings: the items of an array, and any other value on its own. -/
inductive SlotMapping.GivenBy : Json → List Json → Prop where
  | several (items : List Json) : GivenBy (.array items) items
  | single {value : Json} (alone : ∀ items, value ≠ .array items) : GivenBy value [value]

theorem SlotMapping.givenBy_iff {value : Json} {items : List Json} :
    GivenBy value items ↔ Domain.mappingItems value = items := by
  constructor
  · intro given
    cases given with
    | several => rfl
    | single alone =>
        unfold Domain.mappingItems
        split
        · exact absurd rfl (alone _)
        · rfl
  · rintro rfl
    unfold Domain.mappingItems
    split
    · exact .several _
    · rename_i alone
      exact .single alone

/-- A value has the shape of a form declaration with an outline. -/
inductive FormOutline.Of : Json → FormOutline → Prop where
  | members {value : Json} {members : Entries Json} {outline : FormOutline}
      (has : Json.HasMembers FormOutline.memberNames value members)
      (requiredSlots : members.Gives "required_slots" []
        (fun value texts => value = Json.ofStrings texts) outline.requiredSlots)
      (slotMappings : members.Gives "slot_mappings" Table.empty (Json.Tabulates Eq)
        outline.slotMappings) : Of value outline

theorem FormOutline.ofJson?_eq_some_iff {value : Json} {outline : FormOutline} :
    ofJson? value = some outline ↔ Of value outline := by
  unfold ofJson?
  simp only [bind, Option.bind_eq_some_iff, pure, Option.some.injEq, Json.record?_eq_some_iff,
    Entries.defaulted_eq_some_iff Json.strings?_eq_some_iff,
    Entries.defaulted_eq_some_iff (Json.table?_eq_some_iff Option.some_inj)]
  constructor
  · rintro ⟨members, has, requiredSlots, areRequired, slotMappings, areMappings, rfl⟩
    exact .members has areRequired areMappings
  · rintro ⟨has, areRequired, areMappings⟩
    exact ⟨_, has, _, areRequired, _, areMappings, rfl⟩

namespace DomainOutline

/-- A value has the shape of a domain with an outline. -/
inductive Of : Json → DomainOutline → Prop where
  | members {value : Json} {members : Entries Json} {outline : DomainOutline}
      (has : Json.HasMembers memberNames value members)
      (intents : members.Gives "intents" [] (fun value texts => value = Json.ofStrings texts)
        outline.intents)
      (slots : members.Gives "slots" Table.empty (Json.Tabulates SlotOutline.Of) outline.slots)
      (forms : members.Gives "forms" Table.empty (Json.Tabulates FormOutline.Of) outline.forms)
      (actions : members.Gives "actions" [] (fun value texts => value = Json.ofStrings texts)
        outline.actions)
      (responses : members.Gives "responses" Table.empty
        (Json.Tabulates fun value items => value = .array items) outline.responses) :
      Of value outline

theorem ofJson?_eq_some_iff {value : Json} {outline : DomainOutline} :
    ofJson? value = some outline ↔ Of value outline := by
  unfold ofJson?
  simp only [bind, Option.bind_eq_some_iff, pure, Option.some.injEq, Json.record?_eq_some_iff,
    Entries.defaulted_eq_some_iff Json.strings?_eq_some_iff,
    Entries.defaulted_eq_some_iff (Json.table?_eq_some_iff SlotOutline.ofJson?_eq_some_iff),
    Entries.defaulted_eq_some_iff (Json.table?_eq_some_iff FormOutline.ofJson?_eq_some_iff),
    Entries.defaulted_eq_some_iff (Json.table?_eq_some_iff Json.array?_eq_some_iff)]
  constructor
  · rintro ⟨members, has, intents, areIntents, slots, areSlots, forms, areForms, actions,
      areActions, responses, areResponses, rfl⟩
    exact .members has areIntents areSlots areForms areActions areResponses
  · rintro ⟨has, areIntents, areSlots, areForms, areActions, areResponses⟩
    exact ⟨_, has, _, areIntents, _, areSlots, _, areForms, _, areActions, _, areResponses, rfl⟩

end DomainOutline

end Dialogue
