import Dialogue.Proofs.Domain.Built
import Dialogue.Slot.Resolver

/-!
# What a slot resolves to

A slot takes its value from the first of its mappings whose filter accepts the latest
message and that yields a value other than null.  `SlotResolver.Governs` says which
mappings a slot has, `SlotSource.Offers` what a mapping yields, and a slot that was asked
for differs from the others in that alone.
-/

namespace Dialogue

/-- Why a slot is resolved: it was asked for, or it is filled along with others, possibly
while a form is being activated. -/
inductive SlotDemand where
  | requested
  | other (activating : Bool)

/-- The entity has a kind, and exactly this role and group. -/
def Entity.Matches (candidate : Entity) (entity : String) (role group : Option String) : Prop :=
  candidate.entity = entity ∧ candidate.role = role ∧ candidate.group = group

instance (candidate : Entity) (entity : String) (role group : Option String) :
    Decidable (candidate.Matches entity role group) :=
  inferInstanceAs (Decidable (_ ∧ _ ∧ _))

/-- The values of the entities that match, in the order of the message. -/
def UserMessage.entityValues (message : UserMessage) (entity : String)
    (role group : Option String) : List Json :=
  (message.entities.filter fun candidate => candidate.Matches entity role group).map Entity.value

/-- What a source offers in a conversation. -/
inductive SlotSource.Offers (tracker : Tracker) : SlotDemand → SlotSource → Json → Prop where
  | single {demand : SlotDemand} {message : UserMessage} {entity : String}
      {role group : Option String} {value : Json}
      (latest : tracker.latestMessage = some message)
      (found : message.entityValues entity role group = [value]) :
      Offers tracker demand (.entity entity role group) value
  | several {demand : SlotDemand} {message : UserMessage} {entity : String}
      {role group : Option String}
      (latest : tracker.latestMessage = some message)
      (found : 2 ≤ (message.entityValues entity role group).length) :
      Offers tracker demand (.entity entity role group)
        (.array (message.entityValues entity role group))
  | intent (value : Json) : Offers tracker .requested (.intent value) value
  | triggerIntent (value : Json) : Offers tracker (.other true) (.triggerIntent value) value
  | text {message : UserMessage} {text : String} (latest : tracker.latestMessage = some message)
      (said : message.text = some text) : Offers tracker .requested .text (.string text)

/-- A mapping accepts the latest message and offers a value other than null. -/
structure SlotMapping.Yields (tracker : Tracker) (demand : SlotDemand) (mapping : SlotMapping)
    (value : Json) : Prop where
  /-- The intent passes the filter. -/
  accepted : mapping.intents.accepts tracker.latestIntentName = true
  /-- The value comes from the source. -/
  offered : mapping.source.Offers tracker demand value
  /-- Null is no value. -/
  notNull : value.isNull = false

/-- The first mapping that yields a value yields this one. -/
def FirstYields (tracker : Tracker) (demand : SlotDemand) (mappings : List SlotMapping)
    (value : Json) : Prop :=
  ∃ earlier mapping later, mappings = earlier ++ mapping :: later ∧
    mapping.Yields tracker demand value ∧
    ∀ other ∈ earlier, ∀ held, ¬other.Yields tracker demand held

namespace SlotResolver

/-- The form has mappings of its own for a slot. -/
def Overrides (resolver : SlotResolver) (slot : String) (mappings : List SlotMapping) : Prop :=
  mappings ≠ [] ∧
    ∃ form, resolver.form = some form ∧ form.slotMappings.find? slot = some mappings

/-- The slot is declared with mappings. -/
def Declares (resolver : SlotResolver) (slot : String) (mappings : List SlotMapping) : Prop :=
  mappings ≠ [] ∧ ∃ spec, resolver.domain.slot? slot = some spec ∧ spec.mappings = mappings

/-- The mappings of a slot: those of the form, else those of the slot, else the entity of
its name. -/
inductive Governs (resolver : SlotResolver) (slot : String) : List SlotMapping → Prop where
  | form {mappings : List SlotMapping} (overrides : resolver.Overrides slot mappings) :
      Governs resolver slot mappings
  | slot {mappings : List SlotMapping} (unspecific : ∀ others, ¬resolver.Overrides slot others)
      (declares : resolver.Declares slot mappings) : Governs resolver slot mappings
  | implicit (unspecific : ∀ others, ¬resolver.Overrides slot others)
      (undeclared : ∀ others, ¬resolver.Declares slot others) :
      Governs resolver slot [SlotMapping.fromEntity slot]

/-! ## The mappings of a slot -/

variable {resolver : SlotResolver} {slot : String} {mappings : List SlotMapping}

theorem formMappings?_eq_some_iff :
    resolver.formMappings? slot = some mappings ↔ resolver.Overrides slot mappings := by
  unfold formMappings? Overrides
  rw [Option.filter_eq_some_iff, Option.bind_eq_some_iff, and_comm]
  simp

theorem slotMappings?_eq_some_iff :
    resolver.slotMappings? slot = some mappings ↔ resolver.Declares slot mappings := by
  unfold slotMappings? Declares
  rw [Option.filter_eq_some_iff, Option.map_eq_some_iff, and_comm]
  simp

theorem governs_mappingsFor (resolver : SlotResolver) (slot : String) :
    resolver.Governs slot (resolver.mappingsFor slot) := by
  unfold mappingsFor
  cases ofForm : resolver.formMappings? slot with
  | some mappings => exact .form (formMappings?_eq_some_iff.mp ofForm)
  | none =>
      have unspecific : ∀ others, ¬resolver.Overrides slot others := by
        intro others overrides
        rw [formMappings?_eq_some_iff.mpr overrides] at ofForm
        cases ofForm
      cases ofSlot : resolver.slotMappings? slot with
      | some mappings => exact .slot unspecific (slotMappings?_eq_some_iff.mp ofSlot)
      | none =>
          refine .implicit unspecific ?_
          intro others declares
          rw [slotMappings?_eq_some_iff.mpr declares] at ofSlot
          cases ofSlot

end SlotResolver

/-! ## The value of a mapping -/

theorem combineValues_eq_some_iff {values : List Json} {value : Json} :
    combineValues values = some value ↔
      values = [value] ∨ 2 ≤ values.length ∧ value = .array values := by
  match values with
  | [] => simp [combineValues]
  | [held] => simp [combineValues]
  | first :: second :: rest => simp [combineValues, eq_comm]

theorem Tracker.entityValues_of_latest {tracker : Tracker} {message : UserMessage}
    (latest : tracker.latestMessage = some message) (entity : String)
    (role group : Option String) :
    tracker.entityValues entity role group = message.entityValues entity role group := by
  simp only [entityValues, latest, UserMessage.entityValues]
  congr 1
  apply List.filter_congr
  intro candidate _
  rw [Bool.eq_iff_iff, decide_eq_true_iff]
  simp [Entity.Matches, and_assoc]

/-- The value that a source yields. -/
def SlotDemand.yield (tracker : Tracker) : SlotDemand → SlotSource → Option Json
  | .requested => SlotResolver.requestedValue tracker
  | .other activating => SlotResolver.otherValue tracker activating

section

variable {tracker : Tracker} {demand : SlotDemand} {value : Json}

theorem entityValue_eq_some_iff {entity : String} {role group : Option String} :
    tracker.entityValue entity role group = some value ↔
      (SlotSource.entity entity role group).Offers tracker demand value := by
  unfold Tracker.entityValue
  cases latest : tracker.latestMessage with
  | none =>
      constructor
      · simp [Tracker.entityValues, latest, combineValues]
      · rintro (⟨spoken, _⟩ | ⟨spoken, _⟩)
        · cases latest.symm.trans spoken
        · cases latest.symm.trans spoken
  | some message =>
      rw [Tracker.entityValues_of_latest latest, combineValues_eq_some_iff]
      constructor
      · rintro (single | ⟨several, rfl⟩)
        · exact .single latest single
        · exact .several latest several
      · rintro (⟨spoken, single⟩ | ⟨spoken, several⟩)
        · obtain rfl := Option.some.inj (latest.symm.trans spoken)
          exact .inl single
        · obtain rfl := Option.some.inj (latest.symm.trans spoken)
          exact .inr ⟨several, rfl⟩

theorem yield_eq_some_iff {source : SlotSource} :
    demand.yield tracker source = some value ↔ source.Offers tracker demand value := by
  cases source with
  | entity entity role group =>
      cases demand with
      | requested => exact entityValue_eq_some_iff
      | other activating => exact entityValue_eq_some_iff
  | intent held =>
      cases demand with
      | requested =>
          constructor
          · rintro ⟨⟩
            exact .intent _
          · rintro ⟨⟩
            rfl
      | other activating => exact ⟨nofun, nofun⟩
  | triggerIntent held =>
      match demand with
      | .other true =>
          constructor
          · rintro ⟨⟩
            exact .triggerIntent _
          · rintro ⟨⟩
            rfl
      | .other false => exact ⟨nofun, nofun⟩
      | .requested => exact ⟨nofun, nofun⟩
  | text =>
      cases demand with
      | requested =>
          constructor
          · intro said
            obtain ⟨text, spoken, rfl⟩ := Option.map_eq_some_iff.mp said
            obtain ⟨message, latest, said⟩ := Option.bind_eq_some_iff.mp spoken
            exact .text latest said
          · rintro ⟨⟩
            rename_i latest said
            simp [SlotDemand.yield, SlotResolver.requestedValue, latest, said]
      | other activating => exact ⟨nofun, nofun⟩

theorem mappingValue_eq_some_iff {mapping : SlotMapping} :
    SlotResolver.mappingValue tracker (demand.yield tracker) mapping = some value ↔
      mapping.Yields tracker demand value := by
  unfold SlotResolver.mappingValue
  rw [Option.ite_none_right_eq_some, Option.filter_eq_some_iff, yield_eq_some_iff]
  constructor
  · rintro ⟨accepted, offered, notNull⟩
    exact ⟨accepted, offered, by simpa using notNull⟩
  · rintro ⟨accepted, offered, notNull⟩
    exact ⟨accepted, offered, by simpa using notNull⟩

/-- What fills a slot along with others fills it under every demand. -/
theorem SlotSource.Offers.of_other {source : SlotSource}
    (offers : source.Offers tracker (.other false) value) (demand : SlotDemand) :
    source.Offers tracker demand value := by
  cases offers with
  | single latest found => exact .single latest found
  | several latest found => exact .several latest found

theorem SlotMapping.Yields.of_other {mapping : SlotMapping}
    (yields : mapping.Yields tracker (.other false) value) (demand : SlotDemand) :
    mapping.Yields tracker demand value :=
  ⟨yields.accepted, yields.offered.of_other demand, yields.notNull⟩

end

/-! ## The value of a slot -/

namespace SlotResolver

/-- The value of a slot under a demand. -/
def resolve (resolver : SlotResolver) (demand : SlotDemand) (slot : String) (tracker : Tracker) :
    Option Json :=
  (resolver.mappingsFor slot).findSome? (mappingValue tracker (demand.yield tracker))

theorem resolve_requested (resolver : SlotResolver) (slot : String) (tracker : Tracker) :
    resolver.resolve .requested slot tracker = resolver.resolveSlot slot tracker :=
  rfl

theorem resolve_other (resolver : SlotResolver) (slot : String) (tracker : Tracker)
    (activating : Bool) :
    resolver.resolve (.other activating) slot tracker =
      resolver.resolveOtherSlot slot tracker activating :=
  rfl

variable {resolver : SlotResolver} {demand : SlotDemand} {slot : String} {tracker : Tracker}
  {value : Json}

theorem resolve_eq_some_iff :
    resolver.resolve demand slot tracker = some value ↔
      FirstYields tracker demand (resolver.mappingsFor slot) value := by
  unfold resolve FirstYields
  rw [List.findSome?_eq_some_iff]
  simp only [mappingValue_eq_some_iff, Option.eq_none_iff_forall_ne_some, ne_eq]

theorem isNull_of_resolve (found : resolver.resolve demand slot tracker = some value) :
    value.isNull = false := by
  obtain ⟨_, _, _, _, yields, _⟩ := resolve_eq_some_iff.mp found
  exact yields.notNull

theorem resolve_isSome_iff :
    (resolver.resolve demand slot tracker).isSome = true ↔
      ∃ mapping ∈ resolver.mappingsFor slot, ∃ value, mapping.Yields tracker demand value := by
  unfold resolve
  rw [List.findSome?_isSome_iff]
  simp only [Option.isSome_iff_exists, mappingValue_eq_some_iff]

/-- A slot that is filled along with others is filled under every demand. -/
theorem resolve_isSome_of_other
    (filled : (resolver.resolve (.other false) slot tracker).isSome = true)
    (demand : SlotDemand) : (resolver.resolve demand slot tracker).isSome = true := by
  obtain ⟨mapping, member, value, yields⟩ := resolve_isSome_iff.mp filled
  exact resolve_isSome_iff.mpr ⟨mapping, member, value, yields.of_other demand⟩

/-- The value of a slot depends on the latest message alone. -/
theorem resolve_congr {left right : Tracker} (same : left.latestMessage = right.latestMessage)
    (resolver : SlotResolver) (demand : SlotDemand) (slot : String) :
    resolver.resolve demand slot left = resolver.resolve demand slot right := by
  have intent : left.latestIntentName = right.latestIntentName := by
    unfold Tracker.latestIntentName
    rw [same]
  have values : demand.yield left = demand.yield right := by
    funext source
    cases demand <;> cases source <;>
      simp only [SlotDemand.yield, requestedValue, otherValue, Tracker.entityValue,
        Tracker.entityValues, same]
  unfold resolve
  congr 1
  funext mapping
  unfold mappingValue SlotMapping.applies
  rw [values, intent]

theorem resolveSlot_congr {left right : Tracker} (same : left.latestMessage = right.latestMessage)
    (resolver : SlotResolver) (slot : String) :
    resolver.resolveSlot slot left = resolver.resolveSlot slot right :=
  resolve_congr same resolver .requested slot

theorem resolveOtherSlot_congr {left right : Tracker}
    (same : left.latestMessage = right.latestMessage) (resolver : SlotResolver) (slot : String)
    (activating : Bool) :
    resolver.resolveOtherSlot slot left activating =
      resolver.resolveOtherSlot slot right activating :=
  resolve_congr same resolver (.other activating) slot

/-- A slot without mappings has those that it would have if it declared the entity of its
name. -/
theorem mappingsFor_withSlot {spec : SlotSpec} (named : spec.name = slot)
    (explicit : spec.mappings = [SlotMapping.fromEntity slot])
    (unmapped : ∀ others, ¬resolver.Declares slot others) :
    SlotResolver.mappingsFor ⟨resolver.domain.withSlot spec, resolver.form⟩ slot =
      resolver.mappingsFor slot := by
  have declared : SlotResolver.slotMappings? ⟨resolver.domain.withSlot spec, resolver.form⟩ slot =
      some [SlotMapping.fromEntity slot] := by
    rw [slotMappings?_eq_some_iff]
    refine ⟨List.cons_ne_nil _ _, spec, ?_, explicit⟩
    rw [Domain.slot?_withSlot, if_pos named]
  have undeclared : resolver.slotMappings? slot = none := by
    rw [Option.eq_none_iff_forall_ne_some]
    intro others found
    exact unmapped others (slotMappings?_eq_some_iff.mp found)
  have sameForm : SlotResolver.formMappings? ⟨resolver.domain.withSlot spec, resolver.form⟩ slot =
      resolver.formMappings? slot := rfl
  simp only [mappingsFor, declared, undeclared, sameForm]

/-- A slot resolves to what the first of its mappings yields, which is never null; the
mappings are those of the form, else those of the slot, else the entity of its name.  What
fills it along with others also fills it while a form is being activated and when it was
asked for.  A slot without mappings resolves as if it declared the entity of its name, and
nothing but the latest message decides. -/
theorem resolution_exact (resolver : SlotResolver) (slot : String) (tracker : Tracker) :
    resolver.Governs slot (resolver.mappingsFor slot) ∧
    (∀ value, resolver.resolveSlot slot tracker = some value ↔
      FirstYields tracker .requested (resolver.mappingsFor slot) value) ∧
    (∀ activating value, resolver.resolveOtherSlot slot tracker activating = some value ↔
      FirstYields tracker (.other activating) (resolver.mappingsFor slot) value) ∧
    resolver.resolveSlot slot tracker ≠ some .null ∧
    (∀ activating, resolver.resolveOtherSlot slot tracker activating ≠ some .null) ∧
    ((resolver.resolveOtherSlot slot tracker false).isSome = true →
      (resolver.resolveOtherSlot slot tracker true).isSome = true ∧
        (resolver.resolveSlot slot tracker).isSome = true) ∧
    (∀ spec : SlotSpec, spec.name = slot → spec.mappings = [SlotMapping.fromEntity slot] →
      (∀ others, ¬resolver.Declares slot others) →
      let explicit : SlotResolver := ⟨resolver.domain.withSlot spec, resolver.form⟩
      resolver.resolveSlot slot tracker = explicit.resolveSlot slot tracker ∧
        ∀ activating, resolver.resolveOtherSlot slot tracker activating =
          explicit.resolveOtherSlot slot tracker activating) ∧
    (∀ other : Tracker, tracker.latestMessage = other.latestMessage →
      resolver.resolveSlot slot tracker = resolver.resolveSlot slot other ∧
        ∀ activating, resolver.resolveOtherSlot slot tracker activating =
          resolver.resolveOtherSlot slot other activating) := by
  simp only [← resolve_requested, ← resolve_other]
  refine ⟨resolver.governs_mappingsFor slot, fun value => resolve_eq_some_iff,
    fun activating value => resolve_eq_some_iff, ?_, ?_, ?_, ?_, ?_⟩
  · intro found
    cases isNull_of_resolve found
  · intro activating found
    cases isNull_of_resolve found
  · intro filled
    exact ⟨resolve_isSome_of_other filled (.other true), resolve_isSome_of_other filled .requested⟩
  · intro spec named single unmapped
    have mappings := mappingsFor_withSlot named single unmapped
    unfold resolve
    rw [mappings]
    exact ⟨rfl, fun activating => rfl⟩
  · intro other same
    exact ⟨resolve_congr same resolver .requested slot,
      fun activating => resolve_congr same resolver (.other activating) slot⟩

/-- The user names two cities, and the slot for the city has no mappings. -/
theorem resolution_exact_of_two_cities :
    let domain := Domain.empty.withSlot { name := "city", type := .text }
    let message := ((UserMessage.ofText "Paris or Rome").withEntity
      { entity := "city", value := .string "Paris" }).withEntity
      { entity := "city", value := .string "Rome" }
    let tracker := Tracker.ofEvents "user" domain.slotSchema [.listen, .user message]
    let later := Tracker.ofEvents "user" domain.slotSchema [
      .user message, .slotSet "city" (.string "Oslo"), .formActivated "trip"]
    let explicit := domain.withSlot
      { name := "city", type := .text, mappings := [.fromEntity "city"] }
    let resolver : SlotResolver := { domain := domain }
    resolver.resolveOtherSlot "city" tracker false =
        some (.array [.string "Paris", .string "Rome"]) ∧
      (resolver.resolveOtherSlot "city" tracker true).isSome = true ∧
      (resolver.resolveSlot "city" tracker).isSome = true ∧
      resolver.resolveSlot "city" tracker =
        SlotResolver.resolveSlot { domain := explicit } "city" tracker ∧
      resolver.resolveSlot "city" tracker = resolver.resolveSlot "city" later := by
  intro domain message tracker later explicit resolver
  have found : resolver.resolveOtherSlot "city" tracker false =
      some (.array [.string "Paris", .string "Rome"]) := rfl
  have unmapped : ∀ others, ¬resolver.Declares "city" others := by
    rintro others ⟨mapped, spec, declared, rfl⟩
    obtain rfl : { name := "city", type := .text } = spec := Option.some.inj declared
    exact mapped rfl
  obtain ⟨_, _, _, _, _, filled, asExplicit, congruent⟩ := resolution_exact resolver "city" tracker
  obtain ⟨activating, requested⟩ := filled (by rw [found]; rfl)
  exact ⟨found, activating, requested, (asExplicit _ rfl rfl unmapped).1, (congruent later rfl).1⟩

end SlotResolver

end Dialogue
