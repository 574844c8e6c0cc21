import Dialogue.Domain.Loading
import Dialogue.Proofs.Table.Lookup

/-!
# Domains that can be built

A domain is built from the empty one by declarations, and loading does nothing else.
Whatever the order of the declarations, every form stands under its own name, and the
slot for the question asked last is declared as soon as there is a form.
-/

namespace Dialogue

namespace Domain

/-- `Built domain` says that declarations lead from the empty domain to `domain`. -/
inductive Built : Domain → Prop where
  | empty : Built empty
  | withIntents {domain : Domain} (built : Built domain) (intents : List String) :
      Built (domain.withIntents intents)
  | withActions {domain : Domain} (built : Built domain) (actions : List String) :
      Built (domain.withActions actions)
  | withSlot {domain : Domain} (built : Built domain) (slot : SlotSpec) :
      Built (domain.withSlot slot)
  | withForm {domain : Domain} (built : Built domain) (form : FormSpec) :
      Built (domain.withForm form)
  | withResponse {domain : Domain} (built : Built domain) (name : String)
      (variations : List Json) : Built (domain.withResponse name variations)

/-- The names of the declared slots. -/
def slotNames (domain : Domain) : List String :=
  domain.slots.map SlotSpec.name

theorem slot?_isSome_iff {domain : Domain} {name : String} :
    (domain.slot? name).isSome = true ↔ name ∈ domain.slotNames := by
  simp [slot?, slotNames]

/-- Placing a slot keeps the names that are there and adds its own. -/
theorem mem_map_name_placeSlot {slot : SlotSpec} {slots : List SlotSpec} {name : String} :
    name ∈ (placeSlot slot slots).map SlotSpec.name ↔
      name = slot.name ∨ name ∈ slots.map SlotSpec.name := by
  induction slots with
  | nil => simp [placeSlot]
  | cons declared rest ih =>
      unfold placeSlot
      by_cases same : declared.name = slot.name
      · simp [same]
      · rw [if_neg same, List.map_cons, List.mem_cons, ih, List.map_cons, List.mem_cons]
        tauto

/-- A declared slot is found under its name, and the others as before. -/
theorem slot?_withSlot (domain : Domain) (slot : SlotSpec) (name : String) :
    (domain.withSlot slot).slot? name =
      if slot.name = name then some slot else domain.slot? name := by
  unfold slot? withSlot
  dsimp only
  induction domain.slots with
  | nil => by_cases same : slot.name = name <;> simp [placeSlot, same]
  | cons declared rest ih =>
      unfold placeSlot
      by_cases replaced : declared.name = slot.name
      · rw [if_pos replaced]
        by_cases same : slot.name = name
        · simp [same]
        · have other : declared.name ≠ name := replaced ▸ same
          simp [same, other]
      · rw [if_neg replaced]
        by_cases found : declared.name = name
        · have other : slot.name ≠ name := fun same => replaced (found.trans same.symm)
          simp [found, other]
        · simp [found, ih]

/-- A declaration never withdraws a slot. -/
theorem Built.requestedSlot_mem {domain : Domain} (built : Built domain)
    (someForm : domain.forms.isEmpty = false) : requestedSlot ∈ domain.slotNames := by
  induction built with
  | empty => simp [Domain.empty, Table.isEmpty, Table.empty] at someForm
  | withIntents _ intents ih => exact ih someForm
  | withActions _ actions ih => exact ih someForm
  | withSlot _ slot ih => exact mem_map_name_placeSlot.mpr (.inr (ih someForm))
  | @withForm domain _ form ih =>
      by_cases missing : (domain.slot? requestedSlot).isNone = true
      · simp only [Domain.withForm, slotNames, missing, if_true, List.map_append]
        exact List.mem_append_right _ List.mem_cons_self
      · have declared : requestedSlot ∈ domain.slotNames :=
          slot?_isSome_iff.mp (by simpa [Option.isSome_iff_ne_none] using missing)
        simp only [Domain.withForm, slotNames, missing]
        exact declared
  | withResponse _ name variations ih => exact ih someForm

/-- Every form of a domain stands under its own name. -/
theorem Built.form_name {domain : Domain} (built : Built domain) {name : String}
    {form : FormSpec} (found : domain.form? name = some form) : form.name = name := by
  induction built with
  | empty => simp [form?, Domain.empty] at found
  | withIntents _ intents ih => exact ih found
  | withActions _ actions ih => exact ih found
  | withSlot _ slot ih => exact ih found
  | withForm _ declared ih =>
      rw [form?, Domain.withForm, Table.find?_insert] at found
      by_cases same : name = declared.name
      · rw [if_pos same, Option.some.injEq] at found
        rw [← found, same]
      · rw [if_neg same] at found
        exact ih found
  | withResponse _ response variations ih => exact ih found

theorem mem_keys_slotSchema {domain : Domain} {name : String} :
    name ∈ domain.slotSchema.keys ↔ name ∈ domain.slotNames := by
  unfold slotSchema
  rw [Table.mem_keys_ofList, List.map_map]
  rfl

/-- In a domain with a form, a tracker can hold the question asked last. -/
theorem Built.schema_contains_requestedSlot {domain : Domain} (built : Built domain)
    {name : String} {form : FormSpec} (found : domain.form? name = some form) :
    domain.slotSchema.contains requestedSlot = true := by
  have someForm : domain.forms.isEmpty = false := by
    cases entries : domain.forms.entries with
    | nil => simp [form?, Table.find?, entries] at found
    | cons first rest => simp [Table.isEmpty, entries]
  rw [Table.contains_eq_true_iff, mem_keys_slotSchema]
  exact built.requestedSlot_mem someForm

/-! ## Loading builds -/

/-- A sequence of two steps succeeds only if both of them do. -/
theorem exists_of_bind_eq_ok {State Result Failure : Type} {first : Except Failure State}
    {second : State → Except Failure Result} {result : Result}
    (run : first >>= second = .ok result) :
    ∃ state, first = .ok state ∧ second state = .ok result := by
  cases first with
  | error failure => cases run
  | ok state => exact ⟨state, rfl, run⟩

/-- A loop that may fail keeps a property that each of its steps keeps. -/
theorem foldlM_keeps {State Item Failure : Type} {Keeps : State → Prop}
    {step : State → Item → Except Failure State}
    (step_keeps : ∀ {state next item}, Keeps state → step state item = .ok next → Keeps next)
    {items : List Item} {state final : State} (start : Keeps state)
    (run : items.foldlM step state = .ok final) : Keeps final := by
  induction items generalizing state with
  | nil =>
      obtain rfl : state = final := Except.ok.inj run
      exact start
  | cons item rest ih =>
      rw [List.foldlM_cons] at run
      obtain ⟨next, stepped, later⟩ := exists_of_bind_eq_ok run
      exact ih (step_keeps start stepped) later

theorem Built.loadSlot {domain next : Domain} (built : Built domain) {name : String}
    {outline : SlotOutline} (loaded : domain.loadSlot name outline = .ok next) : Built next := by
  obtain ⟨mappings, _, declared⟩ := exists_of_bind_eq_ok loaded
  obtain rfl := Except.ok.inj declared
  exact built.withSlot _

theorem Built.loadForm {domain next : Domain} (built : Built domain) {name : String}
    {outline : FormOutline} (loaded : domain.loadForm name outline = .ok next) : Built next := by
  obtain ⟨mappings, _, declared⟩ := exists_of_bind_eq_ok loaded
  obtain rfl := Except.ok.inj declared
  exact built.withForm _

theorem Built.foldl_withResponse {domain : Domain} (built : Built domain)
    (responses : List (String × List Json)) :
    Built (responses.foldl (fun domain pair => domain.withResponse pair.1 pair.2) domain) := by
  induction responses generalizing domain with
  | nil => exact built
  | cons response rest ih => exact ih (built.withResponse response.1 response.2)

/-- A domain that was loaded was built by declarations. -/
theorem built_of_ofJson {value : Json} {domain : Domain} (loaded : ofJson value = .ok domain) :
    Built domain := by
  unfold ofJson at loaded
  cases read : DomainOutline.ofJson? value with
  | none =>
      rw [read] at loaded
      cases loaded
  | some outline =>
      rw [read] at loaded
      obtain ⟨withSlots, slots, loaded⟩ := exists_of_bind_eq_ok loaded
      obtain ⟨withForms, forms, loaded⟩ := exists_of_bind_eq_ok loaded
      have slotsBuilt : Built withSlots :=
        foldlM_keeps (fun built step => built.loadSlot step)
          ((Built.empty.withIntents _).withActions _) slots
      have formsBuilt : Built withForms :=
        foldlM_keeps (fun built step => built.loadForm step) slotsBuilt forms
      obtain rfl := Except.ok.inj loaded
      exact formsBuilt.foldl_withResponse _

end Domain

end Dialogue
