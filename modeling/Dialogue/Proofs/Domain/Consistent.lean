import Dialogue.Proofs.Domain.Built
import Mathlib.Data.List.Nodup

/-!
# Domains are consistent

Declarations keep a domain consistent, in whatever order they come and however often they
replace each other: no slot is declared twice, every form stands under its own name, forms
and responses are actions, and the slot for the question asked last is there as soon as it
is needed.
-/

namespace Dialogue

namespace Domain

/-- What the declarations of a domain have to do with each other. -/
structure Consistent (domain : Domain) : Prop where
  /-- No slot is declared twice. -/
  slotsDistinct : domain.slotNames.Nodup
  /-- Every form stands under its own name. -/
  formNamed : ∀ name form, domain.form? name = some form → form.name = name
  /-- Every form is an action. -/
  formActs : ∀ name ∈ domain.forms.keys, domain.hasAction name = true
  /-- Every response is an action. -/
  responseActs : ∀ name ∈ domain.responses.keys, domain.hasAction name = true
  /-- With a form there is the slot for the question asked last. -/
  asks : domain.forms.keys ≠ [] → requestedSlot ∈ domain.slotNames
  /-- A conversation starts with the initial values of the slots, and no others. -/
  schema : ∀ name,
    domain.slotSchema.find? name = (domain.slot? name).map SlotSpec.initialValue

variable {domain : Domain}

/-! ## Slots -/

/-- Placing a slot declares no slot twice. -/
theorem nodup_placeSlot {slot : SlotSpec} {slots : List SlotSpec}
    (distinct : (slots.map SlotSpec.name).Nodup) :
    ((placeSlot slot slots).map SlotSpec.name).Nodup := by
  induction slots with
  | nil => simp [placeSlot]
  | cons declared rest ih =>
      obtain ⟨fresh, restDistinct⟩ := List.nodup_cons.mp distinct
      unfold placeSlot
      by_cases same : declared.name = slot.name
      · rw [if_pos same, List.map_cons, ← same]
        exact distinct
      · rw [if_neg same, List.map_cons]
        apply List.Nodup.cons
        · rw [mem_map_name_placeSlot]
          exact not_or.mpr ⟨same, fresh⟩
        · exact ih restDistinct

/-- A form adds the slot for the question asked last, if it is not there. -/
theorem slots_withForm (form : FormSpec) :
    (domain.withForm form).slots =
      if requestedSlot ∈ domain.slotNames then domain.slots
      else domain.slots ++ [requestedSlotSpec] := by
  unfold withForm
  by_cases declared : requestedSlot ∈ domain.slotNames
  · have found := slot?_isSome_iff.mpr declared
    rw [if_pos declared, ← Option.not_isSome, found]
    rfl
  · have missing : (domain.slot? requestedSlot).isSome = false := by
      rw [Bool.eq_false_iff, ne_eq, slot?_isSome_iff]
      exact declared
    rw [if_neg declared, ← Option.not_isSome, missing]
    rfl

theorem Built.slotNames_nodup (built : Built domain) : domain.slotNames.Nodup := by
  induction built with
  | empty => exact List.nodup_nil
  | withIntents _ _ ih => exact ih
  | withActions _ _ ih => exact ih
  | withSlot _ _ ih => exact nodup_placeSlot ih
  | withForm _ form ih =>
      rw [slotNames, slots_withForm]
      split
      · exact ih
      · rename_i missing
        rw [List.map_append, List.map_singleton, ← List.concat_eq_append]
        exact ih.concat missing
  | withResponse _ _ _ ih => exact ih

/-- The initial values of slots that are declared once each. -/
theorem find?_map_initialValue (slots : List SlotSpec) (name : String) :
    Entries.find? name (slots.map fun slot => (slot.name, slot.initialValue)) =
      (slots.find? fun slot => slot.name == name).map SlotSpec.initialValue := by
  induction slots with
  | nil => rfl
  | cons slot rest ih =>
      rw [List.map_cons, Entries.find?_cons, ih]
      by_cases same : slot.name = name
      · simp [same]
      · simp [same]

theorem find?_slotSchema (distinct : domain.slotNames.Nodup) (name : String) :
    domain.slotSchema.find? name = (domain.slot? name).map SlotSpec.initialValue := by
  unfold slotSchema slot?
  rw [Table.find?_ofList, find?_map_initialValue]
  rw [List.map_map]
  exact distinct

/-! ## Actions -/

theorem hasAction_withActions {actions : List String} {name : String} :
    (domain.withActions actions).hasAction name = true ↔
      name ∈ actions ∨ domain.hasAction name = true :=
  NameSet.contains_addAll_iff

theorem hasAction_withForm {form : FormSpec} {name : String} :
    (domain.withForm form).hasAction name = true ↔
      name = form.name ∨ domain.hasAction name = true :=
  NameSet.contains_add_iff

theorem hasAction_withResponse {response name : String} {variations : List Json} :
    (domain.withResponse response variations).hasAction name = true ↔
      name = response ∨ domain.hasAction name = true :=
  NameSet.contains_add_iff

/-- Every form of a built domain is an action: declarations withdraw none. -/
theorem Built.hasAction_of_form (built : Built domain) {name : String}
    (isForm : name ∈ domain.forms.keys) : domain.hasAction name = true := by
  induction built with
  | empty => cases isForm
  | withIntents _ _ ih => exact ih isForm
  | withActions _ _ ih => exact hasAction_withActions.mpr (.inr (ih isForm))
  | withSlot _ _ ih => exact ih isForm
  | withForm _ _ ih =>
      apply hasAction_withForm.mpr
      exact (Table.mem_keys_insert_iff.mp isForm).imp_right ih
  | withResponse _ _ _ ih => exact hasAction_withResponse.mpr (.inr (ih isForm))

/-- Every response of a built domain is an action. -/
theorem Built.hasAction_of_response (built : Built domain) {name : String}
    (isResponse : name ∈ domain.responses.keys) : domain.hasAction name = true := by
  induction built with
  | empty => cases isResponse
  | withIntents _ _ ih => exact ih isResponse
  | withActions _ _ ih => exact hasAction_withActions.mpr (.inr (ih isResponse))
  | withSlot _ _ ih => exact ih isResponse
  | withForm _ _ ih => exact hasAction_withForm.mpr (.inr (ih isResponse))
  | withResponse _ _ _ ih =>
      apply hasAction_withResponse.mpr
      exact (Table.mem_keys_insert_iff.mp isResponse).imp_right ih

/-- Whatever declarations lead to a domain, it is consistent. -/
theorem Built.consistent (built : Built domain) : Consistent domain where
  slotsDistinct := built.slotNames_nodup
  formNamed _ _ found := built.form_name found
  formActs _ isForm := built.hasAction_of_form isForm
  responseActs _ isResponse := built.hasAction_of_response isResponse
  asks someForm := by
    apply built.requestedSlot_mem
    cases entries : domain.forms.entries with
    | nil => exact absurd (congrArg (List.map Prod.fst) entries) someForm
    | cons first rest => simp [Table.isEmpty, entries]
  schema := find?_slotSchema built.slotNames_nodup

end Domain

end Dialogue
