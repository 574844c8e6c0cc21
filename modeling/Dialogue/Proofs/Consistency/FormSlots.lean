import Dialogue.Consistency.Checks
import Dialogue.Proofs.Domain.Built
import Mathlib.Data.List.Nodup

/-!
# Slots that forms name

A form names a slot each time that it requires it, and once more if it has rules for it.
The slots of forms pass if all of them are declared, and an undeclared one is reported as
often as a form names it.
-/

namespace Dialogue

/-- The complaint that a form names an undeclared slot. -/
def Warning.isUndeclaredSlot (form slot : String) : Warning → Bool
  | .undeclaredSlot otherForm other => otherForm == form && other == slot
  | _ => false

/-- A form names a slot: it requires it or has rules for it. -/
def FormSpec.Names (form : FormSpec) (slot : String) : Prop :=
  slot ∈ form.requiredSlots ∨ slot ∈ form.slotMappings.keys

namespace Assistant

variable {assistant : Assistant} {domain : Domain} {form : FormSpec} {slot : String}

theorem isNone_slot?_iff : (domain.slot? slot).isNone = true ↔ slot ∉ domain.slotNames := by
  rw [← Domain.slot?_isSome_iff]
  simp

theorem mem_formReferences_iff : slot ∈ formReferences form ↔ form.Names slot :=
  List.mem_append

/-- A slot is named once for each time that it is required, and once for its rules. -/
theorem count_formReferences :
    (formReferences form).count slot =
      form.requiredSlots.count slot + if slot ∈ form.slotMappings.keys then 1 else 0 := by
  rw [formReferences, List.count_append, form.slotMappings.nodup_keys.count]

/-- The complaints about one form. -/
def formComplaints (domain : Domain) (form : FormSpec) : List Warning :=
  ((formReferences form).filter fun slot => (domain.slot? slot).isNone).map
    (.undeclaredSlot form.name)

theorem mem_formComplaints_iff {warning : Warning} :
    warning ∈ formComplaints domain form ↔
      ∃ slot, form.Names slot ∧ slot ∉ domain.slotNames ∧
        .undeclaredSlot form.name slot = warning := by
  unfold formComplaints
  simp only [List.mem_map, List.mem_filter, mem_formReferences_iff, isNone_slot?_iff, and_assoc]

theorem countP_formComplaints_of_name (undeclared : slot ∉ domain.slotNames) :
    (formComplaints domain form).countP (Warning.isUndeclaredSlot form.name slot) =
      (formReferences form).count slot := by
  unfold formComplaints
  rw [List.countP_map, List.countP_filter, List.count]
  apply List.countP_congr
  intro other _
  simp only [Function.comp_apply, Warning.isUndeclaredSlot, beq_self_eq_true, Bool.true_and,
    Bool.and_eq_true, isNone_slot?_iff, beq_iff_eq]
  constructor
  · exact And.left
  · rintro rfl
    exact ⟨rfl, undeclared⟩

theorem countP_formComplaints_of_ne {name : String} (other : form.name ≠ name) :
    (formComplaints domain form).countP (Warning.isUndeclaredSlot name slot) = 0 := by
  rw [List.countP_eq_zero]
  intro warning member
  obtain ⟨named, _, _, rfl⟩ := mem_formComplaints_iff.mp member
  simp [Warning.isUndeclaredSlot, other]

/-- Where every form stands under its own name, the complaints that name a form are those
about it. -/
theorem countP_flatMap_formComplaints (domain : Domain) {entries : Entries FormSpec}
    (nodup : (entries.map Prod.fst).Nodup)
    (named : ∀ pair ∈ entries, pair.2.name = pair.1) (name slot : String) :
    ((entries.map Prod.snd).flatMap (formComplaints domain)).countP
        (Warning.isUndeclaredSlot name slot) =
      ((entries.find? name).map fun form =>
        (formComplaints domain form).countP (Warning.isUndeclaredSlot name slot)).getD 0 := by
  induction entries with
  | nil => rfl
  | cons head rest ih =>
      obtain ⟨key, form⟩ := head
      obtain ⟨fresh, nodup⟩ := List.nodup_cons.mp nodup
      have ownName : form.name = key := named _ List.mem_cons_self
      have later := ih nodup fun pair member => named pair (List.mem_cons_of_mem _ member)
      rw [List.map_cons, List.flatMap_cons, List.countP_append, later, Entries.find?_cons]
      by_cases same : key = name
      · rw [if_pos same, ← same, Entries.find?_eq_none_iff.mpr fresh]
        simp
      · rw [if_neg same, countP_formComplaints_of_ne (ownName ▸ same), Nat.zero_add]

section

variable (built : assistant.domain.Built)

include built

/-- Every form stands under its own name among the declarations. -/
theorem name_of_mem_entries :
    ∀ pair ∈ assistant.domain.forms.entries, pair.2.name = pair.1 :=
  fun _ member => built.form_name (Table.find?_eq_some_iff.mpr member)

theorem mem_undeclaredSlots_iff {warning : Warning} :
    warning ∈ assistant.undeclaredSlots ↔
      ∃ name form slot, assistant.domain.form? name = some form ∧ form.Names slot ∧
        slot ∉ assistant.domain.slotNames ∧ .undeclaredSlot name slot = warning := by
  have collected : assistant.undeclaredSlots =
      assistant.domain.forms.values.flatMap (formComplaints assistant.domain) := rfl
  rw [collected, List.mem_flatMap]
  constructor
  · rintro ⟨form, isForm, complaint⟩
    obtain ⟨⟨name, _⟩, declared, rfl⟩ := List.mem_map.mp isForm
    obtain ⟨slot, names, undeclared, same⟩ := mem_formComplaints_iff.mp complaint
    have ownName := name_of_mem_entries built _ declared
    rw [ownName] at same
    exact ⟨name, _, slot, Table.find?_eq_some_iff.mpr declared, names, undeclared, same⟩
  · rintro ⟨name, form, slot, found, names, undeclared, rfl⟩
    have declared := Table.find?_eq_some_iff.mp found
    have isForm : form ∈ assistant.domain.forms.values := List.mem_map.mpr ⟨_, declared, rfl⟩
    have ownName := built.form_name found
    exact ⟨form, isForm, mem_formComplaints_iff.mpr ⟨slot, names, undeclared, by rw [ownName]⟩⟩

/-- An undeclared slot is reported as often as the form names it. -/
theorem countP_undeclaredSlots {name : String}
    (found : assistant.domain.form? name = some form)
    (undeclared : slot ∉ assistant.domain.slotNames) :
    assistant.undeclaredSlots.countP (Warning.isUndeclaredSlot name slot) =
      form.requiredSlots.count slot + if slot ∈ form.slotMappings.keys then 1 else 0 := by
  have ownName : form.name = name := built.form_name found
  have entry : assistant.domain.forms.entries.find? name = some form := found
  calc
    assistant.undeclaredSlots.countP (Warning.isUndeclaredSlot name slot)
      = (formComplaints assistant.domain form).countP (Warning.isUndeclaredSlot name slot) := by
        have collected := countP_flatMap_formComplaints assistant.domain
          assistant.domain.forms.sorted.nodup (name_of_mem_entries built) name slot
        rw [entry] at collected
        exact collected
    _ = (formReferences form).count slot := by
        rw [← ownName]
        exact countP_formComplaints_of_name undeclared
    _ = form.requiredSlots.count slot + if slot ∈ form.slotMappings.keys then 1 else 0 :=
        count_formReferences

theorem passed_checkFormSlots_iff :
    assistant.checkFormSlots.passed = true ↔
      ∀ name form, assistant.domain.form? name = some form →
        ∀ slot, form.Names slot → slot ∈ assistant.domain.slotNames := by
  have silent : assistant.checkFormSlots.passed = true ↔ assistant.undeclaredSlots = [] :=
    List.isEmpty_iff
  rw [silent, List.eq_nil_iff_forall_not_mem]
  constructor
  · intro unreported name form found slot names
    by_contra undeclared
    exact unreported _ ((mem_undeclaredSlots_iff built).mpr
      ⟨name, form, slot, found, names, undeclared, rfl⟩)
  · intro declared warning reported
    obtain ⟨name, form, slot, found, names, undeclared, _⟩ :=
      (mem_undeclaredSlots_iff built).mp reported
    exact undeclared (declared name form found slot names)

end

/-- The slots of forms pass exactly if every slot that a form requires or has rules for is
declared.  The complaints are about undeclared slots that forms name, and each comes once
for every time that the form requires the slot and once more if it has rules for it.  So a
slot that is named in one way only, and once, is reported once. -/
theorem undeclaredSlots_exact (assistant : Assistant) (built : assistant.domain.Built) :
    (assistant.checkFormSlots.passed = true ↔
      ∀ name form, assistant.domain.form? name = some form →
        ∀ slot, form.Names slot → slot ∈ assistant.domain.slotNames) ∧
    (∀ warning, warning ∈ assistant.checkFormSlots.warnings ↔
      ∃ name form slot, assistant.domain.form? name = some form ∧ form.Names slot ∧
        slot ∉ assistant.domain.slotNames ∧ .undeclaredSlot name slot = warning) ∧
    (∀ name form slot, assistant.domain.form? name = some form →
      slot ∉ assistant.domain.slotNames →
      assistant.checkFormSlots.warnings.countP (Warning.isUndeclaredSlot name slot) =
        form.requiredSlots.count slot + if slot ∈ form.slotMappings.keys then 1 else 0) :=
  ⟨passed_checkFormSlots_iff built, fun _ => mem_undeclaredSlots_iff built,
    fun _ _ _ => countP_undeclaredSlots built⟩

/-- A survey requires a rating that is not declared, and has rules for a comment that is not
declared either: each of them is reported once. -/
theorem undeclaredSlots_exact_of_survey :
    let survey : FormSpec :=
      (FormSpec.mk "survey" ["rating"] Table.empty).withSlotMappings "comment" [.fromText]
    let assistant : Assistant :=
      { domain := Domain.empty.withForm survey, stories := {}, flows := [] }
    assistant.domain.Built ∧ assistant.domain.form? "survey" = some survey ∧
      "rating" ∉ assistant.domain.slotNames ∧ "comment" ∉ assistant.domain.slotNames ∧
      assistant.checkFormSlots.passed = false ∧
      assistant.checkFormSlots.warnings.countP (Warning.isUndeclaredSlot "survey" "rating") = 1 ∧
      assistant.checkFormSlots.warnings.countP (Warning.isUndeclaredSlot "survey" "comment") = 1 := by
  intro survey assistant
  have built : assistant.domain.Built := Domain.Built.empty.withForm survey
  have found : assistant.domain.form? "survey" = some survey := rfl
  have noRating : "rating" ∉ assistant.domain.slotNames := by decide
  have noComment : "comment" ∉ assistant.domain.slotNames := by decide
  obtain ⟨passed, _, counts⟩ := undeclaredSlots_exact assistant built
  refine ⟨built, found, noRating, noComment, ?_, ?_, ?_⟩
  · rw [Bool.eq_false_iff, ne_eq, passed]
    intro declared
    exact noRating (declared "survey" survey found "rating" (.inl List.mem_cons_self))
  · exact counts "survey" survey "rating" found noRating
  · exact counts "survey" survey "comment" found noComment

/-- A slot that a survey requires and has rules for is reported twice. -/
theorem undeclaredSlots_of_slot_named_twice :
    let survey : FormSpec :=
      (FormSpec.mk "survey" ["rating"] Table.empty).withSlotMappings "rating" [.fromText]
    let assistant : Assistant :=
      { domain := Domain.empty.withForm survey, stories := {}, flows := [] }
    assistant.domain.form? "survey" = some survey ∧ survey.Names "rating" ∧
      "rating" ∉ assistant.domain.slotNames ∧
      assistant.checkFormSlots.warnings =
        [.undeclaredSlot "survey" "rating", .undeclaredSlot "survey" "rating"] := by
  intro survey assistant
  exact ⟨rfl, .inl List.mem_cons_self, by decide, rfl⟩

end Assistant

end Dialogue
