import Dialogue.Form
import Dialogue.Proofs.Slot.Resolution
import Dialogue.Proofs.Tracker.Parts

/-!
# Runs of forms without a validation action

Where the domain declares no validation action for a form, a run asks nobody: it
cannot fail, its events are known, and they are decided by the tracker from which it
starts.  The activation leaves the slots, the latest action and the latest message as
they are, so what is extracted is the same before and after it.
-/

namespace Dialogue

namespace FormSpec

/-! ## Events that set slots -/

theorem isPlain_of_mem_slotEvents {values : List (String × Json)} {event : Event}
    (member : event ∈ slotEvents values) : event.isPlain = true := by
  obtain ⟨⟨name, value⟩, _, rfl⟩ := List.mem_map.mp member
  rfl

theorem any_isDeactivation_slotEvents (values : List (String × Json)) :
    (slotEvents values).any Event.isDeactivation = false := by
  simp [slotEvents, Event.isDeactivation, Event.slotSet]

/-- A part of the state that no slot event changes. -/
theorem foldl_slotEvents {Part : Type} {after : Part → Event → Part}
    (fixed : ∀ part name value, after part (Event.slotSet name value) = part)
    (values : List (String × Json)) (part : Part) :
    (slotEvents values).foldl after part = part := by
  induction values with
  | nil => rfl
  | cons pair rest ih =>
      obtain ⟨name, value⟩ := pair
      change (slotEvents rest).foldl after (after part (Event.slotSet name value)) = part
      rw [fixed, ih]

/-- Setting slots to the values that they have changes nothing. -/
theorem foldl_slotsAfter_of_held {values : List (String × Json)} {slots : Table Json}
    (held : ∀ pair ∈ values, slots.find? pair.1 = some pair.2) (schema : SlotSchema) :
    (slotEvents values).foldl (DialogueState.slotsAfter schema) slots = slots := by
  induction values with
  | nil => rfl
  | cons pair rest ih =>
      change (slotEvents rest).foldl (DialogueState.slotsAfter schema)
        (DialogueState.assign schema slots pair.1 pair.2) = slots
      rw [DialogueState.assign_eq_self (held pair List.mem_cons_self)]
      exact ih fun other member => held other (List.mem_cons_of_mem pair member)

/-! ## The activation -/

variable (form : FormSpec) (domain : Domain) (tracker : Tracker)

/-- The events that activate a form where nobody validates the values that are there. -/
def activation : List Event :=
  if tracker.activeLoopName = some form.name then []
  else Event.formActivated form.name :: slotEvents (form.prefilled tracker)

/-- The tracker after these events. -/
def activated : Tracker :=
  tracker.hypothetical (form.activation tracker)

section

variable {form : FormSpec} {tracker : Tracker}
  (active : tracker.activeLoopName = some form.name)

include active

theorem activation_of_active : form.activation tracker = [] :=
  if_pos active

theorem activated_of_active : form.activated tracker = tracker := by
  unfold activated
  rw [activation_of_active active]
  rfl

end

theorem isPlain_of_mem_activation {event : Event} (member : event ∈ form.activation tracker) :
    event.isPlain = true := by
  unfold activation at member
  split at member
  · simp at member
  · rcases List.mem_cons.mp member with rfl | later
    · rfl
    · exact isPlain_of_mem_slotEvents later

theorem find?_of_mem_prefilled {pair : String × Json} (member : pair ∈ form.prefilled tracker) :
    tracker.state.slots.find? pair.1 = some pair.2 := by
  obtain ⟨name, _, found⟩ := List.mem_filterMap.mp member
  obtain ⟨value, held, rfl⟩ := Option.map_eq_some_iff.mp found
  exact (Option.filter_eq_some_iff.mp held).1

/-- The activation repeats the values that are there, so the slots stay as they are. -/
theorem foldl_slotsAfter_activation (schema : SlotSchema) :
    (form.activation tracker).foldl (DialogueState.slotsAfter schema) tracker.state.slots =
      tracker.state.slots := by
  unfold activation
  split
  · rfl
  · exact foldl_slotsAfter_of_held (fun _ member => form.find?_of_mem_prefilled tracker member) _

theorem activated_slots : (form.activated tracker).state.slots = tracker.state.slots := by
  unfold activated Tracker.hypothetical
  rw [Tracker.extend_slots_of_isPlain fun _ member => form.isPlain_of_mem_activation tracker member]
  exact form.foldl_slotsAfter_activation tracker _

/-- A part of the state that neither an activation nor a slot event changes. -/
theorem foldl_activation {Part : Type} {after : Part → Event → Part}
    (activated : ∀ part name, after part (Event.formActivated name) = part)
    (fixed : ∀ part name value, after part (Event.slotSet name value) = part) (part : Part) :
    (form.activation tracker).foldl after part = part := by
  unfold activation
  split
  · rfl
  · rw [List.foldl_cons, activated]
    exact foldl_slotEvents fixed _ _

theorem activated_latestAction : (form.activated tracker).latestAction = tracker.latestAction := by
  unfold activated Tracker.hypothetical Tracker.latestAction
  rw [Tracker.extend_latestAction_of_isPlain
    fun _ member => form.isPlain_of_mem_activation tracker member]
  exact form.foldl_activation tracker (fun _ _ => rfl) (fun _ _ _ => rfl) _

theorem activated_latestMessage :
    (form.activated tracker).latestMessage = tracker.latestMessage := by
  unfold activated Tracker.hypothetical Tracker.latestMessage
  rw [Tracker.extend_latestMessage_of_isPlain
    fun _ member => form.isPlain_of_mem_activation tracker member]
  exact form.foldl_activation tracker (fun _ _ => rfl) (fun _ _ _ => rfl) _

/-- After the activation the form is the active loop: as it was, or afresh. -/
theorem foldl_loopAfter_activation (loop : Option ActiveLoop) :
    (form.activation tracker).foldl DialogueState.loopAfter loop =
      if tracker.activeLoopName = some form.name then loop
      else some (ActiveLoop.fresh form.name) := by
  unfold activation
  split
  · rfl
  · exact foldl_slotEvents (fun _ _ _ => rfl) _ _

theorem activated_activeLoop :
    (form.activated tracker).state.activeLoop =
      if tracker.activeLoopName = some form.name then tracker.state.activeLoop
      else some (ActiveLoop.fresh form.name) := by
  unfold activated Tracker.hypothetical
  rw [Tracker.extend_activeLoop_of_isPlain
    fun _ member => form.isPlain_of_mem_activation tracker member]
  exact form.foldl_loopAfter_activation tracker _

theorem activated_slot? (name : String) :
    (form.activated tracker).slot? name = tracker.slot? name := by
  unfold Tracker.slot?
  rw [activated_slots]

theorem activated_requestedSlotName :
    (form.activated tracker).requestedSlotName = tracker.requestedSlotName := by
  unfold Tracker.requestedSlotName
  rw [activated_slot?]

/-! ## The run -/

/-- Whether a run looks at the latest message: the user has just spoken, and the form
is about to be activated or, if it is active, validates. -/
def Listens : Prop :=
  tracker.latestAction = some listenAction ∧
    (tracker.activeLoopName = some form.name → tracker.loopValidates = true)

instance : Decidable (form.Listens tracker) :=
  inferInstanceAs (Decidable (_ ∧ _))

/-- What the latest message has for the form: the values of the slots that were not
asked for, then that of the slot that was. -/
def extracted : List (String × Json) :=
  form.otherValues domain tracker (tracker.activeLoopName != some form.name)
    ++ form.requestedValues domain tracker

/-- The values that a run takes over. -/
def accepted : List (String × Json) :=
  if form.Listens tracker then form.extracted domain tracker else []

theorem accepted_of_not_listens {form : FormSpec} {tracker : Tracker}
    (ignores : ¬form.Listens tracker) : form.accepted domain tracker = [] :=
  if_neg ignores

/-- The form asked for a slot, the user has answered, and the answer has a value
neither for that slot nor for any other slot of the form. -/
structure Starves : Prop where
  /-- The user has just spoken. -/
  listening : tracker.latestAction = some listenAction
  /-- The form is about to be activated, or it validates. -/
  validating : tracker.activeLoopName = some form.name → tracker.loopValidates = true
  /-- What was asked for is not in the message, and nothing else is. -/
  unanswered : ∃ slot, tracker.slot? requestedSlot = some (.string slot) ∧
    SlotResolver.resolveSlot ⟨domain, some form⟩ slot tracker = none ∧
    ∀ other ∈ form.requiredSlots, other ≠ slot →
      SlotResolver.resolveOtherSlot ⟨domain, some form⟩ other tracker
        (tracker.activeLoopName != some form.name) = none

theorem requestedSlotName_eq_some_iff {tracker : Tracker} {slot : String} :
    tracker.requestedSlotName = some slot ↔
      tracker.slot? requestedSlot = some (.string slot) := by
  unfold Tracker.requestedSlotName
  rw [Option.bind_eq_some_iff]
  constructor
  · rintro ⟨value, held, text⟩
    cases value with
    | string name =>
        obtain rfl : name = slot := by simpa [Json.string?] using text
        exact held
    | _ => simp [Json.string?] at text
  · intro held
    exact ⟨_, held, rfl⟩

theorem extracted_eq_nil_iff {slot : String} (asked : tracker.requestedSlotName = some slot) :
    form.extracted domain tracker = [] ↔
      SlotResolver.resolveSlot ⟨domain, some form⟩ slot tracker = none ∧
      ∀ other ∈ form.requiredSlots, other ≠ slot →
        SlotResolver.resolveOtherSlot ⟨domain, some form⟩ other tracker
          (tracker.activeLoopName != some form.name) = none := by
  unfold extracted otherValues requestedValues
  rw [List.append_eq_nil_iff, and_comm, asked]
  refine and_congr ?_ ?_
  · simp
  · simp only [List.filterMap_eq_nil_iff, List.mem_filter, Option.map_eq_none_iff]
    constructor
    · intro none other required differs
      exact none other ⟨required, by simpa using Ne.symm differs⟩
    · rintro none other ⟨required, differs⟩
      have differs : slot ≠ other := by simpa using differs
      exact none other required differs.symm

theorem starves_iff :
    form.Starves domain tracker ↔
      form.Listens tracker ∧
        ∃ slot, tracker.requestedSlotName = some slot ∧ form.extracted domain tracker = [] := by
  constructor
  · rintro ⟨listening, validating, slot, asked, unanswered⟩
    have asked := requestedSlotName_eq_some_iff.mpr asked
    exact ⟨⟨listening, validating⟩, slot, asked,
      (form.extracted_eq_nil_iff domain tracker asked).mpr unanswered⟩
  · rintro ⟨⟨listening, validating⟩, slot, asked, none⟩
    exact ⟨listening, validating, slot, requestedSlotName_eq_some_iff.mp asked,
      (form.extracted_eq_nil_iff domain tracker asked).mp none⟩

/-- The activation does not change what is extracted. -/
theorem extracted_activated :
    form.otherValues domain (form.activated tracker)
          (tracker.activeLoopName != some form.name)
        ++ form.requestedValues domain (form.activated tracker) =
      form.extracted domain tracker := by
  unfold extracted otherValues requestedValues
  simp only [activated_requestedSlotName,
    SlotResolver.resolveSlot_congr (form.activated_latestMessage tracker),
    SlotResolver.resolveOtherSlot_congr (form.activated_latestMessage tracker)]

theorem activated_validates_iff :
    ((form.activated tracker).isListening && (form.activated tracker).loopValidates) = true ↔
      form.Listens tracker := by
  unfold Listens Tracker.isListening Tracker.loopValidates
  rw [Bool.and_eq_true, activated_latestAction, activated_activeLoop, beq_iff_eq]
  apply and_congr_right
  intro _
  by_cases active : tracker.activeLoopName = some form.name
  · simp [active]
  · simp [active, ActiveLoop.fresh]

/-- A form that starves is refused before anything is validated. -/
theorem validate_of_starves {form : FormSpec} {domain : Domain} {tracker : Tracker}
    (starves : form.Starves domain tracker) (executor : Executor) :
    ∃ slot, tracker.requestedSlotName = some slot ∧
      form.validate executor domain (form.activated tracker) tracker =
        .ok (.rejected (form.extractionFailure slot)) := by
  obtain ⟨listens, slot, asked, none⟩ := (form.starves_iff domain tracker).mp starves
  refine ⟨slot, asked, ?_⟩
  unfold validate
  rw [if_pos ((form.activated_validates_iff tracker).mpr listens)]
  simp only [extracted_activated, activated_requestedSlotName, asked, none]

variable {form domain tracker}
  (unvalidated : domain.hasAction (validationAction form.name) = false) (executor : Executor)

include unvalidated

/-- Without a validation action all values are taken over. -/
theorem validateSlots_of_unvalidated (values : List (String × Json)) (tracker : Tracker) :
    form.validateSlots executor domain values tracker =
      .ok (.completed (slotEvents values)) := by
  simp [validateSlots, unvalidated]

theorem activateIfRequired_of_unvalidated :
    form.activateIfRequired executor domain tracker =
      .ok (.completed (form.activation tracker)) := by
  unfold activateIfRequired activation
  split
  · rfl
  · cases values : form.prefilled tracker with
    | nil => rfl
    | cons first rest =>
        simp only [List.isEmpty_cons, Bool.false_eq_true, if_false,
          validateSlots_of_unvalidated unvalidated executor]
        rfl

theorem validate_of_not_starves (fed : ¬form.Starves domain tracker) :
    form.validate executor domain (form.activated tracker) tracker =
      .ok (.completed (slotEvents (form.accepted domain tracker))) := by
  unfold validate accepted
  by_cases listens : form.Listens tracker
  · rw [if_pos ((form.activated_validates_iff tracker).mpr listens), if_pos listens]
    simp only [extracted_activated, activated_requestedSlotName]
    split
    · rename_i slot asked none
      exact absurd ((form.starves_iff domain tracker).mpr ⟨listens, slot, asked, none⟩) fed
    · exact validateSlots_of_unvalidated unvalidated executor _ _
  · rw [if_neg (mt (form.activated_validates_iff tracker).mp listens), if_neg listens]
    rfl

/-- A run is rejected if the form starves, for the slot that was asked for. -/
theorem run_of_starves (starves : form.Starves domain tracker) :
    ∃ slot, tracker.requestedSlotName = some slot ∧
      form.run executor domain tracker = .ok (.rejected (form.extractionFailure slot)) := by
  obtain ⟨slot, asked, refused⟩ := validate_of_starves starves executor
  refine ⟨slot, asked, ?_⟩
  unfold activated at refused
  simp only [run, activateIfRequired_of_unvalidated unvalidated executor, refused]

/-- Any other run completes. -/
theorem run_of_not_starves (fed : ¬form.Starves domain tracker) :
    form.run executor domain tracker =
      .ok (.completed (form.conclude (form.activation tracker)
        (slotEvents (form.accepted domain tracker)) (form.activated tracker))) := by
  have extracted := validate_of_not_starves unvalidated executor fed
  unfold activated at extracted ⊢
  simp only [run, activateIfRequired_of_unvalidated unvalidated executor, extracted]

end FormSpec

end Dialogue
