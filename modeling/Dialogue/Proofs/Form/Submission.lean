import Dialogue.Proofs.Form.Cancellation
import Dialogue.Proofs.Form.Run
import Dialogue.Proofs.Tracker.LastWriter

/-!
# Submissions

A form submits once all its required slots are set on the tracker that the run has
imagined: with the activation and with what was taken over from the message.  A form that
submits in the run that activates it does not record the activation, and with it drops
the answer of the validation action about the slots that were set before.  What is
recorded therefore agrees with what was imagined except for the slots that this answer
alone has changed; these keep the values from before the run.
-/

namespace Dialogue

/-! ## Answers that leave the loop alone -/

/-- The event sets a slot or says something. -/
def Event.isTelling (event : Event) : Bool :=
  match event.change with
  | .slotSet _ _ => true
  | .botUttered _ _ => true
  | _ => false

/-- An action answers with events that set slots or say something. -/
def Executor.IsTelling (executor : Executor) (action : String) (domain : Domain) : Prop :=
  ∀ query response, executor action query domain = .ok response →
    ∀ event ∈ response.events, event.isTelling = true

namespace Event

variable {event : Event}

theorem isPlain_of_isTelling (telling : event.isTelling = true) : event.isPlain = true := by
  rcases event with ⟨change, _, _⟩
  cases change <;> first | rfl | cases telling

theorem isDeactivation_of_isTelling (telling : event.isTelling = true) :
    event.isDeactivation = false := by
  rcases event with ⟨change, _, _⟩
  cases change <;> first | rfl | cases telling

end Event

theorem ActionResponse.isTelling_of_mem_intoEvents {response : ActionResponse}
    (telling : ∀ event ∈ response.events, event.isTelling = true) :
    ∀ event ∈ response.intoEvents, event.isTelling = true := by
  intro event member
  rcases List.mem_append.mp member with said | recorded
  · rcases List.mem_map.mp said with ⟨value, _, rfl⟩
    rcases utterance_isBot value with ⟨text, data, change⟩
    rw [Event.isTelling, change]
  · exact telling event recorded

/-! ## Slots after the same events -/

namespace Tracker

variable {first second : List Event} {name : String}

/-- Events that do not set a slot leave its value. -/
theorem slot?_extend_of_quiet (plain : ∀ event ∈ first, event.isPlain = true)
    (quiet : ∀ event ∈ first, event.slotValue? name = none) (tracker : Tracker) :
    (tracker.extend first).slot? name = tracker.slot? name := by
  unfold slot?
  rw [extend_slots_of_isPlain plain]
  cases declared : tracker.schema.contains name with
  | false => rw [DialogueState.find?_foldl_slotsAfter_of_undeclared plain declared]
  | true =>
      rw [DialogueState.find?_foldl_slotsAfter plain declared, latest?_eq_none_iff.mpr quiet,
        Option.none_or]

/-- Leaving out the first of two lists of events changes the value of a slot exactly if the
first list changes it and the second does not set it. -/
theorem slot?_extend_eq_iff (firstPlain : ∀ event ∈ first, event.isPlain = true)
    (secondPlain : ∀ event ∈ second, event.isPlain = true) (tracker : Tracker) :
    (tracker.extend second).slot? name = ((tracker.extend first).extend second).slot? name ↔
      (∃ event ∈ second, event.slotValue? name ≠ none) ∨
        (tracker.extend first).slot? name = tracker.slot? name := by
  by_cases quiet : ∀ event ∈ second, event.slotValue? name = none
  · have noWriter : ¬∃ event ∈ second, event.slotValue? name ≠ none := by simpa using quiet
    rw [slot?_extend_of_quiet secondPlain quiet, slot?_extend_of_quiet secondPlain quiet,
      or_iff_right noWriter]
    exact eq_comm
  · have writer : ∃ event ∈ second, event.slotValue? name ≠ none := by simpa using quiet
    apply iff_of_true _ (Or.inl writer)
    unfold slot?
    rw [extend_slots_of_isPlain secondPlain, extend_slots_of_isPlain secondPlain,
      extend_slots_of_isPlain firstPlain, extend_schema]
    cases declared : tracker.schema.contains name with
    | false =>
        rw [DialogueState.find?_foldl_slotsAfter_of_undeclared secondPlain declared,
          DialogueState.find?_foldl_slotsAfter_of_undeclared secondPlain declared,
          DialogueState.find?_foldl_slotsAfter_of_undeclared firstPlain declared]
    | true =>
        rcases Option.ne_none_iff_exists'.mp (mt latest?_eq_none_iff.mp quiet) with
          ⟨value, written⟩
        rw [DialogueState.find?_foldl_slotsAfter secondPlain declared,
          DialogueState.find?_foldl_slotsAfter secondPlain declared, written, Option.some_or,
          Option.some_or]

end Tracker

/-! ## The submission -/

namespace FormSpec

variable {form : FormSpec} {executor : Executor} {domain : Domain} {tracker : Tracker}
  {events : List Event}

theorem Obtained.isTelling
    (telling : executor.IsTelling (validationAction form.name) domain)
    (obtained : form.Obtained executor domain events) :
    ∀ event ∈ events, event.isTelling = true := by
  cases obtained with
  | values values =>
      intro event member
      rcases List.mem_map.mp member with ⟨⟨slot, value⟩, _, rfl⟩
      rfl
  | answer answered =>
      exact ActionResponse.isTelling_of_mem_intoEvents (telling _ _ answered)

theorem Obtained.isPlain_of_isTelling
    (telling : executor.IsTelling (validationAction form.name) domain)
    (obtained : form.Obtained executor domain events) :
    ∀ event ∈ events, event.isPlain = true := by
  intro event member
  exact Event.isPlain_of_isTelling (obtained.isTelling telling event member)

/-- A run whose events end with the submission has decided to submit. -/
theorem run_of_submission {taken : List Event}
    (telling : executor.IsTelling (validationAction form.name) domain)
    (run : form.run executor domain tracker = .ok (.completed (taken ++ deactivation))) :
    ∃ activation,
      form.activateIfRequired executor domain tracker = .ok (.completed activation) ∧
      form.validate executor domain (tracker.hypothetical activation) tracker =
        .ok (.completed taken) ∧
      ∀ slot ∈ form.requiredSlots,
        ((tracker.hypothetical activation).hypothetical taken).slot? slot ≠ none := by
  rcases run_completed_cases run with ⟨activation, validation, activates, validates, ends⟩
  have told := (obtained_of_validate validates).isTelling telling
  generalize final : taken ++ deactivation = events at ends
  cases ends with
  | cancelled leaves =>
      rcases List.any_eq_true.mp leaves with ⟨event, member, deactivates⟩
      rw [Event.isDeactivation_of_isTelling (told event member)] at deactivates
      cases deactivates
  | question stays required unset =>
      exact absurd final (append_deactivation_ne_question _ _ _)
  | submission stays complete =>
      obtain rfl := List.append_cancel_right final
      exact ⟨activation, activates, validates, complete⟩

/-- The recorded submission keeps the slots that were taken over, and withdraws the question
asked last. -/
theorem slots_extend_submission {taken : List Event}
    (plain : ∀ event ∈ taken, event.isPlain = true) (name : String) (tracker : Tracker) :
    (tracker.extend (Event.action name :: (taken ++ deactivation))).state.slots =
      DialogueState.assign tracker.schema (tracker.extend taken).state.slots requestedSlot
        .null := by
  have allPlain : ∀ event ∈ Event.action name :: (taken ++ deactivation),
      event.isPlain = true :=
    List.forall_mem_cons.mpr ⟨rfl, List.forall_mem_append.mpr ⟨plain, isPlain_deactivation⟩⟩
  rw [Tracker.extend_slots_of_isPlain allPlain, Tracker.extend_slots_of_isPlain plain,
    List.foldl_cons, List.foldl_append]
  rfl

theorem slot?_extend_submission {taken : List Event}
    (plain : ∀ event ∈ taken, event.isPlain = true) {slot : String}
    (differs : slot ≠ requestedSlot) (name : String) (tracker : Tracker) :
    (tracker.extend (Event.action name :: (taken ++ deactivation))).slot? slot =
      (tracker.extend taken).slot? slot := by
  unfold Tracker.slot?
  rw [slots_extend_submission plain, DialogueState.find?_assign,
    if_neg fun both => differs both.1]

theorem slot?_requestedSlot_extend_submission {taken : List Event}
    (plain : ∀ event ∈ taken, event.isPlain = true) (name : String) {tracker : Tracker}
    (declared : tracker.schema.contains requestedSlot = true) :
    (tracker.extend (Event.action name :: (taken ++ deactivation))).slot? requestedSlot =
      none := by
  unfold Tracker.slot?
  rw [slots_extend_submission plain, DialogueState.find?_assign, if_pos ⟨rfl, declared⟩]
  rfl

end FormSpec

namespace Conversation

/-- Whenever a form submits, all its required slots are set on the tracker on which it has
decided.  What is recorded shows a required slot with the same value exactly if the run
sets the slot when it validates the message, or its activation has left the slot as it was;
a slot that the validation of the message does not set keeps its value from before the
run. -/
theorem executeForm_of_submission {domain : Domain} (built : domain.Built) {name : String}
    {form : FormSpec} (declared : domain.form? name = some form)
    (unasked : requestedSlot ∉ form.requiredSlots) {executor : Executor}
    (telling : executor.IsTelling (validationAction name) domain)
    {conversation after : Conversation} {taken : List Event}
    (executed : conversation.executeForm executor domain name =
      (after, .ok (.completed (taken ++ FormSpec.deactivation)))) :
    ∃ activation,
      form.activateIfRequired executor domain conversation.tracker =
        .ok (.completed activation) ∧
      form.validate executor domain (conversation.tracker.hypothetical activation)
        conversation.tracker = .ok (.completed taken) ∧
      ∀ slot ∈ form.requiredSlots,
        ((conversation.tracker.hypothetical activation).hypothetical taken).slot? slot ≠ none ∧
        (after.tracker.slot? slot =
            ((conversation.tracker.hypothetical activation).hypothetical taken).slot? slot ↔
          (∃ event ∈ taken, event.slotValue? slot ≠ none) ∨
            (conversation.tracker.hypothetical activation).slot? slot =
              conversation.tracker.slot? slot) ∧
        ((∀ event ∈ taken, event.slotValue? slot = none) →
          after.tracker.slot? slot = conversation.tracker.slot? slot) := by
  obtain rfl := built.form_name declared
  rcases exists_run_of_executeForm executed with ⟨same, found, run, recorded⟩
  cases declared.symm.trans found
  rcases FormSpec.run_of_submission telling run with ⟨activation, activates, validates, complete⟩
  have takenPlain := (FormSpec.obtained_of_validate validates).isPlain_of_isTelling telling
  have activationPlain := FormSpec.isPlain_activation
    (fun _ obtained => obtained.isPlain_of_isTelling telling) activates
  refine ⟨activation, activates, validates, ?_⟩
  intro slot required
  have differs : slot ≠ requestedSlot := fun equal => unasked (equal ▸ required)
  rw [recorded, FormSpec.slot?_extend_submission takenPlain differs]
  refine ⟨complete slot required, ?_, ?_⟩
  · exact Tracker.slot?_extend_eq_iff activationPlain takenPlain conversation.tracker
  · intro quiet
    exact Tracker.slot?_extend_of_quiet takenPlain quiet conversation.tracker

/-- The user gives the last missing slot of an active form, and the validation action
rewrites it. -/
theorem executeForm_of_submission_of_answer :
    let book : FormSpec := { name := "book", requiredSlots := ["time", "people"] }
    let domain := (((Domain.empty.withSlot { name := "time", type := .text }).withSlot
      { name := "people", type := .any }).withForm book).withActions ["action_validate_book"]
    let taken := [Event.slotSet "people" (.string "two")]
    let executor : Executor := fun _ _ _ => .ok { events := taken }
    let conversation : Conversation := {
      tracker := Tracker.ofEvents "user" domain.slotSchema [
        .action "book", .formActivated "book", .slotSet "time" (.string "noon"),
        .slotSet requestedSlot (.string "people"), .listen,
        .user (UserMessage.withEntity {} { entity := "people", value := .string "a couple" })] }
    let after := (conversation.executeForm executor domain "book").1
    executor.IsTelling (validationAction "book") domain ∧
      conversation.executeForm executor domain "book" =
        (after, .ok (.completed (taken ++ FormSpec.deactivation))) ∧
      after.tracker.slot? "time" = some (.string "noon") ∧
      after.tracker.slot? "people" = some (.string "two") := by
  intro book domain taken executor conversation after
  have built : domain.Built :=
    (((Domain.Built.empty.withSlot _).withSlot _).withForm book).withActions _
  have telling : executor.IsTelling (validationAction "book") domain := by
    rintro query answer ⟨⟩ event member
    obtain rfl := List.mem_singleton.mp member
    rfl
  have declared : domain.form? "book" = some book := rfl
  have executed : conversation.executeForm executor domain "book" =
      (after, .ok (.completed (taken ++ FormSpec.deactivation))) := by
    subst after conversation executor taken domain book
    rfl
  rcases executeForm_of_submission built declared (by decide) telling executed with
    ⟨activation, activates, _, agrees⟩
  cases activates
  refine ⟨telling, executed, ?_, ?_⟩
  · rw [(agrees "time" (by decide)).2.1.mpr (.inr rfl)]
    rfl
  · rw [(agrees "people" (by decide)).2.1.mpr (.inl ⟨_, List.mem_singleton_self _, by decide⟩)]
    rfl

/-- The assistant has spoken since the user did, so the run does not look at the message.
The validation action sets the missing slot when it is asked about the one that is set.
The form submits for that reason, and drops the answer. -/
theorem not_executeForm_of_submission_of_dropped_answer :
    let book : FormSpec := { name := "book", requiredSlots := ["time", "people"] }
    let domain := (((Domain.empty.withSlot { name := "time", type := .text }).withSlot
      { name := "people", type := .any }).withForm book).withActions ["action_validate_book"]
    let executor : Executor := fun _ _ _ =>
      .ok { events := [Event.slotSet "people" (.string "two")] }
    let conversation : Conversation := {
      tracker := Tracker.ofEvents "user" domain.slotSchema [
        .slotSet "time" (.string "noon"), .listen, .user (UserMessage.ofText "a table"),
        .action "utter_sure"] }
    executor.IsTelling (validationAction "book") domain ∧
      requestedSlot ∉ book.requiredSlots ∧
      ∃ after, conversation.executeForm executor domain "book" =
          (after, .ok (.completed FormSpec.deactivation)) ∧
        "people" ∈ book.requiredSlots ∧ after.tracker.slot? "people" = none := by
  refine ⟨?_, by decide, _, rfl, by decide, rfl⟩
  rintro query answer ⟨⟩ event member
  obtain rfl := List.mem_singleton.mp member
  rfl

end Conversation

end Dialogue
