import Dialogue.Proofs.Form.Turn

/-!
# Switching between forms

All forms share the slot for the question asked last.  A run of a form without a
validation action reads nothing else that another form has left behind: it sets its own
slots, that shared slot, and the slot whose name the shared slot holds, and it is
rejected only for the sake of that slot.  So a form is isolated from the others as long
as no question is open when it is activated.
-/

namespace Dialogue

namespace FormSpec

variable (form : FormSpec) (domain : Domain) (tracker : Tracker)

/-- The event sets no slots but those of the form, the slot for the question asked last,
and the slot that was asked for. -/
def SetsOwn (event : Event) : Prop :=
  ∀ slot value, event.change = .slotSet slot value →
    slot ∈ form.requiredSlots ∨ slot = requestedSlot ∨ tracker.requestedSlotName = some slot

variable {form domain tracker}

theorem setsOwn_slotEvents {values : List (String × Json)}
    (own : ∀ pair ∈ values, pair.1 ∈ form.requiredSlots ∨
      tracker.requestedSlotName = some pair.1)
    {event : Event} (member : event ∈ slotEvents values) : form.SetsOwn tracker event := by
  obtain ⟨⟨name, held⟩, listed, rfl⟩ := List.mem_map.mp member
  rintro slot value ⟨⟩
  rcases own _ listed with required | asked
  · exact .inl required
  · exact .inr (.inr asked)

theorem required_of_mem_prefilled {pair : String × Json} (member : pair ∈ form.prefilled tracker) :
    pair.1 ∈ form.requiredSlots := by
  obtain ⟨slot, required, found⟩ := List.mem_filterMap.mp member
  obtain ⟨value, _, rfl⟩ := Option.map_eq_some_iff.mp found
  exact required

theorem required_or_asked_of_mem_extracted {pair : String × Json}
    (member : pair ∈ form.extracted domain tracker) :
    pair.1 ∈ form.requiredSlots ∨ tracker.requestedSlotName = some pair.1 := by
  rcases List.mem_append.mp member with other | requested
  · obtain ⟨slot, kept, found⟩ := List.mem_filterMap.mp other
    obtain ⟨value, _, rfl⟩ := Option.map_eq_some_iff.mp found
    exact .inl (List.mem_filter.mp kept).1
  · obtain ⟨slot, asked, found⟩ := Option.bind_eq_some_iff.mp (Option.mem_toList.mp requested)
    obtain ⟨value, _, rfl⟩ := Option.map_eq_some_iff.mp found
    exact .inr asked

theorem setsOwn_activation {event : Event} (member : event ∈ form.activation tracker) :
    form.SetsOwn tracker event := by
  unfold activation at member
  split at member
  · simp at member
  · rcases List.mem_cons.mp member with rfl | prefilled
    · rintro slot value ⟨⟩
    · exact setsOwn_slotEvents (fun _ listed => .inl (required_of_mem_prefilled listed)) prefilled

theorem setsOwn_accepted {event : Event}
    (member : event ∈ slotEvents (form.accepted domain tracker)) :
    form.SetsOwn tracker event := by
  refine setsOwn_slotEvents ?_ member
  intro pair listed
  unfold accepted at listed
  split at listed
  · exact required_or_asked_of_mem_extracted listed
  · simp at listed

theorem setsOwn_question {slot : String} {event : Event}
    (member : event ∈ form.questionEvents domain tracker slot) : form.SetsOwn tracker event := by
  rcases List.mem_append.mp member with earlier | asked
  · rcases List.mem_append.mp earlier with activating | taken
    · exact setsOwn_activation activating
    · exact setsOwn_accepted taken
  · obtain rfl := List.mem_singleton.mp asked
    rintro slot value ⟨⟩
    exact .inr (.inl rfl)

theorem setsOwn_submission {event : Event}
    (member : event ∈ form.submissionEvents domain tracker) : form.SetsOwn tracker event := by
  rcases List.mem_append.mp member with taken | leaving
  · exact setsOwn_accepted taken
  · rcases List.mem_pair.mp leaving with rfl | rfl
    · rintro slot value ⟨⟩
    · rintro slot value ⟨⟩
      exact .inr (.inl rfl)

/-- A run that completes asks or submits. -/
theorem run_cases (unvalidated : domain.hasAction (validationAction form.name) = false)
    (executor : Executor) :
    (∃ slot, tracker.requestedSlotName = some slot ∧
      form.run executor domain tracker = .ok (.rejected (form.extractionFailure slot))) ∨
    (∃ slot, form.run executor domain tracker =
      .ok (.completed (form.questionEvents domain tracker slot))) ∨
    form.run executor domain tracker =
      .ok (.completed (form.submissionEvents domain tracker)) := by
  by_cases starves : form.Starves domain tracker
  · exact .inl (run_of_starves unvalidated executor starves)
  · right
    rw [run_of_not_starves unvalidated executor starves]
    cases decision : form.requiredSlots.find? fun slot =>
        ((form.decisive domain tracker).slot? slot).isNone with
    | some slot =>
        rw [form.conclude_of_find?_eq_some domain tracker decision]
        exact .inl ⟨slot, rfl⟩
    | none =>
        rw [form.conclude_of_find?_eq_none domain tracker decision]
        exact .inr rfl

end FormSpec

/-- A run never fails, is rejected only for a slot that was asked for, and sets no slots
but its own and that one.  If no question is open, it is therefore not rejected, and sets
only the slots that the form requires and the slot for the question asked last. -/
theorem Domain.runForm_isolated {domain : Domain} (built : domain.Built) {name : String}
    {form : FormSpec} (declared : domain.form? name = some form)
    (unvalidated : domain.hasAction (validationAction name) = false)
    (executor : Executor) (tracker : Tracker) :
    ∃ outcome, domain.runForm executor name tracker = .ok outcome ∧
      (∀ rejection, outcome = .rejected rejection → ∃ slot,
        tracker.requestedSlotName = some slot ∧ rejection = form.extractionFailure slot) ∧
      ∀ event ∈ outcome.events, ∀ slot value, event.change = .slotSet slot value →
        slot ∈ form.requiredSlots ∨ slot = requestedSlot ∨
          tracker.requestedSlotName = some slot := by
  obtain rfl := built.form_name declared
  have run : domain.runForm executor form.name tracker = form.run executor domain tracker := by
    rw [runForm, declared]
  rw [run]
  rcases FormSpec.run_cases unvalidated executor with
    ⟨asked, open?, rejected⟩ | ⟨asked, question⟩ | submission
  · refine ⟨_, rejected, ?_, by simp [ActionOutcome.events]⟩
    rintro rejection ⟨⟩
    exact ⟨asked, open?, rfl⟩
  · refine ⟨_, question, by simp, ?_⟩
    intro event member
    exact FormSpec.setsOwn_question member
  · refine ⟨_, submission, by simp, ?_⟩
    intro event member
    exact FormSpec.setsOwn_submission member

/-- The first form was left before the second one starts, so no question is open. -/
theorem Domain.runForm_isolated_after_cancellation :
    let survey : FormSpec := { name := "survey", requiredSlots := ["rating"] }
    let domain := (((Domain.empty.withSlot { name := "time", type := .text }).withSlot
      { name := "rating", type := .any }).withForm
        { name := "book", requiredSlots := ["time"] }).withForm survey
    let tracker := Tracker.ofEvents "user" domain.slotSchema ([
      .action "book", .formActivated "book", .slotSet requestedSlot (.string "time"),
      .listen, .user (UserMessage.withIntent {} "stop")] ++ FormSpec.deactivation)
    domain.hasAction (validationAction "survey") = false ∧
      tracker.activeLoopName = none ∧
      ∃ outcome, domain.runForm (fun action _ _ => .error (.unstubbed action)) "survey" tracker =
          .ok outcome ∧
        (∀ rejection, outcome ≠ .rejected rejection) ∧
        ∀ event ∈ outcome.events, ∀ slot value, event.change = .slotSet slot value →
          slot = "rating" ∨ slot = requestedSlot := by
  intro survey domain tracker
  have built : domain.Built :=
    (((Domain.Built.empty.withSlot _).withSlot _).withForm _).withForm survey
  have closed : tracker.requestedSlotName = none := rfl
  have unvalidated : domain.hasAction (validationAction "survey") = false := by decide
  have declared : domain.form? "survey" = some survey := by
    simp [domain, survey, form?, withForm]
  obtain ⟨outcome, run, rejected, sets⟩ := runForm_isolated built declared unvalidated
    (fun action _ _ => .error (.unstubbed action)) tracker
  refine ⟨unvalidated, rfl, outcome, run, ?_, ?_⟩
  · intro rejection equal
    obtain ⟨slot, asked, _⟩ := rejected rejection equal
    simp [closed] at asked
  · intro event member slot value change
    rcases sets event member slot value change with required | requested | asked
    · exact .inl (List.mem_singleton.mp required)
    · exact .inr requested
    · simp [closed] at asked

/-- The first form waits for an answer.  An answer without a value makes the second form
fail for a slot that it does not have, and one with a value makes it set that slot. -/
theorem Domain.not_runForm_isolated_of_open_question :
    let survey : FormSpec := { name := "survey", requiredSlots := ["rating"] }
    let domain := (((Domain.empty.withSlot { name := "time", type := .text }).withSlot
      { name := "rating", type := .any }).withForm
        { name := "book", requiredSlots := ["time"] }).withForm survey
    let executor : Executor := fun action _ _ => .error (.unstubbed action)
    let after := fun message => Tracker.ofEvents "user" domain.slotSchema [
      .action "book", .formActivated "book", .slotSet requestedSlot (.string "time"),
      .listen, .user message]
    let unanswered := after (UserMessage.withIntent {} "rate")
    let answered := after (UserMessage.withEntity {} { entity := "time", value := .string "noon" })
    domain.hasAction (validationAction "survey") = false ∧
      unanswered.activeLoopName = some "book" ∧ answered.activeLoopName = some "book" ∧
      domain.runForm executor "survey" unanswered =
        .ok (.rejected (survey.extractionFailure "time")) ∧
      domain.runForm executor "survey" answered =
        .ok (.completed [.formActivated "survey", .slotSet "time" (.string "noon"),
          .slotSet requestedSlot (.string "rating")]) :=
  ⟨by decide, rfl, rfl, rfl, rfl⟩

end Dialogue
