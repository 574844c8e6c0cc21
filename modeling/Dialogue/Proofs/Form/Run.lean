import Dialogue.Proofs.Form.Validated
import Dialogue.Session.Basic

/-!
# Completed runs

A run that completes has activated its form, has taken over values or an answer of its
validation action, and ends in one of three ways: the answer about the message has left
the loop, or the form asks for a slot, or it submits.  `FormSpec.Obtained` says where the
events of the first two steps come from, and `FormSpec.Ends` lists the three endings.
-/

namespace Dialogue

namespace FormSpec

/-- The events that a run takes over in a step: values as they are, or an answer of the
validation action. -/
inductive Obtained (form : FormSpec) (executor : Executor) (domain : Domain) :
    List Event → Prop where
  | values (values : List (String × Json)) : Obtained form executor domain (slotEvents values)
  | answer {query : Tracker} {response : ActionResponse}
      (answered : executor (validationAction form.name) query domain = .ok response) :
      Obtained form executor domain response.intoEvents

/-- How a run ends that has activated its form and has validated the message. -/
inductive Ends (form : FormSpec) (activation validation : List Event) (activated : Tracker) :
    List Event → Prop where
  | cancelled (leaves : validation.any Event.isDeactivation = true) :
      Ends form activation validation activated validation
  | question (stays : validation.any Event.isDeactivation = false) {slot : String}
      (required : slot ∈ form.requiredSlots)
      (unset : (activated.hypothetical validation).slot? slot = none) :
      Ends form activation validation activated
        (activation ++ validation ++ [Event.slotSet requestedSlot (.string slot)])
  | submission (stays : validation.any Event.isDeactivation = false)
      (complete : ∀ slot ∈ form.requiredSlots,
        (activated.hypothetical validation).slot? slot ≠ none) :
      Ends form activation validation activated (validation ++ deactivation)

variable {form : FormSpec} {executor : Executor} {domain : Domain} {tracker : Tracker}
  {events : List Event}

/-- A submission is no question: its last event withdraws the question asked last. -/
theorem append_deactivation_ne_question (taken before : List Event) (slot : String) :
    taken ++ deactivation ≠ before ++ [Event.slotSet requestedSlot (.string slot)] := by
  intro equal
  have last := congrArg List.getLast? equal
  have withdrawn : (taken ++ deactivation).getLast? =
      some (Event.slotSet requestedSlot .null) := by simp [deactivation]
  rw [withdrawn, List.getLast?_concat] at last
  cases last

/-! ## Inversion of the steps -/

theorem exists_answer_of_consult {query : Tracker}
    (consulted : form.consult executor domain query = .ok (.completed events)) :
    ∃ response, executor (validationAction form.name) query domain = .ok response ∧
      events = response.intoEvents := by
  unfold consult RemoteAction.run at consulted
  cases answered : executor (validationAction form.name) query domain with
  | ok response =>
      simp only [answered] at consulted
      cases consulted
      exact ⟨response, rfl, rfl⟩
  | error failure =>
      rw [answered] at consulted
      cases failure <;> cases consulted

theorem obtained_of_consult {query : Tracker}
    (consulted : form.consult executor domain query = .ok (.completed events)) :
    form.Obtained executor domain events := by
  rcases exists_answer_of_consult consulted with ⟨response, answered, rfl⟩
  exact .answer answered

theorem obtained_of_validateSlots {values : List (String × Json)}
    (validated : form.validateSlots executor domain values tracker = .ok (.completed events)) :
    form.Obtained executor domain events := by
  unfold validateSlots at validated
  dsimp only at validated
  split at validated
  · exact obtained_of_consult validated
  · cases validated
    exact .values values

theorem obtained_of_validate {activated started : Tracker}
    (validated : form.validate executor domain activated started = .ok (.completed events)) :
    form.Obtained executor domain events := by
  unfold validate at validated
  split at validated
  · dsimp only at validated
    split at validated
    · cases validated
    · exact obtained_of_validateSlots validated
  · cases validated
    exact .values []

/-- An activation records nothing if the form is active already, and else begins with the
activation event. -/
theorem activation_cases
    (activates : form.activateIfRequired executor domain tracker = .ok (.completed events)) :
    (tracker.activeLoopName = some form.name ∧ events = []) ∨
      ∃ rest, events = Event.formActivated form.name :: rest ∧
        form.Obtained executor domain rest := by
  cases asked : form.activationQuery? domain tracker with
  | none =>
      rw [activateIfRequired_of_no_query asked] at activates
      cases activates
      unfold activation
      split
      · rename_i active
        exact .inl ⟨active, rfl⟩
      · exact .inr ⟨_, rfl, .values _⟩
  | some query =>
      rw [activateIfRequired_of_query asked] at activates
      split at activates
      · rename_i rest consulted
        cases activates
        exact .inr ⟨rest, rfl, obtained_of_consult consulted⟩
      · rename_i result incomplete
        exact absurd activates (incomplete _)

/-- The events of an activation are plain if those are that were taken over. -/
theorem isPlain_activation
    (plain : ∀ taken, form.Obtained executor domain taken → ∀ event ∈ taken, event.isPlain = true)
    (activates : form.activateIfRequired executor domain tracker = .ok (.completed events)) :
    ∀ event ∈ events, event.isPlain = true := by
  rcases activation_cases activates with ⟨_, rfl⟩ | ⟨rest, rfl, obtained⟩
  · simp
  · exact List.forall_mem_cons.mpr ⟨rfl, plain rest obtained⟩

/-- A run completes exactly if its activation and its validation do. -/
theorem run_eq_completed_iff :
    form.run executor domain tracker = .ok (.completed events) ↔
      ∃ activation validation,
        form.activateIfRequired executor domain tracker = .ok (.completed activation) ∧
        form.validate executor domain (tracker.hypothetical activation) tracker =
          .ok (.completed validation) ∧
        events = form.conclude activation validation (tracker.hypothetical activation) := by
  constructor
  · intro run
    unfold FormSpec.run at run
    split at run
    · rename_i activation activates
      dsimp only at run
      split at run
      · rename_i validation validates
        cases run
        exact ⟨activation, validation, activates, validates, rfl⟩
      · rename_i result incomplete
        exact absurd run (incomplete _)
    · rename_i result incomplete
      exact absurd run (incomplete _)
  · rintro ⟨activation, validation, activates, validates, rfl⟩
    simp only [FormSpec.run, activates, validates]

theorem ends_conclude (form : FormSpec) (activation validation : List Event)
    (activated : Tracker) :
    form.Ends activation validation activated
      (form.conclude activation validation activated) := by
  unfold conclude
  split
  · rename_i leaves
    exact .cancelled leaves
  · rename_i stays
    have stays : validation.any Event.isDeactivation = false := by simpa using stays
    unfold requestNextSlot
    cases decision : form.requiredSlots.find? fun slot =>
        ((activated.hypothetical validation).slot? slot).isNone with
    | some slot =>
        exact .question stays (List.mem_of_find?_eq_some decision)
          (by simpa using List.find?_some decision)
    | none =>
        exact .submission stays fun slot required => by
          simpa using List.find?_eq_none.mp decision slot required

/-- A completed run has activated its form, has validated the message and has ended. -/
theorem run_completed_cases
    (run : form.run executor domain tracker = .ok (.completed events)) :
    ∃ activation validation,
      form.activateIfRequired executor domain tracker = .ok (.completed activation) ∧
      form.validate executor domain (tracker.hypothetical activation) tracker =
        .ok (.completed validation) ∧
      form.Ends activation validation (tracker.hypothetical activation) events := by
  rcases run_eq_completed_iff.mp run with ⟨activation, validation, activates, validates, rfl⟩
  exact ⟨activation, validation, activates, validates, ends_conclude form _ _ _⟩

end FormSpec

namespace Conversation

variable {conversation after : Conversation} {executor : Executor} {domain : Domain}
  {name : String}

/-- A form that completes is declared, and its action is recorded before its events. -/
theorem exists_run_of_executeForm {events : List Event}
    (executed : conversation.executeForm executor domain name =
      (after, .ok (.completed events))) :
    ∃ form, domain.form? name = some form ∧
      form.run executor domain conversation.tracker = .ok (.completed events) ∧
      after.tracker = conversation.tracker.extend (Event.action name :: events) := by
  unfold executeForm Domain.runForm at executed
  cases declared : domain.form? name with
  | none =>
      rw [declared] at executed
      cases executed
  | some form =>
      rw [declared] at executed
      dsimp only at executed
      cases run : form.run executor domain conversation.tracker with
      | error failure =>
          rw [run] at executed
          cases executed
      | ok outcome =>
          rw [run] at executed
          cases executed
          exact ⟨form, rfl, run, rfl⟩

/-- A form that does not complete records its rejection at most. -/
theorem executeForm_of_incomplete {result : Except ActionError ActionOutcome}
    (executed : conversation.executeForm executor domain name = (after, result))
    (incomplete : ∀ events, result ≠ .ok (.completed events)) :
    after = conversation ∨ ∃ rejection : Rejection,
      after = conversation.append [rejection.event] := by
  unfold executeForm settle at executed
  split at executed
  · rename_i outcome run
    cases outcome with
    | completed events =>
        cases executed
        exact absurd rfl (incomplete events)
    | rejected rejection =>
        cases executed
        exact .inr ⟨rejection, rfl⟩
  · cases executed
    exact .inl rfl

end Conversation

end Dialogue
