import Dialogue.Proofs.Domain.Built
import Dialogue.Proofs.Form.Validated
import Dialogue.Session.Basic

/-!
# Cancellation by the validation action

A validation action cancels its form by an answer that leaves the loop.  After such an
answer no loop is active.  If the action was asked about the latest message, the answer
is all that the run records.  If it was asked when the form was activated, the run goes
on all the same: it skips the message and then asks its next question, or submits.
-/

namespace Dialogue

namespace FormSpec

variable {form : FormSpec} {executor : Executor} {domain : Domain} {tracker query : Tracker}
  {response : ActionResponse}

theorem validate_of_no_loop {activated started : Tracker}
    (left : activated.state.activeLoop = none) :
    form.validate executor domain activated started = .ok (.completed []) := by
  rw [validate, Tracker.loopValidates, left]
  simp

/-- After an answer that cancels, no loop is active, whatever was active before. -/
theorem foldl_loopAfter_intoEvents
    (restrained : ∀ event ∈ response.events, event.isRestrained = true)
    (cancels : response.cancels = true) (loop : Option ActiveLoop) :
    response.intoEvents.foldl DialogueState.loopAfter loop = none := by
  rw [foldl_loopAfter_of_isRestrained
      fun event member => ActionResponse.isRestrained_of_mem_intoEvents restrained member,
    ActionResponse.any_isDeactivation_intoEvents, cancels, if_pos rfl]

theorem isPlain_intoEvents (restrained : ∀ event ∈ response.events, event.isRestrained = true) :
    ∀ event ∈ response.intoEvents, event.isPlain = true := by
  intro event member
  exact Event.isPlain_of_isRestrained
    (ActionResponse.isRestrained_of_mem_intoEvents restrained member)

theorem isPlain_deactivation : ∀ event ∈ deactivation, event.isPlain = true := by
  intro event member
  rcases List.mem_pair.mp member with rfl | rfl <;> rfl

/-- A cancelled answer about the latest message is the outcome. -/
theorem run_of_message_cancelled {activation : List Event}
    (activates : form.activateIfRequired executor domain tracker = .ok (.completed activation))
    (asked : form.messageQuery? domain (tracker.hypothetical activation) tracker = some query)
    (answered : executor (validationAction form.name) query domain = .ok response)
    (cancels : response.cancels = true) :
    form.run executor domain tracker = .ok (.completed response.intoEvents) := by
  have validates : form.validate executor domain (tracker.hypothetical activation) tracker =
      .ok (.completed response.intoEvents) := by
    rw [validate_of_query asked, consult_of_answer answered]
  have concludes : form.conclude activation response.intoEvents
      (tracker.hypothetical activation) = response.intoEvents := by
    rw [conclude, ActionResponse.any_isDeactivation_intoEvents, if_pos cancels]
  simp only [run, activates, validates, concludes]

/-- After a cancelled answer about the slots that are set, the run goes on without a
look at the message. -/
theorem run_of_activation_cancelled
    (restrained : ∀ event ∈ response.events, event.isRestrained = true)
    (asked : form.activationQuery? domain tracker = some query)
    (answered : executor (validationAction form.name) query domain = .ok response)
    (cancels : response.cancels = true) :
    form.run executor domain tracker =
      .ok (.completed (form.conclude (Event.formActivated form.name :: response.intoEvents) []
        (tracker.hypothetical (Event.formActivated form.name :: response.intoEvents)))) := by
  have activates : form.activateIfRequired executor domain tracker =
      .ok (.completed (Event.formActivated form.name :: response.intoEvents)) := by
    rw [activateIfRequired_of_query asked, consult_of_answer answered]
  have left : (tracker.hypothetical
      (Event.formActivated form.name :: response.intoEvents)).state.activeLoop = none := by
    have plain : ∀ event ∈ Event.formActivated form.name :: response.intoEvents,
        event.isPlain = true :=
      List.forall_mem_cons.mpr ⟨rfl, isPlain_intoEvents restrained⟩
    rw [Tracker.hypothetical, Tracker.extend_activeLoop_of_isPlain plain, List.foldl_cons]
    exact foldl_loopAfter_intoEvents restrained cancels _
  simp only [run, activates, validate_of_no_loop left]

/-- The events with which a run ends after a cancelled answer about the slots that are
set: a question, or the submission. -/
theorem conclude_nil_cases (activation : List Event) (activated : Tracker) :
    (∃ slot ∈ form.requiredSlots, activated.slot? slot = none ∧
      form.conclude activation [] activated =
        activation ++ [Event.slotSet requestedSlot (.string slot)]) ∨
    ((∀ slot ∈ form.requiredSlots, activated.slot? slot ≠ none) ∧
      form.conclude activation [] activated = deactivation) := by
  cases decision : form.requiredSlots.find? fun slot => (activated.slot? slot).isNone with
  | some slot =>
      left
      refine ⟨slot, List.mem_of_find?_eq_some decision, ?_, ?_⟩
      · simpa using List.find?_some decision
      · simp [conclude, requestNextSlot, Tracker.hypothetical, decision]
  | none =>
      right
      constructor
      · intro slot required
        simpa using List.find?_eq_none.mp decision slot required
      · simp [conclude, requestNextSlot, Tracker.hypothetical, decision]

end FormSpec

namespace Conversation

theorem executeForm_of_run {domain : Domain} {form : FormSpec}
    (declared : domain.form? form.name = some form) {executor : Executor}
    {conversation : Conversation} {events : List Event}
    (run : form.run executor domain conversation.tracker = .ok (.completed events)) :
    conversation.executeForm executor domain form.name =
      (conversation.append (Event.action form.name :: events), .ok (.completed events)) := by
  rw [executeForm, Domain.runForm, declared]
  simp only [run]
  rfl

/-- The loop after an executed action depends on the loop before and on the events. -/
theorem append_action_activeLoop (conversation : Conversation) (name : String)
    {events : List Event} (plain : ∀ event ∈ events, event.isPlain = true) :
    (conversation.append (Event.action name :: events)).tracker.state.activeLoop =
      events.foldl DialogueState.loopAfter
        (conversation.tracker.state.activeLoop.map fun active => active.afterAction name) := by
  have allPlain : ∀ event ∈ Event.action name :: events, event.isPlain = true :=
    List.forall_mem_cons.mpr ⟨rfl, plain⟩
  exact Tracker.extend_activeLoop_of_isPlain allPlain conversation.tracker

variable {domain : Domain} {form : FormSpec} (declared : domain.form? form.name = some form)
  {executor : Executor} {conversation : Conversation} {query : Tracker}
  {response : ActionResponse}
  (restrained : ∀ event ∈ response.events, event.isRestrained = true)
  (answered : executor (validationAction form.name) query domain = .ok response)
  (cancels : response.cancels = true)

include declared restrained answered cancels

theorem executeForm_of_message_cancelled {activation : List Event}
    (activates : form.activateIfRequired executor domain conversation.tracker =
      .ok (.completed activation))
    (asked : form.messageQuery? domain (conversation.tracker.hypothetical activation)
      conversation.tracker = some query) :
    ∃ after, conversation.executeForm executor domain form.name =
        (after, .ok (.completed response.intoEvents)) ∧
      after.tracker.state.activeLoop = none := by
  have run := FormSpec.run_of_message_cancelled activates asked answered cancels
  refine ⟨_, executeForm_of_run declared run, ?_⟩
  rw [append_action_activeLoop _ _ (FormSpec.isPlain_intoEvents restrained)]
  exact FormSpec.foldl_loopAfter_intoEvents restrained cancels _

theorem executeForm_of_activation_cancelled
    (asked : form.activationQuery? domain conversation.tracker = some query) :
    ∃ after events, conversation.executeForm executor domain form.name =
        (after, .ok (.completed events)) ∧
      after.tracker.state.activeLoop = none ∧
      ((∃ slot ∈ form.requiredSlots,
          events = Event.formActivated form.name :: response.intoEvents
            ++ [Event.slotSet requestedSlot (.string slot)]) ∨
        events = FormSpec.deactivation) := by
  have run := FormSpec.run_of_activation_cancelled restrained asked answered cancels
  rcases FormSpec.conclude_nil_cases _ _ with
    ⟨slot, required, _, question⟩ | ⟨_, submission⟩
  · rw [question] at run
    have plain : ∀ event ∈ Event.formActivated form.name :: response.intoEvents
        ++ [Event.slotSet requestedSlot (.string slot)], event.isPlain = true :=
      List.forall_mem_append.mpr
        ⟨List.forall_mem_cons.mpr ⟨rfl, FormSpec.isPlain_intoEvents restrained⟩,
          List.forall_mem_singleton.mpr rfl⟩
    refine ⟨_, _, executeForm_of_run declared run, ?_, .inl ⟨slot, required, rfl⟩⟩
    rw [append_action_activeLoop _ _ plain, List.cons_append, List.foldl_cons, List.foldl_append,
      FormSpec.foldl_loopAfter_intoEvents restrained cancels]
    -- The question does not bring back the loop that the answer has left.
    rfl
  · rw [submission] at run
    refine ⟨_, _, executeForm_of_run declared run, ?_, .inr rfl⟩
    rw [append_action_activeLoop _ _ FormSpec.isPlain_deactivation]
    rfl

omit declared restrained answered cancels

/-- A run during which the validation action cancels the form completes and leaves no
loop active.  It records the answer and no question, unless the action was asked when
the form was activated; then a question or the submission is recorded. -/
theorem executeForm_of_cancelled (built : domain.Built) {name : String}
    (declared : domain.form? name = some form)
    (restrained : executor.IsRestrained (validationAction name) domain)
    (consulted : form.Consults executor domain conversation.tracker query)
    (answered : executor (validationAction name) query domain = .ok response)
    (cancels : response.cancels = true) :
    ∃ after events,
      conversation.executeForm executor domain name = (after, .ok (.completed events)) ∧
      after.tracker.state.activeLoop = none ∧
      ((events = response.intoEvents ∧
          ∀ event ∈ events, ∀ value, event.change ≠ .slotSet requestedSlot value) ∨
        (form.activationQuery? domain conversation.tracker = some query ∧
          ((∃ slot ∈ form.requiredSlots,
              events = Event.formActivated name :: response.intoEvents
                ++ [Event.slotSet requestedSlot (.string slot)]) ∨
            events = FormSpec.deactivation))) := by
  obtain rfl := built.form_name declared
  have modest := restrained query response answered
  cases consulted with
  | validating activates asked =>
      obtain ⟨after, executed, left⟩ :=
        executeForm_of_message_cancelled declared modest answered cancels activates asked
      refine ⟨after, _, executed, left, .inl ⟨rfl, ?_⟩⟩
      intro event member value
      exact Event.change_ne_slotSet_requestedSlot
        (ActionResponse.isRestrained_of_mem_intoEvents modest member) value
  | activating asked =>
      obtain ⟨after, events, executed, left, shape⟩ :=
        executeForm_of_activation_cancelled declared modest answered cancels asked
      exact ⟨after, events, executed, left, .inr ⟨asked, shape⟩⟩

/-- The user has answered the question for the time, and the validation action cancels. -/
theorem executeForm_of_cancelled_answer :
    let book : FormSpec := { name := "book", requiredSlots := ["time", "people"] }
    let domain := ((Domain.empty.withSlot { name := "time", type := .text }).withForm
      book).withActions ["action_validate_book"]
    let response : ActionResponse := { events := [Event.formDeactivated] }
    let executor : Executor := fun _ _ _ => .ok response
    let conversation : Conversation := {
      tracker := Tracker.ofEvents "user" domain.slotSchema [
        .action "book", .formActivated "book", .slotSet requestedSlot (.string "time"), .listen,
        .user (UserMessage.withEntity {} { entity := "time", value := .string "noon" })] }
    executor.IsRestrained (validationAction "book") domain ∧
      (∃ query, book.Consults executor domain conversation.tracker query) ∧
      response.cancels = true ∧
      ∃ after, conversation.executeForm executor domain "book" =
          (after, .ok (.completed [Event.formDeactivated])) ∧
        after.tracker.state.activeLoop = none := by
  intro book domain response executor conversation
  have built : domain.Built := ((Domain.Built.empty.withSlot _).withForm _).withActions _
  have restrained : executor.IsRestrained (validationAction "book") domain := by
    rintro query answer ⟨⟩ event member
    obtain rfl := List.mem_singleton.mp member
    rfl
  have asked : book.messageQuery? domain (conversation.tracker.hypothetical [])
      conversation.tracker =
        some (conversation.tracker.hypothetical [Event.slotSet "time" (.string "noon")]) :=
    if_pos ⟨by decide, rfl, .inr (List.cons_ne_nil _ _)⟩
  have consulted : book.Consults executor domain conversation.tracker _ := .validating rfl asked
  obtain ⟨after, events, executed, left, ⟨rfl, _⟩ | ⟨activating, _⟩⟩ :=
    executeForm_of_cancelled built (by rfl) restrained consulted rfl rfl
  · exact ⟨restrained, ⟨_, consulted⟩, rfl, after, executed, left⟩
  · have active : book.activationQuery? domain conversation.tracker = none :=
      if_neg fun queried => queried.2.1 rfl
    cases active.symm.trans activating

/-- The time is known before the form starts, and the validation action cancels when it is
asked about it.  The outcome holds a question all the same, and no loop waits for the
answer. -/
theorem not_executeForm_of_cancelled_activation :
    let book : FormSpec := { name := "book", requiredSlots := ["time", "people"] }
    let domain := ((Domain.empty.withSlot { name := "time", type := .text }).withForm
      book).withActions ["action_validate_book"]
    let response : ActionResponse := { events := [Event.formDeactivated] }
    let executor : Executor := fun _ _ _ => .ok response
    let conversation : Conversation := {
      tracker := Tracker.ofEvents "user" domain.slotSchema [
        .slotSet "time" (.string "noon"), .listen, .user (UserMessage.withIntent {} "book")] }
    executor.IsRestrained (validationAction "book") domain ∧
      (∃ query, book.Consults executor domain conversation.tracker query) ∧
      response.cancels = true ∧
      ∃ after, conversation.executeForm executor domain "book" =
          (after, .ok (.completed [.formActivated "book", .formDeactivated,
            .slotSet requestedSlot (.string "people")])) ∧
        after.tracker.state.activeLoop = none ∧
        after.tracker.slot? requestedSlot = some (.string "people") := by
  refine ⟨?_, ⟨_, .activating (if_pos ⟨by decide, by decide, List.cons_ne_nil _ _⟩)⟩, rfl,
    _, rfl, rfl, rfl⟩
  rintro query answer ⟨⟩ event member
  obtain rfl := List.mem_singleton.mp member
  rfl

end Conversation

end Dialogue
