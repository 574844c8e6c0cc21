import Dialogue.Proofs.Session.Undo
import Dialogue.Session.Basic

/-!
# Reversals are inverses

A state keeps no record of what it was.  All the same, taking the latest action or the
latest message back restores it, because the log in effect is restored and the state is
what that log leads to.  Nothing is assumed of the log before: it may hold reversals and
restarts of its own.
-/

namespace Dialogue

namespace Event

variable {event : Event}

theorem isPlain_of_isAction (isAction : event.isAction = true) : event.isPlain = true := by
  rcases event with ⟨change, _, _⟩
  cases change <;> first | rfl | cases isAction

theorem isPlain_of_isUser (isUser : event.isUser = true) : event.isPlain = true := by
  rcases event with ⟨change, _, _⟩
  cases change <;> first | rfl | cases isUser

theorem isAction_of_change_eq_listen (listens : event.change = listen.change) :
    event.isAction = true := by
  rw [isAction, actionName?, listens]
  rfl

/-- Whether an event takes nothing back and is no step that could be taken back. -/
def isSilent (event : Event) : Bool :=
  event.isPlain && !event.isStep

theorem isSilent_iff :
    event.isSilent = true ↔
      event.isPlain = true ∧ event.isAction = false ∧ event.isUser = false := by
  rw [isSilent, Bool.and_eq_true, Bool.not_eq_true', isStep_eq_false_iff]

end Event

/-! ## The log in effect -/

/-- Taking an action back cancels it with all that it brought about. -/
theorem appliedEvents_revert_action {action undo : Event} {later : List Event}
    (isAction : action.isAction = true)
    (quiet : ∀ event ∈ later, event.isPlain = true ∧ event.isAction = false)
    (takesBack : undo.change = .actionReverted) (log : List Event) :
    appliedEvents (log ++ action :: later ++ [undo]) = appliedEvents log := by
  have plain : ∀ event ∈ action :: later, event.isPlain = true :=
    List.forall_mem_cons.mpr
      ⟨Event.isPlain_of_isAction isAction, fun event member => (quiet event member).1⟩
  rw [appliedEvents_concat_actionReverted takesBack, appliedEvents_append_of_isPlain plain]
  exact cutBack_append_cons (fun event member => (quiet event member).2) isAction _

/-- Taking a message back cancels it with the action before it and with all the actions
that answered it. -/
theorem appliedEvents_revert_message {action message rewind : Event}
    {between later : List Event} (isAction : action.isAction = true)
    (waiting : ∀ event ∈ between, event.isSilent = true) (isUser : message.isUser = true)
    (answering : ∀ event ∈ later, event.isPlain = true ∧ event.isUser = false)
    (takesBack : rewind.change = .utteranceReverted) (log : List Event) :
    appliedEvents (log ++ action :: between ++ message :: later ++ [rewind]) =
      appliedEvents log := by
  have turnPlain : ∀ event ∈ action :: between, event.isPlain = true :=
    List.forall_mem_cons.mpr ⟨Event.isPlain_of_isAction isAction,
      fun event member => (Event.isSilent_iff.mp (waiting event member)).1⟩
  have messagePlain : ∀ event ∈ message :: later, event.isPlain = true :=
    List.forall_mem_cons.mpr
      ⟨Event.isPlain_of_isUser isUser, fun event member => (answering event member).1⟩
  rw [appliedEvents_concat_utteranceReverted takesBack,
    appliedEvents_append_of_isPlain messagePlain, appliedEvents_append_of_isPlain turnPlain,
    cutBack_append_cons (fun event member => (answering event member).2) isUser]
  exact cutBack_append_cons
    (fun event member => (Event.isSilent_iff.mp (waiting event member)).2.1) isAction _

/-! ## Trackers -/

namespace DialogueState

/-- What an event does to the state is decided by its change. -/
theorem apply_congr {left right : Event} (same : left.change = right.change)
    (schema : SlotSchema) (state : DialogueState) :
    state.apply schema left = state.apply schema right := by
  unfold apply
  rw [same]

end DialogueState

namespace Tracker

variable {tracker : Tracker}

/-- A tracker has the state to which its log in effect leads. -/
theorem Coherent.state_eq_foldl (coherent : tracker.Coherent) :
    tracker.state = tracker.applied.foldl (DialogueState.apply tracker.schema)
      (DialogueState.initial tracker.schema) :=
  coherent.state_eq

theorem undo_schema (tracker : Tracker) : tracker.undo.schema = tracker.schema := by
  rw [undo, extend_schema]

theorem latestStep?_extend_action {name : String} {events : List Event}
    (silent : ∀ event ∈ events, event.isSilent = true) (tracker : Tracker) :
    latestStep? (tracker.extend (Event.action name :: events)).events = some .action := by
  rw [extend_events]
  apply latestStep?_append_cons rfl
  intro event member
  rcases Event.isSilent_iff.mp (silent event member) with ⟨plain, noAction, noUser⟩
  rw [Event.isLandmark_eq_isStep plain, Event.isStep_eq_false_iff]
  exact ⟨noAction, noUser⟩

theorem latestStep?_append_message {message : Event} (isUser : message.isUser = true)
    (tracker : Tracker) : latestStep? (tracker.append message).events = some .message := by
  have landmark : message.isLandmark = true := by
    rw [Event.isLandmark, isUser, Bool.or_true, Bool.true_or]
  rw [append_events, latestStep?_append_cons landmark (by simp), Event.stepKind?_of_isUser isUser]

/-- An executed action with silent events is taken back by the next undo. -/
theorem undo_extend_action_applied {name : String} {events : List Event}
    (silent : ∀ event ∈ events, event.isSilent = true) (tracker : Tracker) :
    (tracker.extend (Event.action name :: events)).undo.applied = tracker.applied := by
  have plain : ∀ event ∈ Event.action name :: events, event.isPlain = true :=
    List.forall_mem_cons.mpr
      ⟨rfl, fun event member => (Event.isSilent_iff.mp (silent event member)).1⟩
  have applied : (tracker.extend (Event.action name :: events)).applied =
      tracker.applied ++ Event.action name :: events := by
    rw [Tracker.applied, extend_events, appliedEvents_append_of_isPlain plain, Tracker.applied]
  rw [undo_applied_of_action (latestStep?_extend_action silent tracker), applied]
  exact cutBack_append_cons
    (fun event member => (Event.isSilent_iff.mp (silent event member)).2.1) rfl _

/-- A message for which the assistant waited is taken back by the next undo, which makes
the assistant wait once more. -/
theorem undo_append_message_applied {kept : List Event} {wait message : Event}
    (applied : tracker.applied = kept ++ [wait]) (isAction : wait.isAction = true)
    (isUser : message.isUser = true) :
    (tracker.append message).undo.applied = kept ++ [Event.listen] := by
  have spoken : (tracker.append message).applied = tracker.applied ++ message :: [] := by
    rw [Tracker.applied, append_events,
      appliedEvents_concat_of_isPlain (Event.isPlain_of_isUser isUser), Tracker.applied]
  rw [undo_applied_of_message (latestStep?_append_message isUser tracker), spoken,
    cutBack_append_cons (by simp) isUser, applied, cutBack_append_cons (by simp) isAction]

/-- After an executed action with silent events, an undo restores the state. -/
theorem Coherent.undo_extend_action_state (coherent : tracker.Coherent) {name : String}
    {events : List Event} (silent : ∀ event ∈ events, event.isSilent = true) :
    (tracker.extend (Event.action name :: events)).undo.state = tracker.state := by
  have undone : (tracker.extend (Event.action name :: events)).undo.Coherent :=
    (coherent.extend _).extend _
  rw [undone.state_eq_foldl, undo_extend_action_applied silent, undo_schema, extend_schema,
    ← coherent.state_eq_foldl]

/-- After a message for which the assistant waited, an undo restores the state. -/
theorem Coherent.undo_append_message_state (coherent : tracker.Coherent) {kept : List Event}
    {wait message : Event} (applied : tracker.applied = kept ++ [wait])
    (listens : wait.change = Event.listen.change) (isUser : message.isUser = true) :
    (tracker.append message).undo.state = tracker.state := by
  have isAction := Event.isAction_of_change_eq_listen listens
  have undone : (tracker.append message).undo.Coherent := (coherent.append message).extend _
  rw [undone.state_eq_foldl, undo_append_message_applied applied isAction isUser, undo_schema,
    append_schema, coherent.state_eq_foldl, applied, List.foldl_append, List.foldl_append,
    List.foldl_cons, List.foldl_cons, DialogueState.apply_congr listens]

end Tracker

/-! ## Restoring -/

/-- Reversals are inverses on the log in effect, whatever the log was.  An undo right after
an executed action, or after a message for which the assistant waited, therefore restores
the state and the log in effect; the assistant then waits anew. -/
theorem reversal_restores :
    (∀ (log later : List Event) (action undo : Event), action.isAction = true →
      (∀ event ∈ later, event.isPlain = true ∧ event.isAction = false) →
      undo.change = .actionReverted →
        appliedEvents (log ++ action :: later ++ [undo]) = appliedEvents log) ∧
    (∀ (log between later : List Event) (action message rewind : Event),
      action.isAction = true → (∀ event ∈ between, event.isSilent = true) →
      message.isUser = true →
      (∀ event ∈ later, event.isPlain = true ∧ event.isUser = false) →
      rewind.change = .utteranceReverted →
        appliedEvents (log ++ action :: between ++ message :: later ++ [rewind]) =
          appliedEvents log) ∧
    (∀ (schema : SlotSchema) (log : List Event) (conversation after : Conversation)
      (name : String) (result : Except ActionError ActionOutcome) (events : List Event),
      Tracker.FedWith schema log conversation.tracker →
      conversation.settle name result = (after, .ok (.completed events)) →
      (∀ event ∈ events, event.isSilent = true) →
        after.tracker.undo.state = conversation.tracker.state ∧
          after.tracker.undo.applied = conversation.tracker.applied) ∧
    (∀ (schema : SlotSchema) (log kept : List Event) (tracker : Tracker)
      (wait message : Event), Tracker.FedWith schema log tracker →
      tracker.applied = kept ++ [wait] → wait.change = Event.listen.change →
      message.isUser = true →
        (tracker.append message).undo.state = tracker.state ∧
          (tracker.append message).undo.applied.map Event.change =
            tracker.applied.map Event.change) := by
  refine ⟨?_, ?_, ?_, ?_⟩
  · intro log later action undo isAction quiet takesBack
    exact appliedEvents_revert_action isAction quiet takesBack log
  · intro log between later action message rewind isAction waiting isUser answering takesBack
    exact appliedEvents_revert_message isAction waiting isUser answering takesBack log
  · intro schema log conversation after name result events fed settled silent
    cases result with
    | error failure => cases settled
    | ok outcome =>
        cases settled
        exact ⟨fed.coherent.undo_extend_action_state silent,
          Tracker.undo_extend_action_applied silent conversation.tracker⟩
  · intro schema log kept tracker wait message fed applied listens isUser
    constructor
    · exact fed.coherent.undo_append_message_state applied listens isUser
    · have isAction := Event.isAction_of_change_eq_listen listens
      rw [Tracker.undo_append_message_applied applied isAction isUser, applied,
        List.map_append, List.map_append, List.map_singleton, List.map_singleton, listens]

/-- The assistant waits after an answer that was taken back.  A custom action is run and
undone, a message comes in and is undone, and then a whole turn is rewound. -/
theorem reversal_restores_after_reverted_answer :
    let log : List Event := [.action "utter_greet", .slotSet "count" .null, .actionReverted,
      .listen]
    let conversation : Conversation := {
      tracker := Tracker.ofEvents "user" (Table.ofList [("count", .string "none")]) log }
    let counted : List Event := [.slotSet "count" (.string "three")]
    let ran := (conversation.executeRemote (fun _ _ _ => .ok { events := counted })
      Domain.empty "action_count").1
    let greeting := Event.user (UserMessage.ofText "hello")
    let greeted := conversation.tracker.append greeting
    ran.tracker.state.slots.find? "count" = some (.string "three") ∧
      ran.tracker.undo.state = conversation.tracker.state ∧
      ran.tracker.undo.applied = [.listen] ∧
      greeted.undo.state = conversation.tracker.state ∧
      greeted.undo.applied.map Event.change = [Event.listen.change] ∧
      appliedEvents (log ++ .action "action_count" :: counted ++ [.actionReverted]) =
        [.listen] ∧
      appliedEvents (log ++ .listen :: counted ++ greeting :: [.action "utter_greet"]
        ++ [.utteranceReverted]) = [.listen] := by
  intro log conversation counted ran greeting greeted
  have fed : Tracker.FedWith _ log conversation.tracker := .ofEvents "user" log
  have silent : ∀ event ∈ counted, event.isSilent = true := List.forall_mem_singleton.mpr rfl
  rcases reversal_restores with ⟨action, message, execution, utterance⟩
  rcases execution _ log conversation ran "action_count" (.ok (.completed counted)) counted
    fed rfl silent with ⟨ranState, ranApplied⟩
  rcases utterance _ log [] conversation.tracker .listen greeting fed rfl rfl rfl with
    ⟨greetedState, greetedApplied⟩
  refine ⟨rfl, ranState, ranApplied, greetedState, greetedApplied, ?_, ?_⟩
  · exact action log counted (.action "action_count") .actionReverted rfl
      (List.forall_mem_singleton.mpr ⟨rfl, rfl⟩) rfl
  · exact message log counted [.action "utter_greet"] .listen greeting .utteranceReverted rfl
      silent rfl (List.forall_mem_singleton.mpr ⟨rfl, rfl⟩) rfl

end Dialogue
