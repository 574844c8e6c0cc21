import Dialogue.Proofs.Tracker.Replay
import Dialogue.Session.Correction

/-!
# Taking the latest step back

A step of a conversation is an action or a message.  What an undo records is chosen by
the latest step of the whole log, while it acts on the events in effect.  The two agree
as long as the latest step of either is of the same kind, and then an undo takes back
exactly the latest step in effect.  They may differ once a step has been taken back:
its action still stands in the log, and the next undo takes an action back where a
message is the latest step in effect.
-/

namespace Dialogue

/-! ## The latest step -/

/-- The steps of a conversation that can be taken back. -/
inductive StepKind where
  | action
  | message
deriving DecidableEq

namespace Event

/-- The kind of step that an event is. -/
def stepKind? (event : Event) : Option StepKind :=
  if event.isAction then some .action
  else if event.isUser then some .message
  else none

/-- Whether an event is an action or a message. -/
def isStep (event : Event) : Bool :=
  event.isAction || event.isUser

theorem isStep_eq_false_iff {event : Event} :
    event.isStep = false ↔ event.isAction = false ∧ event.isUser = false :=
  Bool.or_eq_false_iff

theorem isAction_eq_false_of_isUser {event : Event} (isUser : event.isUser = true) :
    event.isAction = false := by
  rcases event with ⟨change, _, _⟩
  cases change <;> simp_all [Event.isUser, Event.message?, isAction, actionName?]

theorem stepKind?_of_isUser {event : Event} (isUser : event.isUser = true) :
    event.stepKind? = some .message := by
  rw [stepKind?, isAction_eq_false_of_isUser isUser, isUser]
  rfl

theorem isLandmark_eq_isStep {event : Event} (plain : event.isPlain = true) :
    event.isLandmark = event.isStep := by
  rw [isLandmark, isRestart_eq_false_of_isPlain plain, Bool.or_false, isStep]

end Event

/-- The kind of the latest step since the last restart. -/
def latestStep? (events : List Event) : Option StepKind :=
  (events.reverse.find? Event.isLandmark).bind Event.stepKind?

/-- A list of events either holds none that passes a test or has a last one. -/
theorem eq_append_last_of_test (test : Event → Bool) (events : List Event) :
    (∀ event ∈ events, test event = false) ∨
      ∃ kept last later, events = kept ++ last :: later ∧ test last = true ∧
        ∀ event ∈ later, test event = false := by
  induction events using List.reverseRecOn with
  | nil => exact .inl (by simp)
  | append_singleton events event ih =>
      cases passes : test event with
      | true => exact .inr ⟨events, event, [], rfl, passes, by simp⟩
      | false =>
          rcases ih with quiet | ⟨kept, last, later, rfl, passesLast, quiet⟩
          · left
            simpa [or_imp, forall_and, passes] using quiet
          · refine .inr ⟨kept, last, later ++ [event], by simp, passesLast, ?_⟩
            simpa [or_imp, forall_and, passes] using quiet

theorem latestStep?_append_cons {step : Event} {later : List Event}
    (landmark : step.isLandmark = true) (quiet : ∀ event ∈ later, event.isLandmark = false)
    (kept : List Event) : latestStep? (kept ++ step :: later) = step.stepKind? := by
  have found : (kept ++ step :: later).reverse.find? Event.isLandmark = some step := by
    rw [List.find?_eq_some_iff_append]
    exact ⟨landmark, later.reverse, kept.reverse, by simp, by simpa using quiet⟩
  rw [latestStep?, found]
  rfl

theorem latestStep?_eq_none {events : List Event}
    (quiet : ∀ event ∈ events, event.isLandmark = false) : latestStep? events = none := by
  have missing : events.reverse.find? Event.isLandmark = none :=
    List.find?_eq_none.mpr (by simpa using quiet)
  rw [latestStep?, missing]
  rfl

/-- What an undo records depends on the kind of the latest step of the log alone. -/
theorem undoLatest_eq (tracker : Tracker) :
    undoLatest tracker =
      match latestStep? tracker.events with
      | some .action => [Event.actionReverted]
      | some .message => [Event.utteranceReverted, Event.listen]
      | none => [] := by
  unfold undoLatest latestStep?
  cases tracker.events.reverse.find? Event.isLandmark with
  | none => rfl
  | some event =>
      simp only [Option.bind_some, Event.stepKind?]
      cases event.isAction <;> cases event.isUser <;> rfl

/-! ## Undoing -/

namespace Tracker

/-- The conversation after its latest step was taken back. -/
def undo (tracker : Tracker) : Tracker :=
  tracker.extend (undoLatest tracker)

/-- The latest step in effect is gone: an action with all that followed it, a message
with the action before it, of which a single listen action is left, or nothing if there
was no step. -/
inductive StepBack (tracker next : Tracker) : Prop where
  | action {kept later : List Event} {action : Event}
      (applied : tracker.applied = kept ++ action :: later) (isAction : action.isAction = true)
      (latest : ∀ event ∈ later, event.isStep = false) (rest : next.applied = kept)
  | message {kept between later : List Event} {turn message : Event}
      (applied : tracker.applied = kept ++ turn :: between ++ message :: later)
      (isAction : turn.isAction = true) (previous : ∀ event ∈ between, event.isAction = false)
      (isUser : message.isUser = true) (latest : ∀ event ∈ later, event.isStep = false)
      (rest : next.applied = kept ++ [Event.listen])
  | firstMessage {before later : List Event} {message : Event}
      (applied : tracker.applied = before ++ message :: later)
      (first : ∀ event ∈ before, event.isAction = false)
      (isUser : message.isUser = true) (latest : ∀ event ∈ later, event.isStep = false)
      (rest : next.applied = [Event.listen])
  | nothing (noStep : ∀ event ∈ tracker.applied, event.isStep = false) (same : next = tracker)

variable {tracker : Tracker}

theorem undo_applied_of_action (latest : latestStep? tracker.events = some .action) :
    tracker.undo.applied = cutBack Event.isAction tracker.applied := by
  unfold undo applied
  rw [undoLatest_eq, latest, extend_events]
  exact appliedEvents_concat_actionReverted rfl tracker.events

theorem undo_applied_of_message (latest : latestStep? tracker.events = some .message) :
    tracker.undo.applied =
      cutBack Event.isAction (cutBack Event.isUser tracker.applied) ++ [Event.listen] := by
  have split : tracker.events ++ [Event.utteranceReverted, Event.listen] =
      tracker.events ++ [Event.utteranceReverted] ++ [Event.listen] := by simp
  unfold undo applied
  rw [undoLatest_eq, latest, extend_events]
  simp only [split]
  rw [appliedEvents_concat_of_isPlain rfl, appliedEvents_concat_utteranceReverted rfl]

theorem undo_of_none (latest : latestStep? tracker.events = none) : tracker.undo = tracker := by
  unfold undo
  rw [undoLatest_eq, latest]
  rfl

/-- The latest step of the log is in effect if nothing was taken back after it. -/
theorem latestStep?_appliedEvents {step : Event} {later : List Event}
    (isStep : step.isStep = true) (stepPlain : step.isPlain = true)
    (settled : ∀ event ∈ later, event.isPlain = true ∧ event.isStep = false)
    (before : List Event) :
    latestStep? (appliedEvents (before ++ step :: later)) =
      latestStep? (before ++ step :: later) := by
  have plain : ∀ event ∈ step :: later, event.isPlain = true := by
    intro event member
    rcases List.mem_cons.mp member with rfl | member
    · exact stepPlain
    · exact (settled event member).1
  have landmark : step.isLandmark = true := by
    rw [Event.isLandmark_eq_isStep stepPlain, isStep]
  have quiet : ∀ event ∈ later, event.isLandmark = false := by
    intro event member
    rw [Event.isLandmark_eq_isStep (settled event member).1, (settled event member).2]
  rw [appliedEvents_append_of_isPlain plain, latestStep?_append_cons landmark quiet,
    latestStep?_append_cons landmark quiet]

/-- Where an action is the latest step of the log, but a message is the latest step in
effect, an undo takes back both the message and the action before it. -/
theorem undo_applied_of_message_in_effect {kept between later : List Event}
    {turn message : Event} (latest : latestStep? tracker.events = some .action)
    (applied : tracker.applied = kept ++ turn :: between ++ message :: later)
    (isAction : turn.isAction = true) (previous : ∀ event ∈ between, event.isAction = false)
    (isUser : message.isUser = true) (quiet : ∀ event ∈ later, event.isAction = false) :
    tracker.undo.applied = kept := by
  have noAction : ∀ event ∈ between ++ message :: later, event.isAction = false := by
    intro event member
    rcases List.mem_append.mp member with earlier | rest
    · exact previous event earlier
    · rcases List.mem_cons.mp rest with rfl | member
      · exact Event.isAction_eq_false_of_isUser isUser
      · exact quiet event member
  rw [undo_applied_of_action latest, applied, List.append_assoc, List.cons_append]
  exact cutBack_append_cons noAction isAction kept

/-- An undo takes back the latest step in effect, provided that the latest step of the
log is of the same kind. -/
theorem stepBack_undo (agree : latestStep? tracker.events = latestStep? tracker.applied) :
    tracker.StepBack tracker.undo := by
  have plain := tracker.isPlain_of_mem_applied
  rcases eq_append_last_of_test Event.isLandmark tracker.applied with
    quiet | ⟨kept, step, later, applied, landmark, quiet⟩
  · rw [latestStep?_eq_none quiet] at agree
    refine .nothing ?_ (undo_of_none agree)
    intro event member
    rw [← Event.isLandmark_eq_isStep (plain event member)]
    exact quiet event member
  · rw [applied, latestStep?_append_cons landmark quiet] at agree
    rw [applied] at plain
    have latest : ∀ event ∈ later, event.isStep = false := by
      intro event member
      rw [← Event.isLandmark_eq_isStep (plain event (by simp [member]))]
      exact quiet event member
    have noAction : ∀ event ∈ later, event.isAction = false :=
      fun event member => (Event.isStep_eq_false_iff.mp (latest event member)).1
    have noUser : ∀ event ∈ later, event.isUser = false :=
      fun event member => (Event.isStep_eq_false_iff.mp (latest event member)).2
    rw [Event.isLandmark_eq_isStep (plain step (by simp)), Event.isStep, Bool.or_eq_true] at landmark
    rcases landmark with isAction | isUser
    · have kind : step.stepKind? = some .action := if_pos isAction
      refine .action applied isAction latest ?_
      rw [undo_applied_of_action (agree.trans kind), applied]
      exact cutBack_append_cons noAction isAction kept
    · have kind : step.stepKind? = some .message := Event.stepKind?_of_isUser isUser
      have rest := undo_applied_of_message (agree.trans kind)
      rw [applied, cutBack_append_cons noUser isUser] at rest
      -- The message goes with the action before it, if there is one.
      rcases eq_append_last_of_test Event.isAction kept with
        first | ⟨front, turn, between, split, isTurn, previous⟩
      · rw [cutBack_eq_nil first, List.nil_append] at rest
        exact .firstMessage applied first isUser latest rest
      · rw [split, cutBack_append_cons previous isTurn] at rest
        rw [split] at applied
        exact .message applied isTurn previous isUser latest rest

/-- An action was taken back before, and another one has been run since. -/
theorem stepBack_undo_after_another_action :
    let greeting := Event.user (UserMessage.ofText "hello")
    let tracker := Tracker.ofEvents "user" Table.empty
      [.listen, greeting, .action "utter_greet", .actionReverted, .action "utter_help"]
    latestStep? tracker.events = latestStep? tracker.applied ∧
      tracker.StepBack tracker.undo ∧ tracker.undo.applied = [.listen, greeting] :=
  ⟨rfl, stepBack_undo rfl, rfl⟩

/-- The answer to the only message was taken back.  The next undo should leave a listen
action in place of the message, and leaves nothing. -/
theorem not_stepBack_undo_of_reverted_answer :
    let greeting := Event.user (UserMessage.ofText "hello")
    let tracker := Tracker.ofEvents "user" Table.empty
      [.listen, greeting, .action "utter_greet", .actionReverted]
    tracker.applied = [.listen, greeting] ∧ tracker.undo.applied = [] ∧
      ¬tracker.StepBack tracker.undo := by
  intro greeting tracker
  have before : tracker.applied = [.listen, greeting] := rfl
  have after : tracker.undo.applied = [] := rfl
  refine ⟨before, after, ?_⟩
  intro back
  cases back with
  | action applied isAction latest rest =>
      obtain rfl := after.symm.trans rest
      have later := (List.cons.inj (before.symm.trans applied)).2
      have isStep := latest greeting (by simp [← later])
      cases isStep
  | message applied isAction previous isUser latest rest =>
      simp [after] at rest
  | firstMessage applied first isUser latest rest =>
      simp [after] at rest
  | nothing noStep same =>
      rw [same, before] at after
      simp at after

end Tracker

end Dialogue
