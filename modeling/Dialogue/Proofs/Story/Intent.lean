import Dialogue.Proofs.Session.Undo
import Dialogue.Proofs.Tracker.LastWriter
import Dialogue.Story.TurnState

/-!
# The intent of a turn state

A turn state shows an intent only while the assistant listens, and it takes the intent from
the latest message, however old that is.  Usually the user has spoken since the assistant
began to listen.  But a message stays the latest one until the next, so an assistant that
has answered and listens again still shows the intent of the turn before.  The two cases
exclude each other, and between them they are all.
-/

namespace Dialogue

/-- The assistant listens, and the latest of the messages that came since means the
intent. -/
inductive IntentSpoken (intent : String) (events : List Event) : Prop where
  | intro {before after : List Event} {wait : Event} {message : UserMessage}
      (split : events = before ++ wait :: after) (listens : wait.isListen = true)
      (last : ∀ event ∈ after, event.isAction = false)
      (spoken : latest? Event.message? after = some message)
      (means : message.intentName = some intent)

/-- The assistant listens and no message has come since, and the latest of those before
means the intent. -/
inductive IntentOutlived (intent : String) (events : List Event) : Prop where
  | intro {before after : List Event} {wait : Event} {message : UserMessage}
      (split : events = before ++ wait :: after) (listens : wait.isListen = true)
      (last : ∀ event ∈ after, event.isAction = false)
      (silent : ∀ event ∈ after, event.isUser = false)
      (earlier : latest? Event.message? before = some message)
      (means : message.intentName = some intent)

namespace Event

variable {event : Event}

theorem isListen_iff : event.isListen = true ↔ event.actionName? = some listenAction :=
  beq_iff_eq

theorem isAction_eq_false_iff : event.isAction = false ↔ event.actionName? = none := by
  rw [isAction, Option.isSome_eq_false_iff, Option.isNone_iff_eq_none]

theorem isUser_eq_false_iff : event.isUser = false ↔ event.message? = none := by
  rw [isUser, Option.isSome_eq_false_iff, Option.isNone_iff_eq_none]

theorem message?_of_isListen (listens : event.isListen = true) : event.message? = none := by
  rcases event with ⟨change, _, _⟩
  cases change <;> first | rfl | cases listens

end Event

/-! ## The latest step -/

section

variable {events : List Event} (plain : ∀ event ∈ events, event.isPlain = true)
  {intent : String}

include plain

/-- An intent was spoken only if a message is the latest step. -/
theorem IntentSpoken.latestStep?_eq (shown : IntentSpoken intent events) :
    latestStep? events = some .message := by
  rcases shown with @⟨before, _, wait, message, rfl, _, last, spoken, _⟩
  rcases latest?_eq_some_iff.mp spoken with ⟨between, turn, after, rfl, said, silent⟩
  have isUser : turn.isUser = true := by rw [Event.isUser, said]; rfl
  have landmark : turn.isLandmark = true := by rw [Event.isLandmark, isUser]; simp
  have quiet : ∀ event ∈ after, event.isLandmark = false := by
    intro event member
    rw [Event.isLandmark_eq_isStep (plain event (by simp [member])), Event.isStep_eq_false_iff]
    exact ⟨last event (by simp [member]), Event.isUser_eq_false_iff.mpr (silent event member)⟩
  rw [← List.cons_append, ← List.append_assoc, latestStep?_append_cons landmark quiet]
  exact Event.stepKind?_of_isUser isUser

/-- An intent has outlived its turn only if an action is the latest step. -/
theorem IntentOutlived.latestStep?_eq (shown : IntentOutlived intent events) :
    latestStep? events = some .action := by
  rcases shown with @⟨before, after, wait, message, rfl, listens, last, silent, _, _⟩
  have isAction : wait.isAction = true := by
    rw [Event.isAction, Event.isListen_iff.mp listens]
    rfl
  have landmark : wait.isLandmark = true := by rw [Event.isLandmark, isAction]; rfl
  have quiet : ∀ event ∈ after, event.isLandmark = false := by
    intro event member
    rw [Event.isLandmark_eq_isStep (plain event (by simp [member])), Event.isStep_eq_false_iff]
    exact ⟨last event member, silent event member⟩
  rw [latestStep?_append_cons landmark quiet]
  exact if_pos isAction

end

/-! ## The shown intent -/

/-- While an assistant listens, the latest message came either since it began to listen or
before. -/
theorem intentSpoken_or_intentOutlived_iff {events : List Event} {intent : String} :
    IntentSpoken intent events ∨ IntentOutlived intent events ↔
      latest? Event.actionName? events = some listenAction ∧
        (latest? Event.message? events).bind UserMessage.intentName = some intent := by
  constructor
  · rintro (@⟨before, after, wait, message, rfl, listens, last, spoken, means⟩ |
      @⟨before, after, wait, message, rfl, listens, last, silent, earlier, means⟩)
    all_goals
      have waits : latest? Event.actionName? (before ++ wait :: after) = some listenAction :=
        latest?_eq_some_iff.mpr ⟨before, wait, after, rfl, Event.isListen_iff.mp listens,
          fun event member => Event.isAction_eq_false_iff.mp (last event member)⟩
      rw [latest?_append_cons (Event.message?_of_isListen listens)]
    · rw [spoken]
      exact ⟨waits, means⟩
    · have none : latest? Event.message? after = none :=
        latest?_eq_none_iff.mpr fun event member =>
          Event.isUser_eq_false_iff.mp (silent event member)
      rw [none, earlier]
      exact ⟨waits, means⟩
  · rintro ⟨waits, shown⟩
    rcases latest?_eq_some_iff.mp waits with ⟨before, wait, after, rfl, named, quiet⟩
    have listens := Event.isListen_iff.mpr named
    have last : ∀ event ∈ after, event.isAction = false :=
      fun event member => Event.isAction_eq_false_iff.mpr (quiet event member)
    rw [latest?_append_cons (Event.message?_of_isListen listens)] at shown
    cases spoken : latest? Event.message? after with
    | some message =>
        rw [spoken] at shown
        exact .inl ⟨rfl, listens, last, spoken, shown⟩
    | none =>
        rw [spoken, Option.none_or] at shown
        rcases Option.bind_eq_some_iff.mp shown with ⟨message, earlier, means⟩
        have silent : ∀ event ∈ after, event.isUser = false := fun event member =>
          Event.isUser_eq_false_iff.mpr (latest?_eq_none_iff.mp spoken event member)
        exact .inr ⟨rfl, listens, last, silent, earlier, means⟩

theorem TurnState.intent_ofTracker_iff {tracker : Tracker} {domain : Domain} {intent : String} :
    (ofTracker tracker domain).intent = some intent ↔
      tracker.latestAction = some listenAction ∧ tracker.latestIntentName = some intent := by
  unfold ofTracker
  split
  · rename_i listens
    exact (and_iff_right listens).symm
  · rename_i speaks
    constructor
    · intro shown
      cases shown
    · rintro ⟨listens, _⟩
      exact absurd listens speaks

namespace Tracker

variable {schema : SlotSchema} {log : List Event} {tracker : Tracker}

/-- What a turn state shows as the intent.  The last action in effect is then the listening
one, and the latest message in effect has the intent.  The message came after that action,
unless the assistant listens again since: the intent was spoken exactly if a message is the
latest step in effect.  Two histories that share a turn state with an intent have both been
spoken since the assistant listens, unless the intent has outlived its turn in one of
them. -/
theorem FedWith.turnState_intent (fed : FedWith schema log tracker) (domain : Domain)
    (intent : String) :
    ((TurnState.ofTracker tracker domain).intent = some intent ↔
        IntentSpoken intent tracker.applied ∨ IntentOutlived intent tracker.applied) ∧
      (IntentSpoken intent tracker.applied → latestStep? tracker.applied = some .message) ∧
      (IntentOutlived intent tracker.applied → latestStep? tracker.applied = some .action) ∧
      ∀ otherSchema otherLog other, FedWith otherSchema otherLog other →
        TurnState.ofTracker other domain = TurnState.ofTracker tracker domain →
        (TurnState.ofTracker tracker domain).intent = some intent →
        ¬IntentOutlived intent other.applied → ¬IntentOutlived intent tracker.applied →
          IntentSpoken intent other.applied ∧ IntentSpoken intent tracker.applied := by
  have shown_iff : ∀ {schema log tracker}, FedWith schema log tracker →
      ((TurnState.ofTracker tracker domain).intent = some intent ↔
        IntentSpoken intent tracker.applied ∨ IntentOutlived intent tracker.applied) := by
    intro schema log tracker fed
    have plain := tracker.isPlain_of_mem_applied
    have written : DialogueState.LastWritten tracker.schema tracker.applied tracker.state := by
      rw [fed.coherent.state_eq]
      exact DialogueState.lastWritten_foldl plain
    rw [TurnState.intent_ofTracker_iff, intentSpoken_or_intentOutlived_iff, latestAction,
      latestIntentName, latestMessage, written.action, written.message]
  have plain := tracker.isPlain_of_mem_applied
  refine ⟨shown_iff fed, IntentSpoken.latestStep?_eq plain, IntentOutlived.latestStep?_eq plain,
    ?_⟩
  intro otherSchema otherLog other otherFed same shown otherFresh fresh
  have otherShown := (shown_iff otherFed).mp (same ▸ shown)
  exact ⟨otherShown.resolve_right otherFresh, ((shown_iff fed).mp shown).resolve_right fresh⟩

/-- An answer and the listening after it were taken back, so the user has spoken again since
the assistant listens, just as before the answer. -/
theorem FedWith.turnState_intent_after_reverted_answer :
    let message := UserMessage.withIntent (UserMessage.ofText "hello") "greet"
    let answered := Tracker.ofEvents "story" Table.empty [.listen, .user message,
      .action "utter_greet", .listen, .actionReverted, .actionReverted]
    let spoken := Tracker.ofEvents "story" Table.empty [.listen, .user message]
    (TurnState.ofTracker answered Domain.empty).intent = some "greet" ∧
      TurnState.ofTracker spoken Domain.empty = TurnState.ofTracker answered Domain.empty ∧
      IntentSpoken "greet" spoken.applied ∧ IntentSpoken "greet" answered.applied := by
  intro message answered spoken
  have plain := answered.isPlain_of_mem_applied
  have fresh : ¬IntentOutlived "greet" answered.applied := by
    intro outlived
    cases outlived.latestStep?_eq plain
  rcases turnState_intent (.ofEvents "story" _ : FedWith Table.empty _ answered) Domain.empty
    "greet" with ⟨_, _, _, shared⟩
  rcases shared Table.empty _ spoken (.ofEvents "story" _) rfl rfl fresh fresh with
    ⟨inSpoken, inAnswered⟩
  exact ⟨rfl, rfl, inSpoken, inAnswered⟩

/-- The assistant has answered and listens again.  The turn state is still the one in which
it chose its answer, and shows an intent that nobody has spoken since. -/
theorem FedWith.not_intentSpoken_of_second_listen :
    let message := UserMessage.withIntent (UserMessage.ofText "hello") "greet"
    let spoken := Tracker.ofEvents "story" Table.empty [.listen, .user message]
    let waiting := Tracker.ofEvents "story" Table.empty [.listen, .user message,
      .action "utter_greet", .listen]
    (TurnState.ofTracker waiting Domain.empty).intent = some "greet" ∧
      TurnState.ofTracker waiting Domain.empty = TurnState.ofTracker spoken Domain.empty ∧
      IntentSpoken "greet" spoken.applied ∧
      ∀ intent, ¬IntentSpoken intent waiting.applied := by
  intro message spoken waiting
  have plain := waiting.isPlain_of_mem_applied
  have inSpoken : IntentSpoken "greet" spoken.applied :=
    @IntentSpoken.intro "greet" _ [] [.user message] .listen message rfl rfl
      (List.forall_mem_singleton.mpr rfl) rfl rfl
  refine ⟨rfl, rfl, inSpoken, ?_⟩
  intro intent shown
  cases shown.latestStep?_eq plain

end Tracker

end Dialogue
