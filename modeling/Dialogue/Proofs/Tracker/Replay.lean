import Dialogue.Proofs.Tracker.Applied
import Dialogue.Tracker.Basic

/-!
# The cached state is the replayed state

A tracker keeps its state up to date event by event, replays only when something is
taken back, and starts over at a restart.  The invariant `Tracker.Coherent` ties the
cached state to the whole log and the start of the current stretch to the last
restart; every recording keeps it, so it holds of every tracker made by the
operations of trackers.
-/

namespace Dialogue

namespace DialogueState

/-- Events before the last restart do not count for the replayed state. -/
theorem replay_lastStretch (schema : SlotSchema) (log : List Event) :
    replay schema (lastStretch log) = replay schema log := by
  unfold replay
  rw [appliedEvents_lastStretch]

/-- Replaying one more plain event applies it to the replayed state. -/
theorem replay_concat_of_isPlain {event : Event} (plain : event.isPlain = true)
    (schema : SlotSchema) (log : List Event) :
    replay schema (log ++ [event]) = (replay schema log).apply schema event := by
  unfold replay
  rw [appliedEvents_concat_of_isPlain plain, List.foldl_append]
  rfl

/-- A log that ends in a restart leads to the state before anything happened. -/
theorem replay_concat_of_isRestart {event : Event} (restart : event.isRestart = true)
    (schema : SlotSchema) (log : List Event) :
    replay schema (log ++ [event]) = initial schema := by
  unfold replay
  rw [appliedEvents_append_restart restart]
  rfl

/-- The replayed state depends on the changes of a log alone. -/
theorem replay_map {alter : Event → Event} (same : ∀ event, (alter event).change = event.change)
    (schema : SlotSchema) (log : List Event) :
    replay schema (log.map alter) = replay schema log := by
  have apply_eq : ∀ state event, apply schema state (alter event) = apply schema state event := by
    intro state event
    unfold apply
    rw [same]
  unfold replay
  rw [← Applied.map_appliedEvents same, List.foldl_map]
  simp only [apply_eq]

end DialogueState

namespace Tracker

/-! ## Recording an event of each sort -/

theorem append_of_isRestart {event : Event} (restart : event.isRestart = true)
    (tracker : Tracker) :
    tracker.append event =
      { tracker with
        events := tracker.events ++ [event]
        generationStart := tracker.events.length + 1
        state := DialogueState.initial tracker.schema } := by
  unfold append
  rw [Event.change_eq_of_isRestart restart]
  simp

theorem append_of_isReversal {event : Event} (reversal : event.isReversal = true)
    (tracker : Tracker) :
    tracker.append event =
      { tracker with
        events := tracker.events ++ [event]
        state := DialogueState.replay tracker.schema
          ((tracker.events ++ [event]).drop tracker.generationStart) } := by
  rcases event with ⟨change, _, _⟩
  cases change <;> simp_all [Event.isReversal, append]

theorem append_of_isPlain {event : Event} (plain : event.isPlain = true)
    (tracker : Tracker) :
    tracker.append event =
      { tracker with
        events := tracker.events ++ [event]
        state := tracker.state.apply tracker.schema event } := by
  rcases event with ⟨change, _, _⟩
  cases change <;> simp_all [Event.isPlain, Event.isRestart, Event.isReversal, append]

@[simp]
theorem append_events (tracker : Tracker) (event : Event) :
    (tracker.append event).events = tracker.events ++ [event] := by
  rcases event.sort_cases with restart | reversal | plain
  · rw [append_of_isRestart restart]
  · rw [append_of_isReversal reversal]
  · rw [append_of_isPlain plain]

@[simp]
theorem append_schema (tracker : Tracker) (event : Event) :
    (tracker.append event).schema = tracker.schema := by
  rcases event.sort_cases with restart | reversal | plain
  · rw [append_of_isRestart restart]
  · rw [append_of_isReversal reversal]
  · rw [append_of_isPlain plain]

@[simp]
theorem append_senderId (tracker : Tracker) (event : Event) :
    (tracker.append event).senderId = tracker.senderId := by
  rcases event.sort_cases with restart | reversal | plain
  · rw [append_of_isRestart restart]
  · rw [append_of_isReversal reversal]
  · rw [append_of_isPlain plain]

@[simp]
theorem extend_nil (tracker : Tracker) : tracker.extend [] = tracker :=
  rfl

@[simp]
theorem extend_cons (tracker : Tracker) (event : Event) (rest : List Event) :
    tracker.extend (event :: rest) = (tracker.append event).extend rest :=
  rfl

@[simp]
theorem extend_events (tracker : Tracker) (events : List Event) :
    (tracker.extend events).events = tracker.events ++ events := by
  induction events generalizing tracker with
  | nil => simp
  | cons event rest ih => simp [ih]

@[simp]
theorem extend_schema (tracker : Tracker) (events : List Event) :
    (tracker.extend events).schema = tracker.schema := by
  induction events generalizing tracker with
  | nil => rfl
  | cons event rest ih => simp [ih]

/-- Only plain events are in effect on a tracker. -/
theorem isPlain_of_mem_applied (tracker : Tracker) :
    ∀ event ∈ tracker.applied, event.isPlain = true :=
  fun _ member => isPlain_of_mem_appliedEvents member

/-! ## The invariant -/

/-- The cached parts of a tracker agree with its log. -/
structure Coherent (tracker : Tracker) : Prop where
  /-- The current stretch begins within the log. -/
  start_le : tracker.generationStart ≤ tracker.events.length
  /-- The current stretch is what comes after the last restart. -/
  stretch_eq : tracker.eventsSinceRestart = lastStretch tracker.events
  /-- The cached state is the replayed one. -/
  state_eq : tracker.state = DialogueState.replay tracker.schema tracker.events

theorem coherent_new (sender : String) (schema : SlotSchema) : Coherent (new sender schema) where
  start_le := Nat.le_refl 0
  stretch_eq := rfl
  state_eq := rfl

/-- An event that is no restart lengthens the current stretch. -/
theorem Coherent.drop_concat {tracker : Tracker} (coherent : tracker.Coherent) {event : Event}
    (noRestart : event.isRestart = false) :
    (tracker.events ++ [event]).drop tracker.generationStart =
      lastStretch (tracker.events ++ [event]) := by
  rw [List.drop_append_of_le_length coherent.start_le, lastStretch_concat noRestart]
  exact congrArg (· ++ [event]) coherent.stretch_eq

/-- Recording any event keeps the cached parts in agreement with the log. -/
theorem Coherent.append {tracker : Tracker} (coherent : tracker.Coherent) (event : Event) :
    (tracker.append event).Coherent := by
  rcases event.sort_cases with restart | reversal | plain
  · rw [append_of_isRestart restart]
    refine ⟨?_, ?_, ?_⟩
    · simp
    · simp [eventsSinceRestart, lastStretch_concat_of_isRestart restart]
    · exact (DialogueState.replay_concat_of_isRestart restart _ _).symm
  · have stretch := coherent.drop_concat (Event.isRestart_eq_false_of_isReversal reversal)
    rw [append_of_isReversal reversal]
    refine ⟨?_, stretch, ?_⟩
    · simpa using Nat.le_succ_of_le coherent.start_le
    · rw [stretch, DialogueState.replay_lastStretch]
  · rw [append_of_isPlain plain]
    refine ⟨?_, ?_, ?_⟩
    · simpa using Nat.le_succ_of_le coherent.start_le
    · exact coherent.drop_concat (Event.isRestart_eq_false_of_isPlain plain)
    · rw [DialogueState.replay_concat_of_isPlain plain, ← coherent.state_eq]

theorem Coherent.extend {tracker : Tracker} (coherent : tracker.Coherent)
    (events : List Event) : (tracker.extend events).Coherent := by
  induction events generalizing tracker with
  | nil => exact coherent
  | cons event rest ih => exact ih (coherent.append event)

theorem coherent_ofEvents (sender : String) (schema : SlotSchema) (events : List Event) :
    Coherent (ofEvents sender schema events) :=
  (coherent_new sender schema).extend events

/-! ## Trackers made by the operations of trackers -/

/-- `FedWith schema log tracker` says that the tracker was made for the schema by the
operations of trackers, in whatever combination, and that `log` lists in order what
it was given to record. -/
inductive FedWith (schema : SlotSchema) : List Event → Tracker → Prop where
  | new (sender : String) : FedWith schema [] (new sender schema)
  | ofEvents (sender : String) (events : List Event) :
      FedWith schema events (ofEvents sender schema events)
  | append {log : List Event} {tracker : Tracker} (fed : FedWith schema log tracker)
      (event : Event) : FedWith schema (log ++ [event]) (tracker.append event)
  | extend {log : List Event} {tracker : Tracker} (fed : FedWith schema log tracker)
      (events : List Event) : FedWith schema (log ++ events) (tracker.extend events)
  | hypothetical {log : List Event} {tracker : Tracker} (fed : FedWith schema log tracker)
      (events : List Event) : FedWith schema (log ++ events) (tracker.hypothetical events)
  | withSenderId {log : List Event} {tracker : Tracker} (fed : FedWith schema log tracker)
      (sender : String) : FedWith schema log (tracker.withSenderId sender)

namespace FedWith

variable {schema : SlotSchema} {log : List Event} {tracker : Tracker}

/-- A tracker holds exactly the events that it was fed with. -/
theorem events_eq (fed : FedWith schema log tracker) : tracker.events = log := by
  induction fed with
  | new sender => rfl
  | ofEvents sender events => simp [Tracker.ofEvents, Tracker.new]
  | append _ event ih => rw [append_events, ih]
  | extend _ events ih => rw [extend_events, ih]
  | hypothetical _ events ih => rw [Tracker.hypothetical, extend_events, ih]
  | withSenderId _ sender ih => exact ih

/-- A tracker keeps the schema for which it was made. -/
theorem schema_eq (fed : FedWith schema log tracker) : tracker.schema = schema := by
  induction fed with
  | new sender => rfl
  | ofEvents sender events => simp [Tracker.ofEvents, Tracker.new]
  | append _ event ih => rw [append_schema, ih]
  | extend _ events ih => rw [extend_schema, ih]
  | hypothetical _ events ih => rw [Tracker.hypothetical, extend_schema, ih]
  | withSenderId _ sender ih => exact ih

/-- Every operation keeps the cached parts in agreement with the log. -/
theorem coherent (fed : FedWith schema log tracker) : tracker.Coherent := by
  induction fed with
  | new sender => exact coherent_new sender schema
  | ofEvents sender events => exact coherent_ofEvents sender schema events
  | append _ event ih => exact ih.append event
  | extend _ events ih => exact ih.extend events
  | hypothetical _ events ih => exact ih.extend events
  | withSenderId _ sender ih => exact ⟨ih.start_le, ih.stretch_eq, ih.state_eq⟩

theorem applied_eq (fed : FedWith schema log tracker) :
    tracker.applied = appliedEvents log := by
  rw [Tracker.applied, fed.events_eq]

theorem state_eq (fed : FedWith schema log tracker) :
    tracker.state = DialogueState.replay schema log := by
  rw [fed.coherent.state_eq, fed.schema_eq, fed.events_eq]

theorem stretch_eq (fed : FedWith schema log tracker) :
    tracker.eventsSinceRestart = lastStretch log := by
  rw [fed.coherent.stretch_eq, fed.events_eq]

/-- The cached state of a tracker is the replay of all that it was fed with, and the
replay of its current stretch alone, which is what follows the last restart. -/
theorem state_eq_replay (fed : FedWith schema log tracker) :
    tracker.events = log ∧
      tracker.state = DialogueState.replay schema log ∧
      tracker.state = DialogueState.replay schema tracker.eventsSinceRestart ∧
      tracker.eventsSinceRestart = lastStretch log := by
  refine ⟨fed.events_eq, fed.state_eq, ?_, fed.stretch_eq⟩
  rw [fed.stretch_eq, DialogueState.replay_lastStretch]
  exact fed.state_eq

/-- A conversation that starts anew, takes an action back and goes on: the restart hides
the first value of the slot, and the reversal takes the second one back. -/
theorem state_eq_replay_after_restart :
    let schema : SlotSchema := Table.ofList [("city", .null)]
    let before : List Event := [.slotSet "city" (.string "Oslo"), .restarted]
    let after : List Event := [.action "utter_ask", .slotSet "city" (.string "Rome")]
    let tracker := (((Tracker.ofEvents "trip" schema before).extend after).hypothetical
      [.actionReverted]).append .listen
    FedWith schema (before ++ after ++ [.actionReverted] ++ [.listen]) tracker ∧
      tracker.eventsSinceRestart = after ++ [.actionReverted, .listen] ∧
      tracker.state.slots.find? "city" = some .null := by
  intro schema before after tracker
  have fed : FedWith schema (before ++ after ++ [.actionReverted] ++ [.listen]) tracker :=
    (((FedWith.ofEvents "trip" before).extend after).hypothetical [.actionReverted]).append .listen
  obtain ⟨_, state, _, stretch⟩ := state_eq_replay fed
  refine ⟨fed, stretch, ?_⟩
  rw [state]
  rfl

end FedWith

end Tracker

end Dialogue
