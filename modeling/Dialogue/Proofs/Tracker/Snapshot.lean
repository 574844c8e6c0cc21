import Dialogue.Action.Request
import Dialogue.Proofs.Tracker.Replay

/-!
# Snapshots and their logs

A snapshot shows a state together with a log.  The two always fit: replaying the log of
a snapshot leads to the state that it shows, and so does replaying only what follows the
last restart in that log.  The log itself is the whole one.  It is the current stretch,
which is all that the state depends on, only in conversations that never started anew.
-/

namespace Dialogue

namespace Snapshot

/-- The parts of a state that a snapshot shows are those of the given one. -/
structure Shows (snapshot : Snapshot) (state : DialogueState) : Prop where
  slots_eq : snapshot.slots = state.slots
  activeLoop_eq : snapshot.activeLoop = state.activeLoop
  latestAction_eq : snapshot.latestAction = state.latestAction
  latestMessage_eq : snapshot.latestMessage = state.latestMessage

/-- A snapshot of what follows the last restart of a log: it lists these events, and
shows what they lead to. -/
structure IsCurrent (snapshot : Snapshot) (schema : SlotSchema) (log : List Event) : Prop where
  events_eq : snapshot.events = lastStretch log
  shows : snapshot.Shows (DialogueState.replay schema snapshot.events)

end Snapshot

/-- A log is its own last stretch if it holds no restart. -/
theorem lastStretch_eq_self_iff {log : List Event} :
    lastStretch log = log ↔ ∀ event ∈ log, event.isRestart = false := by
  rw [lastStretch, List.rtakeWhile_eq_self_iff]
  simp

namespace Tracker

theorem shows_snapshot (tracker : Tracker) : tracker.snapshot.Shows tracker.state :=
  ⟨rfl, rfl, rfl, rfl⟩

namespace FedWith

variable {schema : SlotSchema} {log : List Event} {tracker : Tracker}

/-- An action server is sent the whole log of a conversation.  The state it is shown is
that after this log, and that after the part of it which follows the last restart.  The
log is no longer than that part if and only if the conversation never started anew. -/
theorem snapshot_shows_replay (fed : FedWith schema log tracker) (action : String)
    (domain : Domain) :
    let snapshot := (ActionRequest.of action tracker domain).tracker
    snapshot = tracker.snapshot ∧
      snapshot.events = log ∧
      snapshot.Shows (DialogueState.replay schema snapshot.events) ∧
      snapshot.Shows (DialogueState.replay schema (lastStretch snapshot.events)) ∧
      (snapshot.IsCurrent schema log ↔ ∀ event ∈ log, event.isRestart = false) := by
  intro snapshot
  have events : snapshot.events = log := fed.events_eq
  have shows : snapshot.Shows (DialogueState.replay schema snapshot.events) := by
    rw [events, ← fed.state_eq]
    exact tracker.shows_snapshot
  have current : snapshot.IsCurrent schema log ↔ ∀ event ∈ log, event.isRestart = false := by
    rw [← lastStretch_eq_self_iff]
    constructor
    · intro isCurrent
      rw [← isCurrent.events_eq, events]
    · intro whole
      exact ⟨events.trans whole.symm, shows⟩
  refine ⟨rfl, events, shows, ?_, current⟩
  rw [DialogueState.replay_lastStretch]
  exact shows

/-- A conversation without a restart, in which a value is taken back. -/
theorem snapshot_shows_replay_after_reversal :
    let schema : SlotSchema := Table.ofList [("city", .null)]
    let log : List Event := [.listen, .slotSet "city" (.string "Oslo"), .action "utter_ask",
      .slotSet "city" (.string "Rome"), .actionReverted]
    let tracker := Tracker.ofEvents "trip" schema log
    FedWith schema log tracker ∧ tracker.snapshot.IsCurrent schema log ∧
      tracker.snapshot.slots.find? "city" = some (.string "Oslo") := by
  intro schema log tracker
  have fed : FedWith schema log tracker := .ofEvents "trip" log
  obtain ⟨_, _, _, _, current⟩ := snapshot_shows_replay fed "action_book" Domain.empty
  refine ⟨fed, current.mpr ?_, rfl⟩
  decide

/-- A conversation that starts anew: the snapshot still lists the slot that was set before,
and so is not one of the current stretch. -/
theorem not_snapshot_isCurrent_after_restart :
    let schema : SlotSchema := Table.ofList [("city", .null)]
    let log : List Event := [.slotSet "city" (.string "Oslo"), .restarted, .listen]
    let tracker := Tracker.ofEvents "trip" schema log
    FedWith schema log tracker ∧ lastStretch log = [.listen] ∧
      tracker.snapshot.events = log ∧ ¬tracker.snapshot.IsCurrent schema log := by
  intro schema log tracker
  refine ⟨.ofEvents "trip" log, rfl, rfl, ?_⟩
  intro isCurrent
  have whole : lastStretch log = log := isCurrent.events_eq.symm
  have noRestart := lastStretch_eq_self_iff.mp whole .restarted (by simp [log])
  cases noRestart

end FedWith

end Tracker

end Dialogue
