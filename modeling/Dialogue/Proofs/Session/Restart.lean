import Dialogue.Proofs.Session.Undo

/-!
# Restarts

A restart isolates what comes after it from what came before.  The state, the log in effect
and the current stretch of a conversation that starts anew are those of a new conversation,
and so is what an undo records; no reversal reaches back beyond the restart.  A log can
therefore be taken apart at its restarts: the parts are its stretches, whole and in order,
and the last one alone leads to the state of the conversation.
-/

namespace Dialogue

/-! ## Isolation -/

theorem Event.stepKind?_of_isRestart {event : Event} (restart : event.isRestart = true) :
    event.stepKind? = none := by
  rcases event with ⟨change, _, _⟩
  cases change <;> first | rfl | cases restart

section

variable {restart : Event} (anew : restart.isRestart = true) (before after : List Event)

include anew

theorem lastStretch_append_restart :
    lastStretch (before ++ restart :: after) = lastStretch after := by
  induction after using List.reverseRecOn with
  | nil => exact lastStretch_concat_of_isRestart anew before
  | append_singleton after event ih =>
      rw [← List.cons_append, ← List.append_assoc]
      cases again : event.isRestart with
      | true => rw [lastStretch_concat_of_isRestart again, lastStretch_concat_of_isRestart again]
      | false => rw [lastStretch_concat again, lastStretch_concat again, ih]

/-- A restart is no step, and hides the steps before it. -/
theorem latestStep?_append_restart :
    latestStep? (before ++ restart :: after) = latestStep? after := by
  rcases eq_append_last_of_test Event.isLandmark after with
    quiet | ⟨kept, last, later, rfl, landmark, quiet⟩
  · have landmark : restart.isLandmark = true := by
      rw [Event.isLandmark, anew, Bool.or_true]
    rw [latestStep?_append_cons landmark quiet, latestStep?_eq_none quiet]
    exact Event.stepKind?_of_isRestart anew
  · rw [← List.cons_append, ← List.append_assoc, latestStep?_append_cons landmark quiet,
      latestStep?_append_cons landmark quiet]

end

namespace Tracker

variable {schema : SlotSchema} {before after : List Event} {restart : Event}
  {tracker fresh : Tracker}

/-- A conversation that starts anew cannot be told from a new one. -/
theorem FedWith.isolated (fed : FedWith schema (before ++ restart :: after) tracker)
    (anew : restart.isRestart = true) (fedFresh : FedWith schema after fresh) :
    tracker.state = fresh.state ∧ tracker.applied = fresh.applied ∧
      tracker.eventsSinceRestart = fresh.eventsSinceRestart ∧
      undoLatest tracker = undoLatest fresh := by
  have applied : tracker.applied = fresh.applied := by
    rw [fed.applied_eq, fedFresh.applied_eq]
    exact appliedEvents_append_restart anew before after
  have state : tracker.state = fresh.state := by
    rw [fed.applied_eq, fedFresh.applied_eq] at applied
    rw [fed.state_eq, fedFresh.state_eq, DialogueState.replay, applied, DialogueState.replay]
  have stretch : tracker.eventsSinceRestart = fresh.eventsSinceRestart := by
    rw [fed.stretch_eq, fedFresh.stretch_eq]
    exact lastStretch_append_restart anew before after
  have undo : undoLatest tracker = undoLatest fresh := by
    rw [undoLatest_eq, undoLatest_eq, fed.events_eq, fedFresh.events_eq,
      latestStep?_append_restart anew]
  exact ⟨state, applied, stretch, undo⟩

end Tracker

/-! ## Logs by their stretches -/

/-- A log without a restart is a single stretch, and any other log ends in a stretch, maybe
an empty one, that follows a restart. -/
@[elab_as_elim]
theorem stretchInduction {motive : List Event → Prop}
    (stretch : ∀ log, (∀ event ∈ log, event.isRestart = false) → motive log)
    (restart : ∀ before restart after, restart.isRestart = true →
      (∀ event ∈ after, event.isRestart = false) → motive before →
        motive (before ++ restart :: after))
    (log : List Event) : motive log := by
  -- The last stretch is collected event by event on the way back to the last restart.
  suffices collected : ∀ last : List Event, (∀ event ∈ last, event.isRestart = false) →
      motive (log ++ last) by
    simpa using collected [] (by simp)
  induction log using List.reverseRecOn with
  | nil => exact stretch
  | append_singleton log event ih =>
      intro last quiet
      rw [List.append_assoc]
      cases anew : event.isRestart with
      | true =>
          apply restart log event last anew quiet
          simpa using ih [] (by simp)
      | false => exact ih (event :: last) (List.forall_mem_cons.mpr ⟨anew, quiet⟩)

theorem stretches_ne_nil (log : List Event) : stretches log ≠ [] := by
  cases log with
  | nil => simp [stretches]
  | cons event rest =>
      rw [stretches]
      split
      · simp
      · split <;> simp

theorem stretches_of_noRestart {log : List Event}
    (quiet : ∀ event ∈ log, event.isRestart = false) : stretches log = [log] := by
  induction log with
  | nil => rfl
  | cons event rest ih =>
      rcases List.forall_mem_cons.mp quiet with ⟨first, others⟩
      rw [stretches, first, ih others]
      rfl

theorem stretches_append_restart {restart : Event} (anew : restart.isRestart = true)
    (before after : List Event) :
    stretches (before ++ restart :: after) = stretches before ++ stretches after := by
  induction before with
  | nil => simp [stretches, anew]
  | cons event rest ih =>
      rw [List.cons_append, stretches, stretches, ih]
      cases again : event.isRestart with
      | true => rfl
      | false =>
          rcases List.exists_cons_of_ne_nil (stretches_ne_nil rest) with ⟨first, others, split⟩
          rw [split]
          rfl

/-! ## The parts -/

section

variable {log : List Event}

theorem splitAtRestarts_append_restart {restart : Event} (anew : restart.isRestart = true)
    (before after : List Event) :
    splitAtRestarts (before ++ restart :: after) =
      splitAtRestarts before ++ splitAtRestarts after := by
  rw [splitAtRestarts, stretches_append_restart anew, List.filter_append]
  rfl

/-- A stretch is a part of its own, if something happened in it. -/
theorem splitAtRestarts_of_noRestart (quiet : ∀ event ∈ log, event.isRestart = false) :
    splitAtRestarts log = if log = [] then [] else [log] := by
  rw [splitAtRestarts, stretches_of_noRestart quiet]
  cases log <;> rfl

theorem splitAtRestarts_of_ne_nil (quiet : ∀ event ∈ log, event.isRestart = false)
    (inhabited : log ≠ []) : splitAtRestarts log = [log] := by
  rw [splitAtRestarts_of_noRestart quiet, if_neg inhabited]

end

/-- The events of a log that are no restarts. -/
def withoutRestarts (log : List Event) : List Event :=
  log.filter fun event => !event.isRestart

theorem withoutRestarts_of_noRestart {log : List Event}
    (quiet : ∀ event ∈ log, event.isRestart = false) : withoutRestarts log = log := by
  apply List.filter_eq_self.mpr
  intro event member
  rw [quiet event member]
  rfl

theorem withoutRestarts_append_restart {restart : Event} (anew : restart.isRestart = true)
    (before after : List Event) :
    withoutRestarts (before ++ restart :: after) =
      withoutRestarts before ++ withoutRestarts after := by
  simp [withoutRestarts, anew]

/-- The parts leave nothing out but the restarts, and keep the order. -/
theorem flatten_splitAtRestarts (log : List Event) :
    (splitAtRestarts log).flatten = withoutRestarts log := by
  have single : ∀ log, (∀ event ∈ log, event.isRestart = false) →
      (splitAtRestarts log).flatten = withoutRestarts log := by
    intro log quiet
    rw [splitAtRestarts_of_noRestart quiet, withoutRestarts_of_noRestart quiet]
    cases log <;> simp
  induction log using stretchInduction with
  | stretch log quiet => exact single log quiet
  | restart before restart after anew quiet ih =>
      rw [splitAtRestarts_append_restart anew, withoutRestarts_append_restart anew,
        List.flatten_append, ih, single after quiet]

/-- A stretch of a log with what comes before and after it: something happens in it but no
restart, and it reaches on either side to a restart or to the end of the log. -/
structure IsStretch (log before part after : List Event) : Prop where
  split : log = before ++ part ++ after
  inhabited : part ≠ []
  noRestart : ∀ event ∈ part, event.isRestart = false
  opens : ∀ event ∈ before.getLast?, event.isRestart = true
  closes : ∀ event ∈ after.head?, event.isRestart = true

namespace IsStretch

variable {log before part after : List Event}

theorem of_noRestart (quiet : ∀ event ∈ log, event.isRestart = false) (inhabited : log ≠ []) :
    IsStretch log [] log [] where
  split := by simp
  inhabited := inhabited
  noRestart := quiet
  opens := by simp
  closes := by simp

variable {restart : Event} (anew : restart.isRestart = true)

include anew

/-- A stretch stays one if the conversation starts anew and goes on. -/
theorem append_restart (stretch : IsStretch log before part after) (later : List Event) :
    IsStretch (log ++ restart :: later) before part (after ++ restart :: later) where
  split := by rw [stretch.split, List.append_assoc]
  inhabited := stretch.inhabited
  noRestart := stretch.noRestart
  opens := stretch.opens
  closes := by
    cases after with
    | nil => simp [anew]
    | cons event rest => exact stretch.closes

/-- A stretch is one after a restart too, whatever came before. -/
theorem cons_restart (stretch : IsStretch log before part after) (earlier : List Event) :
    IsStretch (earlier ++ restart :: log) (earlier ++ restart :: before) part after where
  split := by simp [stretch.split]
  inhabited := stretch.inhabited
  noRestart := stretch.noRestart
  opens := by
    cases before using List.reverseRecOn with
    | nil => simp [anew]
    | append_singleton before event =>
        rw [← List.cons_append, ← List.append_assoc, List.getLast?_concat]
        exact fun last same => stretch.opens last (by simpa using same)
  closes := stretch.closes

end IsStretch

/-- Each part is a stretch of the log, and the parts before and after it are those of what
comes before and after the stretch. -/
theorem exists_stretch_of_splitAtRestarts {log part : List Event}
    {earlier later : List (List Event)} (parts : splitAtRestarts log = earlier ++ part :: later) :
    ∃ before after, IsStretch log before part after ∧
      splitAtRestarts before = earlier ∧ splitAtRestarts after = later := by
  have single : ∀ log, (∀ event ∈ log, event.isRestart = false) → ∀ earlier later,
      splitAtRestarts log = earlier ++ part :: later →
        log ≠ [] ∧ earlier = [] ∧ part = log ∧ later = [] := by
    intro log quiet earlier later parts
    rw [splitAtRestarts_of_noRestart quiet] at parts
    split at parts
    · simp at parts
    · rename_i inhabited
      rcases List.singleton_eq_append_iff.mp parts with ⟨rfl, same⟩ | ⟨_, absurd⟩
      · cases same
        exact ⟨inhabited, rfl, rfl, rfl⟩
      · cases absurd
  induction log using stretchInduction generalizing earlier later with
  | stretch log quiet =>
      rcases single log quiet earlier later parts with ⟨inhabited, rfl, rfl, rfl⟩
      exact ⟨[], [], .of_noRestart quiet inhabited, rfl, rfl⟩
  | restart before restart after anew quiet ih =>
      have last : ∀ between, splitAtRestarts after = between ++ part :: later →
          splitAtRestarts before ++ between = earlier →
          ∃ front rear, IsStretch (before ++ restart :: after) front part rear ∧
            splitAtRestarts front = earlier ∧ splitAtRestarts rear = later := by
        rintro between rest rfl
        rcases single after quiet between later rest with ⟨inhabited, rfl, rfl, rfl⟩
        refine ⟨_, _, (IsStretch.of_noRestart quiet inhabited).cons_restart anew before, ?_, rfl⟩
        rw [splitAtRestarts_append_restart anew]
        rfl
      rw [splitAtRestarts_append_restart anew] at parts
      rcases List.append_eq_append_iff.mp parts with
        ⟨between, split, rest⟩ | ⟨between, split, rest⟩
      · exact last between rest split.symm
      · cases between with
        | nil => exact last [] rest.symm (by simpa using split)
        | cons first others =>
            rcases List.cons.inj rest with ⟨rfl, rfl⟩
            rcases ih split with ⟨front, rear, stretch, rfl, rfl⟩
            refine ⟨front, _, stretch.append_restart anew after, rfl, ?_⟩
            exact splitAtRestarts_append_restart anew rear after

/-- Between two parts of a log there is a restart. -/
theorem exists_restart_of_splitAtRestarts {log left right : List Event}
    {earlier between later : List (List Event)}
    (parts : splitAtRestarts log = earlier ++ left :: between ++ right :: later) :
    ∃ before gap after, log = before ++ left ++ gap ++ right ++ after ∧
      (∃ event ∈ gap, event.isRestart = true) ∧ splitAtRestarts before = earlier ∧
      splitAtRestarts gap = between ∧ splitAtRestarts after = later := by
  rw [List.append_assoc, List.cons_append] at parts
  rcases exists_stretch_of_splitAtRestarts parts with ⟨before, rest, leftStretch, first, others⟩
  rcases exists_stretch_of_splitAtRestarts others with ⟨gap, after, rightStretch, middle, last⟩
  refine ⟨before, gap, after, ?_, ?_, first, middle, last⟩
  · rw [leftStretch.split, rightStretch.split]
    simp
  · -- Without a restart in between, the right part would begin with the one that ends the left.
    have closes := leftStretch.closes
    rw [rightStretch.split] at closes
    cases gap with
    | nil =>
        rcases List.exists_cons_of_ne_nil rightStretch.inhabited with ⟨event, others, rfl⟩
        have restart := closes event rfl
        rw [rightStretch.noRestart event List.mem_cons_self] at restart
        cases restart
    | cons event others => exact ⟨event, List.mem_cons_self, closes event rfl⟩

/-- The last part is the last stretch, if something has happened since the last restart. -/
theorem getLast?_splitAtRestarts {log : List Event} {last : Event}
    (ends : log.getLast? = some last) (goesOn : last.isRestart = false) :
    (splitAtRestarts log).getLast? = some (lastStretch log) := by
  have inhabited : lastStretch log ≠ [] := by
    rcases List.getLast?_eq_some_iff.mp ends with ⟨front, rfl⟩
    rw [lastStretch_concat goesOn]
    simp
  have quiet : ∀ event ∈ lastStretch log, event.isRestart = false := by
    intro event member
    simpa using List.mem_rtakeWhile_imp member
  have single := splitAtRestarts_of_ne_nil quiet inhabited
  rcases lastStretch_cases log with whole | ⟨before, restart, anew, split⟩
  · rw [whole] at single ⊢
    rw [single]
    rfl
  · nth_rewrite 1 [split]
    rw [splitAtRestarts_append_restart anew, single, List.getLast?_concat]

/-- The parts of a log are its stretches in order. -/
structure PartedAtRestarts (log : List Event) (parts : List (List Event)) : Prop where
  /-- Nothing is left out but the restarts. -/
  flatten_eq : parts.flatten = withoutRestarts log
  /-- In every part something happens, but no restart. -/
  inhabited : ∀ part ∈ parts, part ≠ [] ∧ ∀ event ∈ part, event.isRestart = false
  /-- A part stands in the log without a gap, from one restart or end of the log to the next,
  and the other parts come before or after it. -/
  stretch : ∀ earlier part later, parts = earlier ++ part :: later →
    ∃ before after, IsStretch log before part after ∧
      withoutRestarts before = earlier.flatten ∧ withoutRestarts after = later.flatten
  /-- Any two parts have a restart between them. -/
  apart : ∀ earlier left between right later,
    parts = earlier ++ left :: between ++ right :: later →
      ∃ before gap after, log = before ++ left ++ gap ++ right ++ after ∧
        (∃ event ∈ gap, event.isRestart = true) ∧ withoutRestarts before = earlier.flatten ∧
        withoutRestarts gap = between.flatten ∧ withoutRestarts after = later.flatten

theorem partedAtRestarts (log : List Event) : PartedAtRestarts log (splitAtRestarts log) where
  flatten_eq := flatten_splitAtRestarts log
  inhabited := by
    intro part member
    rcases List.append_of_mem member with ⟨earlier, later, parts⟩
    rcases exists_stretch_of_splitAtRestarts parts with ⟨_, _, stretch, _, _⟩
    exact ⟨stretch.inhabited, stretch.noRestart⟩
  stretch := by
    intro earlier part later parts
    rcases exists_stretch_of_splitAtRestarts parts with ⟨before, after, stretch, rfl, rfl⟩
    refine ⟨before, after, stretch, ?_, ?_⟩
    all_goals exact (flatten_splitAtRestarts _).symm
  apart := by
    intro earlier left between right later parts
    rcases exists_restart_of_splitAtRestarts parts with
      ⟨before, gap, after, split, restart, rfl, rfl, rfl⟩
    refine ⟨before, gap, after, split, restart, ?_, ?_, ?_⟩
    all_goals exact (flatten_splitAtRestarts _).symm

/-- Restarts isolate and part a conversation.  After a restart, state, log in effect,
current stretch and the next undo are those of a new conversation with the later events
alone.  Any log is parted at its restarts into its stretches, and unless the log is empty or
ends with a restart, its last part alone leads to the state of the whole. -/
theorem restarts_isolate_and_part (schema : SlotSchema) :
    (∀ before restart after tracker fresh, restart.isRestart = true →
      Tracker.FedWith schema (before ++ restart :: after) tracker →
      Tracker.FedWith schema after fresh →
        tracker.state = fresh.state ∧ tracker.applied = fresh.applied ∧
        tracker.eventsSinceRestart = fresh.eventsSinceRestart ∧
        undoLatest tracker = undoLatest fresh) ∧
    (∀ log, PartedAtRestarts log (splitAtRestarts log)) ∧
    (∀ log last, log.getLast? = some last → last.isRestart = false →
      ∃ part, (splitAtRestarts log).getLast? = some part ∧
        ∀ tracker fresh, Tracker.FedWith schema log tracker →
          Tracker.FedWith schema part fresh → fresh.state = tracker.state) := by
  refine ⟨?_, partedAtRestarts, ?_⟩
  · intro before restart after tracker fresh anew fed fedFresh
    exact fed.isolated anew fedFresh
  · intro log last ends goesOn
    refine ⟨lastStretch log, getLast?_splitAtRestarts ends goesOn, ?_⟩
    intro tracker fresh fed fedFresh
    rw [fed.state_eq, fedFresh.state_eq, DialogueState.replay_lastStretch]

/-- The user starts anew before an answer could be taken back, and twice more later on.  The
reversals after the first restart find nothing that they could take back. -/
theorem restarts_isolate_and_part_after_reversals :
    let schema : SlotSchema := Table.ofList [("city", .null)]
    let before : List Event := [.listen, .user (UserMessage.ofText "hello"),
      .action "action_guess", .slotSet "city" (.string "Oslo"), .actionReverted]
    let after : List Event := [.utteranceReverted, .actionReverted, .listen, .restarted,
      .restarted, .action "utter_greet", .slotSet "city" (.string "Rome")]
    let log := before ++ .restarted :: after
    let tracker := Tracker.ofEvents "trip" schema log
    let fresh := Tracker.ofEvents "other" schema after
    let last := Tracker.ofEvents "last" schema (after.drop 5)
    tracker.state = fresh.state ∧ undoLatest tracker = undoLatest fresh ∧
      splitAtRestarts log = [before, after.take 3, after.drop 5] ∧
      PartedAtRestarts log (splitAtRestarts log) ∧ last.state = tracker.state := by
  intro schema before after log tracker fresh last
  rcases restarts_isolate_and_part schema with ⟨isolate, part, lastPart⟩
  have fed : Tracker.FedWith schema log tracker := .ofEvents "trip" log
  rcases isolate before .restarted after tracker fresh rfl fed (.ofEvents "other" after) with
    ⟨state, _, _, undo⟩
  have parts : splitAtRestarts log = [before, after.take 3, after.drop 5] := rfl
  rcases lastPart log (.slotSet "city" (.string "Rome")) rfl rfl with ⟨_, isLast, same⟩
  rw [parts] at isLast
  cases isLast
  exact ⟨state, undo, parts, part log, same tracker last fed (.ofEvents "last" _)⟩

end Dialogue
