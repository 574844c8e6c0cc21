import Dialogue.Proofs.Tracker.Replay
import Dialogue.Story.Conflict

/-!
# What trackers go on with

The turns of a log are the turn states just before its executed actions, each of them
taken from the tracker of the events before the action.  A tracker predicts an action
after a window if its log executes that action and the window is the end of these turns
that the limit leaves.  The occurrences that the conflict search collects while it walks
along a log are exactly these predictions.
-/

namespace Dialogue

/-! ## Windows -/

/-- The window is the end of the turns that a limit leaves: as many turns as the limit
allows, and all of them where there is no limit or it is zero. -/
structure IsWindow (maxHistory : Option Nat) (turns window : List TurnState) : Prop where
  /-- The window is an end of the turns. -/
  suffix : window <:+ turns
  /-- No limit and a limit of zero keep all turns. -/
  uncut : maxHistory = none ∨ maxHistory = some 0 → window = turns
  /-- Any other limit keeps that many turns, if there are as many. -/
  cut : ∀ limit, maxHistory = some limit → 0 < limit → window.length = min limit turns.length

theorem lastTurns_of_pos {limit : Nat} (positive : 0 < limit) (states : List TurnState) :
    lastTurns states (some limit) = states.drop (states.length - limit) :=
  if_pos positive

/-- The last turns are a window. -/
theorem isWindow_lastTurns (maxHistory : Option Nat) (turns : List TurnState) :
    IsWindow maxHistory turns (lastTurns turns maxHistory) := by
  cases maxHistory with
  | none => exact ⟨List.suffix_rfl, fun _ => rfl, by simp⟩
  | some limit =>
      rcases Nat.eq_zero_or_pos limit with rfl | positive
      · exact ⟨List.suffix_rfl, fun _ => rfl, by simp⟩
      · rw [lastTurns_of_pos positive]
        refine ⟨List.drop_suffix _ _, ?_, ?_⟩
        · rintro (absent | zero)
          · cases absent
          · cases zero
            omega
        · rintro _ ⟨⟩ -
          rw [List.length_drop]
          omega

/-- The turns have one window. -/
theorem IsWindow.unique {maxHistory : Option Nat} {turns first second : List TurnState}
    (isFirst : IsWindow maxHistory turns first) (isSecond : IsWindow maxHistory turns second) :
    first = second := by
  by_cases uncut : maxHistory = none ∨ maxHistory = some 0
  · exact (isFirst.uncut uncut).trans (isSecond.uncut uncut).symm
  · obtain ⟨limit, rfl⟩ := Option.ne_none_iff_exists'.mp (not_or.mp uncut).1
    have positive : 0 < limit := by
      rcases Nat.eq_zero_or_pos limit with rfl | positive
      · exact absurd (.inr rfl) uncut
      · exact positive
    have length : first.length = second.length :=
      (isFirst.cut limit rfl positive).trans (isSecond.cut limit rfl positive).symm
    exact (List.suffix_of_suffix_length_le isFirst.suffix isSecond.suffix length.le).eq_of_length
      length

theorem isWindow_iff {maxHistory : Option Nat} {turns window : List TurnState} :
    IsWindow maxHistory turns window ↔ window = lastTurns turns maxHistory := by
  constructor
  · intro isWindow
    exact isWindow.unique (isWindow_lastTurns maxHistory turns)
  · rintro rfl
    exact isWindow_lastTurns maxHistory turns

/-! ## Predictions -/

namespace Tracker

variable (tracker : Tracker) (domain : Domain)

/-- The turn state after the first events of a log. -/
def turnAfter (before : List Event) : TurnState :=
  TurnState.ofTracker (ofEvents tracker.senderId tracker.schema before) domain

/-- The turn states just before the executed actions of a log, in order. -/
def turns (log : List Event) : List TurnState :=
  (List.range log.length).filterMap fun place =>
    if log[place]?.any Event.isAction then some (tracker.turnAfter domain (log.take place))
    else none

/-- The log of the tracker executes an action, and the window is the end of the turns up
to that action that the limit leaves. -/
def Predicts (maxHistory : Option Nat) (action : String) (window : List TurnState) : Prop :=
  ∃ before event after, tracker.events = before ++ event :: after ∧
    event.actionName? = some action ∧
    IsWindow maxHistory (tracker.turns domain (before ++ [event])) window

/-- An executed action adds one turn, and no other event adds any. -/
theorem turns_concat (log : List Event) (event : Event) :
    tracker.turns domain (log ++ [event]) =
      tracker.turns domain log ++
        if event.isAction then [tracker.turnAfter domain log] else [] := by
  unfold turns
  rw [List.length_append, List.length_singleton, List.range_succ, List.filterMap_append]
  congr 1
  · apply List.filterMap_congr
    intro place member
    have inside : place < log.length := List.mem_range.mp member
    rw [List.getElem?_append_left inside, List.take_append_of_le_length (Nat.le_of_lt inside)]
  · cases acts : event.isAction with
    | true => simp [acts]
    | false => simp [acts]

theorem ofEvents_concat (sender : String) (schema : SlotSchema) (log : List Event)
    (event : Event) :
    ofEvents sender schema (log ++ [event]) = (ofEvents sender schema log).append event :=
  List.foldl_concat ..

end Tracker

/-- Walking along the rest of a log collects the predictions of that rest. -/
theorem mem_occurrencesFrom_iff {domain : Domain} {maxHistory : Option Nat} {tracker : Tracker}
    {occurrence : Occurrence} {rest : List Event} (before : List Event) :
    occurrence ∈ occurrencesFrom domain maxHistory tracker.senderId
        (Tracker.ofEvents tracker.senderId tracker.schema before)
        (tracker.turns domain before) rest ↔
      occurrence.sender = tracker.senderId ∧
        ∃ between event after, rest = between ++ event :: after ∧
          event.actionName? = some occurrence.action ∧
          IsWindow maxHistory (tracker.turns domain (before ++ between ++ [event]))
            occurrence.window := by
  simp only [isWindow_iff]
  induction rest generalizing before with
  | nil => simp [occurrencesFrom]
  | cons event rest ih =>
      have later := ih (before ++ [event])
      rw [Tracker.ofEvents_concat] at later
      cases acts : event.actionName? with
      | none =>
          have turns : tracker.turns domain (before ++ [event]) = tracker.turns domain before := by
            rw [Tracker.turns_concat]
            simp [Event.isAction, acts]
          rw [turns] at later
          simp only [occurrencesFrom, acts]
          rw [later]
          apply and_congr_right
          intro _
          constructor
          · rintro ⟨between, acting, after, rfl, named, window⟩
            exact ⟨event :: between, acting, after, rfl, named, by simpa using window⟩
          · rintro ⟨between, acting, after, split, named, window⟩
            cases between with
            | nil =>
                obtain ⟨rfl, rfl⟩ := List.cons.inj split
                rw [acts] at named
                cases named
            | cons first between =>
                obtain ⟨rfl, rfl⟩ := List.cons.inj split
                exact ⟨between, acting, after, rfl, named, by simpa using window⟩
      | some action =>
          have turns : tracker.turns domain (before ++ [event]) =
              tracker.turns domain before ++ [tracker.turnAfter domain before] := by
            rw [Tracker.turns_concat]
            simp [Event.isAction, acts]
          have turns' := turns
          unfold Tracker.turnAfter at turns'
          simp only [occurrencesFrom, acts]
          rw [← turns', List.mem_cons, later]
          constructor
          · rintro (rfl | ⟨sender, between, acting, after, rfl, named, window⟩)
            · exact ⟨rfl, [], event, rest, rfl, acts, by simp⟩
            · exact ⟨sender, event :: between, acting, after, rfl, named, by simpa using window⟩
          · rintro ⟨sender, between, acting, after, split, named, window⟩
            cases between with
            | nil =>
                obtain ⟨rfl, rfl⟩ := List.cons.inj split
                rw [acts, Option.some.injEq] at named
                left
                cases occurrence
                simp_all
            | cons first between =>
                obtain ⟨rfl, rfl⟩ := List.cons.inj split
                exact .inr ⟨sender, between, acting, after, rfl, named, by simpa using window⟩

/-- The occurrences of a tracker are its predictions. -/
theorem mem_occurrences_iff {domain : Domain} {maxHistory : Option Nat} {tracker : Tracker}
    {occurrence : Occurrence} :
    occurrence ∈ occurrences domain maxHistory tracker ↔
      occurrence.sender = tracker.senderId ∧
        tracker.Predicts domain maxHistory occurrence.action occurrence.window :=
  mem_occurrencesFrom_iff []

/-- A prediction can be looked up among the occurrences. -/
theorem Tracker.predicts_iff_exists_occurrence {domain : Domain} {maxHistory : Option Nat}
    {tracker : Tracker} {action : String} {window : List TurnState} :
    tracker.Predicts domain maxHistory action window ↔
      ∃ occurrence ∈ occurrences domain maxHistory tracker,
        occurrence.action = action ∧ occurrence.window = window := by
  constructor
  · intro predicts
    exact ⟨⟨tracker.senderId, action, window⟩, mem_occurrences_iff.mpr ⟨rfl, predicts⟩, rfl, rfl⟩
  · rintro ⟨occurrence, member, rfl, rfl⟩
    exact (mem_occurrences_iff.mp member).2

instance (tracker : Tracker) (domain : Domain) (maxHistory : Option Nat) (action : String)
    (window : List TurnState) : Decidable (tracker.Predicts domain maxHistory action window) :=
  decidable_of_iff _ Tracker.predicts_iff_exists_occurrence.symm

end Dialogue
