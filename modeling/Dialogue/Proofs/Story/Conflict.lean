import Dialogue.Proofs.Story.Histories
import Dialogue.Proofs.Story.Occurrence
import Mathlib.Data.Set.Function

/-!
# The conflicts among trackers

The conflict search compares windows by their hashes.  Where the hash tells the
windows of the trackers apart, it reports a window exactly if the trackers disagree
on the action after it, with all actions that compete and the first few conversations
for each.  Apart from these examples, the report does not depend on the order of the
trackers nor on repetitions.
-/

namespace Dialogue

open TurnState (fingerprint)

variable (trackers : List Tracker) (domain : Domain) (maxHistory : Option Nat)

/-- Some tracker goes on with the action after the window. -/
def Predicted (action : String) (window : List TurnState) : Prop :=
  ∃ tracker ∈ trackers, tracker.Predicts domain maxHistory action window

/-- The windows after which some tracker goes on. -/
def windows : Set (List TurnState) :=
  {window | ∃ action, Predicted trackers domain maxHistory action window}

/-- The first five different conversations, in the order of the trackers, that go on with
the action after the window. -/
def exampleSenders (action : String) (window : List TurnState) : List String :=
  ((trackers.filter fun tracker =>
    decide (tracker.Predicts domain maxHistory action window)).map
      Tracker.senderId).eraseDups.take 5

/-- The occurrences of all trackers in order. -/
def allOccurrences : List Occurrence :=
  trackers.flatMap (occurrences domain maxHistory)

/-- What a conflict says apart from its examples. -/
def StoryConflict.outline (conflict : StoryConflict) :
    String × List String × List TurnState :=
  (conflict.historyHash, conflict.actions, conflict.states)

variable {trackers domain maxHistory}

theorem predicted_iff_exists_occurrence {action : String} {window : List TurnState} :
    Predicted trackers domain maxHistory action window ↔
      ∃ occurrence ∈ allOccurrences trackers domain maxHistory,
        occurrence.action = action ∧ occurrence.window = window := by
  unfold Predicted allOccurrences
  simp only [Tracker.predicts_iff_exists_occurrence, List.mem_flatMap]
  constructor
  · rintro ⟨tracker, member, occurrence, occurs, both⟩
    exact ⟨occurrence, ⟨tracker, member, occurs⟩, both⟩
  · rintro ⟨occurrence, ⟨tracker, member, occurs⟩, both⟩
    exact ⟨tracker, member, occurrence, occurs, both⟩

theorem window_mem_windows {occurrence : Occurrence}
    (member : occurrence ∈ allOccurrences trackers domain maxHistory) :
    occurrence.window ∈ windows trackers domain maxHistory :=
  ⟨occurrence.action, predicted_iff_exists_occurrence.mpr ⟨occurrence, member, rfl, rfl⟩⟩

/-- The windows are those of the occurrences. -/
theorem mem_windows_iff {trackers : List Tracker} {domain : Domain} {maxHistory : Option Nat}
    {window : List TurnState} :
    window ∈ windows trackers domain maxHistory ↔
      window ∈ (allOccurrences trackers domain maxHistory).map Occurrence.window := by
  rw [List.mem_map]
  constructor
  · rintro ⟨action, predicted⟩
    obtain ⟨occurrence, member, _, isWindow⟩ := predicted_iff_exists_occurrence.mp predicted
    exact ⟨occurrence, member, isWindow⟩
  · rintro ⟨occurrence, member, rfl⟩
    exact window_mem_windows member

/-- Where all windows are among some lists of turns, the hash tells the windows apart if
it tells these lists apart. -/
theorem injOn_windows (listed : List (List TurnState))
    (all : ∀ occurrence ∈ allOccurrences trackers domain maxHistory, occurrence.window ∈ listed)
    (apart : (listed.map fingerprint).Nodup) :
    Set.InjOn fingerprint (windows trackers domain maxHistory) := by
  have among : ∀ window ∈ windows trackers domain maxHistory, window ∈ listed := by
    intro window isWindow
    obtain ⟨occurrence, member, rfl⟩ := List.mem_map.mp (mem_windows_iff.mp isWindow)
    exact all occurrence member
  intro first isFirst second isSecond equal
  exact List.inj_on_of_nodup_map apart (among first isFirst) (among second isSecond) equal

/-- More than one name stands in a table if two different names have a value. -/
theorem one_lt_size_iff {α : Type} {table : Table α} :
    1 < table.size ↔ ∃ first second, first ≠ second ∧
      (table.find? first).isSome = true ∧ (table.find? second).isSome = true := by
  simp only [← Table.mem_keys_iff]
  have size : table.size = table.keys.length := by simp [Table.size, Table.keys]
  have nodup : table.keys.Nodup := table.sorted.nodup
  rw [size]
  constructor
  · intro several
    match keys : table.keys with
    | [] => simp [keys] at several
    | [only] => simp [keys] at several
    | first :: second :: rest =>
        rw [keys] at nodup
        refine ⟨first, second, ?_, by simp, by simp⟩
        rintro rfl
        simp at nodup
  · rintro ⟨first, second, differ, hasFirst, hasSecond⟩
    match keys : table.keys with
    | [] => simp [keys] at hasFirst
    | [only] =>
        rw [keys, List.mem_singleton] at hasFirst hasSecond
        exact absurd (hasFirst.trans hasSecond.symm) differ
    | first :: second :: rest => simp

/-! ## One conflict -/

/-- A conflict is a hash under which more than one action was noted. -/
theorem mem_storyConflicts_iff {conflict : StoryConflict} :
    conflict ∈ storyConflicts trackers domain maxHistory ↔
      ((allOccurrences trackers domain maxHistory).foldl Histories.note
          Table.empty).find? conflict.historyHash = some (conflict.states, conflict.examples) ∧
        1 < conflict.examples.size := by
  unfold storyConflicts
  rw [List.mem_filterMap, Table.find?_eq_some_iff]
  constructor
  · rintro ⟨⟨hash, window, examples⟩, member, kept⟩
    by_cases several : 1 < examples.size
    · simp only [several, if_true, Option.some.injEq] at kept
      rw [← kept]
      exact ⟨member, several⟩
    · simp [several] at kept
  · rintro ⟨member, several⟩
    exact ⟨_, member, by simp [several]⟩

/-- The list of conflicts is in the strict order of their hashes. -/
theorem pairwise_historyHash :
    (storyConflicts trackers domain maxHistory).Pairwise fun first second =>
      first.historyHash < second.historyHash := by
  unfold storyConflicts
  rw [List.pairwise_filterMap]
  refine List.Pairwise.imp ?_ (Table.sorted _)
  rintro ⟨firstHash, firstWindow, firstExamples⟩ ⟨secondHash, secondWindow, secondExamples⟩ less
    first isFirst second isSecond
  simp only [Option.ite_none_right_eq_some, Option.some.injEq] at isFirst isSecond
  rw [← isFirst.2, ← isSecond.2]
  exact less

section Injective

variable (injective : Set.InjOn fingerprint (windows trackers domain maxHistory))

include injective

/-- Where the hash tells windows apart, what was noted under the hash of a window is
what the trackers show after that window. -/
theorem sendersUnder_fingerprint {window : List TurnState}
    (isWindow : window ∈ windows trackers domain maxHistory) (action : String) :
    sendersUnder (allOccurrences trackers domain maxHistory) (fingerprint window) action =
      trackers.flatMap fun tracker =>
        ((occurrences domain maxHistory tracker).filter fun occurrence =>
          decide (occurrence.window = window ∧ occurrence.action = action)).map
            Occurrence.sender := by
  have same : ∀ occurrence ∈ allOccurrences trackers domain maxHistory,
      decide (fingerprint occurrence.window = fingerprint window ∧ occurrence.action = action) =
        decide (occurrence.window = window ∧ occurrence.action = action) := by
    intro occurrence member
    have hash_iff := injective.eq_iff (window_mem_windows member) isWindow
    simp only [hash_iff]
  unfold sendersUnder
  rw [List.filter_congr same, allOccurrences, List.filter_flatMap, List.map_flatMap]

theorem foldl_addExample_sendersUnder {window : List TurnState}
    (isWindow : window ∈ windows trackers domain maxHistory) (action : String) :
    (sendersUnder (allOccurrences trackers domain maxHistory) (fingerprint window)
        action).foldl addExample [] =
      exampleSenders trackers domain maxHistory action window := by
  have senders : ∀ tracker, ∀ sender ∈
      ((occurrences domain maxHistory tracker).filter fun occurrence =>
        decide (occurrence.window = window ∧ occurrence.action = action)).map Occurrence.sender,
      sender = tracker.senderId := by
    intro tracker sender member
    obtain ⟨occurrence, kept, rfl⟩ := List.mem_map.mp member
    exact (mem_occurrences_iff.mp (List.mem_filter.mp kept).1).1
  rw [foldl_addExample, sendersUnder_fingerprint injective isWindow,
    eraseDups_flatMap Tracker.senderId _ senders]
  unfold exampleSenders
  congr 3
  apply List.filter_congr
  intro tracker _
  rw [Bool.eq_iff_iff, decide_eq_true_iff, Tracker.predicts_iff_exists_occurrence]
  simp [and_comm]

theorem examplesUnder?_isSome_iff_predicted {window : List TurnState}
    (isWindow : window ∈ windows trackers domain maxHistory) {action : String} :
    (examplesUnder? (allOccurrences trackers domain maxHistory) (fingerprint window)
        action).isSome = true ↔ Predicted trackers domain maxHistory action window := by
  rw [examplesUnder?_isSome_iff, predicted_iff_exists_occurrence]
  constructor
  · rintro ⟨occurrence, member, hash, named⟩
    exact ⟨occurrence, member, named, injective (window_mem_windows member) isWindow hash⟩
  · rintro ⟨occurrence, member, named, rfl⟩
    exact ⟨occurrence, member, rfl, named⟩

/-- What a reported conflict says: its hash is that of its window, its actions are those
that some tracker takes after the window, and the examples of each are the first few
conversations that take it. -/
theorem conflict_spec {conflict : StoryConflict}
    (reported : conflict ∈ storyConflicts trackers domain maxHistory) :
    conflict.historyHash = fingerprint conflict.states ∧
      ∀ action,
        ((conflict.examples.find? action).isSome = true ↔
          Predicted trackers domain maxHistory action conflict.states) ∧
        (Predicted trackers domain maxHistory action conflict.states →
          conflict.examples.find? action =
            some (exampleSenders trackers domain maxHistory action conflict.states)) := by
  obtain ⟨found, _⟩ := mem_storyConflicts_iff.mp reported
  obtain ⟨⟨occurrence, member, isWindow, hash⟩, examples⟩ :=
    (Histories.records_foldl_note _).present found
  have inWindows : conflict.states ∈ windows trackers domain maxHistory :=
    isWindow ▸ window_mem_windows member
  refine ⟨hash.symm, fun action => ?_⟩
  rw [examples, ← hash]
  have some_iff :
      (examplesUnder? (allOccurrences trackers domain maxHistory) (fingerprint conflict.states)
        action).isSome = true ↔ Predicted trackers domain maxHistory action conflict.states :=
    examplesUnder?_isSome_iff_predicted injective inWindows
  refine ⟨some_iff, fun predicted => ?_⟩
  obtain ⟨senders, isSome⟩ := Option.isSome_iff_exists.mp (some_iff.mpr predicted)
  have senders_eq := examplesUnder?_getD (allOccurrences trackers domain maxHistory)
    (fingerprint conflict.states) action
  rw [foldl_addExample_sendersUnder injective inWindows, isSome] at senders_eq
  rw [isSome, ← senders_eq]
  rfl

/-- A window is reported exactly if different actions follow it. -/
theorem exists_conflict_iff {window : List TurnState} :
    (∃ conflict ∈ storyConflicts trackers domain maxHistory, conflict.states = window) ↔
      ∃ first second, first ≠ second ∧ Predicted trackers domain maxHistory first window ∧
        Predicted trackers domain maxHistory second window := by
  constructor
  · rintro ⟨conflict, reported, rfl⟩
    obtain ⟨_, actions⟩ := conflict_spec injective reported
    obtain ⟨first, second, differ, hasFirst, hasSecond⟩ :=
      one_lt_size_iff.mp (mem_storyConflicts_iff.mp reported).2
    exact ⟨first, second, differ, (actions first).1.mp hasFirst, (actions second).1.mp hasSecond⟩
  · rintro ⟨first, second, differ, isFirst, isSecond⟩
    have isWindow : window ∈ windows trackers domain maxHistory := ⟨first, isFirst⟩
    have records := Histories.records_foldl_note (allOccurrences trackers domain maxHistory)
    obtain ⟨occurrence, member, _, ofWindow⟩ := predicted_iff_exists_occurrence.mp isFirst
    cases found : ((allOccurrences trackers domain maxHistory).foldl Histories.note
        Table.empty).find? (fingerprint window) with
    | none => exact absurd (congrArg fingerprint ofWindow) (records.absent found occurrence member)
    | some entry =>
        obtain ⟨held, examples⟩ := entry
        obtain ⟨⟨other, isOther, rfl, hash⟩, actions⟩ := records.present found
        obtain rfl := injective (window_mem_windows isOther) isWindow hash
        have several : 1 < examples.size := by
          refine one_lt_size_iff.mpr ⟨first, second, differ, ?_, ?_⟩
          · rw [actions]
            exact (examplesUnder?_isSome_iff_predicted injective isWindow).mpr isFirst
          · rw [actions]
            exact (examplesUnder?_isSome_iff_predicted injective isWindow).mpr isSecond
        exact ⟨⟨_, examples, _⟩, mem_storyConflicts_iff.mpr ⟨found, several⟩, rfl⟩

/-- Nothing is reported exactly if the windows determine the actions. -/
theorem storyConflicts_eq_nil_iff :
    storyConflicts trackers domain maxHistory = [] ↔
      ∃ predict : List TurnState → String, ∀ tracker ∈ trackers, ∀ action window,
        tracker.Predicts domain maxHistory action window → predict window = action := by
  constructor
  · intro none
    have unique : ∀ first second window, Predicted trackers domain maxHistory first window →
        Predicted trackers domain maxHistory second window → first = second := by
      intro first second window isFirst isSecond
      by_contra differ
      obtain ⟨conflict, reported, _⟩ :=
        (exists_conflict_iff injective).mpr ⟨first, second, differ, isFirst, isSecond⟩
      rw [none] at reported
      cases reported
    have chosen : ∀ window, ∃ action, ∀ other,
        Predicted trackers domain maxHistory other window → action = other := by
      intro window
      by_cases some : ∃ action, Predicted trackers domain maxHistory action window
      · obtain ⟨action, isAction⟩ := some
        exact ⟨action, fun other isOther => unique action other window isAction isOther⟩
      · exact ⟨"", fun other isOther => absurd ⟨other, isOther⟩ some⟩
    choose predict follows using chosen
    exact ⟨predict, fun tracker member action window predicts =>
      follows window action ⟨tracker, member, predicts⟩⟩
  · rintro ⟨predict, follows⟩
    rw [List.eq_nil_iff_forall_not_mem]
    intro conflict reported
    obtain ⟨first, second, differ, ⟨one, oneMem, isFirst⟩, other, otherMem, isSecond⟩ :=
      (exists_conflict_iff injective).mp ⟨conflict, reported, rfl⟩
    exact differ ((follows one oneMem first _ isFirst).symm.trans
      (follows other otherMem second _ isSecond))

/-- The actions that compete are those that some tracker takes after the window. -/
theorem mem_actions_iff {conflict : StoryConflict}
    (reported : conflict ∈ storyConflicts trackers domain maxHistory) {action : String} :
    action ∈ conflict.actions ↔ Predicted trackers domain maxHistory action conflict.states :=
  Table.mem_keys_iff.trans ((conflict_spec injective reported).2 action).1

/-! ## The order of the trackers -/

section SameTrackers

variable {others : List Tracker} (same : ∀ tracker, tracker ∈ others ↔ tracker ∈ trackers)

omit injective

include same

theorem predicted_congr (action : String) (window : List TurnState) :
    Predicted others domain maxHistory action window ↔
      Predicted trackers domain maxHistory action window := by
  unfold Predicted
  simp only [same]

theorem windows_congr :
    windows others domain maxHistory = windows trackers domain maxHistory := by
  unfold windows
  simp only [predicted_congr same]

include injective

theorem injective_congr : Set.InjOn fingerprint (windows others domain maxHistory) := by
  rw [windows_congr same]
  exact injective

/-- Every conflict stands again among the conflicts of the same trackers in any other
order and number. -/
theorem exists_counterpart {conflict : StoryConflict}
    (reported : conflict ∈ storyConflicts trackers domain maxHistory) :
    ∃ counterpart ∈ storyConflicts others domain maxHistory,
      counterpart.outline = conflict.outline := by
  have injective' := injective_congr injective same
  obtain ⟨first, second, differ, isFirst, isSecond⟩ :=
    (exists_conflict_iff injective).mp ⟨conflict, reported, rfl⟩
  obtain ⟨counterpart, isCounterpart, states⟩ :=
    (exists_conflict_iff injective').mpr ⟨first, second, differ,
      (predicted_congr same first conflict.states).mpr isFirst,
      (predicted_congr same second conflict.states).mpr isSecond⟩
  have hash : counterpart.historyHash = conflict.historyHash := by
    rw [(conflict_spec injective reported).1, (conflict_spec injective' isCounterpart).1, states]
  have actions : counterpart.actions = conflict.actions := by
    refine eq_of_mem_iff_of_pairwise_lt id (Table.pairwise_keys _) (Table.pairwise_keys _) ?_
    intro action
    rw [mem_actions_iff injective reported, mem_actions_iff injective' isCounterpart, states]
    exact predicted_congr same action conflict.states
  refine ⟨counterpart, isCounterpart, ?_⟩
  unfold StoryConflict.outline
  rw [hash, actions, states]

/-- Apart from the examples, the conflicts do not depend on the order of the trackers
nor on how often each of them is there. -/
theorem map_outline_congr :
    (storyConflicts others domain maxHistory).map StoryConflict.outline =
      (storyConflicts trackers domain maxHistory).map StoryConflict.outline := by
  have injective' := injective_congr injective same
  refine eq_of_mem_iff_of_pairwise_lt Prod.fst (List.pairwise_map.mpr pairwise_historyHash)
    (List.pairwise_map.mpr pairwise_historyHash) fun outline => ?_
  rw [List.mem_map, List.mem_map]
  constructor
  · rintro ⟨conflict, reported, rfl⟩
    exact exists_counterpart injective' (fun tracker => (same tracker).symm) reported
  · rintro ⟨conflict, reported, rfl⟩
    exact exists_counterpart injective same reported

/-- Where the trackers in the other order also give the same examples, every conflict
stands among theirs. -/
theorem mem_of_exampleSenders_eq
    (examples : ∀ action window, exampleSenders others domain maxHistory action window =
      exampleSenders trackers domain maxHistory action window)
    {conflict : StoryConflict} (reported : conflict ∈ storyConflicts trackers domain maxHistory) :
    conflict ∈ storyConflicts others domain maxHistory := by
  have injective' := injective_congr injective same
  obtain ⟨⟨hash, held, states⟩, isCounterpart, outline⟩ :=
    exists_counterpart injective same reported
  obtain ⟨rfl, rest⟩ := Prod.mk.inj outline
  obtain ⟨-, rfl⟩ := Prod.mk.inj rest
  have table : held = conflict.examples := by
    apply Table.ext_find?
    intro action
    obtain ⟨isSome, isExamples⟩ := (conflict_spec injective reported).2 action
    obtain ⟨isSome', isExamples'⟩ := (conflict_spec injective' isCounterpart).2 action
    have predicted_iff : Predicted others domain maxHistory action conflict.states ↔
        Predicted trackers domain maxHistory action conflict.states :=
      predicted_congr same action conflict.states
    by_cases predicted : Predicted trackers domain maxHistory action conflict.states
    · rw [isExamples predicted, isExamples' (predicted_iff.mpr predicted), examples]
    · have none := mt isSome.mp predicted
      have none' := mt isSome'.mp (mt predicted_iff.mp predicted)
      simp only [Bool.not_eq_true, Option.isSome_eq_false_iff, Option.isNone_iff_eq_none]
        at none none'
      rw [none, none']
  rw [table] at isCounterpart
  exact isCounterpart

end SameTrackers

/-- A tracker that is listed once more, behind where it stands already, changes nothing. -/
theorem storyConflicts_repeat {before after : List Tracker} {tracker : Tracker}
    (split : trackers = before ++ after) (repeated : tracker ∈ before) :
    storyConflicts (before ++ tracker :: after) domain maxHistory =
      storyConflicts trackers domain maxHistory := by
  have same : ∀ other, other ∈ before ++ tracker :: after ↔ other ∈ trackers := by
    intro other
    rw [split, List.mem_append, List.mem_append, List.mem_cons]
    constructor
    · rintro (isBefore | rfl | isAfter)
      · exact .inl isBefore
      · exact .inl repeated
      · exact .inr isAfter
    · rintro (isBefore | isAfter)
      · exact .inl isBefore
      · exact .inr (.inr isAfter)
  have examples : ∀ action window,
      exampleSenders (before ++ tracker :: after) domain maxHistory action window =
        exampleSenders trackers domain maxHistory action window := by
    intro action window
    unfold exampleSenders
    rw [split]
    simp only [List.filter_append, List.filter_cons, List.map_append]
    split
    · rename_i predicts
      have there : tracker.senderId ∈ (before.filter fun tracker =>
          decide (tracker.Predicts domain maxHistory action window)).map Tracker.senderId :=
        List.mem_map_of_mem (List.mem_filter.mpr ⟨repeated, predicts⟩)
      rw [List.map_cons, eraseDups_append_cons_of_mem there]
    · rfl
  have injective' := injective_congr injective same
  refine eq_of_mem_iff_of_pairwise_lt StoryConflict.historyHash pairwise_historyHash
    pairwise_historyHash fun conflict => ?_
  constructor
  · exact mem_of_exampleSenders_eq injective' (fun other => (same other).symm)
      fun action window => (examples action window).symm
  · exact mem_of_exampleSenders_eq injective same examples

end Injective

/-- The conflict search is exact for a hash that tells the windows of the trackers
apart.  A window is reported exactly if two different actions follow it; the report
names these actions, and for each of them the first few conversations that take it;
the reports are in the strict order of their hashes.  There is no report exactly if the
windows determine the actions.  Apart from the examples, the reports depend on which
trackers there are, not on their order and number, and a tracker that is listed again
later on changes nothing at all. -/
theorem storyConflicts_exact (trackers : List Tracker) (domain : Domain)
    (maxHistory : Option Nat)
    (injective : Set.InjOn fingerprint (windows trackers domain maxHistory)) :
    (∀ window,
      (∃ conflict ∈ storyConflicts trackers domain maxHistory, conflict.states = window) ↔
        ∃ first second, first ≠ second ∧
          Predicted trackers domain maxHistory first window ∧
          Predicted trackers domain maxHistory second window) ∧
    (∀ conflict ∈ storyConflicts trackers domain maxHistory,
      conflict.historyHash = fingerprint conflict.states ∧
      (∀ action, action ∈ conflict.actions ↔
        Predicted trackers domain maxHistory action conflict.states) ∧
      ∀ action ∈ conflict.actions, conflict.examples.find? action =
        some (exampleSenders trackers domain maxHistory action conflict.states)) ∧
    ((storyConflicts trackers domain maxHistory).Pairwise fun first second =>
      first.historyHash < second.historyHash) ∧
    (storyConflicts trackers domain maxHistory = [] ↔
      ∃ predict : List TurnState → String, ∀ tracker ∈ trackers, ∀ action window,
        tracker.Predicts domain maxHistory action window → predict window = action) ∧
    (∀ others : List Tracker, (∀ tracker, tracker ∈ others ↔ tracker ∈ trackers) →
      (storyConflicts others domain maxHistory).map StoryConflict.outline =
        (storyConflicts trackers domain maxHistory).map StoryConflict.outline) ∧
    (∀ before tracker after, trackers = before ++ after → tracker ∈ before →
      storyConflicts (before ++ tracker :: after) domain maxHistory =
        storyConflicts trackers domain maxHistory) := by
  refine ⟨fun window => exists_conflict_iff injective, ?_, pairwise_historyHash,
    storyConflicts_eq_nil_iff injective, fun others same => map_outline_congr injective same,
    fun before tracker after split repeated => storyConflicts_repeat injective split repeated⟩
  intro conflict reported
  obtain ⟨hash, spec⟩ := conflict_spec injective reported
  refine ⟨hash, fun action => mem_actions_iff injective reported, fun action competes => ?_⟩
  exact (spec action).2 ((mem_actions_iff injective reported).mp competes)

/-- Two conversations greet and ask before they part.  A limit of two turns leaves three
different windows, and the only conflict is reported with the last two turns before the
actions that differ, without the turn at the beginning. -/
theorem storyConflicts_exact_two_turns :
    let booking := Tracker.ofEvents "booking" Table.empty
      [.action "utter_greet", .action "utter_ask", .action "action_book"]
    let parting := Tracker.ofEvents "parting" Table.empty
      [.action "utter_greet", .action "utter_ask", .action "utter_bye"]
    let beginning := TurnState.ofTracker (Tracker.new "booking" Table.empty) Domain.empty
    let greeted := { beginning with prevAction := some "utter_greet" }
    let asked := { beginning with prevAction := some "utter_ask" }
    Set.InjOn fingerprint (windows [booking, parting] Domain.empty (some 2)) ∧
      (∃ conflict ∈ storyConflicts [booking, parting] Domain.empty (some 2),
        conflict.states = [greeted, asked]) ∧
      ∀ conflict ∈ storyConflicts [booking, parting] Domain.empty (some 2),
        conflict.states = [greeted, asked] := by
  intro booking parting beginning greeted asked
  have listed : allOccurrences [booking, parting] Domain.empty (some 2) =
    [⟨"booking", "utter_greet", [beginning]⟩, ⟨"booking", "utter_ask", [beginning, greeted]⟩,
      ⟨"booking", "action_book", [greeted, asked]⟩, ⟨"parting", "utter_greet", [beginning]⟩,
      ⟨"parting", "utter_ask", [beginning, greeted]⟩,
      ⟨"parting", "utter_bye", [greeted, asked]⟩] := rfl
  have injective : Set.InjOn fingerprint (windows [booking, parting] Domain.empty (some 2)) := by
    refine injOn_windows [[beginning], [beginning, greeted], [greeted, asked]] ?_
      (by decide +kernel)
    rw [listed]
    simp
  have reported := (storyConflicts_exact _ _ _ injective).1
  have follows : ∀ action window,
      Predicted [booking, parting] Domain.empty (some 2) action window →
        window = [greeted, asked] ∨
          action = if window.length = 1 then "utter_greet" else "utter_ask" := by
    intro action window predicted
    obtain ⟨occurrence, member, rfl, rfl⟩ := predicted_iff_exists_occurrence.mp predicted
    rw [listed] at member
    revert occurrence
    simp
  refine ⟨injective, (reported [greeted, asked]).mpr ?_, ?_⟩
  · refine ⟨"action_book", "utter_bye", by decide, ?_, ?_⟩
    · exact predicted_iff_exists_occurrence.mpr
        ⟨⟨"booking", _, _⟩, by rw [listed]; simp, rfl, rfl⟩
    · exact predicted_iff_exists_occurrence.mpr
        ⟨⟨"parting", _, _⟩, by rw [listed]; simp, rfl, rfl⟩
  · intro conflict isConflict
    obtain ⟨first, second, differ, isFirst, isSecond⟩ :=
      (reported conflict.states).mp ⟨conflict, isConflict, rfl⟩
    rcases follows first _ isFirst with states | isFirst
    · exact states
    · rcases follows second _ isSecond with states | isSecond
      · exact states
      · exact absurd (isFirst.trans isSecond.symm) differ

end Dialogue
