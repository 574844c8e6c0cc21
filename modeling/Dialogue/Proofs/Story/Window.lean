import Dialogue.Proofs.Story.Conflict

/-!
# Shorter windows

A window keeps the last turns of a history.  Cutting a window once more gives the
window of the shorter limit, so trackers whose long windows agree have equal short
windows too.  A conflict that the longer limit shows is therefore shown by the shorter
one as well, with all its actions and possibly with further ones.
-/

namespace Dialogue

open TurnState (fingerprint)

section Shorter

variable {short : Nat} {long : Option Nat} (positive : 0 < short)
  (longer : ∀ limit, long = some limit → limit = 0 ∨ short ≤ limit)

include positive longer

/-- A window that is cut once more is the window of the shorter limit. -/
theorem IsWindow.shorten {turns window cut : List TurnState}
    (isWindow : IsWindow long turns window) (isCut : IsWindow (some short) window cut) :
    IsWindow (some short) turns cut := by
  have length : cut.length = min short window.length := isCut.cut short rfl positive
  refine ⟨isCut.suffix.trans isWindow.suffix, ?_, ?_⟩
  · rintro (absent | zero)
    · cases absent
    · cases zero
      omega
  · rintro _ ⟨⟩ -
    rw [length]
    cases long with
    | none => rw [isWindow.uncut (.inl rfl)]
    | some limit =>
        rcases longer limit rfl with rfl | short_le
        · rw [isWindow.uncut (.inr rfl)]
        · rw [isWindow.cut limit rfl (by omega)]
          omega

/-- What follows a long window follows the short one at its end. -/
theorem Predicted.shorten {trackers : List Tracker} {domain : Domain} {action : String}
    {window cut : List TurnState} (predicted : Predicted trackers domain long action window)
    (isCut : IsWindow (some short) window cut) :
    Predicted trackers domain (some short) action cut := by
  rcases predicted with ⟨tracker, member, before, event, after, split, named, isWindow⟩
  exact ⟨tracker, member, before, event, after, split, named,
    isWindow.shorten positive longer isCut⟩

/-- A shorter history never hides a conflict.  Where the hash tells the windows of both
limits apart, a conflict of the longer limit, or of unlimited histories, reappears under
the shorter limit: at the end of its window, with all actions that competed. -/
theorem exists_conflict_of_shorter (trackers : List Tracker) (domain : Domain)
    (injectiveLong : Set.InjOn fingerprint (windows trackers domain long))
    (injectiveShort : Set.InjOn fingerprint (windows trackers domain (some short))) :
    ∀ conflict ∈ storyConflicts trackers domain long,
      ∃ shorter ∈ storyConflicts trackers domain (some short),
        shorter.states <:+ conflict.states ∧
        shorter.states.length = min short conflict.states.length ∧
        ∀ action ∈ conflict.actions, action ∈ shorter.actions := by
  intro conflict reported
  obtain ⟨first, second, differ, isFirst, isSecond⟩ :=
    (exists_conflict_iff injectiveLong).mp ⟨conflict, reported, rfl⟩
  have isCut := isWindow_lastTurns (some short) conflict.states
  obtain ⟨shorter, isShorter, states⟩ :=
    (exists_conflict_iff injectiveShort).mpr ⟨first, second, differ,
      isFirst.shorten positive longer isCut, isSecond.shorten positive longer isCut⟩
  rw [← states] at isCut
  have competes : ∀ action ∈ conflict.actions, action ∈ shorter.actions := by
    intro action member
    rw [mem_actions_iff injectiveShort isShorter]
    exact ((mem_actions_iff injectiveLong reported).mp member).shorten positive longer isCut
  exact ⟨shorter, isShorter, isCut.suffix, isCut.cut short rfl positive, competes⟩

end Shorter

/-- Two conversations take their first action back and then part.  Unlimited histories
show a conflict of two actions after two turns.  A single turn is the same before all
actions, so the conflict after one turn has the action that was taken back as well. -/
theorem exists_conflict_of_shorter_after_reversal :
    let booking := Tracker.ofEvents "booking" Table.empty
      [.action "utter_greet", .actionReverted, .action "action_book"]
    let parting := Tracker.ofEvents "parting" Table.empty
      [.action "utter_greet", .actionReverted, .action "utter_bye"]
    let turn := TurnState.ofTracker (Tracker.new "booking" Table.empty) Domain.empty
    Set.InjOn fingerprint (windows [booking, parting] Domain.empty none) ∧
      Set.InjOn fingerprint (windows [booking, parting] Domain.empty (some 1)) ∧
      (∃ conflict ∈ storyConflicts [booking, parting] Domain.empty none,
        conflict.states = [turn, turn]) ∧
      ∃ shorter ∈ storyConflicts [booking, parting] Domain.empty (some 1),
        shorter.states = [turn] ∧ "action_book" ∈ shorter.actions ∧
          "utter_bye" ∈ shorter.actions ∧ "utter_greet" ∈ shorter.actions := by
  intro booking parting turn
  have injectiveLong : Set.InjOn fingerprint (windows [booking, parting] Domain.empty none) := by
    refine injOn_windows [[turn], [turn, turn]] ?_ (by decide +kernel)
    have listed : allOccurrences [booking, parting] Domain.empty none =
      [⟨"booking", "utter_greet", [turn]⟩, ⟨"booking", "action_book", [turn, turn]⟩,
        ⟨"parting", "utter_greet", [turn]⟩, ⟨"parting", "utter_bye", [turn, turn]⟩] := rfl
    rw [listed]
    simp
  have injectiveShort :
      Set.InjOn fingerprint (windows [booking, parting] Domain.empty (some 1)) := by
    refine injOn_windows [[turn]] ?_ (by simp)
    have listed : allOccurrences [booking, parting] Domain.empty (some 1) =
      [⟨"booking", "utter_greet", [turn]⟩, ⟨"booking", "action_book", [turn]⟩,
        ⟨"parting", "utter_greet", [turn]⟩, ⟨"parting", "utter_bye", [turn]⟩] := rfl
    rw [listed]
    simp
  have books : Predicted [booking, parting] Domain.empty none "action_book" [turn, turn] :=
    ⟨booking, by simp, [.action "utter_greet", .actionReverted], .action "action_book", [],
      rfl, rfl, isWindow_lastTurns _ _⟩
  have parts : Predicted [booking, parting] Domain.empty none "utter_bye" [turn, turn] :=
    ⟨parting, by simp, [.action "utter_greet", .actionReverted], .action "utter_bye", [],
      rfl, rfl, isWindow_lastTurns _ _⟩
  have greets : Predicted [booking, parting] Domain.empty (some 1) "utter_greet" [turn] :=
    ⟨booking, by simp, [], .action "utter_greet", [.actionReverted, .action "action_book"],
      rfl, rfl, isWindow_lastTurns _ _⟩
  obtain ⟨conflict, reported, states⟩ :=
    (exists_conflict_iff injectiveLong).mpr ⟨_, _, by decide, books, parts⟩
  obtain ⟨shorter, isShorter, suffix, length, competes⟩ :=
    exists_conflict_of_shorter (by decide) (by simp) [booking, parting] Domain.empty
      injectiveLong injectiveShort conflict reported
  have actions : ∀ action, Predicted [booking, parting] Domain.empty none action [turn, turn] →
      action ∈ shorter.actions := by
    intro action predicted
    rw [← states] at predicted
    exact competes action ((mem_actions_iff injectiveLong reported).mpr predicted)
  have oneTurn : shorter.states = [turn] := by
    rw [states] at suffix length
    rcases List.suffix_cons_iff.mp suffix with both | suffix
    · simp [both] at length
    · exact suffix.eq_of_length length
  rw [← oneTurn] at greets
  exact ⟨injectiveLong, injectiveShort, ⟨conflict, reported, states⟩, shorter, isShorter, oneTurn,
    actions _ books, actions _ parts, (mem_actions_iff injectiveShort isShorter).mpr greets⟩

end Dialogue
