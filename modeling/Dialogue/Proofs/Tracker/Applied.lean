import Dialogue.Tracker.Applied
import Mathlib.Data.List.DropRight

/-!
# Laws of the events in effect

Every event is of one of three sorts: a restart clears the events in effect, a
reversal cuts them back, and a plain event joins them.  Only what comes after the
last restart of a log can be in effect.
-/

namespace Dialogue

namespace Event

/-- Whether an event takes earlier events back. -/
def isReversal (event : Event) : Bool :=
  match event.change with
  | .actionReverted => true
  | .utteranceReverted => true
  | _ => false

/-- Whether an event neither starts the conversation anew nor takes anything back. -/
def isPlain (event : Event) : Bool :=
  !event.isRestart && !event.isReversal

/-- Every event is of exactly one of three sorts. -/
theorem sort_cases (event : Event) :
    event.isRestart = true ∨ event.isReversal = true ∨ event.isPlain = true := by
  unfold isPlain
  cases event.isRestart <;> cases event.isReversal <;> simp

theorem isRestart_eq_false_of_isPlain {event : Event} (plain : event.isPlain = true) :
    event.isRestart = false := by
  unfold isPlain at plain
  cases restart : event.isRestart with
  | false => rfl
  | true => simp [restart] at plain

theorem isRestart_eq_false_of_isReversal {event : Event} (reversal : event.isReversal = true) :
    event.isRestart = false := by
  rcases event with ⟨change, _, _⟩
  cases change <;> simp_all [isReversal, isRestart]

theorem change_eq_of_isRestart {event : Event} (restart : event.isRestart = true) :
    event.change = .restarted := by
  rcases event with ⟨change, _, _⟩
  cases change <;> simp_all [isRestart]

theorem change_cases_of_isReversal {event : Event} (reversal : event.isReversal = true) :
    event.change = .actionReverted ∨ event.change = .utteranceReverted := by
  rcases event with ⟨change, _, _⟩
  cases change <;> simp_all [isReversal]

end Event

namespace Applied

theorem step_of_isRestart {event : Event} (restart : event.isRestart = true)
    (stack : List Event) : step stack event = [] := by
  unfold step
  rw [Event.change_eq_of_isRestart restart]

theorem step_of_isPlain {event : Event} (plain : event.isPlain = true)
    (stack : List Event) : step stack event = event :: stack := by
  rcases event with ⟨change, _, _⟩
  cases change <;> simp_all [Event.isPlain, Event.isRestart, Event.isReversal, step]

/-- Plain events pile up on the stack. -/
theorem foldl_step_of_isPlain {events : List Event}
    (plain : ∀ event ∈ events, event.isPlain = true) (stack : List Event) :
    events.foldl step stack = events.reverse ++ stack := by
  induction events generalizing stack with
  | nil => rfl
  | cons event rest ih =>
      rw [List.foldl_cons, step_of_isPlain (plain event List.mem_cons_self),
        ih fun other member => plain other (List.mem_cons_of_mem event member)]
      simp

theorem popThrough_suffix (isBoundary : Event → Bool) (stack : List Event) :
    popThrough isBoundary stack <:+ stack := by
  induction stack with
  | nil => exact List.suffix_rfl
  | cons event rest ih =>
      rw [popThrough]
      split
      · exact List.suffix_cons event rest
      · exact ih.trans (List.suffix_cons event rest)

theorem popThrough_append {isBoundary : Event → Bool} {later : List Event}
    (quiet : ∀ event ∈ later, isBoundary event = false) (stack : List Event) :
    popThrough isBoundary (later ++ stack) = popThrough isBoundary stack := by
  induction later with
  | nil => rfl
  | cons event rest ih =>
      rw [List.cons_append, popThrough, quiet event List.mem_cons_self]
      exact ih fun other member => quiet other (List.mem_cons_of_mem event member)

section SameChange

variable {alter : Event → Event} (same : ∀ event, (alter event).change = event.change)

theorem map_popThrough {isBoundary : Event → Bool}
    (agree : ∀ event, isBoundary (alter event) = isBoundary event) (stack : List Event) :
    (popThrough isBoundary stack).map alter = popThrough isBoundary (stack.map alter) := by
  induction stack with
  | nil => rfl
  | cons event rest ih =>
      rw [List.map_cons, popThrough, popThrough, agree]
      split
      · rfl
      · exact ih

include same

theorem map_step (stack : List Event) (event : Event) :
    (step stack event).map alter = step (stack.map alter) (alter event) := by
  have isAction : ∀ event, (alter event).isAction = event.isAction := by
    intro event
    unfold Event.isAction Event.actionName?
    rw [same]
  have isUser : ∀ event, (alter event).isUser = event.isUser := by
    intro event
    unfold Event.isUser Event.message?
    rw [same]
  unfold step
  rw [same]
  cases event.change with
  | restarted => rfl
  | actionReverted => exact map_popThrough isAction stack
  | utteranceReverted => rw [map_popThrough isAction, map_popThrough isUser]
  | _ => rfl

/-- Which events are in effect depends on their changes alone. -/
theorem map_appliedEvents (log : List Event) :
    (appliedEvents log).map alter = appliedEvents (log.map alter) := by
  have altered : log.foldl (fun stack event => step stack (alter event)) ([].map alter) =
      (log.foldl step []).map alter :=
    List.foldl_hom (List.map alter) fun stack event => (map_step same stack event).symm
  unfold appliedEvents
  rw [List.map_reverse, List.foldl_map, ← altered, List.map_nil]

end SameChange

end Applied

/-! ## Cutting back -/

/-- The events before the last one that passes a test, or none at all. -/
def cutBack (isBoundary : Event → Bool) (events : List Event) : List Event :=
  (Applied.popThrough isBoundary events.reverse).reverse

theorem cutBack_isPrefix (isBoundary : Event → Bool) (events : List Event) :
    cutBack isBoundary events <+: events := by
  have reversed := (Applied.popThrough_suffix isBoundary events.reverse).reverse
  rwa [List.reverse_reverse] at reversed

section

variable {isBoundary : Event → Bool} {later : List Event}
  (quiet : ∀ event ∈ later, isBoundary event = false)

include quiet

theorem cutBack_append_cons {boundary : Event} (passes : isBoundary boundary = true)
    (kept : List Event) : cutBack isBoundary (kept ++ boundary :: later) = kept := by
  have stack : (kept ++ boundary :: later).reverse = later.reverse ++ boundary :: kept.reverse := by
    simp
  unfold cutBack
  rw [stack, Applied.popThrough_append (by simpa using quiet), Applied.popThrough, if_pos passes,
    List.reverse_reverse]

theorem cutBack_eq_nil : cutBack isBoundary later = [] := by
  have popped : Applied.popThrough isBoundary (later.reverse ++ []) = [] :=
    Applied.popThrough_append (by simpa using quiet) []
  unfold cutBack
  rw [List.append_nil] at popped
  rw [popped, List.reverse_nil]

end

theorem appliedEvents_concat_actionReverted {event : Event}
    (change : event.change = .actionReverted) (log : List Event) :
    appliedEvents (log ++ [event]) = cutBack Event.isAction (appliedEvents log) := by
  unfold appliedEvents cutBack
  rw [List.foldl_append, List.foldl_cons, List.foldl_nil, Applied.step, change,
    List.reverse_reverse]

theorem appliedEvents_concat_utteranceReverted {event : Event}
    (change : event.change = .utteranceReverted) (log : List Event) :
    appliedEvents (log ++ [event]) =
      cutBack Event.isAction (cutBack Event.isUser (appliedEvents log)) := by
  unfold appliedEvents cutBack
  rw [List.foldl_append, List.foldl_cons, List.foldl_nil, Applied.step, change,
    List.reverse_reverse, List.reverse_reverse]

/-! ## Recording events of each sort -/

/-- Plain events join the events in effect. -/
theorem appliedEvents_append_of_isPlain {added : List Event}
    (plain : ∀ event ∈ added, event.isPlain = true) (log : List Event) :
    appliedEvents (log ++ added) = appliedEvents log ++ added := by
  unfold appliedEvents
  rw [List.foldl_append, Applied.foldl_step_of_isPlain plain]
  simp

/-- A single plain event joins the events in effect. -/
theorem appliedEvents_concat_of_isPlain {event : Event} (plain : event.isPlain = true)
    (log : List Event) : appliedEvents (log ++ [event]) = appliedEvents log ++ [event] :=
  appliedEvents_append_of_isPlain (by simpa using plain) log

/-- Nothing before a restart is in effect. -/
theorem appliedEvents_append_restart {restart : Event} (isRestart : restart.isRestart = true)
    (before after : List Event) :
    appliedEvents (before ++ restart :: after) = appliedEvents after := by
  unfold appliedEvents
  rw [List.foldl_append, List.foldl_cons, Applied.step_of_isRestart isRestart]

/-- A reversal leaves a first part of what was in effect. -/
theorem appliedEvents_concat_isPrefix {event : Event} (reversal : event.isReversal = true)
    (log : List Event) : appliedEvents (log ++ [event]) <+: appliedEvents log := by
  rcases Event.change_cases_of_isReversal reversal with change | change
  · rw [appliedEvents_concat_actionReverted change]
    exact cutBack_isPrefix _ _
  · rw [appliedEvents_concat_utteranceReverted change]
    exact (cutBack_isPrefix _ _).trans (cutBack_isPrefix _ _)

/-- Only plain events are ever in effect. -/
theorem isPlain_of_mem_appliedEvents {log : List Event} {event : Event}
    (member : event ∈ appliedEvents log) : event.isPlain = true := by
  induction log using List.reverseRecOn with
  | nil => simp at member
  | append_singleton log last ih =>
      rcases last.sort_cases with restart | reversal | plain
      · rw [appliedEvents_append_restart restart] at member
        simp at member
      · exact ih ((appliedEvents_concat_isPrefix reversal log).subset member)
      · rw [appliedEvents_concat_of_isPlain plain] at member
        rcases List.mem_append.mp member with earlier | same
        · exact ih earlier
        · rwa [List.mem_singleton.mp same]

/-- The events after the last restart of a log, or all of them if there is none. -/
def lastStretch (log : List Event) : List Event :=
  log.rtakeWhile fun event => !event.isRestart

theorem lastStretch_concat_of_isRestart {event : Event} (restart : event.isRestart = true)
    (log : List Event) : lastStretch (log ++ [event]) = [] :=
  List.rtakeWhile_concat_neg _ _ _ (by simp [restart])

theorem lastStretch_concat {event : Event} (noRestart : event.isRestart = false)
    (log : List Event) : lastStretch (log ++ [event]) = lastStretch log ++ [event] :=
  List.rtakeWhile_concat_pos _ _ _ (by simp [noRestart])

/-- A log is its last stretch, or that stretch comes after a restart. -/
theorem lastStretch_cases (log : List Event) :
    lastStretch log = log ∨
      ∃ before restart, restart.isRestart = true ∧ log = before ++ restart :: lastStretch log := by
  induction log using List.reverseRecOn with
  | nil => exact .inl rfl
  | append_singleton log event ih =>
      cases restart : event.isRestart with
      | true =>
          rw [lastStretch_concat_of_isRestart restart]
          exact .inr ⟨log, event, restart, rfl⟩
      | false =>
          rw [lastStretch_concat restart]
          rcases ih with whole | ⟨before, earlier, isRestart, split⟩
          · exact .inl (by rw [whole])
          · refine .inr ⟨before, earlier, isRestart, ?_⟩
            nth_rewrite 1 [split]
            simp

/-- Only the last stretch of a log counts for what is in effect. -/
theorem appliedEvents_lastStretch (log : List Event) :
    appliedEvents (lastStretch log) = appliedEvents log := by
  rcases lastStretch_cases log with whole | ⟨before, restart, isRestart, split⟩
  · rw [whole]
  · nth_rewrite 2 [split]
    rw [appliedEvents_append_restart isRestart]

end Dialogue
