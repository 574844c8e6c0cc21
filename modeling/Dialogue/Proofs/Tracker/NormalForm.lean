import Dialogue.Proofs.Tracker.Replay

/-!
# The log in effect as a normal form

What is in effect of a log stands for the whole log, whatever happens later: a reversal
that reaches back beyond the later events finds there what it would have found in the log.
So a conversation can go on, in fact or on trial, from its log in effect alone.  The log in
effect is part of the last stretch and holds nothing that could still be taken out of it.
-/

namespace Dialogue

/-- The events that are not plain are reversals and restarts. -/
theorem Event.isPlain_iff {event : Event} :
    event.isPlain = true ↔ event.change ≠ .actionReverted ∧
      event.change ≠ .utteranceReverted ∧ event.change ≠ .restarted := by
  rcases event with ⟨change, _, _⟩
  cases change <;> simp [isPlain, isRestart, isReversal]

variable (log earlier later : List Event)

/-! ## Composition -/

/-- Later events act on the stack that an earlier log has left. -/
theorem appliedEvents_append :
    appliedEvents (earlier ++ later) =
      (later.foldl Applied.step (appliedEvents earlier).reverse).reverse := by
  rw [appliedEvents, appliedEvents, List.foldl_append, List.reverse_reverse]

/-- Logs with the same events in effect cannot be told apart by what comes later. -/
theorem appliedEvents_append_congr {left right : List Event}
    (same : appliedEvents left = appliedEvents right) :
    appliedEvents (left ++ later) = appliedEvents (right ++ later) := by
  rw [appliedEvents_append, same, ← appliedEvents_append]

/-! ## Normal forms -/

/-- A log is in effect as a whole if nothing in it takes events back or starts anew. -/
theorem appliedEvents_eq_self_iff :
    appliedEvents log = log ↔ ∀ event ∈ log, event.isPlain = true := by
  constructor
  · intro whole event member
    rw [← whole] at member
    exact isPlain_of_mem_appliedEvents member
  · intro plain
    exact appliedEvents_append_of_isPlain plain []

theorem appliedEvents_appliedEvents : appliedEvents (appliedEvents log) = appliedEvents log :=
  (appliedEvents_eq_self_iff _).mpr fun _ member => isPlain_of_mem_appliedEvents member

/-- The log in effect may take the place of the log. -/
theorem appliedEvents_appliedEvents_append :
    appliedEvents (appliedEvents earlier ++ later) = appliedEvents (earlier ++ later) :=
  appliedEvents_append_congr later (appliedEvents_appliedEvents earlier)

/-- What is in effect was recorded in this order. -/
theorem appliedEvents_sublist : (appliedEvents log).Sublist log := by
  induction log using List.reverseRecOn with
  | nil => exact List.Sublist.refl []
  | append_singleton log event ih =>
      rcases event.sort_cases with restart | reversal | plain
      · rw [appliedEvents_append_restart restart]
        exact List.nil_sublist _
      · have kept := (appliedEvents_concat_isPrefix reversal log).sublist
        exact (kept.trans ih).trans (List.sublist_append_left log [event])
      · rw [appliedEvents_concat_of_isPlain plain]
        exact ih.append (List.Sublist.refl [event])

/-- What is in effect was recorded after the last restart. -/
theorem appliedEvents_sublist_lastStretch : (appliedEvents log).Sublist (lastStretch log) := by
  rw [← appliedEvents_lastStretch]
  exact appliedEvents_sublist (lastStretch log)

/-! ## Trackers -/

namespace Tracker

theorem applied_hypothetical (tracker : Tracker) :
    (tracker.hypothetical later).applied = appliedEvents (tracker.applied ++ later) := by
  rw [applied, hypothetical, extend_events, applied, appliedEvents_appliedEvents_append]

/-- A tracker goes on as if only the events in effect had been recorded. -/
theorem Coherent.state_hypothetical {tracker : Tracker} (coherent : tracker.Coherent) :
    (tracker.hypothetical later).state =
      DialogueState.replay tracker.schema (tracker.applied ++ later) := by
  have replayed := (coherent.extend later).state_eq
  rw [extend_events, extend_schema] at replayed
  rw [hypothetical, replayed, DialogueState.replay, DialogueState.replay, applied,
    appliedEvents_appliedEvents_append]

end Tracker

/-- The events in effect of a log are a normal form of it.  They may take its place before
any later events, and a tracker fed with the log goes on from them alone; they are some of
the events since the last restart, in their order, and take nothing back; and a log is its
own normal form exactly if it holds no event that takes others back or starts anew. -/
theorem appliedEvents_normalForm :
    appliedEvents (earlier ++ later) = appliedEvents (appliedEvents earlier ++ later) ∧
      (appliedEvents earlier).Sublist earlier ∧
      (∀ event ∈ appliedEvents earlier, event.change ≠ .actionReverted ∧
        event.change ≠ .utteranceReverted ∧ event.change ≠ .restarted) ∧
      appliedEvents (appliedEvents earlier) = appliedEvents earlier ∧
      (appliedEvents earlier = earlier ↔ ∀ event ∈ earlier, event.change ≠ .actionReverted ∧
        event.change ≠ .utteranceReverted ∧ event.change ≠ .restarted) ∧
      (appliedEvents earlier).length ≤ (lastStretch earlier).length ∧
      ∀ schema tracker, Tracker.FedWith schema earlier tracker →
        (tracker.hypothetical later).applied = appliedEvents (appliedEvents earlier ++ later) ∧
        (tracker.hypothetical later).state =
          DialogueState.replay schema (appliedEvents earlier ++ later) := by
  simp only [← Event.isPlain_iff]
  have composes := (appliedEvents_appliedEvents_append earlier later).symm
  have plain : ∀ event ∈ appliedEvents earlier, event.isPlain = true :=
    fun _ member => isPlain_of_mem_appliedEvents member
  have short := (appliedEvents_sublist_lastStretch earlier).length_le
  have goesOn : ∀ schema tracker, Tracker.FedWith schema earlier tracker →
      (tracker.hypothetical later).applied = appliedEvents (appliedEvents earlier ++ later) ∧
      (tracker.hypothetical later).state =
        DialogueState.replay schema (appliedEvents earlier ++ later) := by
    intro schema tracker fed
    rw [← fed.applied_eq, ← fed.schema_eq]
    constructor
    · exact tracker.applied_hypothetical later
    · exact fed.coherent.state_hypothetical later
  exact ⟨composes, appliedEvents_sublist earlier, plain, appliedEvents_appliedEvents earlier,
    appliedEvents_eq_self_iff earlier, short, goesOn⟩

/-- The later events take back more than the one action that they hold: the reversal of the
message and that of an action reach into the earlier log, where a restart and an action
that was taken back stand between. -/
theorem appliedEvents_normalForm_of_deep_reversal :
    let schema : SlotSchema := Table.ofList [("city", .null)]
    let greeting := Event.user (UserMessage.ofText "hello")
    let earlier : List Event := [.slotSet "city" (.string "Oslo"), .restarted, .action "utter_hi",
      .listen, greeting, .action "action_guess", .slotSet "city" (.string "Rome"),
      .actionReverted]
    let later : List Event := [.action "utter_help", .utteranceReverted, .actionReverted, .listen]
    let tracker := Tracker.ofEvents "trip" schema earlier
    appliedEvents earlier = [.action "utter_hi", .listen, greeting] ∧
      (tracker.hypothetical later).applied = [.listen] ∧
      (tracker.hypothetical later).state =
        DialogueState.replay schema ([.action "utter_hi", .listen, greeting] ++ later) := by
  intro schema greeting earlier later tracker
  have fed : Tracker.FedWith schema earlier tracker := .ofEvents "trip" earlier
  rcases appliedEvents_normalForm earlier later with ⟨_, _, _, _, _, _, goesOn⟩
  rcases goesOn schema tracker fed with ⟨applied, state⟩
  exact ⟨rfl, applied, state⟩

end Dialogue
