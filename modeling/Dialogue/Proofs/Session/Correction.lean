import Dialogue.Proofs.Form.Turn
import Dialogue.Proofs.Form.Run
import Dialogue.Session.Correction

/-!
# Corrections of a loop

A user who corrects the assistant while a form is active rejects the form, and may come
back to it later.  The rejection stays until the form is run again, left or replaced, or
until something is taken back; so the form can be resumed whenever the assistant listens.
A form that is resumed without validation does not look at the message and asks nobody:
it only puts its question again, or submits.
-/

namespace Dialogue

/-! ## The rejection -/

/-- The event neither activates nor leaves a form, is not the action of the named form,
and takes nothing back. -/
def Event.sparesLoop (event : Event) (name : String) : Bool :=
  match event.change with
  | .formActivated _ => false
  | .formDeactivated => false
  | .actionExecuted action _ _ => action != name
  | .actionReverted => false
  | .utteranceReverted => false
  | .restarted => false
  | _ => true

theorem Event.isPlain_of_sparesLoop {event : Event} {name : String}
    (spares : event.sparesLoop name = true) : event.isPlain = true := by
  rcases event with ⟨change, _, _⟩
  cases change <;> first | rfl | cases spares

namespace Tracker

/-- The form is active and rejected. -/
def HoldsRejected (tracker : Tracker) (name : String) : Prop :=
  ∃ validate, tracker.state.activeLoop = some ⟨name, validate, true⟩

variable {tracker : Tracker} {name action : String}

theorem HoldsRejected.activeLoopName (held : tracker.HoldsRejected name) :
    tracker.activeLoopName = some name := by
  rcases held with ⟨validate, active⟩
  unfold Tracker.activeLoopName
  rw [active]
  rfl

/-- A form can be resumed if it is active and rejected while the assistant listens. -/
theorem formIsRestored_iff :
    formIsRestored name tracker = true ↔
      tracker.HoldsRejected name ∧ tracker.latestAction = some listenAction := by
  unfold formIsRestored HoldsRejected isListening
  cases tracker.state.activeLoop with
  | none => simp
  | some active =>
      rcases active with ⟨own, validate, rejected⟩
      cases rejected with
      | false => simp
      | true =>
          rw [Option.any_some, Bool.true_and, Bool.and_eq_true, beq_iff_eq, beq_iff_eq, and_comm]
          simp [eq_comm]

/-- The choice of another action rejects the form. -/
theorem loopCorrection_of_ne (active : tracker.activeLoopName = some name)
    (differs : action ≠ name) (speaks : action ≠ listenAction) (validate : Option Bool) :
    loopCorrection action tracker validate = [Event.loopRejected (some name)] := by
  have rejects : formIsRejected action tracker = true := by
    unfold formIsRejected
    rw [active]
    simp [differs, speaks]
  unfold loopCorrection
  rw [if_pos rejects, active]

theorem holdsRejected_append_loopRejected (active : tracker.activeLoopName = some name) :
    (tracker.append (Event.loopRejected (some name))).HoldsRejected name := by
  rcases Option.map_eq_some_iff.mp active with ⟨loop, isActive, rfl⟩
  have plain : (Event.loopRejected (some loop.name)).isPlain = true := rfl
  refine ⟨loop.validate, ?_⟩
  rw [append_of_isPlain plain]
  change Option.map _ tracker.state.activeLoop = _
  rw [isActive]
  simp [ActiveLoop.afterRejection]

/-- An event that spares the form keeps the rejection: it touches at most the flag for
validation. -/
theorem HoldsRejected.append (held : tracker.HoldsRejected name) {event : Event}
    (spares : event.sparesLoop name = true) : (tracker.append event).HoldsRejected name := by
  rcases held with ⟨validate, active⟩
  unfold HoldsRejected
  rw [append_of_isPlain (Event.isPlain_of_sparesLoop spares), DialogueState.apply_activeLoop,
    active]
  rcases event with ⟨change, _, _⟩
  cases change with
  | actionExecuted other policy confidence =>
      -- An action switches the validation on; only that of the form itself ends the rejection.
      have differs : other ≠ name := by simpa [Event.sparesLoop] using spares
      exact ⟨true, by simp [DialogueState.loopAfter, ActiveLoop.afterAction, differs.symm]⟩
  | formValidation switch => exact ⟨switch, rfl⟩
  | loopRejected other =>
      refine ⟨validate, ?_⟩
      simp only [DialogueState.loopAfter, Option.map_some, ActiveLoop.afterRejection]
      split <;> rfl
  | slotSet slot value => exact ⟨validate, rfl⟩
  | userUttered message => exact ⟨validate, rfl⟩
  | botUttered text data => exact ⟨validate, rfl⟩
  | _ => cases spares

/-- The rejection lasts over any number of events that spare the form. -/
theorem HoldsRejected.extend (held : tracker.HoldsRejected name) {events : List Event}
    (spare : ∀ event ∈ events, event.sparesLoop name = true) :
    (tracker.extend events).HoldsRejected name := by
  induction events generalizing tracker with
  | nil => exact held
  | cons event rest ih =>
      rw [extend_cons]
      apply ih
      · exact held.append (spare event List.mem_cons_self)
      · intro other member
        exact spare other (List.mem_cons_of_mem event member)

/-! ## The resumption -/

/-- The choice to resume a form without validation switches its validation off. -/
theorem loopCorrection_of_restored (restored : formIsRestored name tracker = true) :
    loopCorrection name tracker (some false) = [Event.formValidation false] := by
  have active := (formIsRestored_iff.mp restored).1.activeLoopName
  have accepted : formIsRejected name tracker = false := by
    unfold formIsRejected
    rw [active]
    simp
  unfold loopCorrection
  simp [accepted, restored]

theorem append_formValidation_false (active : tracker.activeLoopName = some name) :
    (tracker.append (Event.formValidation false)).activeLoopName = some name ∧
      (tracker.append (Event.formValidation false)).loopValidates = false := by
  rcases Option.map_eq_some_iff.mp active with ⟨loop, isActive, rfl⟩
  have after : (tracker.append (Event.formValidation false)).state.activeLoop =
      some { loop with validate := false } := by
    change Option.map _ tracker.state.activeLoop = _
    rw [isActive]
    rfl
  unfold activeLoopName loopValidates
  rw [after]
  exact ⟨rfl, rfl⟩

end Tracker

namespace FormSpec

variable {form : FormSpec} {domain : Domain} {tracker : Tracker}
  (active : tracker.activeLoopName = some form.name) (quiet : tracker.loopValidates = false)

include active quiet

/-- An active form that does not validate takes over nothing. -/
theorem accepted_of_quiet : form.accepted domain tracker = [] := by
  apply accepted_of_not_listens
  rintro ⟨_, validates⟩
  rw [validates active] at quiet
  cases quiet

theorem filled_of_quiet : form.filled domain tracker = tracker.state.slots := by
  unfold filled
  rw [accepted_of_quiet active quiet]
  rfl

/-- An active form that does not validate asks its validation action nothing. -/
theorem not_consults_of_quiet (executor : Executor) (query : Tracker) :
    ¬form.Consults executor domain tracker query := by
  intro consults
  cases consults with
  | activating asked =>
      obtain ⟨⟨_, inactive, _⟩, _⟩ := Option.ite_none_right_eq_some.mp asked
      exact inactive active
  | validating activates asked =>
      rw [activateIfRequired, if_pos active] at activates
      cases activates
      obtain ⟨⟨_, validates, _⟩, _⟩ := Option.ite_none_right_eq_some.mp asked
      rw [Tracker.hypothetical, Tracker.extend_nil, quiet, Bool.and_false] at validates
      cases validates

/-- An active form that does not validate concludes at once, whatever its executor. -/
theorem run_of_quiet (executor : Executor) :
    form.run executor domain tracker =
      .ok (.completed (form.conclude (form.activation tracker)
        (slotEvents (form.accepted domain tracker)) (form.activated tracker))) := by
  have activates : form.activateIfRequired executor domain tracker = .ok (.completed []) :=
    if_pos active
  have skips : form.validate executor domain tracker tracker = .ok (.completed []) := by
    unfold validate
    rw [quiet, Bool.and_false]
    rfl
  apply run_eq_completed_iff.mpr
  refine ⟨[], [], activates, skips, ?_⟩
  rw [activation_of_active active, accepted_of_quiet active quiet, activated_of_active active]
  rfl

/-- Where nothing is taken over, no slot but that for the question asked last changes. -/
theorem find?_of_quiet {recorded : Tracker} {value : Json}
    (slots : recorded.state.slots =
      DialogueState.assign tracker.schema (form.filled domain tracker) requestedSlot value) :
    ∀ slot, slot ≠ requestedSlot →
      recorded.state.slots.find? slot = tracker.state.slots.find? slot := by
  intro slot differs
  rw [slots, DialogueState.find?_assign, if_neg fun both => differs both.1,
    filled_of_quiet active quiet]

omit active quiet

/-- What a form leaves behind that was resumed without validation. -/
structure Resumed (form : FormSpec) (before after : Tracker) : Prop where
  /-- No slot has changed but that for the question asked last. -/
  slots : ∀ slot, slot ≠ requestedSlot →
    after.state.slots.find? slot = before.state.slots.find? slot
  /-- The form waits for the first required slot without a value, or it has been left with
  none missing. -/
  ends : (∃ earlier asked later, form.requiredSlots = earlier ++ asked :: later ∧
      (∀ slot ∈ earlier, after.slot? slot ≠ none) ∧ after.slot? asked = none ∧
      after.slot? requestedSlot = some (.string asked) ∧
      after.state.activeLoop = some ⟨form.name, true, false⟩) ∨
    ((∀ slot ∈ form.requiredSlots, after.slot? slot ≠ none) ∧
      after.slot? requestedSlot = none ∧ after.state.activeLoop = none)

end FormSpec

namespace Conversation

variable {domain : Domain} {form : FormSpec} {conversation : Conversation}

/-- An active form that does not validate is resumed, in the same way for all executors. -/
theorem executeForm_of_quiet (declared : domain.form? form.name = some form)
    (unasked : requestedSlot ∉ form.requiredSlots)
    (holds : conversation.tracker.schema.contains requestedSlot = true)
    (active : conversation.tracker.activeLoopName = some form.name)
    (quiet : conversation.tracker.loopValidates = false) :
    ∃ after events,
      (∀ executor, conversation.executeForm executor domain form.name =
        (after, .ok (.completed events))) ∧
      form.Resumed conversation.tracker after.tracker := by
  have executed := fun executor => executeForm_of_concludes declared executor
    (FormSpec.run_of_quiet active quiet executor)
  cases decision : form.requiredSlots.find? (fun slot =>
      ((form.decisive domain conversation.tracker).slot? slot).isNone) with
  | some asked =>
      simp only [decision] at executed
      have slots := form.extend_question_slots domain conversation.tracker asked
      obtain ⟨earlier, later, split, set, unset⟩ :=
        form.question_recorded domain conversation.tracker unasked slots decision
      have same := FormSpec.find?_of_quiet active quiet slots
      have question := form.slot?_requestedSlot domain conversation.tracker slots holds
      have stays := form.extend_question_activeLoop domain conversation.tracker asked
      exact ⟨_, _, executed, same,
        .inl ⟨earlier, asked, later, split, set, unset, question, stays⟩⟩
  | none =>
      simp only [decision] at executed
      have slots := form.extend_submission_slots domain conversation.tracker
      have same := FormSpec.find?_of_quiet active quiet slots
      have question := form.slot?_requestedSlot domain conversation.tracker slots holds
      have left := form.extend_submission_activeLoop domain conversation.tracker
      refine ⟨_, _, executed, same, .inr ⟨?_, question, left⟩⟩
      -- Nothing was missing on the tracker on which the submission was decided.
      intro slot required
      have differs : slot ≠ requestedSlot := fun equal => unasked (equal ▸ required)
      rw [append, form.slot?_eq_decisive domain conversation.tracker slots differs]
      simpa using List.find?_eq_none.mp decision slot required

/-- Correcting a form works from end to end.  Any other choice of the user rejects the
active form, and as long as the form is spared it can be resumed exactly while the assistant
listens.  When it is resumed without validation, its run completes and asks its validation
action nothing; no slot but that for the question asked last changes, and the form waits for
its first required slot without a value, or has been left with none missing. -/
theorem correction_resumes (built : domain.Built) {name : String}
    (declared : domain.form? name = some form) (unasked : requestedSlot ∉ form.requiredSlots)
    (schema : conversation.tracker.schema = domain.slotSchema)
    (active : conversation.tracker.activeLoopName = some name) :
    (∀ action validate, action ≠ name → action ≠ listenAction →
      let corrected := conversation.append (loopCorrection action conversation.tracker validate)
      corrected.tracker.HoldsRejected name ∧
      ∀ later, (∀ event ∈ later, event.sparesLoop name = true) →
        (formIsRestored name (corrected.append later).tracker = true ↔
          (corrected.append later).tracker.latestAction = some listenAction)) ∧
    (formIsRestored name conversation.tracker = true →
      let corrected := conversation.append (loopCorrection name conversation.tracker (some false))
      (∀ executor query, ¬form.Consults executor domain corrected.tracker query) ∧
      ∃ after events,
        (∀ executor, corrected.executeForm executor domain name =
          (after, .ok (.completed events))) ∧
        form.Resumed conversation.tracker after.tracker) := by
  obtain rfl := built.form_name declared
  constructor
  · intro action validate differs speaks corrected
    have rejected : corrected.tracker.HoldsRejected form.name := by
      have correction := Tracker.loopCorrection_of_ne active differs speaks validate
      simp only [corrected, append, correction]
      exact Tracker.holdsRejected_append_loopRejected active
    constructor
    · exact rejected
    · intro later spare
      rw [Tracker.formIsRestored_iff]
      exact and_iff_right (rejected.extend spare)
  · intro restored corrected
    have correction : corrected = conversation.append [Event.formValidation false] := by
      simp only [corrected, Tracker.loopCorrection_of_restored restored]
    obtain ⟨isActive, quiet⟩ := Tracker.append_formValidation_false active
    have holds : conversation.tracker.schema.contains requestedSlot = true := by
      rw [schema]
      exact built.schema_contains_requestedSlot declared
    rw [correction]
    constructor
    · exact FormSpec.not_consults_of_quiet isActive quiet
    · let resumes := conversation.append [Event.formValidation false]
      obtain ⟨after, events, executed, resumed⟩ :=
        @executeForm_of_quiet domain form resumes declared unasked holds isActive quiet
      exact ⟨after, events, executed, resumed.slots, resumed.ends⟩

/-- The user asks why, the assistant explains, and the user comes back to the form.  The
domain has a validation action that nobody can run, but the form is resumed without it and
asks for the city again. -/
theorem correction_resumes_after_explanation :
    let form : FormSpec := { name := "booking", requiredSlots := ["city"] }
    let domain := ((Domain.empty.withSlot { name := "city", type := .text }).withForm
      form).withActions [validationAction "booking"]
    let conversation : Conversation := {
      tracker := Tracker.ofEvents "user" domain.slotSchema [
        .action "booking", .formActivated "booking", .slotSet requestedSlot (.string "city"),
        .listen, .user (UserMessage.ofText "why?")] }
    let corrected := conversation.append (loopCorrection "utter_explain" conversation.tracker none)
    let explained := corrected.append [.action "utter_explain", .bot "Because.", .listen,
      .user (UserMessage.ofText "Rome")]
    let returned := explained.append (loopCorrection "booking" explained.tracker (some false))
    formIsRestored "booking" explained.tracker = true ∧
      ∃ after events,
        returned.executeForm (fun action _ _ => .error (.unstubbed action)) domain "booking" =
          (after, .ok (.completed events)) ∧
        after.tracker.slot? requestedSlot = some (.string "city") ∧
        after.tracker.state.activeLoop = some ⟨"booking", true, false⟩ := by
  intro form domain conversation corrected explained returned
  have built : domain.Built :=
    ((Domain.Built.empty.withSlot _).withForm form).withActions [validationAction "booking"]
  have unasked : requestedSlot ∉ form.requiredSlots := by decide
  have restored : formIsRestored "booking" explained.tracker = true := by
    have choice := @correction_resumes domain form conversation built "booking" rfl unasked
      rfl rfl
    have rejection := choice.1 "utter_explain" none (by decide) (by decide)
    exact (rejection.2 _ (by decide)).mpr rfl
  obtain ⟨_, after, events, executed, resumed⟩ :=
    (@correction_resumes domain form explained built "booking" rfl unasked rfl rfl).2 restored
  have unset : after.tracker.slot? "city" = none := by
    unfold Tracker.slot?
    rw [resumed.slots "city" (by decide)]
    rfl
  rcases resumed.ends with ⟨earlier, asked, later, split, _, _, question, active⟩ | ⟨set, _⟩
  · have isCity : asked = "city" := by
      have member : asked ∈ form.requiredSlots := by simp [split]
      exact List.mem_singleton.mp member
    rw [isCity] at question
    exact ⟨restored, after, events, executed _, question, active⟩
  · exact absurd unset (set "city" List.mem_cons_self)

end Conversation

end Dialogue
