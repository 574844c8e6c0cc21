import Dialogue.Proofs.Domain.Built
import Dialogue.Proofs.Form.Unvalidated
import Dialogue.Session.Basic

/-!
# A turn of a form

A run decides on a tracker that is never recorded: the one after the activation and
the values that were taken over.  What is recorded begins with the executed action
instead, and leaves the activation out if the form submits at once.  Both lead to the
same slots, up to the slot for the question asked last, so the decision holds of what
is recorded: the form waits for the first required slot without a value, or it has
been left with none missing.
-/

namespace Dialogue

namespace FormSpec

variable (form : FormSpec) (domain : Domain) (tracker : Tracker)

/-- The slots after the values that a run takes over. -/
def filled : Table Json :=
  (slotEvents (form.accepted domain tracker)).foldl
    (DialogueState.slotsAfter tracker.schema) tracker.state.slots

/-- The tracker on which a run decides what to ask for. -/
def decisive : Tracker :=
  (form.activated tracker).hypothetical (slotEvents (form.accepted domain tracker))

theorem decisive_slots :
    (form.decisive domain tracker).state.slots = form.filled domain tracker := by
  unfold decisive filled Tracker.hypothetical
  rw [Tracker.extend_slots_of_isPlain fun _ member => isPlain_of_mem_slotEvents member,
    activated_slots]
  unfold activated Tracker.hypothetical
  rw [Tracker.extend_schema]

/-- The events of a run that goes on with a question. -/
def questionEvents (slot : String) : List Event :=
  form.activation tracker ++ slotEvents (form.accepted domain tracker)
    ++ [Event.slotSet requestedSlot (.string slot)]

/-- The events of a run that submits. -/
def submissionEvents : List Event :=
  slotEvents (form.accepted domain tracker) ++ deactivation

/-- A run asks for the first required slot without a value. -/
theorem conclude_of_find?_eq_some {slot : String}
    (missing : form.requiredSlots.find? (fun slot =>
      ((form.decisive domain tracker).slot? slot).isNone) = some slot) :
    form.conclude (form.activation tracker) (slotEvents (form.accepted domain tracker))
        (form.activated tracker) = form.questionEvents domain tracker slot := by
  have question : form.requestNextSlot ((form.activated tracker).hypothetical
      (slotEvents (form.accepted domain tracker))) =
        some (Event.slotSet requestedSlot (.string slot)) :=
    Option.map_eq_some_iff.mpr ⟨slot, missing, rfl⟩
  unfold conclude
  rw [any_isDeactivation_slotEvents, question]
  rfl

/-- A run submits if no required slot is without a value. -/
theorem conclude_of_find?_eq_none
    (complete : form.requiredSlots.find? (fun slot =>
      ((form.decisive domain tracker).slot? slot).isNone) = none) :
    form.conclude (form.activation tracker) (slotEvents (form.accepted domain tracker))
        (form.activated tracker) = form.submissionEvents domain tracker := by
  have none : form.requestNextSlot ((form.activated tracker).hypothetical
      (slotEvents (form.accepted domain tracker))) = none :=
    Option.map_eq_none_iff.mpr complete
  unfold conclude
  rw [any_isDeactivation_slotEvents, none]
  rfl

/-! ## What is recorded -/

theorem isPlain_of_mem_question {slot : String} {event : Event}
    (member : event ∈ Event.action form.name :: form.questionEvents domain tracker slot) :
    event.isPlain = true := by
  rcases List.mem_cons.mp member with rfl | member
  · rfl
  · rcases List.mem_append.mp member with member | asked
    · rcases List.mem_append.mp member with activating | taken
      · exact form.isPlain_of_mem_activation tracker activating
      · exact isPlain_of_mem_slotEvents taken
    · obtain rfl := List.mem_singleton.mp asked
      rfl

theorem isPlain_of_mem_submission {event : Event}
    (member : event ∈ Event.action form.name :: form.submissionEvents domain tracker) :
    event.isPlain = true := by
  rcases List.mem_cons.mp member with rfl | member
  · rfl
  · rcases List.mem_append.mp member with taken | leaving
    · exact isPlain_of_mem_slotEvents taken
    · rcases List.mem_pair.mp leaving with rfl | rfl <;> rfl

/-- The recorded question sets nothing but the values and the question. -/
theorem extend_question_slots (slot : String) :
    (tracker.extend
        (Event.action form.name :: form.questionEvents domain tracker slot)).state.slots =
      DialogueState.assign tracker.schema (form.filled domain tracker) requestedSlot
        (.string slot) := by
  rw [Tracker.extend_slots_of_isPlain fun _ member =>
    form.isPlain_of_mem_question domain tracker member]
  unfold questionEvents filled
  rw [List.foldl_cons, List.foldl_append, List.foldl_append]
  change List.foldl _ (List.foldl _ (List.foldl _ tracker.state.slots _) _) _ = _
  rw [foldl_slotsAfter_activation]
  rfl

/-- The recorded submission sets the values and withdraws the question. -/
theorem extend_submission_slots :
    (tracker.extend
        (Event.action form.name :: form.submissionEvents domain tracker)).state.slots =
      DialogueState.assign tracker.schema (form.filled domain tracker) requestedSlot .null := by
  rw [Tracker.extend_slots_of_isPlain fun _ member =>
    form.isPlain_of_mem_submission domain tracker member]
  unfold submissionEvents filled
  rw [List.foldl_cons, List.foldl_append]
  rfl

/-- After the recorded question the form is active, validates and is not rejected. -/
theorem extend_question_activeLoop (slot : String) :
    (tracker.extend
        (Event.action form.name :: form.questionEvents domain tracker slot)).state.activeLoop =
      some ⟨form.name, true, false⟩ := by
  rw [Tracker.extend_activeLoop_of_isPlain fun _ member =>
    form.isPlain_of_mem_question domain tracker member]
  unfold questionEvents
  rw [List.foldl_cons, List.foldl_append, List.foldl_append, foldl_loopAfter_activation,
    foldl_slotEvents fun _ _ _ => rfl]
  change (if tracker.activeLoopName = some form.name
    then tracker.state.activeLoop.map fun active => active.afterAction form.name
    else some (ActiveLoop.fresh form.name)) = _
  by_cases active : tracker.activeLoopName = some form.name
  · rw [if_pos active]
    obtain ⟨loop, isActive, named⟩ := Option.map_eq_some_iff.mp active
    rw [isActive]
    simp [ActiveLoop.afterAction, named]
  · rw [if_neg active]
    rfl

/-- After the recorded question the action of the form is the latest one. -/
theorem extend_question_latestAction (slot : String) :
    (tracker.extend
        (Event.action form.name :: form.questionEvents domain tracker slot)).latestAction =
      some form.name := by
  rw [Tracker.latestAction, Tracker.extend_latestAction_of_isPlain fun _ member =>
    form.isPlain_of_mem_question domain tracker member, questionEvents, List.foldl_cons,
    List.foldl_append, List.foldl_append, form.foldl_activation tracker (fun _ _ => rfl)
    (fun _ _ _ => rfl), foldl_slotEvents fun _ _ _ => rfl]
  rfl

/-- After the recorded submission no form is active. -/
theorem extend_submission_activeLoop :
    (tracker.extend
        (Event.action form.name :: form.submissionEvents domain tracker)).state.activeLoop =
      none := by
  rw [Tracker.extend_activeLoop_of_isPlain fun _ member =>
    form.isPlain_of_mem_submission domain tracker member]
  unfold submissionEvents
  rw [List.foldl_cons, List.foldl_append]
  rfl

/-- What is recorded shows the same slots as the tracker on which the run decided, but
for the question asked last. -/
theorem slot?_eq_decisive {recorded : Tracker} {value : Json}
    (slots : recorded.state.slots =
      DialogueState.assign tracker.schema (form.filled domain tracker) requestedSlot value)
    {slot : String} (differs : slot ≠ requestedSlot) :
    recorded.slot? slot = (form.decisive domain tracker).slot? slot := by
  unfold Tracker.slot?
  rw [slots, decisive_slots, DialogueState.find?_assign, if_neg fun both => differs both.1]

theorem slot?_requestedSlot {recorded : Tracker} {value : Json}
    (slots : recorded.state.slots =
      DialogueState.assign tracker.schema (form.filled domain tracker) requestedSlot value)
    (declared : tracker.schema.contains requestedSlot = true) :
    recorded.slot? requestedSlot = (some value).filter fun value => !value.isNull := by
  unfold Tracker.slot?
  rw [slots, DialogueState.find?_assign, if_pos ⟨rfl, declared⟩]

/-- A question that was recorded names the first required slot without a value, and is
recorded only if there is one. -/
theorem question_recorded {recorded : Tracker} {asked : String}
    (unasked : requestedSlot ∉ form.requiredSlots)
    (slots : recorded.state.slots =
      DialogueState.assign tracker.schema (form.filled domain tracker) requestedSlot
        (.string asked))
    (missing : form.requiredSlots.find? (fun slot =>
      ((form.decisive domain tracker).slot? slot).isNone) = some asked) :
    ∃ earlier later, form.requiredSlots = earlier ++ asked :: later ∧
      (∀ slot ∈ earlier, recorded.slot? slot ≠ none) ∧ recorded.slot? asked = none := by
  obtain ⟨unset, earlier, later, split, set⟩ := List.find?_eq_some_iff_append.mp missing
  have same : ∀ slot ∈ form.requiredSlots,
      recorded.slot? slot = (form.decisive domain tracker).slot? slot := by
    intro slot required
    exact form.slot?_eq_decisive domain tracker slots fun equal => unasked (equal ▸ required)
  refine ⟨earlier, later, split, ?_, ?_⟩
  · intro slot member
    rw [same slot (by simp [split, member])]
    simpa [Option.isSome_iff_ne_none] using set slot member
  · rw [same asked (by simp [split])]
    simpa using unset

end FormSpec

namespace Conversation

variable {domain : Domain} {form : FormSpec} (declared : domain.form? form.name = some form)
  (unvalidated : domain.hasAction (validationAction form.name) = false)
  {conversation : Conversation} (executor : Executor)

include declared unvalidated

/-- A form that starves records its rejection and nothing else. -/
theorem executeForm_of_starves (starves : form.Starves domain conversation.tracker) :
    ∃ slot, conversation.executeForm executor domain form.name =
      (conversation.append [Event.loopRejected (some form.name)],
        .ok (.rejected (form.extractionFailure slot))) := by
  obtain ⟨slot, _, run⟩ := FormSpec.run_of_starves unvalidated executor starves
  refine ⟨slot, ?_⟩
  unfold executeForm Domain.runForm
  rw [declared]
  simp only [run]
  rfl

omit unvalidated in
/-- A run that concludes with the values it takes over is recorded with its action: as a
question, or as its submission. -/
theorem executeForm_of_concludes
    (run : form.run executor domain conversation.tracker =
      .ok (.completed (form.conclude (form.activation conversation.tracker)
        (FormSpec.slotEvents (form.accepted domain conversation.tracker))
        (form.activated conversation.tracker)))) :
    conversation.executeForm executor domain form.name =
      match form.requiredSlots.find? (fun slot =>
          ((form.decisive domain conversation.tracker).slot? slot).isNone) with
      | some slot =>
          (conversation.append
              (Event.action form.name :: form.questionEvents domain conversation.tracker slot),
            .ok (.completed (form.questionEvents domain conversation.tracker slot)))
      | none =>
          (conversation.append
              (Event.action form.name :: form.submissionEvents domain conversation.tracker),
            .ok (.completed (form.submissionEvents domain conversation.tracker))) := by
  unfold executeForm Domain.runForm
  rw [declared]
  simp only [run]
  split
  · rename_i slot missing
    rw [form.conclude_of_find?_eq_some domain conversation.tracker missing]
    rfl
  · rename_i complete
    rw [form.conclude_of_find?_eq_none domain conversation.tracker complete]
    rfl

/-- Any other form records its action and its events: a question, or its submission. -/
theorem executeForm_of_not_starves (fed : ¬form.Starves domain conversation.tracker) :
    conversation.executeForm executor domain form.name =
      match form.requiredSlots.find? (fun slot =>
          ((form.decisive domain conversation.tracker).slot? slot).isNone) with
      | some slot =>
          (conversation.append
              (Event.action form.name :: form.questionEvents domain conversation.tracker slot),
            .ok (.completed (form.questionEvents domain conversation.tracker slot)))
      | none =>
          (conversation.append
              (Event.action form.name :: form.submissionEvents domain conversation.tracker),
            .ok (.completed (form.submissionEvents domain conversation.tracker))) :=
  executeForm_of_concludes declared executor
    (FormSpec.run_of_not_starves unvalidated executor fed)

omit declared in
/-- One turn of a form without a validation action, whatever happened before.  It never
fails.  It is rejected exactly if the form starves, and then only the rejection is
recorded.  If it completes and a required slot is without a value, the form waits for
the first such slot; if none is, the form has been left. -/
theorem executeForm_turn (built : domain.Built) {name : String}
    (declared : domain.form? name = some form)
    (unasked : requestedSlot ∉ form.requiredSlots)
    (schema : conversation.tracker.schema = domain.slotSchema) :
    ∃ after outcome,
      conversation.executeForm executor domain name = (after, .ok outcome) ∧
      ((∃ rejection, outcome = .rejected rejection) ↔
        form.Starves domain conversation.tracker) ∧
      (∀ rejection, outcome = .rejected rejection →
        after.tracker.events =
          conversation.tracker.events ++ [Event.loopRejected (some form.name)] ∧
        after.tracker.state.slots = conversation.tracker.state.slots ∧
        after.tracker.latestMessage = conversation.tracker.latestMessage ∧
        after.tracker.latestAction = conversation.tracker.latestAction) ∧
      (∀ events, outcome = .completed events →
        after.tracker.events =
          conversation.tracker.events ++ Event.action form.name :: events ∧
        ((∃ slot ∈ form.requiredSlots, after.tracker.slot? slot = none) →
          after.tracker.state.activeLoop = some ⟨form.name, true, false⟩ ∧
          ∃ earlier asked later, form.requiredSlots = earlier ++ asked :: later ∧
            (∀ slot ∈ earlier, after.tracker.slot? slot ≠ none) ∧
            after.tracker.slot? asked = none ∧
            after.tracker.slot? requestedSlot = some (.string asked)) ∧
        ((∀ slot ∈ form.requiredSlots, after.tracker.slot? slot ≠ none) →
          after.tracker.state.activeLoop = none ∧
          after.tracker.slot? requestedSlot = none)) := by
  obtain rfl := built.form_name declared
  have holds : conversation.tracker.schema.contains requestedSlot = true := by
    rw [schema]
    exact built.schema_contains_requestedSlot declared
  by_cases starves : form.Starves domain conversation.tracker
  · obtain ⟨slot, executed⟩ := executeForm_of_starves declared unvalidated executor starves
    refine ⟨_, _, executed, by simp [starves], ?_, by simp⟩
    intro rejection _
    have plain : (Event.loopRejected (some form.name)).isPlain = true := rfl
    refine ⟨by simp [append], ?_, ?_, ?_⟩
    all_goals
      simp only [append, Tracker.extend_cons, Tracker.extend_nil, Tracker.latestMessage,
        Tracker.latestAction, Tracker.append_of_isPlain plain]
      rfl
  · have executed := executeForm_of_not_starves declared unvalidated executor starves
    cases decision : form.requiredSlots.find? (fun slot =>
        ((form.decisive domain conversation.tracker).slot? slot).isNone) with
    | some asked =>
        rw [decision] at executed
        have slots := form.extend_question_slots domain conversation.tracker asked
        obtain ⟨earlier, later, split, set, unset⟩ :=
          form.question_recorded domain conversation.tracker unasked slots decision
        refine ⟨_, _, executed, by simp [starves], by simp, ?_⟩
        rintro events ⟨⟩
        refine ⟨by simp [append], ?_, ?_⟩
        · intro _
          refine ⟨form.extend_question_activeLoop domain conversation.tracker asked,
            earlier, asked, later, split, set, unset, ?_⟩
          rw [append, form.slot?_requestedSlot domain conversation.tracker slots holds]
          rfl
        · intro complete
          exact absurd unset (complete asked (by simp [split]))
    | none =>
        rw [decision] at executed
        have slots := form.extend_submission_slots domain conversation.tracker
        refine ⟨_, _, executed, by simp [starves], by simp, ?_⟩
        rintro events ⟨⟩
        refine ⟨by simp [append], ?_, ?_⟩
        · rintro ⟨slot, required, unset⟩
          have differs : slot ≠ requestedSlot := fun equal => unasked (equal ▸ required)
          have same := form.slot?_eq_decisive domain conversation.tracker slots differs
          have set := List.find?_eq_none.mp decision slot required
          rw [append, same] at unset
          exact absurd unset (by simpa using set)
        · intro _
          refine ⟨form.extend_submission_activeLoop domain conversation.tracker, ?_⟩
          rw [append, form.slot?_requestedSlot domain conversation.tracker slots holds]
          rfl

omit declared unvalidated

/-- A form that asks for a city, which any text tells, and for a date. -/
def bookingForm : FormSpec := { name := "booking", requiredSlots := ["city", "date"] }

def bookingDomain : Domain :=
  ((Domain.empty.withSlot { name := "city", type := .text, mappings := [.fromText] }).withSlot
    { name := "date", type := .text }).withForm bookingForm

/-- A conversation in which the form has asked for the city and the user answers. -/
def askedForCity (known : List Event) (answer : UserMessage) : Conversation where
  tracker := Tracker.ofEvents "user" bookingDomain.slotSchema (known ++ [
    .action "booking", .formActivated "booking", .slotSet requestedSlot (.string "city"),
    .listen, .user answer])

/-- The form is rejected if the answer has no text, goes on to ask for the date after a
text, and submits if it knows the date. -/
theorem executeForm_turn_booking :
    let run (conversation : Conversation) :=
      conversation.executeForm (fun action _ _ => .error (.unstubbed action)) bookingDomain
        "booking"
    let city := Event.slotSet "city" (.string "Oslo")
    let denied := askedForCity [] (UserMessage.withIntent {} "deny")
    let answered := askedForCity [] (UserMessage.ofText "Oslo")
    let known := askedForCity [Event.slotSet "date" (.string "today")] (UserMessage.ofText "Oslo")
    (bookingForm.Starves bookingDomain denied.tracker ∧
      ∃ rejection, (run denied).2 = .ok (.rejected rejection) ∧
        (run denied).1.tracker.events =
          denied.tracker.events ++ [Event.loopRejected (some "booking")]) ∧
    ((run answered).2 = .ok (.completed [city, Event.slotSet requestedSlot (.string "date")]) ∧
      (run answered).1.tracker.state.activeLoop = some ⟨"booking", true, false⟩ ∧
      (run answered).1.tracker.slot? requestedSlot = some (.string "date")) ∧
    (run known).2 = .ok (.completed (city :: FormSpec.deactivation)) ∧
      (run known).1.tracker.state.activeLoop = none ∧
      (run known).1.tracker.slot? requestedSlot = none := by
  intro run city denied answered known
  have built : bookingDomain.Built :=
    ((Domain.Built.empty.withSlot _).withSlot _).withForm bookingForm
  have turn (events : List Event) (message : UserMessage) :=
    @executeForm_turn bookingDomain bookingForm rfl (askedForCity events message)
      (fun action _ _ => .error (.unstubbed action)) built "booking" rfl (by decide)
      (Tracker.extend_schema ..)
  refine ⟨?_, ?_, ?_⟩
  · have starves : bookingForm.Starves bookingDomain denied.tracker := by
      refine ⟨rfl, fun _ => rfl, "city", rfl, rfl, ?_⟩
      intro other required differs
      rcases List.mem_pair.mp required with rfl | rfl
      · exact absurd rfl differs
      · rfl
    obtain ⟨after, outcome, executed, rejected_iff, recorded, _⟩ := turn _ _
    obtain ⟨rejection, rfl⟩ := rejected_iff.mpr starves
    rw [show run denied = _ from executed]
    exact ⟨starves, rejection, rfl, (recorded rejection rfl).1⟩
  · have asks : (run answered).2 =
        .ok (.completed [city, Event.slotSet requestedSlot (.string "date")]) := rfl
    have unset : (run answered).1.tracker.slot? "date" = none := rfl
    have isAsked : (run answered).1.tracker.slot? requestedSlot = some (.string "date") := rfl
    obtain ⟨after, outcome, executed, _, _, completed⟩ := turn _ _
    rw [show run answered = _ from executed] at asks unset isAsked ⊢
    have waits := (completed _ (Except.ok.inj asks)).2.1 ⟨"date", by decide, unset⟩
    exact ⟨asks, waits.1, isAsked⟩
  · have submits : (run known).2 = .ok (.completed (city :: FormSpec.deactivation)) := rfl
    have complete : ∀ slot ∈ bookingForm.requiredSlots,
        (run known).1.tracker.slot? slot ≠ none := by
      intro slot required
      rcases List.mem_pair.mp required with rfl | rfl
      · nofun
      · nofun
    obtain ⟨after, outcome, executed, _, _, completed⟩ := turn _ _
    rw [show run known = _ from executed] at submits complete ⊢
    exact ⟨submits, (completed _ (Except.ok.inj submits)).2.2 complete⟩

end Conversation

end Dialogue
