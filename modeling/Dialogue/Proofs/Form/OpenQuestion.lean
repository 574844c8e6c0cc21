import Dialogue.Proofs.Form.Submission

/-!
# Open questions and active loops

The slot for the question asked last and the active loop are stored apart.  Over whole
dialogues of a user with forms, they go together: a question is open only while a form is
active.  Each run of a form restores this when it asks or submits.  A run that its
validation action cancels leaves the loop and withdraws no question, so a question can then
stay open until another run completes; and a value with which the slot is declared stays
until a first run completes.
-/

namespace Dialogue

/-! ## Dialogues -/

/-- How a completed run of a form has ended. -/
inductive Ending where
  /-- The form has asked for a slot or has submitted. -/
  | own
  /-- The validation action has left the loop. -/
  | cancelled

/-- The events leave the loop, and the form has not submitted. -/
def FormSpec.Cancelled (events : List Event) : Prop :=
  events.any Event.isDeactivation = true ∧ ¬FormSpec.deactivation <:+ events

/-- `FormDialogue domain ending conversation` says that the user and the forms of a domain
have brought about a conversation, and how the latest run that completed has ended.  Each
run has an executor of its own, whose validation action answers with restrained events. -/
inductive FormDialogue (domain : Domain) : Option Ending → Conversation → Prop where
  /-- Nothing has happened. -/
  | start (sender : String) (session : Session) :
      FormDialogue domain none ⟨Tracker.new sender domain.slotSchema, session⟩
  /-- The assistant waits, or the user speaks. -/
  | turn {ending : Option Ending} {conversation : Conversation}
      (dialogue : FormDialogue domain ending conversation) {event : Event}
      (turn : event.isListen = true ∨ event.isUser = true) :
      FormDialogue domain ending (conversation.append [event])
  /-- A form fails or is rejected. -/
  | incomplete {ending : Option Ending} {conversation after : Conversation}
      (dialogue : FormDialogue domain ending conversation) {executor : Executor} {name : String}
      {result : Except ActionError ActionOutcome}
      (executed : conversation.executeForm executor domain name = (after, result))
      (incomplete : ∀ events, result ≠ .ok (.completed events)) :
      FormDialogue domain ending after
  /-- A form asks or submits. -/
  | concluded {ending : Option Ending} {conversation after : Conversation}
      (dialogue : FormDialogue domain ending conversation) {executor : Executor} {name : String}
      (restrained : executor.IsRestrained (validationAction name) domain) {events : List Event}
      (executed : conversation.executeForm executor domain name =
        (after, .ok (.completed events)))
      (own : ¬FormSpec.Cancelled events) : FormDialogue domain (some .own) after
  /-- A form is cancelled by its validation action. -/
  | cancelled {ending : Option Ending} {conversation after : Conversation}
      (dialogue : FormDialogue domain ending conversation) {executor : Executor} {name : String}
      (restrained : executor.IsRestrained (validationAction name) domain) {events : List Event}
      (executed : conversation.executeForm executor domain name =
        (after, .ok (.completed events)))
      (cancelled : FormSpec.Cancelled events) : FormDialogue domain (some .cancelled) after

/-- Every form can be run at any moment of a dialogue. -/
theorem FormDialogue.exists_executeForm {domain : Domain} {ending : Option Ending}
    {conversation : Conversation} (dialogue : FormDialogue domain ending conversation)
    {executor : Executor} {name : String}
    (restrained : executor.IsRestrained (validationAction name) domain) :
    ∃ next, FormDialogue domain next (conversation.executeForm executor domain name).1 := by
  rcases executed : conversation.executeForm executor domain name with ⟨after, result⟩
  by_cases completed : ∃ events, result = .ok (.completed events)
  · rcases completed with ⟨events, rfl⟩
    by_cases cancelled : FormSpec.Cancelled events
    · exact ⟨_, dialogue.cancelled restrained executed cancelled⟩
    · exact ⟨_, dialogue.concluded restrained executed cancelled⟩
  · exact ⟨_, dialogue.incomplete executed fun events equal => completed ⟨events, equal⟩⟩

/-! ## What a run does to the loop -/

namespace FormSpec

variable {form : FormSpec} {executor : Executor} {domain : Domain} {tracker : Tracker}
  {events : List Event}

section

variable (restrained : executor.IsRestrained (validationAction form.name) domain)

include restrained

theorem Obtained.isPlain (obtained : form.Obtained executor domain events) :
    ∀ event ∈ events, event.isPlain = true := by
  cases obtained with
  | values values => exact fun event member => isPlain_of_mem_slotEvents member
  | answer answered => exact isPlain_intoEvents (restrained _ _ answered)

/-- Events that are taken over leave the loop by a deactivation only. -/
theorem Obtained.foldl_loopAfter (obtained : form.Obtained executor domain events)
    (loop : Option ActiveLoop) :
    events.foldl DialogueState.loopAfter loop =
      if events.any Event.isDeactivation then none else loop := by
  cases obtained with
  | values values =>
      rw [foldl_slotEvents fun _ _ _ => rfl, any_isDeactivation_slotEvents]
      rfl
  | answer answered =>
      apply foldl_loopAfter_of_isRestrained
      intro event member
      exact ActionResponse.isRestrained_of_mem_intoEvents (restrained _ _ answered) member

/-- An answer that leaves the loop is no submission, since it does not withdraw the
question. -/
theorem Obtained.cancelled (obtained : form.Obtained executor domain events)
    (leaves : events.any Event.isDeactivation = true) : Cancelled events := by
  refine ⟨leaves, ?_⟩
  rintro ⟨before, split⟩
  cases obtained with
  | values values =>
      rw [any_isDeactivation_slotEvents] at leaves
      cases leaves
  | @answer query response answered =>
      have withdrawal : Event.slotSet requestedSlot .null ∈ response.intoEvents := by
        rw [← split]
        simp [deactivation]
      exact Event.change_ne_slotSet_requestedSlot (ActionResponse.isRestrained_of_mem_intoEvents
        (restrained _ _ answered) withdrawal) .null rfl

/-- After its activation a form is the active loop, unless the answer has left the loop. -/
theorem map_name_foldl_activation
    (activates : form.activateIfRequired executor domain tracker = .ok (.completed events))
    {loop : Option ActiveLoop} (same : loop.map ActiveLoop.name = tracker.activeLoopName) :
    (events.foldl DialogueState.loopAfter loop).map ActiveLoop.name =
      if events.any Event.isDeactivation then none else some form.name := by
  rcases activation_cases activates with ⟨active, rfl⟩ | ⟨rest, rfl, obtained⟩
  · exact same.trans active
  · rw [List.foldl_cons, obtained.foldl_loopAfter restrained, List.any_cons]
    change _ = if rest.any Event.isDeactivation then none else some form.name
    cases rest.any Event.isDeactivation <;> rfl

/-- After a form has asked, it is the active loop, unless the answer at its activation has
left the loop. -/
theorem activeLoopName_extend_question {activation validation : List Event}
    (activates : form.activateIfRequired executor domain tracker = .ok (.completed activation))
    (obtained : form.Obtained executor domain validation)
    (stays : validation.any Event.isDeactivation = false) (slot : String) :
    (tracker.extend (Event.action form.name :: (activation ++ validation ++
        [Event.slotSet requestedSlot (.string slot)]))).activeLoopName =
      if activation.any Event.isDeactivation then none else some form.name := by
  have plain : ∀ event ∈ Event.action form.name :: (activation ++ validation ++
      [Event.slotSet requestedSlot (.string slot)]), event.isPlain = true :=
    List.forall_mem_cons.mpr ⟨rfl, List.forall_mem_append.mpr
      ⟨List.forall_mem_append.mpr
        ⟨isPlain_activation (fun _ obtained => obtained.isPlain restrained) activates,
          obtained.isPlain restrained⟩,
        List.forall_mem_singleton.mpr rfl⟩⟩
  have named : (DialogueState.loopAfter tracker.state.activeLoop
      (Event.action form.name)).map ActiveLoop.name = tracker.activeLoopName := by
    unfold Tracker.activeLoopName
    cases tracker.state.activeLoop <;> rfl
  rw [Tracker.activeLoopName, Tracker.extend_activeLoop_of_isPlain plain, List.foldl_cons,
    List.foldl_append, List.foldl_append, obtained.foldl_loopAfter restrained, stays,
    ← map_name_foldl_activation restrained activates named]
  rfl

end

end FormSpec

/-! ## How runs end -/

namespace Conversation

variable {domain : Domain} (built : domain.Built) {executor : Executor} {name : String}
  (restrained : executor.IsRestrained (validationAction name) domain)
  {conversation after : Conversation} {events : List Event}
  (executed : conversation.executeForm executor domain name = (after, .ok (.completed events)))

include built restrained executed

/-- A form that has ended its run by itself is active if the question is open. -/
theorem activeLoopName_of_concluded (own : ¬FormSpec.Cancelled events)
    (sameSchema : conversation.tracker.schema = domain.slotSchema)
    (asked : after.tracker.slot? requestedSlot ≠ none) :
    after.tracker.activeLoopName = some name := by
  rcases exists_run_of_executeForm executed with ⟨form, declared, run, recorded⟩
  obtain rfl := built.form_name declared
  rw [recorded] at asked ⊢
  rcases FormSpec.run_completed_cases run with ⟨activation, validation, activates, validates, ends⟩
  have obtained := FormSpec.obtained_of_validate validates
  cases ends with
  | cancelled leaves => exact absurd (obtained.cancelled restrained leaves) own
  | @question stays slot required unset =>
      have active : activation.any Event.isDeactivation = false := by
        apply Bool.eq_false_iff.mpr
        intro leaves
        apply own
        constructor
        · simp [leaves]
        · rintro ⟨before, submitted⟩
          exact FormSpec.append_deactivation_ne_question _ _ _ submitted
      rw [FormSpec.activeLoopName_extend_question restrained activates obtained stays, active]
      rfl
  | submission stays complete =>
      refine absurd ?_ asked
      apply FormSpec.slot?_requestedSlot_extend_submission (obtained.isPlain restrained)
      rw [sameSchema]
      exact built.schema_contains_requestedSlot declared

/-- No loop is active after a run that was cancelled, also if it has asked. -/
theorem activeLoopName_of_cancelled (cancelled : FormSpec.Cancelled events) :
    after.tracker.activeLoopName = none := by
  rcases exists_run_of_executeForm executed with ⟨form, declared, run, recorded⟩
  obtain rfl := built.form_name declared
  rw [recorded]
  rcases FormSpec.run_completed_cases run with ⟨activation, validation, activates, validates, ends⟩
  have obtained := FormSpec.obtained_of_validate validates
  cases ends with
  | cancelled leaves =>
      have plain : ∀ event ∈ Event.action form.name :: events, event.isPlain = true :=
        List.forall_mem_cons.mpr ⟨rfl, obtained.isPlain restrained⟩
      rw [Tracker.activeLoopName, Tracker.extend_activeLoop_of_isPlain plain, List.foldl_cons,
        obtained.foldl_loopAfter restrained, leaves]
      rfl
  | @question stays slot required unset =>
      have left : activation.any Event.isDeactivation = true := by
        have leaves := cancelled.1
        rw [List.any_append, List.any_append, stays] at leaves
        simpa [Event.isDeactivation, Event.slotSet] using leaves
      rw [FormSpec.activeLoopName_extend_question restrained activates obtained stays, left]
      rfl
  | submission stays complete => exact absurd (List.suffix_append _ _) cancelled.2

end Conversation

/-! ## The invariant -/

/-- The event sets no slot and changes no loop but for its flags. -/
def Event.isIdle (event : Event) : Bool :=
  match event.change with
  | .actionExecuted _ _ _ => true
  | .userUttered _ => true
  | .loopRejected _ => true
  | _ => false

theorem Event.isIdle_of_turn {event : Event}
    (turn : event.isListen = true ∨ event.isUser = true) : event.isIdle = true := by
  rcases event with ⟨change, _, _⟩
  cases change <;> first | rfl | (rcases turn with listen | user <;> contradiction)

section

variable {event : Event} (idle : event.isIdle = true)

include idle

theorem Event.isPlain_of_isIdle : event.isPlain = true := by
  rcases event with ⟨change, _, _⟩
  cases change <;> first | rfl | cases idle

theorem Tracker.append_slots_of_isIdle (tracker : Tracker) :
    (tracker.append event).state.slots = tracker.state.slots := by
  rw [append_of_isPlain (Event.isPlain_of_isIdle idle), DialogueState.apply_slots]
  rcases event with ⟨change, _, _⟩
  cases change <;> first | rfl | cases idle

theorem Tracker.append_activeLoopName_of_isIdle (tracker : Tracker) :
    (tracker.append event).activeLoopName = tracker.activeLoopName := by
  unfold activeLoopName
  rw [append_of_isPlain (Event.isPlain_of_isIdle idle), DialogueState.apply_activeLoop]
  rcases event with ⟨change, _, _⟩
  cases loop : tracker.state.activeLoop with
  | none => cases change <;> first | rfl | cases idle
  | some active =>
      cases change with
      | loopRejected rejected =>
          simp only [DialogueState.loopAfter, Option.map_some, ActiveLoop.afterRejection]
          split <;> rfl
      | _ => first | rfl | cases idle

end

/-- What holds between the question asked last and the active loop, by how the latest run
has ended. -/
structure Paired (domain : Domain) (ending : Option Ending) (tracker : Tracker) : Prop where
  /-- The tracker knows the slots of the domain. -/
  schema : tracker.schema = domain.slotSchema
  /-- Before the first run completes, no slot has been set. -/
  untouched : ending = none → tracker.state.slots = domain.slotSchema
  /-- After a form has asked or submitted, the question is open only while a form of the
  domain is active. -/
  active : ending = some .own → tracker.slot? requestedSlot ≠ none →
    ∃ name form, domain.form? name = some form ∧ tracker.activeLoopName = some name
  /-- After a cancellation no loop is active. -/
  left : ending = some .cancelled → tracker.activeLoopName = none

theorem Paired.append_of_isIdle {domain : Domain} {ending : Option Ending} {tracker : Tracker}
    (paired : Paired domain ending tracker) {event : Event} (idle : event.isIdle = true) :
    Paired domain ending (tracker.append event) := by
  have slots := Tracker.append_slots_of_isIdle idle tracker
  have loop := Tracker.append_activeLoopName_of_isIdle idle tracker
  constructor
  · rw [Tracker.append_schema, paired.schema]
  · rw [slots]
    exact paired.untouched
  · rw [loop, Tracker.slot?, slots]
    exact paired.active
  · rw [loop]
    exact paired.left

namespace FormDialogue

variable {domain : Domain} (built : domain.Built) {ending : Option Ending}
  {conversation : Conversation}

/-- Runs never change which slots a conversation knows. -/
theorem executeForm_schema {after : Conversation} {executor : Executor} {name : String}
    {events : List Event}
    (executed : conversation.executeForm executor domain name =
      (after, .ok (.completed events))) :
    after.tracker.schema = conversation.tracker.schema := by
  rcases Conversation.exists_run_of_executeForm executed with ⟨form, declared, run, recorded⟩
  rw [recorded, Tracker.extend_schema]

include built

/-- The pairing holds at every moment of a dialogue. -/
theorem paired (dialogue : FormDialogue domain ending conversation) :
    Paired domain ending conversation.tracker := by
  induction dialogue with
  | start sender session =>
      constructor
      · rfl
      · exact fun _ => rfl
      · exact fun own => nomatch own
      · exact fun cancelled => nomatch cancelled
  | turn dialogue turn ih => exact ih.append_of_isIdle (Event.isIdle_of_turn turn)
  | incomplete dialogue executed incomplete ih =>
      rcases Conversation.executeForm_of_incomplete executed incomplete with
        rfl | ⟨rejection, rfl⟩
      · exact ih
      · have idle : rejection.event.isIdle = true := rfl
        exact ih.append_of_isIdle idle
  | concluded dialogue restrained executed own ih =>
      constructor
      · exact (executeForm_schema executed).trans ih.schema
      · exact fun none => nomatch none
      · intro _ asked
        rcases Conversation.exists_run_of_executeForm executed with ⟨form, declared, _, _⟩
        exact ⟨_, form, declared, Conversation.activeLoopName_of_concluded built restrained
          executed own ih.schema asked⟩
      · exact fun cancelled => nomatch cancelled
  | cancelled dialogue restrained executed cancelled ih =>
      constructor
      · exact (executeForm_schema executed).trans ih.schema
      · exact fun none => nomatch none
      · exact fun own => nomatch own
      · exact fun _ =>
          Conversation.activeLoopName_of_cancelled built restrained executed cancelled

/-- At every moment of a dialogue, a question is open only while a form of the domain is
active, unless the latest run that completed was cancelled, or no run has completed and the
slots are as they were declared.  After a cancelled run no loop is active. -/
theorem loop_active_of_open_question (dialogue : FormDialogue domain ending conversation) :
    (conversation.tracker.slot? requestedSlot ≠ none →
      (∃ name form, domain.form? name = some form ∧
        conversation.tracker.activeLoopName = some name) ∨
      ending = some .cancelled ∨
      (ending = none ∧ conversation.tracker.state.slots = domain.slotSchema)) ∧
    (ending = some .cancelled → conversation.tracker.activeLoopName = none) := by
  have paired := dialogue.paired built
  constructor
  · intro asked
    cases ending with
    | none => exact .inr (.inr ⟨rfl, paired.untouched rfl⟩)
    | some ending =>
        cases ending with
        | own => exact .inl (paired.active rfl asked)
        | cancelled => exact .inr (.inl rfl)
  · exact paired.left

omit built

/-- A form is run before the user has said anything, and asks for the time. -/
theorem loop_active_of_first_question :
    let book : FormSpec := { name := "book", requiredSlots := ["time"] }
    let domain := (Domain.empty.withSlot { name := "time", type := .text }).withForm book
    let executor : Executor := fun _ _ _ => .ok {}
    let start : Conversation := { tracker := Tracker.new "user" domain.slotSchema }
    let asked := (start.executeForm executor domain "book").1
    FormDialogue domain (some .own) asked ∧
      asked.tracker.slot? requestedSlot = some (.string "time") ∧
      ∃ name form, domain.form? name = some form ∧ asked.tracker.activeLoopName = some name := by
  intro book domain executor start asked
  have built : domain.Built := (Domain.Built.empty.withSlot _).withForm book
  have restrained : executor.IsRestrained (validationAction "book") domain := by
    rintro query answer ⟨⟩ event member
    cases member
  have executed : start.executeForm executor domain "book" =
      (asked, .ok (.completed
        [.formActivated "book", .slotSet requestedSlot (.string "time")])) := by
    subst asked start executor domain book
    rfl
  have own : ¬FormSpec.Cancelled
      [Event.formActivated "book", .slotSet requestedSlot (.string "time")] :=
    fun cancelled => nomatch cancelled.1
  have dialogue := (FormDialogue.start "user" {}).concluded restrained executed own
  have openQuestion : asked.tracker.slot? requestedSlot = some (.string "time") := by
    subst asked start executor domain book
    rfl
  refine ⟨dialogue, openQuestion, ?_⟩
  rcases (loop_active_of_open_question built dialogue).1 (by simp [openQuestion]) with
    active | cancelled | ⟨untouched, _⟩
  · exact active
  · cases cancelled
  · cases untouched

/-- A form asks for the time, the user gives it, and the validation action cancels: the
question stays open without a loop.  And where the slot for the question asked last is
declared with a value, the question is open before anything has happened. -/
theorem not_loop_active_of_cancelled_answer :
    (let book : FormSpec := { name := "book", requiredSlots := ["time"] }
      let domain := ((Domain.empty.withSlot { name := "time", type := .text }).withForm
        book).withActions ["action_validate_book"]
      let executor : Executor := fun _ _ _ => .ok { events := [Event.formDeactivated] }
      let start : Conversation := { tracker := Tracker.new "user" domain.slotSchema }
      let asked := (start.executeForm executor domain "book").1
      let answered := (asked.append [.listen]).append
        [.user (UserMessage.withEntity {} { entity := "time", value := .string "noon" })]
      let after := (answered.executeForm executor domain "book").1
      FormDialogue domain (some .cancelled) after ∧
        after.tracker.slot? requestedSlot = some (.string "time") ∧
        after.tracker.activeLoopName = none) ∧
    (let domain := (Domain.empty.withSlot
        { name := requestedSlot, type := .text, initialValue := .string "time" }).withForm
        { name := "book", requiredSlots := ["time"] }
      let start : Conversation := { tracker := Tracker.new "user" domain.slotSchema }
      FormDialogue domain none start ∧
        start.tracker.slot? requestedSlot = some (.string "time") ∧
        start.tracker.activeLoopName = none) := by
  constructor
  · intro book domain executor start asked answered after
    have restrained : executor.IsRestrained (validationAction "book") domain := by
      rintro query answer ⟨⟩ event member
      obtain rfl := List.mem_singleton.mp member
      rfl
    have question : start.executeForm executor domain "book" =
        (asked, .ok (.completed
          [.formActivated "book", .slotSet requestedSlot (.string "time")])) := by
      subst after answered asked start executor domain book
      rfl
    have own : ¬FormSpec.Cancelled
        [Event.formActivated "book", .slotSet requestedSlot (.string "time")] :=
      fun cancelled => nomatch cancelled.1
    have cancellation : answered.executeForm executor domain "book" =
        (after, .ok (.completed [.formDeactivated])) := by
      subst after answered asked start executor domain book
      rfl
    have cancelled : FormSpec.Cancelled [Event.formDeactivated] := by
      constructor
      · rfl
      · exact fun submitted => absurd submitted.length_le (by decide)
    have dialogue : FormDialogue domain (some .own) answered :=
      (((FormDialogue.start "user" {}).concluded restrained question own).turn
        (.inl rfl)).turn (.inr rfl)
    refine ⟨dialogue.cancelled restrained cancellation cancelled, ?_⟩
    subst after answered asked start executor domain book
    exact ⟨rfl, rfl⟩
  · exact ⟨.start "user" {}, rfl, rfl⟩

end FormDialogue

end Dialogue
