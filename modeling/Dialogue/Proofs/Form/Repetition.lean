import Dialogue.Proofs.Form.Turn

/-!
# Running a form again

A message stays the latest one until the next, so a form that is run again could take the
same values over once more.  It does not: a form that has asked for a slot waits, and the
action that stands in the log since keeps it from looking at the message.  `FormSpec.Waits`
says what such a form has left behind.  A further run puts the same question again and
changes nothing in the state, and so the form waits as before.
-/

namespace Dialogue

namespace DialogueState

variable {state : DialogueState}

/-- Running the action of a loop again that validates and is not rejected changes nothing. -/
theorem apply_action_eq_self {name : String} (ran : state.latestAction = some name)
    (active : state.activeLoop = some ⟨name, true, false⟩) (schema : SlotSchema) :
    state.apply schema (Event.action name) = state := by
  rcases state with ⟨slots, loop, action, message, utterance⟩
  cases ran
  cases active
  rfl

/-- Setting a slot to the value that it has changes nothing. -/
theorem apply_slotSet_eq_self {name : String} {value : Json}
    (held : state.slots.find? name = some value) (schema : SlotSchema) :
    state.apply schema (Event.slotSet name value) = state := by
  change (if schema.contains name then { state with slots := state.slots.insert name value }
    else state) = state
  split
  · rw [Table.insert_eq_self held]
  · rfl

end DialogueState

namespace FormSpec

/-- The form has asked for a slot and nothing has happened since: it is active and
validates, and the slot is the first required one without a value. -/
structure Waits (form : FormSpec) (slot : String) (tracker : Tracker) : Prop where
  ran : tracker.latestAction = some form.name
  active : tracker.state.activeLoop = some ⟨form.name, true, false⟩
  asked : tracker.slot? requestedSlot = some (.string slot)
  missing : form.requiredSlots.find? (fun slot => (tracker.slot? slot).isNone) = some slot

/-- The events of a run that does nothing but ask. -/
def askAgain (form : FormSpec) (slot : String) : List Event :=
  [Event.action form.name, Event.slotSet requestedSlot (.string slot)]

namespace Waits

variable {form : FormSpec} {domain : Domain} {slot : String} {tracker : Tracker}

/-- Whether a form waits is decided by the state. -/
theorem of_state_eq {other : Tracker} (same : other.state = tracker.state)
    (waits : form.Waits slot tracker) : form.Waits slot other := by
  rcases waits with ⟨ran, active, asked, missing⟩
  have slots : other.slot? = tracker.slot? := by
    funext name
    rw [Tracker.slot?, same, Tracker.slot?]
  rw [← slots] at asked missing
  rw [Tracker.latestAction, ← same] at ran
  rw [← same] at active
  exact ⟨ran, active, asked, missing⟩

variable (waits : form.Waits slot tracker)

include waits

theorem activeLoopName : tracker.activeLoopName = some form.name := by
  rw [Tracker.activeLoopName, waits.active]
  rfl

/-- To ask again changes nothing. -/
theorem extend_askAgain_state : (tracker.extend (form.askAgain slot)).state = tracker.state := by
  have plain : ∀ event ∈ form.askAgain slot, event.isPlain = true := by
    intro event member
    rcases List.mem_pair.mp member with rfl | rfl <;> rfl
  have held := (Option.filter_eq_some_iff.mp waits.asked).1
  rw [Tracker.extend_state_of_isPlain plain, askAgain, List.foldl_cons, List.foldl_cons,
    DialogueState.apply_action_eq_self waits.ran waits.active,
    DialogueState.apply_slotSet_eq_self held]
  rfl

variable (speaks : form.name ≠ listenAction)

include speaks

/-- The form does not look at the message that it has seen. -/
theorem not_listens : ¬form.Listens tracker := by
  rintro ⟨listening, _⟩
  rw [waits.ran] at listening
  exact speaks (Option.some.inj listening)

theorem decisive_eq : form.decisive domain tracker = tracker := by
  rw [decisive, accepted_of_not_listens domain (waits.not_listens speaks),
    activated_of_active waits.activeLoopName]
  rfl

theorem questionEvents_eq :
    form.questionEvents domain tracker slot = [Event.slotSet requestedSlot (.string slot)] := by
  rw [questionEvents, accepted_of_not_listens domain (waits.not_listens speaks),
    activation_of_active waits.activeLoopName]
  rfl

end Waits

end FormSpec

namespace Conversation

variable {domain : Domain} {form : FormSpec} {slot : String} {conversation after : Conversation}

/-- The conversation after a form was run once more for each of the executors, and nothing
else has happened. -/
def executeAgain (domain : Domain) (name : String) (conversation : Conversation)
    (executors : List Executor) : Conversation :=
  executors.foldl (fun current executor => (current.executeForm executor domain name).1)
    conversation

section

variable (declared : domain.form? form.name = some form)
  (unvalidated : domain.hasAction (validationAction form.name) = false)

include declared unvalidated

/-- A form without a validation action that completes and stays active waits for an answer
to the question that ends its events. -/
theorem exists_waits_of_executeForm (unasked : requestedSlot ∉ form.requiredSlots)
    (holds : conversation.tracker.schema.contains requestedSlot = true) {executor : Executor}
    {events : List Event}
    (executed : conversation.executeForm executor domain form.name =
      (after, .ok (.completed events)))
    (active : after.tracker.activeLoopName = some form.name) :
    ∃ slot, form.Waits slot after.tracker ∧
      events.getLast? = some (Event.slotSet requestedSlot (.string slot)) := by
  by_cases starves : form.Starves domain conversation.tracker
  · rcases executeForm_of_starves declared unvalidated executor starves with ⟨slot, rejected⟩
    rw [rejected] at executed
    cases executed
  · rw [executeForm_of_not_starves declared unvalidated executor starves] at executed
    cases decision : form.requiredSlots.find? (fun slot =>
        ((form.decisive domain conversation.tracker).slot? slot).isNone) with
    | some asked =>
        rw [decision] at executed
        cases executed
        have slots := form.extend_question_slots domain conversation.tracker asked
        rcases form.question_recorded domain conversation.tracker unasked slots decision with
          ⟨earlier, later, split, set, unset⟩
        have waits : form.Waits asked (conversation.tracker.extend
            (Event.action form.name :: form.questionEvents domain conversation.tracker asked)) := by
          constructor
          · exact form.extend_question_latestAction domain conversation.tracker asked
          · exact form.extend_question_activeLoop domain conversation.tracker asked
          · rw [form.slot?_requestedSlot domain conversation.tracker slots holds]
            rfl
          · apply List.find?_eq_some_iff_append.mpr
            refine ⟨by rw [unset]; rfl, earlier, later, split, ?_⟩
            intro slot member
            simpa [Option.isSome_iff_ne_none] using set slot member
        exact ⟨asked, waits, List.getLast?_concat⟩
    | none =>
        rw [decision] at executed
        cases executed
        have left := form.extend_submission_activeLoop domain conversation.tracker
        rw [Tracker.activeLoopName, append, left] at active
        cases active

variable (speaks : form.name ≠ listenAction) (waits : form.Waits slot conversation.tracker)

include speaks waits

/-- A form that waits asks again, whoever runs its actions. -/
theorem executeForm_of_waits (executor : Executor) :
    conversation.executeForm executor domain form.name =
      (conversation.append (form.askAgain slot),
        .ok (.completed [Event.slotSet requestedSlot (.string slot)])) := by
  have fed : ¬form.Starves domain conversation.tracker :=
    fun starves => waits.not_listens speaks ⟨starves.listening, starves.validating⟩
  rw [executeForm_of_not_starves declared unvalidated executor fed, waits.decisive_eq speaks,
    waits.missing]
  dsimp only
  rw [waits.questionEvents_eq speaks]
  rfl

/-- However often a form that waits is run, the state stays as it is. -/
theorem executeAgain_state (executors : List Executor) :
    (conversation.executeAgain domain form.name executors).tracker.state =
      conversation.tracker.state := by
  induction executors generalizing conversation with
  | nil => rfl
  | cons executor rest ih =>
      have same := waits.extend_askAgain_state
      rw [executeAgain, List.foldl_cons,
        executeForm_of_waits declared unvalidated speaks waits executor]
      exact (ih (waits.of_state_eq same)).trans same

end

/-- A message is taken in by a form at most once.  If a form without a validation action
completes and stays active, it has asked for a slot; run again without anything else, any
number of times and whoever would run its actions, it completes with that same question and
nothing else, and the state stays as it is. -/
theorem executeForm_again (built : domain.Built) {name : String}
    (declared : domain.form? name = some form) (speaks : name ≠ listenAction)
    (unasked : requestedSlot ∉ form.requiredSlots)
    (unvalidated : domain.hasAction (validationAction name) = false)
    (schema : conversation.tracker.schema = domain.slotSchema) {executor : Executor}
    {events : List Event}
    (executed : conversation.executeForm executor domain name = (after, .ok (.completed events)))
    (active : after.tracker.activeLoopName = some name) :
    ∃ slot, events.getLast? = some (Event.slotSet requestedSlot (.string slot)) ∧
      ∀ executors executor, ∃ last,
        (after.executeAgain domain name executors).executeForm executor domain name =
          (last, .ok (.completed [Event.slotSet requestedSlot (.string slot)])) ∧
        last.tracker.state = after.tracker.state := by
  cases built.form_name declared
  have holds : conversation.tracker.schema.contains requestedSlot = true := by
    rw [schema]
    exact built.schema_contains_requestedSlot declared
  rcases exists_waits_of_executeForm declared unvalidated unasked holds executed active with
    ⟨slot, waits, asked⟩
  refine ⟨slot, asked, ?_⟩
  intro executors executor
  have same := executeAgain_state declared unvalidated speaks waits executors
  have again := waits.of_state_eq same
  exact ⟨_, executeForm_of_waits declared unvalidated speaks again executor,
    again.extend_askAgain_state.trans same⟩

/-- The message that starts the form has a city and no date.  The form takes the city over
and asks for the date, and on the third run after that it still asks for the date. -/
theorem executeForm_again_after_activation :
    let form : FormSpec := { name := "booking", requiredSlots := ["city", "date"] }
    let domain := ((Domain.empty.withSlot { name := "city", type := .text }).withSlot
      { name := "date", type := .text }).withForm form
    let executor : Executor := fun action _ _ => .error (.unstubbed action)
    let conversation : Conversation := {
      tracker := Tracker.ofEvents "user" domain.slotSchema [.listen, .user
        (UserMessage.withEntity {} { entity := "city", value := .string "Rome" })] }
    let started := (conversation.executeForm executor domain "booking").1
    started.tracker.slot? "city" = some (.string "Rome") ∧
      started.tracker.activeLoopName = some "booking" ∧
      ∃ last, (started.executeAgain domain "booking" [executor, executor]).executeForm executor
          domain "booking" =
          (last, .ok (.completed [Event.slotSet requestedSlot (.string "date")])) ∧
        last.tracker.state = started.tracker.state := by
  intro form domain executor conversation started
  have built : domain.Built :=
    ((Domain.Built.empty.withSlot _).withSlot _).withForm form
  have executed : conversation.executeForm executor domain "booking" =
      (started, .ok (.completed [.formActivated "booking", .slotSet "city" (.string "Rome"),
        .slotSet requestedSlot (.string "date")])) := rfl
  have active : started.tracker.activeLoopName = some "booking" := rfl
  rcases @executeForm_again domain form conversation started built "booking" rfl (by decide)
    (by decide) (by decide) rfl executor _ executed active with ⟨slot, asked, again⟩
  cases asked
  exact ⟨rfl, active, again [executor, executor] executor⟩

end Conversation

end Dialogue
