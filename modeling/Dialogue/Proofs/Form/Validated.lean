import Dialogue.Proofs.Form.Unvalidated

/-!
# What a form asks its validation action

A run asks the validation action of its form at most twice: about the required slots
that are set when the form is activated, and about the values in the latest message.
`FormSpec.Consults` holds of the trackers that the action gets to see.
-/

namespace Dialogue

/-! ## Restrained answers -/

/-- The event sets a slot other than the one for the question asked last, says something,
or leaves the loop. -/
def Event.isRestrained (event : Event) : Bool :=
  match event.change with
  | .slotSet name _ => name != requestedSlot
  | .botUttered _ _ => true
  | .formDeactivated => true
  | _ => false

/-- An action answers with restrained events only. -/
def Executor.IsRestrained (executor : Executor) (action : String) (domain : Domain) : Prop :=
  ∀ query response, executor action query domain = .ok response →
    ∀ event ∈ response.events, event.isRestrained = true

namespace Event

variable {event : Event}

theorem isPlain_of_isRestrained (restrained : event.isRestrained = true) :
    event.isPlain = true := by
  rcases event with ⟨change, _, _⟩
  cases change <;> first | rfl | cases restrained

theorem change_ne_slotSet_requestedSlot (restrained : event.isRestrained = true) (value : Json) :
    event.change ≠ .slotSet requestedSlot value := by
  intro asks
  simp [isRestrained, asks] at restrained

theorem loopAfter_of_isRestrained (restrained : event.isRestrained = true)
    (loop : Option ActiveLoop) :
    DialogueState.loopAfter loop event = if event.isDeactivation then none else loop := by
  rcases event with ⟨change, _, _⟩
  cases change <;> first | rfl | cases restrained

end Event

/-- Restrained events leave the loop if one of them is a deactivation. -/
theorem foldl_loopAfter_of_isRestrained {events : List Event}
    (restrained : ∀ event ∈ events, event.isRestrained = true) (loop : Option ActiveLoop) :
    events.foldl DialogueState.loopAfter loop =
      if events.any Event.isDeactivation then none else loop := by
  induction events generalizing loop with
  | nil => rfl
  | cons event rest ih =>
      rw [List.foldl_cons, ih fun other member => restrained other (List.mem_cons_of_mem _ member),
        Event.loopAfter_of_isRestrained (restrained event List.mem_cons_self), List.any_cons]
      cases event.isDeactivation <;> simp

namespace ActionResponse

/-- The answer leaves the loop. -/
def cancels (response : ActionResponse) : Bool :=
  response.events.any Event.isDeactivation

theorem utterance_isBot (value : Json) :
    ∃ text data, (utterance value).change = .botUttered text data := by
  cases value <;> exact ⟨_, _, rfl⟩

theorem isRestrained_of_mem_intoEvents {response : ActionResponse}
    (restrained : ∀ event ∈ response.events, event.isRestrained = true) {event : Event}
    (member : event ∈ response.intoEvents) : event.isRestrained = true := by
  rcases List.mem_append.mp member with said | recorded
  · obtain ⟨value, _, rfl⟩ := List.mem_map.mp said
    obtain ⟨text, data, change⟩ := utterance_isBot value
    simp [Event.isRestrained, change]
  · exact restrained event recorded

/-- What is said does not leave the loop. -/
theorem any_isDeactivation_intoEvents (response : ActionResponse) :
    response.intoEvents.any Event.isDeactivation = response.cancels := by
  have said : (response.responses.map utterance).any Event.isDeactivation = false := by
    rw [List.any_eq_false]
    intro event member
    obtain ⟨value, _, rfl⟩ := List.mem_map.mp member
    obtain ⟨text, data, change⟩ := utterance_isBot value
    simp [Event.isDeactivation, change]
  rw [intoEvents, List.any_append, said, Bool.false_or, cancels]

end ActionResponse

namespace FormSpec

variable (form : FormSpec) (executor : Executor) (domain : Domain)

/-! ## Queries -/

/-- The outcome of asking the validation action; it is rejected under the name of the
form. -/
def consult (query : Tracker) : Except ActionError ActionOutcome :=
  match RemoteAction.run { name := validationAction form.name } executor query domain with
  | .ok (.rejected rejection) => .ok (.rejected ⟨form.name, rejection.reason⟩)
  | result => result

/-- The tracker as it would be with the required slots that are set, about which the
validation action is asked when the form is activated. -/
def activationQuery? (tracker : Tracker) : Option Tracker :=
  if domain.hasAction (validationAction form.name) = true ∧
      tracker.activeLoopName ≠ some form.name ∧ form.prefilled tracker ≠ [] then
    some ((tracker.hypothetical [Event.formActivated form.name]).hypothetical
      (slotEvents (form.prefilled tracker)))
  else none

/-- The values in the latest message, for a run that started from a tracker and has
activated the form. -/
def messageValues (activated started : Tracker) : List (String × Json) :=
  form.otherValues domain activated (started.activeLoopName != some form.name)
    ++ form.requestedValues domain activated

/-- The tracker as it would be with the values in the latest message, about which the
validation action is asked unless there is none for an open question. -/
def messageQuery? (activated started : Tracker) : Option Tracker :=
  if domain.hasAction (validationAction form.name) = true ∧
      (activated.isListening && activated.loopValidates) = true ∧
      (activated.requestedSlotName = none ∨ form.messageValues domain activated started ≠ []) then
    some (activated.hypothetical (slotEvents (form.messageValues domain activated started)))
  else none

/-- A run that starts from `tracker` asks the validation action about a tracker. -/
inductive Consults (tracker : Tracker) : Tracker → Prop where
  | activating {query : Tracker} (asked : form.activationQuery? domain tracker = some query) :
      Consults tracker query
  | validating {activation : List Event} {query : Tracker}
      (activates : form.activateIfRequired executor domain tracker =
        .ok (.completed activation))
      (asked : form.messageQuery? domain (tracker.hypothetical activation) tracker =
        some query) :
      Consults tracker query

variable {form executor domain} {tracker activated query : Tracker}

/-! ## Steps of a run by their queries -/

theorem consult_of_answer {response : ActionResponse}
    (answered : executor (validationAction form.name) query domain = .ok response) :
    form.consult executor domain query = .ok (.completed response.intoEvents) := by
  simp only [consult, RemoteAction.run, answered]

theorem validateSlots_of_hasAction (validated : domain.hasAction (validationAction form.name) = true)
    (validates : tracker.loopValidates = true) (values : List (String × Json)) :
    form.validateSlots executor domain values tracker =
      form.consult executor domain (tracker.hypothetical (slotEvents values)) := by
  rw [validateSlots, if_pos (by simp [validated, validates])]
  rfl

/-- An activation that asks is made of the activation event and the answer. -/
theorem activateIfRequired_of_query (asked : form.activationQuery? domain tracker = some query) :
    form.activateIfRequired executor domain tracker =
      match form.consult executor domain query with
      | .ok (.completed events) => .ok (.completed (Event.formActivated form.name :: events))
      | result => result := by
  obtain ⟨⟨validated, inactive, prefilled⟩, equal⟩ := Option.ite_none_right_eq_some.mp asked
  obtain rfl := Option.some.inj equal
  have validates : (tracker.hypothetical [Event.formActivated form.name]).loopValidates = true :=
    rfl
  rw [activateIfRequired, if_neg inactive, if_neg (by simpa using prefilled)]
  simp only [validateSlots_of_hasAction validated validates]
  rfl

/-- An activation that asks nobody takes over the slots that are set. -/
theorem activateIfRequired_of_no_query (unasked : form.activationQuery? domain tracker = none) :
    form.activateIfRequired executor domain tracker =
      .ok (.completed (form.activation tracker)) := by
  by_cases validated : domain.hasAction (validationAction form.name) = true
  · rw [activateIfRequired, activation]
    split
    · rfl
    · rename_i inactive
      have empty : form.prefilled tracker = [] := by
        simpa [activationQuery?, validated, inactive] using unasked
      simp [empty, slotEvents]
  · exact activateIfRequired_of_unvalidated (by simpa using validated) executor

theorem validate_of_query {started : Tracker}
    (asked : form.messageQuery? domain activated started = some query) :
    form.validate executor domain activated started = form.consult executor domain query := by
  obtain ⟨⟨validated, listens, wanted⟩, equal⟩ := Option.ite_none_right_eq_some.mp asked
  obtain rfl := Option.some.inj equal
  have validates := (Bool.and_eq_true_iff.mp listens).2
  rw [validate, if_pos listens]
  unfold messageValues at wanted ⊢
  dsimp only
  split
  · rename_i slot asked none
    simp [asked, none] at wanted
  · exact validateSlots_of_hasAction validated validates _

end FormSpec

end Dialogue
