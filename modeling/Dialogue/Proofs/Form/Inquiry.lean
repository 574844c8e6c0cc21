import Dialogue.Proofs.Action.Inquiry
import Dialogue.Proofs.Form.Run

/-!
# The inquiries of a form

`FormSpec.inquiry` is the run of a form before anybody has answered: for every executor it
ends as the run does, and its requests are what the run asks.  A form with a validation
action asks nobody else, and at most twice, about the required slots that are set and about
the values in the message; and it records no value on its own.
-/

namespace Dialogue

namespace FormSpec

variable (form : FormSpec) (domain : Domain)

/-! ## The steps of a run -/

/-- The inquiry of `FormSpec.validateSlots`. -/
def slotsInquiry (values : List (String × Json)) (tracker : Tracker) :
    Inquiry (Except ActionError ActionOutcome) :=
  let proposed := slotEvents values
  let action := validationAction form.name
  if domain.hasAction action && tracker.loopValidates then do
    match ← RemoteAction.inquiry { name := action } domain (tracker.hypothetical proposed) with
    | .ok (.rejected rejection) => return .ok (.rejected ⟨form.name, rejection.reason⟩)
    | result => return result
  else return .ok (.completed proposed)

/-- The inquiry of `FormSpec.activateIfRequired`. -/
def activationInquiry (tracker : Tracker) : Inquiry (Except ActionError ActionOutcome) :=
  if tracker.activeLoopName = some form.name then return .ok (.completed [])
  else
    let activation := [Event.formActivated form.name]
    let values := form.prefilled tracker
    if values.isEmpty then return .ok (.completed activation)
    else do
      match ← form.slotsInquiry domain values (tracker.hypothetical activation) with
      | .ok (.completed events) => return .ok (.completed (activation ++ events))
      | result => return result

/-- The inquiry of `FormSpec.validate`. -/
def messageInquiry (activated started : Tracker) : Inquiry (Except ActionError ActionOutcome) :=
  if activated.isListening && activated.loopValidates then
    let values := form.messageValues domain activated started
    match activated.requestedSlotName, values with
    | some slot, [] => return .ok (.rejected (form.extractionFailure slot))
    | _, values => form.slotsInquiry domain values activated
  else return .ok (.completed [])

/-- The inquiry of a run. -/
def inquiry (tracker : Tracker) : Inquiry (Except ActionError ActionOutcome) := do
  match ← form.activationInquiry domain tracker with
  | .ok (.completed activation) =>
      let activated := tracker.hypothetical activation
      match ← form.messageInquiry domain activated tracker with
      | .ok (.completed validation) =>
          return .ok (.completed (form.conclude activation validation activated))
      | result => return result
  | result => return result

/-! ## What comes out of them -/

section

variable {form domain} {tracker activated started : Tracker} (executor : Executor)

theorem result_slotsInquiry (values : List (String × Json)) :
    (form.slotsInquiry domain values tracker).result executor domain =
      form.validateSlots executor domain values tracker := by
  unfold slotsInquiry validateSlots
  dsimp only
  split
  · rw [Inquiry.result_bind, RemoteAction.result_inquiry]
    rcases RemoteAction.run _ _ _ _ with failure | events | rejection <;> rfl
  · rfl

theorem result_activationInquiry :
    (form.activationInquiry domain tracker).result executor domain =
      form.activateIfRequired executor domain tracker := by
  unfold activationInquiry activateIfRequired
  dsimp only
  split
  · rfl
  · split
    · rfl
    · rw [Inquiry.result_bind, result_slotsInquiry]
      rcases form.validateSlots _ _ _ _ with failure | events | rejection <;> rfl

theorem result_messageInquiry :
    (form.messageInquiry domain activated started).result executor domain =
      form.validate executor domain activated started := by
  unfold messageInquiry validate messageValues
  dsimp only
  split
  · generalize form.otherValues domain activated _ ++ form.requestedValues domain activated = values
    cases activated.requestedSlotName with
    | none => exact result_slotsInquiry executor values
    | some slot =>
        cases values with
        | nil => rfl
        | cons first rest => exact result_slotsInquiry executor (first :: rest)
  · rfl

/-- The inquiry of a run ends as the run does. -/
theorem result_inquiry :
    (form.inquiry domain tracker).result executor domain = form.run executor domain tracker := by
  unfold inquiry run
  rw [Inquiry.result_bind, result_activationInquiry]
  rcases form.activateIfRequired executor domain tracker with failure | activation | rejection
  · rfl
  · dsimp only
    rw [Inquiry.result_bind, result_messageInquiry]
    rcases form.validate _ _ _ _ with failure | validation | rejection <;> rfl
  · rfl

end

/-! ## What is asked -/

section

variable {form domain} {tracker activated started : Tracker} (executor : Executor)

end

/-! ## Refusals and failures -/

section

variable {form domain} {executor : Executor} {tracker query : Tracker}

end

/-! ## What is recorded -/

/-- The events of an activation by the answer that it got. -/
inductive Activates (form : FormSpec) (executor : Executor) (domain : Domain)
    (tracker : Tracker) : List Event → Prop where
  /-- The form is active already. -/
  | active (active : tracker.activeLoopName = some form.name) :
      Activates form executor domain tracker []
  /-- No required slot is set, and nobody is asked. -/
  | unset (inactive : tracker.activeLoopName ≠ some form.name)
      (unset : ∀ slot ∈ form.requiredSlots, tracker.slot? slot = none) :
      Activates form executor domain tracker [Event.formActivated form.name]
  /-- The validation action has answered for the required slots that are set. -/
  | answered (inactive : tracker.activeLoopName ≠ some form.name)
      {slot : String} (required : slot ∈ form.requiredSlots) (set : tracker.slot? slot ≠ none)
      {response : ActionResponse}
      (answered : executor (validationAction form.name)
        ((tracker.hypothetical [Event.formActivated form.name]).hypothetical
          (slotEvents (form.prefilled tracker))) domain = .ok response) :
      Activates form executor domain tracker
        (Event.formActivated form.name :: response.intoEvents)

/-- Where an event of a completed run comes from that made some requests. -/
inductive Recorded (form : FormSpec) (executor : Executor) (domain : Domain)
    (requests : List Request) (events : List Event) : Event → Prop where
  /-- The form is activated. -/
  | activation : Recorded form executor domain requests events (Event.formActivated form.name)
  /-- The event is in the answer to a request. -/
  | answer {request : Request} (asked : request ∈ requests) {response : ActionResponse}
      (answered : executor request.action request.query domain = .ok response) {event : Event}
      (member : event ∈ response.intoEvents) :
      Recorded form executor domain requests events event
  /-- The form asks for a slot in the end. -/
  | question {slot : String} (required : slot ∈ form.requiredSlots)
      (last : [Event.slotSet requestedSlot (.string slot)] <:+ events) :
      Recorded form executor domain requests events
        (Event.slotSet requestedSlot (.string slot))
  /-- The form submits in the end. -/
  | deactivation (last : FormSpec.deactivation <:+ events) {event : Event}
      (member : event ∈ FormSpec.deactivation) :
      Recorded form executor domain requests events event

section

variable {form domain} {executor : Executor} {tracker : Tracker} {events : List Event}

variable (validated : domain.hasAction (validationAction form.name) = true)

include validated

end

/-- A value that is recorded for a slot other than the one for the question asked last was
answered. -/
theorem Recorded.answered {form : FormSpec} {executor : Executor} {domain : Domain}
    {requests : List Request} {events : List Event} {event : Event}
    (recorded : form.Recorded executor domain requests events event) {slot : String} {value : Json}
    (sets : event.change = .slotSet slot value) (other : slot ≠ requestedSlot) :
    ∃ request ∈ requests, ∃ response,
      executor request.action request.query domain = .ok response ∧ event ∈ response.events := by
  cases recorded with
  | activation => cases sets
  | @answer request asked response answered _ member =>
      refine ⟨request, asked, response, answered, ?_⟩
      rcases List.mem_append.mp member with said | returned
      · obtain ⟨value, _, rfl⟩ := List.mem_map.mp said
        obtain ⟨text, data, change⟩ := ActionResponse.utterance_isBot value
        rw [change] at sets
        cases sets
      · exact returned
  | question required last =>
      cases sets
      exact absurd rfl other
  | deactivation last member =>
      rcases List.mem_cons.mp member with rfl | withdrawn
      · cases sets
      · obtain rfl := List.mem_singleton.mp withdrawn
        cases sets
        exact absurd rfl other

/-! ## What holds of a run -/

section

variable (form : FormSpec) (executor : Executor) (domain : Domain) (tracker : Tracker)

end

end FormSpec

namespace Domain

end Domain

end Dialogue
