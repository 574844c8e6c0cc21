import Dialogue.Action.Remote
import Dialogue.Slot.Resolver

/-!
# Forms

A form collects values for its required slots over several turns.  One run of a form
activates it if needed, validates what the user has just said, and then either asks
for the next slot without a value or submits and leaves the loop.  A run that finds
no value for the slot it asked for is rejected.
-/

namespace Dialogue

/-- Where a form stands in a conversation. -/
inductive FormPhase where
  | inactive
  | validating
  | requestingSlot
deriving DecidableEq

/-- The name of a phase. -/
def FormPhase.name : FormPhase → String
  | .inactive => "inactive"
  | .validating => "validating"
  | .requestingSlot => "requesting_slot"

namespace Tracker

/-- Whether the assistant waits for the user. -/
def isListening (tracker : Tracker) : Bool :=
  tracker.latestAction == some listenAction

/-- Whether the active loop validates the next message. -/
def loopValidates (tracker : Tracker) : Bool :=
  tracker.state.activeLoop.any ActiveLoop.validate

/-- The slot that was asked for. -/
def requestedSlotName (tracker : Tracker) : Option String :=
  (tracker.slot? requestedSlot).bind Json.string?

end Tracker

namespace FormSpec

/-- The phase of a form. -/
def phase (form : FormSpec) (tracker : Tracker) : FormPhase :=
  if tracker.activeLoopName = some form.name then
    if tracker.isListening && tracker.loopValidates then .validating else .requestingSlot
  else .inactive

/-- The required slots that are set, with their values. -/
def prefilled (form : FormSpec) (tracker : Tracker) : List (String × Json) :=
  form.requiredSlots.filterMap fun slot => (tracker.slot? slot).map (Prod.mk slot)

/-- The events that set slots. -/
def slotEvents (values : List (String × Json)) : List Event :=
  values.map fun (slot, value) => Event.slotSet slot value

/-- Passes extracted values through the validation action of the form, if the domain
declares one and the loop validates. -/
def validateSlots (form : FormSpec) (executor : Executor) (domain : Domain)
    (values : List (String × Json)) (tracker : Tracker) : Except ActionError ActionOutcome :=
  let proposed := slotEvents values
  let action := validationAction form.name
  if domain.hasAction action && tracker.loopValidates then
    match RemoteAction.run { name := action } executor (tracker.hypothetical proposed) domain with
    | .ok (.rejected rejection) => .ok (.rejected ⟨form.name, rejection.reason⟩)
    | result => result
  else .ok (.completed proposed)

/-- Activates the form if it is not the active loop, and validates the required slots
that are set already against the tracker as it is after the activation. -/
def activateIfRequired (form : FormSpec) (executor : Executor) (domain : Domain)
    (tracker : Tracker) : Except ActionError ActionOutcome :=
  if tracker.activeLoopName = some form.name then .ok (.completed [])
  else
    let activation := [Event.formActivated form.name]
    let values := form.prefilled tracker
    if values.isEmpty then .ok (.completed activation)
    else
      match form.validateSlots executor domain values (tracker.hypothetical activation) with
      | .ok (.completed events) => .ok (.completed (activation ++ events))
      | result => result

/-- The values in the latest message for required slots that were not asked for. -/
def otherValues (form : FormSpec) (domain : Domain) (activated : Tracker) (activating : Bool) :
    List (String × Json) :=
  let resolver : SlotResolver := ⟨domain, some form⟩
  (form.requiredSlots.filter fun slot => activated.requestedSlotName != some slot).filterMap
    fun slot => (resolver.resolveOtherSlot slot activated activating).map (Prod.mk slot)

/-- The value in the latest message for the slot that was asked for. -/
def requestedValues (form : FormSpec) (domain : Domain) (activated : Tracker) :
    List (String × Json) :=
  let resolver : SlotResolver := ⟨domain, some form⟩
  (activated.requestedSlotName.bind fun slot =>
    (resolver.resolveSlot slot activated).map (Prod.mk slot)).toList

/-- The rejection of a form that asked for a slot in vain. -/
def extractionFailure (form : FormSpec) (slot : String) : Rejection where
  actionName := form.name
  reason := "Failed to extract slot " ++ slot ++ " with action " ++ form.name

/-- Extracts values from the latest message and validates them.  This happens right
after the user spoke, while the loop validates.  The form is being activated if it is
not the loop of the tracker that the run started from. -/
def validate (form : FormSpec) (executor : Executor) (domain : Domain)
    (activated started : Tracker) : Except ActionError ActionOutcome :=
  if activated.isListening && activated.loopValidates then
    let activating := started.activeLoopName != some form.name
    let values := form.otherValues domain activated activating
      ++ form.requestedValues domain activated
    match activated.requestedSlotName, values with
    | some slot, [] => .ok (.rejected (form.extractionFailure slot))
    | _, values => form.validateSlots executor domain values activated
  else .ok (.completed [])

/-- Asks for the first required slot that is not set. -/
def requestNextSlot (form : FormSpec) (tracker : Tracker) : Option Event :=
  (form.requiredSlots.find? fun slot => (tracker.slot? slot).isNone).map fun slot =>
    Event.slotSet requestedSlot (.string slot)

/-- The events that leave the loop. -/
def deactivation : List Event :=
  [Event.formDeactivated, Event.slotSet requestedSlot .null]

/-- What a run does after validation: nothing more if that left the loop, else the
next question, else the submission.  A form that submits in the run that activates it
does not record its activation. -/
def conclude (form : FormSpec) (activation validation : List Event) (activated : Tracker) :
    List Event :=
  if validation.any Event.isDeactivation then validation
  else
    match form.requestNextSlot (activated.hypothetical validation) with
    | some question => activation ++ validation ++ [question]
    | none => validation ++ deactivation

/-- One run of a form. -/
def run (form : FormSpec) (executor : Executor) (domain : Domain) (tracker : Tracker) :
    Except ActionError ActionOutcome :=
  match form.activateIfRequired executor domain tracker with
  | .ok (.completed activation) =>
      let activated := tracker.hypothetical activation
      match form.validate executor domain activated tracker with
      | .ok (.completed validation) =>
          .ok (.completed (form.conclude activation validation activated))
      | result => result
  | result => result

end FormSpec

/-- Runs the form with a name. -/
def Domain.runForm (domain : Domain) (executor : Executor) (name : String)
    (tracker : Tracker) : Except ActionError ActionOutcome :=
  match domain.form? name with
  | some form => form.run executor domain tracker
  | none => .error (.unknownForm name)

end Dialogue
