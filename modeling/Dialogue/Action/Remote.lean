import Dialogue.Action.Response

/-!
# Outcomes of actions

Running an action ends with the events it produced, with its refusal, or with a
failure.  A provisional action was made up during the session and may not be
deployed: its soft failures count as runs without events.
-/

namespace Dialogue

/-- An action declined to run. -/
structure Rejection where
  /-- The action that declined. -/
  actionName : String
  /-- Why it declined. -/
  reason : String
deriving DecidableEq

/-- The event that records a rejection. -/
def Rejection.event (rejection : Rejection) : Event :=
  Event.loopRejected (some rejection.actionName)

/-- How the run of an action ended. -/
inductive ActionOutcome where
  /-- The action ran and produced events. -/
  | completed (events : List Event)
  /-- The action declined to run. -/
  | rejected (rejection : Rejection)

/-- The events of a completed run. -/
def ActionOutcome.events : ActionOutcome → List Event
  | .completed events => events
  | .rejected _ => []

/-- A custom action. -/
structure RemoteAction where
  /-- The name under which it is run. -/
  name : String
  /-- Whether it may not be deployed yet. -/
  provisional : Bool := false

/-- Runs a custom action. -/
def RemoteAction.run (action : RemoteAction) (executor : Executor) (tracker : Tracker)
    (domain : Domain) : Except ActionError ActionOutcome :=
  match executor action.name tracker domain with
  | .ok response => .ok (.completed response.intoEvents)
  | .error (.rejected name message) => .ok (.rejected ⟨name, message⟩)
  | .error error =>
      if action.provisional && error.isSoft then .ok (.completed []) else .error error

end Dialogue
