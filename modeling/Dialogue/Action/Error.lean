/-!
# Failures of actions

Why an action could not be run.  No response at all, or an answer outside the
success range, is a soft failure: an action that is not deployed yet may fail so.
-/

namespace Dialogue

/-- Why an action could not be run. -/
inductive ActionError where
  /-- No response came back. -/
  | transport (action message : String)
  /-- No response came back in time. -/
  | timeout (action : String) (seconds : Nat)
  /-- The server answered with a status outside the success range. -/
  | server (action : String) (status : Nat) (body : String)
  /-- The answer could not be read. -/
  | decode (action message : String)
  /-- The server refused to run an action. -/
  | rejected (action message : String)
  /-- Nothing stands in for the action. -/
  | unstubbed (action : String)
  /-- The domain declares no such form. -/
  | unknownForm (form : String)
deriving DecidableEq

namespace ActionError

/-- The text of a failure. -/
def message : ActionError → String
  | .transport action message => s!"action {action} transport failed: {message}"
  | .timeout action seconds => s!"action {action} timed out after {seconds}s"
  | .server action status body =>
      s!"action server returned {status} for action {action}: {body}"
  | .decode action message => s!"action {action} returned a malformed response: {message}"
  | .rejected action message =>
      s!"action {action} was rejected by the action server: {message}"
  | .unstubbed action => s!"action `{action}` has not been stubbed"
  | .unknownForm form => s!"form {form} is not defined in the domain"

/-- Whether no response came back. -/
def isTransport : ActionError → Bool
  | .transport .. => true
  | .timeout .. => true
  | _ => false

/-- Whether an action that is not deployed yet may fail so. -/
def isSoft : ActionError → Bool
  | .server .. => true
  | error => error.isTransport

/-- The action that failed. -/
def actionName? : ActionError → Option String
  | .transport action _ => some action
  | .timeout action _ => some action
  | .server action _ _ => some action
  | .decode action _ => some action
  | .rejected action _ => some action
  | .unstubbed action => some action
  | .unknownForm _ => none

end ActionError

end Dialogue
