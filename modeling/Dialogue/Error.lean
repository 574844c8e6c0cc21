import Dialogue.Action.Error
import Dialogue.Config.Error
import Dialogue.Flow.Error

/-!
# Errors

Every part of the library has errors of its own.  Together they are told apart by
the name of the part in front of the message, apart from errors of configuration
files.
-/

namespace Dialogue

/-- An error of any part. -/
inductive DialogueError where
  /-- A configuration or a domain is wrong. -/
  | config (cause : ConfigError)
  /-- A configuration could not be loaded or saved. -/
  | storage (cause : StorageError)
  /-- A slot mapping is wrong. -/
  | mapping (cause : MappingError)
  /-- An action failed. -/
  | action (cause : ActionError)
  /-- A flow is wrong. -/
  | flow (cause : FlowError)
deriving DecidableEq

/-- The text of an error. -/
def DialogueError.message : DialogueError → String
  | .config cause => "config: " ++ cause.message
  | .storage cause => cause.message
  | .mapping cause => "slot mapping: " ++ cause.message
  | .action cause => "action: " ++ cause.message
  | .flow cause => "flow: " ++ cause.message

end Dialogue
