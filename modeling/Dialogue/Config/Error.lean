import Dialogue.Slot.IntentFilter

/-!
# Configuration errors

What can be wrong with the settings and declarations that an assistant starts with.
-/

namespace Dialogue

/-- What can be wrong with a domain or a configuration. -/
inductive ConfigError where
  /-- Something does not have the shape that it needs. -/
  | load (subject : String)
  /-- A setting has a value that is of no use. -/
  | validation (reason : String)
  /-- A slot has a mapping that is of no use. -/
  | slotMapping (slot : String) (cause : MappingError)
deriving DecidableEq

/-- The text of a configuration error. -/
def ConfigError.message : ConfigError → String
  | .load subject => s!"failed to load config: {subject}"
  | .validation reason => s!"validation failed: {reason}"
  | .slotMapping slot cause => s!"invalid mapping for slot '{slot}': " ++ cause.message

/-- Why settings could not be loaded or saved. -/
inductive StorageError where
  /-- There is no file to read. -/
  | unreadable (path : String)
  /-- The text is no document with settings. -/
  | malformed
  /-- The settings are of no use. -/
  | invalid (cause : ConfigError)
  /-- The settings have no text. -/
  | unwritable
deriving DecidableEq

/-- The text of a storage error. -/
def StorageError.message : StorageError → String
  | .unreadable path => s!"Failed to read config file {path}"
  | .malformed => "Failed to parse config file"
  | .invalid cause => cause.message
  | .unwritable => "Failed to serialize config"

end Dialogue
