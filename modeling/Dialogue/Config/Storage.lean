import Dialogue.Config.Format
import Dialogue.Toml.Printer

/-!
# Configuration files

A configuration file holds a TOML document.  What is read from it is validated, what
is saved is not.
-/

namespace Dialogue

namespace Config

section

variable (readUrl : Url.Reader)

/-- The settings that a text spells. -/
def parse (text : String) : Except StorageError Config :=
  match (Toml.parse? text).bind ofToml? with
  | none => .error .malformed
  | some config => ((config.validate readUrl).mapError StorageError.invalid).map fun _ => config

/-- The settings in a file, given its content. -/
def load (path : String) : Option String → Except StorageError Config
  | none => .error (.unreadable path)
  | some text => parse readUrl text

/-- The settings in a file that may be missing, given its content. -/
def loadOrDefault : Option String → Except StorageError Config
  | none => .ok {}
  | some text => parse readUrl text

end

/-- The text of a file with the settings. -/
def save (config : Config) : Except StorageError String :=
  match config.toToml? with
  | none => .error .unwritable
  | some members => .ok (Toml.document members)

end Config

end Dialogue
