import Dialogue.Text.Blank

/-!
# Log levels

A configured level is a name in any case, with blanks around it.  Other names stand
for the level `info`.
-/

namespace Dialogue

/-- How much is logged. -/
inductive LogLevel where
  | trace
  | debug
  | info
  | warn
  | error
deriving DecidableEq

namespace LogLevel

/-- The level with a name; what is no name of a level is `info`. -/
def ofName (name : String) : LogLevel :=
  match String.ofList ((Text.trim name.toList).map Char.toLower) with
  | "trace" => .trace
  | "debug" => .debug
  | "info" => .info
  | "warn" => .warn
  | "warning" => .warn
  | "error" => .error
  | _ => .info

/-- The label of a level in log lines. -/
def label : LogLevel → String
  | .trace => "TRACE"
  | .debug => "DEBUG"
  | .info => "INFO"
  | .warn => "WARN"
  | .error => "ERROR"

end LogLevel

end Dialogue
