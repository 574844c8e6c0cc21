import Dialogue.Config.Basic
import Dialogue.Number.Scan

/-!
# Environment overrides

Four environment variables replace settings.  A variable that is not set, or whose
value is of no use, leaves its setting alone.
-/

namespace Dialogue

/-- The values of environment variables. -/
abbrev Environment := Table String

namespace Environment

/-- Names the address of the action server. -/
def urlVariable : String := "CONVO_ACTION_ENDPOINT_URL"

/-- Names the seconds that a request may take. -/
def timeoutVariable : String := "CONVO_ACTION_TIMEOUT_SECS"

/-- Names the log level. -/
def logLevelVariable : String := "CONVO_LOG_LEVEL"

/-- Names the number of turns that are compared. -/
def maxHistoryVariable : String := "CONVO_MAX_HISTORY"

/-- The number that a text spells by decimal digits behind an optional plus sign, if
it fits 64 bits. -/
def word? (text : String) : Option Nat :=
  let digits := match text.toList with
    | '+' :: digits => digits
    | digits => digits
  if digits.isEmpty || !digits.all Char.isDigit then none
  else some (decimalValue digits) |>.filter (· < Nat.pow 2 64)

/-- The value of a variable, if it is not empty. -/
def text? (environment : Environment) (name : String) : Option String :=
  (environment.find? name).filter (!·.isEmpty)

/-- The value of a variable as a number other than zero. -/
def positive? (environment : Environment) (name : String) : Option Nat :=
  ((environment.find? name).bind word?).filter (0 < ·)

end Environment

/-- Replaces settings by those of the environment. -/
def Config.override (config : Config) (environment : Environment) : Config where
  endpoint := { config.endpoint with
    url := (environment.text? Environment.urlVariable).getD config.endpoint.url
    timeoutSecs := (environment.positive? Environment.timeoutVariable).getD
      config.endpoint.timeoutSecs }
  stubs := config.stubs
  validation := { config.validation with
    maxHistory := (environment.positive? Environment.maxHistoryVariable).or
      config.validation.maxHistory }
  logging := {
    logLevel := (environment.text? Environment.logLevelVariable).getD config.logging.logLevel }

end Dialogue
