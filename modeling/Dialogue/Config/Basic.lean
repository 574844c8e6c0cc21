import Dialogue.Action.Stub
import Dialogue.Config.Error
import Dialogue.Url.Basic

/-!
# Configuration

The settings of an assistant in four sections: where custom actions run, what stands
in for them, how stories are checked, and how much is logged.
-/

namespace Dialogue

/-- Where custom actions run. -/
structure ActionEndpoint where
  /-- The address of the action server. -/
  url : String := "http://localhost:5055/webhook"
  /-- How many seconds a request may take. -/
  timeoutSecs : Nat := 10
  /-- How many seconds a connection may take. -/
  connectTimeoutSecs : Nat := 5
  /-- What authorizes requests. -/
  token : Option String := none
deriving DecidableEq

/-- What stands in for custom actions. -/
structure StubSettings where
  /-- The test file that is running. -/
  testFile : Option String := none
  /-- The test case that is running. -/
  testCase : Option String := none
  /-- The answers by key. -/
  actions : Table Json := Table.empty

/-- How stories are checked. -/
structure ValidationSettings where
  /-- How many turns are compared; all of them if it is not given. -/
  maxHistory : Option Nat := none
  /-- Whether conflicts are only reported. -/
  ignoreWarnings : Bool := false
deriving DecidableEq

/-- How much is logged. -/
structure LoggingSettings where
  /-- The name of a log level. -/
  logLevel : String := "info"
deriving DecidableEq

/-- The settings of an assistant. -/
structure Config where
  /-- Where custom actions run. -/
  endpoint : ActionEndpoint := {}
  /-- What stands in for custom actions. -/
  stubs : StubSettings := {}
  /-- How stories are checked. -/
  validation : ValidationSettings := {}
  /-- How much is logged. -/
  logging : LoggingSettings := {}

namespace StubSettings

/-- The stubs. -/
def registry (settings : StubSettings) : Except ConfigError StubRegistry :=
  match StubRegistry.ofEntries? settings.testFile settings.testCase settings.actions.entries with
  | some registry => .ok registry
  | none => .error (.load "invalid stubbed action")

end StubSettings

namespace Config

/-- The schemes of action servers. -/
def serverSchemes : List String :=
  ["http", "https"]

/-- Checks that the settings are of use, given how addresses are read. -/
def validate (readUrl : Url.Reader) (config : Config) : Except ConfigError Unit :=
  let endpoint := config.endpoint
  match readUrl endpoint.url with
  | none => .error (.validation s!"action_endpoint.url '{endpoint.url}' is not a valid URL")
  | some url =>
      if !serverSchemes.contains url.scheme then
        .error (.validation s!"action_endpoint.url must use http or https, got '{url.scheme}'")
      else if endpoint.timeoutSecs = 0 then
        .error (.validation "action_endpoint.timeout_secs must be greater than 0")
      else if endpoint.connectTimeoutSecs = 0 then
        .error (.validation "action_endpoint.connect_timeout_secs must be greater than 0")
      else if config.validation.maxHistory = some 0 then
        .error (.validation "validation.max_history must be greater than 0 when set")
      else .ok ()

/-- Runs actions by their stubs if there are any, and by the action server that the
endpoint names otherwise. -/
def executor (config : Config) (remote : ActionEndpoint → Executor) :
    Except ConfigError Executor :=
  if config.stubs.actions.isEmpty then .ok (remote config.endpoint)
  else config.stubs.registry.map StubRegistry.executor

end Config

end Dialogue
