import Dialogue.Config.Basic
import Dialogue.Toml.Basic

/-!
# Reading and writing settings

Settings are records in JSON or TOML.  Every setting and every section has a default;
unknown members are ignored.
-/

namespace Dialogue

namespace Toml

/-- A value as a setting that is not free in its form.  None of them takes a
floating-point number, so it only matters that there is one. -/
def toSetting? : Toml → Option Json
  | .float _ => some (Json.ofBinary64 default)
  | value => value.toJson? |>.or (some (Json.ofBinary64 default))

/-- The members of a section, none of which is free in its form. -/
def toSection? (names : List String) (value : Toml) : Option (Entries Json) := do
  let members ← value.record? names
  members.mapM fun member => member.2.toSetting?.map (Prod.mk member.1)

end Toml

namespace ActionEndpoint

/-- The names of the settings in order. -/
def memberNames : List String :=
  ["url", "timeout_secs", "connect_timeout_secs", "token"]

/-- Reads the section from its members. -/
def ofMembers? (members : Entries Json) : Option ActionEndpoint := do
  let standard : ActionEndpoint := {}
  let url ← members.defaulted "url" standard.url Json.string?
  let timeout ← members.defaulted "timeout_secs" standard.timeoutSecs Json.word?
  let connect ← members.defaulted "connect_timeout_secs" standard.connectTimeoutSecs Json.word?
  let token ← members.optional "token" Json.string?
  return ⟨url, timeout, connect, token⟩

/-- Writes the section. -/
def toMembers (endpoint : ActionEndpoint) : List (String × Json) := [
  ("url", .string endpoint.url),
  ("timeout_secs", Json.ofNat endpoint.timeoutSecs),
  ("connect_timeout_secs", Json.ofNat endpoint.connectTimeoutSecs),
  ("token", Json.ofString? endpoint.token)]

end ActionEndpoint

namespace StubSettings

/-- The names of the settings in order. -/
def memberNames : List String :=
  ["test_file", "test_case", "actions"]

/-- Reads the section from its members. -/
def ofMembers? (members : Entries Json) : Option StubSettings := do
  let testFile ← members.optional "test_file" Json.string?
  let testCase ← members.optional "test_case" Json.string?
  let actions ← members.defaulted "actions" Table.empty (Json.table? some)
  return ⟨testFile, testCase, actions⟩

/-- Writes the section. -/
def toMembers (settings : StubSettings) : List (String × Json) := [
  ("test_file", Json.ofString? settings.testFile),
  ("test_case", Json.ofString? settings.testCase),
  ("actions", Json.ofTable settings.actions)]

/-- The members of the section in TOML, where the answers are free in their form. -/
def tomlMembers? (value : Toml) : Option (Entries Json) := do
  let members ← value.record? memberNames
  members.mapM fun (name, value) =>
    (if name = "actions" then value.toJson? else value.toSetting?).map (Prod.mk name)

end StubSettings

namespace ValidationSettings

/-- The names of the settings in order. -/
def memberNames : List String :=
  ["max_history", "ignore_warnings"]

/-- Reads the section from its members. -/
def ofMembers? (members : Entries Json) : Option ValidationSettings := do
  let maxHistory ← members.optional "max_history" Json.word?
  let ignoreWarnings ← members.defaulted "ignore_warnings" false Json.bool?
  return ⟨maxHistory, ignoreWarnings⟩

/-- Writes the section. -/
def toMembers (settings : ValidationSettings) : List (String × Json) := [
  ("max_history", (settings.maxHistory.map Json.ofNat).getD .null),
  ("ignore_warnings", .bool settings.ignoreWarnings)]

end ValidationSettings

namespace LoggingSettings

/-- The names of the settings in order. -/
def memberNames : List String :=
  ["log_level"]

/-- Reads the section from its members. -/
def ofMembers? (members : Entries Json) : Option LoggingSettings := do
  let standard : LoggingSettings := {}
  let logLevel ← members.defaulted "log_level" standard.logLevel Json.string?
  return ⟨logLevel⟩

/-- Writes the section. -/
def toMembers (settings : LoggingSettings) : List (String × Json) :=
  [("log_level", .string settings.logLevel)]

end LoggingSettings

namespace Config

/-- The names of the sections in order. -/
def memberNames : List String :=
  ["action_endpoint", "stubs", "validation", "observability"]

/-- A section that may be missing. -/
def section? {α β : Type} (standard : α) (members : Entries β) (name : String)
    (read : β → Option α) : Option α :=
  match members.find? name with
  | none => some standard
  | some value => read value

/-- Reads settings from JSON. -/
def ofJson? (value : Json) : Option Config := do
  let members ← value.record? memberNames
  let endpoint ← section? {} members "action_endpoint" fun value =>
    (value.record? ActionEndpoint.memberNames).bind ActionEndpoint.ofMembers?
  let stubs ← section? {} members "stubs" fun value =>
    (value.record? StubSettings.memberNames).bind StubSettings.ofMembers?
  let validation ← section? {} members "validation" fun value =>
    (value.record? ValidationSettings.memberNames).bind ValidationSettings.ofMembers?
  let logging ← section? {} members "observability" fun value =>
    (value.record? LoggingSettings.memberNames).bind LoggingSettings.ofMembers?
  return ⟨endpoint, stubs, validation, logging⟩

/-- Reads settings from the members of a TOML document. -/
def ofToml? (members : List (String × Toml)) : Option Config := do
  let endpoint ← section? {} members "action_endpoint" fun value =>
    (value.toSection? ActionEndpoint.memberNames).bind ActionEndpoint.ofMembers?
  let stubs ← section? {} members "stubs" fun value =>
    (StubSettings.tomlMembers? value).bind StubSettings.ofMembers?
  let validation ← section? {} members "validation" fun value =>
    (value.toSection? ValidationSettings.memberNames).bind ValidationSettings.ofMembers?
  let logging ← section? {} members "observability" fun value =>
    (value.toSection? LoggingSettings.memberNames).bind LoggingSettings.ofMembers?
  return ⟨endpoint, stubs, validation, logging⟩

/-- The sections with their members. -/
def sections (config : Config) : List (String × List (String × Json)) := [
  ("action_endpoint", config.endpoint.toMembers),
  ("stubs", config.stubs.toMembers),
  ("validation", config.validation.toMembers),
  ("observability", config.logging.toMembers)]

/-- Writes settings as JSON. -/
def toJson (config : Config) : Json :=
  Json.ofMembers (config.sections.map fun (name, members) => (name, Json.ofMembers members))

/-- Writes settings as the members of a TOML document, without those that are not
set.  An answer of a stub that holds a null cannot be written. -/
def toToml? (config : Config) : Option (List (String × Toml)) :=
  config.sections.mapM fun (name, members) => do
    let given := members.filter fun member => !member.2.isNull
    let written ← given.mapM fun (name, value) => (Toml.ofJson? value).map (Prod.mk name)
    return (name, .table written)

/-- Equality of settings. -/
def same (left right : Config) : Bool :=
  left.toJson.same right.toJson

end Config

end Dialogue
