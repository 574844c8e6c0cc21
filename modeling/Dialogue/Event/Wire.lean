import Dialogue.Event.Basic
import Dialogue.Json.Record

/-!
# Events as JSON

An event is written as one object: its tag under `event`, the members of its
change, its time, and its metadata where it has them.  Writers are told what time it
is now, and write that where an event does not say when it happened.  `Event.ofJson?`
reads what `Event.toJson` writes, and more: unknown members, missing members that have
a default, a position in place of a tag, and a second tag for forms.
-/

namespace Dialogue

namespace Intent

/-- The members of an intent in order. -/
def memberNames : List String :=
  ["name", "confidence"]

/-- Writes an intent. -/
def toJson (intent : Intent) : Json :=
  Json.ofMembers (Json.present [
    ("name", some (.string intent.name)),
    ("confidence", intent.confidence.map Json.ofBinary64)])

/-- Reads an intent. -/
def ofJson? (value : Json) : Option Intent := do
  let members ← value.record? memberNames
  let name ← members.required "name" Json.string?
  let confidence ← members.optional "confidence" Json.binary64?
  return ⟨name, confidence⟩

end Intent

namespace Entity

/-- The members of an entity in order. -/
def memberNames : List String :=
  ["entity", "value", "role", "group", "start", "end", "confidence", "extractor"]

/-- Writes an entity. -/
def toJson (entity : Entity) : Json :=
  Json.ofMembers (Json.present [
    ("entity", some (.string entity.entity)),
    ("value", some entity.value),
    ("role", entity.role.map .string),
    ("group", entity.group.map .string),
    ("start", entity.start.map Json.ofNat),
    ("end", entity.stop.map Json.ofNat),
    ("confidence", entity.confidence.map Json.ofBinary64),
    ("extractor", entity.extractor.map .string)])

/-- Reads an entity; its value has to be there and may be null. -/
def ofJson? (value : Json) : Option Entity := do
  let members ← value.record? memberNames
  let entity ← members.required "entity" Json.string?
  let found ← members.required "value" some
  let role ← members.optional "role" Json.string?
  let group ← members.optional "group" Json.string?
  let start ← members.optional "start" Json.word?
  let stop ← members.optional "end" Json.word?
  let confidence ← members.optional "confidence" Json.binary64?
  let extractor ← members.optional "extractor" Json.string?
  return ⟨entity, found, role, group, start, stop, confidence, extractor⟩

end Entity

namespace ParseData

/-- Writes what was understood, with the members that pass through. -/
def toJson (parse : ParseData) : Json :=
  Json.ofMembers (Json.present [
      ("intent", parse.intent.map Intent.toJson),
      ("entities", some (.array (parse.entities.map Entity.toJson)))]
    ++ parse.extra.entries)

/-- Reads what was understood; every other member passes through. -/
def ofJson? (value : Json) : Option ParseData := do
  let members ← value.object?
  let intent ← Entries.optional members "intent" Intent.ofJson?
  let entities ← Entries.defaulted members "entities" [] (Json.list? Entity.ofJson?)
  return ⟨intent, entities, Table.ofList (Entries.without members ["intent", "entities"])⟩

end ParseData

namespace UserMessage

/-- The members of a message. -/
def members (message : UserMessage) : List (String × Json) :=
  Json.present [
    ("text", message.text.map .string),
    ("parse_data", some message.parse.toJson),
    ("input_channel", message.inputChannel.map .string)]

/-- Writes a message. -/
def toJson (message : UserMessage) : Json :=
  Json.ofMembers message.members

/-- Reads a message from the members of an event. -/
def ofMembers? (members : Entries Json) : Option UserMessage := do
  let text ← members.optional "text" Json.string?
  let parse ← members.defaulted "parse_data" {} ParseData.ofJson?
  let inputChannel ← members.optional "input_channel" Json.string?
  return ⟨text, parse, inputChannel⟩

end UserMessage

/-- The tags of events on the wire. -/
inductive Tag where
  | slot
  | user
  | bot
  | action
  | undo
  | rewind
  | restart
  | form
  | formValidation
  | actionExecutionRejected
deriving DecidableEq

namespace Tag

/-- The tags in order; a position in this list may stand for a tag. -/
def all : List Tag :=
  [.slot, .user, .bot, .action, .undo, .rewind, .restart, .form, .formValidation,
    .actionExecutionRejected]

/-- The text of a tag. -/
def text : Tag → String
  | .slot => "slot"
  | .user => "user"
  | .bot => "bot"
  | .action => "action"
  | .undo => "undo"
  | .rewind => "rewind"
  | .restart => "restart"
  | .form => "form"
  | .formValidation => "form_validation"
  | .actionExecutionRejected => "action_execution_rejected"

/-- The tag with a text; forms have a second one. -/
def ofText? (text : String) : Option Tag :=
  if text = "active_loop" then some .form else all.find? fun tag => tag.text == text

/-- Reads a tag or its position. -/
def ofJson? : Json → Option Tag
  | .string text => ofText? text
  | value => value.word?.bind fun position => all[position]?

end Tag

namespace Change

/-- The tag of a change. -/
def tag : Change → Tag
  | .slotSet .. => .slot
  | .userUttered _ => .user
  | .botUttered .. => .bot
  | .actionExecuted .. => .action
  | .actionReverted => .undo
  | .utteranceReverted => .rewind
  | .restarted => .restart
  | .formActivated _ => .form
  | .formDeactivated => .form
  | .formValidation _ => .formValidation
  | .loopRejected _ => .actionExecutionRejected

/-- The members of a change beside its tag. -/
def members : Change → List (String × Json)
  | .slotSet name value => [("name", .string name), ("value", value)]
  | .userUttered message => message.members
  | .botUttered text data => [("text", Json.ofString? text), ("data", Json.ofTable data)]
  | .actionExecuted name policy confidence =>
      Json.present [
        ("name", some (.string name)),
        ("policy", policy.map .string),
        ("confidence", confidence.map Json.ofBinary64)]
  | .actionReverted => []
  | .utteranceReverted => []
  | .restarted => []
  | .formActivated name => [("name", .string name)]
  | .formDeactivated => [("name", .null)]
  | .formValidation validate => [("validate", .bool validate)]
  | .loopRejected name => [("name", Json.ofString? name)]

/-- Reads the change with a tag from the members of an event. -/
def ofMembers? (members : Entries Json) : Tag → Option Change
  | .slot => do
      let name ← members.required "name" Json.string?
      let value ← members.defaulted "value" .null some
      return .slotSet name value
  | .user => do
      let message ← UserMessage.ofMembers? members
      return .userUttered message
  | .bot => do
      let text ← members.optional "text" Json.string?
      let data ← members.defaulted "data" Table.empty (Json.table? some)
      return .botUttered text data
  | .action => do
      let name ← members.required "name" Json.string?
      let policy ← members.optional "policy" Json.string?
      let confidence ← members.optional "confidence" Json.binary64?
      return .actionExecuted name policy confidence
  | .undo => some .actionReverted
  | .rewind => some .utteranceReverted
  | .restart => some .restarted
  | .form => do
      match ← members.optional "name" Json.string? with
      | some name => return .formActivated name
      | none => return .formDeactivated
  | .formValidation => do
      let validate ← members.required "validate" Json.bool?
      return .formValidation validate
  | .actionExecutionRejected => do
      let name ← members.optional "name" Json.string?
      return .loopRejected name

end Change

namespace EventTime

/-- A time in seconds, where what is recorded happens now. -/
def seconds (now : Binary64) : EventTime → Binary64
  | .given seconds => seconds
  | .recorded => now

/-- The time given, or else that of recording. -/
def ofOption : Option Binary64 → EventTime
  | some seconds => .given seconds
  | none => .recorded

end EventTime

namespace Event

/-- The event with the time at which it happened. -/
def stamp (now : Binary64) (event : Event) : Event :=
  { event with time := .given (event.time.seconds now) }

/-- Writes an event. -/
def toJson (now : Binary64) (event : Event) : Json :=
  Json.ofMembers (
    ("event", .string event.change.tag.text)
      :: event.change.members
      ++ Json.present [
        ("timestamp", some (Json.ofBinary64 (event.time.seconds now))),
        ("metadata", event.metadata.map Json.ofTable)])

/-- Reads an event; one without a time happens when it is recorded. -/
def ofJson? (value : Json) : Option Event := do
  let members ← value.object?
  let tag ← Entries.required members "event" Tag.ofJson?
  let change ← Change.ofMembers? members tag
  let seconds ← Entries.optional members "timestamp" Json.binary64?
  let metadata ← Entries.optional members "metadata" (Json.table? some)
  return ⟨change, EventTime.ofOption seconds, metadata⟩

/-- Writes a list of events. -/
def listToJson (now : Binary64) (events : List Event) : Json :=
  .array (events.map (toJson now))

/-- Reads a list of events. -/
def listOfJson? (value : Json) : Option (List Event) :=
  value.list? ofJson?

end Event

end Dialogue
