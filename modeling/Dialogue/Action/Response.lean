import Dialogue.Action.Error
import Dialogue.Domain.Basic
import Dialogue.Event.Written

/-!
# Responses of custom actions

A custom action answers with events and with things to say.  What is to be said
becomes bot events in front of the other events.
-/

namespace Dialogue

/-- What a custom action answers. -/
structure ActionResponse where
  /-- The events to record. -/
  events : List Event := []
  /-- What to say. -/
  responses : List Json := []

/-- Runs custom actions by name. -/
abbrev Executor := String → Tracker → Domain → Except ActionError ActionResponse

namespace ActionResponse

/-- The bot event for something to say: a text, an object whose member `text` is the
text, or a value of another shape that only passes through. -/
def utterance : Json → Event
  | .string text => Event.bot text
  | .object members =>
      let text := (Entries.find? "text" members).bind Json.string?
      { change := .botUttered text (Table.ofList (Entries.without members ["text"])) }
  | value => { change := .botUttered none (Table.empty.insert "custom" value) }

/-- All events of a response. -/
def intoEvents (response : ActionResponse) : List Event :=
  response.responses.map utterance ++ response.events

/-- The members of a response in order. -/
def memberNames : List String :=
  ["events", "responses"]

/-- Reads a response. -/
def ofJson? (value : Json) : Option ActionResponse := do
  let members ← value.record? memberNames
  let events ← members.defaulted "events" [] Event.listOfJson?
  let responses ← members.defaulted "responses" [] Json.array?
  return ⟨events, responses⟩

/-- Reads a response from its text, in which no member that counts may be repeated. -/
def ofText? (text : String) : Option ActionResponse := do
  let written ← Json.recordOfText? .object memberNames text
  let members ← Json.recordOfText? Json.ofMembers memberNames text
  if (written.find? "events").all Event.listRepeatsNone then ofJson? (.object members) else none

/-- Writes a response. -/
def toJson (now : Binary64) (response : ActionResponse) : Json :=
  Json.ofMembers [
    ("events", Event.listToJson now response.events),
    ("responses", .array response.responses)]

end ActionResponse

end Dialogue
