import Dialogue.Tracker.State

/-!
# Trackers

A tracker is the append-only log of a conversation together with the state that the
log leads to.  The state is kept up to date event by event; only an event that takes
others back makes the tracker replay the events since the last restart.
-/

namespace Dialogue

/-- A conversation: who talks, what happened, and what is known. -/
structure Tracker where
  /-- The name of the conversation. -/
  senderId : String
  /-- Everything that happened, in order. -/
  events : List Event
  /-- How many events precede the current stretch, which begins after a restart. -/
  generationStart : Nat
  /-- The declared slots. -/
  schema : SlotSchema
  /-- The state after all events. -/
  state : DialogueState

namespace Tracker

/-- A conversation in which nothing has happened. -/
def new (senderId : String) (schema : SlotSchema) : Tracker where
  senderId := senderId
  events := []
  generationStart := 0
  schema := schema
  state := DialogueState.initial schema

/-- The events since the last restart. -/
def eventsSinceRestart (tracker : Tracker) : List Event :=
  tracker.events.drop tracker.generationStart

/-- Records an event. -/
def append (tracker : Tracker) (event : Event) : Tracker :=
  let events := tracker.events ++ [event]
  match event.change with
  | .restarted =>
      { tracker with
        events := events
        generationStart := events.length
        state := DialogueState.initial tracker.schema }
  | .actionReverted | .utteranceReverted =>
      { tracker with
        events := events
        state := DialogueState.replay tracker.schema (events.drop tracker.generationStart) }
  | _ =>
      { tracker with
        events := events
        state := tracker.state.apply tracker.schema event }

/-- Records events in order. -/
def extend (tracker : Tracker) (events : List Event) : Tracker :=
  events.foldl append tracker

/-- A conversation in which the given events happened. -/
def ofEvents (senderId : String) (schema : SlotSchema) (events : List Event) : Tracker :=
  (new senderId schema).extend events

/-- The tracker as it would be after further events. -/
def hypothetical (tracker : Tracker) (events : List Event) : Tracker :=
  tracker.extend events

/-- The same conversation under another name. -/
def withSenderId (tracker : Tracker) (senderId : String) : Tracker :=
  { tracker with senderId := senderId }

/-- The events in effect. -/
def applied (tracker : Tracker) : List Event :=
  appliedEvents tracker.events

/-- The value of a slot that is set. -/
def slot? (tracker : Tracker) (name : String) : Option Json :=
  (tracker.state.slots.find? name).filter fun value => !value.isNull

/-- The name of the active loop. -/
def activeLoopName (tracker : Tracker) : Option String :=
  tracker.state.activeLoop.map ActiveLoop.name

/-- The latest executed action. -/
def latestAction (tracker : Tracker) : Option String :=
  tracker.state.latestAction

/-- The latest message of the user. -/
def latestMessage (tracker : Tracker) : Option UserMessage :=
  tracker.state.latestMessage

/-- The intent of the latest message. -/
def latestIntentName (tracker : Tracker) : Option String :=
  tracker.latestMessage.bind UserMessage.intentName

/-- The values of the entities in the latest message that have a kind, and exactly
the given role and group. -/
def entityValues (tracker : Tracker) (entity : String) (role group : Option String) :
    List Json :=
  match tracker.latestMessage with
  | some message =>
      (message.entities.filter fun candidate =>
        candidate.entity == entity && candidate.role == role
          && candidate.group == group).map Entity.value
  | none => []

/-- The time of the latest event. -/
def latestEventTime (tracker : Tracker) : Option EventTime :=
  tracker.events.getLast?.map Event.time

end Tracker

/-- What an action server is told about a conversation. -/
structure Snapshot where
  /-- The name of the conversation. -/
  senderId : String
  /-- The slots. -/
  slots : Table Json
  /-- The latest message of the user. -/
  latestMessage : Option UserMessage
  /-- The latest executed action. -/
  latestAction : Option String
  /-- The active loop. -/
  activeLoop : Option ActiveLoop
  /-- The time of the latest event. -/
  latestEventTime : Option EventTime
  /-- The log. -/
  events : List Event

/-- The snapshot of a tracker, with its whole log. -/
def Tracker.snapshot (tracker : Tracker) : Snapshot where
  senderId := tracker.senderId
  slots := tracker.state.slots
  latestMessage := tracker.state.latestMessage
  latestAction := tracker.state.latestAction
  activeLoop := tracker.state.activeLoop
  latestEventTime := tracker.latestEventTime
  events := tracker.events

/-- Writes a time. -/
def EventTime.toJson (now : Binary64) (time : EventTime) : Json :=
  Json.ofBinary64 (time.seconds now)

/-- Writes a snapshot. -/
def Snapshot.toJson (now : Binary64) (snapshot : Snapshot) : Json :=
  Json.ofMembers [
    ("sender_id", .string snapshot.senderId),
    ("slots", Json.ofTable snapshot.slots),
    ("latest_message", (snapshot.latestMessage.map UserMessage.toJson).getD .null),
    ("latest_action_name", Json.ofString? snapshot.latestAction),
    ("active_loop", (snapshot.activeLoop.map ActiveLoop.toJson).getD .null),
    ("latest_event_time", (snapshot.latestEventTime.map (EventTime.toJson now)).getD .null),
    ("events", Event.listToJson now snapshot.events)]

end Dialogue
