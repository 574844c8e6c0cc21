import Dialogue.Tracker.Applied
import Dialogue.Event.Wire

/-!
# Dialogue state

What the assistant knows about a conversation at a moment: its slots, the active
loop, and the latest action, message and utterance.  `DialogueState.apply` is the
effect of one event and `DialogueState.replay` that of a whole log.
-/

namespace Dialogue

/-- The declared slots with their initial values. -/
abbrev SlotSchema := Table Json

/-- The loop that decides what happens next. -/
structure ActiveLoop where
  /-- The form that is active. -/
  name : String
  /-- Whether it validates the next message. -/
  validate : Bool
  /-- Whether it could not go on. -/
  rejected : Bool
deriving DecidableEq

namespace ActiveLoop

/-- A loop that has just been activated. -/
def fresh (name : String) : ActiveLoop :=
  ⟨name, true, false⟩

/-- An executed action makes the loop validate again, and its own action takes its
rejection back. -/
def afterAction (active : ActiveLoop) (action : String) : ActiveLoop :=
  ⟨active.name, true, active.rejected && active.name != action⟩

/-- A rejection counts for the loop it names, or for any loop if it names none. -/
def afterRejection (active : ActiveLoop) (name : Option String) : ActiveLoop :=
  if name = none ∨ name = some active.name then { active with rejected := true } else active

/-- Writes a loop. -/
def toJson (active : ActiveLoop) : Json :=
  Json.ofMembers [
    ("name", .string active.name),
    ("validate", .bool active.validate),
    ("rejected", .bool active.rejected)]

end ActiveLoop

/-- What is known about a conversation. -/
structure DialogueState where
  /-- The value of every declared slot. -/
  slots : Table Json
  /-- The active loop. -/
  activeLoop : Option ActiveLoop := none
  /-- The latest executed action. -/
  latestAction : Option String := none
  /-- The latest message of the user. -/
  latestMessage : Option UserMessage := none
  /-- The text of the latest utterance of the assistant. -/
  latestUtterance : Option String := none

namespace DialogueState

/-- The state before anything happened. -/
def initial (schema : SlotSchema) : DialogueState where
  slots := schema

/-- The state after an event.  Slots that are not declared are left alone, and
events that take others back change nothing by themselves. -/
def apply (schema : SlotSchema) (state : DialogueState) (event : Event) : DialogueState :=
  match event.change with
  | .slotSet name value =>
      if schema.contains name then { state with slots := state.slots.insert name value }
      else state
  | .userUttered message => { state with latestMessage := some message }
  | .botUttered text _ => { state with latestUtterance := text }
  | .actionExecuted name _ _ =>
      { state with
        latestAction := some name
        activeLoop := state.activeLoop.map fun active => active.afterAction name }
  | .formActivated name => { state with activeLoop := some (ActiveLoop.fresh name) }
  | .formDeactivated => { state with activeLoop := none }
  | .formValidation validate =>
      { state with
        activeLoop := state.activeLoop.map fun active => { active with validate := validate } }
  | .loopRejected name =>
      { state with
        activeLoop := state.activeLoop.map fun active => active.afterRejection name }
  | .restarted => initial schema
  | .actionReverted => state
  | .utteranceReverted => state

/-- The state after the events of a log that are in effect. -/
def replay (schema : SlotSchema) (events : List Event) : DialogueState :=
  (appliedEvents events).foldl (apply schema) (initial schema)

/-- Equality of states. -/
def same (left right : DialogueState) : Bool :=
  sameTable left.slots right.slots && left.activeLoop == right.activeLoop
    && left.latestAction == right.latestAction
    && sameOption UserMessage.same left.latestMessage right.latestMessage
    && left.latestUtterance == right.latestUtterance

/-- Writes a state. -/
def toJson (state : DialogueState) : Json :=
  Json.ofMembers [
    ("slots", Json.ofTable state.slots),
    ("active_loop", (state.activeLoop.map ActiveLoop.toJson).getD .null),
    ("latest_action_name", Json.ofString? state.latestAction),
    ("latest_message", (state.latestMessage.map UserMessage.toJson).getD .null),
    ("latest_bot_utterance", Json.ofString? state.latestUtterance)]

end DialogueState

end Dialogue
