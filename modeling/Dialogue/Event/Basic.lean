import Dialogue.Json.Basic

/-!
# Conversation events

Every change to a conversation is an event.  Events are never edited: what has to
be taken back is taken back by a later event (`actionReverted`,
`utteranceReverted`, `restarted`).  Two events are the same when they describe the
same change, whatever their times and metadata.
-/

namespace Dialogue

/-- The action that hands control back to the user. -/
def listenAction : String := "action_listen"

/-- What the user meant by a message. -/
structure Intent where
  /-- The name under which the intent is declared. -/
  name : String
  /-- How sure the classifier was. -/
  confidence : Option Binary64 := none
deriving DecidableEq

/-- A value found in a user message. -/
structure Entity where
  /-- The kind of value. -/
  entity : String
  /-- The value itself. -/
  value : Json
  /-- The part the value plays in the message. -/
  role : Option String := none
  /-- The group of values it belongs to. -/
  group : Option String := none
  /-- Where the value begins in the text. -/
  start : Option Nat := none
  /-- Where the value stops in the text. -/
  stop : Option Nat := none
  /-- How sure the extractor was. -/
  confidence : Option Binary64 := none
  /-- The name of the extractor. -/
  extractor : Option String := none

/-- What language understanding made of a message. -/
structure ParseData where
  /-- The intent, if one was found. -/
  intent : Option Intent := none
  /-- The values found, in the order of the message. -/
  entities : List Entity := []
  /-- Members that only pass through. -/
  extra : Table Json := Table.empty

/-- A message of the user. -/
structure UserMessage where
  /-- The text, if the message has one. -/
  text : Option String := none
  /-- What was understood. -/
  parse : ParseData := {}
  /-- The channel on which the message came in. -/
  inputChannel : Option String := none

namespace UserMessage

/-- A message with a text and nothing understood. -/
def ofText (text : String) : UserMessage where
  text := some text

/-- The same message with an intent of which the classifier is sure. -/
def withIntent (message : UserMessage) (name : String) : UserMessage :=
  { message with
    parse := { message.parse with
      intent := some ⟨name, Binary64.ofNat? 1⟩ } }

/-- The same message with one more value. -/
def withEntity (message : UserMessage) (entity : Entity) : UserMessage :=
  { message with
    parse := { message.parse with
      entities := message.parse.entities ++ [entity] } }

/-- The name of the intent. -/
def intentName (message : UserMessage) : Option String :=
  message.parse.intent.map Intent.name

/-- The values found in the message. -/
def entities (message : UserMessage) : List Entity :=
  message.parse.entities

end UserMessage

/-- The changes that can happen to a conversation. -/
inductive Change where
  /-- A slot takes a value. -/
  | slotSet (name : String) (value : Json)
  /-- The user says something. -/
  | userUttered (message : UserMessage)
  /-- The assistant says something. -/
  | botUttered (text : Option String) (data : Table Json)
  /-- The assistant runs an action. -/
  | actionExecuted (name : String) (policy : Option String) (confidence : Option Binary64)
  /-- Takes back everything from the latest executed action on. -/
  | actionReverted
  /-- Takes back everything from the action before the latest message on. -/
  | utteranceReverted
  /-- The conversation starts anew. -/
  | restarted
  /-- A form becomes the active loop. -/
  | formActivated (name : String)
  /-- No loop is active any more. -/
  | formDeactivated
  /-- Says whether the active loop validates the next message. -/
  | formValidation (validate : Bool)
  /-- The active loop, or the loop of that name, could not go on. -/
  | loopRejected (name : Option String)

/-- When an event happened: at a time that was given with it, or when it was
recorded. -/
inductive EventTime where
  /-- A time in seconds that came with the event. -/
  | given (seconds : Binary64)
  /-- The time of recording. -/
  | recorded
deriving DecidableEq

/-- A change with its time and metadata. -/
structure Event where
  /-- What happened. -/
  change : Change
  /-- When it happened. -/
  time : EventTime := .recorded
  /-- What else is known about it. -/
  metadata : Option (Table Json) := none

/-- Equality of optional values by an equality of values. -/
def sameOption {α : Type} (same : α → α → Bool) : Option α → Option α → Bool
  | some left, some right => same left right
  | none, none => true
  | _, _ => false

/-- Equality of lists by an equality of items. -/
def sameList {α : Type} (same : α → α → Bool) : List α → List α → Bool
  | left :: lefts, right :: rights => same left right && sameList same lefts rights
  | [], [] => true
  | _, _ => false

/-- Equality of tables of JSON values. -/
def sameTable (left right : Table Json) : Bool :=
  Json.sameMembers left.entries right.entries

/-- Equality of intents. -/
def Intent.same (left right : Intent) : Bool :=
  left.name == right.name && sameOption Binary64.same left.confidence right.confidence

/-- Equality of entities. -/
def Entity.same (left right : Entity) : Bool :=
  left.entity == right.entity && left.value == right.value && left.role == right.role
    && left.group == right.group && left.start == right.start && left.stop == right.stop
    && sameOption Binary64.same left.confidence right.confidence
    && left.extractor == right.extractor

/-- Equality of messages. -/
def UserMessage.same (left right : UserMessage) : Bool :=
  left.text == right.text && left.inputChannel == right.inputChannel
    && sameOption Intent.same left.parse.intent right.parse.intent
    && sameList Entity.same left.parse.entities right.parse.entities
    && sameTable left.parse.extra right.parse.extra

namespace Change

/-- Equality of changes. -/
def same : Change → Change → Bool
  | .slotSet leftName left, .slotSet rightName right => leftName == rightName && left == right
  | .userUttered left, .userUttered right => left.same right
  | .botUttered leftText left, .botUttered rightText right =>
      leftText == rightText && sameTable left right
  | .actionExecuted leftName leftPolicy left, .actionExecuted rightName rightPolicy right =>
      leftName == rightName && leftPolicy == rightPolicy && sameOption Binary64.same left right
  | .actionReverted, .actionReverted => true
  | .utteranceReverted, .utteranceReverted => true
  | .restarted, .restarted => true
  | .formActivated left, .formActivated right => left == right
  | .formDeactivated, .formDeactivated => true
  | .formValidation left, .formValidation right => left == right
  | .loopRejected left, .loopRejected right => left == right
  | _, _ => false

/-- The name of the kind of change. -/
def kind : Change → String
  | .slotSet .. => "slot_set"
  | .userUttered _ => "user_uttered"
  | .botUttered .. => "bot_uttered"
  | .actionExecuted .. => "action_executed"
  | .actionReverted => "action_reverted"
  | .utteranceReverted => "user_utterance_reverted"
  | .restarted => "restarted"
  | .formActivated _ => "form_activated"
  | .formDeactivated => "form_deactivated"
  | .formValidation _ => "form_validation"
  | .loopRejected _ => "active_loop_rejected"

end Change

namespace Event

/-- Equality of the changes alone. -/
def same (left right : Event) : Bool :=
  left.change.same right.change

/-- A slot takes a value. -/
def slotSet (name : String) (value : Json) : Event :=
  { change := .slotSet name value }

/-- The user says something. -/
def user (message : UserMessage) : Event :=
  { change := .userUttered message }

/-- The assistant says a text. -/
def bot (text : String) : Event :=
  { change := .botUttered (some text) Table.empty }

/-- The assistant runs an action. -/
def action (name : String) : Event :=
  { change := .actionExecuted name none none }

/-- A policy chose the action that the assistant runs. -/
def actionBy (name policy : String) (confidence : Binary64) : Event :=
  { change := .actionExecuted name (some policy) (some confidence) }

/-- The assistant waits for the user. -/
def listen : Event :=
  action listenAction

/-- Takes the latest action back. -/
def actionReverted : Event :=
  { change := .actionReverted }

/-- Takes the latest message back. -/
def utteranceReverted : Event :=
  { change := .utteranceReverted }

/-- Starts the conversation anew. -/
def restarted : Event :=
  { change := .restarted }

/-- Makes a form the active loop. -/
def formActivated (name : String) : Event :=
  { change := .formActivated name }

/-- Leaves the active loop. -/
def formDeactivated : Event :=
  { change := .formDeactivated }

/-- Says whether the active loop validates the next message. -/
def formValidation (validate : Bool) : Event :=
  { change := .formValidation validate }

/-- The active loop, or the loop of that name, could not go on. -/
def loopRejected (name : Option String) : Event :=
  { change := .loopRejected name }

/-- The same event at a given time. -/
def withTime (event : Event) (seconds : Binary64) : Event :=
  { event with time := .given seconds }

/-- The same event with metadata. -/
def withMetadata (event : Event) (metadata : Table Json) : Event :=
  { event with metadata := some metadata }

/-- The name of the executed action. -/
def actionName? (event : Event) : Option String :=
  match event.change with
  | .actionExecuted name _ _ => some name
  | _ => none

/-- Whether the assistant waits for the user. -/
def isListen (event : Event) : Bool :=
  event.actionName? == some listenAction

/-- Whether an action is executed. -/
def isAction (event : Event) : Bool :=
  event.actionName?.isSome

/-- The message that is uttered. -/
def message? (event : Event) : Option UserMessage :=
  match event.change with
  | .userUttered message => some message
  | _ => none

/-- Whether the user says something. -/
def isUser (event : Event) : Bool :=
  event.message?.isSome

/-- Whether the conversation starts anew. -/
def isRestart (event : Event) : Bool :=
  match event.change with
  | .restarted => true
  | _ => false

/-- Whether the active loop is left. -/
def isDeactivation (event : Event) : Bool :=
  match event.change with
  | .formDeactivated => true
  | _ => false

end Event

end Dialogue
