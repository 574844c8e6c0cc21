import Dialogue.Form

/-!
# Sessions

A session remembers the actions and responses that were made up while it lasts, and
a conversation ties a tracker to its session.  Running an action records it with its
events, or records its rejection; a failure leaves everything as it was.
-/

namespace Dialogue

/-- The actions and responses made up during a session. -/
structure Session where
  /-- The names of all new actions. -/
  newActions : NameSet := Table.empty
  /-- The texts of the new responses. -/
  newResponses : Table (List String) := Table.empty

namespace Session

/-- Remembers a new action. -/
def registerAction (session : Session) (name : String) : Session :=
  { session with newActions := session.newActions.add name }

/-- Remembers a text of a new response, which is a new action too. -/
def registerResponse (session : Session) (name text : String) : Session where
  newActions := session.newActions.add name
  newResponses :=
    session.newResponses.insert name (((session.newResponses.find? name).getD []) ++ [text])

/-- Whether an action was made up during the session. -/
def isNew (session : Session) (name : String) : Bool :=
  session.newActions.contains name

/-- The custom action with a name; new ones are provisional. -/
def remoteAction (session : Session) (name : String) : RemoteAction where
  name := name
  provisional := session.isNew name

end Session

/-- A tracker with its session. -/
structure Conversation where
  /-- What happened. -/
  tracker : Tracker
  /-- What was made up. -/
  session : Session := {}

namespace Conversation

/-- Records events. -/
def append (conversation : Conversation) (events : List Event) : Conversation :=
  { conversation with tracker := conversation.tracker.extend events }

/-- Records the outcome of an action: the action and its events, or its rejection. -/
def record (conversation : Conversation) (action : String) (outcome : ActionOutcome) :
    Conversation :=
  match outcome with
  | .completed events => conversation.append (Event.action action :: events)
  | .rejected rejection => conversation.append [rejection.event]

/-- Records the outcome of a run; a failure is passed on with nothing recorded. -/
def settle (conversation : Conversation) (action : String)
    (result : Except ActionError ActionOutcome) :
    Conversation × Except ActionError ActionOutcome :=
  match result with
  | .ok outcome => (conversation.record action outcome, .ok outcome)
  | .error error => (conversation, .error error)

/-- Runs a form and records the outcome. -/
def executeForm (conversation : Conversation) (executor : Executor) (domain : Domain)
    (name : String) : Conversation × Except ActionError ActionOutcome :=
  conversation.settle name (domain.runForm executor name conversation.tracker)

/-- Runs a custom action and records the outcome. -/
def executeRemote (conversation : Conversation) (executor : Executor) (domain : Domain)
    (name : String) : Conversation × Except ActionError ActionOutcome :=
  conversation.settle name
    ((conversation.session.remoteAction name).run executor conversation.tracker domain)

end Conversation

end Dialogue
