import Dialogue.Story.TurnState

/-!
# Story conflicts

Two stories are in conflict when they go on with different actions although the last
turns before look the same.  Turns are compared by the hash of their window, and
conflicts are listed in the order of these hashes.
-/

namespace Dialogue

/-- The greatest number of examples for one action. -/
def exampleLimit : Nat := 5

/-- Different actions after the same turns. -/
structure StoryConflict where
  /-- The hash of the turns. -/
  historyHash : String
  /-- The names of the conversations, at most five, that go on with each action. -/
  examples : Table (List String)
  /-- The turns. -/
  states : List TurnState

namespace StoryConflict

/-- The actions that compete. -/
def actions (conflict : StoryConflict) : List String :=
  conflict.examples.keys

/-- Where the conflict arises, by the last turn. -/
def place (conflict : StoryConflict) : String :=
  match conflict.states.getLast? with
  | some state =>
      match state.intent, state.prevAction with
      | some intent, _ => s!"after intent '{intent}'"
      | none, some action => s!"after action '{action}'"
      | none, none => "at the beginning of stories"
  | none => "at the beginning of stories"

/-- The line for one action. -/
def exampleLine (action : String) (senders : List String) : String :=
  "  " ++ action ++ " predicted in "
    ++ ", ".intercalate (senders.map fun sender => "'" ++ sender ++ "'") ++ "\n"

/-- The text of a conflict. -/
def message (conflict : StoryConflict) : String :=
  "Story structure conflict " ++ conflict.place ++ ":\n"
    ++ String.join (conflict.examples.entries.map fun (action, senders) =>
      exampleLine action senders)

/-- Writes a conflict. -/
def toJson (conflict : StoryConflict) : Json :=
  Json.ofMembers [
    ("conversation_history_hash", .string conflict.historyHash),
    ("competing_next_actions", Json.ofStrings conflict.actions),
    ("example_trackers", Json.ofTable (conflict.examples.map fun _ senders =>
      Json.ofStrings senders)),
    ("sliced_states", .array (conflict.states.map TurnState.toJson))]

end StoryConflict

/-- The last turns; no limit and a limit of zero keep all of them. -/
def lastTurns (states : List TurnState) (maxHistory : Option Nat) : List TurnState :=
  match maxHistory with
  | some limit => if 0 < limit then states.drop (states.length - limit) else states
  | none => states

/-- An action that a tracker takes after a window of turns. -/
structure Occurrence where
  /-- The name of the conversation. -/
  sender : String
  /-- The action. -/
  action : String
  /-- The turns before it. -/
  window : List TurnState

/-- The actions among some events, each with the turns before it.  The tracker is
the one before the events, and the turns are those before its actions. -/
def occurrencesFrom (domain : Domain) (maxHistory : Option Nat) (sender : String)
    (tracker : Tracker) (turns : List TurnState) : List Event → List Occurrence
  | [] => []
  | event :: rest =>
      match event.actionName? with
      | some action =>
          let turns := turns ++ [TurnState.ofTracker tracker domain]
          ⟨sender, action, lastTurns turns maxHistory⟩
            :: occurrencesFrom domain maxHistory sender (tracker.append event) turns rest
      | none => occurrencesFrom domain maxHistory sender (tracker.append event) turns rest

/-- The actions of a tracker, each with the turns before it. -/
def occurrences (domain : Domain) (maxHistory : Option Nat) (tracker : Tracker) :
    List Occurrence :=
  occurrencesFrom domain maxHistory tracker.senderId
    (Tracker.new tracker.senderId tracker.schema) [] tracker.events

/-- Adds a name to the examples of an action, if there is room and it is new. -/
def addExample (senders : List String) (sender : String) : List String :=
  if senders.length < exampleLimit ∧ sender ∉ senders then senders ++ [sender] else senders

/-- The histories seen so far by hash: their turns, and the examples by action. -/
abbrev Histories := Table (List TurnState × Table (List String))

/-- Notes an occurrence under the hash of its window. -/
def Histories.note (histories : Histories) (occurrence : Occurrence) : Histories :=
  let hash := TurnState.fingerprint occurrence.window
  let (window, examples) := (histories.find? hash).getD (occurrence.window, Table.empty)
  let senders := addExample ((examples.find? occurrence.action).getD []) occurrence.sender
  histories.insert hash (window, examples.insert occurrence.action senders)

/-- The conflicts among trackers in the order of their hashes. -/
def storyConflicts (trackers : List Tracker) (domain : Domain) (maxHistory : Option Nat) :
    List StoryConflict :=
  let histories : Histories :=
    (trackers.flatMap (occurrences domain maxHistory)).foldl Histories.note Table.empty
  histories.entries.filterMap fun (hash, window, examples) =>
    if 1 < examples.size then some ⟨hash, examples, window⟩ else none

end Dialogue
