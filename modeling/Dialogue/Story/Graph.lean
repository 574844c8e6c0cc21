import Dialogue.Domain.Basic
import Dialogue.Json.Record

/-!
# Story graphs

A corpus of stories is a list of steps that are joined at named checkpoints.  Every
path through the steps, from a start of stories to a step without a continuation,
is one story.  A path never takes a step twice.
-/

namespace Dialogue

/-- The checkpoint at which stories begin. -/
def storyStart : String := "STORY_START"

/-- A named joint between steps, which may ask for slot values. -/
structure Checkpoint where
  /-- The name. -/
  name : String
  /-- The value that a slot has to have; null stands for a slot that is not set. -/
  conditions : Table Json := Table.empty

namespace Checkpoint

/-- Whether the slots have the values that the checkpoint asks for. -/
def isSatisfied (checkpoint : Checkpoint) (tracker : Tracker) : Bool :=
  checkpoint.conditions.entries.all fun (slot, expected) =>
    (tracker.slot? slot).getD .null == expected

/-- The members of a checkpoint in order. -/
def memberNames : List String :=
  ["name", "conditions"]

/-- Reads a checkpoint. -/
def ofJson? (value : Json) : Option Checkpoint := do
  let members ← value.record? memberNames
  let name ← members.required "name" Json.string?
  let conditions ← members.defaulted "conditions" Table.empty (Json.table? some)
  return ⟨name, conditions⟩

end Checkpoint

/-- A piece of a story. -/
structure StoryStep where
  /-- The name of the block of stories it stands in. -/
  blockName : String
  /-- Where it may begin. -/
  starts : List Checkpoint := [{ name := storyStart }]
  /-- Where it leads to. -/
  ends : List Checkpoint := []
  /-- What happens. -/
  events : List Event

namespace StoryStep

/-- Whether stories may begin with the step. -/
def startsStory (step : StoryStep) : Bool :=
  step.starts.any fun checkpoint => checkpoint.name == storyStart

/-- Events with a listen action in front of every user message that does not follow
one.  The flag tells whether the event before them is a listen action. -/
def insertListens : Bool → List Event → List Event
  | _, [] => []
  | afterListen, event :: rest =>
      let tail := event :: insertListens event.isListen rest
      if event.isUser && !afterListen then Event.listen :: tail else tail

/-- The events of the step after those of a tracker. -/
def explicitEvents (step : StoryStep) (tracker : Tracker) : List Event :=
  insertListens (tracker.events.getLast?.any Event.isListen) step.events

/-- Whether another step may follow: one of the ends is one of its starts, with the
conditions of both satisfied. -/
def leadsTo (step next : StoryStep) (tracker : Tracker) : Bool :=
  step.ends.any fun finish => next.starts.any fun start =>
    start.name == finish.name && start.isSatisfied tracker && finish.isSatisfied tracker

end StoryStep

/-- The steps of a corpus. -/
structure StoryGraph where
  /-- The steps in order. -/
  steps : List StoryStep := []

/-- The beginning of a story: a path of step positions and the tracker it leads to. -/
structure StoryPath where
  /-- The positions of the steps taken. -/
  path : List Nat
  /-- The conversation so far. -/
  tracker : Tracker

namespace StoryGraph

/-- The positions of the steps that may follow the last one. -/
def continuations (graph : StoryGraph) (step : StoryStep) (story : StoryPath) : List Nat :=
  (graph.steps.zipIdx.filter fun (next, position) =>
    !story.path.contains position && step.leadsTo next story.tracker).map Prod.snd

/-- Whether a story ends with an action of the assistant other than listening. -/
def endsWithAction (events : List Event) : Bool :=
  events.getLast?.any fun event => event.isAction && !event.isListen

/-- The name of a path: the names of its blocks in order. -/
def pathName (graph : StoryGraph) (path : List Nat) : String :=
  " > ".intercalate (path.map fun position =>
    (graph.steps[position]?.map StoryStep.blockName).getD "")

/-- The tracker of a whole story, named after its path.  It listens after a last
action of the assistant. -/
def finish (graph : StoryGraph) (story : StoryPath) : Tracker :=
  let tracker :=
    if endsWithAction story.tracker.events then story.tracker.append Event.listen
    else story.tracker
  tracker.withSenderId (graph.pathName story.path)

end StoryGraph

end Dialogue
