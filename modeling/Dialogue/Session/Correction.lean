import Dialogue.Form

/-!
# Corrections

What has to be recorded when a user corrects the assistant: another action than the
active loop rejects the loop, the loop itself can be resumed with or without
validation, and the latest step can be taken back.
-/

namespace Dialogue

/-- Whether an action, chosen now, rejects the active loop. -/
def formIsRejected (action : String) (tracker : Tracker) : Bool :=
  tracker.activeLoopName.any fun name => action != name && action != listenAction

/-- Whether an action resumes the active loop after a rejection. -/
def formIsRestored (action : String) (tracker : Tracker) : Bool :=
  tracker.state.activeLoop.any fun active =>
    active.rejected && tracker.isListening && action == active.name

/-- The events that record the choice of an action by the user.  A resumed loop may
have its validation switched off, or on if it was off. -/
def loopCorrection (action : String) (tracker : Tracker) (validate : Option Bool) :
    List Event :=
  if formIsRejected action tracker then [Event.loopRejected tracker.activeLoopName]
  else if formIsRestored action tracker then
    match validate with
    | some false => [Event.formValidation false]
    | some true => if tracker.loopValidates then [] else [Event.formValidation true]
    | none => []
  else []

/-- Whether an event is a step that can be taken back, or a restart. -/
def Event.isLandmark (event : Event) : Bool :=
  event.isAction || event.isUser || event.isRestart

/-- The events that take back the latest action or message of the log, whichever came
last; a restart is not taken back. -/
def undoLatest (tracker : Tracker) : List Event :=
  match tracker.events.reverse.find? Event.isLandmark with
  | some event =>
      if event.isAction then [Event.actionReverted]
      else if event.isUser then [Event.utteranceReverted, Event.listen]
      else []
  | none => []

/-- The stretches between restarts, without the restarts; some may be empty. -/
def stretches : List Event → List (List Event)
  | [] => [[]]
  | event :: rest =>
      if event.isRestart then [] :: stretches rest
      else
        match stretches rest with
        | first :: others => (event :: first) :: others
        | [] => [[event]]

/-- The stretches between restarts in which something happened. -/
def splitAtRestarts (events : List Event) : List (List Event) :=
  (stretches events).filter fun part => !part.isEmpty

end Dialogue
