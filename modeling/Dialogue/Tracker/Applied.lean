import Dialogue.Event.Basic

/-!
# Events in effect

Undo, rewind and restart events take earlier events back.  `appliedEvents` gives
the events of a log that are still in effect: a stack machine that pushes ordinary
events and pops what is taken back.
-/

namespace Dialogue

namespace Applied

/-- Pops events up to and including the first that passes a test, or all of them. -/
def popThrough (isBoundary : Event → Bool) : List Event → List Event
  | [] => []
  | event :: rest => if isBoundary event then rest else popThrough isBoundary rest

/-- What one event does to the stack of events in effect, the latest on top. -/
def step (stack : List Event) (event : Event) : List Event :=
  match event.change with
  | .restarted => []
  | .actionReverted => popThrough Event.isAction stack
  | .utteranceReverted => popThrough Event.isAction (popThrough Event.isUser stack)
  | _ => event :: stack

end Applied

/-- The events of a log that are still in effect, in order. -/
def appliedEvents (events : List Event) : List Event :=
  (events.foldl Applied.step []).reverse

@[simp]
theorem appliedEvents_nil : appliedEvents [] = [] :=
  rfl

end Dialogue
