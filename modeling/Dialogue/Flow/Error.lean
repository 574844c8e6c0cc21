/-!
# Flow errors

What can be wrong with the definition of flows: their format, or the names and
conditions in them.
-/

namespace Dialogue

/-- What can be wrong with the format of flows.  Steps are counted from zero. -/
inductive FlowFault where
  /-- The flows are no object. -/
  | notAMapping
  /-- A flow has no list of steps. -/
  | withoutSteps (flow : String)
  /-- A step is no object. -/
  | stepNotAnObject (position : Nat)
  /-- A member of a step is no string. -/
  | notAString (member : String) (position : Nat)
  /-- The rejections of a step are no list. -/
  | rejectionsNotAList (position : Nat)
  /-- A rejection of a step has no condition. -/
  | rejectionWithoutCondition (position : Nat)
  /-- The assignments of a step are no list. -/
  | assignmentsNotAList (position : Nat)
  /-- An assignment of a step is no object. -/
  | assignmentNotAnObject (position : Nat)
  /-- The links of a step are neither a name nor a list; their text is kept. -/
  | badLinks (position : Nat) (text : String)
  /-- A link of a step is incomplete. -/
  | incompleteLink (position : Nat)
  /-- A link of a step does not lead to a step by its name. -/
  | badTarget (position : Nat)
deriving DecidableEq

/-- The text of a fault. -/
def FlowFault.message : FlowFault → String
  | .notAMapping => "flows must be a mapping of flow ids"
  | .withoutSteps flow => s!"flow '{flow}' has no list of steps"
  | .stepNotAnObject position => s!"step {position} is not an object"
  | .notAString member position => s!"'{member}' of step {position} must be a string"
  | .rejectionsNotAList position => s!"rejections of step {position} must be a list"
  | .rejectionWithoutCondition position => s!"rejection of step {position} has no 'if'"
  | .assignmentsNotAList position => s!"set_slots of step {position} must be a list"
  | .assignmentNotAnObject position =>
      s!"set_slots entries of step {position} must be objects"
  | .badLinks position text =>
      s!"'next' of step {position} must be a string or a list, got {text}"
  | .incompleteLink position =>
      s!"links of step {position} need either 'if' and 'then' or 'else'"
  | .badTarget position =>
      s!"link targets of step {position} must be step ids; nested steps are not supported"

/-- What can be wrong with flows. -/
inductive FlowError where
  /-- A flow has the name of an earlier one. -/
  | duplicateName (name : String)
  /-- The named flow has the description of an earlier one. -/
  | duplicateDescription (name : String)
  /-- A step uses a slot that is not declared. -/
  | unknownSlot (slot step flow : String)
  /-- A step runs an action that is not declared. -/
  | unknownAction (action step flow : String)
  /-- A step leads to a step or flow that does not exist. -/
  | unknownTarget (target step flow : String)
  /-- A step has a condition that cannot be evaluated. -/
  | invalidCondition (condition step flow : String)
  /-- The format is wrong. -/
  | format (fault : FlowFault)
deriving DecidableEq

/-- The text of an error. -/
def FlowError.message : FlowError → String
  | .duplicateName name => s!"detected duplicate flow name '{name}'; flow names must be unique"
  | .duplicateDescription name =>
      s!"detected duplicate flow description for flow '{name}'; "
        ++ "flow descriptions must be unique"
  | .unknownSlot slot step flow =>
      s!"slot '{slot}' is used in step '{step}' of flow '{flow}' "
        ++ "but is not listed in the domain slots"
  | .unknownAction action step flow =>
      s!"action '{action}' is used in step '{step}' of flow '{flow}' "
        ++ "but is not listed in the domain"
  | .unknownTarget target step flow =>
      s!"step '{step}' of flow '{flow}' links to unknown step '{target}'"
  | .invalidCondition condition step flow =>
      s!"detected invalid condition '{condition}' at step '{step}' for flow '{flow}'"
  | .format fault => "invalid flow definition: " ++ fault.message

end Dialogue
