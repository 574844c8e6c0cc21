import Dialogue.Flow.Error
import Dialogue.Json.Printer

/-!
# Flow steps

A step runs an action, waits for an intent, collects or sets slots, goes on with
another flow, generates a response, or only branches; the first of the members that
tell these kinds apart decides.  Its links say which step comes next.
-/

namespace Dialogue

/-- The name of the target that ends a flow. -/
def endStep : String := "END"

/-- Where a step leads. -/
inductive FlowLink where
  /-- Always there. -/
  | always (target : String)
  /-- There if a condition holds. -/
  | when (condition target : String)
  /-- There if no condition before holds. -/
  | otherwise (target : String)
deriving DecidableEq

namespace FlowLink

/-- The step that a link leads to. -/
def target : FlowLink → String
  | .always target => target
  | .when _ target => target
  | .otherwise target => target

/-- The condition of a link. -/
def condition? : FlowLink → Option String
  | .when condition _ => some condition
  | _ => none

end FlowLink

/-- A condition under which a collected value is refused. -/
structure SlotRejection where
  /-- When the value is refused. -/
  condition : String
  /-- What is said then. -/
  utterance : Option String
deriving DecidableEq

/-- What a step does. -/
inductive FlowStepKind where
  /-- Runs an action. -/
  | action (name : String)
  /-- Waits for an intent. -/
  | intent (name : String)
  /-- Collects a slot. -/
  | collect (slot : String) (rejections : List SlotRejection)
  /-- Goes on with another flow. -/
  | link (flow : String)
  /-- Sets slots. -/
  | setSlots (assignments : List (String × Json))
  /-- Generates a response. -/
  | generate (prompt : String)
  /-- Only leads on. -/
  | branch

/-- A step of a flow. -/
structure FlowStep where
  /-- The name given to the step. -/
  customId : Option String
  /-- The place of the step in its flow. -/
  position : Nat
  /-- What the step is about. -/
  description : Option String
  /-- Members that only pass through. -/
  metadata : List (String × Json)
  /-- Where the step leads. -/
  next : List FlowLink
  /-- What the step does. -/
  kind : FlowStepKind

namespace FlowStep

/-- The name of what a step does. -/
def label : FlowStepKind → String
  | .action name => name
  | .intent name => "intent_" ++ name
  | .collect slot _ => "collect_" ++ slot
  | .link flow => "link_" ++ flow
  | .setSlots _ => "set_slots"
  | .generate _ => "generate"
  | .branch => "branch"

/-- The name of a step: the one given to it, or its place and what it does. -/
def id (step : FlowStep) : String :=
  step.customId.getD (toString step.position ++ "_" ++ label step.kind)

/-- A member that has to be a string. -/
def readString (position : Nat) (member : String) : Json → Except FlowFault String
  | .string text => .ok text
  | _ => .error (.notAString member position)

/-- A member of an object; other values have none. -/
def member? (value : Json) (name : String) : Option Json :=
  value.object?.bind (Entries.find? name)

/-- Reads one rejection. -/
def readRejection (position : Nat) (value : Json) : Except FlowFault SlotRejection :=
  match member? value "if" with
  | some condition => do
      let condition ← readString position "if" condition
      return ⟨condition, (member? value "utter").bind Json.string?⟩
  | none => .error (.rejectionWithoutCondition position)

/-- Reads the rejections of a step. -/
def readRejections (position : Nat) : Option Json → Except FlowFault (List SlotRejection)
  | none => .ok []
  | some (.array items) => items.mapM (readRejection position)
  | some _ => .error (.rejectionsNotAList position)

/-- Reads one object of assignments. -/
def readAssignments (position : Nat) : Json → Except FlowFault (List (String × Json))
  | .object members => .ok members
  | _ => .error (.assignmentNotAnObject position)

/-- Reads the assignments of a step. -/
def readSetSlots (position : Nat) : Json → Except FlowFault (List (String × Json))
  | .array items => (items.mapM (readAssignments position)).map List.flatten
  | _ => .error (.assignmentsNotAList position)

/-- Reads the target of a link. -/
def readTarget (position : Nat) : Json → Except FlowFault String
  | .string target => .ok target
  | _ => .error (.badTarget position)

/-- Reads one link of a list.  A condition that is no string counts as empty. -/
def readLink (position : Nat) (value : Json) : Except FlowFault FlowLink :=
  match member? value "else", member? value "if", member? value "then" with
  | some target, _, _ => (readTarget position target).map .otherwise
  | none, some condition, some target =>
      (readTarget position target).map (.when (condition.string?.getD ""))
  | _, _, _ => .error (.incompleteLink position)

/-- Reads the links of a step. -/
def readLinks (position : Nat) : Option Json → Except FlowFault (List FlowLink)
  | none => .ok []
  | some .null => .ok []
  | some (.string target) => .ok [.always target]
  | some (.array items) => items.mapM (readLink position)
  | some other => .error (.badLinks position other.compact)

/-- Reads what a step does from its members. -/
def readKind (position : Nat) (members : Entries Json) : Except FlowFault FlowStepKind :=
  match members.find? "action", members.find? "intent", members.find? "collect",
      members.find? "link", members.find? "set_slots", members.find? "generation_prompt" with
  | some action, _, _, _, _, _ => (readString position "action" action).map .action
  | _, some intent, _, _, _, _ => (readString position "intent" intent).map .intent
  | _, _, some slot, _, _, _ => do
      let slot ← readString position "collect" slot
      let rejections ← readRejections position (members.find? "rejections")
      return .collect slot rejections
  | _, _, _, some flow, _, _ => (readString position "link" flow).map .link
  | _, _, _, _, some assignments, _ => (readSetSlots position assignments).map .setSlots
  | _, _, _, _, _, some prompt =>
      (readString position "generation_prompt" prompt).map .generate
  | _, _, _, _, _, _ => .ok .branch

/-- Reads the step at a place. -/
def ofJson (position : Nat) (value : Json) : Except FlowFault FlowStep :=
  match value with
  | .object members => do
      let kind ← readKind position members
      let next ← readLinks position (Entries.find? "next" members)
      return {
        customId := (Entries.find? "id" members).bind Json.string?
        position := position
        description := (Entries.find? "description" members).bind Json.string?
        metadata := ((Entries.find? "metadata" members).bind Json.object?).getD []
        next := next
        kind := kind }
  | _ => .error (.stepNotAnObject position)

end FlowStep

end Dialogue
