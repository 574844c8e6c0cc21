import Dialogue.Flow.Step

/-!
# Flows

A flow is a named process of linked steps.  Flows are read from an object that lists
them by their ids, or from one that holds such an object under `flows`.
-/

namespace Dialogue

/-- A process of linked steps. -/
structure Flow where
  /-- What other flows call it by. -/
  id : String
  /-- The name it is known under. -/
  name : String
  /-- What it is about. -/
  description : Option String
  /-- Its steps in order. -/
  steps : List FlowStep

namespace Flow

/-- The names of the steps. -/
def stepIds (flow : Flow) : List String :=
  flow.steps.map FlowStep.id

/-- Reads the steps of a list. -/
def readSteps (items : List Json) : Except FlowFault (List FlowStep) :=
  items.zipIdx.mapM fun (item, position) => FlowStep.ofJson position item

/-- Reads the flow with an id; its name is its id unless it has another. -/
def ofJson (id : String) (value : Json) : Except FlowFault Flow :=
  match (FlowStep.member? value "steps").bind Json.array? with
  | some items => do
      let steps ← readSteps items
      return {
        id := id
        name := ((FlowStep.member? value "name").bind Json.string?).getD id
        description := (FlowStep.member? value "description").bind Json.string?
        steps := steps }
  | none => .error (.withoutSteps id)

/-- Reads all flows, in the order of their ids. -/
def listOfJson (value : Json) : Except FlowError (List Flow) :=
  match (FlowStep.member? value "flows").getD value with
  | .object members =>
      (members.mapM fun (id, flow) => ofJson id flow).mapError .format
  | _ => .error (.format .notAMapping)

/-- The flow with an id. -/
def find? (flows : List Flow) (id : String) : Option Flow :=
  flows.find? fun flow => flow.id == id

end Flow

end Dialogue
