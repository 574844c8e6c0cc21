import Dialogue.Domain.Basic
import Dialogue.Flow.Basic
import Dialogue.Flow.Condition

/-!
# Validation of flows

Names and descriptions have to be unique among all flows.  Then, flow by flow, links
have to lead to existing steps and flows, slots and actions have to be declared, and
conditions have to be such that they can be evaluated.  The first fault found is the
answer.
-/

namespace Dialogue

namespace Text

/-- Whether a character is an ASCII punctuation mark. -/
def isPunctuation (char : Char) : Bool :=
  ('!' ≤ char && char ≤ '/') || (':' ≤ char && char ≤ '@') || ('[' ≤ char && char ≤ '\x60')
    || ('\x7b' ≤ char && char ≤ '~')

/-- A text without its punctuation marks. -/
def withoutPunctuation (text : String) : String :=
  String.ofList (text.toList.filter fun char => !isPunctuation char)

end Text

namespace Flow

/-- What is known of the flows before one: their names and bare descriptions. -/
structure Seen where
  /-- The names. -/
  names : NameSet := Table.empty
  /-- The descriptions without punctuation. -/
  descriptions : NameSet := Table.empty

/-- Notes the description of a flow, if it is new. -/
def Seen.addDescription (seen : Seen) (flow : Flow) : Except FlowError Seen :=
  match flow.description with
  | some description =>
      let bare := Text.withoutPunctuation description
      if seen.descriptions.contains bare then .error (.duplicateDescription flow.name)
      else .ok { seen with descriptions := seen.descriptions.add bare }
  | none => .ok seen

/-- Notes the name of a flow, if it is new. -/
def Seen.addName (seen : Seen) (flow : Flow) : Except FlowError Seen :=
  if seen.names.contains flow.name then .error (.duplicateName flow.name)
  else .ok { seen with names := seen.names.add flow.name }

/-- Checks that names and descriptions are unique. -/
def verifyUnique (flows : List Flow) : Except FlowError Unit := do
  let _ ← flows.foldlM (fun (seen : Seen) flow => do
    let seen ← seen.addDescription flow
    seen.addName flow) {}
  return ()

/-- The first target of a step that does not exist: of its links, then of the step
itself if it goes on with another flow. -/
def unknownTarget? (flows : List Flow) (flow : Flow) (step : FlowStep) : Option String :=
  let link := (step.next.map FlowLink.target).find? fun target =>
    target != endStep && !flow.stepIds.contains target
  match link, step.kind with
  | some target, _ => some target
  | none, .link linked => if (find? flows linked).isNone then some linked else none
  | none, _ => none

/-- Fails at the first step that has a fault. -/
def verifySteps (flow : Flow) (fault? : FlowStep → Option FlowError) : Except FlowError Unit :=
  match flow.steps.findSome? fault? with
  | some error => .error error
  | none => .ok ()

/-- Checks that links lead to existing steps and flows. -/
def verifyLinks (flows : List Flow) (flow : Flow) : Except FlowError Unit :=
  flow.verifySteps fun step =>
    (unknownTarget? flows flow step).map fun target => .unknownTarget target step.id flow.id

/-- Whether a slot is not declared. -/
def isUnknownSlot (domain : Domain) (slot : String) : Bool :=
  (domain.slot? slot).isNone

/-- What a step uses that the domain does not declare. -/
def undeclared? (domain : Domain) (flow : Flow) (step : FlowStep) : Option FlowError :=
  match step.kind with
  | .collect slot _ =>
      if isUnknownSlot domain slot then some (.unknownSlot slot step.id flow.id) else none
  | .setSlots assignments =>
      ((assignments.map Prod.fst).find? (isUnknownSlot domain)).map fun slot =>
        .unknownSlot slot step.id flow.id
  | .action name =>
      if domain.hasAction name then none else some (.unknownAction name step.id flow.id)
  | _ => none

/-- Checks that slots and actions are declared. -/
def verifyDeclared (domain : Domain) (flow : Flow) : Except FlowError Unit :=
  flow.verifySteps (undeclared? domain flow)

/-- The conditions of a step: of its links, then of its rejections. -/
def conditions (step : FlowStep) : List String :=
  step.next.filterMap FlowLink.condition?
    ++ match step.kind with
      | .collect _ rejections => rejections.map SlotRejection.condition
      | _ => []

/-- Checks that conditions can be evaluated. -/
def verifyConditions (flow : Flow) : Except FlowError Unit :=
  flow.verifySteps fun step =>
    ((conditions step).find? fun condition => !Condition.isValid condition).map fun condition =>
      .invalidCondition condition step.id flow.id

/-- Checks one flow among all flows. -/
def verify (flows : List Flow) (domain : Domain) (flow : Flow) : Except FlowError Unit := do
  verifyLinks flows flow
  verifyDeclared domain flow
  verifyConditions flow

/-- Checks all flows. -/
def validate (flows : List Flow) (domain : Domain) : Except FlowError Unit := do
  verifyUnique flows
  flows.forM (verify flows domain)

end Flow

end Dialogue
