import Dialogue.Consistency.Warning
import Dialogue.Flow.Validation

/-!
# Consistency checks

An assistant is consistent when its stories and flows use what the domain declares.
Each check gives its warnings and whether it passed; some warnings do not make a
check fail, and some checks can be told to pass in spite of their warnings.
-/

namespace Dialogue

/-- Actions that every assistant has. -/
def defaultActions : List String := [
  listenAction,
  "action_restart",
  "action_session_start",
  "action_default_fallback",
  "action_deactivate_loop",
  "action_revert_fallback_events",
  "action_default_ask_affirmation",
  "action_default_ask_rephrase",
  "action_two_stage_fallback",
  "action_unlikely_intent",
  "action_back",
  "action_extract_slots"]

/-- Intents that every assistant has. -/
def defaultIntents : List String :=
  ["restart", "back", "out_of_scope", "session_start", "nlu_fallback"]

/-- What a check found. -/
structure CheckResult where
  /-- Whether the check passed. -/
  passed : Bool
  /-- What it complains about. -/
  warnings : List Warning

/-- A name with the story that uses it. -/
structure StoryUse where
  /-- The block of the story. -/
  story : String
  /-- The name. -/
  name : String
deriving DecidableEq

/-- The uses of names that have not been used before. -/
def firstUses (seen : NameSet) : List StoryUse → List StoryUse
  | [] => []
  | use :: rest =>
      if seen.contains use.name then firstUses seen rest
      else use :: firstUses (seen.add use.name) rest

namespace StoryGraph

/-- The names that some events of the stories use, in order. -/
def uses (graph : StoryGraph) (name? : Event → Option String) : List StoryUse :=
  graph.steps.flatMap fun step =>
    (step.events.filterMap name?).map fun name => ⟨step.blockName, name⟩

/-- The first use of every name that is not known. -/
def unknownUses (graph : StoryGraph) (name? : Event → Option String)
    (isKnown : String → Bool) : List StoryUse :=
  (firstUses Table.empty (graph.uses name?)).filter fun use => !isKnown use.name

end StoryGraph

namespace Event

/-- The intent of an uttered message. -/
def intentName? (event : Event) : Option String :=
  event.message?.bind UserMessage.intentName

/-- The form that is activated. -/
def activatedForm? (event : Event) : Option String :=
  match event.change with
  | .formActivated name => some name
  | _ => none

end Event

/-- What is checked. -/
structure Assistant where
  /-- The declarations. -/
  domain : Domain
  /-- The stories. -/
  stories : StoryGraph
  /-- The flows. -/
  flows : List Flow

namespace Assistant

/-- Intents of stories have to be declared; declared intents that no story uses are
only reported. -/
def checkIntents (assistant : Assistant) (ignoreWarnings : Bool) : CheckResult :=
  let unknown := assistant.stories.unknownUses Event.intentName?
    assistant.domain.intents.contains
  let used := NameSet.ofNames ((assistant.stories.uses Event.intentName?).map StoryUse.name)
  let unused := assistant.domain.intents.keys.filter fun intent =>
    !used.contains intent && !defaultIntents.contains intent
  { passed := ignoreWarnings || unknown.isEmpty
    warnings := unknown.map (fun use => .unknownIntent use.story use.name)
      ++ unused.map .unusedIntent }

/-- The undeclared actions of stories with their first uses. -/
def unknownActions (assistant : Assistant) : List StoryUse :=
  assistant.stories.unknownUses Event.actionName? fun action =>
    assistant.domain.hasAction action || defaultActions.contains action

/-- Actions of stories have to be declared. -/
def checkActions (assistant : Assistant) : CheckResult where
  passed := assistant.unknownActions.isEmpty
  warnings := assistant.unknownActions.map fun use => .unknownAction use.story use.name

/-- The undeclared forms of stories with their first uses. -/
def unknownForms (assistant : Assistant) : List StoryUse :=
  assistant.stories.unknownUses Event.activatedForm? fun form =>
    (assistant.domain.form? form).isSome

/-- Forms that stories activate have to be declared. -/
def checkForms (assistant : Assistant) : CheckResult where
  passed := assistant.unknownForms.isEmpty
  warnings := assistant.unknownForms.map fun use => .unknownForm use.story use.name

/-- Whether an action says a response. -/
def isUtterance (action : String) : Bool :=
  "utter_".toList.isPrefixOf action.toList

/-- The name of a response up to its first slash. -/
def baseResponse (name : String) : String :=
  String.ofList (name.toList.takeWhile fun char => char != '/')

/-- The responses without what follows a slash. -/
def responses (assistant : Assistant) : NameSet :=
  NameSet.ofNames (assistant.domain.responses.keys.map baseResponse)

/-- The utterances of stories. -/
def storyUtterances (assistant : Assistant) : NameSet :=
  NameSet.ofNames
    (((assistant.stories.uses Event.actionName?).map StoryUse.name).filter isUtterance)

/-- The utterance of a flow step: the one it runs, or the question for its slot. -/
def stepUtterance? (step : FlowStep) : Option String :=
  match step.kind with
  | .action name => if isUtterance name then some name else none
  | .collect slot _ => some ("utter_ask_" ++ slot)
  | _ => none

/-- The utterances of flows. -/
def flowUtterances (assistant : Assistant) : NameSet :=
  NameSet.ofNames ((assistant.flows.flatMap Flow.steps).filterMap stepUtterance?)

/-- Utterances of stories need a response; responses that neither stories nor flows
use are only reported. -/
def checkUtterances (assistant : Assistant) (ignoreWarnings : Bool) : CheckResult :=
  let responses := assistant.responses
  let inStories := assistant.storyUtterances
  let inFlows := assistant.flowUtterances
  let missing := inStories.keys.filter fun action => !responses.contains action
  let unused := responses.keys.filter fun response =>
    !inStories.contains response && !inFlows.contains response
  { passed := ignoreWarnings || missing.isEmpty
    warnings := missing.map .missingResponse ++ unused.map .unusedResponse }

/-- The slots that a form names, required ones first. -/
def formReferences (form : FormSpec) : List String :=
  form.requiredSlots ++ form.slotMappings.keys

/-- The undeclared slots that forms name, one warning for each naming. -/
def undeclaredSlots (assistant : Assistant) : List Warning :=
  assistant.domain.forms.values.flatMap fun form =>
    ((formReferences form).filter fun slot => (assistant.domain.slot? slot).isNone).map
      (.undeclaredSlot form.name)

/-- Slots that forms name have to be declared. -/
def checkFormSlots (assistant : Assistant) : CheckResult where
  passed := assistant.undeclaredSlots.isEmpty
  warnings := assistant.undeclaredSlots

/-- Stories must not contradict each other. -/
def checkStructure (assistant : Assistant) (ignoreWarnings : Bool) (maxHistory : Option Nat) :
    CheckResult :=
  let conflicts :=
    storyConflicts (assistant.stories.trackers assistant.domain) assistant.domain maxHistory
  { passed := ignoreWarnings || conflicts.isEmpty
    warnings := assistant.stories.warnings assistant.domain ++ conflicts.map .conflict }

/-- All checks of stories. -/
def storyChecks (assistant : Assistant) (ignoreWarnings : Bool) (maxHistory : Option Nat) :
    List CheckResult := [
  assistant.checkIntents ignoreWarnings,
  assistant.checkActions,
  assistant.checkUtterances ignoreWarnings,
  assistant.checkForms,
  assistant.checkFormSlots,
  assistant.checkStructure ignoreWarnings maxHistory]

/-- Whether all checks of stories pass. -/
def checkAll (assistant : Assistant) (ignoreWarnings : Bool) (maxHistory : Option Nat) : Bool :=
  (assistant.storyChecks ignoreWarnings maxHistory).all CheckResult.passed

/-- Flows have to be valid; that there are none is only reported. -/
def checkFlows (assistant : Assistant) : Except FlowError Unit × List Warning :=
  if assistant.flows.isEmpty then (.ok (), [.noFlows])
  else (Flow.validate assistant.flows assistant.domain, [])

end Assistant

end Dialogue
