import Dialogue.Proofs.Consistency.FirstUse

/-!
# Utterances and responses

What stories use has to be known: actions and forms have to be declared, and utterances
need a response.  Each unknown name is reported once, at its first use.  Responses that
nothing uses are reported too, but not every use counts: an utterance with which a flow
rejects a value is no use, and neither is a response that is not named as an utterance.
-/

namespace Dialogue

namespace Flow

/-- A step of the flows runs an action. -/
def Runs (flows : List Flow) (action : String) : Prop :=
  ∃ flow ∈ flows, ∃ step ∈ flow.steps, step.kind = .action action

/-- A step of the flows asks for its slot with an utterance. -/
def AsksWith (flows : List Flow) (utterance : String) : Prop :=
  ∃ flow ∈ flows, ∃ step ∈ flow.steps, ∃ slot rejections,
    step.kind = .collect slot rejections ∧ utterance = "utter_ask_" ++ slot

/-- A step of the flows rejects a value with an utterance. -/
def RejectsWith (flows : List Flow) (utterance : String) : Prop :=
  ∃ flow ∈ flows, ∃ step ∈ flow.steps, ∃ slot rejections,
    step.kind = .collect slot rejections ∧
      ∃ rejection ∈ rejections, rejection.utterance = some utterance

end Flow

namespace Assistant

/-! ## Names -/

/-- An action has the name of an utterance. -/
def IsUtterance (action : String) : Prop :=
  ∃ rest, action = "utter_" ++ rest

/-- A name up to its first slash. -/
def IsBase (name base : String) : Prop :=
  '/' ∉ base.toList ∧ (name = base ∨ ∃ rest, name = base ++ "/" ++ rest)

theorem isUtterance_iff {action : String} : isUtterance action = true ↔ IsUtterance action := by
  unfold isUtterance IsUtterance
  rw [List.isPrefixOf_iff_prefix]
  constructor
  · rintro ⟨rest, split⟩
    exact ⟨String.ofList rest, String.toList_inj.mp (by simp [← split])⟩
  · rintro ⟨rest, rfl⟩
    rw [String.toList_append]
    exact List.prefix_append _ _

/-- The characters in front of the first slash: all of them if there is none. -/
theorem takeWhile_eq_iff {chars front : List Char} :
    chars.takeWhile (fun char => char != '/') = front ↔
      '/' ∉ front ∧ (chars = front ∨ ∃ rest, chars = front ++ '/' :: rest) := by
  induction chars generalizing front with
  | nil => cases front <;> simp
  | cons char chars ih =>
      by_cases slash : char = '/'
      · rw [List.takeWhile_cons_of_neg (by simp [slash]), slash]
        cases front with
        | nil => simp
        | cons first front => simp +contextual [eq_comm]
      · rw [List.takeWhile_cons_of_pos (by simp [slash])]
        cases front with
        | nil => simp [slash]
        | cons first front =>
            by_cases same : char = first
            · simp [← same, ih, Ne.symm slash]
            · simp [same]

theorem isBase_iff {name base : String} : baseResponse name = base ↔ IsBase name base := by
  unfold baseResponse IsBase
  rw [← String.toList_inj, String.toList_ofList, takeWhile_eq_iff, String.toList_inj]
  apply and_congr_right
  intro _
  apply or_congr_right
  constructor
  · rintro ⟨rest, split⟩
    exact ⟨String.ofList rest, String.toList_inj.mp (by simp [split])⟩
  · rintro ⟨rest, rfl⟩
    exact ⟨rest.toList, by simp⟩

/-! ## What the check collects -/

variable (assistant : Assistant)

/-- A response has the name, up to its first slash. -/
def Responds (base : String) : Prop :=
  ∃ name ∈ assistant.domain.responses.keys, IsBase name base

/-- A story runs an action. -/
def Tells (action : String) : Prop :=
  StoryGraph.Told Event.Executes assistant.stories.events action

variable {assistant}

theorem mem_keys_responses_iff {base : String} :
    base ∈ assistant.responses.keys ↔ assistant.Responds base := by
  unfold responses Responds
  rw [NameSet.mem_keys_ofNames_iff, List.mem_map]
  simp only [isBase_iff]

theorem mem_keys_storyUtterances_iff {action : String} :
    action ∈ assistant.storyUtterances.keys ↔ assistant.Tells action ∧ IsUtterance action := by
  unfold storyUtterances Tells
  rw [NameSet.mem_keys_ofNames_iff, List.mem_filter, StoryGraph.map_name_uses,
    StoryGraph.mem_filterMap_iff_told Event.actionName?_eq_some_iff, isUtterance_iff]

/-- A step says the utterance that it runs, or the question for its slot. -/
theorem stepUtterance?_eq_some_iff {step : FlowStep} {utterance : String} :
    stepUtterance? step = some utterance ↔
      (step.kind = .action utterance ∧ IsUtterance utterance) ∨
        ∃ slot rejections, step.kind = .collect slot rejections ∧
          utterance = "utter_ask_" ++ slot := by
  unfold stepUtterance?
  rw [← isUtterance_iff]
  cases step.kind with
  | action name =>
      dsimp only
      rw [Option.ite_none_right_eq_some]
      constructor
      · rintro ⟨named, same⟩
        obtain rfl := Option.some.inj same
        exact .inl ⟨rfl, named⟩
      · rintro (⟨same, named⟩ | ⟨slot, rejections, same, _⟩)
        · obtain rfl := FlowStepKind.action.inj same
          exact ⟨named, rfl⟩
        · cases same
  | collect slot rejections =>
      constructor
      · intro asked
        exact .inr ⟨slot, rejections, rfl, (Option.some.inj asked).symm⟩
      · rintro (⟨same, _⟩ | ⟨other, others, same, rfl⟩)
        · cases same
        · obtain ⟨rfl, rfl⟩ := FlowStepKind.collect.inj same
          rfl
  | _ => simp

theorem mem_keys_flowUtterances_iff {utterance : String} :
    utterance ∈ assistant.flowUtterances.keys ↔
      (Flow.Runs assistant.flows utterance ∧ IsUtterance utterance) ∨
        Flow.AsksWith assistant.flows utterance := by
  unfold flowUtterances
  rw [NameSet.mem_keys_ofNames_iff, List.mem_filterMap]
  simp only [stepUtterance?_eq_some_iff, List.mem_flatMap]
  constructor
  · rintro ⟨step, ⟨flow, isFlow, isStep⟩, ⟨runs, named⟩ | asks⟩
    · exact .inl ⟨⟨flow, isFlow, step, isStep, runs⟩, named⟩
    · exact .inr ⟨flow, isFlow, step, isStep, asks⟩
  · rintro (⟨⟨flow, isFlow, step, isStep, runs⟩, named⟩ | ⟨flow, isFlow, step, isStep, asks⟩)
    · exact ⟨step, ⟨flow, isFlow, isStep⟩, .inl ⟨runs, named⟩⟩
    · exact ⟨step, ⟨flow, isFlow, isStep⟩, .inr asks⟩

/-! ## What the check reports -/

variable {ignoreWarnings : Bool}

/-- No complaint about utterances is made twice. -/
theorem nodup_warnings_checkUtterances :
    (assistant.checkUtterances ignoreWarnings).warnings.Nodup := by
  unfold checkUtterances
  apply List.nodup_append.mpr
  constructor
  · exact ((Table.nodup_keys _).filter _).map fun _ _ => Warning.missingResponse.inj
  · constructor
    · exact ((Table.nodup_keys _).filter _).map fun _ _ => Warning.unusedResponse.inj
    · intro missing isMissing unused isUnused
      obtain ⟨action, _, rfl⟩ := List.mem_map.mp isMissing
      obtain ⟨response, _, rfl⟩ := List.mem_map.mp isUnused
      exact Warning.noConfusion

theorem missingResponse_mem_iff {action : String} :
    .missingResponse action ∈ (assistant.checkUtterances ignoreWarnings).warnings ↔
      (assistant.Tells action ∧ IsUtterance action) ∧ ¬assistant.Responds action := by
  unfold checkUtterances
  rw [← mem_keys_storyUtterances_iff, ← mem_keys_responses_iff]
  simp [← Table.contains_eq_true_iff]

theorem unusedResponse_mem_iff {response : String} :
    .unusedResponse response ∈ (assistant.checkUtterances ignoreWarnings).warnings ↔
      assistant.Responds response ∧ ¬(assistant.Tells response ∧ IsUtterance response) ∧
        ¬((Flow.Runs assistant.flows response ∧ IsUtterance response) ∨
          Flow.AsksWith assistant.flows response) := by
  unfold checkUtterances
  rw [← mem_keys_storyUtterances_iff, ← mem_keys_flowUtterances_iff, ← mem_keys_responses_iff]
  simp [← Table.contains_eq_true_iff]

theorem passed_checkUtterances_iff :
    (assistant.checkUtterances false).passed = true ↔
      ∀ action, assistant.Tells action → IsUtterance action → assistant.Responds action := by
  unfold checkUtterances
  simp only [Bool.false_or, List.isEmpty_iff, List.filter_eq_nil_iff, Bool.not_eq_true',
    Bool.not_eq_false, Table.contains_eq_true_iff, mem_keys_storyUtterances_iff,
    mem_keys_responses_iff, and_imp]

/-- Every name that stories use without knowing it is reported once, at its first use: an
action that is neither declared nor one of every assistant, a form that is not declared, and
an utterance without a response.  The checks pass exactly if there is nothing to report. -/
theorem unknown_names_reported_once (assistant : Assistant) :
    (StoryGraph.ListsFirstUses Event.Executes assistant.stories
        (fun action => assistant.domain.hasAction action = false ∧ action ∉ defaultActions)
        assistant.unknownActions ∧
      (assistant.checkActions.passed = true ↔ assistant.unknownActions = [])) ∧
    (StoryGraph.ListsFirstUses Event.Activates assistant.stories
        (fun form => assistant.domain.form? form = none) assistant.unknownForms ∧
      (assistant.checkForms.passed = true ↔ assistant.unknownForms = [])) ∧
    ((assistant.checkUtterances false).passed = true ↔
      ∀ action, assistant.Tells action → IsUtterance action → assistant.Responds action) ∧
    (assistant.checkUtterances false).warnings.Nodup ∧
    ∀ action, .missingResponse action ∈ (assistant.checkUtterances false).warnings ↔
      (assistant.Tells action ∧ IsUtterance action) ∧ ¬assistant.Responds action := by
  constructor
  · exact ⟨assistant.listsFirstUses_unknownActions, List.isEmpty_iff⟩
  · constructor
    · exact ⟨assistant.listsFirstUses_unknownForms, List.isEmpty_iff⟩
    · exact ⟨passed_checkUtterances_iff, nodup_warnings_checkUtterances,
        fun _ => missingResponse_mem_iff⟩

example :
    let stories : StoryGraph := { steps := [
      { blockName := "greet", events := [Event.listen, Event.action "action_lookup"] },
      { blockName := "leave", events := [Event.action "action_lookup",
        Event.action "action_restart", Event.action "action_survey"] }] }
    Assistant.unknownActions ⟨Domain.empty, stories, []⟩ =
      [⟨"greet", "action_lookup"⟩, ⟨"leave", "action_survey"⟩] := by
  decide

/-! ## Responses that nothing uses -/

/-- Nothing in stories and flows uses an utterance. -/
structure Unused (assistant : Assistant) (utterance : String) : Prop where
  /-- No story runs it. -/
  untold : ¬assistant.Tells utterance
  /-- No step of a flow runs it. -/
  unrun : ¬Flow.Runs assistant.flows utterance
  /-- No step of a flow asks for its slot with it. -/
  unasked : ¬Flow.AsksWith assistant.flows utterance
  /-- No step of a flow rejects a value with it. -/
  unrejected : ¬Flow.RejectsWith assistant.flows utterance

/-- The question for a slot is an utterance. -/
theorem isUtterance_of_asksWith {flows : List Flow} {utterance : String}
    (asks : Flow.AsksWith flows utterance) : IsUtterance utterance := by
  obtain ⟨flow, _, step, _, slot, rejections, _, rfl⟩ := asks
  exact ⟨"ask_" ++ slot, String.toList_inj.mp (by simp)⟩

/-- A response is reported as unused exactly if no step asks with it and, unless it is not
named as an utterance, neither a story nor a step runs it.  So an utterance with which no
step rejects a value is reported exactly if nothing uses it. -/
theorem unusedResponse_exact (assistant : Assistant) (ignoreWarnings : Bool)
    (response : String) :
    (.unusedResponse response ∈ (assistant.checkUtterances ignoreWarnings).warnings ↔
      assistant.Responds response ∧ (IsUtterance response →
        ¬assistant.Tells response ∧ ¬Flow.Runs assistant.flows response ∧
          ¬Flow.AsksWith assistant.flows response)) ∧
    (IsUtterance response → ¬Flow.RejectsWith assistant.flows response →
      (.unusedResponse response ∈ (assistant.checkUtterances ignoreWarnings).warnings ↔
        assistant.Responds response ∧ assistant.Unused response)) := by
  have exactly : .unusedResponse response ∈ (assistant.checkUtterances ignoreWarnings).warnings ↔
      assistant.Responds response ∧ (IsUtterance response →
        ¬assistant.Tells response ∧ ¬Flow.Runs assistant.flows response ∧
          ¬Flow.AsksWith assistant.flows response) := by
    rw [unusedResponse_mem_iff]
    have named : Flow.AsksWith assistant.flows response → IsUtterance response :=
      isUtterance_of_asksWith
    tauto
  constructor
  · exact exactly
  · intro named unrejected
    rw [exactly]
    constructor
    · rintro ⟨responds, unused⟩
      obtain ⟨untold, unrun, unasked⟩ := unused named
      exact ⟨responds, untold, unrun, unasked, unrejected⟩
    · rintro ⟨responds, unused⟩
      exact ⟨responds, fun _ => ⟨unused.untold, unused.unrun, unused.unasked⟩⟩

/-- A flow asks for an amount and rejects a large one.  A farewell that nothing says is
reported, and the question for the amount is not. -/
theorem unusedResponse_exact_of_farewell :
    let collects : FlowStep := {
      customId := none, position := 0, description := none, metadata := [], next := []
      kind := .collect "amount" [⟨"slots.amount > 1000", some "utter_too_much"⟩] }
    let assistant : Assistant := {
      domain := (Domain.empty.withResponse "utter_bye" []).withResponse "utter_ask_amount" []
      stories := {}
      flows := [{ id := "transfer", name := "transfer", description := none, steps := [collects] }] }
    IsUtterance "utter_bye" ∧ ¬Flow.RejectsWith assistant.flows "utter_bye" ∧
      assistant.Unused "utter_bye" ∧
      .unusedResponse "utter_bye" ∈ (assistant.checkUtterances false).warnings ∧
      .unusedResponse "utter_ask_amount" ∉ (assistant.checkUtterances false).warnings := by
  intro collects assistant
  have named : IsUtterance "utter_bye" := ⟨"bye", rfl⟩
  have unrejected : ¬Flow.RejectsWith assistant.flows "utter_bye" := by
    simp [Flow.RejectsWith, assistant, collects]
  have unused : assistant.Unused "utter_bye" := by
    constructor
    · simp [Tells, StoryGraph.Told, StoryGraph.events, assistant]
    · simp [Flow.Runs, assistant, collects]
    · simp [Flow.AsksWith, assistant, collects]
    · exact unrejected
  have responds : assistant.Responds "utter_bye" :=
    ⟨"utter_bye", by decide, by decide, .inl rfl⟩
  refine ⟨named, unrejected, unused, ?_, ?_⟩
  · exact ((unusedResponse_exact assistant false "utter_bye").2 named unrejected).mpr
      ⟨responds, unused⟩
  · intro reported
    have asks : Flow.AsksWith assistant.flows "utter_ask_amount" := by
      simp [Flow.AsksWith, assistant, collects]
    have unused := ((unusedResponse_exact assistant false "utter_ask_amount").1.mp reported).2
    exact (unused ⟨"ask_amount", rfl⟩).2.2 asks

/-- A response with which a flow rejects a large amount is reported as unused, and so is one
that a story runs but that is not named as an utterance. -/
theorem unusedResponse_in_use :
    let collects : FlowStep := {
      customId := none, position := 0, description := none, metadata := [], next := []
      kind := .collect "amount" [⟨"slots.amount > 1000", some "utter_too_much"⟩] }
    let rejecting : Assistant := {
      domain := Domain.empty.withResponse "utter_too_much" []
      stories := {}
      flows := [{ id := "transfer", name := "transfer", description := none, steps := [collects] }] }
    let greeting : Assistant := {
      domain := Domain.empty.withResponse "hello" []
      stories := { steps := [{ blockName := "greet", events := [Event.action "hello"] }] }
      flows := [] }
    (.unusedResponse "utter_too_much" ∈ (rejecting.checkUtterances false).warnings ∧
      ¬rejecting.Unused "utter_too_much") ∧
    .unusedResponse "hello" ∈ (greeting.checkUtterances false).warnings ∧
      ¬greeting.Unused "hello" := by
  intro collects rejecting greeting
  constructor
  · have responds : rejecting.Responds "utter_too_much" :=
      ⟨"utter_too_much", by decide, by decide, .inl rfl⟩
    have untold : ¬rejecting.Tells "utter_too_much" := by
      simp [Tells, StoryGraph.Told, StoryGraph.events, rejecting]
    have unrun : ¬Flow.Runs rejecting.flows "utter_too_much" := by
      simp [Flow.Runs, rejecting, collects]
    have unasked : ¬Flow.AsksWith rejecting.flows "utter_too_much" := by
      simp [Flow.AsksWith, rejecting, collects]
    have rejects : Flow.RejectsWith rejecting.flows "utter_too_much" := by
      simp [Flow.RejectsWith, rejecting, collects]
    constructor
    · rw [unusedResponse_mem_iff]
      exact ⟨responds, fun told => untold told.1, by simp [unrun, unasked]⟩
    · exact fun unused => unused.unrejected rejects
  · have responds : greeting.Responds "hello" := ⟨"hello", by decide, by decide, .inl rfl⟩
    have unnamed : ¬IsUtterance "hello" := by
      rw [← isUtterance_iff]
      decide
    have told : greeting.Tells "hello" :=
      ⟨Event.action "hello", List.mem_cons_self, none, none, rfl⟩
    constructor
    · rw [unusedResponse_mem_iff]
      exact ⟨responds, fun told => unnamed told.2, by simp [unnamed, Flow.AsksWith, greeting]⟩
    · exact fun unused => unused.untold told

end Assistant

end Dialogue
