import Dialogue.Flow.Validation
import Dialogue.Proofs.Domain.Built

/-!
# What the validation of flows accepts

`Flow.validate` accepts exactly the flows with unique names and descriptions in which
every step obeys the rules for links, declarations and conditions.  An error names a flow
that repeats an earlier one, or the first flow with a step that breaks a rule, and that
step.  In flows that were accepted, links never lead out of the flow.
-/

namespace Dialogue

/-! ## The rules -/

/-- The punctuation marks of ASCII. -/
def Text.punctuation : String := "!\"#$%&'()*+,-./:;<=>?@[\\]^_\x60\x7b|\x7d~"

/-- What a text consists of besides punctuation, in order. -/
def Text.bare (text : String) : List Char :=
  text.toList.filter fun char => char ∉ punctuation.toList

/-- The descriptions of flows, without punctuation. -/
def Flow.bareDescriptions (flows : List Flow) : List (List Char) :=
  (flows.filterMap Flow.description).map Text.bare

/-- No two flows have the same name, and no two have descriptions that differ in
punctuation only. -/
structure Flow.Distinct (flows : List Flow) : Prop where
  /-- The names are different. -/
  names : (flows.map Flow.name).Nodup
  /-- The descriptions that there are remain different without punctuation. -/
  descriptions : (Flow.bareDescriptions flows).Nodup

/-- A flow repeats an earlier one, and the error names it. -/
inductive Flow.Repeats (flows : List Flow) : FlowError → Prop where
  | name {before after : List Flow} {flow earlier : Flow}
      (split : flows = before ++ flow :: after) (member : earlier ∈ before)
      (same : earlier.name = flow.name) : Repeats flows (.duplicateName flow.name)
  | description {before after : List Flow} {flow earlier : Flow} {description other : String}
      (split : flows = before ++ flow :: after) (member : earlier ∈ before)
      (described : flow.description = some description)
      (otherwise : earlier.description = some other)
      (same : Text.bare other = Text.bare description) :
      Repeats flows (.duplicateDescription flow.name)

namespace Text

theorem toNat_lt_of_isPunctuation {char : Char} (isMark : isPunctuation char = true) :
    char.toNat < 128 := by
  simp only [isPunctuation, Bool.or_eq_true, Bool.and_eq_true, decide_eq_true_eq, Char.le_def,
    UInt32.le_iff_toNat_le] at isMark
  unfold Char.toNat
  rcases isMark with ((untilSlash | untilAt) | untilGrave) | untilTilde
  · exact lt_of_le_of_lt untilSlash.2 (by decide)
  · exact lt_of_le_of_lt untilAt.2 (by decide)
  · exact lt_of_le_of_lt untilGrave.2 (by decide)
  · exact lt_of_le_of_lt untilTilde.2 (by decide)

theorem toNat_lt_of_mem_punctuation : ∀ char ∈ punctuation.toList, char.toNat < 128 := by
  simp [punctuation]

/-- The ranges that are tested hold the listed marks and nothing else. -/
theorem isPunctuation_iff {char : Char} :
    isPunctuation char = true ↔ char ∈ punctuation.toList := by
  have ascii : ∀ code < 128,
      isPunctuation (Char.ofNat code) = true ↔ Char.ofNat code ∈ punctuation.toList := by
    decide +kernel
  by_cases inside : char.toNat < 128
  · have known := ascii char.toNat inside
    rwa [Char.ofNat_toNat] at known
  · exact iff_of_false (mt toNat_lt_of_isPunctuation inside)
      (mt (toNat_lt_of_mem_punctuation char) inside)

@[simp]
theorem toList_withoutPunctuation (text : String) :
    (withoutPunctuation text).toList = bare text := by
  unfold withoutPunctuation bare
  rw [String.toList_ofList]
  apply List.filter_congr
  intro char _
  rw [Bool.eq_iff_iff]
  simp [← isPunctuation_iff]

end Text

namespace FlowStep

variable (flows : List Flow) (domain : Domain) (flow : Flow)

/-- A step of a flow obeys the rules. -/
structure Obeys (step : FlowStep) : Prop where
  /-- Its links lead to steps of the flow, or end it. -/
  targets : ∀ link ∈ step.next, link.target = endStep ∨ link.target ∈ flow.stepIds
  /-- The flow that it goes on with exists. -/
  linked : ∀ id, step.kind = .link id → ∃ other ∈ flows, other.id = id
  /-- The slot that it collects is declared. -/
  collected : ∀ slot rejections, step.kind = .collect slot rejections →
    slot ∈ domain.slotNames
  /-- The slots that it sets are declared. -/
  assigned : ∀ assignments, step.kind = .setSlots assignments →
    ∀ slot ∈ assignments.map Prod.fst, slot ∈ domain.slotNames
  /-- The action that it runs is declared. -/
  acted : ∀ action, step.kind = .action action → action ∈ domain.actions.keys
  /-- The conditions of its links can be evaluated. -/
  conditions : ∀ condition target, .when condition target ∈ step.next →
    Condition.isValid condition = true
  /-- The conditions of its rejections can be evaluated. -/
  rejections : ∀ slot rejections, step.kind = .collect slot rejections →
    ∀ rejection ∈ rejections, Condition.isValid rejection.condition = true

/-- A step of a flow breaks a rule, and the error names the step and the flow. -/
inductive Breaks (step : FlowStep) : FlowError → Prop where
  | target {link : FlowLink} (member : link ∈ step.next) (goesOn : link.target ≠ endStep)
      (missing : link.target ∉ flow.stepIds) :
      Breaks step (.unknownTarget link.target step.id flow.id)
  | linked {id : String} (kind : step.kind = .link id) (missing : ∀ other ∈ flows, other.id ≠ id) :
      Breaks step (.unknownTarget id step.id flow.id)
  | collected {slot : String} {rejections : List SlotRejection}
      (kind : step.kind = .collect slot rejections) (undeclared : slot ∉ domain.slotNames) :
      Breaks step (.unknownSlot slot step.id flow.id)
  | assigned {slot : String} {assignments : List (String × Json)}
      (kind : step.kind = .setSlots assignments) (member : slot ∈ assignments.map Prod.fst)
      (undeclared : slot ∉ domain.slotNames) : Breaks step (.unknownSlot slot step.id flow.id)
  | acted {action : String} (kind : step.kind = .action action)
      (undeclared : action ∉ domain.actions.keys) :
      Breaks step (.unknownAction action step.id flow.id)
  | condition {condition target : String} (member : .when condition target ∈ step.next)
      (invalid : Condition.isValid condition = false) :
      Breaks step (.invalidCondition condition step.id flow.id)
  | rejection {slot : String} {rejections : List SlotRejection} {rejection : SlotRejection}
      (kind : step.kind = .collect slot rejections) (member : rejection ∈ rejections)
      (invalid : Condition.isValid rejection.condition = false) :
      Breaks step (.invalidCondition rejection.condition step.id flow.id)

variable {flows domain flow} {step : FlowStep}

/-- A step does not break the rules that it obeys. -/
theorem Obeys.not_breaks (obeys : step.Obeys flows domain flow) (error : FlowError) :
    ¬step.Breaks flows domain flow error := by
  intro breaks
  cases breaks with
  | @target link member goesOn missing =>
      rcases obeys.targets link member with ends | known
      · exact goesOn ends
      · exact missing known
  | linked kind missing =>
      obtain ⟨other, member, same⟩ := obeys.linked _ kind
      exact missing other member same
  | collected kind undeclared => exact undeclared (obeys.collected _ _ kind)
  | assigned kind member undeclared => exact undeclared (obeys.assigned _ kind _ member)
  | acted kind undeclared => exact undeclared (obeys.acted _ kind)
  | condition member invalid =>
      rw [obeys.conditions _ _ member] at invalid
      cases invalid
  | rejection kind member invalid =>
      rw [obeys.rejections _ _ kind _ member] at invalid
      cases invalid

end FlowStep

namespace Flow

/-- All steps of a flow obey the rules. -/
def Obeys (flow : Flow) (flows : List Flow) (domain : Domain) : Prop :=
  ∀ step ∈ flow.steps, step.Obeys flows domain flow

/-! ## One step -/

section Step

variable {flows : List Flow} {domain : Domain} {flow : Flow} {step : FlowStep}

theorem find?_eq_none_iff {id : String} :
    find? flows id = none ↔ ∀ other ∈ flows, other.id ≠ id := by
  unfold find?
  rw [List.find?_eq_none]
  simp

theorem hasAction_iff {action : String} :
    domain.hasAction action = true ↔ action ∈ domain.actions.keys :=
  Table.contains_eq_true_iff

theorem isUnknownSlot_iff {slot : String} :
    isUnknownSlot domain slot = true ↔ slot ∉ domain.slotNames := by
  unfold isUnknownSlot
  rw [← Domain.slot?_isSome_iff]
  simp

/-- A target goes astray that neither ends the flow nor is one of its steps. -/
theorem astray_iff {target : String} :
    (target != endStep && !flow.stepIds.contains target) = true ↔
      target ≠ endStep ∧ target ∉ flow.stepIds := by
  simp

/-- A target that is reported breaks a rule. -/
theorem breaks_of_unknownTarget? {target : String}
    (reported : unknownTarget? flows flow step = some target) :
    step.Breaks flows domain flow (.unknownTarget target step.id flow.id) := by
  unfold unknownTarget? at reported
  dsimp only at reported
  split at reported
  · rename_i found
    cases reported
    obtain ⟨link, member, rfl⟩ := List.mem_map.mp (List.mem_of_find?_eq_some found)
    have astray := List.find?_some found
    obtain ⟨goesOn, missing⟩ := astray_iff.mp astray
    exact .target member goesOn missing
  · rename_i kind
    obtain ⟨missing, equal⟩ := Option.ite_none_right_eq_some.mp reported
    cases equal
    exact .linked kind (find?_eq_none_iff.mp (Option.isNone_iff_eq_none.mp missing))
  · cases reported

/-- Where no target is reported, the links and the linked flow are right. -/
theorem targets_of_unknownTarget? (unreported : unknownTarget? flows flow step = none) :
    (∀ link ∈ step.next, link.target = endStep ∨ link.target ∈ flow.stepIds) ∧
      ∀ id, step.kind = .link id → ∃ other ∈ flows, other.id = id := by
  unfold unknownTarget? at unreported
  cases found : (step.next.map FlowLink.target).find? fun target =>
      target != endStep && !flow.stepIds.contains target with
  | some target =>
      simp only [found] at unreported
      cases unreported
  | none =>
      constructor
      · intro link member
        by_contra astray
        exact List.find?_eq_none.mp found _ (List.mem_map_of_mem member)
          (astray_iff.mpr (not_or.mp astray))
      · intro id kind
        by_contra missing
        have isNone : find? flows id = none :=
          find?_eq_none_iff.mpr fun other member same => missing ⟨other, member, same⟩
        simp only [found, kind, isNone] at unreported
        cases unreported

/-- A use that is reported breaks a rule. -/
theorem breaks_of_undeclared? {error : FlowError}
    (reported : undeclared? domain flow step = some error) :
    step.Breaks flows domain flow error := by
  unfold undeclared? at reported
  split at reported
  · rename_i slot rejections kind
    obtain ⟨unknown, equal⟩ := Option.ite_none_right_eq_some.mp reported
    cases equal
    exact .collected kind (isUnknownSlot_iff.mp unknown)
  · rename_i assignments kind
    obtain ⟨slot, found, rfl⟩ := Option.map_eq_some_iff.mp reported
    exact .assigned kind (List.mem_of_find?_eq_some found)
      (isUnknownSlot_iff.mp (List.find?_some found))
  · rename_i action kind
    split at reported
    · cases reported
    · rename_i unknown
      cases reported
      exact .acted kind (mt hasAction_iff.mpr unknown)
  · cases reported

/-- Where no use is reported, all slots and actions are declared. -/
theorem declared_of_undeclared? (unreported : undeclared? domain flow step = none) :
    (∀ slot rejections, step.kind = .collect slot rejections → slot ∈ domain.slotNames) ∧
      (∀ assignments, step.kind = .setSlots assignments →
        ∀ slot ∈ assignments.map Prod.fst, slot ∈ domain.slotNames) ∧
      ∀ action, step.kind = .action action → action ∈ domain.actions.keys := by
  unfold undeclared? at unreported
  constructor
  · intro slot rejections kind
    by_contra undeclared
    simp [kind, isUnknownSlot_iff.mpr undeclared] at unreported
  · constructor
    · intro assignments kind slot member
      by_contra undeclared
      rw [kind] at unreported
      exact List.find?_eq_none.mp (Option.map_eq_none_iff.mp unreported) slot member
        (isUnknownSlot_iff.mpr undeclared)
    · intro action kind
      by_contra undeclared
      simp [kind, mt hasAction_iff.mp undeclared] at unreported

/-- The conditions of a step are those of its links and of its rejections. -/
theorem mem_conditions_iff {condition : String} :
    condition ∈ conditions step ↔
      (∃ target, .when condition target ∈ step.next) ∨
        ∃ slot rejections, step.kind = .collect slot rejections ∧
          ∃ rejection ∈ rejections, rejection.condition = condition := by
  unfold conditions
  rw [List.mem_append, List.mem_filterMap]
  apply or_congr
  · constructor
    · rintro ⟨link, member, isCondition⟩
      cases link with
      | when held target =>
          cases isCondition
          exact ⟨target, member⟩
      | _ => cases isCondition
    · rintro ⟨target, member⟩
      exact ⟨_, member, rfl⟩
  · cases step.kind <;> simp

/-- A condition that is reported breaks a rule. -/
theorem breaks_of_invalid {condition : String} (member : condition ∈ conditions step)
    (invalid : Condition.isValid condition = false) :
    step.Breaks flows domain flow (.invalidCondition condition step.id flow.id) := by
  rcases mem_conditions_iff.mp member with ⟨target, link⟩ | ⟨slot, rejections, kind, refused⟩
  · exact .condition link invalid
  · rcases refused with ⟨rejection, isRejection, rfl⟩
    exact .rejection kind isRejection invalid

/-! ## One flow -/

theorem verifySteps_eq_ok_iff {fault? : FlowStep → Option FlowError} :
    flow.verifySteps fault? = .ok () ↔ ∀ step ∈ flow.steps, fault? step = none := by
  unfold verifySteps
  rw [← List.findSome?_eq_none_iff]
  cases flow.steps.findSome? fault? <;> simp

theorem exists_of_verifySteps_eq_error {fault? : FlowStep → Option FlowError} {error : FlowError}
    (failed : flow.verifySteps fault? = .error error) :
    ∃ step ∈ flow.steps, fault? step = some error := by
  unfold verifySteps at failed
  cases found : flow.steps.findSome? fault? with
  | none => simp [found] at failed
  | some first =>
      simp only [found] at failed
      cases failed
      exact List.exists_of_findSome?_eq_some found

/-- A sequence of two steps fails in the first or in the second of them. -/
theorem bind_eq_error_cases {State Result Failure : Type} {first : Except Failure State}
    {second : State → Except Failure Result} {failure : Failure}
    (run : first >>= second = .error failure) :
    first = .error failure ∨ ∃ state, first = .ok state ∧ second state = .error failure := by
  cases first with
  | error other =>
      cases run
      exact .inl rfl
  | ok state => exact .inr ⟨state, rfl, run⟩

/-- A flow that passes obeys the rules: no step of it has anything to report. -/
theorem obeys_of_verify (passed : verify flows domain flow = .ok ()) :
    flow.Obeys flows domain := by
  obtain ⟨_, links, passed⟩ := Domain.exists_of_bind_eq_ok passed
  obtain ⟨_, declared, conditions⟩ := Domain.exists_of_bind_eq_ok passed
  intro step member
  have noTarget := Option.map_eq_none_iff.mp (verifySteps_eq_ok_iff.mp links step member)
  have noUse := verifySteps_eq_ok_iff.mp declared step member
  have noCondition := Option.map_eq_none_iff.mp (verifySteps_eq_ok_iff.mp conditions step member)
  obtain ⟨targets, linked⟩ := targets_of_unknownTarget? noTarget
  obtain ⟨collected, assigned, acted⟩ := declared_of_undeclared? noUse
  have valid : ∀ condition ∈ Flow.conditions step, Condition.isValid condition = true := by
    intro condition isCondition
    simpa using List.find?_eq_none.mp noCondition condition isCondition
  constructor
  · exact targets
  · exact linked
  · exact collected
  · exact assigned
  · exact acted
  · intro condition target link
    exact valid condition (mem_conditions_iff.mpr (.inl ⟨target, link⟩))
  · intro slot rejections kind rejection isRejection
    apply valid
    exact mem_conditions_iff.mpr (.inr ⟨slot, rejections, kind, rejection, isRejection, rfl⟩)

/-- A flow that fails has a step that breaks a rule. -/
theorem exists_breaks_of_verify {error : FlowError}
    (failed : verify flows domain flow = .error error) :
    ∃ step ∈ flow.steps, step.Breaks flows domain flow error := by
  rcases bind_eq_error_cases failed with links | ⟨_, _, failed⟩
  · obtain ⟨step, member, found⟩ := exists_of_verifySteps_eq_error links
    obtain ⟨target, reported, rfl⟩ := Option.map_eq_some_iff.mp found
    exact ⟨step, member, breaks_of_unknownTarget? reported⟩
  · rcases bind_eq_error_cases failed with declared | ⟨_, _, conditions⟩
    · obtain ⟨step, member, reported⟩ := exists_of_verifySteps_eq_error declared
      exact ⟨step, member, breaks_of_undeclared? reported⟩
    · obtain ⟨step, member, found⟩ := exists_of_verifySteps_eq_error conditions
      obtain ⟨condition, reported, rfl⟩ := Option.map_eq_some_iff.mp found
      have invalid : Condition.isValid condition = false := by
        simpa using List.find?_some reported
      exact ⟨step, member, breaks_of_invalid (List.mem_of_find?_eq_some reported) invalid⟩

theorem verify_eq_ok_iff : verify flows domain flow = .ok () ↔ flow.Obeys flows domain := by
  constructor
  · exact obeys_of_verify
  · intro obeys
    cases result : verify flows domain flow with
    | ok _ => rfl
    | error error =>
        obtain ⟨step, member, breaks⟩ := exists_breaks_of_verify result
        exact absurd breaks ((obeys step member).not_breaks error)

end Step

/-! ## All flows -/

theorem forM_eq_ok_iff {Item Failure : Type} {check : Item → Except Failure Unit}
    {items : List Item} : items.forM check = .ok () ↔ ∀ item ∈ items, check item = .ok () := by
  induction items with
  | nil => exact iff_of_true rfl (List.forall_mem_nil _)
  | cons first rest ih =>
      rw [List.forall_mem_cons, ← ih]
      constructor
      · intro passed
        obtain ⟨_, head, tail⟩ := Domain.exists_of_bind_eq_ok passed
        exact ⟨head, tail⟩
      · rintro ⟨head, tail⟩
        change (check first >>= fun _ => rest.forM check) = .ok ()
        rw [head]
        exact tail

/-- A check of all items fails at the first item that does not pass. -/
theorem exists_of_forM_eq_error {Item Failure : Type} {check : Item → Except Failure Unit}
    {items : List Item} {failure : Failure} (failed : items.forM check = .error failure) :
    ∃ before item after, items = before ++ item :: after ∧
      (∀ earlier ∈ before, check earlier = .ok ()) ∧ check item = .error failure := by
  induction items with
  | nil => cases failed
  | cons first rest ih =>
      rcases bind_eq_error_cases failed with head | ⟨_, head, tail⟩
      · exact ⟨[], first, rest, rfl, by simp, head⟩
      · obtain ⟨before, item, after, split, passed, stopped⟩ := ih tail
        have allPassed : ∀ earlier ∈ first :: before, check earlier = .ok () :=
          List.forall_mem_cons.mpr ⟨head, passed⟩
        exact ⟨first :: before, item, after, congrArg (first :: ·) split, allPassed, stopped⟩

theorem bareDescriptions_append (flows others : List Flow) :
    bareDescriptions (flows ++ others) = bareDescriptions flows ++ bareDescriptions others := by
  unfold bareDescriptions
  rw [List.filterMap_append, List.map_append]

theorem mem_bareDescriptions_iff {flows : List Flow} {bare : List Char} :
    bare ∈ bareDescriptions flows ↔ ∃ flow ∈ flows, ∃ description,
      flow.description = some description ∧ Text.bare description = bare := by
  unfold bareDescriptions
  simp only [List.mem_map, List.mem_filterMap]
  constructor
  · rintro ⟨description, ⟨flow, member, described⟩, rfl⟩
    exact ⟨flow, member, description, described, rfl⟩
  · rintro ⟨flow, member, description, described, rfl⟩
    exact ⟨description, ⟨flow, member, described⟩, rfl⟩

/-- In distinct flows no flow repeats an earlier one. -/
theorem Distinct.not_repeats {flows : List Flow} (distinct : Distinct flows)
    (error : FlowError) : ¬Repeats flows error := by
  intro repeats
  cases repeats with
  | name split member same =>
      have names := distinct.names
      rw [split, List.map_append, List.map_cons] at names
      exact (List.nodup_append.mp names).2.2 _ (List.mem_map_of_mem member) _
        List.mem_cons_self same
  | description split member described otherwise same =>
      have descriptions := distinct.descriptions
      rw [split, bareDescriptions_append] at descriptions
      exact (List.nodup_append.mp descriptions).2.2 _
        (mem_bareDescriptions_iff.mpr ⟨_, member, _, otherwise, rfl⟩) _
        (mem_bareDescriptions_iff.mpr ⟨_, List.mem_cons_self, _, described, rfl⟩) same

/-- Distinct flows stay distinct with one more whose name and description are new. -/
theorem Distinct.concat {flows : List Flow} {flow : Flow} (distinct : Distinct flows)
    (newName : flow.name ∉ flows.map Flow.name)
    (newDescription : ∀ description, flow.description = some description →
      Text.bare description ∉ bareDescriptions flows) :
    Distinct (flows ++ [flow]) := by
  constructor
  · rw [List.map_append]
    rw [List.map_singleton, ← List.concat_eq_append]
    exact distinct.names.concat newName
  · rw [bareDescriptions_append]
    cases described : flow.description with
    | none => simpa [bareDescriptions, described] using distinct.descriptions
    | some description =>
        have last : bareDescriptions [flow] = [Text.bare description] := by
          simp [bareDescriptions, described]
        rw [last, ← List.concat_eq_append]
        exact distinct.descriptions.concat (newDescription description described)

namespace Seen

/-- What was noted of some flows: their names and bare descriptions. -/
structure Notes (seen : Seen) (flows : List Flow) : Prop where
  /-- Their names, and no others. -/
  names : ∀ name, seen.names.contains name = true ↔ name ∈ flows.map Flow.name
  /-- Their descriptions without punctuation, and no others. -/
  descriptions : ∀ bare, seen.descriptions.contains bare = true ↔
    bare.toList ∈ bareDescriptions flows

theorem notes_nil : Notes {} [] where
  names name := by simp [Table.contains, Table.empty, Table.find?]
  descriptions bare := by simp [Table.contains, Table.empty, Table.find?, bareDescriptions]

variable {seen : Seen} {before : List Flow} {flow : Flow}

theorem addDescription_of_ok {next : Seen} (added : seen.addDescription flow = .ok next) :
    (∀ description, flow.description = some description →
      seen.descriptions.contains (Text.withoutPunctuation description) = false) ∧
    next.names = seen.names ∧
    ∀ bare, next.descriptions.contains bare = true ↔
      seen.descriptions.contains bare = true ∨ bare.toList ∈ bareDescriptions [flow] := by
  unfold addDescription at added
  cases described : flow.description with
  | none =>
      rw [described] at added
      cases added
      simp [bareDescriptions, described]
  | some description =>
      rw [described] at added
      dsimp only at added
      split at added
      · cases added
      · rename_i new
        cases added
        constructor
        · rintro _ ⟨⟩
          simpa using new
        · constructor
          · rfl
          · intro bare
            rw [NameSet.contains_add_iff, or_comm, ← String.toList_inj]
            simp [bareDescriptions, described]

theorem addDescription_of_error {error : FlowError}
    (refused : seen.addDescription flow = .error error) :
    ∃ description, flow.description = some description ∧
      seen.descriptions.contains (Text.withoutPunctuation description) = true ∧
      error = .duplicateDescription flow.name := by
  unfold addDescription at refused
  cases described : flow.description with
  | none =>
      rw [described] at refused
      cases refused
  | some description =>
      rw [described] at refused
      dsimp only at refused
      split at refused
      · rename_i known
        cases refused
        exact ⟨description, rfl, known, rfl⟩
      · cases refused

theorem addName_of_ok {next : Seen} (added : seen.addName flow = .ok next) :
    seen.names.contains flow.name = false ∧ next.descriptions = seen.descriptions ∧
      ∀ name, next.names.contains name = true ↔
        name = flow.name ∨ seen.names.contains name = true := by
  unfold addName at added
  split at added
  · cases added
  · rename_i new
    cases added
    exact ⟨by simpa using new, rfl, fun name => NameSet.contains_add_iff⟩

theorem addName_of_error {error : FlowError} (refused : seen.addName flow = .error error) :
    seen.names.contains flow.name = true ∧ error = .duplicateName flow.name := by
  unfold addName at refused
  split at refused
  · rename_i known
    cases refused
    exact ⟨known, rfl⟩
  · cases refused

/-- Notes the description and then the name of a flow. -/
def add (seen : Seen) (flow : Flow) : Except FlowError Seen := do
  let seen ← seen.addDescription flow
  seen.addName flow

/-- A flow is noted if its name and description are new. -/
theorem Notes.add (notes : seen.Notes before) {next : Seen} (added : seen.add flow = .ok next) :
    next.Notes (before ++ [flow]) ∧ (Distinct before → Distinct (before ++ [flow])) := by
  obtain ⟨described, first, second⟩ := Domain.exists_of_bind_eq_ok added
  obtain ⟨newDescription, names, descriptions⟩ := addDescription_of_ok first
  obtain ⟨newName, sameDescriptions, addedName⟩ := addName_of_ok second
  constructor
  · constructor
    · intro name
      rw [addedName, names, notes.names, List.map_append, List.mem_append, List.map_singleton,
        List.mem_singleton]
      exact or_comm
    · intro bare
      rw [sameDescriptions, descriptions, notes.descriptions, bareDescriptions_append,
        List.mem_append]
  · intro distinct
    apply distinct.concat
    · rw [← notes.names, ← names, newName]
      simp
    · intro description isDescription
      rw [← Text.toList_withoutPunctuation, ← notes.descriptions,
        newDescription description isDescription]
      simp

/-- A flow that is not noted repeats an earlier one. -/
theorem Notes.repeats (notes : seen.Notes before) {error : FlowError}
    (refused : seen.add flow = .error error) (after : List Flow) :
    Repeats (before ++ flow :: after) error := by
  rcases bind_eq_error_cases refused with first | ⟨described, first, second⟩
  · obtain ⟨description, isDescription, known, rfl⟩ := addDescription_of_error first
    obtain ⟨earlier, member, other, isOther, same⟩ :=
      mem_bareDescriptions_iff.mp ((notes.descriptions _).mp known)
    rw [Text.toList_withoutPunctuation] at same
    exact .description rfl member isDescription isOther same
  · obtain ⟨known, rfl⟩ := addName_of_error second
    obtain ⟨_, names, _⟩ := addDescription_of_ok first
    rw [names] at known
    obtain ⟨earlier, member, same⟩ := List.mem_map.mp ((notes.names _).mp known)
    exact .name rfl member same

/-- Flows are noted one by one as long as they are distinct. -/
theorem Notes.foldlM_add (notes : seen.Notes before) (distinct : Distinct before)
    (rest : List Flow) :
    (∀ last, rest.foldlM Seen.add seen = .ok last → Distinct (before ++ rest)) ∧
      ∀ error, rest.foldlM Seen.add seen = .error error → Repeats (before ++ rest) error := by
  induction rest generalizing seen before with
  | nil =>
      rw [List.append_nil]
      exact ⟨fun _ _ => distinct, fun _ failed => by cases failed⟩
  | cons flow rest ih =>
      rw [List.foldlM_cons]
      -- What is noted of the flows before grows by one flow, and so does that list.
      constructor
      · intro last passed
        obtain ⟨next, added, later⟩ := Domain.exists_of_bind_eq_ok passed
        obtain ⟨noted, stays⟩ := notes.add added
        have whole := (ih noted (stays distinct)).1 last later
        rwa [List.append_assoc] at whole
      · intro error failed
        rcases bind_eq_error_cases failed with refused | ⟨next, added, later⟩
        · exact notes.repeats refused rest
        · obtain ⟨noted, stays⟩ := notes.add added
          have whole := (ih noted (stays distinct)).2 error later
          rwa [List.append_assoc] at whole

end Seen

section Unique

variable {flows : List Flow}

/-- Among flows that fail, one repeats an earlier one. -/
theorem repeats_of_verifyUnique {error : FlowError}
    (failed : verifyUnique flows = .error error) : Repeats flows error := by
  rcases bind_eq_error_cases failed with refused | ⟨last, _, done⟩
  · exact (Seen.notes_nil.foldlM_add ⟨.nil, .nil⟩ flows).2 error refused
  · cases done

theorem verifyUnique_eq_ok_iff : verifyUnique flows = .ok () ↔ Distinct flows := by
  constructor
  · intro passed
    obtain ⟨last, noted, _⟩ := Domain.exists_of_bind_eq_ok passed
    exact (Seen.notes_nil.foldlM_add ⟨.nil, .nil⟩ flows).1 last noted
  · intro distinct
    cases result : verifyUnique flows with
    | ok _ => rfl
    | error error => exact absurd (repeats_of_verifyUnique result) (distinct.not_repeats error)

end Unique

/-! ## Chains of links -/

/-- A chain of links leads from a step of the flow to a target: the last link is that of
the step itself, or that of a step to which a chain leads. -/
inductive Reaches (flow : Flow) (start : FlowStep) : String → Prop where
  | link {link : FlowLink} (member : link ∈ start.next) : Reaches flow start link.target
  | onward {step : FlowStep} {link : FlowLink} (reached : Reaches flow start step.id)
      (there : step ∈ flow.steps) (member : link ∈ step.next) : Reaches flow start link.target

/-- Where all steps obey the rules, no chain of links leads out of the flow. -/
theorem Obeys.target_of_reaches {flows : List Flow} {domain : Domain} {flow : Flow}
    (obeys : flow.Obeys flows domain) {start : FlowStep} (member : start ∈ flow.steps)
    {target : String} (reaches : flow.Reaches start target) :
    target = endStep ∨ target ∈ flow.stepIds := by
  cases reaches with
  | @link link isLink => exact (obeys start member).targets link isLink
  | @onward step link reached there isLink => exact (obeys step there).targets link isLink

section Validate

variable {flows : List Flow} {domain : Domain}

theorem validate_eq_ok_iff :
    validate flows domain = .ok () ↔
      Distinct flows ∧ ∀ flow ∈ flows, flow.Obeys flows domain := by
  constructor
  · intro passed
    obtain ⟨_, unique, each⟩ := Domain.exists_of_bind_eq_ok passed
    have obey : ∀ flow ∈ flows, flow.Obeys flows domain := fun flow member =>
      verify_eq_ok_iff.mp (forM_eq_ok_iff.mp each flow member)
    exact ⟨verifyUnique_eq_ok_iff.mp unique, obey⟩
  · rintro ⟨distinct, obey⟩
    have each : ∀ flow ∈ flows, verify flows domain flow = .ok () := fun flow member =>
      verify_eq_ok_iff.mpr (obey flow member)
    unfold validate
    rw [verifyUnique_eq_ok_iff.mpr distinct]
    exact forM_eq_ok_iff.mpr each

/-- Among flows that are refused one repeats an earlier one, or they are distinct and the
first that does not obey the rules has a step that breaks one. -/
theorem repeats_or_breaks_of_validate {error : FlowError}
    (failed : validate flows domain = .error error) :
    Repeats flows error ∨
      Distinct flows ∧ ∃ before flow after, flows = before ++ flow :: after ∧
        (∀ earlier ∈ before, earlier.Obeys flows domain) ∧
        ∃ step ∈ flow.steps, step.Breaks flows domain flow error := by
  rcases bind_eq_error_cases failed with repeated | ⟨_, unique, stopped⟩
  · exact .inl (repeats_of_verifyUnique repeated)
  · obtain ⟨before, flow, after, split, passed, refused⟩ := exists_of_forM_eq_error stopped
    have earlierObey : ∀ earlier ∈ before, earlier.Obeys flows domain := by
      intro earlier member
      exact verify_eq_ok_iff.mp (passed earlier member)
    have breaks := exists_breaks_of_verify refused
    have distinct := verifyUnique_eq_ok_iff.mp unique
    exact .inr ⟨distinct, before, flow, after, split, earlierObey, breaks⟩

end Validate

/-- The validation of flows is sound and complete.  It accepts exactly distinct flows that
all obey the rules.  The error that it gives names a flow that repeats the name or the
description of an earlier one; or the flows are distinct, and it names a step of a flow that
breaks a rule, while all flows before obey the rules.  In flows that are accepted, chains of
links lead to steps of the flow or to its end. -/
theorem validate_exact (flows : List Flow) (domain : Domain) :
    (validate flows domain = .ok () ↔
      Distinct flows ∧ ∀ flow ∈ flows, flow.Obeys flows domain) ∧
    (∀ error, validate flows domain = .error error →
      Repeats flows error ∨
        Distinct flows ∧ ∃ before flow after, flows = before ++ flow :: after ∧
          (∀ earlier ∈ before, earlier.Obeys flows domain) ∧
          ∃ step ∈ flow.steps, step.Breaks flows domain flow error) ∧
    (validate flows domain = .ok () → ∀ flow ∈ flows, ∀ start ∈ flow.steps, ∀ target,
      flow.Reaches start target → target = endStep ∨ target ∈ flow.stepIds) := by
  constructor
  · exact validate_eq_ok_iff
  · constructor
    · exact fun _ failed => repeats_or_breaks_of_validate failed
    · intro passed flow member start isStep target reaches
      exact ((validate_eq_ok_iff.mp passed).2 flow member).target_of_reaches isStep reaches

/-- A flow that asks for a city and books passes, and each of its steps leads to another or
to the end.  Without the step that books, the step that asks is reported.  A flow whose
description has the words of an earlier one and other punctuation is reported as well. -/
theorem validate_exact_for_booking :
    let domain := (Domain.empty.withSlot { name := "city", type := .text }).withActions
      ["action_book"]
    let asks : FlowStep :=
      { customId := some "ask", position := 0, description := none, metadata := []
        next := [.when "city" "1_action_book", .otherwise "ask"], kind := .collect "city" [] }
    let books : FlowStep :=
      { customId := none, position := 1, description := none, metadata := []
        next := [.always "END"], kind := .action "action_book" }
    let booking : Flow :=
      { id := "booking", name := "Booking", description := none, steps := [asks, books] }
    let halted := { booking with steps := [asks] }
    let first := { booking with description := some "Book a table!" }
    let second : Flow :=
      { id := "again", name := "Again", description := some "Book (a table)", steps := [] }
    (validate [booking] domain = .ok () ∧ booking.Obeys [booking] domain ∧
      booking.Reaches asks "END" ∧
      ∀ target, booking.Reaches asks target → target = endStep ∨ target ∈ booking.stepIds) ∧
    (validate [halted] domain = .error (.unknownTarget "1_action_book" "ask" "booking") ∧
      asks.Breaks [halted] domain halted (.unknownTarget "1_action_book" "ask" "booking")) ∧
    validate [first, second] domain = .error (.duplicateDescription "Again") ∧
      Repeats [first, second] (.duplicateDescription "Again") := by
  intro domain asks books booking halted first second
  have passed : validate [booking] domain = .ok () := by
    decide +kernel
  have failed : validate [halted] domain =
      .error (.unknownTarget "1_action_book" "ask" "booking") := rfl
  have repeated : validate [first, second] domain = .error (.duplicateDescription "Again") := by
    decide +kernel
  have isFlow : booking ∈ [booking] := List.mem_cons_self
  have isStep : asks ∈ booking.steps := List.mem_cons_self
  refine ⟨?_, ?_, repeated, ?_⟩
  · have obeys := ((validate_exact [booking] domain).1.mp passed).2 booking isFlow
    have isLink : .when "city" "1_action_book" ∈ asks.next := List.mem_cons_self
    have named : "1_action_book" = books.id := by decide +kernel
    have booked : booking.Reaches asks books.id := by
      rw [← named]
      exact .link isLink
    have isLast : .always "END" ∈ books.next := List.mem_cons_self
    have isBooking : books ∈ booking.steps := List.mem_cons_of_mem _ List.mem_cons_self
    have ended : booking.Reaches asks "END" := .onward booked isBooking isLast
    exact ⟨passed, obeys, ended, (validate_exact [booking] domain).2.2 passed booking isFlow
      asks isStep⟩
  · rcases (validate_exact [halted] domain).2.1 _ failed with
      repeats | ⟨_, before, flow, after, split, _, step, member, breaks⟩
    · cases repeats
    · have isHalted : flow = halted := by
        have known : flow ∈ [halted] := by simp [split]
        exact List.mem_singleton.mp known
      rw [isHalted] at member breaks
      rw [List.mem_singleton.mp member] at breaks
      exact ⟨failed, breaks⟩
  · rcases (validate_exact [first, second] domain).2.1 _ repeated with
      repeats | ⟨_, before, flow, after, _, _, step, _, breaks⟩
    · exact repeats
    · cases breaks

end Flow

end Dialogue
