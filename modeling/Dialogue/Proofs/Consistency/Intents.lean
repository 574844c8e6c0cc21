import Dialogue.Proofs.Consistency.FirstUse

/-!
# Intents of stories

The intents with which stories let the user speak have to be declared.  An undeclared one
is reported once, for the first step that uses it, and its check fails.  Unlike the actions
of every assistant, the intents of every assistant are no exception: they only need no use.
Where stories use none of them without a declaration, the check is the one that exempts
them.
-/

namespace Dialogue

/-- The event is a message of the user with an intent. -/
def Event.Expresses (event : Event) (intent : String) : Prop :=
  ∃ message, event.change = .userUttered message ∧ message.intentName = some intent

theorem Event.intentName?_eq_some_iff {event : Event} {intent : String} :
    event.intentName? = some intent ↔ event.Expresses intent := by
  unfold intentName? message? Expresses
  cases event.change <;> simp

/-- The use of an undeclared intent that a complaint is about. -/
def Warning.undeclaredIntent? : Warning → Option StoryUse
  | .unknownIntent story intent => some ⟨story, intent⟩
  | _ => none

namespace Assistant

variable (assistant : Assistant)

/-- A message in the stories has an intent. -/
def Hears (intent : String) : Prop :=
  StoryGraph.Told Event.Expresses assistant.stories.events intent

/-- The uses of undeclared intents that are reported. -/
def undeclaredIntents (ignoreWarnings : Bool) : List StoryUse :=
  (assistant.checkIntents ignoreWarnings).warnings.filterMap Warning.undeclaredIntent?

theorem undeclaredIntents_eq (ignoreWarnings : Bool) :
    assistant.undeclaredIntents ignoreWarnings =
      assistant.stories.unknownUses Event.intentName? assistant.domain.intents.contains := by
  unfold undeclaredIntents checkIntents
  rw [List.filterMap_append, List.filterMap_map, List.filterMap_map]
  simp [Function.comp_def, Warning.undeclaredIntent?]

/-- The intents that are reported are those that stories use without a declaration. -/
theorem listsFirstUses_undeclaredIntents (ignoreWarnings : Bool) :
    StoryGraph.ListsFirstUses Event.Expresses assistant.stories
      (fun intent => intent ∉ assistant.domain.intents.keys)
      (assistant.undeclaredIntents ignoreWarnings) := by
  rw [undeclaredIntents_eq]
  apply StoryGraph.listsFirstUses_unknownUses Event.intentName?_eq_some_iff
  intro intent
  rw [← Table.contains_eq_true_iff, Bool.not_eq_true]

theorem passed_checkIntents_iff :
    (assistant.checkIntents false).passed = true ↔ assistant.undeclaredIntents false = [] := by
  rw [undeclaredIntents_eq]
  exact List.isEmpty_iff

/-- Intents pass exactly if all those that stories use are declared, and what is reported
are the first uses of the others.  So in stories that use no intent of every assistant
without declaring it, these intents need no declaration, and the first uses of those that
are neither declared nor intents of every assistant are reported. -/
theorem undeclaredIntents_exact (assistant : Assistant) :
    ((assistant.checkIntents false).passed = true ↔
      ∀ intent, assistant.Hears intent → intent ∈ assistant.domain.intents.keys) ∧
    StoryGraph.ListsFirstUses Event.Expresses assistant.stories
      (fun intent => intent ∉ assistant.domain.intents.keys)
      (assistant.undeclaredIntents false) ∧
    ((∀ intent ∈ defaultIntents, assistant.Hears intent →
        intent ∈ assistant.domain.intents.keys) →
      ((assistant.checkIntents false).passed = true ↔
        ∀ intent, assistant.Hears intent →
          intent ∈ assistant.domain.intents.keys ∨ intent ∈ defaultIntents) ∧
      StoryGraph.ListsFirstUses Event.Expresses assistant.stories
        (fun intent => intent ∉ assistant.domain.intents.keys ∧ intent ∉ defaultIntents)
        (assistant.undeclaredIntents false)) := by
  have lists := assistant.listsFirstUses_undeclaredIntents false
  have passes : (assistant.checkIntents false).passed = true ↔
      ∀ intent, assistant.Hears intent → intent ∈ assistant.domain.intents.keys := by
    rw [passed_checkIntents_iff, lists.eq_nil_iff Event.intentName?_eq_some_iff]
    simp only [not_not, Hears]
  refine ⟨passes, lists, ?_⟩
  intro ownDeclared
  constructor
  · rw [passes]
    apply forall₂_congr
    intro intent heard
    constructor
    · exact .inl
    · rintro (declared | own)
      · exact declared
      · exact ownDeclared intent own heard
  · apply lists.congr
    intro intent heard
    constructor
    · intro undeclared
      exact ⟨undeclared, fun own => undeclared (ownDeclared intent own heard)⟩
    · exact And.left

/-- Two stories let the user order something, which is not declared: it is reported once,
for the first of them. -/
theorem undeclaredIntents_exact_of_order :
    let spoken (intent : String) : Event := .user ((UserMessage.ofText intent).withIntent intent)
    let assistant : Assistant := {
      domain := Domain.empty.withIntents ["greet"]
      stories := { steps := [
        { blockName := "hello", events := [spoken "greet", spoken "order"] },
        { blockName := "again", events := [spoken "order"] }] }
      flows := [] }
    (∀ intent ∈ defaultIntents, assistant.Hears intent →
      intent ∈ assistant.domain.intents.keys) ∧
    (assistant.checkIntents false).passed = false ∧
    ⟨"hello", "order"⟩ ∈ assistant.undeclaredIntents false ∧
    ⟨"again", "order"⟩ ∉ assistant.undeclaredIntents false := by
  intro spoken assistant
  have heard_iff (intent : String) :
      assistant.Hears intent ↔ intent = "greet" ∨ intent = "order" := by
    simp [Hears, StoryGraph.Told, StoryGraph.events, Event.Expresses, assistant, spoken,
      Event.user, UserMessage.intentName, UserMessage.withIntent, eq_comm]
  have ownDeclared : ∀ intent ∈ defaultIntents, assistant.Hears intent →
      intent ∈ assistant.domain.intents.keys := by
    intro intent own heard
    rcases (heard_iff intent).mp heard with rfl | rfl
    · decide
    · exact absurd own (by decide)
  obtain ⟨_, _, exempting⟩ := undeclaredIntents_exact assistant
  obtain ⟨passes, lists⟩ := exempting ownDeclared
  have first : ⟨"hello", "order"⟩ ∈ assistant.undeclaredIntents false := by
    apply (lists.mem_iff _).mpr
    refine ⟨by decide, [], _, _, rfl, rfl, ?_, by simp⟩
    exact ⟨spoken "order", by simp, _, rfl, rfl⟩
  refine ⟨ownDeclared, ?_, first, ?_⟩
  · rw [Bool.eq_false_iff, ne_eq, passes]
    intro known
    exact absurd (known "order" ((heard_iff "order").mpr (.inr rfl))) (by decide)
  · intro second
    have same := List.inj_on_of_nodup_map lists.once first second rfl
    exact absurd same (by decide)

/-- A story lets the user restart, which every assistant understands.  The check fails, and
the intent is reported. -/
theorem undeclaredIntents_of_restart :
    let spoken (intent : String) : Event := .user ((UserMessage.ofText intent).withIntent intent)
    let assistant : Assistant := {
      domain := Domain.empty
      stories := { steps := [{ blockName := "again", events := [spoken "restart"] }] }
      flows := [] }
    (∀ intent, assistant.Hears intent → intent ∈ defaultIntents) ∧
      (assistant.checkIntents false).passed = false ∧
      assistant.undeclaredIntents false = [⟨"again", "restart"⟩] := by
  intro spoken assistant
  refine ⟨?_, rfl, rfl⟩
  intro intent heard
  have restarts : intent = "restart" := by
    simpa [Hears, StoryGraph.Told, StoryGraph.events, Event.Expresses, assistant, spoken,
      Event.user, UserMessage.intentName, UserMessage.withIntent, eq_comm] using heard
  rw [restarts]
  decide

end Assistant

end Dialogue
