import Dialogue.Consistency.Checks
import Dialogue.Proofs.Table.Lookup

/-!
# First uses of names in stories

A name that several stories use is told once, for the first step that uses it.  What is
told is exactly the first uses of the names in question, in the order in which the stories
come to use them: a name of no concern never hides another one.
-/

namespace Dialogue

namespace Event

/-- The event runs an action. -/
def Executes (event : Event) (action : String) : Prop :=
  ∃ policy confidence, event.change = .actionExecuted action policy confidence

/-- The event activates a form. -/
def Activates (event : Event) (form : String) : Prop :=
  event.change = .formActivated form

theorem actionName?_eq_some_iff {event : Event} {action : String} :
    event.actionName? = some action ↔ event.Executes action := by
  unfold actionName? Executes
  cases event.change <;> simp

theorem activatedForm?_eq_some_iff {event : Event} {form : String} :
    event.activatedForm? = some form ↔ event.Activates form := by
  unfold activatedForm? Activates
  cases event.change <;> simp

end Event

namespace StoryGraph

/-- All events of the stories, in order. -/
def events (graph : StoryGraph) : List Event :=
  graph.steps.flatMap StoryStep.events

section

variable (names : Event → String → Prop)

/-- One of the events names something. -/
def Told (events : List Event) (name : String) : Prop :=
  ∃ event ∈ events, names event name

/-- The first step that names something stands in the block of the use. -/
def FirstUse (graph : StoryGraph) (use : StoryUse) : Prop :=
  ∃ before step after, graph.steps = before ++ step :: after ∧
    step.blockName = use.story ∧ Told names step.events use.name ∧
    ∀ earlier ∈ before, ¬Told names earlier.events use.name

/-- The stories come to one name before they come to the other. -/
def ToldBefore (graph : StoryGraph) (first second : String) : Prop :=
  ∃ events, events <+: graph.events ∧ Told names events first ∧ ¬Told names events second

/-- A list holds the first uses of the names in question. -/
structure ListsFirstUses (graph : StoryGraph) (asked : String → Prop) (uses : List StoryUse) :
    Prop where
  /-- They are the first uses of these names, and of no others. -/
  mem_iff : ∀ use, use ∈ uses ↔ asked use.name ∧ FirstUse names graph use
  /-- Each name is listed once. -/
  once : (uses.map StoryUse.name).Nodup
  /-- The names come in the order of their first uses. -/
  inOrder : (uses.map StoryUse.name).Pairwise (ToldBefore names graph)

end

end StoryGraph

/-! ## Lists of uses -/

section

variable {seen : NameSet} {uses : List StoryUse} {use : StoryUse}

/-- The first use of a name is the one that a search for the name finds. -/
theorem mem_firstUses_iff :
    use ∈ firstUses seen uses ↔
      seen.contains use.name = false ∧
        uses.find? (fun other => other.name == use.name) = some use := by
  induction uses generalizing seen with
  | nil => simp [firstUses]
  | cons head rest ih =>
      unfold firstUses
      by_cases same : head.name = use.name
      · rw [List.find?_cons_of_pos (by simpa using same)]
        by_cases known : seen.contains head.name = true
        · rw [if_pos known, ih]
          rw [same] at known
          simp [known]
        · have added : (seen.add head.name).contains use.name = true :=
            NameSet.contains_add_iff.mpr (.inl same.symm)
          rw [if_neg known, List.mem_cons, ih, added]
          rw [same, Bool.not_eq_true] at known
          simp [known, eq_comm]
      · rw [List.find?_cons_of_neg (by simpa using same)]
        by_cases known : seen.contains head.name = true
        · rw [if_pos known, ih]
        · have added : (seen.add head.name).contains use.name = seen.contains use.name := by
            rw [Bool.eq_iff_iff, NameSet.contains_add_iff]
            simp [Ne.symm same]
          have other : use ≠ head := fun equal => same (congrArg StoryUse.name equal.symm)
          rw [if_neg known, List.mem_cons, ih, added]
          simp [other]

/-- First uses come in the order of the uses: some uses in front have the one name and
not yet the other. -/
theorem pairwise_firstUses :
    (firstUses seen uses).Pairwise fun first second =>
      ∃ front, front <+: uses ∧ first ∈ front ∧ second.name ∉ front.map StoryUse.name := by
  induction uses generalizing seen with
  | nil => exact List.Pairwise.nil
  | cons head rest ih =>
      -- A front of the rest stays one when the head joins it, unless the head has the
      -- second name; but that name is new, and the one of the head is seen.
      have grows : ∀ {later : NameSet}, later.contains head.name = true →
          (firstUses later rest).Pairwise fun first second =>
            ∃ front, front <+: head :: rest ∧ first ∈ front ∧
              second.name ∉ front.map StoryUse.name := by
        intro later known
        apply (@ih later).imp_of_mem
        rintro first second - member ⟨front, isPrefix, isFirst, missing⟩
        have new := (mem_firstUses_iff.mp member).1
        have differ : second.name ≠ head.name := by
          intro same
          rw [same, known] at new
          cases new
        refine ⟨head :: front, (List.prefix_cons_inj head).mpr isPrefix, ?_, ?_⟩
        · exact List.mem_cons_of_mem head isFirst
        · simpa [differ] using missing
      unfold firstUses
      by_cases known : seen.contains head.name = true
      · rw [if_pos known]
        exact grows known
      · rw [if_neg known]
        have added : (seen.add head.name).contains head.name = true :=
          NameSet.contains_add_iff.mpr (.inl rfl)
        apply List.Pairwise.cons
        · intro second member
          have new := (mem_firstUses_iff.mp member).1
          have differ : second.name ≠ head.name := by
            intro same
            rw [same, added] at new
            cases new
          exact ⟨[head], by simp, by simp, by simpa using differ⟩
        · exact grows added

end

/-! ## Uses in stories -/

namespace StoryGraph

variable {name? : Event → Option String} {names : Event → String → Prop}
  (reads : ∀ {event name}, name? event = some name ↔ names event name)

include reads

theorem mem_filterMap_iff_told {events : List Event} {name : String} :
    name ∈ events.filterMap name? ↔ Told names events name := by
  simp only [List.mem_filterMap, reads, Told]

/-- A search among the uses of one step finds the name in the block of the step. -/
theorem find?_uses_of_step (step : StoryStep) (use : StoryUse) :
    (((step.events.filterMap name?).map fun name => StoryUse.mk step.blockName name).find?
      fun other => other.name == use.name) = some use ↔
      step.blockName = use.story ∧ Told names step.events use.name := by
  rw [← mem_filterMap_iff_told reads, List.find?_map, Option.map_eq_some_iff]
  constructor
  · rintro ⟨name, found, rfl⟩
    exact ⟨rfl, List.mem_of_find?_eq_some found⟩
  · rintro ⟨block, member⟩
    have isFound : ((step.events.filterMap name?).find? fun other => other == use.name).isSome :=
      List.find?_isSome.mpr ⟨use.name, member, beq_self_eq_true use.name⟩
    obtain ⟨name, found⟩ := Option.isSome_iff_exists.mp isFound
    have same : name = use.name := by simpa using List.find?_some found
    exact ⟨name, found, by rw [block, same]⟩

theorem find?_uses_of_step_eq_none_iff (step : StoryStep) (name : String) :
    (((step.events.filterMap name?).map fun name => StoryUse.mk step.blockName name).find?
      fun other => other.name == name) = none ↔ ¬Told names step.events name := by
  rw [← mem_filterMap_iff_told reads, List.find?_map, Option.map_eq_none_iff,
    List.find?_eq_none]
  constructor
  · intro others member
    exact others name member (beq_self_eq_true name)
  · intro missing other member same
    obtain rfl : other = name := by simpa using same
    exact missing member

theorem find?_uses_iff (graph : StoryGraph) (use : StoryUse) :
    (graph.uses name?).find? (fun other => other.name == use.name) = some use ↔
      FirstUse names graph use := by
  unfold uses FirstUse
  rw [List.find?_flatMap, List.findSome?_eq_some_iff]
  simp only [find?_uses_of_step reads, find?_uses_of_step_eq_none_iff reads, and_assoc]

omit reads in
/-- A first use is a use. -/
theorem FirstUse.told {graph : StoryGraph} {use : StoryUse} (first : FirstUse names graph use) :
    Told names graph.events use.name := by
  obtain ⟨before, step, after, split, _, ⟨event, member, named⟩, _⟩ := first
  have isStep : step ∈ graph.steps := by
    rw [split]
    exact List.mem_append_right before List.mem_cons_self
  exact ⟨event, List.mem_flatMap.mpr ⟨step, isStep, member⟩, named⟩

omit reads in
/-- The names of the uses are those of the events. -/
theorem map_name_uses (graph : StoryGraph) :
    (graph.uses name?).map StoryUse.name = graph.events.filterMap name? := by
  simp [uses, events, List.map_flatMap, List.filterMap_flatMap, Function.comp_def]

/-- A name that is told has a first use. -/
theorem Told.exists_firstUse {graph : StoryGraph} {name : String}
    (told : Told names graph.events name) : ∃ story, FirstUse names graph ⟨story, name⟩ := by
  rw [← mem_filterMap_iff_told reads, ← map_name_uses] at told
  obtain ⟨use, member, rfl⟩ := List.mem_map.mp told
  have isFound : ((graph.uses name?).find? fun other => other.name == use.name).isSome :=
    List.find?_isSome.mpr ⟨use, member, beq_self_eq_true use.name⟩
  obtain ⟨⟨story, name⟩, found⟩ := Option.isSome_iff_exists.mp isFound
  obtain rfl : name = use.name := by simpa using List.find?_some found
  exact ⟨story, (find?_uses_iff reads graph ⟨story, use.name⟩).mp found⟩

/-- There is no first use to list exactly if no name in question is told. -/
theorem ListsFirstUses.eq_nil_iff {graph : StoryGraph} {asked : String → Prop}
    {uses : List StoryUse} (lists : ListsFirstUses names graph asked uses) :
    uses = [] ↔ ∀ name, Told names graph.events name → ¬asked name := by
  rw [List.eq_nil_iff_forall_not_mem]
  constructor
  · intro unlisted name told isAsked
    obtain ⟨story, first⟩ := told.exists_firstUse reads
    exact unlisted ⟨story, name⟩ ((lists.mem_iff _).mpr ⟨isAsked, first⟩)
  · intro unasked use member
    obtain ⟨isAsked, first⟩ := (lists.mem_iff use).mp member
    exact unasked use.name first.told isAsked

omit reads in
/-- Only what is asked of names that are told matters. -/
theorem ListsFirstUses.congr {graph : StoryGraph} {asked others : String → Prop}
    {uses : List StoryUse} (lists : ListsFirstUses names graph asked uses)
    (same : ∀ name, Told names graph.events name → (asked name ↔ others name)) :
    ListsFirstUses names graph others uses := by
  refine ⟨?_, lists.once, lists.inOrder⟩
  intro use
  rw [lists.mem_iff]
  apply and_congr_left
  intro first
  exact same use.name first.told

/-- Uses that come in front of others have names that are told before. -/
theorem toldBefore_of_prefix {graph : StoryGraph} {front : List StoryUse}
    (isPrefix : front <+: graph.uses name?) {first second : String}
    (isFirst : first ∈ front.map StoryUse.name) (missing : second ∉ front.map StoryUse.name) :
    ToldBefore names graph first second := by
  have namesPrefix := isPrefix.map StoryUse.name
  rw [map_name_uses, List.prefix_filterMap_iff] at namesPrefix
  obtain ⟨events, eventsPrefix, fronts⟩ := namesPrefix
  rw [fronts, mem_filterMap_iff_told reads] at isFirst missing
  exact ⟨events, eventsPrefix, isFirst, missing⟩

omit reads in
/-- A name is not told before itself. -/
theorem ToldBefore.ne {graph : StoryGraph} {first second : String}
    (before : ToldBefore names graph first second) : first ≠ second := by
  rintro rfl
  obtain ⟨events, _, told, untold⟩ := before
  exact untold told

/-- What is reported of the stories are the first uses of the names that are not known. -/
theorem listsFirstUses_unknownUses (graph : StoryGraph) {isKnown : String → Bool}
    {asked : String → Prop} (unknown_iff : ∀ {name}, isKnown name = false ↔ asked name) :
    ListsFirstUses names graph asked (graph.unknownUses name? isKnown) := by
  have ordered : ((graph.unknownUses name? isKnown).map StoryUse.name).Pairwise
      (ToldBefore names graph) := by
    apply List.pairwise_map.mpr
    apply List.Pairwise.filter
    apply pairwise_firstUses.imp
    rintro first second ⟨front, isPrefix, isFirst, missing⟩
    exact toldBefore_of_prefix reads isPrefix (List.mem_map_of_mem isFirst) missing
  constructor
  · intro use
    unfold unknownUses
    rw [List.mem_filter, mem_firstUses_iff, find?_uses_iff reads, Bool.not_eq_true', unknown_iff]
    simp [Table.contains, and_comm]
  · exact ordered.imp ToldBefore.ne
  · exact ordered

end StoryGraph

namespace Assistant

variable (assistant : Assistant)

/-- The actions that are reported are those that stories run without a declaration. -/
theorem listsFirstUses_unknownActions :
    StoryGraph.ListsFirstUses Event.Executes assistant.stories
      (fun action => assistant.domain.hasAction action = false ∧ action ∉ defaultActions)
      assistant.unknownActions := by
  apply StoryGraph.listsFirstUses_unknownUses Event.actionName?_eq_some_iff
  intro action
  simp

/-- The forms that are reported are those that stories activate without a declaration. -/
theorem listsFirstUses_unknownForms :
    StoryGraph.ListsFirstUses Event.Activates assistant.stories
      (fun form => assistant.domain.form? form = none) assistant.unknownForms := by
  apply StoryGraph.listsFirstUses_unknownUses Event.activatedForm?_eq_some_iff
  intro form
  simp

end Assistant

end Dialogue
