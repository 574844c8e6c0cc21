import Dialogue.Story.Graph
import Dialogue.Proofs.Json.Equality
import Dialogue.Proofs.Table.Lookup
import Dialogue.Proofs.Tracker.Replay
import Mathlib.Data.List.Lex
import Mathlib.Data.List.Nodup

/-!
# Paths through a story graph

A path is a list of step positions.  It begins where stories begin, takes no step
twice, and goes from step to step through checkpoints whose conditions the
conversation told so far satisfies.  A story is a path that no further step can
follow.

Paths are compared lexicographically.  What matters for the order of stories is not
that order itself but where two paths part: if the first takes the smaller step there,
then everything that extends the first comes before everything that extends the second.
-/

namespace Dialogue

/-! ## Where paths part -/

/-- The lists agree up to a place where the first has the smaller item. -/
def PartsBefore (left right : List Nat) : Prop :=
  ∃ common first second leftRest rightRest,
    left = common ++ first :: leftRest ∧ right = common ++ second :: rightRest ∧ first < second

namespace PartsBefore

theorem concat (path : List Nat) {first second : Nat} (less : first < second) :
    PartsBefore (path ++ [first]) (path ++ [second]) :=
  ⟨path, first, second, [], [], rfl, rfl, less⟩

variable {left right : List Nat}

/-- Lists that have parted stay apart. -/
theorem mono {longLeft longRight : List Nat} (parts : PartsBefore left right)
    (leftPrefix : left <+: longLeft) (rightPrefix : right <+: longRight) :
    PartsBefore longLeft longRight := by
  obtain ⟨common, first, second, leftRest, rightRest, rfl, rfl, less⟩ := parts
  obtain ⟨leftMore, rfl⟩ := leftPrefix
  obtain ⟨rightMore, rfl⟩ := rightPrefix
  exact ⟨common, first, second, leftRest ++ leftMore, rightRest ++ rightMore,
    by simp, by simp, less⟩

theorem lt (parts : PartsBefore left right) : left < right := by
  obtain ⟨common, first, second, leftRest, rightRest, rfl, rfl, less⟩ := parts
  exact List.Lex.append_left _ (List.Lex.rel less) common

end PartsBefore

/-! ## Conditions -/

/-- The value of a slot in a conversation, which is null where it has none. -/
inductive Tracker.Shows (tracker : Tracker) (slot : String) : Json → Prop where
  | held {value : Json} (found : tracker.state.slots.find? slot = some value) :
      Shows tracker slot value
  | unset (missing : tracker.state.slots.find? slot = none) : Shows tracker slot .null

/-- Every slot that a checkpoint asks about has the value asked for, up to the signs of
zeros. -/
def Checkpoint.Met (checkpoint : Checkpoint) (tracker : Tracker) : Prop :=
  ∀ slot expected, checkpoint.conditions.find? slot = some expected →
    ∃ value, tracker.Shows slot value ∧ value.plainZeros = expected.plainZeros

theorem Tracker.shows_iff {tracker : Tracker} {slot : String} {value : Json} :
    tracker.Shows slot value ↔ (tracker.slot? slot).getD .null = value := by
  have shown : tracker.Shows slot ((tracker.slot? slot).getD .null) := by
    unfold slot?
    cases found : tracker.state.slots.find? slot with
    | none => exact .unset found
    | some held => cases held <;> exact .held found
  constructor
  · intro shows
    cases shows with
    | held found =>
        unfold slot?
        rw [found]
        cases value <;> rfl
    | unset missing =>
        unfold slot?
        rw [missing]
        rfl
  · rintro rfl
    exact shown

theorem Checkpoint.isSatisfied_iff {checkpoint : Checkpoint} {tracker : Tracker} :
    checkpoint.isSatisfied tracker = true ↔ checkpoint.Met tracker := by
  unfold isSatisfied Met
  simp only [List.all_eq_true, Prod.forall, Table.find?_eq_some_iff, Tracker.shows_iff,
    exists_eq_left', ← Json.same_iff]
  rfl

namespace StoryStep

/-- A step leads to another through an end of the one and a start of the other. -/
theorem leadsTo_iff {step next : StoryStep} {tracker : Tracker} :
    step.leadsTo next tracker = true ↔
      ∃ finish ∈ step.ends, ∃ start ∈ next.starts, start.name = finish.name ∧
        start.Met tracker ∧ finish.Met tracker := by
  simp [leadsTo, Checkpoint.isSatisfied_iff, and_assoc]

theorem startsStory_iff {step : StoryStep} :
    step.startsStory = true ↔ ∃ start ∈ step.starts, start.name = storyStart := by
  simp [startsStory]

end StoryStep

namespace StoryGraph

/-! ## Paths -/

section

variable (graph : StoryGraph) (domain : Domain)

/-- The conversation after one more step. -/
def tell (tracker : Tracker) (position : Nat) : Tracker :=
  match graph.steps[position]? with
  | some step => tracker.extend (step.explicitEvents tracker)
  | none => tracker

/-- The conversation after the steps of a path. -/
def conversation (path : List Nat) : Tracker :=
  path.foldl graph.tell (Tracker.new "" domain.slotSchema)

/-- A start of the next step has the name of an end of the previous one, and the
conversation satisfies the conditions of both. -/
def Joined (tracker : Tracker) (previous next : Nat) : Prop :=
  ∃ last step, graph.steps[previous]? = some last ∧ graph.steps[next]? = some step ∧
    ∃ finish ∈ last.ends, ∃ start ∈ step.starts, start.name = finish.name ∧
      start.Met tracker ∧ finish.Met tracker

/-- A list of step positions that a conversation can follow. -/
structure IsPath (path : List Nat) : Prop where
  /-- The first step is one with which stories begin. -/
  begins : ∃ first step, path.head? = some first ∧ graph.steps[first]? = some step ∧
    ∃ start ∈ step.starts, start.name = storyStart
  /-- No step is taken twice. -/
  nodup : path.Nodup
  /-- Each step is joined to the one before it, given what has been told up to there. -/
  joined : ∀ earlier previous next later, path = earlier ++ previous :: next :: later →
    graph.Joined (graph.conversation domain (earlier ++ [previous])) previous next

/-- A path to which no further step can be appended. -/
structure IsStory (path : List Nat) : Prop where
  isPath : graph.IsPath domain path
  maximal : ∀ next, ¬graph.IsPath domain (path ++ [next])

end

variable {graph : StoryGraph} {domain : Domain} {path : List Nat}

theorem conversation_concat {position : Nat} {step : StoryStep}
    (found : graph.steps[position]? = some step) :
    graph.conversation domain (path ++ [position]) =
      (graph.conversation domain path).extend
        (step.explicitEvents (graph.conversation domain path)) := by
  unfold conversation
  rw [List.foldl_append, List.foldl_cons, List.foldl_nil, tell, found]

theorem isPath_singleton_iff {position : Nat} :
    graph.IsPath domain [position] ↔
      ∃ step, graph.steps[position]? = some step ∧ step.startsStory = true := by
  constructor
  · intro isPath
    obtain ⟨first, step, head, found, begins⟩ := isPath.begins
    obtain rfl : position = first := by simpa using head
    exact ⟨step, found, StoryStep.startsStory_iff.mpr begins⟩
  · rintro ⟨step, found, begins⟩
    constructor
    · exact ⟨position, step, rfl, found, StoryStep.startsStory_iff.mp begins⟩
    · exact List.nodup_singleton position
    · intro earlier previous next later split
      have length := congrArg List.length split
      simp at length
      omega

/-- A path goes on with a step that is new and joined to the last one. -/
theorem isPath_concat_iff {previous next : Nat} :
    graph.IsPath domain (path ++ [previous] ++ [next]) ↔
      graph.IsPath domain (path ++ [previous]) ∧ next ∉ path ++ [previous] ∧
        graph.Joined (graph.conversation domain (path ++ [previous])) previous next := by
  have head : (path ++ [previous] ++ [next]).head? = (path ++ [previous]).head? := by
    cases path <;> rfl
  constructor
  · intro isPath
    obtain ⟨nodup, _, apart⟩ := List.nodup_append.mp isPath.nodup
    refine ⟨⟨?_, nodup, ?_⟩, ?_, ?_⟩
    · rw [← head]
      exact isPath.begins
    · intro earlier earlierPrevious earlierNext later split
      apply isPath.joined earlier earlierPrevious earlierNext (later ++ [next])
      rw [split]
      simp
    · intro taken
      exact apart next taken next (List.mem_singleton_self next) rfl
    · exact isPath.joined path previous next [] (by simp)
  · rintro ⟨isPath, fresh, joined⟩
    constructor
    · rw [head]
      exact isPath.begins
    · refine List.nodup_append.mpr ⟨isPath.nodup, List.nodup_singleton next, ?_⟩
      intro earlier taken other last same
      obtain rfl := List.mem_singleton.mp last
      exact fresh (same ▸ taken)
    · -- The last pair of steps is the new one; any other lies in the path before it.
      intro earlier earlierPrevious earlierNext later split
      cases later using List.reverseRecOn with
      | nil =>
          have ends :
              path ++ [previous] ++ [next] = earlier ++ [earlierPrevious] ++ [earlierNext] := by
            simpa using split
          obtain ⟨front, rfl⟩ := List.append_singleton_inj.mp ends
          obtain ⟨rfl, rfl⟩ := List.append_singleton_inj.mp front
          exact joined
      | append_singleton later last _ =>
          have ends : path ++ [previous] ++ [next] =
              earlier ++ earlierPrevious :: earlierNext :: later ++ [last] := by
            simpa using split
          obtain ⟨front, _⟩ := List.append_singleton_inj.mp ends
          exact isPath.joined earlier earlierPrevious earlierNext later front

theorem IsPath.ne_nil (isPath : graph.IsPath domain path) : path ≠ [] := by
  rintro rfl
  obtain ⟨first, step, head, _⟩ := isPath.begins
  simp at head

/-- The last position of a path is that of a step. -/
theorem IsPath.exists_step {position : Nat} (isPath : graph.IsPath domain (path ++ [position])) :
    ∃ step, graph.steps[position]? = some step := by
  cases path using List.reverseRecOn with
  | nil =>
      obtain ⟨step, found, _⟩ := isPath_singleton_iff.mp isPath
      exact ⟨step, found⟩
  | append_singleton path previous _ =>
      obtain ⟨_, _, last, step, _, found, _⟩ := isPath_concat_iff.mp isPath
      exact ⟨step, found⟩

/-- What a path begins with is a path. -/
theorem IsPath.of_append {short rest : List Nat} (isPath : graph.IsPath domain (short ++ rest))
    (nonempty : short ≠ []) : graph.IsPath domain short := by
  induction rest using List.reverseRecOn with
  | nil => simpa using isPath
  | append_singleton rest position ih =>
      apply ih
      rw [← List.append_assoc] at isPath
      rcases List.eq_nil_or_concat (short ++ rest) with empty | ⟨before, previous, split⟩
      · exact absurd (List.append_eq_nil_iff.mp empty).1 nonempty
      · rw [split, List.concat_eq_append] at isPath
        rw [split, List.concat_eq_append]
        exact (isPath_concat_iff.mp isPath).1

/-- Every position of a path is that of a step. -/
theorem IsPath.exists_steps (isPath : graph.IsPath domain path) :
    ∃ taken : List StoryStep,
      path.map (fun position => graph.steps[position]?) = taken.map some := by
  have found : ∀ position ∈ path, ∃ step, graph.steps[position]? = some step := by
    intro position member
    obtain ⟨before, after, rfl⟩ := List.mem_iff_append.mp member
    rw [← List.singleton_append, ← List.append_assoc] at isPath
    exact (isPath.of_append (by simp)).exists_step
  clear isPath
  induction path with
  | nil => exact ⟨[], rfl⟩
  | cons position rest ih =>
      obtain ⟨step, first⟩ := found position List.mem_cons_self
      obtain ⟨taken, later⟩ := ih fun other member => found other (List.mem_cons_of_mem _ member)
      exact ⟨step :: taken, by rw [List.map_cons, first, later, List.map_cons]⟩

/-- A path that begins with another one is the same, or goes on with a step. -/
theorem IsPath.eq_or_prefix_concat {short : List Nat} (isPath : graph.IsPath domain path)
    (shortPrefix : short <+: path) :
    short = path ∨ ∃ next, graph.IsPath domain (short ++ [next]) ∧ short ++ [next] <+: path := by
  obtain ⟨rest, rfl⟩ := shortPrefix
  cases rest with
  | nil => exact .inl (by simp)
  | cons next rest =>
      have split : short ++ next :: rest = short ++ [next] ++ rest := by simp
      rw [split] at isPath ⊢
      exact .inr ⟨next, isPath.of_append (by simp), List.prefix_append _ rest⟩

end StoryGraph

end Dialogue
