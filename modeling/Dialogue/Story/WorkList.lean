import Dialogue.Story.Graph

/-!
# Telling the stories of a graph

Stories are told depth first.  The branches that are still to be followed form a
stack; a step that may be followed by several others puts all of them on it, the
first one on top.  The stories therefore come in the order of their step positions,
and after the first ten thousand the rest is left out.
-/

namespace Dialogue

/-- The greatest number of stories that a graph gives. -/
def storyLimit : Nat := 10000

/-- The beginning of a story and the position of the step with which it goes on. -/
structure StoryBranch where
  /-- What has been told. -/
  story : StoryPath
  /-- The step that comes next. -/
  position : Nat

/-- The positions of a branch, with the one that comes next. -/
def StoryBranch.path (branch : StoryBranch) : List Nat :=
  branch.story.path ++ [branch.position]

/-- Takes the step with which a branch goes on. -/
def StoryBranch.enter (branch : StoryBranch) (step : StoryStep) : StoryPath where
  path := branch.path
  tracker := branch.story.tracker.extend (step.explicitEvents branch.story.tracker)

namespace StoryGraph

/-- Puts branches on the work list one after the other, so the last is taken first. -/
def push (pending branches : List StoryBranch) : List StoryBranch :=
  branches.foldl (fun pending branch => branch :: pending) pending

/-- What is pushed in reverse is taken in order. -/
theorem push_reverse (pending branches : List StoryBranch) :
    push pending branches.reverse = branches ++ pending := by
  unfold push
  rw [List.foldl_reverse]
  induction branches with
  | nil => rfl
  | cons branch rest ih => rw [List.foldr_cons, ih, List.cons_append]

/-- The positions that a path has not taken. -/
def openPositions (graph : StoryGraph) (path : List Nat) : List Nat :=
  (List.range graph.steps.length).filter fun position => !path.contains position

/-- Every round replaces a branch by at most as many branches as there are steps, each
with an open position less; so this exceeds the number of rounds that a branch takes. -/
def weight (graph : StoryGraph) (branch : StoryBranch) : Nat :=
  Nat.pow (graph.steps.length + 1) (graph.openPositions branch.path).length

/-- The weight of all branches of a work list. -/
def load (graph : StoryGraph) : List StoryBranch → Nat
  | [] => 0
  | branch :: pending => graph.weight branch + graph.load pending

theorem weight_pos (graph : StoryGraph) (branch : StoryBranch) : 0 < graph.weight branch :=
  Nat.pow_pos (Nat.succ_pos _)

theorem load_cons (graph : StoryGraph) (branch : StoryBranch) (pending : List StoryBranch) :
    graph.load (branch :: pending) = graph.weight branch + graph.load pending :=
  rfl

theorem load_append (graph : StoryGraph) (first second : List StoryBranch) :
    graph.load (first ++ second) = graph.load first + graph.load second := by
  induction first with
  | nil => simp [load]
  | cons branch rest ih => rw [List.cons_append, load_cons, load_cons, ih, Nat.add_assoc]

theorem load_mul_le (graph : StoryGraph) {factor bound : Nat} {branches : List StoryBranch}
    (light : ∀ branch ∈ branches, graph.weight branch * factor ≤ bound) :
    graph.load branches * factor ≤ branches.length * bound := by
  induction branches with
  | nil => simp [load]
  | cons branch rest ih =>
      have first := light branch List.mem_cons_self
      have later := ih fun other member => light other (List.mem_cons_of_mem branch member)
      rw [load_cons, List.length_cons, Nat.add_mul, Nat.succ_mul]
      omega

/-- The positions of the steps that pass a test. -/
theorem mem_positions_iff {steps : List StoryStep} {keep : StoryStep × Nat → Bool}
    {position : Nat} :
    position ∈ (steps.zipIdx.filter keep).map Prod.snd ↔
      ∃ step, steps[position]? = some step ∧ keep (step, position) = true := by
  constructor
  · intro member
    obtain ⟨⟨step, place⟩, kept, rfl⟩ := List.mem_map.mp member
    obtain ⟨listed, passes⟩ := List.mem_filter.mp kept
    exact ⟨step, List.mk_mem_zipIdx_iff_getElem?.mp listed, passes⟩
  · rintro ⟨step, found, passes⟩
    have listed := List.mk_mem_zipIdx_iff_getElem?.mpr found
    exact List.mem_map.mpr ⟨(step, position), List.mem_filter.mpr ⟨listed, passes⟩, rfl⟩

theorem mem_continuations_iff {graph : StoryGraph} {step : StoryStep} {story : StoryPath}
    {position : Nat} :
    position ∈ graph.continuations step story ↔
      ∃ next, graph.steps[position]? = some next ∧ position ∉ story.path ∧
        step.leadsTo next story.tracker = true := by
  unfold continuations
  rw [mem_positions_iff]
  simp

theorem length_continuations_le (graph : StoryGraph) (step : StoryStep) (story : StoryPath) :
    (graph.continuations step story).length ≤ graph.steps.length := by
  unfold continuations
  rw [List.length_map]
  exact Nat.le_trans (List.length_filter_le _ _) (by simp)

/-- A further step leaves less open. -/
theorem length_openPositions_concat_lt {graph : StoryGraph} {path : List Nat} {position : Nat}
    (inRange : position < graph.steps.length) (fresh : position ∉ path) :
    (graph.openPositions (path ++ [position])).length < (graph.openPositions path).length := by
  have narrower : graph.openPositions (path ++ [position]) =
      (graph.openPositions path).filter fun other => other != position := by
    unfold openPositions
    rw [List.filter_filter]
    congr 1
    funext other
    rw [Bool.eq_iff_iff]
    simp [and_comm]
  rw [narrower, List.length_filter_lt_length_iff_exists]
  exact ⟨position, by simp [openPositions, inRange, fresh], by simp⟩

/-- A branch outweighs each of its continuations by the greatest number of them. -/
theorem weight_continuation_mul_le {graph : StoryGraph} {branch : StoryBranch}
    {step : StoryStep} {position : Nat}
    (follows : position ∈ graph.continuations step (branch.enter step)) :
    graph.weight ⟨branch.enter step, position⟩ * (graph.steps.length + 1) ≤
      graph.weight branch := by
  obtain ⟨next, found, fresh, _⟩ := mem_continuations_iff.mp follows
  have narrower := length_openPositions_concat_lt (List.getElem?_eq_some_iff.mp found).1 fresh
  calc
    _ = Nat.pow (graph.steps.length + 1)
        ((graph.openPositions (branch.path ++ [position])).length + 1) := rfl
    _ ≤ graph.weight branch := Nat.pow_le_pow_right (Nat.succ_pos _) narrower

/-- The continuations of a branch weigh less than the branch, all together. -/
theorem load_continuations_lt (graph : StoryGraph) (branch : StoryBranch) (step : StoryStep) :
    graph.load ((graph.continuations step (branch.enter step)).map
      (StoryBranch.mk (branch.enter step))) < graph.weight branch := by
  have light : ∀ child ∈ (graph.continuations step (branch.enter step)).map
      (StoryBranch.mk (branch.enter step)),
      graph.weight child * (graph.steps.length + 1) ≤ graph.weight branch := by
    intro child member
    obtain ⟨position, follows, rfl⟩ := List.mem_map.mp member
    exact weight_continuation_mul_le follows
  have bounded := graph.load_mul_le light
  rw [List.length_map] at bounded
  apply Nat.lt_of_mul_lt_mul_right (a := graph.steps.length + 1)
  calc
    _ ≤ (graph.continuations step (branch.enter step)).length * graph.weight branch := bounded
    _ ≤ graph.steps.length * graph.weight branch :=
      Nat.mul_le_mul_right _ (graph.length_continuations_le step _)
    _ < graph.weight branch * (graph.steps.length + 1) := by
      rw [Nat.mul_comm, Nat.mul_succ]
      exact Nat.lt_add_of_pos_right (graph.weight_pos branch)

theorem load_lt_load_cons (graph : StoryGraph) (branch : StoryBranch)
    (pending : List StoryBranch) : graph.load pending < graph.load (branch :: pending) := by
  rw [load_cons]
  exact Nat.lt_add_of_pos_left (graph.weight_pos branch)

/-- The work list gets lighter when a branch gives way to its continuations. -/
theorem load_push_continuations_lt (graph : StoryGraph) (branch : StoryBranch)
    (step : StoryStep) (pending : List StoryBranch) :
    graph.load (push pending ((graph.continuations step (branch.enter step)).map
      (StoryBranch.mk (branch.enter step))).reverse) < graph.load (branch :: pending) := by
  rw [push_reverse, load_append, load_cons]
  exact Nat.add_lt_add_right (graph.load_continuations_lt branch step) _

/-- Tells stories until the work list is empty, or until there is no room for another;
the flag says whether branches are left then. -/
def drain (graph : StoryGraph) (room : Nat) : List StoryBranch → List StoryPath × Bool
  | [] => ([], false)
  | branch :: pending =>
      if room = 0 then ([], true)
      else
        match graph.steps[branch.position]? with
        | none => graph.drain room pending
        | some step =>
            let story := branch.enter step
            let nexts := graph.continuations step story
            if nexts.isEmpty then
              let later := graph.drain (room - 1) pending
              (story :: later.1, later.2)
            else graph.drain room (push pending (nexts.map (StoryBranch.mk story)).reverse)
termination_by pending => graph.load pending
decreasing_by
  · exact graph.load_lt_load_cons branch pending
  · exact graph.load_lt_load_cons branch pending
  · exact graph.load_push_continuations_lt branch step pending

/-- The positions of the steps with which stories may begin. -/
def startPositions (graph : StoryGraph) : List Nat :=
  (graph.steps.zipIdx.filter fun (step, _) => step.startsStory).map Prod.snd

/-- The branches with which stories begin. -/
def starts (graph : StoryGraph) (domain : Domain) : List StoryBranch :=
  graph.startPositions.map (StoryBranch.mk ⟨[], Tracker.new "" domain.slotSchema⟩)

/-- The first stories, as many as the limit allows, and whether there are more. -/
def stories (graph : StoryGraph) (domain : Domain) : List StoryPath × Bool :=
  graph.drain storyLimit (push [] (graph.starts domain).reverse)

/-- The trackers of the first stories. -/
def trackers (graph : StoryGraph) (domain : Domain) : List Tracker :=
  (graph.stories domain).1.map graph.finish

/-- Whether there are more stories than the limit. -/
def isTruncated (graph : StoryGraph) (domain : Domain) : Bool :=
  (graph.stories domain).2

end StoryGraph

end Dialogue
