import Dialogue.Story.WorkList
import Dialogue.Proofs.Story.Path

/-!
# The stories of a graph in order

The work list of a graph holds beginnings of paths that have parted from one another,
in the order of their steps, and every round keeps it so.  What a work list stands for
are the stories that begin with one of its branches: a round either tells such a story
or replaces a branch by the branches that extend it, and loses none.
-/

namespace Dialogue

namespace StoryGraph

variable {graph : StoryGraph} {domain : Domain}

/-! ## Branches and their continuations -/

variable (graph domain) in
/-- A branch that may be followed. -/
structure Ready (branch : StoryBranch) : Prop where
  isPath : graph.IsPath domain branch.path
  told : branch.story.tracker = graph.conversation domain branch.story.path

namespace Ready

variable {branch : StoryBranch} {step : StoryStep}

theorem exists_step (ready : graph.Ready domain branch) :
    ∃ step, graph.steps[branch.position]? = some step :=
  ready.isPath.exists_step

theorem enter_eq (ready : graph.Ready domain branch)
    (found : graph.steps[branch.position]? = some step) :
    branch.enter step = ⟨branch.path, graph.conversation domain branch.path⟩ := by
  rw [StoryBranch.enter, StoryBranch.path, conversation_concat found, ready.told]

theorem enter_tracker (ready : graph.Ready domain branch)
    (found : graph.steps[branch.position]? = some step) :
    (branch.enter step).tracker = graph.conversation domain branch.path := by
  rw [ready.enter_eq found]

/-- The continuations are the positions with which the path goes on. -/
theorem mem_continuations_iff_isPath (ready : graph.Ready domain branch)
    (found : graph.steps[branch.position]? = some step) {next : Nat} :
    next ∈ graph.continuations step (branch.enter step) ↔
      graph.IsPath domain (branch.path ++ [next]) := by
  have extends_iff : graph.IsPath domain (branch.path ++ [next]) ↔
      next ∉ branch.path ∧
        graph.Joined (graph.conversation domain branch.path) branch.position next :=
    isPath_concat_iff.trans (and_iff_right ready.isPath)
  rw [mem_continuations_iff, extends_iff, ready.enter_tracker found]
  constructor
  · rintro ⟨step', found', fresh, follows⟩
    exact ⟨fresh, step, step', found, found', StoryStep.leadsTo_iff.mp follows⟩
  · rintro ⟨fresh, last, step', foundLast, found', follows⟩
    obtain rfl : step = last := Option.some.inj (found.symm.trans foundLast)
    exact ⟨step', found', fresh, StoryStep.leadsTo_iff.mpr follows⟩

/-- What a continuation leads to may be followed in turn. -/
theorem continuation (ready : graph.Ready domain branch)
    (found : graph.steps[branch.position]? = some step) {next : Nat}
    (follows : next ∈ graph.continuations step (branch.enter step)) :
    graph.Ready domain ⟨branch.enter step, next⟩ where
  isPath := (ready.mem_continuations_iff_isPath found).mp follows
  told := ready.enter_tracker found

/-- A branch without continuations is a story. -/
theorem isStory_iff (ready : graph.Ready domain branch)
    (found : graph.steps[branch.position]? = some step) :
    graph.IsStory domain branch.path ↔
      graph.continuations step (branch.enter step) = [] := by
  rw [List.eq_nil_iff_forall_not_mem]
  constructor
  · intro story next follows
    exact story.maximal next ((ready.mem_continuations_iff_isPath found).mp follows)
  · intro none
    refine ⟨ready.isPath, ?_⟩
    intro next longer
    exact none next ((ready.mem_continuations_iff_isPath found).mpr longer)

/-- A story begins with a branch if it ends there or begins with a continuation. -/
theorem prefix_iff (ready : graph.Ready domain branch)
    (found : graph.steps[branch.position]? = some step) {path : List Nat}
    (isPath : graph.IsPath domain path) :
    branch.path <+: path ↔
      branch.path = path ∨ ∃ child ∈ (graph.continuations step (branch.enter step)).map
        (StoryBranch.mk (branch.enter step)), child.path <+: path := by
  constructor
  · intro begins
    rcases isPath.eq_or_prefix_concat begins with whole | ⟨next, longer, begins⟩
    · exact .inl whole
    · have follows := (ready.mem_continuations_iff_isPath found).mpr longer
      exact .inr ⟨_, List.mem_map_of_mem follows, begins⟩
  · rintro (rfl | ⟨child, member, begins⟩)
    · exact List.prefix_rfl
    · obtain ⟨next, _, rfl⟩ := List.mem_map.mp member
      exact (List.prefix_append branch.path [next]).trans begins

end Ready

/-- Positions of steps are listed in their order. -/
theorem pairwise_positions (steps : List StoryStep) (keep : StoryStep × Nat → Bool) :
    ((steps.zipIdx.filter keep).map Prod.snd).Pairwise (· < ·) := by
  have all : (steps.zipIdx.map Prod.snd).Pairwise (· < ·) := by
    rw [List.zipIdx_map_snd]
    exact List.pairwise_lt_range'
  exact all.sublist (List.filter_sublist.map Prod.snd)

/-! ## The invariant of the work list -/

variable (graph domain) in
/-- The branches may be followed, and they have parted in the order of their steps. -/
structure InOrder (pending : List StoryBranch) : Prop where
  ready : ∀ branch ∈ pending, graph.Ready domain branch
  parted : pending.Pairwise fun first second => PartsBefore first.path second.path

namespace InOrder

variable {branch : StoryBranch} {pending : List StoryBranch} {step : StoryStep}

theorem head (order : graph.InOrder domain (branch :: pending)) : graph.Ready domain branch :=
  order.ready branch List.mem_cons_self

theorem tail (order : graph.InOrder domain (branch :: pending)) :
    graph.InOrder domain pending where
  ready := fun other member => order.ready other (List.mem_cons_of_mem branch member)
  parted := (List.pairwise_cons.mp order.parted).2

/-- A branch may give way to its continuations. -/
theorem grow (order : graph.InOrder domain (branch :: pending))
    (found : graph.steps[branch.position]? = some step) :
    graph.InOrder domain (push pending ((graph.continuations step (branch.enter step)).map
      (StoryBranch.mk (branch.enter step))).reverse) := by
  rw [push_reverse]
  constructor
  · intro other member
    rcases List.mem_append.mp member with child | waiting
    · obtain ⟨next, follows, rfl⟩ := List.mem_map.mp child
      exact order.head.continuation found follows
    · exact order.tail.ready other waiting
  · refine List.pairwise_append.mpr ⟨?_, order.tail.parted, ?_⟩
    · rw [List.pairwise_map]
      exact (pairwise_positions graph.steps _).imp (PartsBefore.concat branch.path)
    · intro child childMember other waiting
      obtain ⟨next, _, rfl⟩ := List.mem_map.mp childMember
      exact ((List.pairwise_cons.mp order.parted).1 other waiting).mono
        (List.prefix_append branch.path [next]) List.prefix_rfl

end InOrder

/-! ## All stories of a work list -/

/-- The stories of a work list, however many there are. -/
def allStories (graph : StoryGraph) : List StoryBranch → List StoryPath
  | [] => []
  | branch :: pending =>
      match graph.steps[branch.position]? with
      | none => graph.allStories pending
      | some step =>
          let story := branch.enter step
          let nexts := graph.continuations step story
          if nexts.isEmpty then story :: graph.allStories pending
          else graph.allStories (push pending (nexts.map (StoryBranch.mk story)).reverse)
termination_by pending => graph.load pending
decreasing_by
  · exact graph.load_lt_load_cons branch pending
  · exact graph.load_lt_load_cons branch pending
  · exact graph.load_push_continuations_lt branch step pending

/-- Exactly the stories that begin with a branch of the work list are told. -/
theorem mem_allStories_iff {pending : List StoryBranch}
    (order : graph.InOrder domain pending) {story : StoryPath} :
    story ∈ graph.allStories pending ↔
      graph.IsStory domain story.path ∧
        story.tracker = graph.conversation domain story.path ∧
        ∃ branch ∈ pending, branch.path <+: story.path := by
  fun_induction allStories graph pending with
  | case1 => simp
  | case2 branch pending missing _ =>
      obtain ⟨step, found⟩ := order.head.exists_step
      simp [found] at missing
  | case3 branch pending step found entered nexts none ih =>
      have whole : graph.IsStory domain branch.path :=
        (order.head.isStory_iff found).mpr (List.isEmpty_iff.mp none)
      rw [List.mem_cons, ih order.tail]
      constructor
      · rintro (rfl | ⟨isStory, told, other, waiting, begins⟩)
        · exact ⟨whole, order.head.enter_tracker found, branch, List.mem_cons_self,
            List.prefix_rfl⟩
        · exact ⟨isStory, told, other, List.mem_cons_of_mem branch waiting, begins⟩
      · rintro ⟨isStory, told, other, member, begins⟩
        rcases List.mem_cons.mp member with first | waiting
        · rw [first] at begins
          rcases isStory.isPath.eq_or_prefix_concat begins with same | ⟨next, longer, _⟩
          · left
            calc
              story = ⟨branch.path, graph.conversation domain branch.path⟩ := by
                rw [same, ← told]
              _ = entered := (order.head.enter_eq found).symm
          · exact absurd longer (whole.maximal next)
        · exact .inr ⟨isStory, told, other, waiting, begins⟩
  | case4 branch pending step found entered nexts some ih =>
      rw [ih (order.grow found), push_reverse]
      apply and_congr_right
      intro isStory
      apply and_congr_right
      intro _
      have goesOn : branch.path ≠ story.path := by
        intro same
        rw [← same, order.head.isStory_iff found] at isStory
        exact some (List.isEmpty_iff.mpr isStory)
      simp only [List.mem_append, List.mem_cons, or_and_right, exists_or, exists_eq_left]
      rw [order.head.prefix_iff found isStory.isPath, or_iff_right goesOn]

theorem allStories_parted {pending : List StoryBranch}
    (order : graph.InOrder domain pending) :
    (graph.allStories pending).Pairwise fun first second =>
      PartsBefore first.path second.path := by
  fun_induction allStories graph pending with
  | case1 => exact List.Pairwise.nil
  | case2 branch pending _ ih => exact ih order.tail
  | case3 branch pending step found entered nexts none ih =>
      refine List.pairwise_cons.mpr ⟨?_, ih order.tail⟩
      intro later member
      obtain ⟨_, _, other, waiting, begins⟩ := (mem_allStories_iff order.tail).mp member
      exact ((List.pairwise_cons.mp order.parted).1 other waiting).mono List.prefix_rfl begins
  | case4 branch pending step found entered nexts _ ih => exact ih (order.grow found)

theorem allStories_ne_nil {pending : List StoryBranch}
    (order : graph.InOrder domain pending) (nonempty : pending ≠ []) :
    graph.allStories pending ≠ [] := by
  fun_induction allStories graph pending with
  | case1 => exact absurd rfl nonempty
  | case2 branch pending missing _ =>
      obtain ⟨step, found⟩ := order.head.exists_step
      simp [found] at missing
  | case3 => simp
  | case4 branch pending step found entered nexts some ih =>
      apply ih (order.grow found)
      rw [push_reverse]
      simp_all

/-- With little room the first stories are told, and the flag says whether there are more. -/
theorem drain_eq_take {pending : List StoryBranch} (order : graph.InOrder domain pending)
    (room : Nat) :
    graph.drain room pending =
      ((graph.allStories pending).take room, decide (room < (graph.allStories pending).length)) := by
  fun_induction drain graph room pending with
  | case1 => simp [allStories]
  | case2 branch pending =>
      have told := allStories_ne_nil order (by simp)
      simpa [List.length_pos_iff] using told
  | case3 room branch pending full missing ih =>
      obtain ⟨step, found⟩ := order.head.exists_step
      simp [found] at missing
  | case4 room branch pending full step found entered nexts none later ih =>
      obtain ⟨left, rfl⟩ := Nat.exists_eq_succ_of_ne_zero full
      have told : graph.allStories (branch :: pending) = entered :: graph.allStories pending := by
        rw [allStories, found]
        exact if_pos none
      have rest : later = ((graph.allStories pending).take left,
          decide (left < (graph.allStories pending).length)) := ih order.tail
      rw [told, rest]
      simp
  | case5 room branch pending full step found entered nexts some ih =>
      have told : graph.allStories (branch :: pending) =
          graph.allStories (push pending (nexts.map (StoryBranch.mk entered)).reverse) := by
        rw [allStories, found]
        exact if_neg some
      rw [ih (order.grow found), told]

/-! ## The stories of a graph -/

/-- The branches with which stories begin. -/
theorem mem_starts_iff {branch : StoryBranch} :
    branch ∈ graph.starts domain ↔
      branch.story = ⟨[], Tracker.new "" domain.slotSchema⟩ ∧
        graph.IsPath domain [branch.position] := by
  unfold starts startPositions
  rw [isPath_singleton_iff]
  constructor
  · intro member
    obtain ⟨position, start, rfl⟩ := List.mem_map.mp member
    exact ⟨rfl, mem_positions_iff.mp start⟩
  · rintro ⟨begins, start⟩
    rw [← begins]
    exact List.mem_map_of_mem (mem_positions_iff.mpr start)

theorem inOrder_starts (graph : StoryGraph) (domain : Domain) :
    graph.InOrder domain (graph.starts domain) := by
  constructor
  · intro branch member
    obtain ⟨begins, isPath⟩ := mem_starts_iff.mp member
    constructor
    · rw [StoryBranch.path, begins]
      exact isPath
    · rw [begins]
      rfl
  · unfold starts startPositions
    rw [List.pairwise_map]
    exact (pairwise_positions graph.steps _).imp (PartsBefore.concat [])

/-- The stories of a graph are its maximal paths. -/
theorem mem_allStories_starts_iff {story : StoryPath} :
    story ∈ graph.allStories (graph.starts domain) ↔
      graph.IsStory domain story.path ∧
        story.tracker = graph.conversation domain story.path := by
  rw [mem_allStories_iff (inOrder_starts graph domain)]
  constructor
  · rintro ⟨isStory, told, _⟩
    exact ⟨isStory, told⟩
  · rintro ⟨isStory, told⟩
    cases path : story.path with
    | nil => exact absurd path isStory.isPath.ne_nil
    | cons first rest =>
        have isPath : graph.IsPath domain ([first] ++ rest) := by
          rw [List.singleton_append, ← path]
          exact isStory.isPath
        have begins : ⟨⟨[], Tracker.new "" domain.slotSchema⟩, first⟩ ∈ graph.starts domain :=
          mem_starts_iff.mpr ⟨rfl, isPath.of_append (by simp)⟩
        rw [← path]
        refine ⟨isStory, told, _, begins, ?_⟩
        rw [path]
        exact List.prefix_append [first] rest

theorem stories_eq_take (graph : StoryGraph) (domain : Domain) :
    graph.stories domain = ((graph.allStories (graph.starts domain)).take storyLimit,
      decide (storyLimit < (graph.allStories (graph.starts domain)).length)) := by
  unfold stories
  rw [push_reverse, List.append_nil]
  exact drain_eq_take (inOrder_starts graph domain) storyLimit

theorem pathName_eq {path : List Nat} {taken : List StoryStep}
    (steps : path.map (fun position => graph.steps[position]?) = taken.map some) :
    graph.pathName path = " > ".intercalate (taken.map StoryStep.blockName) := by
  have names := congrArg (List.map fun step : Option StoryStep =>
    (step.map StoryStep.blockName).getD "") steps
  rw [List.map_map, List.map_map] at names
  exact congrArg (" > ".intercalate) names

/-- A graph tells its stories, the maximal paths through it, in the strict lexicographic
order of their positions, and leaves out those after the limit.  A story is named after
the blocks of its steps. -/
theorem trackers_enumerate (graph : StoryGraph) (domain : Domain) :
    ∃ paths : List (List Nat),
      (∀ path, path ∈ paths ↔ graph.IsStory domain path) ∧
      paths.Pairwise (· < ·) ∧
      graph.trackers domain = (paths.take storyLimit).map (fun path =>
        graph.finish ⟨path, graph.conversation domain path⟩) ∧
      (graph.isTruncated domain = true ↔ storyLimit < paths.length) ∧
      ∀ path ∈ paths, ∃ steps : List StoryStep,
        path.map (fun position => graph.steps[position]?) = steps.map some ∧
        (graph.finish ⟨path, graph.conversation domain path⟩).senderId =
          " > ".intercalate (steps.map StoryStep.blockName) := by
  have whole : ∀ story ∈ graph.allStories (graph.starts domain),
      story = ⟨story.path, graph.conversation domain story.path⟩ := by
    intro story member
    rw [← (mem_allStories_starts_iff.mp member).2]
  refine ⟨(graph.allStories (graph.starts domain)).map StoryPath.path, ?_, ?_, ?_, ?_, ?_⟩
  · intro path
    constructor
    · intro member
      obtain ⟨story, told, rfl⟩ := List.mem_map.mp member
      exact (mem_allStories_starts_iff.mp told).1
    · intro isStory
      exact List.mem_map.mpr ⟨⟨path, graph.conversation domain path⟩,
        mem_allStories_starts_iff.mpr ⟨isStory, rfl⟩, rfl⟩
  · rw [List.pairwise_map]
    exact (allStories_parted (inOrder_starts graph domain)).imp PartsBefore.lt
  · unfold trackers
    rw [stories_eq_take, ← List.map_take, List.map_map]
    apply List.map_congr_left
    intro story member
    exact congrArg graph.finish (whole story (List.mem_of_mem_take member))
  · unfold isTruncated
    rw [stories_eq_take, List.length_map]
    exact decide_eq_true_iff
  · intro path member
    obtain ⟨story, told, rfl⟩ := List.mem_map.mp member
    obtain ⟨taken, steps⟩ := (mem_allStories_starts_iff.mp told).1.isPath.exists_steps
    exact ⟨taken, steps, pathName_eq steps⟩

/-- A greeting that leads to booking, and to further steps for guests who are known as
important or of whom nothing is known. -/
def greetings (events : List Event) : StoryGraph where
  steps :=
    let joint (known : List (String × Json)) : Checkpoint := ⟨"greeted", Table.ofList known⟩
    [{ blockName := "greet", starts := [⟨"STORY_START", Table.empty⟩], ends := [joint []],
        events := events },
      { blockName := "book", starts := [joint []], events := [Event.action "action_book"] },
      { blockName := "welcome", starts := [joint [("vip", .bool true)]],
        events := [Event.action "action_welcome"] },
      { blockName := "ask", starts := [joint [("vip", .null)]],
        events := [Event.action "action_ask"] }]

example :
    let domain := Domain.empty.withSlot { name := "vip", type := .bool }
    ((greetings [Event.slotSet "vip" (.bool true)]).trackers domain).map Tracker.senderId =
      ["greet > book", "greet > welcome"] := by cbv

example :
    let domain := Domain.empty.withSlot { name := "vip", type := .bool }
    ((greetings []).trackers domain).map Tracker.senderId = ["greet > book", "greet > ask"] := by
  cbv

end StoryGraph

end Dialogue
