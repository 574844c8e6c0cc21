import Dialogue.Proofs.Story.Enumeration

/-!
# Listening in stories

Every step of a story adds the listen actions that its messages lack, and sees no more
of what was told before it than the last event.  The log of a story is all the same what
its steps tell one after the other, with a listen action in front of exactly those
messages that do not follow one, wherever the steps part.  At the end of a story the
assistant listens after an action that comes last, and after no other event.
-/

namespace Dialogue

/-! ## Events after one another -/

/-- An event as it is told after another one: a message that does not follow a listen
action has one put in front of it. -/
def heard (previous : Option Event) (event : Event) : List Event :=
  if event.isUser = true ∧ previous.any Event.isListen = false then [.listen, event] else [event]

/-- Events told one after the other, each of them after the one just before it. -/
def withListens (events : List Event) : List Event :=
  (List.zipWith heard (none :: events.map some) events).flatten

namespace Event

variable {event : Event}

theorem isUser_eq_false_of_isListen (isListen : event.isListen = true) :
    event.isUser = false := by
  rcases event with ⟨change, _, _⟩
  cases change <;> simp_all [Event.isListen, actionName?, isUser, message?]

end Event

namespace StoryStep

/-- Whether the assistant listens after some events, given whether it did before them. -/
def listensAfter (afterListen : Bool) (events : List Event) : Bool :=
  (events.getLast?.map Event.isListen).getD afterListen

theorem listensAfter_cons (afterListen : Bool) (event : Event) (rest : List Event) :
    listensAfter afterListen (event :: rest) = listensAfter event.isListen rest := by
  unfold listensAfter
  rw [List.getLast?_cons]
  cases rest.getLast? <;> rfl

theorem insertListens_cons (afterListen : Bool) (event : Event) (rest : List Event) :
    insertListens afterListen (event :: rest) =
      if event.isUser = true ∧ afterListen = false then
        .listen :: event :: insertListens event.isListen rest
      else event :: insertListens event.isListen rest := by
  simp only [insertListens]
  cases event.isUser <;> cases afterListen <;> rfl

theorem insertListens_cons_of_added {afterListen : Bool} {event : Event}
    (added : event.isUser = true ∧ afterListen = false) (rest : List Event) :
    insertListens afterListen (event :: rest) =
      .listen :: event :: insertListens event.isListen rest := by
  rw [insertListens_cons, if_pos added]

theorem insertListens_cons_of_kept {afterListen : Bool} {event : Event}
    (kept : ¬(event.isUser = true ∧ afterListen = false)) (rest : List Event) :
    insertListens afterListen (event :: rest) = event :: insertListens event.isListen rest := by
  rw [insertListens_cons, if_neg kept]

/-- Adding listen actions from the left gives each event as it is heard after the one
before it. -/
theorem insertListens_eq_flatten (previous : Option Event) (events : List Event) :
    insertListens (previous.any Event.isListen) events =
      (List.zipWith heard (previous :: events.map some) events).flatten := by
  induction events generalizing previous with
  | nil => rfl
  | cons event rest ih =>
      rw [List.map_cons, List.zipWith_cons_cons, List.flatten_cons, ← ih (some event),
        insertListens_cons, heard]
      split <;> rfl

theorem insertListens_append (afterListen : Bool) (first second : List Event) :
    insertListens afterListen (first ++ second) =
      insertListens afterListen first ++
        insertListens (listensAfter afterListen first) second := by
  induction first generalizing afterListen with
  | nil => rfl
  | cons event rest ih =>
      rw [List.cons_append, insertListens_cons, insertListens_cons, listensAfter_cons, ih]
      split <;> rfl

/-- Nothing is added at the end. -/
theorem getLast?_insertListens (afterListen : Bool) (events : List Event) :
    (insertListens afterListen events).getLast? = events.getLast? := by
  induction events generalizing afterListen with
  | nil => rfl
  | cons event rest ih =>
      rw [insertListens_cons]
      split
      · rw [List.getLast?_cons, List.getLast?_cons, ih, List.getLast?_cons]
        rfl
      · rw [List.getLast?_cons, ih, List.getLast?_cons]

/-! ## What is kept, and where a listen action stands -/

/-- The events are told in their order, with nothing between them but listen actions. -/
theorem sublist_insertListens (afterListen : Bool) (events : List Event) :
    events.Sublist (insertListens afterListen events) := by
  induction events generalizing afterListen with
  | nil => exact List.Sublist.slnil
  | cons event rest ih =>
      rw [insertListens_cons]
      split
      · exact ((ih event.isListen).cons_cons event).cons .listen
      · exact (ih event.isListen).cons_cons event

theorem filter_insertListens {test : Event → Bool} (fails : test .listen = false)
    (afterListen : Bool) (events : List Event) :
    (insertListens afterListen events).filter test = events.filter test := by
  induction events generalizing afterListen with
  | nil => rfl
  | cons event rest ih =>
      rw [insertListens_cons]
      split
      · rw [List.filter_cons_of_neg (by simp [fails]), List.filter_cons, List.filter_cons, ih]
      · rw [List.filter_cons, List.filter_cons, ih]

theorem insertListens_eq_self {events : List Event}
    (silent : ∀ event ∈ events, event.isUser = false) (afterListen : Bool) :
    insertListens afterListen events = events := by
  induction events generalizing afterListen with
  | nil => rfl
  | cons event rest ih =>
      have kept : ¬(event.isUser = true ∧ afterListen = false) := by
        simp [silent event List.mem_cons_self]
      rw [insertListens_cons_of_kept kept, ih fun other member =>
        silent other (List.mem_cons_of_mem event member)]

theorem listensAfter_insertListens (afterListen : Bool) (events : List Event) :
    listensAfter afterListen (insertListens afterListen events) =
      listensAfter afterListen events := by
  rw [listensAfter, getLast?_insertListens, listensAfter]

/-! ## Where a log is cut -/

section

variable {afterListen : Bool} {events before after : List Event}

/-- A log is cut between two events that were told, or between an added listen action and
its message. -/
theorem insertListens_eq_append_cases
    (log : insertListens afterListen events = before ++ after) :
    (∃ front back, events = front ++ back ∧ before = insertListens afterListen front ∧
      after = insertListens (listensAfter afterListen front) back) ∨
    ∃ front message back, events = front ++ message :: back ∧ message.isUser = true ∧
      before = insertListens afterListen front ++ [.listen] ∧
      after = message :: insertListens message.isListen back := by
  induction events generalizing afterListen before with
  | nil =>
      obtain ⟨rfl, rfl⟩ := List.append_eq_nil_iff.mp log.symm
      exact .inl ⟨[], [], rfl, rfl, rfl⟩
  | cons event rest ih =>
      cases before with
      | nil => exact .inl ⟨[], event :: rest, rfl, rfl, log.symm⟩
      | cons first before =>
          by_cases added : event.isUser = true ∧ afterListen = false
          · rw [insertListens_cons_of_added added] at log
            injection log with isListen log
            cases before with
            | nil =>
                exact .inr ⟨[], event, rest, rfl, added.1, by rw [← isListen]; rfl, log.symm⟩
            | cons second before =>
                injection log with isEvent log
                rcases ih log with
                  ⟨front, back, rfl, rfl, rfl⟩ | ⟨front, message, back, rfl, isUser, rfl, rfl⟩
                · refine .inl ⟨event :: front, back, rfl, ?_, by rw [listensAfter_cons]⟩
                  rw [insertListens_cons_of_added added, ← isListen, ← isEvent]
                · refine .inr ⟨event :: front, message, back, rfl, isUser, ?_, rfl⟩
                  rw [insertListens_cons_of_added added, ← isListen, ← isEvent]
                  rfl
          · rw [insertListens_cons_of_kept added] at log
            injection log with isEvent log
            rcases ih log with
              ⟨front, back, rfl, rfl, rfl⟩ | ⟨front, message, back, rfl, isUser, rfl, rfl⟩
            · refine .inl ⟨event :: front, back, rfl, ?_, by rw [listensAfter_cons]⟩
              rw [insertListens_cons_of_kept added, ← isEvent]
            · refine .inr ⟨event :: front, message, back, rfl, isUser, ?_, rfl⟩
              rw [insertListens_cons_of_kept added, ← isEvent]
              rfl

/-- What stands first in a log was told first, or is a listen action for it. -/
theorem insertListens_eq_cons_cases {first : Event}
    (log : insertListens afterListen events = first :: after) :
    ∃ event rest, events = event :: rest ∧
      (first = event ∧ after = insertListens event.isListen rest ∧
          (event.isUser = true → afterListen = true) ∨
        first = .listen ∧ after = event :: insertListens event.isListen rest ∧
          event.isUser = true ∧ afterListen = false) := by
  cases events with
  | nil => cases log
  | cons event rest =>
      refine ⟨event, rest, rfl, ?_⟩
      by_cases added : event.isUser = true ∧ afterListen = false
      · rw [insertListens_cons_of_added added] at log
        injection log with isListen told
        exact .inr ⟨isListen.symm, told.symm, added⟩
      · rw [insertListens_cons_of_kept added] at log
        injection log with isEvent told
        refine .inl ⟨isEvent.symm, told.symm, ?_⟩
        intro isUser
        cases afterListen with
        | true => rfl
        | false => exact absurd ⟨isUser, rfl⟩ added

/-- Just before every message the assistant listens. -/
theorem listensAfter_of_message {message : Event} (isUser : message.isUser = true)
    (log : insertListens afterListen events = before ++ message :: after) :
    listensAfter afterListen before = true := by
  rcases insertListens_eq_append_cases log with
    ⟨front, back, rfl, rfl, told⟩ | ⟨front, _, back, rfl, _, rfl, _⟩
  · rw [listensAfter_insertListens]
    obtain ⟨event, rest, rfl, ⟨rfl, -, listens⟩ | ⟨rfl, -, -⟩⟩ :=
      insertListens_eq_cons_cases told.symm
    · exact listens isUser
    · cases isUser
  · rw [listensAfter, List.getLast?_concat]
    rfl

/-- Two listen actions in a row were told as such: none of them was added. -/
theorem exists_of_adjacent_listens {first second : Event}
    (firstListens : first.isListen = true) (secondListens : second.isListen = true)
    (log : insertListens afterListen events = before ++ first :: second :: after) :
    ∃ front back, events = front ++ first :: second :: back ∧
      before = insertListens afterListen front := by
  have firstSpeaks := Event.isUser_eq_false_of_isListen firstListens
  have secondSpeaks := Event.isUser_eq_false_of_isListen secondListens
  rcases insertListens_eq_append_cases log with
    ⟨front, back, rfl, rfl, told⟩ | ⟨front, message, back, rfl, isUser, rfl, told⟩
  · obtain ⟨event, rest, rfl, ⟨rfl, told, -⟩ | ⟨-, told, isUser⟩⟩ :=
      insertListens_eq_cons_cases told.symm
    · obtain ⟨next, rest, rfl, ⟨rfl, -, -⟩ | ⟨-, -, -, silent⟩⟩ :=
        insertListens_eq_cons_cases told.symm
      · exact ⟨front, rest, rfl, rfl⟩
      · rw [firstListens] at silent
        cases silent
    · injection told with isSecond
      rw [← isSecond, secondSpeaks] at isUser
      cases isUser.1
  · injection told with isFirst
    rw [← isFirst, firstSpeaks] at isUser
    cases isUser

/-- What follows the last message and is not a listen action was told as such, with all
that comes after it. -/
theorem exists_of_insertListens_silent {last : Event} (noListen : last.isListen = false)
    (silent : ∀ event ∈ after, event.isUser = false)
    (log : insertListens afterListen events = before ++ last :: after) :
    ∃ front, events = front ++ last :: after := by
  have whole {flag : Bool} {rest : List Event} (told : after = insertListens flag rest) :
      after = rest := by
    rw [told]
    apply insertListens_eq_self
    intro event member
    apply silent
    rw [told]
    exact (sublist_insertListens _ _).subset member
  rcases insertListens_eq_append_cases log with
    ⟨front, back, rfl, rfl, told⟩ | ⟨front, message, back, rfl, isUser, rfl, told⟩
  · obtain ⟨event, rest, rfl, ⟨rfl, told, -⟩ | ⟨rfl, -, -⟩⟩ :=
      insertListens_eq_cons_cases told.symm
    · exact ⟨front, by rw [whole told]⟩
    · cases noListen
  · injection told with isLast told
    exact ⟨front, by rw [isLast, whole told]⟩

end

end StoryStep

/-! ## The end of a story -/

namespace StoryGraph

/-- Events with a listen action after them if the last one is another action. -/
def closed (events : List Event) : List Event :=
  events ++ if endsWithAction events then [.listen] else []

theorem endsWithAction_concat {front : List Event} {last : Event} :
    endsWithAction (front ++ [last]) = true ↔ last.isAction = true ∧ last.isListen = false := by
  unfold endsWithAction
  simp

/-- The last event of a story was told as such, or is a listen action after another action
that was. -/
theorem closed_eq_concat_cases {events front : List Event} {last : Event}
    (told : closed events = front ++ [last]) :
    events = front ++ [last] ∧ endsWithAction events = false ∨
      events = front ∧ last = .listen ∧ endsWithAction events = true := by
  unfold closed at told
  cases ends : endsWithAction events with
  | false =>
      rw [ends, if_neg Bool.false_ne_true, List.append_nil] at told
      exact .inl ⟨told, rfl⟩
  | true =>
      rw [ends, if_pos rfl] at told
      obtain ⟨whole, listens⟩ := List.append_singleton_inj.mp told
      exact .inr ⟨whole, listens.symm, rfl⟩

theorem insertListens_closed (events : List Event) :
    StoryStep.insertListens false (closed events) =
      StoryStep.insertListens false events ++
        if endsWithAction events then [.listen] else [] := by
  unfold closed
  rw [StoryStep.insertListens_append]
  congr 1
  apply StoryStep.insertListens_eq_self
  intro event member
  split at member
  · rw [List.mem_singleton.mp member]
    rfl
  · cases member

theorem finish_events (graph : StoryGraph) (story : StoryPath) :
    (graph.finish story).events = closed story.tracker.events := by
  unfold finish closed
  split
  · rw [Tracker.withSenderId, Tracker.append_events]
  · rw [Tracker.withSenderId, List.append_nil]

variable {graph : StoryGraph} {domain : Domain}

/-- The log of a path is what its steps tell, with the listen actions that they lack.  The
induction is on the path from its end: the last step sees the log of the path before it,
whose last event is the last one that was told. -/
theorem conversation_events {path : List Nat} {steps : List StoryStep}
    (taken : path.map (fun position => graph.steps[position]?) = steps.map some) :
    (graph.conversation domain path).events =
      StoryStep.insertListens false (steps.flatMap StoryStep.events) := by
  induction path using List.reverseRecOn generalizing steps with
  | nil =>
      obtain rfl := List.map_eq_nil_iff.mp taken.symm
      rfl
  | append_singleton path position ih =>
      cases steps using List.reverseRecOn with
      | nil => simp at taken
      | append_singleton steps step _ =>
          rw [List.map_append, List.map_append] at taken
          obtain ⟨earlier, found⟩ := List.append_inj' taken rfl
          rw [conversation_concat (List.cons.inj found).1, Tracker.extend_events,
            StoryStep.explicitEvents, ih earlier, StoryStep.getLast?_insertListens,
            List.flatMap_append, List.flatMap_singleton, StoryStep.insertListens_append]
          congr 2
          unfold StoryStep.listensAfter
          cases (steps.flatMap StoryStep.events).getLast? <;> rfl

end StoryGraph

/-- A log that lists events with the listen actions that they lack, and nothing else. -/
structure Overheard (events log : List Event) : Prop where
  /-- A listen action stands in front of exactly those messages that do not follow one, and
  at most one stands at the end, after another action. -/
  log_eq : log = withListens events ++
    if StoryGraph.endsWithAction events then [.listen] else []
  /-- Just before every message the assistant listens. -/
  listens : ∀ before message after, log = before ++ message :: after →
    message.isUser = true → before.getLast?.any Event.isListen = true
  /-- The events come in their order. -/
  sublist : events.Sublist log
  /-- What is told apart from a listen action comes exactly as often as it did. -/
  filter_eq : ∀ test : Event → Bool, test .listen = false →
    log.filter test = events.filter test
  /-- Listen actions in a row come from the events, where they stand in a row as well. -/
  adjacent : ∀ before first second after, log = before ++ first :: second :: after →
    first.isListen = true → second.isListen = true →
      ∃ front back, events = front ++ first :: second :: back ∧ before = withListens front

theorem insertListens_eq_withListens (events : List Event) :
    StoryStep.insertListens false events = withListens events :=
  StoryStep.insertListens_eq_flatten none events

theorem overheard_insertListens (events : List Event) :
    Overheard events (StoryStep.insertListens false (StoryGraph.closed events)) := by
  have opens (before : List Event) :
      StoryStep.listensAfter false before = before.getLast?.any Event.isListen := by
    unfold StoryStep.listensAfter
    cases before.getLast? <;> rfl
  constructor
  · rw [StoryGraph.insertListens_closed, insertListens_eq_withListens]
  · intro before message after log isUser
    rw [← opens]
    exact StoryStep.listensAfter_of_message isUser log
  · have told : events.Sublist (StoryGraph.closed events) := List.sublist_append_left _ _
    exact told.trans (StoryStep.sublist_insertListens _ _)
  · intro test fails
    rw [StoryStep.filter_insertListens fails, StoryGraph.closed, List.filter_append]
    split <;> simp [fails]
  · intro before first second after log firstListens secondListens
    obtain ⟨front, back, told, rfl⟩ :=
      StoryStep.exists_of_adjacent_listens firstListens secondListens log
    rw [insertListens_eq_withListens]
    cases back using List.reverseRecOn with
    | nil =>
        have told : StoryGraph.closed events = (front ++ [first]) ++ [second] := by
          simpa using told
        rcases StoryGraph.closed_eq_concat_cases told with ⟨whole, -⟩ | ⟨whole, -, ends⟩
        · exact ⟨front, [], by simpa using whole, rfl⟩
        · -- the listen action at the end comes after another action only
          rw [whole, StoryGraph.endsWithAction_concat, firstListens] at ends
          cases ends.2
    | append_singleton back last _ =>
        have told : StoryGraph.closed events = (front ++ first :: second :: back) ++ [last] := by
          simpa using told
        rcases StoryGraph.closed_eq_concat_cases told with ⟨whole, -⟩ | ⟨whole, -, -⟩
        · exact ⟨front, back ++ [last], by simpa using whole, rfl⟩
        · exact ⟨front, back, whole, rfl⟩

namespace StoryGraph

variable {graph : StoryGraph} {domain : Domain}

/-- A story that a graph tells is a maximal path, and its tracker holds what the steps of
this path tell, with the listen actions that they lack. -/
theorem exists_steps_of_mem_stories {story : StoryPath}
    (member : story ∈ (graph.stories domain).1) :
    graph.IsStory domain story.path ∧ ∃ steps : List StoryStep,
      story.path.map (fun position => graph.steps[position]?) = steps.map some ∧
      (graph.finish story).senderId = " > ".intercalate (steps.map StoryStep.blockName) ∧
      (graph.finish story).events =
        StoryStep.insertListens false (closed (steps.flatMap StoryStep.events)) := by
  rw [stories_eq_take] at member
  obtain ⟨isStory, told⟩ := mem_allStories_starts_iff.mp (List.mem_of_mem_take member)
  obtain ⟨steps, taken⟩ := isStory.isPath.exists_steps
  have ends : endsWithAction (graph.conversation domain story.path).events =
      endsWithAction (steps.flatMap StoryStep.events) := by
    rw [endsWithAction, conversation_events taken, StoryStep.getLast?_insertListens]
    rfl
  refine ⟨isStory, steps, taken, pathName_eq taken, ?_⟩
  rw [finish_events, told, closed, ends, conversation_events taken, insertListens_closed]

/-- Every tracker of a graph tells its own maximal path: the events of the steps of that
path one after the other, with a listen action in front of exactly those messages that do
not follow one, and one at the end after another action. -/
theorem trackers_overheard (graph : StoryGraph) (domain : Domain) :
    ∃ paths : List (List Nat), paths.Pairwise (· < ·) ∧
      (∀ path ∈ paths, graph.IsStory domain path) ∧
      List.Forall₂ (fun path tracker => ∃ steps : List StoryStep,
        path.map (fun position => graph.steps[position]?) = steps.map some ∧
        tracker.senderId = " > ".intercalate (steps.map StoryStep.blockName) ∧
        Overheard (steps.flatMap StoryStep.events) tracker.events)
        paths (graph.trackers domain) := by
  refine ⟨(graph.stories domain).1.map StoryPath.path, ?_, ?_, ?_⟩
  · rw [stories_eq_take, List.pairwise_map]
    exact ((allStories_parted (inOrder_starts graph domain)).sublist
      (List.take_sublist _ _)).imp PartsBefore.lt
  · intro path member
    obtain ⟨story, told, rfl⟩ := List.mem_map.mp member
    exact (exists_steps_of_mem_stories told).1
  · unfold trackers
    rw [List.forall₂_map_left_iff, List.forall₂_map_right_iff, List.forall₂_same]
    intro story member
    obtain ⟨_, steps, taken, name, log⟩ := exists_steps_of_mem_stories member
    refine ⟨steps, taken, name, ?_⟩
    rw [log]
    exact overheard_insertListens _

end StoryGraph

end Dialogue
