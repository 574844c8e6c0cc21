import Dialogue.Proofs.Story.Listening
import Mathlib.Data.List.Permutation

/-!
# What follows the last action of a story

A story is over when its steps are.  Once the user says nothing more, the last action of
the assistant other than listening is followed by exactly what the steps tell after it.
Only if they tell nothing more does the assistant listen of its own accord: an event such
as the setting of a slot after the action leaves the story without a listen action at
its end.
-/

namespace Dialogue

/-- The last action in a log other than a listen action, if the user says nothing after
it. -/
structure LastAction (log before : List Event) (action : Event) (after : List Event) : Prop where
  log_eq : log = before ++ action :: after
  isAction : action.isAction = true
  noListen : action.isListen = false
  silent : ∀ event ∈ after, event.isUser = false
  last : ∀ event ∈ after, event.isAction = true → event.isListen = true

/-- What follows the last action was told after it; if nothing was, it is a listen action. -/
theorem LastAction.exists_of_insertListens {events before after : List Event} {action : Event}
    (last : LastAction (StoryStep.insertListens false (StoryGraph.closed events)) before action
      after) :
    ∃ front rest, events = front ++ action :: rest ∧
      after = if rest = [] then [.listen] else rest := by
  obtain ⟨front, told⟩ :=
    StoryStep.exists_of_insertListens_silent last.noListen last.silent last.log_eq
  cases after using List.reverseRecOn with
  | nil =>
      rcases StoryGraph.closed_eq_concat_cases told with ⟨whole, ends⟩ | ⟨-, listens, -⟩
      · have isLast : StoryGraph.endsWithAction (front ++ [action]) = true :=
          StoryGraph.endsWithAction_concat.mpr ⟨last.isAction, last.noListen⟩
        rw [← whole, ends] at isLast
        cases isLast
      · have noListen := last.noListen
        rw [listens] at noListen
        cases noListen
  | append_singleton rest final _ =>
      have told : StoryGraph.closed events = (front ++ action :: rest) ++ [final] := by
        simpa using told
      rcases StoryGraph.closed_eq_concat_cases told with ⟨whole, -⟩ | ⟨whole, rfl, ends⟩
      · refine ⟨front, rest ++ [final], by simpa using whole, ?_⟩
        rw [if_neg (by simp)]
      · refine ⟨front, rest, whole, ?_⟩
        cases rest using List.reverseRecOn with
        | nil => rfl
        | append_singleton rest other _ =>
            -- another action comes last, which is then the one in question
            have whole : events = (front ++ action :: rest) ++ [other] := by
              simpa using whole
            rw [whole, StoryGraph.endsWithAction_concat] at ends
            have isListen := last.last other (by simp) ends.1
            rw [ends.2] at isListen
            cases isListen

namespace StoryGraph

/-- In every tracker of a graph, the last action is followed by what the steps of its path
tell after it, and by a listen action alone if they tell nothing more.  So the assistant
listens after it exactly if the story is over with it or tells a listen action later. -/
theorem trackers_listen_after_last (graph : StoryGraph) (domain : Domain) :
    ∀ tracker ∈ graph.trackers domain, ∃ (path : List Nat) (steps : List StoryStep),
      graph.IsStory domain path ∧
      path.map (fun position => graph.steps[position]?) = steps.map some ∧
      ∀ before action after, LastAction tracker.events before action after →
        ∃ front rest, steps.flatMap StoryStep.events = front ++ action :: rest ∧
          after = (if rest = [] then [.listen] else rest) ∧
          ((∃ event ∈ after, event.isListen = true) ↔
            rest = [] ∨ ∃ event ∈ rest, event.isListen = true) := by
  intro tracker member
  obtain ⟨story, told, rfl⟩ := List.mem_map.mp member
  obtain ⟨isStory, steps, taken, _, log⟩ := exists_steps_of_mem_stories told
  refine ⟨story.path, steps, isStory, taken, ?_⟩
  intro before action after last
  rw [log] at last
  obtain ⟨front, rest, split, follows⟩ := last.exists_of_insertListens
  refine ⟨front, rest, split, follows, ?_⟩
  rw [follows]
  by_cases ended : rest = []
  · simp [ended, Event.isListen, Event.actionName?, Event.listen, Event.action]
  · simp [ended]

/-- A story that tells a listen action after a slot, and one that is over with its last
action, in a step of its own that tells nothing. -/
theorem trackers_listen_after_last_question :
    let hello := Event.user (UserMessage.ofText "hello")
    let filled := Event.slotSet "city" (.string "Oslo")
    let asked : Checkpoint := { name := "asked" }
    let graph : StoryGraph := {
      steps := [
        { blockName := "ask", ends := [asked], events := [hello, .action "utter_ask"] },
        { blockName := "wait", starts := [asked], events := [filled, .listen] },
        { blockName := "stop", starts := [asked], events := [] }] }
    (graph.trackers Domain.empty).map Tracker.events =
      [[.listen, hello, .action "utter_ask", filled, .listen],
        [.listen, hello, .action "utter_ask", .listen]] ∧
    ∀ tracker ∈ graph.trackers Domain.empty,
      ∃ (after : List Event) (steps : List StoryStep) (front rest : List Event),
        LastAction tracker.events [.listen, hello] (.action "utter_ask") after ∧
        steps.flatMap StoryStep.events = front ++ .action "utter_ask" :: rest ∧
        after = (if rest = [] then [.listen] else rest) ∧
        ∃ event ∈ after, event.isListen = true := by
  intro hello filled asked graph
  have logs : (graph.trackers Domain.empty).map Tracker.events =
      [[.listen, hello, .action "utter_ask", filled, .listen],
        [.listen, hello, .action "utter_ask", .listen]] := by cbv
  refine ⟨logs, ?_⟩
  intro tracker member
  have found : ∃ after, LastAction tracker.events [.listen, hello] (.action "utter_ask") after ∧
      ∃ event ∈ after, event.isListen = true := by
    have log := List.mem_map_of_mem (f := Tracker.events) member
    rw [logs] at log
    simp only [List.mem_cons, List.not_mem_nil, or_false] at log
    rcases log with waits | stops
    · exact ⟨[filled, .listen], ⟨waits, rfl, rfl, by decide, by decide⟩, by decide⟩
    · exact ⟨[.listen], ⟨stops, rfl, rfl, by decide, by decide⟩, by decide⟩
  obtain ⟨after, last, listens⟩ := found
  obtain ⟨_, steps, _, _, follows⟩ := trackers_listen_after_last graph Domain.empty tracker member
  obtain ⟨front, rest, told, after_eq, _⟩ := follows _ _ _ last
  exact ⟨after, steps, front, rest, last, told, after_eq, listens⟩

/-- A story whose last action is followed by a slot.  The assistant does not listen after
it. -/
theorem not_trackers_listen_after_last_of_slot :
    let hello := Event.user (UserMessage.ofText "hello")
    let filled := Event.slotSet "city" (.string "Oslo")
    let graph : StoryGraph := {
      steps := [{ blockName := "ask", events := [hello, .action "utter_ask", filled] }] }
    ∃ tracker ∈ graph.trackers Domain.empty,
      LastAction tracker.events [.listen, hello] (.action "utter_ask") [filled] ∧
      ¬∃ event ∈ [filled], event.isListen = true := by
  intro hello filled graph
  have logs : (graph.trackers Domain.empty).map Tracker.events =
      [[.listen, hello, .action "utter_ask", filled]] := by cbv
  obtain ⟨tracker, member, log⟩ := List.mem_map.mp
    (show [.listen, hello, .action "utter_ask", filled] ∈
      (graph.trackers Domain.empty).map Tracker.events by rw [logs]; simp)
  refine ⟨tracker, member, ⟨log, rfl, rfl, by decide, by decide⟩, by decide⟩

end StoryGraph

end Dialogue
