import Dialogue.Proofs.Table.Lookup
import Dialogue.Proofs.Tracker.Replay

/-!
# The parts of a dialogue state

Each part of a dialogue state changes by itself: what an event does to the slots
depends on the slots alone, and so on for the active loop, the latest action and the
latest message.  Along plain events, a tracker therefore folds each part apart from
the others.
-/

namespace Dialogue

namespace DialogueState

/-- Gives a slot a value, if it is declared. -/
def assign (schema : SlotSchema) (slots : Table Json) (name : String) (value : Json) :
    Table Json :=
  if schema.contains name then slots.insert name value else slots

/-- What an event does to the slots. -/
def slotsAfter (schema : SlotSchema) (slots : Table Json) (event : Event) : Table Json :=
  match event.change with
  | .slotSet name value => assign schema slots name value
  | .restarted => schema
  | _ => slots

/-- What an event does to the active loop. -/
def loopAfter (loop : Option ActiveLoop) (event : Event) : Option ActiveLoop :=
  match event.change with
  | .actionExecuted name _ _ => loop.map fun active => active.afterAction name
  | .formActivated name => some (ActiveLoop.fresh name)
  | .formDeactivated => none
  | .formValidation validate => loop.map fun active => { active with validate := validate }
  | .loopRejected name => loop.map fun active => active.afterRejection name
  | .restarted => none
  | _ => loop

/-- What an event does to the latest action. -/
def latestActionAfter (action : Option String) (event : Event) : Option String :=
  match event.change with
  | .actionExecuted name _ _ => some name
  | .restarted => none
  | _ => action

/-- What an event does to the latest message. -/
def latestMessageAfter (message : Option UserMessage) (event : Event) : Option UserMessage :=
  match event.change with
  | .userUttered uttered => some uttered
  | .restarted => none
  | _ => message

theorem apply_slots (schema : SlotSchema) (state : DialogueState) (event : Event) :
    (state.apply schema event).slots = slotsAfter schema state.slots event := by
  rcases event with ⟨change, _, _⟩
  cases change with
  | slotSet name value =>
      simp only [apply, slotsAfter, assign]
      split <;> rfl
  | _ => rfl

theorem apply_activeLoop (schema : SlotSchema) (state : DialogueState) (event : Event) :
    (state.apply schema event).activeLoop = loopAfter state.activeLoop event := by
  rcases event with ⟨change, _, _⟩
  cases change with
  | slotSet name value =>
      simp only [apply, loopAfter]
      split <;> rfl
  | _ => rfl

theorem apply_latestAction (schema : SlotSchema) (state : DialogueState) (event : Event) :
    (state.apply schema event).latestAction = latestActionAfter state.latestAction event := by
  rcases event with ⟨change, _, _⟩
  cases change with
  | slotSet name value =>
      simp only [apply, latestActionAfter]
      split <;> rfl
  | _ => rfl

theorem apply_latestMessage (schema : SlotSchema) (state : DialogueState) (event : Event) :
    (state.apply schema event).latestMessage = latestMessageAfter state.latestMessage event := by
  rcases event with ⟨change, _, _⟩
  cases change with
  | slotSet name value =>
      simp only [apply, latestMessageAfter]
      split <;> rfl
  | _ => rfl

/-- A part of the state that changes by itself is folded apart from the others. -/
theorem foldl_apply_part {Part : Type} {part : DialogueState → Part}
    {schema : SlotSchema} {after : Part → Event → Part}
    (apply_part : ∀ state event, part (apply schema state event) = after (part state) event)
    (events : List Event) (state : DialogueState) :
    part (events.foldl (apply schema) state) = events.foldl after (part state) := by
  induction events generalizing state with
  | nil => rfl
  | cons event rest ih => rw [List.foldl_cons, List.foldl_cons, ih, apply_part]

/-- The value of a slot after an assignment. -/
theorem find?_assign (schema : SlotSchema) (slots : Table Json) (name other : String)
    (value : Json) :
    (assign schema slots name value).find? other =
      if other = name ∧ schema.contains name = true then some value else slots.find? other := by
  unfold assign
  by_cases declared : schema.contains name = true
  · simp [declared, Table.find?_insert]
  · simp [declared]

/-- Assigning the value that a slot has changes nothing. -/
theorem assign_eq_self {slots : Table Json} {name : String} {value : Json}
    (held : slots.find? name = some value) (schema : SlotSchema) :
    assign schema slots name value = slots := by
  unfold assign
  split
  · exact Table.insert_eq_self held
  · rfl

end DialogueState

namespace Tracker

/-- Along plain events a tracker applies one event after the other. -/
theorem extend_state_of_isPlain {events : List Event}
    (plain : ∀ event ∈ events, event.isPlain = true) (tracker : Tracker) :
    (tracker.extend events).state =
      events.foldl (DialogueState.apply tracker.schema) tracker.state := by
  induction events generalizing tracker with
  | nil => rfl
  | cons event rest ih =>
      rw [extend_cons, ih fun other member => plain other (List.mem_cons_of_mem event member),
        append_schema, append_of_isPlain (plain event List.mem_cons_self), List.foldl_cons]

variable {events : List Event} (plain : ∀ event ∈ events, event.isPlain = true)
  (tracker : Tracker)

include plain

theorem extend_slots_of_isPlain :
    (tracker.extend events).state.slots =
      events.foldl (DialogueState.slotsAfter tracker.schema) tracker.state.slots := by
  rw [extend_state_of_isPlain plain]
  exact DialogueState.foldl_apply_part (DialogueState.apply_slots _) events tracker.state

theorem extend_activeLoop_of_isPlain :
    (tracker.extend events).state.activeLoop =
      events.foldl DialogueState.loopAfter tracker.state.activeLoop := by
  rw [extend_state_of_isPlain plain]
  exact DialogueState.foldl_apply_part (DialogueState.apply_activeLoop _) events tracker.state

theorem extend_latestAction_of_isPlain :
    (tracker.extend events).state.latestAction =
      events.foldl DialogueState.latestActionAfter tracker.state.latestAction := by
  rw [extend_state_of_isPlain plain]
  exact DialogueState.foldl_apply_part (DialogueState.apply_latestAction _) events tracker.state

theorem extend_latestMessage_of_isPlain :
    (tracker.extend events).state.latestMessage =
      events.foldl DialogueState.latestMessageAfter tracker.state.latestMessage := by
  rw [extend_state_of_isPlain plain]
  exact DialogueState.foldl_apply_part (DialogueState.apply_latestMessage _) events tracker.state

end Tracker

end Dialogue
