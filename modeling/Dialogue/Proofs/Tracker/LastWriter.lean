import Dialogue.Proofs.Tracker.Parts

/-!
# The state is the last writer of the log in effect

Every event in effect writes some parts of the state and leaves the others alone.  A
part therefore holds what its latest writer wrote, or what it held at first.  The flags
of the active loop are set anew whenever a form is activated, so only the events after
the latest activation or deactivation count for them.
-/

namespace Dialogue

universe u v

/-! ## The latest writer -/

/-- What the latest writer among events has written. -/
def latest? {α : Type u} (writes : Event → Option α) (events : List Event) : Option α :=
  events.reverse.findSome? writes

section

variable {α : Type u} {writes : Event → Option α} {events : List Event}

/-- Later events are asked first. -/
theorem latest?_append (writes : Event → Option α) (before after : List Event) :
    latest? writes (before ++ after) = (latest? writes after).or (latest? writes before) := by
  rw [latest?, List.reverse_append, List.findSome?_append]
  rfl

theorem latest?_concat (writes : Event → Option α) (events : List Event) (event : Event) :
    latest? writes (events ++ [event]) = (writes event).or (latest? writes events) := by
  rw [latest?_append]
  congr 1
  simp only [latest?, List.reverse_singleton, List.findSome?_cons, List.findSome?_nil]
  cases writes event <;> rfl

/-- An event that writes nothing may be left out. -/
theorem latest?_append_cons {event : Event} (writesNone : writes event = none)
    (before after : List Event) :
    latest? writes (before ++ event :: after) =
      (latest? writes after).or (latest? writes before) := by
  rw [List.append_cons, latest?_append, latest?_concat, writesNone, Option.none_or]

theorem latest?_eq_none_iff :
    latest? writes events = none ↔ ∀ event ∈ events, writes event = none := by
  simp [latest?]

/-- The latest writer is followed by no other. -/
theorem latest?_eq_some_iff {written : α} :
    latest? writes events = some written ↔
      ∃ before event after, events = before ++ event :: after ∧
        writes event = some written ∧ ∀ later ∈ after, writes later = none := by
  rw [latest?, List.findSome?_eq_some_iff]
  constructor
  · rintro ⟨after, event, before, split, written, quiet⟩
    refine ⟨before.reverse, event, after.reverse, ?_, written, by simpa using quiet⟩
    rw [← List.reverse_reverse events, split]
    simp
  · rintro ⟨before, event, after, rfl, written, quiet⟩
    exact ⟨after.reverse, event, before.reverse, by simp, written, by simpa using quiet⟩

/-- A part of the state that every event writes or leaves alone is what the latest writer
wrote, or what it was at first. -/
theorem part_foldl {State : Type v} {step : State → Event → State} (part : State → Option α)
    (writes : Event → Option α)
    (part_step : ∀ event ∈ events, ∀ state, part (step state event) =
      (writes event).or (part state)) (state : State) :
    part (events.foldl step state) = (latest? writes events).or (part state) := by
  induction events using List.reverseRecOn with
  | nil => rfl
  | append_singleton events event ih =>
      rw [List.foldl_append, List.foldl_cons, List.foldl_nil, latest?_concat,
        part_step event (by simp), ih fun earlier member => part_step earlier (by simp [member]),
        Option.or_assoc]

end

/-! ## What events write -/

namespace Event

/-- The value that an event gives to a slot. -/
def slotValue? (slot : String) (event : Event) : Option Json :=
  match event.change with
  | .slotSet name value => if name = slot then some value else none
  | _ => none

/-- The text of an utterance of the assistant, which may have none. -/
def utterance? (event : Event) : Option (Option String) :=
  match event.change with
  | .botUttered text _ => some text
  | _ => none

/-- The form that an event makes the active loop, or that there is none any more. -/
def loopChange? (event : Event) : Option (Option String) :=
  match event.change with
  | .formActivated name => some (some name)
  | .formDeactivated => some none
  | _ => none

/-- Whether the active loop is to validate; an executed action makes it do so. -/
def validation? (event : Event) : Option Bool :=
  match event.change with
  | .formValidation validate => some validate
  | .actionExecuted _ _ _ => some true
  | _ => none

/-- Whether a loop counts as rejected: a rejection of it or of any loop, or its own
action. -/
def rejection? (loop : String) (event : Event) : Option Bool :=
  match event.change with
  | .loopRejected name => if name = none ∨ name = some loop then some true else none
  | .actionExecuted name _ _ => if name = loop then some false else none
  | _ => none

end Event

/-! ## The slots -/

namespace DialogueState

section

variable {schema : SlotSchema} {event : Event} (plain : event.isPlain = true) {name : String}

include plain

theorem find?_slotsAfter (declared : schema.contains name = true) (slots : Table Json) :
    (slotsAfter schema slots event).find? name =
      (event.slotValue? name).or (slots.find? name) := by
  rcases event with ⟨change, _, _⟩
  cases change with
  | slotSet other value =>
      simp only [slotsAfter, find?_assign, Event.slotValue?]
      by_cases same : name = other
      · simp [same ▸ declared, same]
      · simp [same, Ne.symm same]
  | restarted => cases plain
  | _ => rfl

theorem find?_slotsAfter_of_undeclared (undeclared : schema.contains name = false)
    (slots : Table Json) : (slotsAfter schema slots event).find? name = slots.find? name := by
  rcases event with ⟨change, _, _⟩
  cases change with
  | slotSet other value =>
      simp only [slotsAfter, find?_assign]
      by_cases same : name = other
      · simp [← same, undeclared]
      · simp [same]
  | restarted => cases plain
  | _ => rfl

end

variable {schema : SlotSchema} {events : List Event}
  (plain : ∀ event ∈ events, event.isPlain = true)

include plain

/-- A declared slot has the value of the latest event that sets it. -/
theorem find?_foldl_slotsAfter {name : String} (declared : schema.contains name = true)
    (slots : Table Json) :
    (events.foldl (slotsAfter schema) slots).find? name =
      (latest? (Event.slotValue? name) events).or (slots.find? name) :=
  part_foldl (fun slots => slots.find? name) (Event.slotValue? name)
    (fun event member slots => find?_slotsAfter (plain event member) declared slots) slots

theorem find?_foldl_slotsAfter_of_undeclared {name : String}
    (undeclared : schema.contains name = false) (slots : Table Json) :
    (events.foldl (slotsAfter schema) slots).find? name = slots.find? name := by
  induction events generalizing slots with
  | nil => rfl
  | cons event rest ih =>
      rw [List.foldl_cons, ih fun later member => plain later (List.mem_cons_of_mem event member),
        find?_slotsAfter_of_undeclared (plain event List.mem_cons_self) undeclared]

/-- Events neither declare slots nor withdraw them. -/
theorem keys_foldl_slotsAfter :
    (events.foldl (slotsAfter schema) schema).keys = schema.keys := by
  apply eq_of_mem_iff_of_pairwise_lt id (Table.pairwise_keys _) (Table.pairwise_keys _)
  intro name
  rw [Table.mem_keys_iff, Table.mem_keys_iff]
  cases declared : schema.contains name with
  | false => rw [find?_foldl_slotsAfter_of_undeclared plain declared]
  | true =>
      have held : (schema.find? name).isSome = true := declared
      rw [find?_foldl_slotsAfter plain declared, Option.isSome_or, held, Bool.or_true]

end DialogueState

/-! ## The active loop -/

/-- The events after the latest activation or deactivation. -/
def sinceLoopChange (events : List Event) : List Event :=
  events.rtakeWhile fun event => event.loopChange?.isNone

theorem sinceLoopChange_concat {event : Event} (same : event.loopChange? = none)
    (events : List Event) :
    sinceLoopChange (events ++ [event]) = sinceLoopChange events ++ [event] :=
  List.rtakeWhile_concat_pos _ _ _ (by simp [same])

theorem sinceLoopChange_concat_of_eq_some {event : Event} {loop : Option String}
    (changed : event.loopChange? = some loop) (events : List Event) :
    sinceLoopChange (events ++ [event]) = [] :=
  List.rtakeWhile_concat_neg _ _ _ (by simp [changed])

/-- The loop that the latest activation or deactivation leaves active, with the flags that
the events after it have set.  An activated loop validates and is not rejected. -/
def latestLoop? (events : List Event) : Option ActiveLoop :=
  (latest? Event.loopChange? events).join.map fun name =>
    { name := name
      validate := (latest? Event.validation? (sinceLoopChange events)).getD true
      rejected := (latest? (Event.rejection? name) (sinceLoopChange events)).getD false }

namespace DialogueState

/-- A plain event that neither activates nor deactivates sets the flags of the loop. -/
theorem loopAfter_of_loopChange?_eq_none {event : Event} (plain : event.isPlain = true)
    (same : event.loopChange? = none) (loop : Option ActiveLoop) :
    loopAfter loop event = loop.map fun active =>
      { name := active.name
        validate := event.validation?.getD active.validate
        rejected := (event.rejection? active.name).getD active.rejected } := by
  rcases event with ⟨change, _, _⟩
  cases change with
  | restarted => cases plain
  | formActivated name => cases same
  | formDeactivated => cases same
  | actionExecuted name policy confidence =>
      simp only [loopAfter, Event.validation?, Event.rejection?]
      congr 1
      funext active
      by_cases own : name = active.name
      · simp [ActiveLoop.afterAction, own]
      · simp [ActiveLoop.afterAction, own, Ne.symm own]
  | loopRejected name =>
      simp only [loopAfter, Event.validation?, Event.rejection?]
      congr 1
      funext active
      unfold ActiveLoop.afterRejection
      split <;> rfl
  | _ => cases loop <;> rfl

/-- The fold of a log of plain events over the loop is the closed form. -/
theorem foldl_loopAfter {events : List Event} (plain : ∀ event ∈ events, event.isPlain = true) :
    events.foldl loopAfter none = latestLoop? events := by
  induction events using List.reverseRecOn with
  | nil => rfl
  | append_singleton events event ih =>
      have eventPlain : event.isPlain = true := plain event (by simp)
      rw [List.foldl_append, List.foldl_cons, List.foldl_nil,
        ih fun earlier member => plain earlier (by simp [member])]
      cases change : event.loopChange? with
      | none =>
          rw [loopAfter_of_loopChange?_eq_none eventPlain change]
          simp only [latestLoop?, latest?_concat, change, sinceLoopChange_concat change,
            Option.none_or, Option.map_map]
          congr 1
          funext name
          simp [Option.getD_or]
      | some loop =>
          simp only [latestLoop?, latest?_concat, change,
            sinceLoopChange_concat_of_eq_some change, Option.some_or, Option.join_some]
          rcases event with ⟨kind, _, _⟩
          cases kind with
          | formActivated name =>
              cases change
              rfl
          | formDeactivated =>
              cases change
              rfl
          | _ => cases change

/-! ## The state -/

/-- Each part of the state is what its last writer among the events has written. -/
structure LastWritten (schema : SlotSchema) (events : List Event) (state : DialogueState) :
    Prop where
  /-- Exactly the declared slots have a value. -/
  slot_names : state.slots.keys = schema.keys
  /-- A slot has the value that was last given to it, or its initial value. -/
  slot_values : ∀ name ∈ schema.keys, state.slots.find? name =
    (latest? (Event.slotValue? name) events).or (schema.find? name)
  /-- The latest action is the one that was executed last. -/
  action : state.latestAction = latest? Event.actionName? events
  /-- The latest message is the one that was uttered last. -/
  message : state.latestMessage = latest? Event.message? events
  /-- The latest utterance is the last one of the assistant; it may be without a text. -/
  utterance : state.latestUtterance = (latest? Event.utterance? events).join
  /-- The loop is the one that was activated last, unless it was left since. -/
  loop : state.activeLoop = latestLoop? events

theorem latestActionAfter_of_isPlain {event : Event} (plain : event.isPlain = true)
    (action : Option String) : latestActionAfter action event = event.actionName?.or action := by
  rcases event with ⟨change, _, _⟩
  cases change with
  | restarted => cases plain
  | _ => rfl

theorem latestMessageAfter_of_isPlain {event : Event} (plain : event.isPlain = true)
    (message : Option UserMessage) :
    latestMessageAfter message event = event.message?.or message := by
  rcases event with ⟨change, _, _⟩
  cases change with
  | restarted => cases plain
  | _ => rfl

theorem apply_latestUtterance {event : Event} (plain : event.isPlain = true)
    (schema : SlotSchema) (state : DialogueState) :
    (state.apply schema event).latestUtterance =
      event.utterance?.getD state.latestUtterance := by
  rcases event with ⟨change, _, _⟩
  cases change with
  | slotSet name value =>
      simp only [apply, Event.utterance?]
      split <;> rfl
  | restarted => cases plain
  | _ => rfl

/-- The state after a log of plain events is known by its last writers. -/
theorem lastWritten_foldl {schema : SlotSchema} {events : List Event}
    (plain : ∀ event ∈ events, event.isPlain = true) :
    LastWritten schema events (events.foldl (apply schema) (initial schema)) := by
  have slots : (events.foldl (apply schema) (initial schema)).slots =
      events.foldl (slotsAfter schema) schema :=
    foldl_apply_part (apply_slots schema) events (initial schema)
  constructor
  · rw [slots, keys_foldl_slotsAfter plain]
  · intro name declared
    rw [slots, find?_foldl_slotsAfter plain (Table.contains_eq_true_iff.mpr declared)]
  · rw [part_foldl latestAction Event.actionName?]
    · exact Option.or_none
    · intro event member state
      rw [apply_latestAction, latestActionAfter_of_isPlain (plain event member)]
  · rw [part_foldl latestMessage Event.message?]
    · exact Option.or_none
    · intro event member state
      rw [apply_latestMessage, latestMessageAfter_of_isPlain (plain event member)]
  · -- An utterance without a text is written too, so the part is never missing.
    have part_step : ∀ event ∈ events, ∀ state : DialogueState,
        some (state.apply schema event).latestUtterance =
          event.utterance?.or (some state.latestUtterance) := by
      intro event member state
      rw [apply_latestUtterance (plain event member), Option.or_some]
    have written := part_foldl (fun state : DialogueState => some state.latestUtterance)
      Event.utterance? part_step (initial schema)
    rw [Option.or_some, Option.some.injEq] at written
    rw [written]
    cases latest? Event.utterance? events <;> rfl
  · rw [foldl_apply_part (apply_activeLoop schema)]
    exact foldl_loopAfter plain

end DialogueState

namespace Tracker

/-- However a tracker was fed, no event that takes others back is in effect, and each part
of its state is what its last writer in effect has written. -/
theorem FedWith.lastWritten {schema : SlotSchema} {log : List Event} {tracker : Tracker}
    (fed : FedWith schema log tracker) :
    (∀ event ∈ tracker.applied, event.isPlain = true) ∧
      tracker.applied = appliedEvents log ∧
      DialogueState.LastWritten schema tracker.applied tracker.state := by
  rw [fed.applied_eq, fed.state_eq]
  have plain : ∀ event ∈ appliedEvents log, event.isPlain = true :=
    fun event member => isPlain_of_mem_appliedEvents member
  exact ⟨plain, rfl, DialogueState.lastWritten_foldl plain⟩

/-- A form was rejected and its validation switched off while another action ran, and the
assistant has taken back a later action that had set the city again. -/
theorem FedWith.lastWritten_of_rejected_form :
    let schema : SlotSchema := Table.ofList [("city", .null), ("date", .string "today")]
    let log : List Event := [
      .listen, .user (UserMessage.ofText "a trip"), .action "book", .formActivated "book",
      .slotSet "city" (.string "Oslo"), .loopRejected (some "book"), .action "utter_help",
      .formValidation false, .action "action_guess", .slotSet "city" (.string "Rome"),
      .actionReverted]
    let tracker := (Tracker.new "trip" schema).extend log
    FedWith schema log tracker ∧
      tracker.state.slots.find? "city" = some (.string "Oslo") ∧
      tracker.state.slots.find? "date" = some (.string "today") ∧
      tracker.state.latestAction = some "utter_help" ∧
      tracker.state.activeLoop = some ⟨"book", false, true⟩ := by
  intro schema log tracker
  have fed : FedWith schema log tracker := (FedWith.new "trip").extend log
  rcases fed.lastWritten with ⟨_, applied, written⟩
  have kept : appliedEvents log = log.take 8 := rfl
  rw [applied, kept] at written
  refine ⟨fed, ?_, ?_, ?_, ?_⟩
  · rw [written.slot_values "city" (by decide)]
    rfl
  · rw [written.slot_values "date" (by decide)]
    rfl
  · rw [written.action]
    rfl
  · rw [written.loop]
    rfl

end Tracker

end Dialogue
