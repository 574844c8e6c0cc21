import Dialogue.Proofs.Story.Occurrence
import Dialogue.Proofs.Tracker.Parts
import Mathlib.Data.List.Forall2

/-!
# What turn states do not show

A turn state shows the latest action, the name of the latest intent, the name of the
active loop, and the slots that influence the conversation.  Two events look alike if
they differ only in what no turn state shows.  Reversals find the same events to take
back in logs that look alike, and events that look alike change states that look alike
in the same way, so such logs have the same turns.  The conflict search therefore gives
the same answer for trackers that look alike.
-/

namespace Dialogue

/-- Whether the value of a slot counts for turn states. -/
def Domain.influences (domain : Domain) (slot : String) : Bool :=
  (domain.slot? slot).any SlotSpec.influencesConversation

variable (domain : Domain)

/-- The changes are the same, or they differ in what no turn state shows: the value of a
slot that does not count, anything about a message but the name of its intent, what the
assistant says, who chose an action and how surely, or whether the loop validates. -/
inductive Change.LooksLike : Change → Change → Prop where
  | refl (change : Change) : LooksLike change change
  | slotSet {slot : String} (unseen : domain.influences slot = false) (left right : Json) :
      LooksLike (.slotSet slot left) (.slotSet slot right)
  | userUttered {left right : UserMessage} (intent : left.intentName = right.intentName) :
      LooksLike (.userUttered left) (.userUttered right)
  | botUttered (leftText rightText : Option String) (left right : Table Json) :
      LooksLike (.botUttered leftText left) (.botUttered rightText right)
  | actionExecuted (action : String) (leftPolicy rightPolicy : Option String)
      (left right : Option Binary64) :
      LooksLike (.actionExecuted action leftPolicy left)
        (.actionExecuted action rightPolicy right)
  | formValidation (left right : Bool) :
      LooksLike (.formValidation left) (.formValidation right)

/-- The changes look alike; times and metadata do not matter. -/
def Event.LooksLike (left right : Event) : Prop :=
  left.change.LooksLike domain right.change

/-- The states show the same to turn states. -/
structure DialogueState.LooksLike (left right : DialogueState) : Prop where
  /-- The slots that count have the same values. -/
  slots : ∀ slot, domain.influences slot = true →
    left.slots.find? slot = right.slots.find? slot
  /-- The same form is active, or none in both. -/
  activeLoop : left.activeLoop.map ActiveLoop.name = right.activeLoop.map ActiveLoop.name
  /-- The latest action is the same. -/
  latestAction : left.latestAction = right.latestAction
  /-- The latest messages have the same intent. -/
  intent : left.latestMessage.bind UserMessage.intentName =
    right.latestMessage.bind UserMessage.intentName

/-- The conversations have the same name and schema, and their events look alike one by
one. -/
structure Tracker.LooksLike (left right : Tracker) : Prop where
  /-- The conversations have the same name. -/
  senderId : left.senderId = right.senderId
  /-- The same slots are declared with the same initial values. -/
  schema : left.schema = right.schema
  /-- As many events happened, and they look alike in order. -/
  events : List.Forall₂ (Event.LooksLike domain) left.events right.events

variable {domain}

/-! ## Events in effect -/

namespace Event.LooksLike

variable {first second : Event} (alike : first.LooksLike domain second)

include alike

theorem actionName?_eq : first.actionName? = second.actionName? := by
  rcases first with ⟨change, _, _⟩
  rcases second with ⟨other, _, _⟩
  cases alike <;> rfl

theorem isAction_eq : first.isAction = second.isAction := by
  unfold Event.isAction
  rw [alike.actionName?_eq]

theorem isUser_eq : first.isUser = second.isUser := by
  rcases first with ⟨change, _, _⟩
  rcases second with ⟨other, _, _⟩
  cases alike <;> rfl

end Event.LooksLike

namespace Applied

open List (Forall₂)

/-- Stacks that look alike are popped to the same depth. -/
theorem forall₂_popThrough {isBoundary : Event → Bool}
    (agree : ∀ {first second : Event}, first.LooksLike domain second →
      isBoundary first = isBoundary second) {left right : List Event}
    (alike : Forall₂ (Event.LooksLike domain) left right) :
    Forall₂ (Event.LooksLike domain) (popThrough isBoundary left)
      (popThrough isBoundary right) := by
  induction alike with
  | nil => exact .nil
  | @cons first second _ _ same rest ih =>
      rw [popThrough, popThrough, agree same]
      split
      · exact rest
      · exact ih

/-- One event keeps stacks alike: a reversal cuts both at the same place. -/
theorem forall₂_step {left right : List Event} {first second : Event}
    (alike : Forall₂ (Event.LooksLike domain) left right)
    (same : first.LooksLike domain second) :
    Forall₂ (Event.LooksLike domain) (step left first) (step right second) := by
  have pushed := Forall₂.cons same alike
  rcases first with ⟨change, _, _⟩
  rcases second with ⟨other, _, _⟩
  -- Only reversals and restarts look at the stack, and they look alike only to themselves.
  cases same with
  | refl =>
      cases change with
      | restarted => exact .nil
      | actionReverted => exact forall₂_popThrough Event.LooksLike.isAction_eq alike
      | utteranceReverted =>
          exact forall₂_popThrough Event.LooksLike.isAction_eq
            (forall₂_popThrough Event.LooksLike.isUser_eq alike)
      | _ => exact pushed
  | _ => exact pushed

end Applied

/-- The events in effect look alike if the logs do. -/
theorem forall₂_appliedEvents {left right : List Event}
    (alike : List.Forall₂ (Event.LooksLike domain) left right) :
    List.Forall₂ (Event.LooksLike domain) (appliedEvents left) (appliedEvents right) := by
  apply List.rel_reverse
  apply List.rel_foldl _ List.Forall₂.nil alike
  intro left right alike first second same
  exact Applied.forall₂_step alike same

/-! ## States -/

namespace DialogueState

/-- What an event does to the name of the active loop. -/
def loopNameAfter (name : Option String) (event : Event) : Option String :=
  match event.change with
  | .formActivated name => some name
  | .formDeactivated => none
  | .restarted => none
  | _ => name

/-- What an event does to the intent of the latest message. -/
def intentAfter (intent : Option String) (event : Event) : Option String :=
  match event.change with
  | .userUttered message => message.intentName
  | .restarted => none
  | _ => intent

theorem map_name_loopAfter (loop : Option ActiveLoop) (event : Event) :
    (loopAfter loop event).map ActiveLoop.name =
      loopNameAfter (loop.map ActiveLoop.name) event := by
  rcases event with ⟨change, _, _⟩
  cases loop with
  | none => cases change <;> rfl
  | some active =>
      cases change with
      | loopRejected name =>
          simp only [loopAfter, loopNameAfter, Option.map_some, ActiveLoop.afterRejection]
          split <;> rfl
      | _ => rfl

theorem bind_intentName_latestMessageAfter (message : Option UserMessage) (event : Event) :
    (latestMessageAfter message event).bind UserMessage.intentName =
      intentAfter (message.bind UserMessage.intentName) event := by
  rcases event with ⟨change, _, _⟩
  cases change <;> rfl

section

variable {first second : Event} (same : first.LooksLike domain second)

include same

theorem loopNameAfter_eq (name : Option String) :
    loopNameAfter name first = loopNameAfter name second := by
  rcases first with ⟨change, _, _⟩
  rcases second with ⟨other, _, _⟩
  cases same <;> rfl

theorem latestActionAfter_eq (action : Option String) :
    latestActionAfter action first = latestActionAfter action second := by
  rcases first with ⟨change, _, _⟩
  rcases second with ⟨other, _, _⟩
  cases same <;> rfl

theorem intentAfter_eq (intent : Option String) :
    intentAfter intent first = intentAfter intent second := by
  rcases first with ⟨change, _, _⟩
  rcases second with ⟨other, _, _⟩
  cases same with
  | userUttered sameIntent => exact sameIntent
  | _ => rfl

/-- Where an event sets a slot that counts, it sets the same value in both states. -/
theorem find?_slotsAfter_eq {left right : Table Json} (schema : SlotSchema) {slot : String}
    (counts : domain.influences slot = true) (held : left.find? slot = right.find? slot) :
    (slotsAfter schema left first).find? slot = (slotsAfter schema right second).find? slot := by
  rcases first with ⟨change, _, _⟩
  rcases second with ⟨other, _, _⟩
  cases same with
  | refl =>
      cases change with
      | slotSet name value => simp only [slotsAfter, find?_assign, held]
      | restarted => rfl
      | _ => exact held
  | @slotSet name unseen value other =>
      -- The slot that is set does not count, so it is not the slot looked at.
      have differ : slot ≠ name := by
        rintro rfl
        rw [counts] at unseen
        cases unseen
      simp only [slotsAfter, find?_assign, differ, false_and, if_false]
      exact held
  | _ => exact held

/-- Events that look alike keep states alike. -/
theorem LooksLike.apply {left right : DialogueState} (alike : left.LooksLike domain right)
    (schema : SlotSchema) :
    (left.apply schema first).LooksLike domain (right.apply schema second) := by
  constructor
  · intro slot counts
    rw [apply_slots, apply_slots]
    exact find?_slotsAfter_eq same schema counts (alike.slots slot counts)
  · rw [apply_activeLoop, apply_activeLoop, map_name_loopAfter, map_name_loopAfter,
      alike.activeLoop, loopNameAfter_eq same]
  · rw [apply_latestAction, apply_latestAction, alike.latestAction, latestActionAfter_eq same]
  · rw [apply_latestMessage, apply_latestMessage, bind_intentName_latestMessageAfter,
      bind_intentName_latestMessageAfter, alike.intent, intentAfter_eq same]

end

/-- Logs that look alike lead to states that look alike. -/
theorem looksLike_replay {left right : List Event} (schema : SlotSchema)
    (alike : List.Forall₂ (Event.LooksLike domain) left right) :
    (replay schema left).LooksLike domain (replay schema right) := by
  have start : (initial schema).LooksLike domain (initial schema) := ⟨fun _ _ => rfl, rfl, rfl, rfl⟩
  apply List.rel_foldl _ start (forall₂_appliedEvents alike)
  intro left right alike first second same
  exact alike.apply same schema

end DialogueState

/-! ## Turn states and conflicts -/

namespace TurnState

/-- A slot whose value does not count is left out, whatever its value. -/
theorem filter_slotCounts_of_unseen {slot : String} (unseen : domain.influences slot = false)
    (value : Option Json) : value.filter (slotCounts domain slot) = none := by
  rw [Option.filter_eq_none_iff]
  intro held _
  have refused : slotCounts domain slot held = (!held.isNull && domain.influences slot) := rfl
  simp [refused, unseen]

/-- Turn states do not tell states apart that look alike. -/
theorem ofTracker_congr {left right : Tracker}
    (alike : left.state.LooksLike domain right.state) :
    ofTracker left domain = ofTracker right domain := by
  have slots : left.state.slots.filter (slotCounts domain) =
      right.state.slots.filter (slotCounts domain) := by
    apply Table.ext_find?
    intro slot
    rw [Table.find?_filter, Table.find?_filter]
    cases counts : domain.influences slot with
    | true => rw [alike.slots slot counts]
    | false => rw [filter_slotCounts_of_unseen counts, filter_slotCounts_of_unseen counts]
  unfold ofTracker Tracker.latestAction Tracker.latestIntentName Tracker.latestMessage
    Tracker.activeLoopName
  rw [slots, alike.latestAction, alike.intent, alike.activeLoop]

end TurnState

namespace Tracker

theorem LooksLike.append {left right : Tracker} {first second : Event}
    (alike : left.LooksLike domain right) (same : first.LooksLike domain second) :
    (left.append first).LooksLike domain (right.append second) := by
  constructor
  · rw [append_senderId, append_senderId]
    exact alike.senderId
  · rw [append_schema, append_schema]
    exact alike.schema
  · rw [append_events, append_events]
    exact List.rel_append alike.events (.cons same .nil)

/-- A tracker shows what its log shows. -/
theorem LooksLike.state {left right : Tracker} (alike : left.LooksLike domain right)
    (leftCoherent : left.Coherent) (rightCoherent : right.Coherent) :
    left.state.LooksLike domain right.state := by
  rw [leftCoherent.state_eq, rightCoherent.state_eq, alike.schema]
  exact DialogueState.looksLike_replay right.schema alike.events

end Tracker

/-- Walking along logs that look alike, from trackers that look alike, collects the same
occurrences. -/
theorem occurrencesFrom_congr {rest others : List Event}
    (alikeRest : List.Forall₂ (Event.LooksLike domain) rest others) {left right : Tracker}
    (alike : left.LooksLike domain right) (leftCoherent : left.Coherent)
    (rightCoherent : right.Coherent) (maxHistory : Option Nat) (sender : String)
    (turns : List TurnState) :
    occurrencesFrom domain maxHistory sender left turns rest =
      occurrencesFrom domain maxHistory sender right turns others := by
  induction alikeRest generalizing left right turns with
  | nil => rfl
  | @cons first second _ _ same _ ih =>
      have later := ih (alike.append same) (leftCoherent.append first)
        (rightCoherent.append second)
      have turn := TurnState.ofTracker_congr (alike.state leftCoherent rightCoherent)
      unfold occurrencesFrom
      rw [same.actionName?_eq, turn]
      cases second.actionName? with
      | none => exact later turns
      | some action => simp only [later]

/-- The occurrences of trackers that look alike are the same. -/
theorem occurrences_congr {left right : Tracker} (alike : left.LooksLike domain right)
    (maxHistory : Option Nat) :
    occurrences domain maxHistory left = occurrences domain maxHistory right := by
  unfold occurrences
  rw [alike.senderId, alike.schema]
  apply occurrencesFrom_congr alike.events
  · exact ⟨rfl, rfl, .nil⟩
  · exact Tracker.coherent_new _ _
  · exact Tracker.coherent_new _ _

/-- The conflict search does not see what policies do not see.  Trackers that agree one by
one on their names and schemas, and whose events differ only in what no turn state shows,
have the same conflicts: with the same hashes, actions, examples and turns. -/
theorem storyConflicts_eq_of_looksLike {trackers others : List Tracker}
    (alike : List.Forall₂ (Tracker.LooksLike domain) trackers others)
    (maxHistory : Option Nat) :
    storyConflicts trackers domain maxHistory = storyConflicts others domain maxHistory := by
  have same : trackers.flatMap (occurrences domain maxHistory) =
      others.flatMap (occurrences domain maxHistory) := by
    induction alike with
    | nil => rfl
    | cons first _ ih => rw [List.flatMap_cons, List.flatMap_cons, occurrences_congr first, ih]
  unfold storyConflicts
  rw [same]

/-- A form asks for different slots, a message with the same intent differs in text and
values, an action was chosen by different policies, and the turn is taken back.  The
trackers hold different values for the question asked last, yet beside a third tracker
they lead to the same conflicts. -/
theorem storyConflicts_eq_of_looksLike_answers :
    let domain := (Domain.empty.withSlot { name := "city", type := .text }).withForm
      { name := "booking", requiredSlots := ["city", "date"] }
    let log (asked : String) (answer : UserMessage) (policy : Option String) (said : String)
        (validates : Bool) : List Event := [
      .action "booking", .formActivated "booking", .slotSet requestedSlot (.string asked),
      .formValidation validates, .listen, .user answer, .slotSet "city" (.string "Rome"),
      { change := .actionExecuted "utter_sure" policy none }, .bot said, .utteranceReverted,
      .action "action_cancel"]
    let city : Entity := { entity := "city", value := .string "Rome" }
    let first := Tracker.ofEvents "user" domain.slotSchema
      (log "city" ((UserMessage.ofText "to Rome").withIntent "inform") none "Sure." true)
    let second := Tracker.ofEvents "user" domain.slotSchema
      (log "date" ((UserMessage.withIntent {} "inform").withEntity city) (some "memory") "Yes."
        false)
    let third := Tracker.ofEvents "other" domain.slotSchema [.action "booking", .listen]
    first.state.slots.find? requestedSlot = some (.string "city") ∧
      second.state.slots.find? requestedSlot = some (.string "date") ∧
      List.Forall₂ (Tracker.LooksLike domain) [first, third] [second, third] ∧
      storyConflicts [first, third] domain none = storyConflicts [second, third] domain none := by
  intro domain log city first second third
  have unseen : domain.influences requestedSlot = false := rfl
  have alike : first.LooksLike domain second := by
    constructor
    · rfl
    · rfl
    · exact .cons (.refl _) (.cons (.refl _) (.cons (.slotSet unseen _ _)
        (.cons (.formValidation _ _) (.cons (.refl _) (.cons (.userUttered rfl) (.cons (.refl _)
          (.cons (.actionExecuted _ _ _ _ _) (.cons (.botUttered _ _ _ _) (.cons (.refl _)
            (.cons (.refl _) .nil))))))))))
  have itself : third.LooksLike domain third :=
    ⟨rfl, rfl, List.forall₂_same.mpr fun event _ => .refl event.change⟩
  have both := List.Forall₂.cons alike (.cons itself .nil)
  exact ⟨rfl, rfl, both, storyConflicts_eq_of_looksLike both none⟩

end Dialogue
