import Dialogue.Proofs.Action.Body
import Dialogue.Proofs.Tracker.Replay
import Dialogue.Session.Basic

/-!
# Turns of custom actions

A session starts out empty, and registers new actions and texts of new responses.  Both
make a name known as new.  What a run of a custom action records is decided by the answer
of its executor, and by whether its name is new: the action and what it answered, its
refusal, the action alone where it is new and not served, or nothing.
-/

namespace Dialogue

/-! ## Histories of sessions -/

/-- Something made up during a session. -/
inductive Registration where
  /-- A new action. -/
  | action (name : String)
  /-- A text of a new response. -/
  | response (name text : String)

/-- The name that becomes known. -/
def Registration.name : Registration → String
  | .action name => name
  | .response name _ => name

namespace Session

/-- The session after something was made up. -/
def register (session : Session) : Registration → Session
  | .action name => session.registerAction name
  | .response name text => session.registerResponse name text

/-- The session in which things were made up in order. -/
def ofHistory (history : List Registration) : Session :=
  history.foldl register {}

theorem ofHistory_concat (history : List Registration) (entry : Registration) :
    ofHistory (history ++ [entry]) = (ofHistory history).register entry :=
  List.foldl_concat ..

theorem isNew_register_iff {session : Session} {entry : Registration} {name : String} :
    (session.register entry).isNew name = true ↔
      entry.name = name ∨ session.isNew name = true := by
  cases entry with
  | action other => exact NameSet.contains_add_iff.trans (or_congr_left eq_comm)
  | response other text => exact NameSet.contains_add_iff.trans (or_congr_left eq_comm)

/-- A name is new in a session if it was registered there, as that of an action or of a
response. -/
theorem isNew_ofHistory_iff {history : List Registration} {name : String} :
    (ofHistory history).isNew name = true ↔ ∃ entry ∈ history, entry.name = name := by
  induction history using List.reverseRecOn with
  | nil =>
      constructor
      · intro isNew
        cases isNew
      · rintro ⟨entry, member, _⟩
        cases member
  | append_singleton history entry ih =>
      rw [ofHistory_concat, isNew_register_iff, ih]
      simp only [List.mem_append, List.mem_singleton]
      constructor
      · rintro (rfl | ⟨earlier, member, rfl⟩)
        · exact ⟨entry, .inr rfl, rfl⟩
        · exact ⟨earlier, .inl member, rfl⟩
      · rintro ⟨earlier, member | rfl, named⟩
        · exact .inr ⟨earlier, member, named⟩
        · exact .inl named

end Session

/-! ## Turns -/

/-- The turn of a custom action under an answer of its executor: the events that it
records, and its outcome. -/
inductive RemoteTurn (registered : Prop) (name : String) :
    Except ActionError ActionResponse → List Event → Except ActionError ActionOutcome → Prop where
  /-- The action is recorded, followed by what the response says and by its events. -/
  | answered {response : ActionResponse} {said : List Event}
      (inOrder : List.Forall₂ SaidBy response.responses said) :
      RemoteTurn registered name (.ok response)
        (Event.action name :: (said ++ response.events))
        (.ok (.completed (said ++ response.events)))
  /-- The refusal of the action that the server names is all that is recorded. -/
  | refused {action reason : String} :
      RemoteTurn registered name (.error (.rejected action reason))
        [{ change := .loopRejected (some action) }] (.ok (.rejected ⟨action, reason⟩))
  /-- An action of the session that is not served counts as one without events. -/
  | tolerated {error : ActionError} (isNew : registered) (unserved : error.IsUnserved) :
      RemoteTurn registered name (.error error) [Event.action name] (.ok (.completed []))
  /-- Any other failure is passed on. -/
  | failed {error : ActionError} (noRefusal : ∀ action reason, error ≠ .rejected action reason)
      (noExcuse : ¬(registered ∧ error.IsUnserved)) :
      RemoteTurn registered name (.error error) [] (.error error)

namespace RemoteTurn

variable {registered : Prop} {name : String} {answer : Except ActionError ActionResponse}
  {events : List Event} {outcome : Except ActionError ActionOutcome} {error : ActionError}

/-- A failed turn records nothing. -/
theorem events_eq_nil (turn : RemoteTurn registered name answer events (.error error)) :
    events = [] := by
  cases turn with
  | failed => rfl

/-- A new action that is not served is tolerated. -/
theorem eq_of_unserved (turn : RemoteTurn registered name (.error error) events outcome)
    (isNew : registered) (unserved : error.IsUnserved) :
    events = [Event.action name] ∧ outcome = .ok (.completed []) := by
  cases turn with
  | refused => cases unserved
  | tolerated => exact ⟨rfl, rfl⟩
  | failed _ noExcuse => exact absurd ⟨isNew, unserved⟩ noExcuse

/-- A failure without an excuse is passed on. -/
theorem eq_of_unexcused (turn : RemoteTurn registered name (.error error) events outcome)
    (noRefusal : ∀ action reason, error ≠ .rejected action reason)
    (noExcuse : ¬(registered ∧ error.IsUnserved)) : events = [] ∧ outcome = .error error := by
  cases turn with
  | refused => exact absurd rfl (noRefusal _ _)
  | tolerated isNew unserved => exact absurd ⟨isNew, unserved⟩ noExcuse
  | failed => exact ⟨rfl, rfl⟩

/-- A response is said and recorded. -/
theorem eq_of_answered {response : ActionResponse}
    (turn : RemoteTurn registered name (.ok response) events outcome) :
    ∃ said, List.Forall₂ SaidBy response.responses said ∧
      events = Event.action name :: (said ++ response.events) ∧
      outcome = .ok (.completed (said ++ response.events)) := by
  cases turn with
  | answered inOrder => exact ⟨_, inOrder, rfl, rfl⟩

/-- A refusal is all that is recorded. -/
theorem eq_of_rejected {action reason : String}
    (turn : RemoteTurn registered name (.error (.rejected action reason)) events outcome) :
    events = [{ change := .loopRejected (some action) }] ∧
      outcome = .ok (.rejected ⟨action, reason⟩) := by
  cases turn with
  | refused => exact ⟨rfl, rfl⟩
  | tolerated _ unserved => cases unserved
  | failed noRefusal => exact absurd rfl (noRefusal action reason)

end RemoteTurn

namespace Session

variable {session : Session} {executor : Executor} {tracker : Tracker} {domain : Domain}
  {name : String}

theorem run_remoteAction_of_ok {response : ActionResponse}
    (answer : executor name tracker domain = .ok response) :
    (session.remoteAction name).run executor tracker domain =
      .ok (.completed response.intoEvents) := by
  rw [RemoteAction.run, remoteAction, answer]

theorem run_remoteAction_of_rejected {action reason : String}
    (answer : executor name tracker domain = .error (.rejected action reason)) :
    (session.remoteAction name).run executor tracker domain =
      .ok (.rejected ⟨action, reason⟩) := by
  rw [RemoteAction.run, remoteAction, answer]

/-- A failure that is no refusal is passed on, or counts as a run without events. -/
theorem run_remoteAction_of_error {error : ActionError}
    (answer : executor name tracker domain = .error error)
    (noRefusal : ∀ action reason, error ≠ .rejected action reason) :
    (session.remoteAction name).run executor tracker domain =
      if session.isNew name && error.isSoft then .ok (.completed []) else .error error := by
  rw [RemoteAction.run, remoteAction, answer]
  cases error with
  | rejected action reason => exact absurd rfl (noRefusal action reason)
  | _ => rfl

end Session

namespace Conversation

theorem settle_ok (conversation : Conversation) (name : String) (outcome : ActionOutcome) :
    conversation.settle name (.ok outcome) = (conversation.record name outcome, .ok outcome) :=
  rfl

theorem settle_error (conversation : Conversation) (name : String) (error : ActionError) :
    conversation.settle name (.error error) = (conversation, .error error) :=
  rfl

/-- A run of a custom action is a turn, and changes nothing but what the turn records. -/
theorem remoteTurn_executeRemote (conversation : Conversation) (executor : Executor)
    (domain : Domain) (name : String) :
    ∃ events, RemoteTurn (conversation.session.isNew name = true) name
        (executor name conversation.tracker domain) events
        (conversation.executeRemote executor domain name).2 ∧
      (conversation.executeRemote executor domain name).1 = conversation.append events := by
  rw [executeRemote]
  cases answer : executor name conversation.tracker domain with
  | ok response =>
      rcases response.intoEvents_eq with ⟨said, inOrder, events⟩
      rw [Session.run_remoteAction_of_ok answer, settle_ok, events]
      exact ⟨_, .answered inOrder, rfl⟩
  | error error =>
      by_cases refusal : ∃ action reason, error = .rejected action reason
      · rcases refusal with ⟨action, reason, rfl⟩
        rw [Session.run_remoteAction_of_rejected answer, settle_ok]
        exact ⟨_, .refused, rfl⟩
      · have noRefusal : ∀ action reason, error ≠ .rejected action reason := by
          intro action reason refused
          exact refusal ⟨action, reason, refused⟩
        rw [Session.run_remoteAction_of_error answer noRefusal]
        by_cases excused : (conversation.session.isNew name && error.isSoft) = true
        · rw [if_pos excused, settle_ok]
          rw [Bool.and_eq_true, ActionError.isSoft_iff] at excused
          exact ⟨_, .tolerated excused.1 excused.2, rfl⟩
        · rw [if_neg excused, settle_error]
          rw [Bool.and_eq_true, ActionError.isSoft_iff] at excused
          exact ⟨[], .failed noRefusal excused, rfl⟩

end Conversation

/-- A run of a custom action in a session with some history is a turn, in which the names of
the history are the new ones.  The log grows by the events of the turn and the session stays
as it is; after a failure so does everything.  Under an action server, the turn is that of
what the answer to the request means.  A body that is the text of a readable value is a
response or a refusal exactly if the value has the shape of one, and a response that a server
wrote is read back. -/
theorem Conversation.executeRemote_outcome :
    (∀ (history : List Registration) (tracker : Tracker) (executor : Executor)
      (domain : Domain) (name : String),
      let conversation : Conversation := ⟨tracker, Session.ofHistory history⟩
      let ran := conversation.executeRemote executor domain name
      (∃ events, RemoteTurn (∃ entry ∈ history, entry.name = name) name
          (executor name tracker domain) events ran.2 ∧
        ran.1 = ⟨tracker.extend events, conversation.session⟩ ∧
        ran.1.tracker.events = tracker.events ++ events) ∧
      ∀ error, ran.2 = .error error → ran.1 = conversation) ∧
    (∀ (readUrl : Url.Reader) (endpoint : ActionEndpoint)
      (send : ActionEndpoint → Post → Exchange) (post : Post) (tracker : Tracker)
      (domain : Domain) (name : String) (status : Nat) (body : String),
      endpoint.post? readUrl name tracker domain = some post →
      send endpoint post = .answered status body →
      AnswerMeans name status body (endpoint.executor readUrl send name tracker domain)) ∧
    (∀ value : Json, value.Readable Json.depthLimit →
      (∀ response, ActionResponse.ofText? value.compact = some response ↔
        ActionResponse.Of value response) ∧
      ∀ name reason, Refuses value.compact name reason ↔
        ∃ members, Json.HasMembers refusalMembers value members ∧
          RefusedBy members name reason) ∧
    ∀ (now : Binary64) (response : ActionResponse),
      (∀ event ∈ response.events, event.Writable) →
      (response.toJson now).Readable Json.depthLimit →
      ActionResponse.ofText? (response.toJson now).compact = some (response.stamp now) := by
  refine ⟨?_, ?_, ?_, ?_⟩
  · intro history tracker executor domain name conversation ran
    rcases conversation.remoteTurn_executeRemote executor domain name with
      ⟨events, turn, appended⟩
    constructor
    · rw [Session.isNew_ofHistory_iff] at turn
      refine ⟨events, turn, appended, ?_⟩
      rw [show ran.1 = _ from appended, append, Tracker.extend_events]
    · intro error failed
      rw [show _ = Except.error error from failed] at turn
      rw [turn.events_eq_nil] at appended
      exact appended
  · intro readUrl endpoint send post tracker domain name status body posted answered
    rw [ActionEndpoint.executor, posted]
    simp only [answered]
    exact endpoint.answerMeans_receive name status body
  · intro value readable
    exact ⟨fun _ => ActionResponse.ofText?_compact_eq_some_iff readable,
      fun _ _ => refuses_compact_iff readable⟩
  · intro now response writable readable
    rw [ActionResponse.ofText?_compact readable, ActionResponse.ofJson?_toJson now writable]

/-- A session with a new action and a new response, over a server that gives the same answer
to all.  If it misses a response that is new, the response is run without events, and an
action that is not new fails.  A body with events and things to say is recorded, also if the
server tells its version in it or wrote it at noon; a refusal names the action that it is
about; and null cannot be decoded. -/
theorem Conversation.executeRemote_outcome_over_server :
    let history : List Registration := [.action "action_ask", .response "utter_new" "hello"]
    let conversation : Conversation := ⟨Tracker.new "user" Table.empty, Session.ofHistory history⟩
    let run (status : Nat) (body name : String) :=
      conversation.executeRemote
        (ActionEndpoint.executor Url.parse? {} fun _ _ => .answered status body) Domain.empty name
    let slot := Event.slotSet "city" (.string "Oslo")
    let answer := Json.object [
      ("events", .array [.object [("event", .string "slot"), ("name", .string "city"),
        ("value", .string "Oslo")]]),
      ("responses", .array [.string "hello"]),
      ("version", .number (.int 2))]
    let noon : Binary64 := ⟨false, 675 * Nat.pow 2 43, -37, by decide⟩
    let written := ActionResponse.toJson noon ⟨[slot], []⟩
    let refusal := Json.object [("action_name", .string "action_pay"), ("error", .string "busy")]
    run 404 "missing" "utter_new" =
        (conversation.append [Event.action "utter_new"], .ok (.completed [])) ∧
      run 404 "missing" "utter_old" =
        (conversation, .error (.server "utter_old" 404 "missing")) ∧
      run 200 answer.compact "action_ask" =
        (conversation.append [Event.action "action_ask", Event.bot "hello", slot],
          .ok (.completed [Event.bot "hello", slot])) ∧
      run 200 written.compact "action_ask" =
        (conversation.append [Event.action "action_ask", slot.stamp noon],
          .ok (.completed [slot.stamp noon])) ∧
      run 400 refusal.compact "action_ask" =
        (conversation.append [Event.loopRejected (some "action_pay")],
          .ok (.rejected ⟨"action_pay", "busy"⟩)) ∧
      ∃ message, run 200 Json.null.compact "action_ask" =
        (conversation, .error (.decode "action_ask" message)) := by
  intro history conversation run slot answer noon written refusal
  rcases executeRemote_outcome with ⟨turns, answers, bodies, comesBack⟩
  have turn (status : Nat) (body name : String) :
      ∃ result events, AnswerMeans name status body result ∧
        RemoteTurn (∃ entry ∈ history, entry.name = name) name result events
          (run status body name).2 ∧
        (run status body name).1 = conversation.append events := by
    have valid : ({} : Config).validate Url.parse? = .ok () := by
      rfl
    rcases Config.exists_post?_of_validate valid name conversation.tracker Domain.empty with
      ⟨post, posted⟩
    rcases turns history conversation.tracker
      (ActionEndpoint.executor Url.parse? {} fun _ _ => .answered status body) Domain.empty
      name with ⟨⟨events, turn, appended, _⟩, _⟩
    exact ⟨_, events, answers Url.parse? {} _ post _ _ name status body posted rfl, turn, appended⟩
  refine ⟨?_, ?_, ?_, ?_, ?_, ?_⟩
  · rcases turn 404 "missing" "utter_new" with ⟨result, events, means, turn, appended⟩
    rw [means.eq_server (.inr (by decide)) (by decide)] at turn
    have isNew : ∃ entry ∈ history, entry.name = "utter_new" :=
      ⟨.response "utter_new" "hello", by simp [history], rfl⟩
    obtain ⟨rfl, same⟩ := turn.eq_of_unserved isNew (.server _ _ _)
    exact Prod.ext appended same
  · rcases turn 404 "missing" "utter_old" with ⟨result, events, means, turn, appended⟩
    rw [means.eq_server (.inr (by decide)) (by decide)] at turn
    have known : ¬∃ entry ∈ history, entry.name = "utter_old" := by
      simp [history, Registration.name]
    obtain ⟨rfl, same⟩ := turn.eq_of_unexcused (by simp) fun excuse => known excuse.1
    exact Prod.ext appended same
  · have readable : answer.Readable Json.depthLimit := by
      refine .object (by decide) ?_
      have isEvent : Json.Readable 125 (.object [("event", .string "slot"),
          ("name", .string "city"), ("value", .string "Oslo")]) :=
        .object (by decide) (by simp [Json.Readable.string])
      have isVersion : Json.Readable 126 (.number (.int 2)) :=
        .number (Number.comesBack_int (by decide) (by decide))
      simp only [List.forall_mem_cons]
      exact ⟨.array (by simpa using isEvent), .array (by simp [Json.Readable.string]), isVersion,
        List.forall_mem_nil _⟩
    have isResponse : ActionResponse.Of answer ⟨[slot], [.string "hello"]⟩ :=
      .members (.object _) (.held rfl ⟨_, rfl, .cons rfl .nil⟩) (.held rfl rfl)
    rcases turn 200 answer.compact "action_ask" with ⟨result, events, means, turn, appended⟩
    rw [means.eq_ok (by decide) (((bodies answer readable).1 _).mpr isResponse)] at turn
    obtain ⟨said, inOrder, rfl, same⟩ := turn.eq_of_answered
    obtain rfl : said = [Event.bot "hello"] := by
      cases inOrder with
      | cons first later =>
          cases later
          cases first with
          | text => rfl
          | other noText => exact absurd rfl (noText "hello")
    exact Prod.ext appended same
  · have readable : written.Readable Json.depthLimit := by
      have isEvent : (slot.toJson noon).Readable 125 := by
        have isTime : Json.Readable 124 (Json.ofBinary64 noon) := .number (by decide +kernel)
        refine .ofMembers ?_
        simpa [slot, Event.slotSet, EventTime.seconds, Change.members, Json.present,
          Json.Readable.string] using isTime
      refine .ofMembers ?_
      simp only [List.forall_mem_cons]
      exact ⟨.array (by simpa using isEvent), .array (List.forall_mem_nil _), List.forall_mem_nil _⟩
    have writable : ∀ event ∈ [slot], event.Writable := by
      intro event member
      rw [List.mem_singleton] at member
      exact member ▸ trivial
    rcases turn 200 written.compact "action_ask" with ⟨result, events, means, turn, appended⟩
    rw [means.eq_ok (by decide) (comesBack noon ⟨[slot], []⟩ writable readable)] at turn
    obtain ⟨said, inOrder, rfl, same⟩ := turn.eq_of_answered
    cases inOrder
    exact Prod.ext appended same
  · have readable : refusal.Readable Json.depthLimit :=
      .object (by decide) (by simp [Json.Readable.string])
    have refuses : Refuses refusal.compact "action_pay" "busy" :=
      ((bodies refusal readable).2 _ _).mpr ⟨_, .object _, rfl, .inl rfl⟩
    rcases turn 400 refusal.compact "action_ask" with ⟨result, events, means, turn, appended⟩
    rw [means.eq_rejected refuses] at turn
    obtain ⟨rfl, same⟩ := turn.eq_of_rejected
    exact Prod.ext appended same
  · have unread : ActionResponse.ofText? Json.null.compact = none := by
      rw [Option.eq_none_iff_forall_ne_some]
      intro response read
      rcases ((bodies .null .null).1 response).mp read with ⟨⟨⟩⟩
    rcases turn 200 Json.null.compact "action_ask" with ⟨result, events, means, turn, appended⟩
    obtain ⟨message, rfl⟩ := means.exists_eq_decode (by decide) unread
    have noExcuse (registered : Prop) :
        ¬(registered ∧ (ActionError.decode "action_ask" message).IsUnserved) := by
      rintro ⟨_, ⟨⟩⟩
    obtain ⟨rfl, same⟩ := turn.eq_of_unexcused (by simp) (noExcuse _)
    exact ⟨message, Prod.ext appended same⟩

end Dialogue
