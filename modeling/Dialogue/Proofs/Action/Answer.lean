import Dialogue.Action.Exchange
import Dialogue.Proofs.Json.Record

/-!
# What the answers to actions mean

The status and the body of an answer leave four possibilities, and decide which of them
is the case: a refusal of an action, a failure of the server, a response, or a body that is
none.  What a response has to say becomes bot events, one for each thing.
-/

namespace Dialogue

namespace Entries

variable {members : Entries Json} {name text : String}

/-- An optional text that is there. -/
theorem optional_eq_some_some_iff :
    members.optional name Json.string? = some (some text) ↔
      members.find? name = some (.string text) := by
  unfold optional
  cases members.find? name with
  | none => simp
  | some value => cases value <;> simp [Json.string?]

/-- An optional text that is missing. -/
theorem optional_eq_some_none_iff :
    members.optional name Json.string? = some none ↔
      members.find? name = none ∨ members.find? name = some .null := by
  unfold optional
  cases members.find? name with
  | none => simp
  | some value => cases value <;> simp [Json.string?]

end Entries

/-! ## Requests -/

/-- Under settings that are of use, every run of an action is posted. -/
theorem Config.exists_post?_of_validate {readUrl : Url.Reader} {config : Config}
    (valid : config.validate readUrl = .ok ()) (action : String) (tracker : Tracker)
    (domain : Domain) :
    ∃ post, config.endpoint.post? readUrl action tracker domain = some post := by
  rw [validate] at valid
  cases parsed : readUrl config.endpoint.url with
  | none =>
      simp only [parsed] at valid
      cases valid
  | some url =>
      by_cases served : serverSchemes.contains url.scheme = true
      · have usable : (readUrl config.endpoint.url).filter
            (fun url => serverSchemes.contains url.scheme) = some url :=
          Option.filter_eq_some_iff.mpr ⟨parsed, served⟩
        rw [ActionEndpoint.post?, usable]
        exact ⟨_, rfl⟩
      · rw [Bool.not_eq_true] at served
        simp only [parsed, served] at valid
        cases valid

/-! ## Refusals -/

/-- The members of a refusal name an action, and give a reason.  The reason is empty if
it is null or missing. -/
structure RefusedBy (members : Entries Json) (name reason : String) : Prop where
  named : members.find? "action_name" = some (.string name)
  explained : members.find? "error" = some (.string reason) ∨
    reason = "" ∧ (members.find? "error" = none ∨ members.find? "error" = some .null)

/-- The body of an answer is a refusal of an action. -/
def Refuses (body name reason : String) : Prop :=
  ∃ members, Json.recordOfText? Json.ofMembers refusalMembers body = some members ∧
    RefusedBy members name reason

theorem refusal?_eq_some_iff {body name reason : String} :
    refusal? body = some (name, reason) ↔ Refuses body name reason := by
  unfold refusal?
  simp only [Option.bind_eq_bind, Option.bind_eq_some_iff, Option.pure_def, Option.some.injEq,
    Prod.mk.injEq]
  constructor
  · rintro ⟨members, record, action, named, error, explained, _, rfl, rfl, rfl⟩
    refine ⟨members, record, Entries.optional_eq_some_some_iff.mp named, ?_⟩
    cases error with
    | some text => exact .inl (Entries.optional_eq_some_some_iff.mp explained)
    | none => exact .inr ⟨rfl, Entries.optional_eq_some_none_iff.mp explained⟩
  · rintro ⟨members, record, named, explained⟩
    refine ⟨members, record, some name, Entries.optional_eq_some_some_iff.mpr named, ?_⟩
    rcases explained with text | ⟨rfl, missing⟩
    · exact ⟨some reason, Entries.optional_eq_some_some_iff.mpr text, name, rfl, rfl, rfl⟩
    · exact ⟨none, Entries.optional_eq_some_none_iff.mpr missing, name, rfl, rfl, rfl⟩

theorem refusal?_eq_none_iff {body : String} :
    refusal? body = none ↔ ∀ name reason, ¬Refuses body name reason := by
  rw [Option.eq_none_iff_forall_ne_some]
  constructor
  · intro none name reason refuses
    exact none _ (refusal?_eq_some_iff.mpr refuses)
  · rintro none ⟨name, reason⟩ refused
    exact none name reason (refusal?_eq_some_iff.mp refused)

/-! ## Answers -/

/-- What an answer to an action means, by its status and its body. -/
inductive AnswerMeans (action : String) (status : Nat) (body : String) :
    Except ActionError ActionResponse → Prop where
  /-- A bad request with a refusal refuses the action that it names. -/
  | refused {name reason : String} (isBad : status = 400) (refuses : Refuses body name reason) :
      AnswerMeans action status body (.error (.rejected name reason))
  /-- Any other status outside the success range is a failure of the server. -/
  | failed (unsuccessful : status < 200 ∨ 300 ≤ status)
      (noRefusal : status = 400 → ∀ name reason, ¬Refuses body name reason) :
      AnswerMeans action status body (.error (.server action status body))
  /-- A body that can be read is the response. -/
  | understood {response : ActionResponse} (successful : 200 ≤ status ∧ status < 300)
      (read : ActionResponse.ofText? body = some response) :
      AnswerMeans action status body (.ok response)
  /-- Any other body cannot be decoded. -/
  | garbled {message : String} (successful : 200 ≤ status ∧ status < 300)
      (unread : ActionResponse.ofText? body = none) :
      AnswerMeans action status body (.error (.decode action message))

theorem isSuccess_iff {status : Nat} :
    isSuccess status = true ↔ 200 ≤ status ∧ status < 300 := by
  simp [isSuccess]

/-- Whatever the status and the body, an answer is received as what it means. -/
theorem ActionEndpoint.answerMeans_receive (endpoint : ActionEndpoint) (action : String)
    (status : Nat) (body : String) :
    AnswerMeans action status body (endpoint.receive action (.answered status body)) := by
  cases refusal : (if status = badRequest then refusal? body else none) with
  | some refused =>
      obtain ⟨name, reason⟩ := refused
      obtain ⟨isBad, refuses⟩ := Option.ite_none_right_eq_some.mp refusal
      simp only [receive, refusal]
      exact .refused isBad (refusal?_eq_some_iff.mp refuses)
  | none =>
      have noRefusal (isBad : status = 400) : ∀ name reason, ¬Refuses body name reason := by
        rw [if_pos (show status = badRequest from isBad)] at refusal
        exact refusal?_eq_none_iff.mp refusal
      by_cases successful : isSuccess status = true
      · have range := isSuccess_iff.mp successful
        cases read : ActionResponse.ofText? body with
        | some response =>
            simp only [receive, refusal, successful, read]
            exact .understood range read
        | none =>
            simp only [receive, refusal, successful, read]
            exact .garbled range read
      · have range : status < 200 ∨ 300 ≤ status := by
          rw [isSuccess_iff] at successful
          omega
        rw [Bool.not_eq_true] at successful
        simp only [receive, refusal, successful]
        exact .failed range noRefusal

namespace AnswerMeans

variable {action body : String} {status : Nat} {result : Except ActionError ActionResponse}

/-- Outside the success range, an answer that is not about a bad request is a failure of
the server. -/
theorem eq_server (means : AnswerMeans action status body result)
    (unsuccessful : status < 200 ∨ 300 ≤ status) (notBad : status ≠ 400) :
    result = .error (.server action status body) := by
  cases means with
  | refused isBad => exact absurd isBad notBad
  | failed => rfl
  | understood successful => omega
  | garbled successful => omega

/-- A bad request with a refusal refuses the action that it names, and no other. -/
theorem eq_rejected {name reason : String} (means : AnswerMeans action 400 body result)
    (refuses : Refuses body name reason) : result = .error (.rejected name reason) := by
  cases means with
  | refused _ others =>
      rw [← refusal?_eq_some_iff] at refuses others
      obtain ⟨rfl, rfl⟩ := Prod.mk.inj (Option.some.inj (others.symm.trans refuses))
      rfl
  | failed _ noRefusal => exact absurd refuses (noRefusal rfl name reason)
  | understood successful => omega
  | garbled successful => omega

theorem eq_ok {response : ActionResponse} (means : AnswerMeans action status body result)
    (successful : 200 ≤ status ∧ status < 300)
    (read : ActionResponse.ofText? body = some response) : result = .ok response := by
  cases means with
  | refused isBad => omega
  | failed => omega
  | understood _ other => rw [Option.some.inj (read.symm.trans other)]
  | garbled _ unread => cases read.symm.trans unread

theorem exists_eq_decode (means : AnswerMeans action status body result)
    (successful : 200 ≤ status ∧ status < 300) (unread : ActionResponse.ofText? body = none) :
    ∃ message, result = .error (.decode action message) := by
  cases means with
  | refused isBad => omega
  | failed => omega
  | understood _ read => cases read.symm.trans unread
  | garbled => exact ⟨_, rfl⟩

end AnswerMeans

/-! ## Things to say -/

/-- A bot event says something: a text; an object, the member `text` of which is the text
if it is one, while the others pass through; or any other value, which only passes
through. -/
inductive SaidBy : Json → Event → Prop where
  | text (text : String) : SaidBy (.string text) { change := .botUttered (some text) Table.empty }
  | members {members : Entries Json} {data : Table Json}
      (rest : ∀ name, data.find? name =
        if name = "text" then none else (Table.ofList members).find? name) :
      SaidBy (.object members)
        { change := .botUttered ((members.find? "text").bind Json.string?) data }
  | other {value : Json} (noText : ∀ text, value ≠ .string text)
      (noMembers : ∀ members, value ≠ .object members) :
      SaidBy value { change := .botUttered none (Table.ofList [("custom", value)]) }

theorem saidBy_utterance (value : Json) : SaidBy value (ActionResponse.utterance value) := by
  cases value with
  | string text => exact .text text
  | object members =>
      apply SaidBy.members
      intro name
      rw [Table.find?_ofList_without]
      simp only [List.mem_singleton]
  | null => exact .other (by simp) (by simp)
  | bool value => exact .other (by simp) (by simp)
  | number value => exact .other (by simp) (by simp)
  | array items => exact .other (by simp) (by simp)

/-- The events of a response say its things in order, and are followed by its own. -/
theorem ActionResponse.intoEvents_eq (response : ActionResponse) :
    ∃ said, List.Forall₂ SaidBy response.responses said ∧
      response.intoEvents = said ++ response.events := by
  refine ⟨response.responses.map utterance, ?_, rfl⟩
  rw [List.forall₂_map_right_iff, List.forall₂_same]
  intro value _
  exact saidBy_utterance value

/-! ## Failures -/

/-- The failures of an action that may not be deployed yet. -/
inductive ActionError.IsUnserved : ActionError → Prop where
  | transport (action message : String) : IsUnserved (.transport action message)
  | timeout (action : String) (seconds : Nat) : IsUnserved (.timeout action seconds)
  | server (action : String) (status : Nat) (body : String) :
      IsUnserved (.server action status body)

theorem ActionError.isSoft_iff {error : ActionError} :
    error.isSoft = true ↔ error.IsUnserved := by
  constructor
  · intro soft
    cases error with
    | transport action message => exact .transport action message
    | timeout action seconds => exact .timeout action seconds
    | server action status body => exact .server action status body
    | _ => cases soft
  · intro unserved
    cases unserved <;> rfl

end Dialogue
