import Dialogue.Proofs.Action.Answer
import Dialogue.Proofs.Event.RoundTrip
import Dialogue.Proofs.Json.ReadBack

/-!
# Bodies of answers

The body of an answer is read straight from its text, where members that count must not be
repeated and members of other names are skipped.  For the text of a readable value none of
this makes a difference: it is a response or a refusal exactly if the value has the shape of
one, and a response that was written is read back.
-/

namespace Dialogue

theorem Entries.find?_filter_contains {α : Type} {names : List String} {name : String}
    (listed : name ∈ names) (members : Entries α) :
    Entries.find? name (members.filter fun member => names.contains member.1) =
      members.find? name := by
  induction members with
  | nil => rfl
  | cons member members ih =>
      obtain ⟨key, value⟩ := member
      rw [List.filter_cons, Entries.find?_cons, ← ih]
      by_cases same : key = name
      · simp [same, listed, Entries.find?_cons]
      · by_cases known : key ∈ names <;> simp [known, same, Entries.find?_cons]

/-- Members that are listed by name are left in place by putting them in order. -/
theorem Json.ofMembers_of_sorted (members : Entries Json) (sorted : members.Sorted) :
    ofMembers members = .object members :=
  congrArg object (congrArg Table.entries (Table.ofList_entries ⟨members, sorted⟩))

/-! ## Members that are not repeated -/

namespace Json

variable {depth : Nat} {value : Json}

/-- Members that are listed by name are not repeated. -/
theorem repeatsNone_of_sorted {members : Entries Json} (sorted : members.Sorted)
    (names : List String) : Entries.repeatsNone names members = true := by
  unfold Entries.repeatsNone
  rw [List.all_eq_true]
  intro name _
  have once : (members.map Prod.fst).count name ≤ 1 :=
    List.nodup_iff_count_le_one.mp sorted.nodup name
  rw [List.count, List.countP_map] at once
  exact decide_eq_true once

theorem Readable.repeatsNone (readable : Readable depth value) (names : List String) :
    value.repeatsNone names = true := by
  cases readable with
  | object sorted => exact repeatsNone_of_sorted sorted names
  | _ => rfl

/-- What stands under a name of a readable object is readable. -/
theorem Readable.of_find? {members : Entries Json} {name : String}
    (each : ∀ member ∈ members, Readable depth member.2)
    (found : members.find? name = some value) : Readable depth value :=
  each _ (Entries.mem_of_find?_eq_some found)

theorem Readable.repeatsNone_understood (readable : Readable depth value) :
    ParseData.repeatsNone value = true := by
  cases readable with
  | @object depth members sorted each =>
      rw [ParseData.repeatsNone, repeatsNone_of_sorted sorted, Bool.true_and, Bool.and_eq_true]
      constructor
      · rw [Option.all_eq_true]
        intro intent found
        exact (Readable.of_find? each found).repeatsNone _
      · split
        · rename_i items found
          rw [List.all_eq_true]
          cases Readable.of_find? each found with
          | array each => exact fun item member => (each item member).repeatsNone _
        · rfl
  | _ => rfl

theorem Readable.repeatsNone_event (readable : Readable depth value) :
    Event.repeatsNone value = true := by
  cases readable with
  | @object depth members sorted each =>
      rw [Event.repeatsNone, repeatsNone_of_sorted sorted, Bool.true_and]
      split
      · rw [repeatsNone_of_sorted sorted, Bool.true_and, Bool.or_eq_true, Option.all_eq_true]
        exact .inr fun parse found => (Readable.of_find? each found).repeatsNone_understood
      · rfl
  | _ => rfl

theorem Readable.listRepeatsNone (readable : Readable depth value) :
    Event.listRepeatsNone value = true := by
  cases readable with
  | array each =>
      exact List.all_eq_true.mpr fun item member => (each item member).repeatsNone_event
  | _ => rfl

/-- The known members of a readable record are readable. -/
theorem Readable.of_hasMembers {names : List String} {members : Entries Json}
    (readable : Readable (depth + 1) value) (has : HasMembers names value members) :
    ∀ member ∈ members, Readable depth member.2 := by
  cases readable with
  | object sorted each =>
      cases has
      exact each
  | array each =>
      cases has
      intro member isMember
      exact each _ (List.of_mem_zip isMember).2
  | _ => cases has

end Json

/-! ## Responses -/

/-- A value lists events. -/
def Event.ListedBy (value : Json) (events : List Event) : Prop :=
  ∃ items, value = .array items ∧
    List.Forall₂ (fun item event => ofJson? item = some event) items events

theorem Event.listOfJson?_eq_some_iff {value : Json} {events : List Event} :
    listOfJson? value = some events ↔ ListedBy value events := by
  constructor
  · exact Json.forall₂_of_list?_eq_some
  · rintro ⟨items, rfl, each⟩
    exact Json.mapM_eq_some_iff.mpr each

namespace ActionResponse

/-- A value has the shape of a response. -/
inductive Of : Json → ActionResponse → Prop where
  | members {value : Json} {members : Entries Json} {response : ActionResponse}
      (has : Json.HasMembers memberNames value members)
      (events : members.Gives "events" [] Event.ListedBy response.events)
      (responses : members.Gives "responses" [] (fun value items => value = .array items)
        response.responses) : Of value response

theorem ofJson?_eq_some_iff {value : Json} {response : ActionResponse} :
    ofJson? value = some response ↔ Of value response := by
  unfold ofJson?
  simp only [bind, Option.bind_eq_some_iff, pure, Option.some.injEq, Json.record?_eq_some_iff,
    Entries.defaulted_eq_some_iff Event.listOfJson?_eq_some_iff,
    Entries.defaulted_eq_some_iff Json.array?_eq_some_iff]
  constructor
  · rintro ⟨members, has, events, areEvents, responses, areResponses, rfl⟩
    exact .members has areEvents areResponses
  · rintro ⟨has, areEvents, areResponses⟩
    exact ⟨_, has, _, areEvents, _, areResponses, rfl⟩

/-- The members of other names play no part in a response. -/
theorem ofJson?_filter (members : Entries Json) :
    ofJson? (.object (members.filter fun member => memberNames.contains member.1)) =
      ofJson? (.object members) := by
  have events : "events" ∈ memberNames := by decide
  have responses : "responses" ∈ memberNames := by decide
  simp only [ofJson?, Json.record?, Option.bind_eq_bind, Option.bind_some, Entries.defaulted,
    Entries.find?_filter_contains events, Entries.find?_filter_contains responses]

theorem ofJson?_of_hasMembers {value : Json} {members : Entries Json}
    (has : Json.HasMembers memberNames value members) :
    ofJson? (.object members) = ofJson? value := by
  unfold ofJson?
  rw [Json.record?_eq_some_iff.mpr has]
  rfl

/-- Reading the text of a readable value is reading the value. -/
theorem ofText?_compact {value : Json} (readable : Json.Readable Json.depthLimit value) :
    ofText? value.compact = ofJson? value := by
  unfold ofText?
  rw [Json.recordOfText?_compact (fun _ _ => rfl) readable,
    Json.recordOfText?_compact Json.ofMembers_of_sorted readable]
  cases record : value.record? memberNames with
  | none =>
      unfold ofJson?
      rw [record]
      rfl
  | some members =>
      have has := Json.record?_eq_some_iff.mp record
      have apart : (Entries.find? "events" (members.filter fun member =>
          memberNames.contains member.1)).all Event.listRepeatsNone = true := by
        rw [Entries.find?_filter_contains (by decide), Option.all_eq_true]
        intro events found
        exact (Json.Readable.of_find? (readable.of_hasMembers has) found).listRepeatsNone
      simp only [Option.map_some, Option.bind_eq_bind, Option.bind_some, apart, if_true]
      rw [ofJson?_filter, ofJson?_of_hasMembers has]

/-- The text of a readable value is a response exactly if the value has the shape of it. -/
theorem ofText?_compact_eq_some_iff {value : Json} {response : ActionResponse}
    (readable : Json.Readable Json.depthLimit value) :
    ofText? value.compact = some response ↔ Of value response := by
  rw [ofText?_compact readable, ofJson?_eq_some_iff]

/-- The response with the times at which its events happened. -/
def stamp (now : Binary64) (response : ActionResponse) : ActionResponse :=
  { response with events := response.events.map (Event.stamp now) }

/-- A response that can be written comes back. -/
theorem ofJson?_toJson (now : Binary64) {response : ActionResponse}
    (writable : ∀ event ∈ response.events, event.Writable) :
    ofJson? (response.toJson now) = some (response.stamp now) := by
  have nodup : (([("events", Event.listToJson now response.events),
      ("responses", .array response.responses)] : Entries Json).map Prod.fst).Nodup := by
    simp
  rw [ofJson?_eq_some_iff]
  refine .members (.object _) (.held (Entries.find?_ofList nodup "events") ?_)
    (.held (Entries.find?_ofList nodup "responses") rfl)
  exact Event.listOfJson?_eq_some_iff.mp (Event.listOfJson?_listToJson now writable)

end ActionResponse

/-! ## Refusals -/

/-- Only the members of a refusal play a part in it. -/
theorem RefusedBy.of_same {members others : Entries Json} {name reason : String}
    (refused : RefusedBy members name reason)
    (same : ∀ name ∈ refusalMembers, others.find? name = members.find? name) :
    RefusedBy others name reason := by
  constructor
  · rw [same "action_name" (by decide)]
    exact refused.named
  · rw [same "error" (by decide)]
    exact refused.explained

/-- The text of a readable value refuses an action exactly if the members of the value do. -/
theorem refuses_compact_iff {value : Json} {name reason : String}
    (readable : Json.Readable Json.depthLimit value) :
    Refuses value.compact name reason ↔
      ∃ members, Json.HasMembers refusalMembers value members ∧ RefusedBy members name reason := by
  unfold Refuses
  rw [Json.recordOfText?_compact Json.ofMembers_of_sorted readable]
  simp only [Option.map_eq_some_iff, Json.record?_eq_some_iff]
  constructor
  · rintro ⟨_, ⟨members, has, rfl⟩, refused⟩
    refine ⟨members, has, refused.of_same fun name listed => ?_⟩
    rw [Entries.find?_filter_contains listed]
  · rintro ⟨members, has, refused⟩
    refine ⟨_, ⟨members, has, rfl⟩, refused.of_same fun name listed => ?_⟩
    rw [Entries.find?_filter_contains listed]

end Dialogue
