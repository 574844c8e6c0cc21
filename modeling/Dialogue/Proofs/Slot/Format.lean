import Dialogue.Slot.Mapping
import Dialogue.Proofs.Json.Record

/-!
# The format of slot mappings

A mapping is read from an object of one of the four types that does not list intents in
both ways and, if it takes an entity, names one.  Any other value fails a check, and the
error is that of the first check that it fails.  Every mapping comes back from its
written form, up to a filter that lists no intent at all: an empty list is no restriction
when it is read.
-/

namespace Dialogue

/-! ## Filters -/

namespace IntentFilter

/-- The filter that is read where a filter was written: an empty list is none. -/
def reread : IntentFilter → IntentFilter
  | .any => .any
  | .only intents => if intents.keys = [] then .any else .only intents
  | .except intents => if intents.keys = [] then .any else .except intents

/-- The members of a filter, with those that it does not have. -/
def fields : IntentFilter → List (String × Option Json)
  | .any => [("intent", none), ("not_intent", none)]
  | .only intents => [("intent", some (Json.ofStrings intents.keys)), ("not_intent", none)]
  | .except intents => [("intent", none), ("not_intent", some (Json.ofStrings intents.keys))]

/-- Reading a written filter changes what it accepts only if it accepts nothing. -/
theorem accepts_reread_iff (filter : IntentFilter) (intent : Option String) :
    filter.reread.accepts intent = true ↔
      filter.accepts intent = true ∨ filter = .only Table.empty := by
  cases filter with
  | any => simp [reread, accepts]
  | only intents =>
      by_cases listed : intents.keys = []
      · have unfiltered : intents = Table.empty := NameSet.eq_empty_of_keys_eq_nil listed
        rw [reread, if_pos listed, unfiltered]
        simp [accepts]
      · have filtered : intents ≠ Table.empty := by
          rintro rfl
          exact listed rfl
        simp [reread, listed, filtered]
  | except intents =>
      by_cases listed : intents.keys = []
      · rw [reread, if_pos listed, NameSet.eq_empty_of_keys_eq_nil listed]
        cases intent <;> simp [accepts, Table.contains]
      · simp [reread, listed]

theorem accepts_only_ofNames_iff {names : List String} {intent : Option String} :
    (only (NameSet.ofNames names)).accepts intent = true ↔ ∃ name ∈ names, intent = some name := by
  cases intent with
  | none => simp [accepts]
  | some intent => simp [accepts, NameSet.contains_ofNames_iff]

theorem accepts_except_ofNames_iff {names : List String} {intent : Option String} :
    (except (NameSet.ofNames names)).accepts intent = true ↔
      ∀ name ∈ names, intent ≠ some name := by
  cases intent with
  | none => simp [accepts]
  | some intent =>
      rw [accepts, Bool.not_eq_true', Bool.eq_false_iff, ne_eq, NameSet.contains_ofNames_iff]
      constructor
      · rintro missing name member same
        exact missing (Option.some.inj same ▸ member)
      · intro others member
        exact others intent member rfl

variable {listed excluded : List String} {filter : IntentFilter}

theorem ofLists_eq_ok_iff :
    ofLists listed excluded = .ok filter ↔
      (listed = [] ∧ excluded = [] ∧ filter = .any) ∨
      (listed ≠ [] ∧ excluded = [] ∧ filter = .only (NameSet.ofNames listed)) ∨
      (listed = [] ∧ excluded ≠ [] ∧ filter = .except (NameSet.ofNames excluded)) := by
  cases listed <;> cases excluded <;> simp [ofLists, eq_comm]

theorem ofLists_of_both (lists : listed ≠ []) (excludes : excluded ≠ []) :
    ofLists listed excluded = .error (.conflictingIntents listed excluded) := by
  cases listed with
  | nil => exact absurd rfl lists
  | cons name rest =>
      cases excluded with
      | nil => exact absurd rfl excludes
      | cons other rest => rfl

/-- A filter that was read is read again from its written form. -/
theorem reread_of_ofLists (read : ofLists listed excluded = .ok filter) :
    filter.reread = filter := by
  rcases ofLists_eq_ok_iff.mp read with ⟨_, _, rfl⟩ | ⟨lists, _, rfl⟩ | ⟨_, excludes, rfl⟩
  · rfl
  · exact if_neg (NameSet.keys_ofNames_ne_nil lists)
  · exact if_neg (NameSet.keys_ofNames_ne_nil excludes)

/-- What passes the filter for two lists: the intents of the first, if that has members,
and none of the second. -/
theorem accepts_of_ofLists (read : ofLists listed excluded = .ok filter)
    (intent : Option String) :
    filter.accepts intent = true ↔
      (listed ≠ [] → ∃ name ∈ listed, intent = some name) ∧
        ∀ name ∈ excluded, intent ≠ some name := by
  rcases ofLists_eq_ok_iff.mp read with ⟨rfl, rfl, rfl⟩ | ⟨lists, rfl, rfl⟩ | ⟨rfl, _, rfl⟩
  · simp [accepts]
  · rw [accepts_only_ofNames_iff]
    simp [lists]
  · rw [accepts_except_ofNames_iff]
    simp

end IntentFilter

/-! ## Types -/

namespace MappingKind

theorem ofName?_name (kind : MappingKind) : ofName? kind.name = some kind := by
  cases kind <;> rfl

theorem ofName?_eq_some_iff {name : String} {kind : MappingKind} :
    ofName? name = some kind ↔ kind.name = name := by
  constructor
  · intro found
    simpa using List.find?_some found
  · rintro rfl
    exact kind.ofName?_name

end MappingKind

namespace SlotMapping

/-! ## The rules of the format -/

/-- The strings of a list member, in order: a string stands for itself alone, and items
that are no strings are skipped. -/
inductive Lists : Option Json → List String → Prop where
  | alone (text : String) : Lists (some (.string text)) [text]
  | items (items : List Json) : Lists (some (.array items)) (items.filterMap Json.string?)

/-- A list member contains a string. -/
def Names (member : Option Json) (text : String) : Prop :=
  ∃ texts, Lists member texts ∧ text ∈ texts

/-- Intents are not both listed and excluded. -/
def Unambiguous (members : Entries Json) : Prop :=
  ¬((∃ name, Names (members.find? "intent") name) ∧
    ∃ name, Names (members.find? "not_intent") name)

/-- The members of an object make up a mapping of a type. -/
structure Fits (members : Entries Json) (kind : MappingKind) : Prop where
  /-- The type is named. -/
  typed : members.find? "type" = some (.string kind.name)
  /-- Intents are not both listed and excluded. -/
  unambiguous : Unambiguous members
  /-- An entity is named, if the value is that of an entity. -/
  named : kind = .entity → ∃ entity, members.find? "entity" = some (.string entity)

/-- A value fails a check after it has passed the earlier ones, and the error tells
which. -/
inductive Fails : Json → MappingError → Prop where
  | notAMapping {value : Json} (noObject : ∀ members, value ≠ .object members) :
      Fails value (.notAMapping value.compact)
  | missingType {members : Entries Json}
      (untyped : ∀ name, members.find? "type" ≠ some (.string name)) :
      Fails (.object members) .missingType
  | unsupportedType {members : Entries Json} {name : String}
      (typed : members.find? "type" = some (.string name))
      (unknown : ∀ kind : MappingKind, kind.name ≠ name) :
      Fails (.object members) (.unsupportedType name)
  | conflictingIntents {members : Entries Json} {kind : MappingKind}
      (typed : members.find? "type" = some (.string kind.name)) {listed excluded : List String}
      (lists : Lists (members.find? "intent") listed) (listsAny : listed ≠ [])
      (excludes : Lists (members.find? "not_intent") excluded) (excludesAny : excluded ≠ []) :
      Fails (.object members) (.conflictingIntents listed excluded)
  | missingField {members : Entries Json}
      (typed : members.find? "type" = some (.string "from_entity"))
      (unambiguous : Unambiguous members)
      (unnamed : ∀ entity, members.find? "entity" ≠ some (.string entity)) :
      Fails (.object members) (.missingField "from_entity" "entity")

/-- The lists of an object let an intent pass: it is listed, if any intent is, and it is
not excluded. -/
def Admits (members : Entries Json) (intent : Option String) : Prop :=
  ((∃ name, Names (members.find? "intent") name) →
      ∃ name, Names (members.find? "intent") name ∧ intent = some name) ∧
    ∀ name, Names (members.find? "not_intent") name → intent ≠ some name

/-! ## Reading -/

variable {member : Option Json} {members : Entries Json} {kind : MappingKind}

theorem stringList_of_lists {texts : List String} (lists : Lists member texts) :
    stringList member = texts := by
  cases lists <;> rfl

theorem lists_stringList (lists : stringList member ≠ []) :
    Lists member (stringList member) := by
  unfold stringList at lists ⊢
  split at lists
  · exact .alone _
  · exact .items _
  · exact absurd rfl lists

theorem names_iff {text : String} : Names member text ↔ text ∈ stringList member := by
  constructor
  · rintro ⟨texts, lists, listed⟩
    rwa [stringList_of_lists lists]
  · intro listed
    exact ⟨_, lists_stringList (List.ne_nil_of_mem listed), listed⟩

theorem exists_names_iff : (∃ text, Names member text) ↔ stringList member ≠ [] := by
  simp only [names_iff]
  constructor
  · rintro ⟨text, listed⟩
    exact List.ne_nil_of_mem listed
  · exact List.exists_mem_of_ne_nil _

theorem stringMember_eq_some_iff {name text : String} :
    stringMember members name = some text ↔ members.find? name = some (.string text) := by
  unfold stringMember
  cases members.find? name with
  | none => simp
  | some value => cases value <;> simp [Json.string?]

theorem stringMember_eq_none_iff {name : String} :
    stringMember members name = none ↔ ∀ text, members.find? name ≠ some (.string text) := by
  rw [Option.eq_none_iff_forall_ne_some]
  simp only [ne_eq, stringMember_eq_some_iff]

/-- An object of a known type is read in two parts. -/
theorem ofJson_of_typed (typed : members.find? "type" = some (.string kind.name)) :
    ofJson (.object members) = do
      let intents ← IntentFilter.ofLists (stringList (members.find? "intent"))
        (stringList (members.find? "not_intent"))
      let source ← readSource members kind
      return ⟨source, intents⟩ := by
  have name := stringMember_eq_some_iff.mpr typed
  simp only [ofJson, name, MappingKind.ofName?_name]

theorem Unambiguous.exists_intents (unambiguous : Unambiguous members) :
    ∃ intents, IntentFilter.ofLists (stringList (members.find? "intent"))
      (stringList (members.find? "not_intent")) = .ok intents := by
  rw [Unambiguous, exists_names_iff, exists_names_iff] at unambiguous
  cases listed : stringList (members.find? "intent") with
  | nil =>
      cases excluded : stringList (members.find? "not_intent") with
      | nil => exact ⟨_, rfl⟩
      | cons name rest => exact ⟨_, rfl⟩
  | cons name rest =>
      cases excluded : stringList (members.find? "not_intent") with
      | nil => exact ⟨_, rfl⟩
      | cons other others => simp [listed, excluded] at unambiguous

theorem Fits.exists_source (fits : Fits members kind) :
    ∃ source, readSource members kind = .ok source := by
  cases kind with
  | entity =>
      obtain ⟨entity, named⟩ := fits.named rfl
      have named := stringMember_eq_some_iff.mpr named
      simp only [readSource, named]
      exact ⟨_, rfl⟩
  | _ => exact ⟨_, rfl⟩

theorem Fits.exists_mapping (fits : Fits members kind) :
    ∃ mapping, ofJson (.object members) = .ok mapping := by
  obtain ⟨intents, filtered⟩ := fits.unambiguous.exists_intents
  obtain ⟨source, sourced⟩ := fits.exists_source
  rw [ofJson_of_typed fits.typed, filtered, sourced]
  exact ⟨_, rfl⟩

theorem kind_of_readSource {source : SlotSource} (read : readSource members kind = .ok source)
    (intents : IntentFilter) : (SlotMapping.mk source intents).kind = kind := by
  cases kind with
  | entity =>
      rw [readSource] at read
      split at read
      · cases read
        rfl
      · cases read
  | _ =>
      cases read
      rfl

theorem Fails.ofJson_eq {value : Json} {error : MappingError} (fails : Fails value error) :
    ofJson value = .error error := by
  cases fails with
  | notAMapping noObject =>
      cases value with
      | object members => exact absurd rfl (noObject members)
      | _ => rfl
  | missingType untyped =>
      have name := stringMember_eq_none_iff.mpr untyped
      simp only [ofJson, name]
  | @unsupportedType members name typed unknown =>
      have typed := stringMember_eq_some_iff.mpr typed
      have unknown : MappingKind.ofName? name = none := by
        rw [Option.eq_none_iff_forall_ne_some]
        intro kind known
        exact unknown kind (MappingKind.ofName?_eq_some_iff.mp known)
      simp only [ofJson, typed, unknown]
  | conflictingIntents typed lists listsAny excludes excludesAny =>
      rw [ofJson_of_typed typed, stringList_of_lists lists, stringList_of_lists excludes,
        IntentFilter.ofLists_of_both listsAny excludesAny]
      rfl
  | missingField typed unambiguous unnamed =>
      obtain ⟨intents, filtered⟩ := unambiguous.exists_intents
      have unnamed := stringMember_eq_none_iff.mpr unnamed
      rw [@ofJson_of_typed _ .entity typed, filtered]
      simp only [readSource, unnamed]
      rfl

/-- A value has the format of mappings or fails a check. -/
theorem fits_or_fails (value : Json) :
    (∃ (members : Entries Json) (kind : MappingKind), value = .object members ∧
      Fits members kind) ∨ ∃ error, Fails value error := by
  by_cases isObject : ∃ members : Entries Json, value = .object members
  · obtain ⟨members, rfl⟩ := isObject
    by_cases isTyped : ∃ name, members.find? "type" = some (.string name)
    · obtain ⟨name, typed⟩ := isTyped
      by_cases isKnown : ∃ kind : MappingKind, kind.name = name
      · obtain ⟨kind, rfl⟩ := isKnown
        by_cases unambiguous : Unambiguous members
        · by_cases named : kind = .entity → ∃ entity, members.find? "entity" = some (.string entity)
          · exact .inl ⟨members, kind, rfl, typed, unambiguous, named⟩
          · obtain ⟨rfl, unnamed⟩ := Classical.not_imp.mp named
            exact .inr ⟨_, .missingField typed unambiguous (not_exists.mp unnamed)⟩
        · obtain ⟨lists, excludes⟩ := not_not.mp unambiguous
          have lists := exists_names_iff.mp lists
          have excludes := exists_names_iff.mp excludes
          exact .inr ⟨_, .conflictingIntents typed (lists_stringList lists) lists
            (lists_stringList excludes) excludes⟩
      · exact .inr ⟨_, .unsupportedType typed (not_exists.mp isKnown)⟩
    · exact .inr ⟨_, .missingType (not_exists.mp isTyped)⟩
  · exact .inr ⟨_, .notAMapping (not_exists.mp isObject)⟩

theorem ofJson_eq_ok_iff {value : Json} {mapping : SlotMapping} :
    ofJson value = .ok mapping ↔
      ∃ members : Entries Json, value = .object members ∧ Fits members mapping.kind ∧
        IntentFilter.ofLists (stringList (members.find? "intent"))
          (stringList (members.find? "not_intent")) = .ok mapping.intents ∧
        readSource members mapping.kind = .ok mapping.source := by
  constructor
  · intro read
    rcases fits_or_fails value with ⟨members, kind, rfl, fits⟩ | ⟨error, fails⟩
    · obtain ⟨intents, filtered⟩ := fits.unambiguous.exists_intents
      obtain ⟨source, sourced⟩ := fits.exists_source
      have same := kind_of_readSource sourced intents
      rw [ofJson_of_typed fits.typed, filtered, sourced] at read
      obtain rfl : SlotMapping.mk source intents = mapping := Except.ok.inj read
      refine ⟨members, rfl, ?_⟩
      rw [same]
      exact ⟨fits, filtered, sourced⟩
    · rw [fails.ofJson_eq] at read
      cases read
  · rintro ⟨members, rfl, fits, filtered, sourced⟩
    rw [ofJson_of_typed fits.typed, filtered, sourced]
    rfl

theorem ofJson_eq_error_iff {value : Json} {error : MappingError} :
    ofJson value = .error error ↔ Fails value error := by
  constructor
  · intro failed
    rcases fits_or_fails value with ⟨members, kind, rfl, fits⟩ | ⟨other, fails⟩
    · obtain ⟨mapping, read⟩ := fits.exists_mapping
      rw [read] at failed
      cases failed
    · rw [fails.ofJson_eq] at failed
      cases failed
      exact fails
  · exact Fails.ofJson_eq

/-! ## Reading what was written -/

end SlotMapping

/-- The members of a source, with those that it does not have. -/
def SlotSource.fields : SlotSource → List (String × Option Json)
  | .entity name role group => [("entity", some (.string name)), ("role", role.map .string),
      ("group", group.map .string), ("value", none)]
  | .intent value => [("entity", none), ("role", none), ("group", none), ("value", some value)]
  | .triggerIntent value =>
      [("entity", none), ("role", none), ("group", none), ("value", some value)]
  | .text => [("entity", none), ("role", none), ("group", none), ("value", none)]

namespace SlotMapping

/-- The members of a mapping, with those that it does not have. -/
def fields (mapping : SlotMapping) : List (String × Option Json) :=
  ("type", some (.string mapping.kind.name)) :: mapping.intents.fields ++ mapping.source.fields

theorem toJson_shows (mapping : SlotMapping) :
    ∃ members : Entries Json, mapping.toJson = .object members ∧
      members.Shows mapping.fields := by
  have written : mapping.toJson = .object (Entries.ofList (Json.present mapping.fields)) := by
    obtain ⟨source, intents⟩ := mapping
    cases source with
    | entity entity role group => cases intents <;> cases role <;> cases group <;> rfl
    | _ => cases intents <;> rfl
  refine ⟨_, written, Entries.shows_ofList_present ?_⟩
  obtain ⟨source, intents⟩ := mapping
  cases source <;> cases intents <;> simp [fields, SlotSource.fields, IntentFilter.fields]

theorem stringList_ofStrings (texts : List String) :
    stringList (some (Json.ofStrings texts)) = texts := by
  simp [stringList, Json.ofStrings, Json.string?, List.filterMap_map, Function.comp_def]

section

variable {mapping : SlotMapping} {members : Entries Json} (shows : members.Shows mapping.fields)

include shows

/-- The lists of a written filter are read as that filter, or as none if they are empty. -/
theorem ofLists_of_shows :
    IntentFilter.ofLists (stringList (members.find? "intent"))
      (stringList (members.find? "not_intent")) = .ok mapping.intents.reread := by
  obtain ⟨source, intents⟩ := mapping
  cases intents with
  | any =>
      have lists : members.find? "intent" = none := shows "intent"
      have excludes : members.find? "not_intent" = none := shows "not_intent"
      rw [lists, excludes]
      rfl
  | only intents =>
      have lists : members.find? "intent" = some (Json.ofStrings intents.keys) := shows "intent"
      have excludes : members.find? "not_intent" = none := shows "not_intent"
      rw [lists, excludes, stringList_ofStrings, IntentFilter.ofLists_eq_ok_iff]
      by_cases unlisted : intents.keys = []
      · exact .inl ⟨unlisted, rfl, if_pos unlisted⟩
      · refine .inr (.inl ⟨unlisted, rfl, ?_⟩)
        rw [NameSet.ofNames_keys]
        exact if_neg unlisted
  | except intents =>
      have lists : members.find? "intent" = none := shows "intent"
      have excludes : members.find? "not_intent" = some (Json.ofStrings intents.keys) :=
        shows "not_intent"
      rw [lists, excludes, stringList_ofStrings, IntentFilter.ofLists_eq_ok_iff]
      by_cases unlisted : intents.keys = []
      · exact .inl ⟨rfl, unlisted, if_pos unlisted⟩
      · refine .inr (.inr ⟨rfl, unlisted, ?_⟩)
        rw [NameSet.ofNames_keys]
        exact if_neg unlisted

/-- The members of the source are found behind those of the type and the filter. -/
theorem find?_of_shows {name : String} (ofSource : name ∉ ["type", "intent", "not_intent"]) :
    members.find? name = (Entries.find? name mapping.source.fields).join := by
  have names : "type" ≠ name ∧ "intent" ≠ name ∧ "not_intent" ≠ name := by
    simpa [eq_comm] using ofSource
  rw [shows name]
  obtain ⟨source, intents⟩ := mapping
  cases intents <;> simp [fields, IntentFilter.fields, Entries.find?_cons, names]

theorem readSource_of_shows : readSource members mapping.kind = .ok mapping.source := by
  obtain ⟨source, intents⟩ := mapping
  cases source with
  | entity name role group =>
      have named : members.find? "entity" = some (.string name) :=
        find?_of_shows shows (by decide)
      have inRole : members.find? "role" = role.map .string :=
        find?_of_shows shows (by decide)
      have inGroup : members.find? "group" = group.map .string :=
        find?_of_shows shows (by decide)
      simp only [kind, readSource, stringMember, named, inRole, inGroup]
      cases role <;> cases group <;> rfl
  | intent value =>
      have held : members.find? "value" = some value :=
        find?_of_shows shows (by decide)
      simp only [kind, readSource, held]
      rfl
  | triggerIntent value =>
      have held : members.find? "value" = some value :=
        find?_of_shows shows (by decide)
      simp only [kind, readSource, held]
      rfl
  | text => rfl

end

/-- Every mapping comes back with its source, and with its filter as it is read. -/
theorem ofJson_toJson (mapping : SlotMapping) :
    ofJson mapping.toJson = .ok (mapping.withIntents mapping.intents.reread) := by
  obtain ⟨members, written, shows⟩ := mapping.toJson_shows
  rw [written, ofJson_of_typed (shows "type"), ofLists_of_shows shows, readSource_of_shows shows]
  rfl

/-- Every mapping is read from its written form, of the same type, with the same entity,
role, group and value, and with a filter for the same messages.  Only a filter that lists
no intent at all, and so accepts nothing, is read as one that accepts everything. -/
theorem toJson_comes_back (mapping : SlotMapping) :
    ∃ read, ofJson mapping.toJson = .ok read ∧ read.kind = mapping.kind ∧
      read.source = mapping.source ∧
      ∀ intent, read.intents.accepts intent = true ↔
        mapping.intents.accepts intent = true ∨ mapping.intents = .only Table.empty :=
  ⟨_, mapping.ofJson_toJson, rfl, rfl, mapping.intents.accepts_reread_iff⟩

/-- A rule for messages with none of the intents that there are is written with an empty
list, and comes back as a rule for all messages. -/
theorem not_toJson_comes_back_of_nothing_listed :
    let mapping := fromText.withIntents (.only (NameSet.ofNames []))
    mapping.toJson = Json.ofMembers [("type", .string "from_text"), ("intent", .array [])] ∧
      ofJson mapping.toJson = .ok fromText ∧
      ∀ intent, mapping.intents.accepts intent = false ∧ fromText.intents.accepts intent = true := by
  intro mapping
  refine ⟨rfl, mapping.ofJson_toJson, ?_⟩
  intro intent
  cases intent with
  | none => exact ⟨rfl, rfl⟩
  | some name => exact ⟨rfl, rfl⟩

/-- A value is read exactly if it has the format of mappings, and every other value fails
with the error of the first check that it does not pass.  A mapping that was read accepts
what the lists admit, and comes back from its written form as it is. -/
theorem ofJson_exact (value : Json) :
    ((∃ mapping, ofJson value = .ok mapping) ↔
      ∃ members kind, value = .object members ∧ Fits members kind) ∧
    (∀ error, ofJson value = .error error ↔ Fails value error) ∧
    (∀ mapping, ofJson value = .ok mapping →
      ofJson mapping.toJson = .ok mapping ∧
      ∃ members, value = .object members ∧ Fits members mapping.kind ∧
        ∀ intent, mapping.intents.accepts intent = true ↔ Admits members intent) := by
  refine ⟨?_, fun error => ofJson_eq_error_iff, ?_⟩
  · constructor
    · rintro ⟨mapping, read⟩
      obtain ⟨members, isObject, fits, _⟩ := ofJson_eq_ok_iff.mp read
      exact ⟨members, mapping.kind, isObject, fits⟩
    · rintro ⟨members, kind, rfl, fits⟩
      obtain ⟨mapping, read⟩ := fits.exists_mapping
      exact ⟨mapping, read⟩
  · intro mapping read
    obtain ⟨members, isObject, fits, filtered, _⟩ := ofJson_eq_ok_iff.mp read
    constructor
    · rw [mapping.ofJson_toJson, IntentFilter.reread_of_ofLists filtered]
      rfl
    · refine ⟨members, isObject, fits, ?_⟩
      intro intent
      rw [IntentFilter.accepts_of_ofLists filtered, Admits, exists_names_iff]
      simp only [names_iff]

/-- A list with an item that is no string is read for its strings. -/
theorem ofJson_exact_for_mixed_list :
    let members : Entries Json := [
      ("intent", .array [.string "inform", .number (.int 3), .string "deny"]),
      ("type", .string "from_text")]
    ∃ mapping, ofJson (.object members) = .ok mapping ∧
      ofJson mapping.toJson = .ok mapping ∧ Fits members .text ∧
      ∀ intent, mapping.intents.accepts intent = true ↔ Admits members intent := by
  intro members
  have read : ofJson (.object members) =
      .ok (fromText.withIntents (.only (NameSet.ofNames ["inform", "deny"]))) := rfl
  obtain ⟨again, found, isObject, fits, admits⟩ := (ofJson_exact (.object members)).2.2 _ read
  obtain rfl := Json.object.inj isObject
  exact ⟨_, read, again, fits, admits⟩

end SlotMapping

end Dialogue
