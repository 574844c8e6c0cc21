import Dialogue.Json.Record
import Dialogue.Proofs.Table.Lookup
import Mathlib.Algebra.Group.Int.Defs
import Mathlib.Algebra.Group.Nat.Defs

/-!
# Reading records that were written

A record is written as its listed members that are there, and the readers of members
see nothing but the look-ups.  So a member comes back as soon as its reader undoes its
writer, and the order in which a record lists its members plays no part.
-/

namespace Dialogue

namespace Entries

variable {α : Type} {members : Entries Json} {name : String}

/-- What stands under a name among the members that are there. -/
theorem find?_present {members : List (String × Option Json)}
    (nodup : (members.map Prod.fst).Nodup) (name : String) :
    find? name (Json.present members) = (find? name members).join := by
  induction members generalizing name with
  | nil => rfl
  | cons member rest ih =>
      obtain ⟨key, value⟩ := member
      rw [List.map_cons, List.nodup_cons] at nodup
      obtain ⟨fresh, nodup⟩ := nodup
      cases value with
      | none =>
          show find? name (Json.present rest) = _
          rw [find?_cons, ih nodup]
          by_cases same : key = name
          · rw [if_pos same, ← same, find?_eq_none_iff.mpr fresh]
            rfl
          · rw [if_neg same]
      | some value =>
          show find? name ((key, value) :: Json.present rest) = _
          rw [find?_cons, find?_cons, ih nodup]
          by_cases same : key = name
          · rw [if_pos same, if_pos same]
            rfl
          · rw [if_neg same, if_neg same]

/-- The names of the members that are there are among those that are listed. -/
theorem present_sublist (members : List (String × Option Json)) :
    ((Json.present members).map Prod.fst).Sublist (members.map Prod.fst) := by
  induction members with
  | nil => exact List.Sublist.slnil
  | cons member rest ih =>
      obtain ⟨key, value⟩ := member
      cases value with
      | none => exact ih.cons key
      | some value => exact ih.cons_cons key

/-- What stands under a name of a record that was put in order. -/
theorem find?_ofList_present {members : List (String × Option Json)}
    (nodup : (members.map Prod.fst).Nodup) (name : String) :
    find? name (ofList (Json.present members)) = (find? name members).join := by
  rw [find?_ofList (nodup.sublist (present_sublist members)), find?_present nodup]

/-- The members of an object are the listed ones that are there. -/
def Shows (members : Entries Json) (fields : List (String × Option Json)) : Prop :=
  ∀ name, members.find? name = (find? name fields).join

theorem shows_ofList_present {fields : List (String × Option Json)}
    (nodup : (fields.map Prod.fst).Nodup) : Shows (ofList (Json.present fields)) fields :=
  find?_ofList_present nodup

theorem required_of_find? {value : Json} {read : Json → Option α}
    (found : members.find? name = some value) : members.required name read = read value := by
  unfold required
  rw [found]
  rfl

theorem defaulted_of_find? {value : Json} {standard : α} {read : Json → Option α}
    (found : members.find? name = some value) :
    members.defaulted name standard read = read value := by
  unfold defaulted
  rw [found]

/-- An optional member comes back if its reader undoes its writer and no value is
written as null. -/
theorem optional_of_find? {field : Option α} {write : α → Json} {read : Json → Option α}
    (found : members.find? name = field.map write)
    (reads : ∀ item, field = some item → read (write item) = some item)
    (notNull : ∀ item, (write item).isNull = false) :
    members.optional name read = some field := by
  unfold optional
  rw [found]
  cases field with
  | none => rfl
  | some item =>
      have value := reads item rfl
      have notNull := notNull item
      rw [Option.map_some]
      cases written : write item with
      | null => simp [written, Json.isNull] at notNull
      | _ =>
          rw [written] at value
          simp [value]

/-- An optional text that is written as null where it is missing. -/
theorem optional_of_find?_ofString? {text : Option String}
    (found : members.find? name = some (Json.ofString? text)) :
    members.optional name Json.string? = some text := by
  unfold optional
  rw [found]
  cases text with
  | none => rfl
  | some text => rfl

/-- What an optional member was read from. -/
theorem exists_of_optional_eq_some {read : Json → Option α} {item : α}
    (isSome : members.optional name read = some (some item)) :
    ∃ value, members.find? name = some value ∧ read value = some item := by
  unfold optional at isSome
  split at isSome
  · cases isSome
  · cases isSome
  · rename_i value _ found
    refine ⟨value, found, ?_⟩
    cases result : read value with
    | none => simp [result] at isSome
    | some other => simpa [result] using isSome

/-! ## Members under other names -/

theorem find?_foldl_insert_without {names : List String} (other : name ∉ names)
    {left right : Entries Json} (same : find? name left = find? name right) :
    find? name
        ((members.without names).foldl (fun entries pair => insert pair.1 pair.2 entries) left) =
      find? name (members.foldl (fun entries pair => insert pair.1 pair.2 entries) right) := by
  induction members generalizing left right with
  | nil => exact same
  | cons member rest ih =>
      obtain ⟨key, value⟩ := member
      by_cases listed : key ∈ names
      · have skip : without ((key, value) :: rest) names = without rest names := by
          simp [without, listed]
        have differ : name ≠ key := fun equal => other (equal ▸ listed)
        rw [skip, List.foldl_cons]
        apply ih
        rw [find?_insert, if_neg differ]
        exact same
      · have keep : without ((key, value) :: rest) names = (key, value) :: without rest names := by
          simp [without, listed]
        rw [keep, List.foldl_cons, List.foldl_cons]
        apply ih
        rw [find?_insert, find?_insert, same]

end Entries

namespace Table

/-- The table of the other members of an object holds what the whole table holds. -/
theorem find?_ofList_without (members : Entries Json) (names : List String) (name : String) :
    (ofList (members.without names)).find? name =
      if name ∈ names then none else (ofList members).find? name := by
  by_cases listed : name ∈ names
  · rw [if_pos listed]
    have missing : name ∉ (ofList (members.without names)).keys := by
      rw [mem_keys_ofList, List.mem_map]
      rintro ⟨member, kept, rfl⟩
      have := (List.mem_filter.mp kept).2
      simp [listed] at this
    rw [mem_keys_iff, Bool.not_eq_true, Option.isSome_eq_false_iff,
      Option.isNone_iff_eq_none] at missing
    exact missing
  · rw [if_neg listed]
    exact Entries.find?_foldl_insert_without listed rfl

end Table

namespace Json

/-- A list comes back if each of its items does. -/
theorem mapM_map_eq_some {α β : Type} {read : β → Option α} {write : α → β} {items : List α}
    (reads : ∀ item ∈ items, read (write item) = some item) :
    (items.map write).mapM read = some items := by
  induction items with
  | nil => rfl
  | cons item rest ih =>
      have first := reads item List.mem_cons_self
      have later := ih fun other member => reads other (List.mem_cons_of_mem item member)
      rw [List.map_cons, List.mapM_cons, first, later]
      rfl

theorem list?_array_map {α : Type} {read : Json → Option α} {write : α → Json} {items : List α}
    (reads : ∀ item ∈ items, read (write item) = some item) :
    list? read (.array (items.map write)) = some items :=
  mapM_map_eq_some reads

/-- A list is read item by item. -/
theorem mapM_eq_some_iff {α β : Type} {read : β → Option α} {values : List β} {items : List α} :
    values.mapM read = some items ↔
      List.Forall₂ (fun value item => read value = some item) values items := by
  induction values generalizing items with
  | nil => cases items <;> simp
  | cons value rest ih =>
      rw [List.mapM_cons, List.forall₂_cons_left_iff]
      simp only [bind, Option.bind_eq_some_iff, pure, Option.some.injEq, ih]
      constructor
      · rintro ⟨item, first, others, later, rfl⟩
        exact ⟨item, others, first, later, rfl⟩
      · rintro ⟨item, others, first, later, rfl⟩
        exact ⟨item, first, others, later, rfl⟩

/-- What a list was read from, item by item. -/
theorem forall₂_of_list?_eq_some {α : Type} {read : Json → Option α} {value : Json}
    {items : List α} (isSome : list? read value = some items) :
    ∃ values, value = .array values ∧
      List.Forall₂ (fun value item => read value = some item) values items := by
  cases value with
  | array values =>
      have read : values.mapM read = some items := isSome
      exact ⟨values, rfl, mapM_eq_some_iff.mp read⟩
  | _ => cases isSome

/-- Every item of a list that was read was read from some value. -/
theorem exists_of_mem_list? {α : Type} {read : Json → Option α} {value : Json}
    {items : List α} (isSome : list? read value = some items) {item : α} (member : item ∈ items) :
    ∃ value, read value = some item := by
  obtain ⟨values, -, pairs⟩ := forall₂_of_list?_eq_some isSome
  clear isSome
  induction pairs with
  | nil => cases member
  | cons first _ ih =>
      rcases List.mem_cons.mp member with rfl | later
      · exact ⟨_, first⟩
      · exact ih later

/-- A table of values comes back. -/
theorem table?_ofTable (table : Table Json) : table? some (ofTable table) = some table := by
  have members : (table.entries.mapM fun member =>
      (some member.2).map (Prod.mk member.1)) = some table.entries :=
    (congrArg _ (List.map_id table.entries).symm).trans
      (mapM_map_eq_some fun _ _ => rfl)
  show ((table.entries.mapM fun member =>
      (some member.2).map (Prod.mk member.1)).map Table.ofList) = some table
  rw [members, Option.map_some, Table.ofList_entries]

theorem word_bound : Int.pow 2 64 = 2 ^ 64 :=
  rfl

theorem word?_ofNat {value : Nat} (fits : value < 2 ^ 64) : (ofNat value).word? = some value := by
  have small : 0 ≤ (value : Int) ∧ (value : Int) < 2 ^ 64 := by omega
  simp only [ofNat, word?, word_bound]
  rw [if_pos small, Int.toNat_natCast]

/-- A word that was read fits into 64 bits. -/
theorem lt_of_word?_eq_some {value : Json} {word : Nat} (isSome : value.word? = some word) :
    word < 2 ^ 64 := by
  unfold word? at isSome
  split at isSome
  · split at isSome
    · rename_i fits
      obtain rfl := Option.some.inj isSome
      rw [word_bound] at fits
      omega
    · cases isSome
  · cases isSome

end Json

end Dialogue
