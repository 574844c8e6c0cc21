import Dialogue.Table
import Mathlib.Data.List.Sort

/-!
# Tables are determined by their look-ups

In a list whose names strictly increase, a pair is found under its name exactly when
it is listed.  Two such lists with the same look-ups are therefore the same list, and
every operation on tables is known by what can be looked up after it.
-/

namespace Dialogue

universe u v

/-- Two lists in the strict order of a name are equal if they have the same items. -/
theorem eq_of_mem_iff_of_pairwise_lt {α : Type u} (name : α → String) {left right : List α}
    (leftOrder : left.Pairwise fun first second => name first < name second)
    (rightOrder : right.Pairwise fun first second => name first < name second)
    (same : ∀ item, item ∈ left ↔ item ∈ right) : left = right := by
  have : Std.Antisymm fun first second : α => name first < name second :=
    ⟨fun _ _ forward backward => absurd backward (String.lt_asymm forward)⟩
  have : Std.Irrefl fun first second : α => name first < name second :=
    ⟨fun item => String.lt_irrefl (name item)⟩
  exact leftOrder.eq_of_mem_iff rightOrder same

namespace Entries

variable {α : Type u} {β : Type v}

theorem find?_cons (name key : String) (value : α) (rest : Entries α) :
    find? name ((key, value) :: rest) = if key = name then some value else find? name rest :=
  rfl

theorem find?_insert (name other : String) (value : α) (entries : Entries α) :
    find? other (insert name value entries) =
      if other = name then some value else find? other entries := by
  by_cases same : other = name
  · rw [if_pos same, same, find?_insert_self]
  · rw [if_neg same, find?_insert_of_ne same]

theorem mem_of_find?_eq_some {name : String} {value : α} {entries : Entries α}
    (found : find? name entries = some value) : (name, value) ∈ entries := by
  induction entries with
  | nil => simp at found
  | cons head rest ih =>
      obtain ⟨key, held⟩ := head
      rw [find?_cons] at found
      by_cases same : key = name
      · rw [if_pos same] at found
        simp_all
      · rw [if_neg same] at found
        exact List.mem_cons_of_mem _ (ih found)

theorem find?_eq_none_iff {name : String} {entries : Entries α} :
    find? name entries = none ↔ name ∉ entries.map Prod.fst := by
  induction entries with
  | nil => simp
  | cons head rest ih =>
      obtain ⟨key, held⟩ := head
      rw [find?_cons, List.map_cons, List.mem_cons, not_or, ← ih]
      by_cases same : key = name
      · simp [same]
      · simp [same, Ne.symm same]

theorem find?_append (name : String) (first second : Entries α) :
    find? name (first ++ second) = (find? name first).or (find? name second) := by
  induction first with
  | nil => rfl
  | cons head rest ih =>
      obtain ⟨key, held⟩ := head
      rw [List.cons_append, find?_cons, find?_cons, ih]
      split <;> rfl

/-- A pair of a list without repeated names is found under its name. -/
theorem find?_eq_some_of_mem {name : String} {value : α} {entries : Entries α}
    (nodup : (entries.map Prod.fst).Nodup) (member : (name, value) ∈ entries) :
    find? name entries = some value := by
  induction entries with
  | nil => simp at member
  | cons head rest ih =>
      obtain ⟨key, held⟩ := head
      obtain ⟨fresh, restNodup⟩ := List.nodup_cons.mp nodup
      rw [find?_cons]
      rcases List.mem_cons.mp member with first | later
      · obtain ⟨rfl, rfl⟩ := Prod.mk.inj first
        rw [if_pos rfl]
      · have differ : key ≠ name := by
          rintro rfl
          exact fresh (List.mem_map.mpr ⟨_, later, rfl⟩)
        rw [if_neg differ]
        exact ih restNodup later

theorem Sorted.nodup {entries : Entries α} (sorted : entries.Sorted) :
    (entries.map Prod.fst).Nodup :=
  List.pairwise_map.mpr (sorted.imp fun less => String.ne_of_lt less)

theorem Sorted.find?_eq_some_iff {entries : Entries α} (sorted : entries.Sorted)
    {name : String} {value : α} :
    find? name entries = some value ↔ (name, value) ∈ entries :=
  ⟨mem_of_find?_eq_some, find?_eq_some_of_mem sorted.nodup⟩

/-- Sorted lists with the same look-ups are equal. -/
theorem Sorted.ext {left right : Entries α} (leftSorted : left.Sorted)
    (rightSorted : right.Sorted) (same : ∀ name, find? name left = find? name right) :
    left = right := by
  apply eq_of_mem_iff_of_pairwise_lt Prod.fst leftSorted rightSorted
  rintro ⟨name, value⟩
  rw [← leftSorted.find?_eq_some_iff, ← rightSorted.find?_eq_some_iff, same name]

theorem find?_foldl_insert {pairs : List (String × α)}
    (nodup : (pairs.map Prod.fst).Nodup) (name : String) (entries : Entries α) :
    find? name (pairs.foldl (fun entries pair => insert pair.1 pair.2 entries) entries) =
      (find? name pairs).or (find? name entries) := by
  induction pairs generalizing entries with
  | nil => rfl
  | cons pair rest ih =>
      obtain ⟨key, value⟩ := pair
      obtain ⟨fresh, restNodup⟩ := List.nodup_cons.mp nodup
      rw [List.foldl_cons, ih restNodup, find?_cons, find?_insert]
      by_cases same : key = name
      · subst same
        rw [find?_eq_none_iff.mpr fresh]
        simp
      · rw [if_neg same, if_neg (Ne.symm same)]

/-- Insertions add exactly the inserted names. -/
theorem isSome_find?_foldl_insert {pairs : List (String × α)} {name : String}
    {entries : Entries α} :
    (find? name (pairs.foldl (fun entries pair => insert pair.1 pair.2 entries) entries)).isSome =
      true ↔ name ∈ pairs.map Prod.fst ∨ (find? name entries).isSome = true := by
  induction pairs generalizing entries with
  | nil => simp
  | cons pair rest ih =>
      obtain ⟨key, value⟩ := pair
      rw [List.foldl_cons, ih, find?_insert, List.map_cons, List.mem_cons]
      by_cases same : name = key
      · simp [same]
      · simp [same]

theorem mem_of_mem_foldl_insert {pair : String × α} {pairs : List (String × α)}
    {entries : Entries α}
    (member : pair ∈ pairs.foldl (fun entries pair => insert pair.1 pair.2 entries) entries) :
    pair ∈ pairs ∨ pair ∈ entries := by
  induction pairs generalizing entries with
  | nil => exact .inr member
  | cons first pairs ih =>
      rcases ih member with later | held
      · exact .inl (List.mem_cons_of_mem _ later)
      · rcases mem_insert held with rfl | earlier
        · exact .inl List.mem_cons_self
        · exact .inr earlier

/-- Putting pairs in order adds none. -/
theorem mem_of_mem_ofList {pair : String × α} {pairs : List (String × α)}
    (member : pair ∈ ofList pairs) : pair ∈ pairs := by
  rcases mem_of_mem_foldl_insert member with listed | ⟨⟨⟩⟩
  exact listed

/-- A list without repeated names keeps its look-ups when it is put in order. -/
theorem find?_ofList {pairs : List (String × α)} (nodup : (pairs.map Prod.fst).Nodup)
    (name : String) : find? name (ofList pairs) = find? name pairs := by
  unfold ofList
  rw [find?_foldl_insert nodup]
  simp

theorem find?_map (change : String → α → β) (name : String) (entries : Entries α) :
    find? name (entries.map fun pair => (pair.1, change pair.1 pair.2)) =
      (find? name entries).map (change name) := by
  induction entries with
  | nil => rfl
  | cons head rest ih =>
      obtain ⟨key, value⟩ := head
      rw [List.map_cons, find?_cons, find?_cons, ih]
      by_cases same : key = name
      · rw [if_pos same, if_pos same, same]
        rfl
      · rw [if_neg same, if_neg same]

/-- In a list without repeated names, a pair is kept or dropped under its own name. -/
theorem find?_filter (keep : String → α → Bool) {entries : Entries α}
    (nodup : (entries.map Prod.fst).Nodup) (name : String) :
    find? name (entries.filter fun pair => keep pair.1 pair.2) =
      (find? name entries).filter (keep name) := by
  induction entries with
  | nil => rfl
  | cons head rest ih =>
      obtain ⟨key, value⟩ := head
      obtain ⟨fresh, restNodup⟩ := List.nodup_cons.mp nodup
      rw [List.filter_cons, find?_cons]
      by_cases same : key = name
      · subst same
        have missing : find? key rest = none := find?_eq_none_iff.mpr fresh
        cases kept : keep key value with
        | true => simp [find?_cons, Option.filter_some, kept]
        | false => simp [ih restNodup, missing, Option.filter_some, kept]
      · cases kept : keep key value with
        | true => simp [find?_cons, same, ih restNodup]
        | false => simp [same, ih restNodup]

end Entries

namespace Table

variable {α : Type u} {β : Type v}

/-- Tables with the same look-ups are equal. -/
theorem ext_find? {left right : Table α} (same : ∀ name, left.find? name = right.find? name) :
    left = right := by
  have entries : left.entries = right.entries :=
    Entries.Sorted.ext left.sorted right.sorted same
  cases left
  cases right
  simpa using entries

@[simp]
theorem find?_empty (name : String) : (empty : Table α).find? name = none :=
  rfl

theorem find?_insert (table : Table α) (name other : String) (value : α) :
    (table.insert name value).find? other =
      if other = name then some value else table.find? other :=
  Entries.find?_insert name other value table.entries

/-- Inserting the value that a name has changes nothing. -/
theorem insert_eq_self {table : Table α} {name : String} {value : α}
    (found : table.find? name = some value) : table.insert name value = table := by
  apply ext_find?
  intro other
  rw [find?_insert]
  by_cases same : other = name
  · rw [if_pos same, same, found]
  · rw [if_neg same]

theorem find?_ofList {pairs : List (String × α)} (nodup : (pairs.map Prod.fst).Nodup)
    (name : String) : (ofList pairs).find? name = Entries.find? name pairs :=
  Entries.find?_ofList nodup name

/-- Putting the pairs of a table in order gives the table back. -/
theorem ofList_entries (table : Table α) : ofList table.entries = table :=
  ext_find? fun name => find?_ofList table.sorted.nodup name

/-- Pairs that carry the names of a table in order are left in place by putting them in
order. -/
theorem entries_ofList_of_names {table : Table α} {pairs : Entries β}
    (names : pairs.map Prod.fst = table.entries.map Prod.fst) :
    (ofList pairs).entries = pairs := by
  have sorted : pairs.Sorted := by
    apply List.pairwise_map.mp
    rw [names]
    exact List.pairwise_map.mpr table.sorted
  exact congrArg entries (ofList_entries ⟨pairs, sorted⟩)

/-- Inserting pair after pair into the empty table puts them in order. -/
theorem foldl_insert_empty (pairs : List (String × α)) :
    pairs.foldl (fun table pair => table.insert pair.1 pair.2) empty = ofList pairs := by
  have entries : (pairs.foldl (fun table pair => table.insert pair.1 pair.2) empty).entries =
      (ofList pairs).entries :=
    (List.foldl_hom Table.entries fun _ _ => rfl).symm
  exact ext_find? fun name => congrArg (Entries.find? name) entries

theorem find?_eq_some_iff {table : Table α} {name : String} {value : α} :
    table.find? name = some value ↔ (name, value) ∈ table.entries :=
  table.sorted.find?_eq_some_iff

theorem mem_keys_iff {table : Table α} {name : String} :
    name ∈ table.keys ↔ (table.find? name).isSome = true := by
  rw [← not_iff_not, Bool.not_eq_true, Option.isSome_eq_false_iff, Option.isNone_iff_eq_none]
  exact Entries.find?_eq_none_iff.symm

theorem mem_keys_insert_iff {table : Table α} {name other : String} {value : α} :
    other ∈ (table.insert name value).keys ↔ other = name ∨ other ∈ table.keys := by
  rw [mem_keys_iff, mem_keys_iff, find?_insert]
  by_cases same : other = name
  · simp [same]
  · simp [same]

/-- The names of a table made of pairs are those of the pairs. -/
theorem mem_keys_ofList {pairs : List (String × α)} {name : String} :
    name ∈ (ofList pairs).keys ↔ name ∈ pairs.map Prod.fst := by
  rw [mem_keys_iff]
  exact Entries.isSome_find?_foldl_insert.trans (by simp)

theorem pairwise_keys (table : Table α) : table.keys.Pairwise (· < ·) :=
  List.pairwise_map.mpr table.sorted

theorem nodup_keys (table : Table α) : table.keys.Nodup :=
  table.sorted.nodup

theorem contains_eq_true_iff {table : Table α} {name : String} :
    table.contains name = true ↔ name ∈ table.keys :=
  mem_keys_iff.symm

theorem find?_map (change : String → α → β) (table : Table α) (name : String) :
    (table.map change).find? name = (table.find? name).map (change name) :=
  Entries.find?_map change name table.entries

theorem find?_filter (keep : String → α → Bool) (table : Table α) (name : String) :
    (table.filter keep).find? name = (table.find? name).filter (keep name) :=
  Entries.find?_filter keep table.sorted.nodup name

end Table

/-- Adding a name adds that name alone. -/
theorem NameSet.contains_add_iff {names : NameSet} {name other : String} :
    (names.add name).contains other = true ↔ other = name ∨ names.contains other = true := by
  unfold NameSet.add Table.contains
  rw [Table.find?_insert]
  by_cases same : other = name
  · simp [same]
  · simp [same]

/-- Adding the names of a list adds those alone. -/
theorem NameSet.contains_addAll_iff {names : NameSet} {list : List String} {other : String} :
    (names.addAll list).contains other = true ↔ other ∈ list ∨ names.contains other = true := by
  induction list generalizing names with
  | nil => simp [NameSet.addAll]
  | cons name rest ih =>
      have split : names.addAll (name :: rest) = (names.add name).addAll rest := rfl
      rw [split, ih, NameSet.contains_add_iff, List.mem_cons, or_assoc, or_left_comm]

theorem NameSet.contains_ofNames_iff {list : List String} {other : String} :
    (NameSet.ofNames list).contains other = true ↔ other ∈ list := by
  unfold NameSet.ofNames
  rw [NameSet.contains_addAll_iff]
  simp [Table.contains]

theorem NameSet.mem_keys_ofNames_iff {list : List String} {other : String} :
    other ∈ (NameSet.ofNames list).keys ↔ other ∈ list := by
  rw [← Table.contains_eq_true_iff, NameSet.contains_ofNames_iff]

/-- Sets with the same names are equal. -/
theorem NameSet.ext_contains {left right : NameSet}
    (same : ∀ name, left.contains name = true ↔ right.contains name = true) : left = right := by
  apply Table.ext_find?
  intro name
  have same := same name
  unfold Table.contains at same
  cases first : left.find? name <;> cases second : right.find? name <;>
    simp [first, second] at same ⊢

theorem NameSet.eq_empty_of_keys_eq_nil {names : NameSet} (unlisted : names.keys = []) :
    names = Table.empty := by
  apply NameSet.ext_contains
  intro name
  rw [Table.contains_eq_true_iff, unlisted]
  simp [Table.contains]

theorem NameSet.keys_ofNames_ne_nil {list : List String} (listed : list ≠ []) :
    (NameSet.ofNames list).keys ≠ [] := by
  obtain ⟨name, member⟩ := List.exists_mem_of_ne_nil list listed
  exact List.ne_nil_of_mem (NameSet.mem_keys_ofNames_iff.mpr member)

/-- A set is the set of its names. -/
theorem NameSet.ofNames_keys (names : NameSet) : NameSet.ofNames names.keys = names := by
  apply NameSet.ext_contains
  intro name
  rw [NameSet.contains_ofNames_iff, Table.contains_eq_true_iff]

end Dialogue
