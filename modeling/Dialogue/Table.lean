/-!
# Tables keyed by names

Slots, forms, responses and JSON members are all kept under a name, in the order
of the names.  `Entries` is the bare list of pairs with its search and its
ordered insertion; `Table` adds the invariant that the names strictly increase,
so that two tables with the same look-ups are the same table.
-/

namespace Dialogue

universe u v

/-- Named values in list order. -/
abbrev Entries (α : Type u) := List (String × α)

namespace Entries

variable {α : Type u} {β : Type v}

/-- The first value under a name. -/
def find? (name : String) : Entries α → Option α
  | [] => none
  | (key, value) :: rest => if key = name then some value else find? name rest

/-- Places a value before the first greater name, or over an equal one. -/
def insert (name : String) (value : α) : Entries α → Entries α
  | [] => [(name, value)]
  | (key, old) :: rest =>
      if name = key then (key, value) :: rest
      else if name < key then (name, value) :: (key, old) :: rest
      else (key, old) :: insert name value rest

/-- Inserts one pair after the other; a later value replaces an earlier one. -/
def ofList (pairs : List (String × α)) : Entries α :=
  pairs.foldl (fun entries pair => insert pair.1 pair.2 entries) []

/-- The names strictly increase. -/
def Sorted (entries : Entries α) : Prop :=
  entries.Pairwise fun left right => left.1 < right.1

instance (entries : Entries α) : Decidable entries.Sorted :=
  inferInstanceAs (Decidable (entries.Pairwise fun left right => left.1 < right.1))

@[simp]
theorem find?_nil (name : String) : find? name ([] : Entries α) = none :=
  rfl

theorem mem_insert {name : String} {value : α} {entries : Entries α}
    {pair : String × α} (hmem : pair ∈ insert name value entries) :
    pair = (name, value) ∨ pair ∈ entries := by
  induction entries with
  | nil => simpa [insert] using hmem
  | cons head rest ih =>
      obtain ⟨key, old⟩ := head
      by_cases heq : name = key
      · subst heq
        rcases List.mem_cons.mp (by simpa [insert] using hmem) with rfl | hrest
        · exact .inl rfl
        · exact .inr (List.mem_cons_of_mem _ hrest)
      · by_cases hlt : name < key
        · simpa [insert, heq, hlt] using hmem
        · have hcons : pair ∈ (key, old) :: insert name value rest := by
            simpa [insert, heq, hlt] using hmem
          rcases List.mem_cons.mp hcons with rfl | hrest
          · simp
          · rcases ih hrest with hpair | hpair
            · exact .inl hpair
            · exact .inr (List.mem_cons_of_mem _ hpair)

theorem sorted_insert {entries : Entries α} (name : String) (value : α)
    (hsorted : Sorted entries) : Sorted (insert name value entries) := by
  induction entries with
  | nil => simp [insert, Sorted]
  | cons head rest ih =>
      obtain ⟨key, old⟩ := head
      obtain ⟨hhead, htail⟩ := List.pairwise_cons.mp hsorted
      by_cases heq : name = key
      · simp only [insert, if_pos heq]
        exact List.pairwise_cons.mpr ⟨hhead, htail⟩
      · by_cases hlt : name < key
        · simp only [insert, if_neg heq, if_pos hlt]
          refine List.pairwise_cons.mpr ⟨?_, hsorted⟩
          intro pair hpair
          rcases List.mem_cons.mp hpair with rfl | hrest
          · exact hlt
          · exact String.lt_trans hlt (hhead pair hrest)
        · simp only [insert, if_neg heq, if_neg hlt]
          refine List.pairwise_cons.mpr ⟨?_, ih htail⟩
          intro pair hpair
          have hkey : key < name := by
            apply Decidable.byContradiction
            intro hnot
            exact heq (String.le_antisymm (String.not_lt.mp hnot) (String.not_lt.mp hlt))
          rcases mem_insert hpair with rfl | hrest
          · exact hkey
          · exact hhead pair hrest

@[simp]
theorem find?_insert_self (name : String) (value : α) (entries : Entries α) :
    find? name (insert name value entries) = some value := by
  induction entries with
  | nil => simp [insert, find?]
  | cons head rest ih =>
      obtain ⟨key, old⟩ := head
      by_cases heq : name = key
      · simp [insert, find?, heq]
      · have hne : ¬key = name := fun h => heq h.symm
        by_cases hlt : name < key
        · simp [insert, find?, heq, hlt]
        · simp [insert, find?, heq, hlt, hne, ih]

theorem find?_insert_of_ne {name other : String} (hne : other ≠ name) (value : α)
    (entries : Entries α) :
    find? other (insert name value entries) = find? other entries := by
  have hne' : ¬name = other := fun h => hne h.symm
  induction entries with
  | nil => simp [insert, find?, hne']
  | cons head rest ih =>
      obtain ⟨key, old⟩ := head
      by_cases heq : name = key
      · subst heq
        simp [insert, find?, hne']
      · by_cases hlt : name < key
        · simp [insert, find?, heq, hlt, hne']
        · simp [insert, find?, heq, hlt, ih]

theorem sorted_foldl_insert (pairs : List (String × α)) {entries : Entries α}
    (hsorted : Sorted entries) :
    Sorted (pairs.foldl (fun entries pair => insert pair.1 pair.2 entries) entries) := by
  induction pairs generalizing entries with
  | nil => exact hsorted
  | cons pair rest ih => exact ih (sorted_insert pair.1 pair.2 hsorted)

theorem sorted_ofList (pairs : List (String × α)) : Sorted (ofList pairs) :=
  sorted_foldl_insert pairs List.Pairwise.nil

end Entries

/-- Values under names, the names strictly increasing. -/
structure Table (α : Type u) where
  /-- The pairs in the order of their names. -/
  entries : Entries α
  /-- No name occurs twice and the order is that of the names. -/
  sorted : entries.Sorted

namespace Table

variable {α : Type u} {β : Type v}

/-- The table without names. -/
def empty : Table α :=
  ⟨[], List.Pairwise.nil⟩

instance : Inhabited (Table α) :=
  ⟨empty⟩

instance [DecidableEq α] : DecidableEq (Table α) := fun left right =>
  if h : left.entries = right.entries then
    .isTrue (by cases left; cases right; simpa using h)
  else
    .isFalse fun heq => h (congrArg entries heq)

/-- The value under a name. -/
def find? (table : Table α) (name : String) : Option α :=
  table.entries.find? name

/-- Whether a name has a value. -/
def contains (table : Table α) (name : String) : Bool :=
  (table.find? name).isSome

/-- Puts a value under a name, over the value that stood there. -/
def insert (table : Table α) (name : String) (value : α) : Table α :=
  ⟨table.entries.insert name value, Entries.sorted_insert name value table.sorted⟩

/-- Inserts one pair after the other; a later value replaces an earlier one. -/
def ofList (pairs : List (String × α)) : Table α :=
  ⟨Entries.ofList pairs, Entries.sorted_ofList pairs⟩

/-- The names in order. -/
def keys (table : Table α) : List String :=
  table.entries.map Prod.fst

/-- The values in the order of their names. -/
def values (table : Table α) : List α :=
  table.entries.map Prod.snd

/-- The number of names. -/
def size (table : Table α) : Nat :=
  table.entries.length

/-- Whether there is no name at all. -/
def isEmpty (table : Table α) : Bool :=
  table.entries.isEmpty

/-- Replaces each value by a function of its name and itself. -/
def map (change : String → α → β) (table : Table α) : Table β where
  entries := table.entries.map fun pair => (pair.1, change pair.1 pair.2)
  sorted := by
    have h := table.sorted
    simpa [Entries.Sorted, List.pairwise_map] using h

/-- Keeps the pairs that pass a test. -/
def filter (keep : String → α → Bool) (table : Table α) : Table α where
  entries := table.entries.filter fun pair => keep pair.1 pair.2
  sorted := List.Pairwise.filter _ table.sorted

@[simp]
theorem find?_insert_self (table : Table α) (name : String) (value : α) :
    (table.insert name value).find? name = some value :=
  Entries.find?_insert_self name value table.entries

end Table

/-- A set of names, listed in their order. -/
abbrev NameSet := Table Unit

namespace NameSet

/-- Adds a name. -/
def add (names : NameSet) (name : String) : NameSet :=
  names.insert name ()

/-- Adds the names of a list. -/
def addAll (names : NameSet) (list : List String) : NameSet :=
  list.foldl add names

/-- The names of a list. -/
def ofNames (list : List String) : NameSet :=
  addAll Table.empty list

end NameSet

end Dialogue
