import Dialogue.Toml.Basic

/-!
# Tables under construction

The lines of a document fill tables one key at a time.  No key is given twice, and a
table is not opened again once a header has opened it; `Draft` remembers how each
table came about.
-/

namespace Dialogue.Toml

/-- How a table came about. -/
inductive Origin where
  /-- A header opened it. -/
  | opened
  /-- A header of a table within it passed through. -/
  | passed
  /-- A dotted key gave a member of it. -/
  | dotted
deriving DecidableEq

/-- A value under construction. -/
inductive Draft where
  /-- A value that is complete. -/
  | complete (value : Toml)
  /-- A table. -/
  | table (origin : Origin) (members : List (String × Draft))
  /-- A list of tables, the latest one first. -/
  | tables (latest : List (String × Draft)) (before : List (List (String × Draft)))

namespace Draft

instance : Inhabited Draft :=
  ⟨.table .passed []⟩

/-- Members under construction. -/
abbrev Members := List (String × Draft)

/-- Puts a draft under a name that has one, or after the other members. -/
def place (name : String) (draft : Draft) : Members → Members
  | [] => [(name, draft)]
  | (key, old) :: members =>
      if key = name then (name, draft) :: members else (key, old) :: place name draft members

/-- What a path may pass through. -/
structure Passage where
  /-- The origin of the tables that are made on the way. -/
  origin : Origin
  /-- Whether a table may be entered: its origin, none for the latest of a list, and
  whether the path ends in it. -/
  enters : Option Origin → Bool → Bool

/-- The passage of a header: every table may be entered. -/
def Passage.header : Passage where
  origin := .passed
  enters _ _ := true

/-- The passage of a dotted key: it adds to tables that only dotted keys have given. -/
def Passage.key : Passage where
  origin := .dotted
  enters
    | some .dotted, _ => true
    | some .opened, _ => false
    | _, isLast => !isLast

/-- Changes the members at the end of a path. -/
def change (passage : Passage) (act : Members → Option Members) :
    List String → Members → Option Members
  | [], members => act members
  | name :: path, members =>
      match Entries.find? name members with
      | none =>
          (change passage act path []).map fun inner =>
            place name (.table passage.origin inner) members
      | some (.table origin inner) =>
          if passage.enters (some origin) path.isEmpty then
            (change passage act path inner).map fun inner =>
              place name (.table origin inner) members
          else none
      | some (.tables latest before) =>
          if passage.enters none path.isEmpty then
            (change passage act path latest).map fun latest =>
              place name (.tables latest before) members
          else none
      | some (.complete _) => none

/-- Gives a value to a key that has none. -/
def assign (name : String) (value : Toml) (members : Members) : Option Members :=
  match Entries.find? name members with
  | none => some (place name (.complete value) members)
  | some _ => none

/-- Opens a table that no header has opened and no dotted key has filled. -/
def openTable (name : String) (members : Members) : Option Members :=
  match Entries.find? name members with
  | none => some (place name (.table .opened []) members)
  | some (.table .passed inner) => some (place name (.table .opened inner) members)
  | some _ => none

/-- Opens one more table of a list. -/
def openNext (name : String) (members : Members) : Option Members :=
  match Entries.find? name members with
  | none => some (place name (.tables [] []) members)
  | some (.tables latest before) => some (place name (.tables [] (latest :: before)) members)
  | some _ => none

/-- A key: the names before its last dot, and the one behind. -/
structure Key where
  /-- The tables that hold the member. -/
  path : List String
  /-- The name of the member. -/
  name : String

/-- All names of a key. -/
def Key.names (key : Key) : List String :=
  key.path ++ [key.name]

/-- Gives a value to a dotted key. -/
def assignKey (key : Key) (value : Toml) (members : Members) : Option Members :=
  change .key (assign key.name value) key.path members

mutual

/-- The value that a draft ends as. -/
def finish : Draft → Toml
  | .complete value => value
  | .table _ members => .table (finishMembers members)
  | .tables latest before => .array (finishTables before [.table (finishMembers latest)])

/-- The members that drafts end as. -/
def finishMembers : List (String × Draft) → List (String × Toml)
  | [] => []
  | (name, draft) :: members => (name, finish draft) :: finishMembers members

/-- The tables of a list in front of later ones. -/
def finishTables : List (List (String × Draft)) → List Toml → List Toml
  | [], later => later
  | members :: before, later => finishTables before (.table (finishMembers members) :: later)

end

end Draft

end Dialogue.Toml
