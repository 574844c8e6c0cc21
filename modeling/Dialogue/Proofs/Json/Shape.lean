import Dialogue.Proofs.Json.Record

/-!
# The shape of records

The readers of records accept values of a certain shape.  The relations of this module tell
that shape without reading: which members a record has, what stands in the place of a
missing one, and which table the members of an object make up.
-/

namespace Dialogue

namespace Json

/-- The members of a record: those of an object, or the items of an array for the first of
the known members. -/
inductive HasMembers (names : List String) : Json → Entries Json → Prop where
  | object (members : Entries Json) : HasMembers names (.object members) members
  | inOrder {items : List Json} (fits : items.length ≤ names.length) :
      HasMembers names (.array items) (names.zip items)

theorem record?_eq_some_iff {names : List String} {value : Json} {members : Entries Json} :
    value.record? names = some members ↔ HasMembers names value members := by
  constructor
  · intro read
    cases value with
    | object held =>
        obtain rfl := Option.some.inj read
        exact .object held
    | array items =>
        obtain ⟨fits, same⟩ := Option.ite_none_right_eq_some.mp read
        obtain rfl := Option.some.inj same
        exact .inOrder fits
    | _ => cases read
  · intro has
    cases has with
    | object => rfl
    | inOrder fits => exact if_pos fits

theorem array?_eq_some_iff {value : Json} {items : List Json} :
    value.array? = some items ↔ value = .array items := by
  cases value <;> simp [array?]

theorem bool?_eq_some_iff {value : Json} {flag : Bool} :
    value.bool? = some flag ↔ value = .bool flag := by
  cases value <;> simp [bool?]

theorem string?_eq_some_iff {value : Json} {text : String} :
    value.string? = some text ↔ value = .string text := by
  cases value <;> simp [string?]

theorem strings?_eq_some_iff {value : Json} {texts : List String} :
    value.strings? = some texts ↔ value = ofStrings texts := by
  cases value with
  | array items =>
      show items.mapM string? = some texts ↔ _
      rw [mapM_eq_some_iff]
      simp only [string?_eq_some_iff, ofStrings, array.injEq]
      rw [← List.forall₂_eq_eq_eq, List.forall₂_map_right_iff]
  | _ => simp [strings?, ofStrings]

variable {α : Type}

/-- The members of an object make up a table, each described on its own.  Of two members
with the same name the later one counts. -/
def Tabulates (describes : Json → α → Prop) (value : Json) (table : Table α) : Prop :=
  ∃ (members : Entries Json) (pairs : Entries α), value = .object members ∧
    List.Forall₂ (fun member pair => pair.1 = member.1 ∧ describes member.2 pair.2)
      members pairs ∧
    table = Table.ofList pairs

theorem table?_eq_some_iff {read : Json → Option α} {describes : Json → α → Prop}
    (reads : ∀ {value item}, read value = some item ↔ describes value item) {value : Json}
    {table : Table α} : table? read value = some table ↔ Tabulates describes value table := by
  have member_iff : ∀ (member : String × Json) (pair : String × α),
      (read member.2).map (Prod.mk member.1) = some pair ↔
        pair.1 = member.1 ∧ describes member.2 pair.2 := by
    rintro member ⟨name, item⟩
    rw [Option.map_eq_some_iff, ← reads]
    constructor
    · rintro ⟨read, found, same⟩
      obtain ⟨rfl, rfl⟩ := Prod.mk.inj same
      exact ⟨rfl, found⟩
    · rintro ⟨rfl, found⟩
      exact ⟨item, found, rfl⟩
  unfold Tabulates
  cases value with
  | object members =>
      show ((members.mapM fun member => (read member.2).map (Prod.mk member.1)).map
        Table.ofList) = some table ↔ _
      rw [Option.map_eq_some_iff]
      simp only [mapM_eq_some_iff, member_iff, object.injEq]
      constructor
      · rintro ⟨pairs, each, rfl⟩
        exact ⟨members, pairs, rfl, each, rfl⟩
      · rintro ⟨_, pairs, rfl, each, rfl⟩
        exact ⟨pairs, each, rfl⟩
  | _ => simp [table?]

end Json

namespace Entries

variable {α : Type} {members : Entries Json} {name : String} {standard item : α}

/-- A member gives an item: it is described by it, or it is missing and the item is the
standard one. -/
inductive Gives (members : Entries Json) (name : String) (standard : α)
    (describes : Json → α → Prop) : α → Prop where
  | missing (absent : members.find? name = none) : Gives members name standard describes standard
  | held {value : Json} {item : α} (found : members.find? name = some value)
      (described : describes value item) : Gives members name standard describes item

theorem defaulted_eq_some_iff {read : Json → Option α} {describes : Json → α → Prop}
    (reads : ∀ {value item}, read value = some item ↔ describes value item) :
    members.defaulted name standard read = some item ↔
      members.Gives name standard describes item := by
  unfold defaulted
  constructor
  · intro result
    split at result
    · rename_i absent
      obtain rfl := Option.some.inj result
      exact .missing absent
    · rename_i value found
      exact .held found (reads.mp result)
  · intro gives
    cases gives with
    | missing absent => simp only [absent]
    | held found described => simp only [found, reads.mpr described]

end Entries

end Dialogue
