import Dialogue.Proofs.Domain.Outline

/-!
# The first fault of a domain

Loading reads the mappings of an outline one after the other: those of the slots in the
order of their names, then those of the forms in the order of theirs, each with its slots
in order.  It fails exactly if one of them cannot be read, and reports the first such
mapping under its slot.
-/

namespace Dialogue

/-- A value that can be read as a mapping. -/
def SlotMapping.Readable (value : Json) : Prop :=
  ∃ mapping, ofJson value = .ok mapping

/-- The first value that is no mapping, told with its slot. -/
inductive FirstFault : List (String × Json) → ConfigError → Prop where
  | here {slot : String} {value : Json} {rest : List (String × Json)} {cause : MappingError}
      (fails : SlotMapping.ofJson value = .error cause) :
      FirstFault ((slot, value) :: rest) (.slotMapping slot cause)
  | later {slot : String} {value : Json} {rest : List (String × Json)} {error : ConfigError}
      (reads : SlotMapping.Readable value) (fault : FirstFault rest error) :
      FirstFault ((slot, value) :: rest) error

namespace FirstFault

variable {mappings others : List (String × Json)} {error : ConfigError}

/-- A fault is a mapping that cannot be read. -/
theorem not_readable (fault : FirstFault mappings error) :
    ¬∀ mapping ∈ mappings, SlotMapping.Readable mapping.2 := by
  intro readable
  induction fault with
  | here fails =>
      obtain ⟨mapping, reads⟩ := readable _ List.mem_cons_self
      rw [fails] at reads
      cases reads
  | later _ _ ih =>
      apply ih
      intro mapping member
      exact readable mapping (List.mem_cons_of_mem _ member)

theorem exists_of_not_readable
    (unreadable : ¬∀ mapping ∈ mappings, SlotMapping.Readable mapping.2) :
    ∃ error, FirstFault mappings error := by
  induction mappings with
  | nil =>
      exfalso
      apply unreadable
      intro mapping member
      cases member
  | cons first rest ih =>
      obtain ⟨slot, value⟩ := first
      cases read : SlotMapping.ofJson value with
      | error cause => exact ⟨_, .here read⟩
      | ok mapping =>
          have later : ¬∀ mapping ∈ rest, SlotMapping.Readable mapping.2 := by
            intro readable
            exact unreadable (List.forall_mem_cons.mpr ⟨⟨mapping, read⟩, readable⟩)
          obtain ⟨error, fault⟩ := ih later
          exact ⟨error, .later ⟨mapping, read⟩ fault⟩

/-- The first fault of two lists is that of the first list, or that of the second one if
the first has none. -/
theorem append_iff : FirstFault (mappings ++ others) error ↔
    FirstFault mappings error ∨
      (∀ mapping ∈ mappings, SlotMapping.Readable mapping.2) ∧ FirstFault others error := by
  induction mappings with
  | nil =>
      constructor
      · intro fault
        exact .inr ⟨by simp, fault⟩
      · rintro (fault | ⟨-, fault⟩)
        · cases fault
        · exact fault
  | cons first rest ih =>
      rw [List.cons_append, List.forall_mem_cons]
      constructor
      · intro fault
        cases fault with
        | here fails => exact .inl (.here fails)
        | later reads fault =>
            rcases ih.mp fault with fault | ⟨readable, fault⟩
            · exact .inl (.later reads fault)
            · exact .inr ⟨⟨reads, readable⟩, fault⟩
      · rintro (fault | ⟨⟨reads, readable⟩, fault⟩)
        · cases fault with
          | here fails => exact .here fails
          | later reads fault => exact .later reads (ih.mpr (.inl fault))
        · exact .later reads (ih.mpr (.inr ⟨readable, fault⟩))

end FirstFault

/-! ## Reading through mappings -/

/-- A run that reads mappings in order: it fails exactly with the first fault of them. -/
def ReadsThrough {α : Type} (run : Except ConfigError α) (mappings : List (String × Json)) :
    Prop :=
  ∀ error, run = .error error ↔ FirstFault mappings error

namespace ReadsThrough

variable {α β Item : Type} {mappings others : List (String × Json)}
  {mappingsOf : Item → List (String × Json)}

/-- A run succeeds if there is no fault. -/
theorem exists_ok_iff {run : Except ConfigError α} (through : ReadsThrough run mappings) :
    (∃ result, run = .ok result) ↔ ∀ mapping ∈ mappings, SlotMapping.Readable mapping.2 := by
  cases run with
  | error error =>
      have unreadable := ((through error).mp rfl).not_readable
      constructor
      · rintro ⟨result, succeeds⟩
        cases succeeds
      · intro readable
        exact absurd readable unreadable
  | ok result =>
      have readable : ∀ mapping ∈ mappings, SlotMapping.Readable mapping.2 := by
        by_contra unreadable
        obtain ⟨error, fault⟩ := FirstFault.exists_of_not_readable unreadable
        cases (through error).mpr fault
      exact ⟨fun _ => readable, fun _ => ⟨result, rfl⟩⟩

theorem ok (result : α) : ReadsThrough (.ok result) [] := by
  intro error
  constructor
  · intro fails
    cases fails
  · intro fault
    cases fault

/-- One run after the other reads through both lists. -/
theorem bind {run : Except ConfigError α} {next : α → Except ConfigError β}
    (first : ReadsThrough run mappings) (second : ∀ result, ReadsThrough (next result) others) :
    ReadsThrough (run >>= next) (mappings ++ others) := by
  intro error
  rw [FirstFault.append_iff, ← first.exists_ok_iff, ← first error]
  cases run with
  | error cause =>
      show Except.error cause = Except.error error ↔ _
      simp
  | ok result =>
      show next result = Except.error error ↔ _
      rw [second result error]
      simp

/-- What is done with the result of a run cannot fail. -/
theorem map {run : Except ConfigError α} (through : ReadsThrough run mappings)
    (change : α → β) : ReadsThrough (run >>= fun result => pure (change result)) mappings := by
  rw [← List.append_nil mappings]
  exact through.bind fun result => .ok (change result)

theorem mapM {read : Item → Except ConfigError α}
    (each : ∀ item, ReadsThrough (read item) (mappingsOf item)) (items : List Item) :
    ReadsThrough (items.mapM read) (items.flatMap mappingsOf) := by
  induction items with
  | nil => exact .ok []
  | cons item rest ih =>
      rw [List.mapM_cons, List.flatMap_cons]
      exact (each item).bind fun first => ih.map (first :: ·)

theorem foldlM {step : α → Item → Except ConfigError α}
    (each : ∀ state item, ReadsThrough (step state item) (mappingsOf item)) (items : List Item)
    (state : α) : ReadsThrough (items.foldlM step state) (items.flatMap mappingsOf) := by
  induction items generalizing state with
  | nil => exact .ok state
  | cons item rest ih =>
      rw [List.foldlM_cons, List.flatMap_cons]
      exact (each state item).bind ih

end ReadsThrough

/-! ## The mappings of an outline -/

/-- The mappings of a form, each with its slot, in the order of reading. -/
def FormOutline.mappings (outline : FormOutline) : List (String × Json) :=
  outline.slotMappings.entries.flatMap fun entry =>
    (Domain.mappingItems entry.2).map (Prod.mk entry.1)

/-- The mappings of a domain, each with its slot, in the order of reading. -/
def DomainOutline.mappings (outline : DomainOutline) : List (String × Json) :=
  outline.slots.entries.flatMap (fun entry => entry.2.mappings.map (Prod.mk entry.1)) ++
    outline.forms.entries.flatMap fun entry => entry.2.mappings

/-- A list that consists of a row for each item, in the order of the items. -/
def Gathers {Item Part : Type} (isRow : Item → List Part → Prop) (items : List Item)
    (parts : List Part) : Prop :=
  ∃ rows, List.Forall₂ isRow items rows ∧ parts = rows.flatten

theorem gathers_iff {Item Part : Type} {isRow : Item → List Part → Prop}
    (row : Item → List Part) (isRow_iff : ∀ item parts, isRow item parts ↔ row item = parts)
    {items : List Item} {parts : List Part} :
    Gathers isRow items parts ↔ items.flatMap row = parts := by
  have rows_iff : ∀ rows, List.Forall₂ isRow items rows ↔ items.map row = rows := by
    intro rows
    rw [← List.forall₂_eq_eq_eq, List.forall₂_map_left_iff]
    exact ⟨fun each => each.imp fun item parts => (isRow_iff item parts).mp,
      fun each => each.imp fun item parts => (isRow_iff item parts).mpr⟩
  unfold Gathers
  simp only [rows_iff, exists_eq_left', List.flatMap_def]
  exact eq_comm

/-- A form has these mappings: what is given for its slots, each with its slot. -/
def FormOutline.Maps (outline : FormOutline) (mappings : List (String × Json)) : Prop :=
  Gathers (fun entry row => ∃ items, SlotMapping.GivenBy entry.2 items ∧
    row = items.map (Prod.mk entry.1)) outline.slotMappings.entries mappings

/-- A domain has these mappings: those of its slots, then those of its forms, each with its
slot. -/
def DomainOutline.Maps (outline : DomainOutline) (mappings : List (String × Json)) : Prop :=
  ∃ slots forms,
    Gathers (fun entry row => row = entry.2.mappings.map (Prod.mk entry.1))
      outline.slots.entries slots ∧
    Gathers (fun entry row => entry.2.Maps row) outline.forms.entries forms ∧
    mappings = slots ++ forms

theorem FormOutline.maps_iff {outline : FormOutline} {mappings : List (String × Json)} :
    outline.Maps mappings ↔ outline.mappings = mappings := by
  apply gathers_iff
  intro entry row
  simp only [SlotMapping.givenBy_iff, exists_eq_left']
  exact eq_comm

theorem DomainOutline.maps_iff {outline : DomainOutline} {mappings : List (String × Json)} :
    outline.Maps mappings ↔ outline.mappings = mappings := by
  unfold Maps
  simp only [gathers_iff
      (fun entry : String × SlotOutline => entry.2.mappings.map (Prod.mk entry.1))
      fun _ _ => eq_comm,
    gathers_iff (fun entry : String × FormOutline => entry.2.mappings)
      fun _ _ => FormOutline.maps_iff,
    exists_and_left, exists_eq_left']
  exact eq_comm

namespace Domain

theorem readMapping_reads (slot : String) (value : Json) :
    ReadsThrough ((SlotMapping.ofJson value).mapError (.slotMapping slot)) [(slot, value)] := by
  intro error
  constructor
  · intro fails
    cases read : SlotMapping.ofJson value with
    | error cause =>
        rw [read] at fails
        obtain rfl := Except.error.inj fails
        exact .here read
    | ok mapping =>
        rw [read] at fails
        cases fails
  · intro fault
    cases fault with
    | here fails =>
        rw [fails]
        rfl
    | later _ fault => cases fault

theorem readMappings_reads (slot : String) (values : List Json) :
    ReadsThrough (readMappings slot values) (values.map (Prod.mk slot)) := by
  rw [List.map_eq_flatMap]
  exact .mapM (readMapping_reads slot) values

theorem loadSlot_reads (domain : Domain) (name : String) (outline : SlotOutline) :
    ReadsThrough (domain.loadSlot name outline) (outline.mappings.map (Prod.mk name)) :=
  (readMappings_reads name outline.mappings).map _

theorem readSlotMappings_reads (outline : FormOutline) :
    ReadsThrough (readSlotMappings outline.slotMappings) outline.mappings := by
  apply ReadsThrough.mapM
  rintro ⟨slot, value⟩
  exact (readMappings_reads slot (mappingItems value)).map _

theorem loadForm_reads (domain : Domain) (name : String) (outline : FormOutline) :
    ReadsThrough (domain.loadForm name outline) outline.mappings :=
  (readSlotMappings_reads outline).map _

/-- Loading reads the mappings of the slots, then those of the forms. -/
theorem ofOutline_reads (outline : DomainOutline) :
    ReadsThrough (ofOutline outline) outline.mappings := by
  apply ReadsThrough.bind
  · exact .foldlM (fun domain entry => loadSlot_reads domain entry.1 entry.2) _ _
  · intro withSlots
    apply ReadsThrough.map
    exact .foldlM (fun domain entry => loadForm_reads domain entry.1 entry.2) _ _

end Domain

end Dialogue
