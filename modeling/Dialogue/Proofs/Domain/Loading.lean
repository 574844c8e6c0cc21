import Dialogue.Proofs.Domain.Consistent
import Dialogue.Proofs.Domain.Faults

/-!
# Loading loses nothing

A domain is loaded by declaring what its outline lists.  The names of a table are distinct,
so that no declaration replaces another one: the domain holds every slot, form and response
of the outline as it was listed, and only the slot for the question asked last is added.
-/

namespace Dialogue

/-! ## What an outline declares -/

/-- Mappings that were read from values, one from each. -/
def SlotMapping.Reads : List Json → List SlotMapping → Prop :=
  List.Forall₂ fun value mapping => ofJson value = .ok mapping

/-- A slot is declared as outlined. -/
structure SlotOutline.Declares (name : String) (outline : SlotOutline) (slot : SlotSpec) :
    Prop where
  name_eq : slot.name = name
  type_eq : slot.type = outline.type
  initialValue_eq : slot.initialValue = outline.initialValue
  mappings : SlotMapping.Reads outline.mappings slot.mappings
  influences_eq : slot.influencesConversation = outline.influencesConversation

/-- A form is declared as outlined. -/
structure FormOutline.Declares (name : String) (outline : FormOutline) (form : FormSpec) :
    Prop where
  name_eq : form.name = name
  requiredSlots_eq : form.requiredSlots = outline.requiredSlots
  slotMappings : List.Forall₂
    (fun listed held => held.1 = listed.1 ∧
      ∃ items, SlotMapping.GivenBy listed.2 items ∧ SlotMapping.Reads items held.2)
    outline.slotMappings.entries form.slotMappings.entries

/-- A domain declares what is outlined, and nothing else but what follows from it: forms and
responses are actions, and a form needs the slot for the question asked last. -/
structure DomainOutline.Declares (outline : DomainOutline) (domain : Domain) : Prop where
  intents : ∀ name, domain.intents.contains name = true ↔ name ∈ outline.intents
  slots : ∃ listed,
    List.Forall₂ (fun entry slot => entry.2.Declares entry.1 slot) outline.slots.entries listed ∧
    domain.slots =
      if outline.forms.keys = [] ∨ requestedSlot ∈ outline.slots.keys then listed
      else listed ++ [Domain.requestedSlotSpec]
  forms : List.Forall₂ (fun entry held => held.1 = entry.1 ∧ entry.2.Declares entry.1 held.2)
    outline.forms.entries domain.forms.entries
  actions : ∀ name, domain.hasAction name = true ↔
    name ∈ outline.actions ∨ name ∈ outline.forms.keys ∨ name ∈ outline.responses.keys
  responses : domain.responses = outline.responses

namespace Domain

/-! ## Loops that may fail -/

theorem forall₂_of_mapM_eq_ok {Item Result Failure : Type} {read : Item → Except Failure Result}
    {items : List Item} {results : List Result} (run : items.mapM read = .ok results) :
    List.Forall₂ (fun item result => read item = .ok result) items results := by
  induction items generalizing results with
  | nil =>
      obtain rfl := Except.ok.inj run
      exact .nil
  | cons item rest ih =>
      rw [List.mapM_cons] at run
      obtain ⟨first, read, run⟩ := exists_of_bind_eq_ok run
      obtain ⟨others, later, run⟩ := exists_of_bind_eq_ok run
      obtain rfl := Except.ok.inj run
      exact .cons read (ih later)

/-- A loop that declares a part for each of its items. -/
theorem exists_parts_of_foldlM_eq_ok {State Item Part Failure : Type}
    {step : State → Item → Except Failure State} (describes : Item → Part → Prop)
    (declare : State → Part → State)
    (step_declares : ∀ {state next item}, step state item = .ok next →
      ∃ part, describes item part ∧ next = declare state part)
    {items : List Item} {state final : State} (run : items.foldlM step state = .ok final) :
    ∃ parts, List.Forall₂ describes items parts ∧ final = parts.foldl declare state := by
  induction items generalizing state with
  | nil =>
      obtain rfl : state = final := Except.ok.inj run
      exact ⟨[], .nil, rfl⟩
  | cons item rest ih =>
      rw [List.foldlM_cons] at run
      obtain ⟨next, stepped, run⟩ := exists_of_bind_eq_ok run
      obtain ⟨part, described, rfl⟩ := step_declares stepped
      obtain ⟨parts, others, rfl⟩ := ih run
      exact ⟨part :: parts, .cons described others, rfl⟩

/-- Parts that carry the names of their items have the same list of names. -/
theorem map_eq_map_of_forall₂ {Item Part : Type} {describes : Item → Part → Prop}
    {key : Item → String} {name : Part → String}
    (named : ∀ {item part}, describes item part → name part = key item) {items : List Item}
    {parts : List Part} (each : List.Forall₂ describes items parts) :
    parts.map name = items.map key := by
  induction each with
  | nil => rfl
  | cons described _ ih => rw [List.map_cons, List.map_cons, named described, ih]

/-! ## One declaration -/

theorem reads_of_readMappings {slot : String} {values : List Json} {mappings : List SlotMapping}
    (run : readMappings slot values = .ok mappings) : SlotMapping.Reads values mappings := by
  apply (forall₂_of_mapM_eq_ok run).imp
  intro value mapping read
  cases result : SlotMapping.ofJson value with
  | error cause =>
      rw [result] at read
      cases read
  | ok held =>
      rw [result] at read
      obtain rfl := Except.ok.inj read
      rfl

theorem declares_of_loadSlot {domain next : Domain} {name : String} {outline : SlotOutline}
    (loaded : domain.loadSlot name outline = .ok next) :
    ∃ slot, outline.Declares name slot ∧ next = domain.withSlot slot := by
  obtain ⟨mappings, read, declared⟩ := exists_of_bind_eq_ok loaded
  obtain rfl := Except.ok.inj declared
  exact ⟨_, ⟨rfl, rfl, rfl, reads_of_readMappings read, rfl⟩, rfl⟩

theorem declares_of_loadForm {domain next : Domain} {name : String} {outline : FormOutline}
    (loaded : domain.loadForm name outline = .ok next) :
    ∃ form, outline.Declares name form ∧ next = domain.withForm form := by
  obtain ⟨pairs, read, declared⟩ := exists_of_bind_eq_ok loaded
  obtain rfl := Except.ok.inj declared
  have each : List.Forall₂
      (fun listed held => held.1 = listed.1 ∧
        ∃ items, SlotMapping.GivenBy listed.2 items ∧ SlotMapping.Reads items held.2)
      outline.slotMappings.entries pairs := by
    apply (forall₂_of_mapM_eq_ok read).imp
    rintro ⟨slot, value⟩ held run
    obtain ⟨mappings, read, same⟩ := exists_of_bind_eq_ok run
    obtain rfl := Except.ok.inj same
    exact ⟨rfl, _, SlotMapping.givenBy_iff.mpr rfl, reads_of_readMappings read⟩
  -- The pairs carry the names of a table, so that no pair replaces another one.
  have names := map_eq_map_of_forall₂ (fun described => described.1) each
  refine ⟨_, ⟨rfl, rfl, ?_⟩, rfl⟩
  rw [Table.entries_ofList_of_names names]
  exact each

/-! ## All declarations -/

variable {domain : Domain}

theorem placeSlot_of_fresh {slot : SlotSpec} {slots : List SlotSpec}
    (fresh : slot.name ∉ slots.map SlotSpec.name) : placeSlot slot slots = slots ++ [slot] := by
  induction slots with
  | nil => rfl
  | cons declared rest ih =>
      obtain ⟨differ, fresh⟩ := not_or.mp (mt List.mem_cons.mpr fresh)
      rw [placeSlot, if_neg (Ne.symm differ), ih fresh]
      rfl

/-- Slots with names of their own are declared in order, after those that are there. -/
theorem foldl_withSlot {slots : List SlotSpec}
    (distinct : ((domain.slots ++ slots).map SlotSpec.name).Nodup) :
    slots.foldl withSlot domain = { domain with slots := domain.slots ++ slots } := by
  induction slots generalizing domain with
  | nil => rw [List.append_nil, List.foldl_nil]
  | cons slot rest ih =>
      have fresh : slot.name ∉ domain.slots.map SlotSpec.name := by
        intro declared
        rw [List.map_append] at distinct
        exact (List.nodup_append.mp distinct).2.2 _ declared _ List.mem_cons_self rfl
      have placed : (domain.withSlot slot).slots ++ rest = domain.slots ++ slot :: rest := by
        rw [withSlot, placeSlot_of_fresh fresh, List.append_assoc, List.singleton_append]
      rw [List.foldl_cons, ih (placed ▸ distinct), placed]
      rfl

/-- The first form adds the slot for the question asked last, unless it is there. -/
theorem foldl_withForm (forms : List FormSpec) (domain : Domain) :
    forms.foldl withForm domain =
      { domain with
        slots :=
          if forms = [] ∨ requestedSlot ∈ domain.slotNames then domain.slots
          else domain.slots ++ [requestedSlotSpec]
        actions := domain.actions.addAll (forms.map FormSpec.name)
        forms := (forms.map fun form => (form.name, form)).foldl
          (fun table pair => table.insert pair.1 pair.2) domain.forms } := by
  induction forms generalizing domain with
  | nil => simp [NameSet.addAll]
  | cons form rest ih =>
      -- The later forms find the slot that the first one has added.
      have asked : requestedSlot ∈ (domain.withForm form).slotNames := by
        rw [slotNames, slots_withForm]
        split
        · assumption
        · simp [requestedSlotSpec]
      rw [List.foldl_cons, ih, if_pos (.inr asked), slots_withForm]
      simp only [reduceCtorEq, false_or]
      rfl

theorem foldl_withResponse (responses : List (String × List Json)) (domain : Domain) :
    responses.foldl (fun domain pair => domain.withResponse pair.1 pair.2) domain =
      { domain with
        actions := domain.actions.addAll (responses.map Prod.fst)
        responses := responses.foldl (fun table pair => table.insert pair.1 pair.2)
          domain.responses } := by
  induction responses generalizing domain with
  | nil => rfl
  | cons response rest ih =>
      rw [List.foldl_cons, ih]
      rfl

/-- A loaded domain consists of the declared slots and forms, and of what is listed. -/
theorem exists_parts_of_ofOutline {outline : DomainOutline}
    (loaded : ofOutline outline = .ok domain) :
    ∃ slots forms,
      List.Forall₂ (fun entry slot => entry.2.Declares entry.1 slot)
        outline.slots.entries slots ∧
      List.Forall₂ (fun entry form => entry.2.Declares entry.1 form)
        outline.forms.entries forms ∧
      domain = {
        intents := .ofNames outline.intents
        slots :=
          if forms = [] ∨ requestedSlot ∈ slots.map SlotSpec.name then slots
          else slots ++ [requestedSlotSpec]
        forms := Table.ofList (forms.map fun form => (form.name, form))
        actions :=
          ((NameSet.ofNames outline.actions).addAll (forms.map FormSpec.name)).addAll
            outline.responses.keys
        responses := outline.responses } := by
  obtain ⟨withSlots, slotsLoaded, loaded⟩ := exists_of_bind_eq_ok loaded
  obtain ⟨withForms, formsLoaded, loaded⟩ := exists_of_bind_eq_ok loaded
  obtain ⟨slots, slotsDeclared, slotsPlaced⟩ := exists_parts_of_foldlM_eq_ok
    (fun entry slot => entry.2.Declares entry.1 slot) withSlot declares_of_loadSlot slotsLoaded
  obtain ⟨forms, formsDeclared, formsPlaced⟩ := exists_parts_of_foldlM_eq_ok
    (fun entry form => entry.2.Declares entry.1 form) withForm declares_of_loadForm formsLoaded
  have names := map_eq_map_of_forall₂ (fun declared => declared.name_eq) slotsDeclared
  have distinct : (slots.map SlotSpec.name).Nodup := names ▸ outline.slots.nodup_keys
  refine ⟨slots, forms, slotsDeclared, formsDeclared, ?_⟩
  have slotsPlaced := slotsPlaced.trans (foldl_withSlot distinct)
  have formsPlaced := formsPlaced.trans (foldl_withForm forms withSlots)
  calc domain
      _ = _ := (Except.ok.inj loaded).symm
      _ = _ := foldl_withResponse outline.responses.entries withForms
      _ = _ := by
        rw [formsPlaced, slotsPlaced, Domain.mk.injEq]
        exact ⟨rfl, rfl, Table.foldl_insert_empty _, rfl,
          (Table.foldl_insert_empty _).trans outline.responses.ofList_entries⟩

/-- What is loaded declares what is outlined. -/
theorem declares_of_ofOutline {outline : DomainOutline} (loaded : ofOutline outline = .ok domain) :
    outline.Declares domain := by
  obtain ⟨slots, forms, slotsDeclared, formsDeclared, rfl⟩ := exists_parts_of_ofOutline loaded
  have slotNames : slots.map SlotSpec.name = outline.slots.keys :=
    map_eq_map_of_forall₂ (fun declared => declared.name_eq) slotsDeclared
  have formNames : forms.map FormSpec.name = outline.forms.keys :=
    map_eq_map_of_forall₂ (fun declared => declared.name_eq) formsDeclared
  constructor
  case intents =>
    intro name
    exact NameSet.contains_ofNames_iff
  case slots =>
    have noForm : forms = [] ↔ outline.forms.keys = [] := by
      rw [← formNames, List.map_eq_nil_iff]
    refine ⟨slots, slotsDeclared, ?_⟩
    dsimp only
    rw [slotNames]
    simp only [noForm]
  case forms =>
    have names : (forms.map fun form => (form.name, form)).map Prod.fst =
        outline.forms.entries.map Prod.fst := by
      rw [List.map_map]
      exact formNames
    dsimp only
    rw [Table.entries_ofList_of_names names, List.forall₂_map_right_iff]
    apply formsDeclared.imp
    intro entry form declared
    exact ⟨declared.name_eq, declared⟩
  case actions =>
    intro name
    unfold hasAction
    rw [NameSet.contains_addAll_iff, NameSet.contains_addAll_iff, NameSet.contains_ofNames_iff,
      formNames]
    tauto
  case responses => rfl

/-! ## Domains from values -/

theorem ofJson_eq_ok_iff {value : Json} : ofJson value = .ok domain ↔
    ∃ outline, DomainOutline.Of value outline ∧ ofOutline outline = .ok domain := by
  simp only [← DomainOutline.ofJson?_eq_some_iff]
  unfold ofJson
  cases DomainOutline.ofJson? value with
  | none => simp
  | some outline => simp

theorem ofJson_eq_error_iff {value : Json} {error : ConfigError} : ofJson value = .error error ↔
    (¬∃ outline, DomainOutline.Of value outline) ∧ error = .load "invalid domain" ∨
    ∃ outline, DomainOutline.Of value outline ∧ ofOutline outline = .error error := by
  simp only [← DomainOutline.ofJson?_eq_some_iff]
  unfold ofJson
  cases DomainOutline.ofJson? value with
  | none => simp [eq_comm]
  | some outline => simp

/-- A value with the shape of a domain: a slot that is filled by texts, and a form that asks
for it and has a mapping of its own. -/
def tripWith (mapping : Json) : Json :=
  .object [
    ("slots", .object [("city", .object [
      ("mappings", .array [.object [("type", .string "from_text")]])])]),
    ("forms", .object [("trip", .object [
      ("required_slots", .array [.string "city"]),
      ("slot_mappings", .object [("city", mapping)])])])]

/-- Domains are consistent, and loading loses nothing.  Declarations keep a domain
consistent in every order.  A value is loaded exactly if it has the shape of a domain and
all of its mappings can be read; otherwise the error is that of the shape, or the first
mapping that cannot be read.  What is loaded is consistent and declares what is outlined. -/
theorem loading_loses_nothing :
    (∀ domain, Built domain → Consistent domain) ∧
    ∀ value,
      ((∃ domain, ofJson value = .ok domain) ↔
        ∃ outline mappings, DomainOutline.Of value outline ∧ outline.Maps mappings ∧
          ∀ mapping ∈ mappings, SlotMapping.Readable mapping.2) ∧
      (∀ error, ofJson value = .error error ↔
        (¬∃ outline, DomainOutline.Of value outline) ∧ error = .load "invalid domain" ∨
        ∃ outline mappings, DomainOutline.Of value outline ∧ outline.Maps mappings ∧
          FirstFault mappings error) ∧
      ∀ domain, ofJson value = .ok domain →
        Consistent domain ∧
        ∃ outline, DomainOutline.Of value outline ∧ outline.Declares domain := by
  constructor
  · intro domain built
    exact built.consistent
  intro value
  simp only [DomainOutline.maps_iff, exists_and_left, exists_eq_left']
  refine ⟨?_, ?_, ?_⟩
  · constructor
    · rintro ⟨domain, loaded⟩
      obtain ⟨outline, shape, loaded⟩ := ofJson_eq_ok_iff.mp loaded
      exact ⟨outline, shape, (ofOutline_reads outline).exists_ok_iff.mp ⟨domain, loaded⟩⟩
    · rintro ⟨outline, shape, readable⟩
      obtain ⟨domain, loaded⟩ := (ofOutline_reads outline).exists_ok_iff.mpr readable
      exact ⟨domain, ofJson_eq_ok_iff.mpr ⟨outline, shape, loaded⟩⟩
  · intro error
    rw [ofJson_eq_error_iff]
    simp only [ofOutline_reads _ error]
  · intro domain loaded
    constructor
    · exact (built_of_ofJson loaded).consistent
    · obtain ⟨outline, shape, loaded⟩ := ofJson_eq_ok_iff.mp loaded
      exact ⟨outline, shape, declares_of_ofOutline loaded⟩

/-- A slot may be declared again after the form that asks for it.  In the value the form's
mappings decide, one or several: if they can be read, the domain has both slots and the form's
action, and the form has all of them; and if not, the first that cannot be read is the
fault. -/
theorem loading_loses_nothing_of_trip :
    let city : SlotSpec := { name := "city", type := .text }
    let trip : FormSpec := { name := "trip", requiredSlots := ["city"] }
    let declared := ((empty.withSlot city).withForm trip).withSlot { city with type := .list }
    let fromTrigger := Json.object [("type", .string "from_trigger_intent")]
    let fromText := Json.object [("type", .string "from_text")]
    let mappingCount (domain : Domain) :=
      ((domain.form? "trip").bind fun form => form.slotMappings.find? "city").map List.length
    (Built declared ∧ Consistent declared) ∧
    (∃ domain, ofJson (tripWith fromTrigger) = .ok domain ∧ Consistent domain ∧
      domain.slotNames = ["city", requestedSlot] ∧ domain.hasAction "trip" = true ∧
      mappingCount domain = some 1) ∧
    (∃ domain, ofJson (tripWith (.array [fromTrigger, fromText])) = .ok domain ∧
      Consistent domain ∧ mappingCount domain = some 2) ∧
    ofJson (tripWith (.object [])) = .error (.slotMapping "city" .missingType) ∧
    ofJson (tripWith (.array [fromText, .object []])) =
      .error (.slotMapping "city" .missingType) := by
  intro city trip declared fromTrigger fromText mappingCount
  rcases loading_loses_nothing with ⟨keeps, loads⟩
  have consistent {value : Json} {domain : Domain} (loaded : ofJson value = .ok domain) :
      Consistent domain := ((loads value).2.2 domain loaded).1
  refine ⟨?_, ?_, ?_, ?_, ?_⟩
  · have built : Built declared := ((Built.empty.withSlot _).withForm _).withSlot _
    exact ⟨built, keeps declared built⟩
  · have loaded : ofJson (tripWith fromTrigger) = .ok _ := rfl
    exact ⟨_, loaded, consistent loaded, rfl, rfl, rfl⟩
  · have loaded : ofJson (tripWith (.array [fromTrigger, fromText])) = .ok _ := rfl
    exact ⟨_, loaded, consistent loaded, rfl⟩
  · apply ((loads _).2.1 _).mpr
    right
    exact ⟨_, _, DomainOutline.ofJson?_eq_some_iff.mp rfl, DomainOutline.maps_iff.mpr rfl,
      .later ⟨_, rfl⟩ (.here rfl)⟩
  · apply ((loads _).2.1 _).mpr
    right
    exact ⟨_, _, DomainOutline.ofJson?_eq_some_iff.mp rfl, DomainOutline.maps_iff.mpr rfl,
      .later ⟨_, rfl⟩ (.later ⟨_, rfl⟩ (.here rfl))⟩

end Domain

end Dialogue
