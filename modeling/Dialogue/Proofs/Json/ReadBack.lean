import Dialogue.Json.RecordText
import Dialogue.Proofs.Json.Compact
import Dialogue.Proofs.Json.NumberText
import Dialogue.Proofs.Json.Shape

/-!
# Values come back

Compact text that is read gives back the value that was written, as far as the reader can
tell: the value nests no deeper than the reader goes, its objects list their members by
name, and its numbers come back.  A record that is read straight from the text has its
known members come back, and the others are skipped, as all can be that can be read.
-/

namespace Dialogue

namespace Json

/-- The values that nest at most so deep, list the members of objects by name, and have
only numbers that come back. -/
inductive Readable : Nat → Json → Prop where
  | null {depth : Nat} : Readable depth .null
  | bool {depth : Nat} (flag : Bool) : Readable depth (.bool flag)
  | number {depth : Nat} {number : Number} (comesBack : number.ComesBack) :
      Readable depth (.number number)
  | string {depth : Nat} (text : String) : Readable depth (.string text)
  | array {depth : Nat} {items : List Json} (each : ∀ item ∈ items, Readable depth item) :
      Readable (depth + 1) (.array items)
  | object {depth : Nat} {members : Entries Json} (sorted : members.Sorted)
      (each : ∀ member ∈ members, Readable depth member.2) :
      Readable (depth + 1) (.object members)

theorem Readable.ofMembers {depth : Nat} {pairs : List (String × Json)}
    (each : ∀ pair ∈ pairs, Readable depth pair.2) : Readable (depth + 1) (ofMembers pairs) :=
  .object (Entries.sorted_ofList pairs) fun pair member =>
    each pair (Entries.mem_of_mem_ofList member)

/-! ## Skipping -/

section Skipping

variable {chars rest : List Char}

theorem skipNumber_of_readNumber {number : Number}
    (isRead : readNumber chars = some (number, rest)) : skipNumber chars = some rest := by
  simp only [readNumber, Option.bind_eq_bind, Option.bind_eq_some_iff, Option.pure_def] at isRead
  obtain ⟨⟨parts, left⟩, isParts, _, _, same⟩ := isRead
  cases same
  rw [skipNumber, isParts, Option.map_some]

/-- A string that is read can be skipped. -/
theorem skipChars_of_readChars {read : List Char} {text : String}
    (isRead : readChars read chars = some (text, rest)) : skipChars chars = some rest := by
  fun_induction readChars read chars <;> simp_all [skipChars]

section

variable {collect : List (String × Json) → Json} {fuel : Nat}
  (values : ∀ {depth chars value rest}, readValue collect fuel depth chars = some (value, rest) →
    skipValue fuel chars = some rest)

include values

theorem skipItems_of_readItems_succ
    (items : ∀ {depth read chars value rest},
      readItems collect fuel depth read chars = some (value, rest) →
        skipItems fuel chars = some rest)
    {depth : Nat} {read : List Json} {value : Json}
    (isRead : readItems collect (fuel + 1) depth read chars = some (value, rest)) :
    skipItems (fuel + 1) chars = some rest := by
  rw [readItems] at isRead
  rw [skipItems]
  split at isRead
  · cases isRead
  · rename_i isItem
    rw [values isItem]
    dsimp only
    generalize skipBlanks _ = text at isRead ⊢
    split at isRead
    · exact items isRead
    · cases isRead
      rfl
    · cases isRead

theorem skipMembers_of_readMembers_succ
    (members : ∀ {depth read chars value rest},
      readMembers collect fuel depth read chars = some (value, rest) →
        skipMembers fuel chars = some rest)
    {depth : Nat} {read : List (String × Json)} {value : Json}
    (isRead : readMembers collect (fuel + 1) depth read chars = some (value, rest)) :
    skipMembers (fuel + 1) chars = some rest := by
  rw [readMembers] at isRead
  rw [skipMembers]
  generalize skipBlanks chars = text at isRead ⊢
  split at isRead
  · split at isRead
    · cases isRead
    · rename_i isName
      simp only [skipChars_of_readChars isName]
      generalize skipBlanks _ = text at isRead ⊢
      split at isRead
      · split at isRead
        · cases isRead
        · rename_i isValue
          simp only [values isValue]
          generalize skipBlanks _ = text at isRead ⊢
          split at isRead
          · exact members isRead
          · cases isRead
            rfl
          · cases isRead
      · cases isRead
  · cases isRead

end

/-- What is read can be skipped in as many steps. -/
theorem skip_of_read (collect : List (String × Json) → Json) (fuel : Nat) :
    (∀ {depth chars value rest}, readValue collect fuel depth chars = some (value, rest) →
      skipValue fuel chars = some rest) ∧
    (∀ {depth read chars value rest},
      readItems collect fuel depth read chars = some (value, rest) →
        skipItems fuel chars = some rest) ∧
    ∀ {depth read chars value rest},
      readMembers collect fuel depth read chars = some (value, rest) →
        skipMembers fuel chars = some rest := by
  induction fuel with
  | zero => simp [readValue, readItems, readMembers]
  | succ fuel ih =>
      obtain ⟨values, items, members⟩ := ih
      refine ⟨?_, skipItems_of_readItems_succ values items,
        skipMembers_of_readMembers_succ values members⟩
      intro depth chars value rest isRead
      unfold readValue at isRead
      split at isRead
      · cases isRead
        rw [skipValue]
      · cases isRead
        rw [skipValue]
      · cases isRead
        rw [skipValue]
      · obtain ⟨⟨text, left⟩, isText, same⟩ := Option.map_eq_some_iff.mp isRead
        cases same
        rw [skipValue]
        exact skipChars_of_readChars isText
      · cases depth with
        | zero => cases isRead
        | succ depth =>
            rw [skipValue]
            dsimp only at isRead
            generalize skipBlanks _ = text at isRead ⊢
            split at isRead
            · cases isRead
              rfl
            · have later := items isRead
              grind
      · cases depth with
        | zero => cases isRead
        | succ depth =>
            rw [skipValue]
            dsimp only at isRead
            generalize skipBlanks _ = text at isRead ⊢
            split at isRead
            · cases isRead
              rfl
            · have later := members isRead
              grind
      · obtain ⟨⟨number, left⟩, isNumber, same⟩ := Option.map_eq_some_iff.mp isRead
        cases same
        rw [skipValue]
        · exact skipNumber_of_readNumber isNumber
        all_goals assumption

end Skipping

/-! ## Tokens -/

theorem lt_length_writeString (text : String) (rest : List Char) :
    rest.length < (writeString text rest).length := by
  have grows : ∀ chars : List Char, rest.length < (writeChars chars rest).length := by
    intro chars
    induction chars with
    | nil => simp [writeChars]
    | cons char chars ih =>
        rw [writeChars, List.length_append]
        omega
  rw [writeString, List.length_cons]
  exact (grows text.toList).trans (Nat.lt_succ_self _)

mutual

/-- A value takes up room. -/
theorem lt_length_write : ∀ (value : Json) (rest : List Char),
    rest.length < (write value rest).length
  | .null, rest => by
      simp only [write, List.length_cons]
      omega
  | .bool true, rest => by
      simp only [write, List.length_cons]
      omega
  | .bool false, rest => by
      simp only [write, List.length_cons]
      omega
  | .number value, rest => by
      obtain ⟨char, more, isText, -⟩ := value.exists_start
      simp only [write, isText, List.length_append, List.length_cons]
      omega
  | .string text, rest => lt_length_writeString text rest
  | .array [], rest => by
      simp only [write, List.length_cons]
      omega
  | .array (item :: items), rest => by
      have first := lt_length_write item (writeItems items rest)
      have later := lt_length_writeItems items rest
      rw [write, List.length_cons]
      omega
  | .object [], rest => by
      simp only [write, List.length_cons]
      omega
  | .object ((name, value) :: members), rest => by
      have first := lt_length_write value (writeMembers members rest)
      have later := lt_length_writeMembers members rest
      have named := lt_length_writeString name (':' :: write value (writeMembers members rest))
      rw [List.length_cons] at named
      rw [write, List.length_cons]
      omega

theorem lt_length_writeItems : ∀ (items : List Json) (rest : List Char),
    rest.length < (writeItems items rest).length
  | [], rest => by simp [writeItems]
  | item :: items, rest => by
      have first := lt_length_write item (writeItems items rest)
      have later := lt_length_writeItems items rest
      rw [writeItems, List.length_cons]
      omega

theorem lt_length_writeMembers : ∀ (members : List (String × Json)) (rest : List Char),
    rest.length < (writeMembers members rest).length
  | [], rest => by simp [writeMembers]
  | (name, value) :: members, rest => by
      have first := lt_length_write value (writeMembers members rest)
      have later := lt_length_writeMembers members rest
      have named := lt_length_writeString name (':' :: write value (writeMembers members rest))
      rw [List.length_cons] at named
      rw [writeMembers, List.length_cons]
      omega

end

/-- No blanks stand before a value. -/
@[simp]
theorem skipBlanks_write (value : Json) (rest : List Char) :
    skipBlanks (write value rest) = write value rest := by
  obtain ⟨char, more, isText, isStart⟩ := value.exists_start rest
  have notBlank : isBlank char = false := by
    by_contra blank
    rw [Bool.not_eq_false, isBlank] at blank
    simp only [Bool.or_eq_true, beq_iff_eq] at blank
    rcases blank with ((rfl | rfl) | rfl) | rfl <;> cases isStart
  rw [isText, skipBlanks, List.dropWhile_cons_of_neg (by simp [notBlank])]

theorem skipBlanks_cons {char : Char} (token : isBlank char = false) (more : List Char) :
    skipBlanks (char :: more) = char :: more :=
  List.dropWhile_cons_of_neg (by simp [token])

/-! ## Values -/

section

variable (collect : List (String × Json) → Json)

/-- The reader takes a value off a text in which nothing goes on with it. -/
def ComesBack (depth : Nat) (value : Json) : Prop :=
  ∀ {fuel : Nat} {rest : List Char}, StartsWithout Numeral.continues rest →
    2 * (write value rest).length ≤ fuel →
      readValue collect fuel depth (write value rest) = some (value, rest)

variable {collect}

theorem startsWithout_cons {test : Char → Bool} {char : Char} (fails : test char = false)
    (more : List Char) : StartsWithout test (char :: more) := by
  rintro _ ⟨⟩
  exact fails

/-- The reader takes the rest of a row of items off a text. -/
theorem readItems_write {depth : Nat} {items : List Json} :
    ∀ {item : Json} {read : List Json} {fuel : Nat} {rest : List Char},
      ComesBack collect depth item → (∀ item ∈ items, ComesBack collect depth item) →
      2 * (write item (writeItems items rest)).length < fuel →
        readItems collect fuel depth read (write item (writeItems items rest)) =
          some (.array (read.reverse ++ item :: items), rest) := by
  induction items with
  | nil =>
      intro item read fuel rest first _ enough
      obtain ⟨fuel, rfl⟩ := Nat.exists_eq_succ_of_ne_zero (Nat.ne_zero_of_lt enough)
      rw [writeItems] at enough ⊢
      rw [readItems, skipBlanks_write, first (startsWithout_cons rfl _) (by omega)]
      simp [skipBlanks_cons (show isBlank ']' = false from rfl)]
  | cons next items ih =>
      intro item read fuel rest first each enough
      obtain ⟨fuel, rfl⟩ := Nat.exists_eq_succ_of_ne_zero (Nat.ne_zero_of_lt enough)
      rw [writeItems] at enough ⊢
      have shorter := lt_length_write item (',' :: write next (writeItems items rest))
      rw [List.length_cons] at shorter
      have later : readItems collect fuel depth (item :: read)
          (write next (writeItems items rest)) =
            some (.array ((item :: read).reverse ++ next :: items), rest) :=
        ih (each next List.mem_cons_self)
          (fun item member => each item (List.mem_cons_of_mem _ member)) (by omega)
      rw [readItems, skipBlanks_write, first (startsWithout_cons rfl _) (by omega)]
      simp [skipBlanks_cons (show isBlank ',' = false from rfl), later]

/-- The reader takes a member off a text that another one follows. -/
theorem readMembers_next {depth fuel : Nat} {name : String} {value : Json}
    {read : List (String × Json)} {rest : List Char} (first : ComesBack collect depth value)
    (enough : 2 * (write value (',' :: rest)).length ≤ fuel) :
    readMembers collect (fuel + 1) depth read
        (writeString name (':' :: write value (',' :: rest))) =
      readMembers collect fuel depth ((name, value) :: read) rest := by
  rw [readMembers, writeString, skipBlanks_cons rfl]
  simp [readChars_writeChars, skipBlanks_cons (show isBlank ':' = false from rfl),
    skipBlanks_cons (show isBlank ',' = false from rfl), first (startsWithout_cons rfl _) enough]

/-- The reader takes the last of a row of members off a text. -/
theorem readMembers_last {depth fuel : Nat} {name : String} {value : Json}
    {read : List (String × Json)} {rest : List Char} (first : ComesBack collect depth value)
    (enough : 2 * (write value ('}' :: rest)).length ≤ fuel) :
    readMembers collect (fuel + 1) depth read
        (writeString name (':' :: write value ('}' :: rest))) =
      some (collect ((name, value) :: read).reverse, rest) := by
  rw [readMembers, writeString, skipBlanks_cons rfl]
  simp [readChars_writeChars, skipBlanks_cons (show isBlank ':' = false from rfl),
    skipBlanks_cons (show isBlank '}' = false from rfl), first (startsWithout_cons rfl _) enough]

/-- The reader takes a row of members off a text. -/
theorem readMembers_write {depth : Nat} {members : List (String × Json)} :
    ∀ {name : String} {value : Json} {read : List (String × Json)} {fuel : Nat} {rest : List Char},
      ComesBack collect depth value → (∀ member ∈ members, ComesBack collect depth member.2) →
      2 * (writeString name (':' :: write value (writeMembers members rest))).length ≤ fuel →
        readMembers collect fuel depth read
            (writeString name (':' :: write value (writeMembers members rest))) =
          some (collect (read.reverse ++ (name, value) :: members), rest) := by
  induction members with
  | nil =>
      intro name value read fuel rest first _ enough
      rw [writeMembers] at enough ⊢
      have named := lt_length_writeString name (':' :: write value ('}' :: rest))
      rw [List.length_cons] at named
      obtain ⟨fuel, rfl⟩ := Nat.exists_eq_succ_of_ne_zero (show fuel ≠ 0 by omega)
      rw [readMembers_last first (by omega), List.reverse_cons]
  | cons next members ih =>
      obtain ⟨nextName, nextValue⟩ := next
      intro name value read fuel rest first each enough
      rw [writeMembers] at enough ⊢
      have named := lt_length_writeString name
        (':' :: write value (',' :: writeString nextName
          (':' :: write nextValue (writeMembers members rest))))
      have shorter := lt_length_write value (',' :: writeString nextName
          (':' :: write nextValue (writeMembers members rest)))
      rw [List.length_cons] at named shorter
      obtain ⟨fuel, rfl⟩ := Nat.exists_eq_succ_of_ne_zero (show fuel ≠ 0 by omega)
      have later : readMembers collect fuel depth ((name, value) :: read)
          (writeString nextName (':' :: write nextValue (writeMembers members rest))) =
            some (collect (((name, value) :: read).reverse ++ (nextName, nextValue) :: members),
              rest) :=
        ih (each _ List.mem_cons_self)
          (fun member isMember => each member (List.mem_cons_of_mem _ isMember)) (by omega)
      rw [readMembers_next first (by omega), later]
      simp

/-- There is a step left for every value. -/
theorem comesBack_of_succ {depth : Nat} {value : Json}
    (reads : ∀ {fuel : Nat} {rest : List Char}, StartsWithout Numeral.continues rest →
      2 * (write value rest).length ≤ fuel + 1 →
        readValue collect (fuel + 1) depth (write value rest) = some (value, rest)) :
    ComesBack collect depth value := by
  intro fuel rest stops enough
  have room := lt_length_write value rest
  obtain ⟨fuel, rfl⟩ := Nat.exists_eq_succ_of_ne_zero (show fuel ≠ 0 by omega)
  exact reads stops enough

theorem comesBack_number {depth : Nat} {number : Number} (comesBack : number.ComesBack) :
    ComesBack collect depth (.number number) := by
  apply comesBack_of_succ
  intro fuel rest stops _
  obtain ⟨char, more, isText, isStart⟩ := number.exists_start
  have isNumber := readNumber_text comesBack stops
  rw [write]
  rw [isText, List.cons_append] at isNumber ⊢
  unfold readValue
  -- No other value starts like a number.
  split
  all_goals first
    | rw [isNumber]
      rfl
    | rename_i same
      obtain ⟨rfl, _⟩ := List.cons.inj same
      exact absurd isStart (by decide)

/-- A reader that leaves members in order as they are takes every readable value off a
text. -/
theorem comesBack_of_readable
    (keeps : ∀ members : Entries Json, members.Sorted → collect members = .object members)
    {depth : Nat} {value : Json} (readable : Readable depth value) :
    ComesBack collect depth value := by
  induction readable with
  | null =>
      apply comesBack_of_succ
      intro fuel rest _ _
      rw [write, readValue]
  | bool flag =>
      apply comesBack_of_succ
      intro fuel rest _ _
      cases flag <;> rw [write, readValue]
  | string text =>
      apply comesBack_of_succ
      intro fuel rest _ _
      simp [write, writeString, readValue, readChars_writeChars]
  | number comesBack => exact comesBack_number comesBack
  | @array depth items each ih =>
      apply comesBack_of_succ
      intro fuel rest _ enough
      cases items with
      | nil => simp [write, readValue, skipBlanks_cons (show isBlank ']' = false from rfl)]
      | cons item items =>
          obtain ⟨first, later⟩ := List.forall_mem_cons.mp ih
          rw [write] at enough ⊢
          rw [List.length_cons] at enough
          have row : readItems collect fuel depth [] (write item (writeItems items rest)) =
              some (.array (item :: items), rest) := readItems_write first later (by omega)
          rw [readValue, skipBlanks_write]
          split
          · rename_i closed
            exact absurd closed (write_ne_closing _ _ _)
          · exact row
  | @object depth members sorted each ih =>
      apply comesBack_of_succ
      intro fuel rest _ enough
      cases members with
      | nil =>
          simp [write, readValue, skipBlanks_cons (show isBlank '}' = false from rfl),
            keeps [] sorted]
      | cons member members =>
          obtain ⟨name, value⟩ := member
          obtain ⟨first, later⟩ := List.forall_mem_cons.mp ih
          rw [write] at enough ⊢
          rw [List.length_cons] at enough
          have row : readMembers collect fuel depth []
              (writeString name (':' :: write value (writeMembers members rest))) =
                some (collect ((name, value) :: members), rest) :=
            readMembers_write first later (by omega)
          rw [readValue, writeString, skipBlanks_cons rfl, ← keeps _ sorted]
          exact row

end

/-! ## Records -/

section

variable {collect : List (String × Json) → Json} (names : List String)

/-- Puts a member to those that were read, in reverse, if its name is known. -/
def keep (read : Entries Json) (member : String × Json) : Entries Json :=
  if names.contains member.1 then member :: read else read

variable {names}

theorem reverse_foldl_keep (members read : Entries Json) :
    (members.foldl (keep names) read).reverse =
      read.reverse ++ members.filter fun member => names.contains member.1 := by
  induction members generalizing read with
  | nil => simp
  | cons member members ih =>
      rw [List.foldl_cons, ih]
      by_cases known : member.1 ∈ names <;> simp [keep, known]

theorem find?_keep_of_ne {read : Entries Json} {member : String × Json} {name : String}
    (differ : member.1 ≠ name) (fresh : read.find? name = none) :
    (keep names read member).find? name = none := by
  unfold keep
  split
  · rw [Entries.find?_cons, if_neg differ, fresh]
  · exact fresh

theorem readMember_write {name : String} {value : Json} {more : List Char} {read : Entries Json}
    {bound : Nat} (comesBack : ComesBack collect (depthLimit - 1) value)
    (stops : StartsWithout Numeral.continues more)
    (enough : 2 * (write value more).length ≤ bound) (fresh : read.find? name = none) :
    readMember collect names bound read name (write value more) =
      some (keep names read (name, value), more) := by
  have isRead := comesBack stops enough
  unfold readMember keep
  by_cases known : names.contains name = true
  · rw [if_pos known, if_pos known, fresh, isRead]
    rfl
  · rw [if_neg known, if_neg known, (skip_of_read collect bound).1 isRead]
    rfl

theorem readRecord_next {name : String} {value : Json} {rest : List Char} {read : Entries Json}
    {bound fuel : Nat} (comesBack : ComesBack collect (depthLimit - 1) value)
    (enough : 2 * (write value (',' :: rest)).length ≤ bound) (fresh : read.find? name = none) :
    readRecord collect names bound (fuel + 1) read
        (writeString name (':' :: write value (',' :: rest))) =
      readRecord collect names bound fuel (keep names read (name, value)) rest := by
  rw [readRecord, writeString, skipBlanks_cons rfl]
  simp [readChars_writeChars, skipBlanks_cons (show isBlank ':' = false from rfl),
    skipBlanks_cons (show isBlank ',' = false from rfl),
    readMember_write comesBack (startsWithout_cons rfl _) enough fresh]

theorem readRecord_last {name : String} {value : Json} {rest : List Char} {read : Entries Json}
    {bound fuel : Nat} (comesBack : ComesBack collect (depthLimit - 1) value)
    (enough : 2 * (write value ('}' :: rest)).length ≤ bound) (fresh : read.find? name = none) :
    readRecord collect names bound (fuel + 1) read
        (writeString name (':' :: write value ('}' :: rest))) =
      some ((keep names read (name, value)).reverse, rest) := by
  rw [readRecord, writeString, skipBlanks_cons rfl]
  simp [readChars_writeChars, skipBlanks_cons (show isBlank ':' = false from rfl),
    skipBlanks_cons (show isBlank '}' = false from rfl),
    readMember_write comesBack (startsWithout_cons rfl _) enough fresh]

/-- The reader of records takes a row of members off a text and keeps the known ones. -/
theorem readRecord_write {bound : Nat} {members : Entries Json} :
    ∀ {name : String} {value : Json} {read : Entries Json} {fuel : Nat} {rest : List Char},
      ComesBack collect (depthLimit - 1) value →
      (∀ member ∈ members, ComesBack collect (depthLimit - 1) member.2) →
      (((name, value) :: members).map Prod.fst).Nodup →
      (∀ member ∈ (name, value) :: members, read.find? member.1 = none) →
      2 * (writeString name (':' :: write value (writeMembers members rest))).length ≤ bound →
      2 * (writeString name (':' :: write value (writeMembers members rest))).length ≤ fuel →
        readRecord collect names bound fuel read
            (writeString name (':' :: write value (writeMembers members rest))) =
          some ((((name, value) :: members).foldl (keep names) read).reverse, rest) := by
  induction members with
  | nil =>
      intro name value read fuel rest first _ _ fresh withinBound enough
      rw [writeMembers] at withinBound enough ⊢
      have named := lt_length_writeString name (':' :: write value ('}' :: rest))
      rw [List.length_cons] at named
      obtain ⟨fuel, rfl⟩ := Nat.exists_eq_succ_of_ne_zero (show fuel ≠ 0 by omega)
      exact readRecord_last first (by omega) (fresh _ List.mem_cons_self)
  | cons next members ih =>
      obtain ⟨nextName, nextValue⟩ := next
      intro name value read fuel rest first each nodup fresh withinBound enough
      rw [writeMembers] at withinBound enough ⊢
      have named := lt_length_writeString name
        (':' :: write value (',' :: writeString nextName
          (':' :: write nextValue (writeMembers members rest))))
      have shorter := lt_length_write value (',' :: writeString nextName
          (':' :: write nextValue (writeMembers members rest)))
      rw [List.length_cons] at named shorter
      obtain ⟨fuel, rfl⟩ := Nat.exists_eq_succ_of_ne_zero (show fuel ≠ 0 by omega)
      rw [List.map_cons, List.nodup_cons] at nodup
      obtain ⟨firstFresh, laterFresh⟩ := List.forall_mem_cons.mp fresh
      have stillFresh : ∀ member ∈ (nextName, nextValue) :: members,
          (keep names read (name, value)).find? member.1 = none := by
        intro member isMember
        apply find?_keep_of_ne _ (laterFresh member isMember)
        intro same
        exact nodup.1 (same ▸ List.mem_map_of_mem isMember)
      obtain ⟨second, later⟩ := List.forall_mem_cons.mp each
      rw [readRecord_next first (by omega) firstFresh, List.foldl_cons]
      exact ih second later nodup.2 stillFresh (by omega) (by omega)

theorem parseWith?_compact {value : Json} (comesBack : ComesBack collect depthLimit value) :
    parseWith? collect value.compact = some value := by
  have nothing : StartsWithout Numeral.continues [] := fun char starts => nomatch starts
  unfold parseWith? compact
  simp only [String.toList_ofList, skipBlanks_write]
  rw [comesBack nothing (by omega)]
  rfl

/-- A value that is no object is read as a whole. -/
theorem recordOfText?_of_kind {value : Json} (noObject : value.kind ≠ .object)
    (comesBack : ComesBack collect depthLimit value) :
    recordOfText? collect names value.compact = value.record? names := by
  have whole := parseWith?_compact comesBack
  obtain ⟨char, more, isText, isStart⟩ := value.exists_start []
  unfold recordOfText?
  rw [whole]
  unfold compact
  simp only [String.toList_ofList, skipBlanks_write]
  rw [isText]
  split
  · rename_i opened
    obtain ⟨rfl, _⟩ := List.cons.inj opened
    exact absurd (Option.some.inj isStart).symm noObject
  · rfl

/-- The members of an object come back after its brace if their names are known. -/
theorem readKnown_write
    (keeps : ∀ members : Entries Json, members.Sorted → collect members = .object members)
    {members : Entries Json} (readable : Readable depthLimit (.object members)) {more : List Char}
    (isText : write (.object members) [] = '{' :: more) {bound : Nat}
    (enough : 2 * more.length ≤ bound) :
    readKnown collect names bound more =
      some (members.filter fun member => names.contains member.1, []) := by
  cases readable with
  | object sorted each =>
      have comeBack : ∀ member ∈ members, ComesBack collect (depthLimit - 1) member.2 :=
        fun member isMember => comesBack_of_readable keeps (each member isMember)
      cases members with
      | nil =>
          obtain rfl : ['}'] = more := (List.cons.inj isText).2
          rfl
      | cons member members =>
          obtain ⟨name, value⟩ := member
          obtain ⟨first, later⟩ := List.forall_mem_cons.mp comeBack
          obtain rfl : writeString name (':' :: write value (writeMembers members [])) = more :=
            (List.cons.inj isText).2
          have row : readRecord collect names bound bound []
              (writeString name (':' :: write value (writeMembers members []))) =
                some ((((name, value) :: members).foldl (keep names) []).reverse, []) :=
            readRecord_write first later sorted.nodup (fun _ _ => Entries.find?_nil _) enough enough
          rw [reverse_foldl_keep, List.reverse_nil, List.nil_append] at row
          rw [readKnown, writeString, skipBlanks_cons rfl]
          exact row

theorem exists_write_object (members : Entries Json) :
    ∃ more, write (.object members) [] = '{' :: more := by
  cases members with
  | nil => exact ⟨_, rfl⟩
  | cons member members => exact ⟨_, rfl⟩

/-- A record comes back from its text with the members whose names are known. -/
theorem recordOfText?_compact
    (keeps : ∀ members : Entries Json, members.Sorted → collect members = .object members)
    {value : Json} (readable : Readable depthLimit value) :
    recordOfText? collect names value.compact =
      (value.record? names).map fun members =>
        members.filter fun member => names.contains member.1 := by
  have whole : ComesBack collect depthLimit value := comesBack_of_readable keeps readable
  cases value with
  | object members =>
      obtain ⟨more, isText⟩ := exists_write_object members
      have room : 2 * more.length ≤ 2 * ('{' :: more).length + 2 := by
        rw [List.length_cons]
        omega
      have known : readKnown collect names (2 * ('{' :: more).length + 2) more =
          some (members.filter fun member => names.contains member.1, []) :=
        readKnown_write keeps readable isText room
      unfold recordOfText? compact
      simp only [String.toList_ofList, isText, skipBlanks_cons (show isBlank '{' = false from rfl),
        known]
      rfl
  | array items =>
      rw [recordOfText?_of_kind (by nofun) whole, record?]
      split
      · have known : ∀ member ∈ names.zip items, names.contains member.1 = true := by
          intro member isMember
          simpa using (List.of_mem_zip isMember).1
        rw [Option.map_some, List.filter_eq_self.mpr known]
      · rfl
  | _ => exact recordOfText?_of_kind (by nofun) whole

end

end Json

end Dialogue
