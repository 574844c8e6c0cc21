import Dialogue.Proofs.Table.Lookup
import Dialogue.Story.Conflict
import Mathlib.Data.List.Induction

/-!
# Occurrences by the hash of their window

The histories seen so far hold, under each hash, the first window with that hash and
the examples of every action that was noted under it.  Noting one more occurrence
keeps this, so after all occurrences the histories say exactly which of them share a
hash.  The examples of an action are the first few different names among them.
-/

namespace Dialogue

open TurnState (fingerprint)

/-- The conversations, in order and with repetitions, of the occurrences of an action
under a hash. -/
def sendersUnder (occurrences : List Occurrence) (hash action : String) : List String :=
  (occurrences.filter fun occurrence =>
    decide (fingerprint occurrence.window = hash ∧ occurrence.action = action)).map
      Occurrence.sender

/-- The examples that these conversations make, if there are any. -/
def examplesUnder? (occurrences : List Occurrence) (hash action : String) :
    Option (List String) :=
  match sendersUnder occurrences hash action with
  | [] => none
  | senders => some (senders.foldl addExample [])

theorem examplesUnder?_eq (occurrences : List Occurrence) (hash action : String) :
    examplesUnder? occurrences hash action =
      if sendersUnder occurrences hash action = [] then none
      else some ((sendersUnder occurrences hash action).foldl addExample []) := by
  unfold examplesUnder?
  split
  · rename_i none
    rw [if_pos none]
  · rename_i some
    rw [if_neg some]

theorem examplesUnder?_getD (occurrences : List Occurrence) (hash action : String) :
    (examplesUnder? occurrences hash action).getD [] =
      (sendersUnder occurrences hash action).foldl addExample [] := by
  rw [examplesUnder?_eq]
  split
  · rename_i none
    rw [none]
    rfl
  · rfl

/-- One more occurrence counts for its own hash and action alone. -/
theorem examplesUnder?_concat (occurrences : List Occurrence) (last : Occurrence)
    (hash action : String) :
    examplesUnder? (occurrences ++ [last]) hash action =
      if fingerprint last.window = hash ∧ last.action = action then
        some (addExample ((examplesUnder? occurrences hash action).getD []) last.sender)
      else examplesUnder? occurrences hash action := by
  have senders : sendersUnder (occurrences ++ [last]) hash action =
      sendersUnder occurrences hash action ++
        if fingerprint last.window = hash ∧ last.action = action then [last.sender] else [] := by
    unfold sendersUnder
    rw [List.filter_append, List.map_append]
    congr 1
    split <;> simp [*]
  by_cases counts : fingerprint last.window = hash ∧ last.action = action
  · rw [examplesUnder?_eq, senders, if_pos counts, if_pos counts, if_neg (by simp),
      List.foldl_append, examplesUnder?_getD]
    rfl
  · rw [examplesUnder?_eq, senders, if_neg counts, if_neg counts, List.append_nil,
      ← examplesUnder?_eq]

theorem examplesUnder?_isSome_iff {occurrences : List Occurrence} {hash action : String} :
    (examplesUnder? occurrences hash action).isSome = true ↔
      ∃ occurrence ∈ occurrences,
        fingerprint occurrence.window = hash ∧ occurrence.action = action := by
  rw [examplesUnder?_eq]
  by_cases none : sendersUnder occurrences hash action = []
  · rw [if_pos none]
    simpa [sendersUnder] using none
  · rw [if_neg none]
    simpa [sendersUnder] using none

namespace Histories

theorem find?_note (histories : Histories) (occurrence : Occurrence) (hash : String) :
    (histories.note occurrence).find? hash =
      if hash = fingerprint occurrence.window then
        let (window, examples) :=
          (histories.find? hash).getD (occurrence.window, Table.empty)
        let senders :=
          addExample ((examples.find? occurrence.action).getD []) occurrence.sender
        some (window, examples.insert occurrence.action senders)
      else histories.find? hash := by
  unfold note
  rw [Table.find?_insert]
  by_cases same : hash = fingerprint occurrence.window
  · rw [if_pos same, if_pos same, same]
  · rw [if_neg same, if_neg same]

/-- The histories hold what a list of occurrences shows under each hash. -/
structure Records (histories : Histories) (occurrences : List Occurrence) : Prop where
  /-- Hashes that no occurrence has are not there. -/
  absent : ∀ {hash : String}, histories.find? hash = none →
    ∀ occurrence ∈ occurrences, fingerprint occurrence.window ≠ hash
  /-- What stands under a hash is one of its windows with the examples of every action. -/
  present : ∀ {hash : String} {window : List TurnState} {examples : Table (List String)},
    histories.find? hash = some (window, examples) →
      (∃ occurrence ∈ occurrences, occurrence.window = window ∧ fingerprint window = hash) ∧
        ∀ action, examples.find? action = examplesUnder? occurrences hash action

theorem records_empty : Records Table.empty [] where
  absent _ := by simp
  present found := by simp at found

/-- Noting one more occurrence keeps what the histories say. -/
theorem Records.note {histories : Histories} {occurrences : List Occurrence}
    (records : histories.Records occurrences) (last : Occurrence) :
    (histories.note last).Records (occurrences ++ [last]) := by
  constructor
  · intro hash missing occurrence member
    rw [find?_note] at missing
    by_cases same : hash = fingerprint last.window
    · simp [same] at missing
    · rw [if_neg same] at missing
      rcases List.mem_append.mp member with earlier | isLast
      · exact records.absent missing occurrence earlier
      · obtain rfl := List.mem_singleton.mp isLast
        exact Ne.symm same
  · intro hash window examples found
    rw [find?_note] at found
    by_cases same : hash = fingerprint last.window
    · rw [if_pos same] at found
      cases held : histories.find? hash with
      | none =>
          -- the first occurrence under its hash decides the window
          rw [held] at found
          obtain ⟨rfl, rfl⟩ := Prod.mk.inj (Option.some.inj found)
          refine ⟨⟨last, by simp, rfl, same.symm⟩, fun action => ?_⟩
          have fresh : examplesUnder? occurrences hash action = none := by
            rw [← Option.isNone_iff_eq_none, ← Option.isSome_eq_false_iff, ← Bool.not_eq_true,
              examplesUnder?_isSome_iff]
            rintro ⟨occurrence, member, isHash, _⟩
            exact records.absent held occurrence member isHash
          rw [examplesUnder?_concat, fresh, Table.find?_insert]
          by_cases acts : action = last.action
          · simp [acts, same]
          · simp [acts, Ne.symm acts]
      | some entry =>
          obtain ⟨heldWindow, heldExamples⟩ := entry
          rw [held] at found
          obtain ⟨rfl, rfl⟩ := Prod.mk.inj (Option.some.inj found)
          obtain ⟨⟨occurrence, member, isWindow, isHash⟩, examples⟩ := records.present held
          refine ⟨⟨occurrence, List.mem_append_left _ member, isWindow, isHash⟩, fun action => ?_⟩
          rw [examplesUnder?_concat, ← examples, Table.find?_insert]
          by_cases acts : action = last.action
          · simp [acts, same]
          · simp [acts, Ne.symm acts]
    · rw [if_neg same] at found
      obtain ⟨⟨occurrence, member, isWindow, isHash⟩, examples⟩ := records.present found
      refine ⟨⟨occurrence, List.mem_append_left _ member, isWindow, isHash⟩, fun action => ?_⟩
      rw [examplesUnder?_concat, if_neg fun both => same both.1.symm]
      exact examples action

/-- The histories after all occurrences hold what these show under each hash. -/
theorem records_foldl_note (occurrences : List Occurrence) :
    Records (occurrences.foldl note Table.empty) occurrences := by
  induction occurrences using List.reverseRecOn with
  | nil => exact records_empty
  | append_singleton occurrences last ih =>
      rw [List.foldl_concat]
      exact ih.note last

end Histories

/-! ## The examples of an action -/

/-- Adding names one by one keeps the first few different ones. -/
theorem foldl_addExample (senders : List String) :
    senders.foldl addExample [] = senders.eraseDups.take exampleLimit := by
  induction senders using List.reverseRecOn with
  | nil => rfl
  | append_singleton senders last ih =>
      rw [List.foldl_concat, ih, List.eraseDups_append]
      by_cases repeated : last ∈ senders
      · have removed : [last].removeAll senders = [] := by
          simp [List.removeAll, repeated]
        rw [removed, List.eraseDups_nil, List.append_nil]
        unfold addExample
        rw [if_neg]
        rintro ⟨room, fresh⟩
        rw [List.length_take] at room
        rw [List.take_of_length_le (by omega)] at fresh
        exact fresh (List.mem_eraseDups.mpr repeated)
      · have kept : ([last].removeAll senders).eraseDups = [last] := by
          simp [List.removeAll, repeated, List.eraseDups_cons]
        rw [kept]
        unfold addExample
        by_cases room : senders.eraseDups.length < exampleLimit
        · rw [List.take_of_length_le (Nat.le_of_lt room), if_pos ⟨room, by simpa using repeated⟩,
            List.take_of_length_le]
          simpa using Nat.succ_le_of_lt room
        · rw [if_neg, List.take_append_of_le_length (by omega)]
          rintro ⟨space, _⟩
          rw [List.length_take] at space
          omega

/-- A later repetition does not change which names there are, nor their order. -/
theorem eraseDups_append_cons_of_mem {name : String} {before : List String}
    (repeated : name ∈ before) (after : List String) :
    (before ++ name :: after).eraseDups = (before ++ after).eraseDups := by
  rw [List.eraseDups_append, List.eraseDups_append]
  congr 2
  simp [List.removeAll, repeated]

/-- Only the different names of what comes before matter to what comes after. -/
theorem eraseDups_append_congr {left right : List String} (same : left.eraseDups = right.eraseDups)
    (after : List String) : (left ++ after).eraseDups = (right ++ after).eraseDups := by
  have mem_iff : ∀ name, name ∈ left ↔ name ∈ right := by
    intro name
    rw [← List.mem_eraseDups, same, List.mem_eraseDups]
  rw [List.eraseDups_append, List.eraseDups_append, same]
  simp [List.removeAll, mem_iff]

/-- Several copies of a name in a row count once. -/
theorem eraseDups_append_copies {name : String} {copies : List String}
    (same : ∀ copy ∈ copies, copy = name) (before : List String) :
    (before ++ copies).eraseDups =
      (before ++ if copies.isEmpty then [] else [name]).eraseDups := by
  induction copies generalizing before with
  | nil => rfl
  | cons copy rest ih =>
      obtain rfl := same copy List.mem_cons_self
      have later := ih (fun other member => same other (List.mem_cons_of_mem copy member))
        (before ++ [copy])
      rw [List.append_assoc, List.singleton_append] at later
      rw [later]
      cases rest with
      | nil => simp
      | cons next rest =>
          have repeated : copy ∈ before ++ [copy] := by simp
          simpa using eraseDups_append_cons_of_mem repeated []

/-- Items that contribute copies of one name each are told apart by these names. -/
theorem eraseDups_flatMap {Item : Type} (name : Item → String) (copies : Item → List String)
    (same : ∀ item, ∀ copy ∈ copies item, copy = name item) (items : List Item) :
    (items.flatMap copies).eraseDups =
      ((items.filter fun item => !(copies item).isEmpty).map name).eraseDups := by
  induction items using List.reverseRecOn with
  | nil => rfl
  | append_singleton items last ih =>
      rw [List.flatMap_append, List.flatMap_singleton, eraseDups_append_copies (same last),
        eraseDups_append_congr ih, List.filter_append, List.map_append]
      cases empty : (copies last).isEmpty with
      | true => simp [empty]
      | false => simp [empty]

end Dialogue
