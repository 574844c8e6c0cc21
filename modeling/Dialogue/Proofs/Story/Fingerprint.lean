import Dialogue.Proofs.Json.Compact
import Dialogue.Proofs.Json.Equality
import Dialogue.Proofs.Table.Lookup
import Dialogue.Story.TurnState
import Mathlib.Data.Set.Function

/-!
# The hashed text identifies the turns

Histories are compared by the hash of their text.  This text tells them apart: the members
of a turn state determine it, and different values have different texts, also as the texts
that are kept for the slots.  So two histories have one hash only if the digest has one
value for two different texts.
-/

namespace Dialogue

/-! ## Bytes -/

theorem byteArray_toList_loop (bytes : ByteArray) (place : Nat) (read : List UInt8) :
    ByteArray.toList.loop bytes place read = read.reverse ++ bytes.data.toList.drop place := by
  fun_induction ByteArray.toList.loop bytes place read with
  | case1 place read inside ih =>
      have byte : bytes.get! place = bytes.data.toList[place] :=
        getElem!_pos bytes.data place inside
      rw [ih, List.drop_eq_getElem_cons inside, byte]
      simp
  | case2 place read outside =>
      rw [List.drop_eq_nil_of_le (Nat.not_lt.mp outside), List.append_nil]

/-- A text is determined by its bytes. -/
theorem utf8Bytes_injective : Function.Injective fun text : String => text.toUTF8.toList := by
  intro left right same
  have listed : ∀ bytes : ByteArray, bytes.toList = bytes.data.toList := fun bytes =>
    byteArray_toList_loop bytes 0 []
  simp only [listed] at same
  exact String.toByteArray_inj.mp (ByteArray.ext (Array.toList_inj.mp same))

/-! ## Members -/

namespace Json

theorem ofString?_injective : Function.Injective ofString? := by
  intro left right same
  cases left <;> cases right <;> simp_all [ofString?]

/-- A table of texts is determined by the object of these texts. -/
theorem ofTable_map_string_injective : Function.Injective fun texts : Table String =>
    ofTable (texts.map fun _ text => .string text) := by
  intro left right same
  apply Table.ext_find?
  intro name
  have strings : ∀ texts : Table String,
      Entries.find? name (texts.map fun _ text => Json.string text).entries =
        (texts.find? name).map Json.string := fun texts => Table.find?_map _ texts name
  have found := congrArg (Entries.find? name) (Json.object.inj same)
  rw [strings, strings] at found
  exact Option.map_injective (fun _ _ => Json.string.inj) found

end Json

namespace TurnState

/-- A turn state is determined by the members that are hashed. -/
theorem members_injective : Function.Injective members := by
  intro left right same
  obtain ⟨leftAction, leftIntent, leftSlots, leftLoop⟩ := left
  obtain ⟨rightAction, rightIntent, rightSlots, rightLoop⟩ := right
  simp only [members, List.cons.injEq, Prod.mk.injEq, true_and, and_true] at same
  obtain ⟨actions, intents, slots, loops⟩ := same
  rw [Json.ofString?_injective actions, Json.ofString?_injective intents,
    Json.ofTable_map_string_injective slots, Json.ofString?_injective loops]

/-! ## Texts -/

/-- Different histories have different texts. -/
theorem canonicalText_injective : Function.Injective canonicalText := by
  intro left right same
  have objects : Function.Injective fun state : TurnState => Json.object state.members :=
    fun _ _ same => members_injective (Json.object.inj same)
  exact List.map_injective_iff.mpr objects (Json.array.inj (Json.compact_injective same))

/-- Where the digest tells the texts of some histories apart, their hashes differ. -/
theorem fingerprint_injOn {histories : Set (List TurnState)}
    (collisionFree : Set.InjOn Sha256.hexDigest
      ((fun states => (canonicalText states).toUTF8.toList) '' histories)) :
    Set.InjOn fingerprint histories := by
  intro left leftMember right rightMember same
  have bytes := collisionFree (Set.mem_image_of_mem _ leftMember)
    (Set.mem_image_of_mem _ rightMember) same
  exact canonicalText_injective (utf8Bytes_injective bytes)

/-- The text kept for a slot is that of its value, if the slot is set and counts. -/
theorem find?_slots_ofTracker {tracker : Tracker} {domain : Domain} {name text : String} :
    (ofTracker tracker domain).slots.find? name = some text ↔
      ∃ value, tracker.slot? name = some value ∧ slotCounts domain name value = true ∧
        value.compact = text := by
  unfold ofTracker Tracker.slot?
  rw [Table.find?_map, Table.find?_filter]
  simp only [Option.map_eq_some_iff, Option.filter_eq_some_iff, slotCounts, Bool.and_eq_true]
  tauto

/-- The hashed text is the same for the same histories only.  The text that a turn state
keeps for a slot is that of the value, and only one value has it. -/
theorem canonicalText_identifies :
    (∀ first second : List TurnState,
      canonicalText first = canonicalText second ↔ first = second) ∧
    (∀ (tracker : Tracker) (domain : Domain) (name text : String),
      (ofTracker tracker domain).slots.find? name = some text ↔
        ∃ value, tracker.slot? name = some value ∧ slotCounts domain name value = true ∧
          value.compact = text) ∧
    ∀ first second : Json, first.compact = second.compact →
      first = second ∧ first.same second = true := by
  refine ⟨fun first second => canonicalText_injective.eq_iff, ?_, ?_⟩
  · intro tracker domain name text
    exact find?_slots_ofTracker
  · intro first second same
    obtain rfl := Json.compact_injective same
    exact ⟨rfl, first.same_refl⟩

/-- An unknown intent is not the intent of the name `null`.  The members of an object may be
given in any order. -/
theorem canonicalText_identifies_quoted_null :
    let silent : TurnState := { prevAction := some listenAction }
    let quoted : TurnState := { prevAction := some listenAction, intent := some "null" }
    let given := Json.ofMembers [("seats", Json.ofNat 2), ("city", .string "Rome")]
    let listed := Json.object [("city", .string "Rome"), ("seats", Json.ofNat 2)]
    canonicalText [silent] ≠ canonicalText [quoted] ∧
      given.compact = listed.compact ∧ given.same listed = true := by
  intro silent quoted given listed
  obtain ⟨texts, _, values⟩ := canonicalText_identifies
  have sameText : given.compact = listed.compact := by rfl
  refine ⟨fun same => ?_, sameText, (values given listed sameText).2⟩
  exact absurd ((texts [silent] [quoted]).mp same) (by decide)

end TurnState

end Dialogue
