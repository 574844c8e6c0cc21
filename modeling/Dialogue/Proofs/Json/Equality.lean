import Dialogue.Json.Basic

/-!
# Equal values

Values are compared part by part, and floating-point numbers by what they stand for.  So two
values are equal exactly if they are the same up to the signs of zeros.
-/

namespace Dialogue

namespace Binary64

/-- The number, or the positive zero for both zeros. -/
def plainZero (number : Binary64) : Binary64 :=
  if number.mantissa = 0 then zero false else number

theorem plainZero_ne_zero {number : Binary64} (notZero : number.mantissa ≠ 0) :
    number ≠ zero false := by
  rintro rfl
  exact notZero rfl

theorem same_iff {left right : Binary64} :
    left.same right = true ↔ left.plainZero = right.plainZero := by
  unfold same isZero plainZero
  rw [Bool.or_eq_true, Bool.and_eq_true, beq_iff_eq, beq_iff_eq, beq_iff_eq]
  by_cases leftZero : left.mantissa = 0
  · by_cases rightZero : right.mantissa = 0
    · simp only [leftZero, rightZero, and_self, or_true, ite_true]
    · have differ : left ≠ right := by
        rintro rfl
        exact rightZero leftZero
      simp [leftZero, rightZero, differ, (plainZero_ne_zero rightZero).symm]
  · by_cases rightZero : right.mantissa = 0
    · have differ : left ≠ right := by
        rintro rfl
        exact leftZero rightZero
      simp [leftZero, rightZero, differ, plainZero_ne_zero leftZero]
    · simp only [leftZero, rightZero, and_self, or_false, ite_false]

end Binary64

namespace Number

/-- The number, or the positive zero for both floating-point zeros. -/
def plainZero : Number → Number
  | .int value => .int value
  | .float value => .float value.plainZero

theorem same_iff {left right : Number} :
    left.same right = true ↔ left.plainZero = right.plainZero := by
  cases left <;> cases right <;> simp [same, plainZero, Binary64.same_iff]

end Number

namespace Json

mutual

/-- The value without the signs of its zeros. -/
def plainZeros : Json → Json
  | .null => .null
  | .bool value => .bool value
  | .number value => .number value.plainZero
  | .string text => .string text
  | .array items => .array (plainZerosOfItems items)
  | .object members => .object (plainZerosOfMembers members)

/-- The items without the signs of their zeros. -/
def plainZerosOfItems : List Json → List Json
  | [] => []
  | item :: items => plainZeros item :: plainZerosOfItems items

/-- The members without the signs of their zeros. -/
def plainZerosOfMembers : List (String × Json) → List (String × Json)
  | [] => []
  | (name, value) :: members => (name, plainZeros value) :: plainZerosOfMembers members

end

mutual

/-- Equal values differ in the signs of zeros at most. -/
theorem same_iff : ∀ {left right : Json},
    left.same right = true ↔ left.plainZeros = right.plainZeros
  | .null, right => by cases right <;> simp [same, plainZeros]
  | .bool value, right => by cases right <;> simp [same, plainZeros]
  | .number value, right => by cases right <;> simp [same, plainZeros, Number.same_iff]
  | .string text, right => by cases right <;> simp [same, plainZeros]
  | .array items, right => by
      cases right with
      | array others => rw [same, sameItems_iff, plainZeros, plainZeros, Json.array.injEq]
      | _ => simp [same, plainZeros]
  | .object members, right => by
      cases right with
      | object others => rw [same, sameMembers_iff, plainZeros, plainZeros, Json.object.injEq]
      | _ => simp [same, plainZeros]

theorem sameItems_iff : ∀ {left right : List Json},
    sameItems left right = true ↔ plainZerosOfItems left = plainZerosOfItems right
  | [], right => by cases right <;> simp [sameItems, plainZerosOfItems]
  | left :: lefts, right => by
      cases right with
      | nil => simp [sameItems, plainZerosOfItems]
      | cons right rights =>
          rw [sameItems, Bool.and_eq_true, same_iff, sameItems_iff, plainZerosOfItems,
            plainZerosOfItems, List.cons.injEq]

theorem sameMembers_iff : ∀ {left right : List (String × Json)},
    sameMembers left right = true ↔ plainZerosOfMembers left = plainZerosOfMembers right
  | [], right => by cases right <;> simp [sameMembers, plainZerosOfMembers]
  | (name, left) :: lefts, right => by
      cases right with
      | nil => simp [sameMembers, plainZerosOfMembers]
      | cons member rights =>
          obtain ⟨other, right⟩ := member
          rw [sameMembers, Bool.and_eq_true, Bool.and_eq_true, beq_iff_eq, same_iff,
            sameMembers_iff, plainZerosOfMembers, plainZerosOfMembers, List.cons.injEq,
            Prod.mk.injEq]

end

theorem same_refl (value : Json) : value.same value = true :=
  same_iff.mpr rfl

end Json

end Dialogue
