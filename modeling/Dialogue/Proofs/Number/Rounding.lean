import Dialogue.Number.Shortest
import Mathlib.Algebra.Field.Rat
import Mathlib.Algebra.Order.Field.Power
import Mathlib.Algebra.Order.Ring.Rat
import Mathlib.Tactic.FieldSimp
import Mathlib.Tactic.Linarith
import Mathlib.Tactic.Positivity
import Mathlib.Tactic.Ring

/-!
# Magnitudes that round to a number

Around every floating-point number lies an interval of the magnitudes that round to it.
The intervals of two numbers have no magnitude in common, so a magnitude and a sign
determine the number.  The shortest decimal of a number lies in its interval, whatever
grid it was found on.
-/

namespace Dialogue

/-- The natural power for a negative exponent turns an integral power into a natural one. -/
theorem zpow_mul_pow_toNat_neg (base : ℚ) (nonzero : base ≠ 0) (power : Int) :
    base ^ power * base ^ (-power).toNat = base ^ power.toNat := by
  rw [← zpow_natCast, ← zpow_natCast, ← zpow_add₀ nonzero]
  congr 1
  omega

namespace Decimal

/-- The number that a decimal stands for. -/
def value (decimal : Decimal) : ℚ :=
  decimal.digits * 10 ^ decimal.exponent

/-- Moving a zero from the digits into the exponent keeps the value. -/
theorem value_strip (limit : Nat) (decimal : Decimal) :
    (decimal.strip limit).value = decimal.value := by
  induction limit generalizing decimal with
  | zero => rfl
  | succ limit ih =>
      rw [strip]
      split
      · rename_i ends
        have shifted : decimal.digits = 10 * (decimal.digits / 10) := by omega
        rw [ih, value, value, zpow_add_one₀ (by decide)]
        conv_rhs => rw [shifted]
        push_cast
        ring
      · rfl

end Decimal

namespace Binary64

/-! ## The interval of a number -/

/-- A quarter of the unit in the last place. -/
def quarter (number : Binary64) : ℚ :=
  2 ^ (number.exponent - 2)

theorem quarter_pos (number : Binary64) : 0 < number.quarter :=
  zpow_pos (by decide) _

/-- Halfway to the next smaller magnitude, in quarters.  Below a power of two the gap is
half as wide. -/
def lowerEnd (number : Binary64) : Nat :=
  if number.mantissa = Nat.pow 2 52 ∧ -1074 < number.exponent then 4 * number.mantissa - 1
  else 4 * number.mantissa - 2

/-- Halfway to the next greater magnitude, in quarters. -/
def upperEnd (number : Binary64) : Nat :=
  4 * number.mantissa + 2

/-- A magnitude rounds to a number: it lies between the ends, and only an even significand
takes the ends themselves. -/
def Rounds (number : Binary64) (value : ℚ) : Prop :=
  if number.mantissa % 2 = 0 then
    number.lowerEnd * number.quarter ≤ value ∧ value ≤ number.upperEnd * number.quarter
  else
    number.lowerEnd * number.quarter < value ∧ value < number.upperEnd * number.quarter

variable {number : Binary64} {value : ℚ}

theorem Rounds.bounds (rounds : number.Rounds value) :
    number.lowerEnd * number.quarter ≤ value ∧ value ≤ number.upperEnd * number.quarter := by
  unfold Rounds at rounds
  split at rounds
  · exact rounds
  · exact ⟨rounds.1.le, rounds.2.le⟩

theorem Rounds.bounds_of_odd (rounds : number.Rounds value) (odd : number.mantissa % 2 ≠ 0) :
    number.lowerEnd * number.quarter < value ∧ value < number.upperEnd * number.quarter := by
  unfold Rounds at rounds
  rwa [if_neg odd] at rounds

/-- The test for decimals compares both ends over a common denominator. -/
theorem holds_iff {decimal : Decimal} :
    number.neighbourhood.holds decimal = true ↔ number.Rounds decimal.value := by
  let scale : ℚ := 2 ^ (2 - number.exponent).toNat * 10 ^ (-decimal.exponent).toNat
  have positive : 0 < scale := by positivity
  have ends : ∀ units : Nat, ((units * Nat.pow 2 (number.exponent - 2).toNat
      * Nat.pow 10 (-decimal.exponent).toNat : Nat) : ℚ) = units * number.quarter * scale := by
    intro units
    have binary := zpow_mul_pow_toNat_neg 2 (by decide) (number.exponent - 2)
    rw [neg_sub] at binary
    simp only [Nat.pow_eq, Nat.cast_mul, Nat.cast_pow, Nat.cast_ofNat]
    rw [← binary, quarter]
    ring
  have side : ((decimal.digits * Nat.pow 10 decimal.exponent.toNat
      * Nat.pow 2 (2 - number.exponent).toNat : Nat) : ℚ) = decimal.value * scale := by
    have tens := zpow_mul_pow_toNat_neg 10 (by decide) decimal.exponent
    simp only [Nat.pow_eq, Nat.cast_mul, Nat.cast_pow, Nat.cast_ofNat]
    rw [← tens, Decimal.value]
    ring
  unfold Neighbourhood.holds Rounds Neighbourhood.scaled neighbourhood
  dsimp only
  rw [← lowerEnd, ← upperEnd]
  by_cases even : number.mantissa % 2 = 0
  · rw [if_pos (decide_eq_true even), if_pos even, Bool.and_eq_true, decide_eq_true_iff,
      decide_eq_true_iff, ← Nat.cast_le (α := ℚ), ← Nat.cast_le (α := ℚ), ends, ends, side,
      mul_le_mul_iff_of_pos_right positive, mul_le_mul_iff_of_pos_right positive]
  · rw [if_neg (by simpa using even), if_neg even, Bool.and_eq_true, decide_eq_true_iff,
      decide_eq_true_iff, ← Nat.cast_lt (α := ℚ), ← Nat.cast_lt (α := ℚ), ends, ends, side,
      mul_lt_mul_iff_of_pos_right positive, mul_lt_mul_iff_of_pos_right positive]

/-! ## Different numbers have no magnitude in common -/

/-- The order of magnitudes, by exponent and significand. -/
def Below (left right : Binary64) : Prop :=
  left.exponent < right.exponent ∨ left.exponent = right.exponent ∧ left.mantissa < right.mantissa

variable {left right : Binary64}

theorem below_or_below
    (differ : ¬(left.mantissa = right.mantissa ∧ left.exponent = right.exponent)) :
    left.Below right ∨ right.Below left := by
  unfold Below
  omega

/-- Counted in quarters of the smaller number, its interval ends where that of the greater
one starts, at the latest, and before that if both significands are even. -/
theorem Below.exists_ratio (below : left.Below right) :
    ∃ ratio : Nat, ratio * left.quarter ≤ right.quarter ∧
      left.upperEnd ≤ ratio * right.lowerEnd ∧
      (left.mantissa % 2 = 0 → right.mantissa % 2 = 0 →
        left.upperEnd < ratio * right.lowerEnd) := by
  have leftForm := left.canonical
  have rightForm := right.canonical
  unfold upperEnd lowerEnd
  norm_num only [Nat.pow_eq] at leftForm rightForm ⊢
  rcases below with lower | ⟨level, smaller⟩
  · -- the greater number has a significand of 53 bits and quarters at least twice as wide
    refine ⟨2, ?_, ?_, ?_⟩
    · have next : left.exponent - 2 + 1 ≤ right.exponent - 2 := by omega
      calc ((2 : Nat) : ℚ) * left.quarter = 2 ^ (left.exponent - 2 + 1) := by
            rw [quarter, zpow_add_one₀ (by decide), mul_comm]
            rfl
        _ ≤ right.quarter := zpow_le_zpow_right₀ (by decide) next
    · split <;> omega
    · split <;> omega
  · refine ⟨1, ?_, ?_, ?_⟩
    · rw [quarter, quarter, level, Nat.cast_one, one_mul]
    · split <;> omega
    · split <;> omega

theorem Below.not_rounds (below : left.Below right) (leftRounds : left.Rounds value) :
    ¬right.Rounds value := by
  intro rightRounds
  obtain ⟨ratio, wide, meet, apart⟩ := below.exists_ratio
  have reach : (ratio * right.lowerEnd : Nat) * left.quarter ≤ right.lowerEnd * right.quarter := by
    calc ((ratio * right.lowerEnd : Nat) : ℚ) * left.quarter
        = right.lowerEnd * (ratio * left.quarter) := by
          push_cast
          ring
      _ ≤ right.lowerEnd * right.quarter := mul_le_mul_of_nonneg_left wide (Nat.cast_nonneg _)
  have atMost : left.upperEnd * left.quarter ≤ (ratio * right.lowerEnd : Nat) * left.quarter :=
    mul_le_mul_of_nonneg_right (Nat.cast_le.mpr meet) left.quarter_pos.le
  have above := leftRounds.bounds.2
  have beneath := rightRounds.bounds.1
  -- where the intervals touch, an odd significand leaves its end out
  by_cases leftEven : left.mantissa % 2 = 0
  · by_cases rightEven : right.mantissa % 2 = 0
    · have strict : left.upperEnd * left.quarter < (ratio * right.lowerEnd : Nat) * left.quarter :=
        mul_lt_mul_of_pos_right (Nat.cast_lt.mpr (apart leftEven rightEven)) left.quarter_pos
      linarith
    · have strict := (rightRounds.bounds_of_odd rightEven).1
      linarith
  · have strict := (leftRounds.bounds_of_odd leftEven).2
    linarith

/-- A magnitude rounds to one number of each sign only. -/
theorem eq_of_rounds (signs : left.negative = right.negative) (leftRounds : left.Rounds value)
    (rightRounds : right.Rounds value) : left = right := by
  have same : left.mantissa = right.mantissa ∧ left.exponent = right.exponent := by
    by_contra differ
    rcases below_or_below differ with below | below
    · exact below.not_rounds leftRounds rightRounds
    · exact below.not_rounds rightRounds leftRounds
  cases left
  cases right
  simp_all

/-! ## Exact and shortest decimals -/

/-- The exact decimal has the value of the magnitude, four quarters for each unit. -/
theorem value_exact (number : Binary64) :
    number.exact.value = (4 * number.mantissa : Nat) * number.quarter := by
  have binary := zpow_mul_pow_toNat_neg 2 (by decide) number.exponent
  have tens : min 0 number.exponent = -((-number.exponent).toNat : Int) := by omega
  have split : (10 : ℚ) = 2 * 5 := by norm_num
  rw [Decimal.value, exact, quarter, zpow_sub₀ (by decide)]
  simp only [Nat.pow_eq, Nat.cast_mul, Nat.cast_pow, Nat.cast_ofNat]
  rw [tens, ← binary, zpow_neg, zpow_natCast, split, mul_pow]
  field_simp
  norm_num

/-- The magnitude itself rounds to its number. -/
theorem rounds_exact (number : Binary64) : number.Rounds number.exact.value := by
  have positive := number.quarter_pos
  rw [value_exact]
  unfold Rounds
  split
  · rw [mul_le_mul_iff_of_pos_right positive, mul_le_mul_iff_of_pos_right positive,
      Nat.cast_le, Nat.cast_le]
    unfold lowerEnd upperEnd
    split <;> omega
  · rw [mul_lt_mul_iff_of_pos_right positive, mul_lt_mul_iff_of_pos_right positive,
      Nat.cast_lt, Nat.cast_lt]
    unfold lowerEnd upperEnd
    split <;> omega

theorem rounds_zero (number : Binary64) (isZero : number.isZero = true) : number.Rounds 0 := by
  have rounds := number.rounds_exact
  have nothing : number.mantissa = 0 := eq_of_beq isZero
  rw [value_exact, nothing] at rounds
  simpa using rounds

namespace Neighbourhood

variable {area : Neighbourhood} {exponent : Int} {decimal : Decimal}

/-- The nearer of two decimals is one of them. -/
theorem nearer_cases (area : Neighbourhood) (low high : Decimal) :
    area.nearer low high = low ∨ area.nearer low high = high := by
  unfold nearer
  dsimp only
  split_ifs
  · exact .inl rfl
  · exact .inr rfl
  · exact .inl rfl
  · exact .inr rfl

theorem holds_of_onGrid? (found : area.onGrid? exponent = some decimal) :
    area.holds decimal = true := by
  unfold onGrid? at found
  dsimp only at found
  split at found
  · rename_i low high
    obtain rfl := Option.some.inj found
    rcases area.nearer_cases (area.below exponent) _ with isLow | isHigh
    · rw [isLow, low]
    · rw [isHigh, high]
  · rename_i low _
    obtain rfl := Option.some.inj found
    exact low
  · rename_i _ high
    obtain rfl := Option.some.inj found
    exact high
  · cases found

theorem holds_of_search {grids : Nat} (found : area.search grids exponent = some decimal) :
    area.holds decimal = true := by
  induction grids generalizing exponent with
  | zero => cases found
  | succ grids ih =>
      rw [search] at found
      split at found
      · rename_i here
        obtain rfl := Option.some.inj found
        exact holds_of_onGrid? here
      · exact ih found

end Neighbourhood

/-- The shortest decimal rounds to its number. -/
theorem rounds_shortest (number : Binary64) : number.Rounds number.shortest.value := by
  unfold shortest
  dsimp only
  rw [Decimal.value_strip]
  generalize number.exact.exponent + (digitCount number.exact.digits : Int) = first
  cases found : number.neighbourhood.search 18 first with
  | none => exact number.rounds_exact
  | some decimal => exact holds_iff.mp (Neighbourhood.holds_of_search found)

end Binary64

end Dialogue
