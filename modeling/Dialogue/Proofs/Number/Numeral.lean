import Dialogue.Json.Printer
import Dialogue.Number.Scan
import Dialogue.Proofs.Number.Rounding

/-!
# Numerals

A numeral has digits, perhaps a point with more digits behind it, and perhaps a power of
ten.  Where nothing follows that could go on with a number, the text tells the parts of a
numeral and where it ends.  Every number is written with its sign and a numeral: an integer
with mere digits, any other number with a point or a power of ten and a value that rounds
to it.  So the text of a number determines the number.
-/

namespace Dialogue

/-! ## Digits -/

theorem decimalValue_eq_ofDigitChars (digits : List Char) :
    decimalValue digits = Nat.ofDigitChars 10 digits 0 := by
  rw [decimalValue, Nat.ofDigitChars_eq_foldl]
  congr 1
  funext value digit
  rw [Nat.mul_comm, digitValue]

@[simp]
theorem decimalValue_toDigits (value : Nat) : decimalValue (Nat.toDigits 10 value) = value := by
  rw [decimalValue_eq_ofDigitChars, Nat.ofDigitChars_ten_toDigits]

@[simp]
theorem decimalValue_zeros (count : Nat) : decimalValue (List.replicate count '0') = 0 := by
  simp [decimalValue_eq_ofDigitChars]

theorem decimalValue_append (first second : List Char) :
    decimalValue (first ++ second) =
      10 ^ second.length * decimalValue first + decimalValue second := by
  simp only [decimalValue_eq_ofDigitChars]
  rw [Nat.ofDigitChars_append, Nat.ofDigitChars_eq_ofDigitChars_zero]

theorem isDigit_of_mem_toDigits {value : Nat} {char : Char}
    (member : char ∈ Nat.toDigits 10 value) : char.isDigit = true :=
  Nat.isDigit_of_mem_toDigits (by decide) (by decide) member

theorem toDigits_injective : Function.Injective (Nat.toDigits 10) :=
  Function.LeftInverse.injective decimalValue_toDigits

/-! ## Where a text stops -/

/-- A text does not start with a character that passes the test. -/
def StartsWithout (test : Char → Bool) (text : List Char) : Prop :=
  ∀ char ∈ text.head?, test char = false

theorem StartsWithout.mono {test other : Char → Bool} {text : List Char}
    (without : StartsWithout test text) (weaker : ∀ char, test char = false → other char = false) :
    StartsWithout other text :=
  fun char starts => weaker char (without char starts)

theorem StartsWithout.ne_cons {test : Char → Bool} {text : List Char}
    (without : StartsWithout test text) (char : Char) (passes : test char = true)
    (more : List Char) : text ≠ char :: more := by
  rintro rfl
  have fails := without char rfl
  rw [passes] at fails
  contradiction

/-- Characters that pass a test are told from what follows by the first that does not. -/
theorem append_inj_of_span {test : Char → Bool} {left right leftRest rightRest : List Char}
    (leftPasses : ∀ char ∈ left, test char = true) (rightPasses : ∀ char ∈ right, test char = true)
    (leftStops : StartsWithout test leftRest) (rightStops : StartsWithout test rightRest)
    (same : left ++ leftRest = right ++ rightRest) : left = right ∧ leftRest = rightRest := by
  have stops : ∀ {rest : List Char}, StartsWithout test rest → rest.takeWhile test = [] := by
    intro rest without
    cases rest with
    | nil => rfl
    | cons char chars => simp [without char rfl]
  have spans := congrArg (List.takeWhile test) same
  rw [List.takeWhile_append_of_pos leftPasses, List.takeWhile_append_of_pos rightPasses,
    stops leftStops, stops rightStops, List.append_nil, List.append_nil] at spans
  subst spans
  exact ⟨rfl, List.append_cancel_left same⟩

/-! ## Numerals -/

/-- A number without its sign, by the parts of its text. -/
structure Numeral where
  /-- The digits before the point. -/
  whole : List Char
  /-- The digits after the point; without them there is no point. -/
  fraction : List Char
  /-- The power of ten, if one is written. -/
  power : Option Int
  /-- There are only digits before and after the point. -/
  areDigits : ∀ char ∈ whole ++ fraction, char.isDigit = true
  /-- A digit stands in front. -/
  begins : whole ≠ []

namespace Numeral

/-- The number that a numeral denotes. -/
def value (numeral : Numeral) : ℚ :=
  decimalValue (numeral.whole ++ numeral.fraction)
    * 10 ^ (numeral.power.getD 0 - numeral.fraction.length)

/-- Whether there are digits only. -/
def isInteger (numeral : Numeral) : Bool :=
  numeral.fraction.isEmpty && numeral.power.isNone

/-- The digits after the point, with the point. -/
def fractionText : List Char → List Char
  | [] => []
  | digits => '.' :: digits

/-- A power of ten, with its letter and its sign. -/
def powerText : Option Int → List Char
  | none => []
  | some power => 'e' :: (if power < 0 then '-' else '+') :: Nat.toDigits 10 power.natAbs

/-- The text of a numeral. -/
def text (numeral : Numeral) : List Char :=
  numeral.whole ++ (fractionText numeral.fraction ++ powerText numeral.power)

@[simp]
theorem powerText_none : powerText none = [] :=
  rfl

theorem fractionText_eq (digits : List Char) :
    fractionText digits = if digits.isEmpty then [] else '.' :: digits := by
  cases digits <;> rfl

/-- What goes on with digits before a point. -/
def isDigitOrPoint (char : Char) : Bool :=
  char.isDigit || char == '.'

/-- What goes on with a numeral. -/
def continues (char : Char) : Bool :=
  isDigitOrPoint char || char == 'e' || char == 'E'

theorem isDigit_of_isDigitOrPoint (char : Char) (other : isDigitOrPoint char = false) :
    char.isDigit = false :=
  (Bool.or_eq_false_iff.mp other).1

theorem isDigitOrPoint_of_continues (char : Char) (other : continues char = false) :
    isDigitOrPoint char = false :=
  (Bool.or_eq_false_iff.mp (Bool.or_eq_false_iff.mp other).1).1

variable {rest leftRest rightRest : List Char}

theorem startsWithout_powerText (stops : StartsWithout continues rest) (power : Option Int) :
    StartsWithout isDigitOrPoint (powerText power ++ rest) := by
  cases power with
  | none => exact stops.mono isDigitOrPoint_of_continues
  | some power =>
      rintro char ⟨rfl⟩
      decide

theorem startsWithout_fractionText (stops : StartsWithout isDigitOrPoint rest)
    (fraction : List Char) : StartsWithout Char.isDigit (fractionText fraction ++ rest) := by
  cases fraction with
  | nil => exact stops.mono isDigit_of_isDigitOrPoint
  | cons digit digits =>
      rintro char ⟨rfl⟩
      decide

theorem fractionText_append_inj {left right : List Char}
    (leftDigits : ∀ char ∈ left, char.isDigit = true)
    (rightDigits : ∀ char ∈ right, char.isDigit = true)
    (leftStops : StartsWithout isDigitOrPoint leftRest)
    (rightStops : StartsWithout isDigitOrPoint rightRest)
    (same : fractionText left ++ leftRest = fractionText right ++ rightRest) :
    left = right ∧ leftRest = rightRest := by
  cases left with
  | nil =>
      cases right with
      | nil => exact ⟨rfl, same⟩
      | cons digit digits => exact absurd same (leftStops.ne_cons '.' rfl _)
  | cons leftDigit leftMore =>
      cases right with
      | nil => exact absurd same.symm (rightStops.ne_cons '.' rfl _)
      | cons rightDigit rightMore =>
          exact append_inj_of_span leftDigits rightDigits
            (leftStops.mono isDigit_of_isDigitOrPoint) (rightStops.mono isDigit_of_isDigitOrPoint)
            (List.cons.inj same).2

theorem powerText_append_inj {left right : Option Int}
    (leftStops : StartsWithout continues leftRest) (rightStops : StartsWithout continues rightRest)
    (same : powerText left ++ leftRest = powerText right ++ rightRest) :
    left = right ∧ leftRest = rightRest := by
  cases left with
  | none =>
      cases right with
      | none => exact ⟨rfl, same⟩
      | some power => exact absurd same (leftStops.ne_cons 'e' rfl _)
  | some leftPower =>
      cases right with
      | none => exact absurd same.symm (rightStops.ne_cons 'e' rfl _)
      | some rightPower =>
          obtain ⟨signs, digits⟩ := List.cons.inj (List.cons.inj same).2
          have stops : ∀ char, continues char = false → char.isDigit = false := fun char other =>
            isDigit_of_isDigitOrPoint char (isDigitOrPoint_of_continues char other)
          obtain ⟨sameDigits, sameRest⟩ := append_inj_of_span
            (fun _ => isDigit_of_mem_toDigits) (fun _ => isDigit_of_mem_toDigits)
            (leftStops.mono stops) (rightStops.mono stops) digits
          have magnitudes : leftPower.natAbs = rightPower.natAbs := toDigits_injective sameDigits
          refine ⟨congrArg some ?_, sameRest⟩
          split at signs <;> split at signs <;> simp at signs <;> omega

/-- A numeral and its end are read off a text in which nothing goes on with it. -/
theorem text_append_inj {left right : Numeral}
    (leftStops : StartsWithout continues leftRest) (rightStops : StartsWithout continues rightRest)
    (same : left.text ++ leftRest = right.text ++ rightRest) :
    left = right ∧ leftRest = rightRest := by
  obtain ⟨leftWhole, leftFraction, leftPower, leftDigits, leftBegins⟩ := left
  obtain ⟨rightWhole, rightFraction, rightPower, rightDigits, rightBegins⟩ := right
  simp only [text, List.append_assoc] at same
  rw [List.forall_mem_append] at leftDigits rightDigits
  have leftPowerStops := startsWithout_powerText leftStops leftPower
  have rightPowerStops := startsWithout_powerText rightStops rightPower
  obtain ⟨rfl, afterWhole⟩ := append_inj_of_span leftDigits.1 rightDigits.1
    (startsWithout_fractionText leftPowerStops leftFraction)
    (startsWithout_fractionText rightPowerStops rightFraction) same
  obtain ⟨rfl, afterFraction⟩ := fractionText_append_inj leftDigits.2 rightDigits.2
    leftPowerStops rightPowerStops afterWhole
  obtain ⟨rfl, sameRest⟩ := powerText_append_inj leftStops rightStops afterFraction
  exact ⟨rfl, sameRest⟩

theorem exists_digit (numeral : Numeral) :
    ∃ digit rest, numeral.text = digit :: rest ∧ digit.isDigit = true := by
  obtain ⟨digit, digits, isCons⟩ := List.exists_cons_of_ne_nil numeral.begins
  refine ⟨digit, digits ++ (fractionText numeral.fraction ++ powerText numeral.power), ?_,
    numeral.areDigits digit (by simp [isCons])⟩
  rw [text, isCons, List.cons_append]

end Numeral

/-! ## Decimals -/

namespace Decimal

/-- The digits of a decimal with zeros around them make a numeral of its value wherever the
point stands, if the power of ten makes up for it. -/
theorem exists_numeral_of_parts (decimal : Decimal) (whole fraction : List Char)
    (power : Option Int) (before after : Nat)
    (parts : whole ++ fraction = List.replicate before '0' ++
      (Nat.toDigits 10 decimal.digits ++ List.replicate after '0'))
    (begins : whole ≠ []) (marked : fraction ≠ [] ∨ power ≠ none)
    (scale : power.getD 0 - fraction.length + after = decimal.exponent) :
    ∃ numeral : Numeral,
      numeral.text = whole ++ (Numeral.fractionText fraction ++ Numeral.powerText power) ∧
      numeral.value = decimal.value ∧ numeral.isInteger = false := by
  have areDigits : ∀ char ∈ whole ++ fraction, char.isDigit = true := by
    rw [parts]
    intro char member
    rcases List.mem_append.mp member with zero | member
    · rw [List.eq_of_mem_replicate zero]
      rfl
    · rcases List.mem_append.mp member with digit | zero
      · exact isDigit_of_mem_toDigits digit
      · rw [List.eq_of_mem_replicate zero]
        rfl
  have denotes : decimalValue (whole ++ fraction) = 10 ^ after * decimal.digits := by
    rw [parts, decimalValue_append, decimalValue_append]
    simp
  refine ⟨⟨whole, fraction, power, areDigits, begins⟩, rfl, ?_, ?_⟩
  · have nonzero : (10 : ℚ) ≠ 0 := by decide
    rw [Numeral.value, value, denotes, ← scale, zpow_add₀ nonzero, zpow_natCast]
    push_cast
    ring
  · rcases marked with pointed | scaled
    · simp [Numeral.isInteger, pointed]
    · simp [Numeral.isInteger, Option.isNone_eq_false_iff, Option.isSome_iff_ne_none, scaled]

/-- A decimal is written as a numeral of the same value, with a point or a power of ten. -/
theorem exists_numeral (decimal : Decimal) :
    ∃ numeral : Numeral, numeral.text = decimal.text ∧ numeral.value = decimal.value ∧
      numeral.isInteger = false := by
  have ofParts := decimal.exists_numeral_of_parts
  have begins : Nat.toDigits 10 decimal.digits ≠ [] := Nat.toDigits_ne_nil
  unfold text
  dsimp only
  generalize Nat.toDigits 10 decimal.digits = digits at *
  generalize isPlaces : (digits.length : Int) + decimal.exponent = places
  have notEmpty := List.length_pos_iff.mpr begins
  split
  · -- one digit before the point, and a power of ten
    have spread := ofParts (digits.take 1) (digits.drop 1) (some (places - 1)) 0 0
      (by rw [List.take_append_drop]; simp) (by simp [begins]) (by simp) (by simp; omega)
    rw [Numeral.fractionText_eq, ← List.append_assoc] at spread
    exact spread
  · split
    · -- zeros between the point and the first digit
      have spread := ofParts ['0'] (List.replicate (-places).toNat '0' ++ digits) none
        ((-places).toNat + 1) 0 (by simp [List.replicate_succ]) (by simp) (by simp [begins])
        (by simp; omega)
      simpa [Numeral.fractionText_eq, begins] using spread
    · split
      · -- zeros between the last digit and the point
        exact ofParts (digits ++ List.replicate decimal.exponent.toNat '0') ['0'] none
          0 (decimal.exponent.toNat + 1) (by simp [List.replicate_succ']) (by simp [begins])
          (by simp) (by simp; omega)
      · -- the point between two digits
        have more : digits.drop places.toNat ≠ [] := by simp; omega
        have spread := ofParts (digits.take places.toNat) (digits.drop places.toNat) none 0 0
          (by simp) (by simp [begins]; omega) (.inl more) (by simp; omega)
        simpa [Numeral.fractionText_eq, more] using spread

end Decimal

/-! ## Numbers -/

namespace Number

/-- Whether a minus sign stands in front of a number. -/
def negative : Number → Bool
  | .int value => decide (value < 0)
  | .float value => value.negative

/-- The minus sign, where there is one. -/
def signText (negative : Bool) : List Char :=
  if negative then ['-'] else []

/-- A numeral stands for the magnitude of a number: mere digits of the same value for an
integer, a point or a power of ten and a value that rounds to it for any other number. -/
def Shows : Number → Numeral → Prop
  | .int value, numeral => numeral.isInteger = true ∧ numeral.value = value.natAbs
  | .float value, numeral => numeral.isInteger = false ∧ value.Rounds numeral.value

/-- A sign and a numeral stand for one number only. -/
theorem Shows.unique {left right : Number} {numeral : Numeral}
    (signs : left.negative = right.negative) (leftShows : left.Shows numeral)
    (rightShows : right.Shows numeral) : left = right := by
  cases left with
  | int left =>
      cases right with
      | int right =>
          have magnitudes : left.natAbs = right.natAbs :=
            Nat.cast_injective (leftShows.2.symm.trans rightShows.2)
          have signs : left < 0 ↔ right < 0 := decide_eq_decide.mp signs
          have same : left = right := by omega
          rw [same]
      | float right => exact absurd (leftShows.1.symm.trans rightShows.1) (by decide)
  | float left =>
      cases right with
      | int right => exact absurd (leftShows.1.symm.trans rightShows.1) (by decide)
      | float right => rw [Binary64.eq_of_rounds signs leftShows.2 rightShows.2]

/-- The magnitude of a floating-point number is written as a numeral that rounds to it. -/
theorem exists_numeral_of_float (value : Binary64) :
    ∃ numeral : Numeral, (Number.float value).Shows numeral ∧
      numeral.text = if value.isZero then ['0', '.', '0'] else value.shortest.text := by
  split
  · rename_i isZero
    refine ⟨⟨['0'], ['0'], none, by simp, List.cons_ne_nil _ _⟩, ⟨rfl, ?_⟩, rfl⟩
    have nothing : decimalValue ['0', '0'] = 0 := by decide
    simpa [Numeral.value, nothing] using value.rounds_zero isZero
  · obtain ⟨numeral, isText, isValue, pointed⟩ := value.shortest.exists_numeral
    exact ⟨numeral, ⟨pointed, isValue ▸ value.rounds_shortest⟩, isText⟩

/-- Every number is written with its sign and a numeral that stands for it. -/
theorem exists_numeral (number : Number) :
    ∃ numeral : Numeral, number.Shows numeral ∧
      number.text = signText number.negative ++ numeral.text := by
  cases number with
  | int value =>
      refine ⟨⟨Nat.toDigits 10 value.natAbs, [], none, ?_, Nat.toDigits_ne_nil⟩, ⟨rfl, ?_⟩, ?_⟩
      · rw [List.append_nil]
        exact fun _ => isDigit_of_mem_toDigits
      · simp [Numeral.value]
      · simp only [text, negative, signText, Numeral.text, decide_eq_true_iff]
        split <;> simp [Numeral.fractionText]
  | float value =>
      obtain ⟨numeral, shows, isText⟩ := exists_numeral_of_float value
      refine ⟨numeral, shows, ?_⟩
      rw [isText, text, negative]
      cases value.negative <;> rfl

/-- The sign in front of a numeral is read off the text. -/
theorem signText_append_inj {left right : Bool} {leftNumeral rightNumeral : Numeral}
    {leftRest rightRest : List Char}
    (same : signText left ++ (leftNumeral.text ++ leftRest) =
      signText right ++ (rightNumeral.text ++ rightRest)) :
    left = right ∧ leftNumeral.text ++ leftRest = rightNumeral.text ++ rightRest := by
  have unsigned : ∀ (numeral : Numeral) (rest more : List Char),
      numeral.text ++ rest ≠ '-' :: more := by
    intro numeral rest more isSigned
    obtain ⟨digit, digits, isText, isDigit⟩ := numeral.exists_digit
    rw [isText, List.cons_append, List.cons.injEq] at isSigned
    rw [isSigned.1] at isDigit
    exact absurd isDigit (by decide)
  cases left with
  | false =>
      cases right with
      | false => exact ⟨rfl, same⟩
      | true => exact absurd same (unsigned _ _ _)
  | true =>
      cases right with
      | false => exact absurd same.symm (unsigned _ _ _)
      | true => exact ⟨rfl, (List.cons.inj same).2⟩

/-- A number and its end are read off a text in which nothing goes on with it. -/
theorem text_append_inj {left right : Number} {leftRest rightRest : List Char}
    (leftStops : StartsWithout Numeral.continues leftRest)
    (rightStops : StartsWithout Numeral.continues rightRest)
    (same : left.text ++ leftRest = right.text ++ rightRest) :
    left = right ∧ leftRest = rightRest := by
  obtain ⟨leftNumeral, leftShows, leftText⟩ := left.exists_numeral
  obtain ⟨rightNumeral, rightShows, rightText⟩ := right.exists_numeral
  rw [leftText, rightText, List.append_assoc, List.append_assoc] at same
  obtain ⟨signs, numerals⟩ := signText_append_inj same
  obtain ⟨rfl, sameRest⟩ := Numeral.text_append_inj leftStops rightStops numerals
  exact ⟨leftShows.unique signs rightShows, sameRest⟩

theorem exists_start (number : Number) : ∃ char rest, number.text = char :: rest ∧
    (char = '-' ∨ char.isDigit = true) := by
  obtain ⟨numeral, _, isText⟩ := number.exists_numeral
  rw [isText]
  cases number.negative with
  | false =>
      obtain ⟨digit, digits, isDigits, isDigit⟩ := numeral.exists_digit
      exact ⟨digit, digits, isDigits, .inr isDigit⟩
  | true => exact ⟨'-', numeral.text, rfl, .inl rfl⟩

end Number

end Dialogue
