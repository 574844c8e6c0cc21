import Dialogue.Json.Parser
import Dialogue.Proofs.Number.Numeral
import Mathlib.Data.List.TakeWhile

/-!
# Numbers come back

The reader of numbers takes a number off the front of a text.  It looks no further than
to the first character that cannot go on with a number, so a number that comes back from
its own text comes back wherever nothing goes on with it.  All integers of 64 bits come
back.  Other numbers need not: they are read in one pass, after which the last place can
differ from that of the number that was written.
-/

namespace Dialogue

namespace Json

variable {chars rest : List Char}

/-! ## Where the reader stops -/

/-- What is read at the front of a text is read there as well if the text goes on with
something that does not go on with a number. -/
def Stops {α : Type} (read : List Char → Option (α × List Char)) : Prop :=
  ∀ {chars left rest item}, StartsWithout Numeral.continues rest →
    read chars = some (item, left) → read (chars ++ rest) = some (item, left ++ rest)

theorem startsWithout_isDigit (stops : StartsWithout Numeral.continues rest) :
    StartsWithout Char.isDigit rest :=
  stops.mono fun char other =>
    Numeral.isDigit_of_isDigitOrPoint char (Numeral.isDigitOrPoint_of_continues char other)

theorem spanDigits_append (stops : StartsWithout Numeral.continues rest) (chars : List Char) :
    spanDigits (chars ++ rest) = ((spanDigits chars).1, (spanDigits chars).2 ++ rest) := by
  unfold spanDigits
  simp only [List.span_eq_takeWhile_dropWhile]
  induction chars with
  | nil =>
      cases rest with
      | nil => rfl
      | cons char rest => simp [startsWithout_isDigit stops char rfl]
  | cons char chars ih =>
      cases isDigit : char.isDigit with
      | true =>
          obtain ⟨digits, more⟩ := Prod.mk.inj ih
          simp [isDigit, digits, more]
      | false => simp [isDigit]

theorem stops_readWhole : Stops readWhole := by
  intro chars left rest digits stops read
  unfold readWhole at read ⊢
  rw [spanDigits_append stops]
  split at read
  · cases read
  · split at read
    · cases read
    · cases read
      simp [*]

theorem readFraction_of_ne (noPoint : ∀ more, chars ≠ '.' :: more) :
    readFraction chars = some (none, chars) := by
  unfold readFraction
  split
  · exact absurd rfl (noPoint _)
  · rfl

theorem stops_readFraction : Stops readFraction := by
  intro chars left rest digits stops read
  by_cases point : ∃ more, chars = '.' :: more
  · obtain ⟨more, rfl⟩ := point
    rw [List.cons_append]
    unfold readFraction at read ⊢
    simp only [spanDigits_append stops] at read ⊢
    split at read
    · cases read
    · cases read
      simp [*]
  · have noPoint : ∀ more, chars ≠ '.' :: more := fun more same => point ⟨more, same⟩
    rw [readFraction_of_ne noPoint] at read
    cases read
    apply readFraction_of_ne
    cases chars with
    | nil => exact stops.ne_cons '.' rfl
    | cons char chars =>
        rintro more same
        exact noPoint chars (by rw [(List.cons.inj same).1])

theorem spanMinus_append (present : chars ≠ []) (rest : List Char) :
    spanMinus (chars ++ rest) = ((spanMinus chars).1, (spanMinus chars).2 ++ rest) := by
  obtain ⟨char, chars, rfl⟩ := List.exists_cons_of_ne_nil present
  rw [List.cons_append]
  unfold spanMinus
  split <;> simp_all

theorem spanSign_append (present : chars ≠ []) (rest : List Char) :
    spanSign (chars ++ rest) = ((spanSign chars).1, (spanSign chars).2 ++ rest) := by
  have minus := spanMinus_append present rest
  obtain ⟨char, chars, rfl⟩ := List.exists_cons_of_ne_nil present
  rw [List.cons_append] at minus ⊢
  unfold spanSign
  split <;> simp_all

theorem readExponent_of_ne
    (noLetter : StartsWithout (fun char => char == 'e' || char == 'E') chars) :
    readExponent chars = some (none, chars) := by
  cases chars with
  | nil => rfl
  | cons char chars =>
      have other : ¬(char = 'e' ∨ char = 'E') := by simpa using noLetter char rfl
      exact if_neg other

theorem stops_readExponent : Stops readExponent := by
  intro chars left rest power stops read
  cases chars with
  | nil =>
      cases read
      refine readExponent_of_ne (stops.mono fun char other => ?_)
      unfold Numeral.continues at other
      simp_all
  | cons char chars =>
      by_cases letter : char = 'e' ∨ char = 'E'
      · have present : chars ≠ [] := by
          rintro rfl
          simp [readExponent, letter, spanSign, spanMinus, spanDigits] at read
        rw [readExponent, if_pos letter] at read
        rw [List.cons_append, readExponent, if_pos letter, spanSign_append present,
          spanDigits_append stops]
        split at read
        · cases read
        · cases read
          simp [*]
      · rw [readExponent, if_neg letter] at read
        cases read
        exact if_neg letter

theorem stops_readParts : Stops readParts := by
  intro chars left rest parts stops read
  simp only [readParts, Option.bind_eq_bind, Option.bind_eq_some_iff, Option.pure_def] at read ⊢
  obtain ⟨⟨_, afterWhole⟩, isWhole, ⟨_, afterFraction⟩, isFraction, ⟨_, afterExponent⟩,
    isExponent, same⟩ := read
  cases same
  exact ⟨_, stops_readWhole stops isWhole, _, stops_readFraction stops isFraction, _,
    stops_readExponent stops isExponent, rfl⟩

end Json

/-! ## Numbers in a text -/

/-- The number is what its own text denotes. -/
def Number.ComesBack (number : Number) : Prop :=
  Json.readNumber number.text = some (number, [])

instance (number : Number) : Decidable number.ComesBack :=
  inferInstanceAs (Decidable (_ = _))

namespace Json

/-- A number that comes back from its own text is taken off every text in which nothing
goes on with it. -/
theorem readNumber_text {number : Number} {rest : List Char} (comesBack : number.ComesBack)
    (stops : StartsWithout Numeral.continues rest) :
    readNumber (number.text ++ rest) = some (number, rest) := by
  have present : number.text ≠ [] := by
    obtain ⟨char, more, isText, -⟩ := number.exists_start
    simp [isText]
  unfold Number.ComesBack readNumber at comesBack
  unfold readNumber
  simp only [Option.bind_eq_bind, Option.bind_eq_some_iff, Option.pure_def] at comesBack ⊢
  obtain ⟨⟨parts, left⟩, isParts, _, isNumber, same⟩ := comesBack
  cases same
  rw [spanMinus_append present]
  exact ⟨_, stops_readParts stops isParts, number, isNumber, rfl⟩

end Json

/-! ## Integers -/

/-- Only the number zero starts with the digit zero. -/
theorem head?_toDigits_ne {value : Nat} (positive : 0 < value) :
    (Nat.toDigits 10 value).head? ≠ some '0' := by
  induction value using Nat.strongRecOn with
  | ind value ih =>
      rw [Nat.toDigits_eq_if (by decide)]
      split
      · rename_i single
        have digits : ∀ digit < 10, 0 < digit → digit.digitChar ≠ '0' := by decide
        simpa using digits value single positive
      · rw [List.head?_append_of_ne_nil _ Nat.toDigits_ne_nil]
        exact ih (value / 10) (by omega) (by omega)

namespace Literal

/-- The number with one more digit at its end. -/
def withDigit (value : Nat) (digit : Char) : Nat :=
  value * 10 + digitValue digit

theorem le_foldl_withDigit (value : Nat) (digits : List Char) :
    value ≤ digits.foldl withDigit value := by
  induction digits generalizing value with
  | nil => exact Nat.le_refl value
  | cons digit digits ih =>
      have grows : value ≤ withDigit value digit := by
        unfold withDigit
        omega
      exact grows.trans (ih (withDigit value digit))

/-- Digits whose value stays below the bound are all taken up. -/
theorem accumulate_eq {value : Nat} {digits : List Char}
    (fits : digits.foldl withDigit value < wordEnd) :
    accumulate value digits = (digits.foldl withDigit value, []) := by
  induction digits generalizing value with
  | nil => rfl
  | cons digit digits ih =>
      rw [List.foldl_cons] at fits ⊢
      have first : withDigit value digit < wordEnd :=
        lt_of_le_of_lt (le_foldl_withDigit _ digits) fits
      rw [← ih fits]
      exact if_pos first

theorem whole?_toDigits {value : Nat} (fits : value < 2 ^ 64) (negative : Bool) (exponent : Int) :
    whole? ⟨negative, Nat.toDigits 10 value, [], exponent⟩ = some value := by
  have whole : (Nat.toDigits 10 value).foldl withDigit 0 = value := decimalValue_toDigits value
  have small : (Nat.toDigits 10 value).foldl withDigit 0 < wordEnd := by
    rw [whole]
    exact fits
  unfold whole?
  rw [accumulate_eq small, whole]

end Literal

namespace Json

theorem spanDigits_toDigits (value : Nat) :
    spanDigits (Nat.toDigits 10 value) = (Nat.toDigits 10 value, []) := by
  have all : ∀ char ∈ Nat.toDigits 10 value, char.isDigit = true := fun _ =>
    isDigit_of_mem_toDigits
  unfold spanDigits
  rw [List.span_eq_takeWhile_dropWhile, List.takeWhile_eq_self_iff.mpr all,
    List.dropWhile_eq_nil_iff.mpr all]

theorem readWhole_toDigits (value : Nat) :
    readWhole (Nat.toDigits 10 value) = some (Nat.toDigits 10 value, []) := by
  have leading : ¬((Nat.toDigits 10 value).head? = some '0' ∧
      (Nat.toDigits 10 value).length ≠ 1) := by
    rintro ⟨zero, several⟩
    rcases Nat.eq_zero_or_pos value with rfl | positive
    · exact several rfl
    · exact head?_toDigits_ne positive zero
  have begins : Nat.toDigits 10 value ≠ [] := Nat.toDigits_ne_nil
  unfold readWhole
  rw [spanDigits_toDigits]
  obtain ⟨digit, digits, isCons⟩ := List.exists_cons_of_ne_nil begins
  rw [isCons] at leading ⊢
  exact if_neg leading

theorem readParts_toDigits (value : Nat) :
    readParts (Nat.toDigits 10 value) = some (⟨Nat.toDigits 10 value, none, none⟩, []) := by
  simp [readParts, readWhole_toDigits, readFraction, readExponent]

theorem spanMinus_int (value : Int) :
    spanMinus (Number.int value).text = (decide (value < 0), Nat.toDigits 10 value.natAbs) := by
  unfold Number.text
  dsimp only
  by_cases negative : value < 0
  · simp [negative, spanMinus]
  · rw [if_neg negative, decide_eq_false negative]
    unfold spanMinus
    split
    · rename_i isText
      have minus : '-' ∈ Nat.toDigits 10 value.natAbs := by simp [isText]
      have isDigit := isDigit_of_mem_toDigits minus
      cases isDigit
    · rfl

theorem integer?_toDigits {value : Int} (least : -2 ^ 63 ≤ value) (greatest : value < 2 ^ 64) :
    integer? ⟨decide (value < 0), Nat.toDigits 10 value.natAbs, [], 0⟩ = some value := by
  have fits : value.natAbs < 2 ^ 64 := by omega
  have bound : Nat.pow 2 63 = 2 ^ 63 := rfl
  unfold integer?
  rw [Literal.whole?_toDigits fits, Option.bind_eq_bind, Option.bind_some]
  by_cases negative : value < 0
  · rw [if_pos (by simpa using negative), if_neg (by omega)]
    congr 1
    omega
  · rw [if_neg (by simpa using negative)]
    congr 1
    omega

end Json

/-- Integers of 64 bits, with a sign or without, come back. -/
theorem Number.comesBack_int {value : Int} (least : -2 ^ 63 ≤ value) (greatest : value < 2 ^ 64) :
    (Number.int value).ComesBack := by
  simp [ComesBack, Json.readNumber, Json.spanMinus_int, Json.readParts_toDigits,
    Json.NumberParts.number?, Json.integer?_toDigits least greatest]

end Dialogue
