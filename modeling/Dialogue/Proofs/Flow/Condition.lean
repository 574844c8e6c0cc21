import Dialogue.Flow.Condition
import Mathlib.Computability.ContextFreeGrammar

/-!
# Conditions and balanced parentheses

A condition can be evaluated if it is not blank and its parentheses, without what stands
between them, are a word of the grammar with the rules `S → ε` and `S → ( S ) S`.  The one
counter of the check sees as much as the grammar does: no rule of the grammar moves the
counter, and the depth at which it stands is the number of closing parentheses that a
derivation owes.  On its way it stays so close to zero that 32 bits hold it.
-/

namespace Dialogue.Condition

/-! ## The counter -/

section

variable {depth : Nat} {char : Char} {rest : List Char}

@[simp]
theorem depthAfter_opening : depthAfter depth ('(' :: rest) = depthAfter (depth + 1) rest := by
  cases depth <;> rfl

@[simp]
theorem depthAfter_closing : depthAfter (depth + 1) (')' :: rest) = depthAfter depth rest :=
  rfl

/-- What is no parenthesis leaves the counter alone. -/
theorem depthAfter_other (notOpening : char ≠ '(') (notClosing : char ≠ ')') :
    depthAfter depth (char :: rest) = depthAfter depth rest := by
  cases depth with
  | zero => simp [depthAfter, notClosing]
  | succ depth => simp [depthAfter, notClosing]

end

/-- A text is read character by character: an opening parenthesis, a closing one that is
unmatched or not, or any other character. -/
@[elab_as_elim]
theorem readInduction {motive : Nat → List Char → Prop}
    (nil : ∀ depth, motive depth [])
    (opening : ∀ depth rest, motive (depth + 1) rest → motive depth ('(' :: rest))
    (unmatched : ∀ rest, motive 0 (')' :: rest))
    (closing : ∀ depth rest, motive depth rest → motive (depth + 1) (')' :: rest))
    (other : ∀ depth char rest, char ≠ '(' → char ≠ ')' → motive depth rest →
      motive depth (char :: rest))
    (depth : Nat) (chars : List Char) : motive depth chars := by
  induction chars generalizing depth with
  | nil => exact nil depth
  | cons char rest ih =>
      by_cases isOpening : char = '('
      · rw [isOpening]
        exact opening depth rest (ih (depth + 1))
      · by_cases isClosing : char = ')'
        · rw [isClosing]
          cases depth with
          | zero => exact unmatched rest
          | succ depth => exact closing depth rest (ih depth)
        · exact other depth char rest isOpening isClosing (ih depth)

/-- A text is read part after part; what is unbalanced in the front stays unbalanced. -/
theorem depthAfter_append (depth : Nat) (front rest : List Char) :
    depthAfter depth (front ++ rest) =
      (depthAfter depth front).bind fun reached => depthAfter reached rest := by
  induction depth, front using readInduction with
  | nil depth => rfl
  | opening depth front ih => rw [List.cons_append, depthAfter_opening, depthAfter_opening, ih]
  | unmatched front => rfl
  | closing depth front ih => rw [List.cons_append, depthAfter_closing, depthAfter_closing, ih]
  | other depth char front notOpening notClosing ih =>
      rw [List.cons_append, depthAfter_other notOpening notClosing,
        depthAfter_other notOpening notClosing, ih]

/-! ## Parentheses alone -/

/-- The parentheses of a text, without what stands between them. -/
def brackets (chars : List Char) : List Char :=
  chars.filter fun char => char == '(' || char == ')'

@[simp]
theorem brackets_opening (rest : List Char) : brackets ('(' :: rest) = '(' :: brackets rest :=
  rfl

@[simp]
theorem brackets_closing (rest : List Char) : brackets (')' :: rest) = ')' :: brackets rest :=
  rfl

theorem brackets_other {char : Char} (notOpening : char ≠ '(') (notClosing : char ≠ ')')
    (rest : List Char) : brackets (char :: rest) = brackets rest :=
  List.filter_cons_of_neg (by simp [notOpening, notClosing])

/-- The counter counts parentheses alone. -/
theorem depthAfter_brackets (depth : Nat) (chars : List Char) :
    depthAfter depth (brackets chars) = depthAfter depth chars := by
  induction depth, chars using readInduction with
  | nil depth => rfl
  | opening depth rest ih => rw [brackets_opening, depthAfter_opening, depthAfter_opening, ih]
  | unmatched rest => rfl
  | closing depth rest ih => rw [brackets_closing, depthAfter_closing, depthAfter_closing, ih]
  | other depth char rest notOpening notClosing ih =>
      rw [brackets_other notOpening notClosing, depthAfter_other notOpening notClosing, ih]

/-! ## The grammar -/

/-- The grammar of balanced parentheses, with the rules `S → ε` and `S → ( S ) S`. -/
abbrev parentheses : ContextFreeGrammar Char where
  NT := Unit
  initial := ()
  rules := {
    ⟨(), []⟩,
    ⟨(), [.terminal '(', .nonterminal (), .terminal ')', .nonterminal ()]⟩}

/-- The characters of a form in a derivation, without what is still to be rewritten. -/
def terminals (form : List (Symbol Char Unit)) : List Char :=
  form.filterMap fun
    | .terminal char => some char
    | .nonterminal _ => none

theorem terminals_map (word : List Char) : terminals (word.map .terminal) = word := by
  simp [terminals, List.filterMap_map]

/-- No rule of the grammar moves the counter: what takes the place of `S` is nothing, or a
pair of parentheses that leads back to the depth where it starts. -/
theorem depthAfter_of_produces {form next : List (Symbol Char Unit)}
    (step : parentheses.Produces form next) (depth : Nat) :
    depthAfter depth (terminals next) = depthAfter depth (terminals form) := by
  obtain ⟨rule, isRule, rewrites⟩ := step
  obtain ⟨front, rest, rfl, rfl⟩ := rewrites.exists_parts
  rcases Finset.mem_insert.mp isRule with rfl | isPair
  · simp [terminals]
  · rw [Finset.mem_singleton] at isPair
    subst isPair
    simp [terminals, depthAfter_append]

/-- A derivation does not move the counter. -/
theorem depthAfter_of_derives {form next : List (Symbol Char Unit)}
    (derives : parentheses.Derives form next) (depth : Nat) :
    depthAfter depth (terminals next) = depthAfter depth (terminals form) := by
  induction derives with
  | refl => rfl
  | tail _ step ih => rw [depthAfter_of_produces step, ih]

/-- What a derivation owes at a depth: a closing parenthesis and another `S` for each level. -/
def owed : Nat → List (Symbol Char Unit)
  | 0 => []
  | depth + 1 => .terminal ')' :: .nonterminal () :: owed depth

/-- The `S` in front of a form may be dropped. -/
theorem produces_drop (form : List (Symbol Char Unit)) :
    parentheses.Produces (.nonterminal () :: form) form :=
  ⟨⟨(), []⟩, by simp, .head form⟩

/-- The `S` in front of a form may be opened, which leaves one level more to close. -/
theorem produces_open (depth : Nat) :
    parentheses.Produces (.nonterminal () :: owed depth)
      (.terminal '(' :: .nonterminal () :: owed (depth + 1)) :=
  ⟨⟨(), [.terminal '(', .nonterminal (), .terminal ')', .nonterminal ()]⟩, by simp,
    .head (owed depth)⟩

/-- A text whose counter comes back to zero is derived, without what is no parenthesis, from
`S` and what is owed at the depth where it starts. -/
theorem derives_of_depthAfter (depth : Nat) (chars : List Char)
    (closed : depthAfter depth chars = some 0) :
    parentheses.Derives (.nonterminal () :: owed depth) ((brackets chars).map .terminal) := by
  induction depth, chars using readInduction with
  | nil depth =>
      obtain rfl : depth = 0 := Option.some.inj closed
      exact (produces_drop (owed 0)).single
  | opening depth rest ih =>
      rw [depthAfter_opening] at closed
      exact (produces_open depth).trans_derives ((ih closed).append_left [.terminal '('])
  | unmatched rest => cases closed
  | closing depth rest ih =>
      rw [depthAfter_closing] at closed
      exact (produces_drop _).trans_derives ((ih closed).append_left [.terminal ')'])
  | other depth char rest notOpening notClosing ih =>
      rw [depthAfter_other notOpening notClosing] at closed
      rw [brackets_other notOpening notClosing]
      exact ih closed

/-- The counter comes back to zero, and never falls below, exactly on the words of the
grammar. -/
theorem depthAfter_eq_some_zero_iff (chars : List Char) :
    depthAfter 0 chars = some 0 ↔ brackets chars ∈ parentheses.language := by
  constructor
  · intro closed
    exact derives_of_depthAfter 0 chars closed
  · intro derives
    have unmoved := depthAfter_of_derives derives 0
    rw [terminals_map, depthAfter_brackets] at unmoved
    exact unmoved

/-! ## The values of the counter -/

/-- By how much a character moves the counter. -/
def change (char : Char) : Int :=
  if char = '(' then 1 else if char = ')' then -1 else 0

/-- The values at which the counter stands while a text is read, in order.  Reading ends as
soon as a value is below zero. -/
def counterValues (value : Int) : List Char → List Int
  | [] => [value]
  | char :: rest => value :: if value < 0 then [] else counterValues (value + change char) rest

/-- The value at which the counter stands in the end: below zero if it has given up. -/
def finalValue : Option Nat → Int
  | some depth => depth
  | none => -1

theorem change_bounds (char : Char) : -1 ≤ change char ∧ change char ≤ 1 := by
  unfold change
  split
  · decide
  · split <;> decide

theorem counterValues_of_neg {value : Int} (below : value < 0) (chars : List Char) :
    counterValues value chars = [value] := by
  cases chars with
  | nil => rfl
  | cons char rest => rw [counterValues, if_pos below]

theorem counterValues_cons (depth : Nat) (char : Char) (rest : List Char) :
    counterValues depth (char :: rest) =
      (depth : Int) :: counterValues (depth + change char) rest := by
  rw [counterValues, if_neg (Int.not_lt.mpr (Int.natCast_nonneg depth))]

theorem getLast?_cons_counterValues (first value : Int) (chars : List Char) :
    (first :: counterValues value chars).getLast? = (counterValues value chars).getLast? := by
  cases chars <;> simp [counterValues]

/-- The counter ends at the depth that is reported, or below zero if none is. -/
theorem getLast?_counterValues (depth : Nat) (chars : List Char) :
    (counterValues depth chars).getLast? = some (finalValue (depthAfter depth chars)) := by
  induction depth, chars using readInduction with
  | nil depth => rfl
  | opening depth rest ih =>
      have up : (depth : Int) + change '(' = (depth + 1 : Nat) := rfl
      rw [counterValues_cons, getLast?_cons_counterValues, up, ih, depthAfter_opening]
  | unmatched rest =>
      have below : ((0 : Nat) : Int) + change ')' < 0 := by decide
      rw [counterValues_cons, counterValues_of_neg below]
      rfl
  | closing depth rest ih =>
      have down : ((depth + 1 : Nat) : Int) + change ')' = depth :=
        Int.add_neg_cancel_right depth 1
      rw [counterValues_cons, getLast?_cons_counterValues, down, ih, depthAfter_closing]
  | other depth char rest notOpening notClosing ih =>
      have unmoved : (depth : Int) + change char = depth := by
        simp [change, notOpening, notClosing]
      rw [counterValues_cons, getLast?_cons_counterValues, unmoved, ih,
        depthAfter_other notOpening notClosing]

/-- The counter rises by at most one for each character, and stops one below zero. -/
theorem counterValues_bounds {value : Int} (start : -1 ≤ value) (chars : List Char) :
    ∀ reached ∈ counterValues value chars, -1 ≤ reached ∧ reached ≤ value + chars.length := by
  induction chars generalizing value with
  | nil =>
      intro reached member
      obtain rfl : reached = value := List.mem_singleton.mp member
      exact ⟨start, by simp⟩
  | cons char rest ih =>
      intro reached member
      rw [counterValues, List.mem_cons] at member
      rw [List.length_cons]
      rcases member with rfl | later
      · exact ⟨start, by omega⟩
      · by_cases below : value < 0
        · rw [if_pos below] at later
          cases later
        · rw [if_neg below] at later
          have moved := change_bounds char
          have bounds := ih (by omega) reached later
          exact ⟨bounds.1, by omega⟩

/-! ## Conditions -/

/-- A condition can be evaluated exactly if some character of it is no blank and its
parentheses are a word of the grammar.  The counter of the check ends at the depth that is
reported; in a condition of fewer than `2 ^ 31` characters all its values fit 32 bits. -/
theorem isValid_exact (condition : String) (short : condition.length < 2 ^ 31) :
    (isValid condition = true ↔
      (∃ char ∈ condition.toList, Text.isBlank char = false) ∧
        brackets condition.toList ∈ parentheses.language) ∧
    (counterValues 0 condition.toList).getLast? =
      some (finalValue (depthAfter 0 condition.toList)) ∧
    ∀ value ∈ counterValues 0 condition.toList,
      Int32.minValue.toInt ≤ value ∧ value ≤ Int32.maxValue.toInt := by
  constructor
  · rw [← depthAfter_eq_some_zero_iff, isValid, Bool.and_eq_true, and_comm]
    simp
  · constructor
    · exact getLast?_counterValues 0 condition.toList
    · intro value member
      have bounds := counterValues_bounds (by decide) condition.toList value member
      rw [String.length_toList] at bounds
      have low : Int32.minValue.toInt = -2147483648 := rfl
      have high : Int32.maxValue.toInt = 2147483647 := rfl
      omega

/-- The parentheses of a condition with two levels are a word of the grammar, and its
counter comes back to zero. -/
theorem isValid_exact_of_nested :
    "(a or (b)) and (c)".length < 2 ^ 31 ∧ isValid "(a or (b)) and (c)" = true ∧
      brackets "(a or (b)) and (c)".toList ∈ parentheses.language ∧
      (counterValues 0 "(a or (b)) and (c)".toList).getLast? = some 0 ∧
      ∀ value ∈ counterValues 0 "(a or (b)) and (c)".toList,
        Int32.minValue.toInt ≤ value ∧ value ≤ Int32.maxValue.toInt := by
  have short : "(a or (b)) and (c)".length < 2 ^ 31 := by decide
  have valid : isValid "(a or (b)) and (c)" = true := by decide
  obtain ⟨grammar, ends, fits⟩ := isValid_exact "(a or (b)) and (c)" short
  exact ⟨short, valid, (grammar.mp valid).2, ends, fits⟩

example : isValid " \t\n" = false ∧ isValid "((a)" = false := by decide

end Dialogue.Condition
