import Dialogue.Json.Parser
import Dialogue.Proofs.Number.Numeral

/-!
# Compact text determines the value

The reader gives back a string that was written, whatever characters it has.  Any value
can be told from its compact text, together with the place where it ends: the first
character gives the kind, numbers end where nothing goes on with them, and strings, arrays
and objects carry their own ends.  So no two values have the same text.
-/

namespace Dialogue

namespace Json

/-! ## Strings -/

/-- Two hexadecimal digits after two zeros give back a number below 256. -/
theorem unit?_hexDigits {value : Nat} (small : value < 256) :
    unit? '0' '0' (hexDigit (value / 16)) (hexDigit (value % 16)) = some value := by
  have zero : hexValue? '0' = some 0 := by decide
  have high : hexValue? (hexDigit (value / 16)) = some (value / 16) :=
    hexValue?_hexDigit (by omega)
  have low : hexValue? (hexDigit (value % 16)) = some (value % 16) :=
    hexValue?_hexDigit (by omega)
  have digits : 16 * (16 * (16 * (16 * 0 + 0) + 0) + value / 16) + value % 16 = value := by omega
  simp only [unit?, hexNumber?, List.foldlM_cons, List.foldlM_nil, zero, high, low,
    Option.map_some, Option.bind_eq_bind, Option.bind_some, Option.pure_def, digits]

/-- The reader takes an escaped character off the text. -/
theorem readChars_escape (read : List Char) (char : Char) (rest : List Char) :
    readChars read (escape char ++ rest) = readChars (char :: read) rest := by
  unfold escape
  split_ifs with quote backslash backspace tab feed page carriage control
  · subst quote
    rfl
  · subst backslash
    rfl
  · subst backspace
    rfl
  · subst tab
    rfl
  · subst feed
    rfl
  · subst page
    rfl
  · subst carriage
    rfl
  · have readBack := unit?_hexDigits (show char.toNat < 256 by omega)
    have notLeading : ¬isLeading char.toNat = true := by
      rw [isLeading, Bool.and_eq_true, decide_eq_true_iff]
      omega
    have notTrailing : ¬isTrailing char.toNat = true := by
      rw [isTrailing, Bool.and_eq_true, decide_eq_true_iff]
      omega
    show readChars read ('\\' :: 'u' :: '0' :: '0' :: hexDigit (char.toNat / 16) ::
      hexDigit (char.toNat % 16) :: rest) = _
    rw [readChars, readBack]
    dsimp only
    rw [if_neg notLeading, if_neg notTrailing, Char.ofNat_toNat]
  · rw [List.singleton_append, readChars]
    · exact if_neg control
    · exact quote
    · exact fun _ _ _ _ _ isBackslash _ => backslash isBackslash
    · exact fun _ _ isBackslash _ => backslash isBackslash

/-- The reader gives back the characters that were written, and what follows them. -/
theorem readChars_writeChars (read chars rest : List Char) :
    readChars read (writeChars chars rest) =
      some (String.ofList (read.reverse ++ chars), rest) := by
  induction chars generalizing read with
  | nil => rw [writeChars, readChars, List.append_nil]
  | cons char chars ih =>
      rw [writeChars, readChars_escape, ih, List.reverse_cons, List.append_assoc,
        List.singleton_append]

variable {leftRest rightRest : List Char}

/-- A string and its end are read off a text. -/
theorem writeString_inj {left right : String}
    (same : writeString left leftRest = writeString right rightRest) :
    left = right ∧ leftRest = rightRest := by
  have readBack := congrArg (readChars []) (List.cons.inj same).2
  simpa [readChars_writeChars] using readBack

/-! ## Kinds of values -/

/-- The kinds of values. -/
inductive Kind where
  | null
  | bool
  | number
  | string
  | array
  | object

/-- The kind of a value. -/
def kind : Json → Kind
  | .null => .null
  | .bool _ => .bool
  | .number _ => .number
  | .string _ => .string
  | .array _ => .array
  | .object _ => .object

/-- The kind of the values that start with a character, if there are any. -/
def startKind? (char : Char) : Option Kind :=
  if char = 'n' then some .null
  else if char = 't' ∨ char = 'f' then some .bool
  else if char = '-' ∨ char.isDigit = true then some .number
  else if char = '"' then some .string
  else if char = '[' then some .array
  else if char = '{' then some .object
  else none

/-- The first character tells the kind of a value. -/
theorem exists_start (value : Json) (rest : List Char) :
    ∃ char more, write value rest = char :: more ∧ startKind? char = some value.kind := by
  cases value with
  | null => exact ⟨'n', _, by rw [write], rfl⟩
  | bool flag =>
      cases flag with
      | false => exact ⟨'f', _, by rw [write], rfl⟩
      | true => exact ⟨'t', _, by rw [write], rfl⟩
  | number value =>
      obtain ⟨char, more, isText, isStart⟩ := value.exists_start
      refine ⟨char, more ++ rest, by rw [write, isText, List.cons_append], ?_⟩
      have notNull : char ≠ 'n' := by
        rintro rfl
        exact absurd isStart (by decide)
      have notBool : ¬(char = 't' ∨ char = 'f') := by
        rintro (rfl | rfl) <;> exact absurd isStart (by decide)
      rw [startKind?, if_neg notNull, if_neg notBool, if_pos isStart, kind]
  | string text => exact ⟨'"', _, by rw [write, writeString], rfl⟩
  | array items =>
      cases items with
      | nil => exact ⟨'[', _, by rw [write], rfl⟩
      | cons item items => exact ⟨'[', _, by rw [write], rfl⟩
  | object members =>
      cases members with
      | nil => exact ⟨'{', _, by rw [write], rfl⟩
      | cons member members => exact ⟨'{', _, by rw [write], rfl⟩

theorem kind_eq_of_write_eq {left right : Json}
    (same : write left leftRest = write right rightRest) : left.kind = right.kind := by
  obtain ⟨leftChar, leftMore, leftText, leftKind⟩ := left.exists_start leftRest
  obtain ⟨rightChar, rightMore, rightText, rightKind⟩ := right.exists_start rightRest
  rw [leftText, rightText] at same
  obtain ⟨rfl, _⟩ := List.cons.inj same
  exact Option.some.inj (leftKind.symm.trans rightKind)

/-- No value starts with a closing bracket. -/
theorem write_ne_closing (value : Json) (rest more : List Char) :
    write value rest ≠ ']' :: more := by
  intro same
  obtain ⟨char, _, isText, isStart⟩ := value.exists_start rest
  rw [isText] at same
  obtain ⟨rfl, _⟩ := List.cons.inj same
  cases isStart

/-! ## Arrays and objects -/

theorem startsWithout_writeItems (items : List Json) (rest : List Char) :
    StartsWithout Numeral.continues (writeItems items rest) := by
  cases items with
  | nil =>
      rintro char ⟨rfl⟩
      decide
  | cons item items =>
      rintro char ⟨rfl⟩
      decide

theorem startsWithout_writeMembers (members : List (String × Json)) (rest : List Char) :
    StartsWithout Numeral.continues (writeMembers members rest) := by
  cases members with
  | nil =>
      rintro char ⟨rfl⟩
      decide
  | cons member members =>
      rintro char ⟨rfl⟩
      decide

/-- Arrays with the same text have the same text as rows of further items. -/
theorem writeItems_eq_of_write_eq {left right : List Json}
    (same : write (.array left) leftRest = write (.array right) rightRest) :
    writeItems left leftRest = writeItems right rightRest := by
  cases left with
  | nil =>
      cases right with
      | nil => exact congrArg (']' :: ·) (List.cons.inj (List.cons.inj same).2).2
      | cons other others => exact absurd (List.cons.inj same).2.symm (write_ne_closing _ _ _)
  | cons item items =>
      cases right with
      | nil => exact absurd (List.cons.inj same).2 (write_ne_closing _ _ _)
      | cons other others => exact congrArg (',' :: ·) (List.cons.inj same).2

/-- Objects with the same text have the same text as rows of further members. -/
theorem writeMembers_eq_of_write_eq {left right : List (String × Json)}
    (same : write (.object left) leftRest = write (.object right) rightRest) :
    writeMembers left leftRest = writeMembers right rightRest := by
  cases left with
  | nil =>
      cases right with
      | nil => exact congrArg ('}' :: ·) (List.cons.inj (List.cons.inj same).2).2
      | cons other others => exact absurd (List.cons.inj (List.cons.inj same).2).1 (by decide)
  | cons member members =>
      cases right with
      | nil => exact absurd (List.cons.inj (List.cons.inj same).2).1 (by decide)
      | cons other others => exact congrArg (',' :: ·) (List.cons.inj same).2

/-! ## Values -/

mutual

/-- A value and its end are read off a text in which nothing goes on with it. -/
theorem write_inj : ∀ (left right : Json) {leftRest rightRest : List Char},
    StartsWithout Numeral.continues leftRest → StartsWithout Numeral.continues rightRest →
      write left leftRest = write right rightRest → left = right ∧ leftRest = rightRest
  | .null, right, _, _, _, _, same => by
      cases right with
      | null => exact ⟨rfl, by simpa only [write, List.cons.injEq, true_and] using same⟩
      | _ => cases kind_eq_of_write_eq same
  | .bool flag, right, _, _, _, _, same => by
      cases right with
      | bool other => cases flag <;> cases other <;> simp_all [write]
      | _ => cases kind_eq_of_write_eq same
  | .number value, right, _, _, leftStops, rightStops, same => by
      cases right with
      | number other =>
          obtain ⟨rfl, sameRest⟩ := Number.text_append_inj leftStops rightStops same
          exact ⟨rfl, sameRest⟩
      | _ => cases kind_eq_of_write_eq same
  | .string text, right, _, _, _, _, same => by
      cases right with
      | string other =>
          obtain ⟨rfl, sameRest⟩ := writeString_inj same
          exact ⟨rfl, sameRest⟩
      | _ => cases kind_eq_of_write_eq same
  | .array items, right, _, _, _, _, same => by
      cases right with
      | array others =>
          obtain ⟨rfl, sameRest⟩ := writeItems_inj items others (writeItems_eq_of_write_eq same)
          exact ⟨rfl, sameRest⟩
      | _ => cases kind_eq_of_write_eq same
  | .object members, right, _, _, _, _, same => by
      cases right with
      | object others =>
          obtain ⟨rfl, sameRest⟩ :=
            writeMembers_inj members others (writeMembers_eq_of_write_eq same)
          exact ⟨rfl, sameRest⟩
      | _ => cases kind_eq_of_write_eq same

/-- A row of items and its end are read off a text. -/
theorem writeItems_inj : ∀ (left right : List Json) {leftRest rightRest : List Char},
    writeItems left leftRest = writeItems right rightRest → left = right ∧ leftRest = rightRest
  | [], [], _, _, same => ⟨rfl, (List.cons.inj same).2⟩
  | left :: lefts, right :: rights, leftRest, rightRest, same => by
      obtain ⟨rfl, others⟩ := write_inj left right (startsWithout_writeItems lefts leftRest)
        (startsWithout_writeItems rights rightRest) (List.cons.inj same).2
      obtain ⟨rfl, sameRest⟩ := writeItems_inj lefts rights others
      exact ⟨rfl, sameRest⟩
  | [], _ :: _, _, _, same => absurd (List.cons.inj same).1 (by decide)
  | _ :: _, [], _, _, same => absurd (List.cons.inj same).1 (by decide)

/-- A row of members and its end are read off a text. -/
theorem writeMembers_inj : ∀ (left right : List (String × Json)) {leftRest rightRest : List Char},
    writeMembers left leftRest = writeMembers right rightRest →
      left = right ∧ leftRest = rightRest
  | [], [], _, _, same => ⟨rfl, (List.cons.inj same).2⟩
  | (name, left) :: lefts, (other, right) :: rights, leftRest, rightRest, same => by
      obtain ⟨rfl, afterName⟩ := writeString_inj (List.cons.inj same).2
      obtain ⟨rfl, others⟩ := write_inj left right (startsWithout_writeMembers lefts leftRest)
        (startsWithout_writeMembers rights rightRest) (List.cons.inj afterName).2
      obtain ⟨rfl, sameRest⟩ := writeMembers_inj lefts rights others
      exact ⟨rfl, sameRest⟩
  | [], _ :: _, _, _, same => absurd (List.cons.inj same).1 (by decide)
  | _ :: _, [], _, _, same => absurd (List.cons.inj same).1 (by decide)

end

/-- Different values have different texts. -/
theorem compact_injective : Function.Injective compact := by
  intro left right same
  have nothing : StartsWithout Numeral.continues [] := fun char starts => nomatch starts
  exact (write_inj left right nothing nothing (String.ofList_injective same)).1

end Json

end Dialogue
