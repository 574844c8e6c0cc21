/-!
# Punycode

Labels of host names that start with `xn--` spell other characters by letters,
digits and hyphens: the plain characters first, then for each other one the distance
from the last one, in digits of a base that adapts to the distances seen so far.
-/

namespace Dialogue.Url.Punycode

/-- The value of a digit in base 36: letters in either case, then digits. -/
def digitValue? (char : Char) : Option Nat :=
  if 'a' ≤ char ∧ char ≤ 'z' then some (char.toNat - 'a'.toNat)
  else if 'A' ≤ char ∧ char ≤ 'Z' then some (char.toNat - 'A'.toNat)
  else if '0' ≤ char ∧ char ≤ '9' then some (char.toNat - '0'.toNat + 26)
  else none

/-- The value from which on a digit at a place is not the last one. -/
def threshold (place bias : Nat) : Nat :=
  max 1 (min 26 (place - bias))

/-- Shrinks a distance until it is small, and counts the steps by places. -/
def shrink (delta place : Nat) : Nat × Nat :=
  if 455 < delta then shrink (delta / 35) (place + 36) else (delta, place)
termination_by delta
decreasing_by exact Nat.div_lt_self (by omega) (by omega)

/-- The bias after a distance. -/
def adapt (delta count : Nat) (first : Bool) : Nat :=
  let delta := if first then delta / 700 else delta / 2
  let (delta, place) := shrink (delta + delta / count) 0
  place + 36 * delta / (delta + 38)

/-- A distance at the front, added to a number, and the text behind it. -/
def readDelta (bias : Nat) : List Char → Nat → Nat → Nat → Option (Nat × List Char)
  | [], _, _, _ => none
  | char :: chars, place, weight, total =>
      match digitValue? char with
      | none => none
      | some digit =>
          let total := total + digit * weight
          if digit < threshold place bias then some (total, chars)
          else readDelta bias chars (place + 36) (weight * (36 - threshold place bias)) total

theorem length_readDelta {bias : Nat} {chars : List Char} {place weight total : Nat}
    {result : Nat × List Char} (hread : readDelta bias chars place weight total = some result) :
    result.2.length < chars.length := by
  induction chars generalizing place weight total with
  | nil => simp [readDelta] at hread
  | cons char chars ih =>
      rw [readDelta] at hread
      split at hread
      · simp at hread
      · split at hread
        · cases hread
          simp
        · exact Nat.lt_succ_of_lt (ih hread)

/-- Inserts one character after the other into those read so far. -/
def insertAll (bias code total : Nat) (read : List Char) (chars : List Char) :
    Option (List Char) :=
  if chars.isEmpty then some read else
  match hread : readDelta bias chars 36 1 total with
  | none => none
  | some (next, rest) =>
      let count := read.length + 1
      let code := code + next / count
      let place := next % count
      if code < 0xD800 ∨ 0xDFFF < code ∧ code < 0x110000 then
        insertAll (adapt (next - total) count (total == 0)) code (place + 1)
          (read.insertIdx place (Char.ofNat code)) rest
      else none
termination_by chars.length
decreasing_by exact length_readDelta hread

/-- The label that a text behind `xn--` spells.  The plain characters stand before
the last hyphen. -/
def decode? (chars : List Char) : Option (List Char) :=
  let (plain, spelled) := match chars.reverse.span (· != '-') with
    | (spelled, []) => ([], spelled.reverse)
    | (spelled, _ :: plain) => (plain.reverse, spelled.reverse)
  if plain.all (·.toNat < 0x80) then insertAll 72 128 0 plain spelled else none

end Dialogue.Url.Punycode
