import Dialogue.Number.Hex
import Dialogue.Text.Split

/-!
# Numeric host addresses

A host may be given by its number instead of a name: with four bytes between dots,
of which the last may stand for several, or with eight groups of hexadecimal digits
between colons, of which a run of zeros may be left out.
-/

namespace Dialogue.Url

/-- The number that digits denote in a base of at most sixteen. -/
def numberIn? (base : Nat) (digits : List Char) : Option Nat :=
  digits.foldlM
    (fun value char =>
      (hexValue? char).bind fun digit =>
        if digit < base then some (value * base + digit) else none)
    0

/-- The number of one part of an address: hexadecimal behind `0x`, octal behind
another zero, and decimal otherwise. -/
def addressPart? : List Char → Option Nat
  | [] => none
  | ['0'] => some 0
  | '0' :: 'x' :: digits => numberIn? 16 digits
  | '0' :: 'X' :: digits => numberIn? 16 digits
  | '0' :: digits => numberIn? 8 digits
  | digits => numberIn? 10 digits

/-- The parts between dots, without an empty last one. -/
def dottedParts (chars : List Char) : List (List Char) :=
  let parts := Text.split (· == '.') chars
  if parts.getLast? = some [] then parts.dropLast else parts

/-- Whether a host is meant as a numeric address: its last part is a number. -/
def endsInNumber (chars : List Char) : Bool :=
  match (dottedParts chars).getLast? with
  | none => false
  | some part =>
      (!part.isEmpty && part.all Char.isDigit) || (addressPart? part).isSome

/-- The number that bytes denote, the first one the most significant. -/
def numberOfBytes (bytes : List Nat) : Nat :=
  bytes.foldl (fun value byte => value * 256 + byte) 0

/-- The address that parts between dots denote.  The last part fills all the bytes
that the others leave. -/
def ipv4? (chars : List Char) : Option Nat := do
  let numbers ← (dottedParts chars).mapM addressPart?
  let last ← numbers.getLast?
  let firsts := numbers.dropLast
  let room := Nat.pow 256 (4 - firsts.length)
  if firsts.length ≤ 3 ∧ firsts.all (· < 256) ∧ last < room then
    some (numberOfBytes firsts * room + last)
  else none

/-- A decimal byte without leading zeros. -/
def plainByte? (chars : List Char) : Option Nat :=
  if chars.isEmpty || chars.length != 1 && chars.head? == some '0' then none
  else (numberIn? 10 chars).filter (· < 256)

/-- Four decimal bytes between dots, as two groups. -/
def dottedGroups? (chars : List Char) : Option (List Nat) := do
  let bytes ← (Text.split (· == '.') chars).mapM plainByte?
  match bytes with
  | [first, second, third, fourth] => some [first * 256 + second, third * 256 + fourth]
  | _ => none

/-- One to four hexadecimal digits. -/
def group? (chars : List Char) : Option Nat :=
  if chars.isEmpty || 4 < chars.length then none else hexNumber? chars

/-- The groups between colons; the last ones may be written as bytes between dots. -/
def groups? (isLast : Bool) (chars : List Char) : Option (List Nat) := do
  if chars.isEmpty then return []
  let parts := Text.split (· == ':') chars
  let firsts ← parts.dropLast.mapM group?
  let last := parts.getLastD []
  let lasts ← ((group? last).map ([·])).or (if isLast then dottedGroups? last else none)
  return firsts ++ lasts

/-- What stands before and after the first pair of colons. -/
def cutPair : List Char → Option (List Char × List Char)
  | ':' :: ':' :: chars => some ([], chars)
  | char :: chars => (cutPair chars).map fun (before, after) => (char :: before, after)
  | [] => none

/-- The eight groups of an address.  A pair of colons stands for one or more groups
of zeros. -/
def ipv6? (chars : List Char) : Option (List Nat) :=
  match cutPair chars with
  | none => (groups? true chars).filter (·.length == 8)
  | some (before, after) => do
      let before ← groups? false before
      let after ← groups? true after
      let given := before.length + after.length
      if given < 8 then some (before ++ List.replicate (8 - given) 0 ++ after) else none

end Dialogue.Url
