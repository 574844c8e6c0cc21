import Dialogue.Url.Address
import Dialogue.Url.Percent
import Dialogue.Url.Punycode

/-!
# Hosts

A host is a name or a numeric address.  Names are compared in lower case; some
characters in them count as dots, some are dropped, and some have no place there.
-/

namespace Dialogue.Url

/-- Where an address leads. -/
inductive Host where
  /-- A name. -/
  | domain (name : String)
  /-- An address of four bytes. -/
  | ipv4 (address : Nat)
  /-- An address of eight groups. -/
  | ipv6 (groups : List Nat)
deriving DecidableEq

/-- Whether a code is in one of the listed ranges. -/
def inRanges (ranges : List (Nat × Nat)) (code : Nat) : Bool :=
  ranges.any fun range => range.1 ≤ code && code ≤ range.2

/-- The characters that are dropped from names. -/
def droppedRanges : List (Nat × Nat) := [
  (0xAD, 0xAD), (0x34F, 0x34F), (0x180B, 0x180D), (0x180F, 0x180F), (0x200B, 0x200B),
  (0x2060, 0x2060), (0x2064, 0x2064), (0xFE00, 0xFE0F), (0xFEFF, 0xFEFF),
  (0x1BCA0, 0x1BCA3), (0xE0100, 0xE01EF)]

/-- The characters beyond ASCII that have no place in names: controls, blanks, marks
of direction, private characters, and those that stand for a reserved character. -/
def refusedRanges : List (Nat × Nat) := [
  (0x80, 0xA0), (0xA8, 0xA8), (0xAF, 0xAF), (0xB4, 0xB4), (0xB8, 0xB8),
  (0x2D8, 0x2DD), (0x37A, 0x37A), (0x37E, 0x37E), (0x384, 0x385), (0x61C, 0x61C),
  (0x1680, 0x1680), (0x180E, 0x180E), (0x2000, 0x200A), (0x200C, 0x200F), (0x2017, 0x2017),
  (0x2028, 0x202F), (0x203C, 0x203C), (0x203E, 0x203E), (0x2047, 0x2049), (0x205F, 0x205F),
  (0x2061, 0x2063), (0x2065, 0x206F), (0x2100, 0x2101), (0x2105, 0x2106), (0x2474, 0x24B5),
  (0x2A74, 0x2A74), (0x2FF0, 0x2FFF), (0x3000, 0x3000), (0x309B, 0x309C), (0x3200, 0x321E),
  (0x3220, 0x3243), (0xE000, 0xF8FF), (0xFDD0, 0xFDEF), (0xFFF0, 0xFFFF),
  (0xE0000, 0xE00FF), (0xE01F0, 0x10FFFF)]

/-- The reserved characters of ASCII, beside controls and blanks. -/
def reservedChars : List Char :=
  ['%', '#', '/', ':', '<', '>', '?', '@', '[', '\\', ']', '^', '|']

/-- Whether a character has no place in a name. -/
def isRefused (char : Char) : Bool :=
  char.toNat ≤ 0x20 || char.toNat == 0x7F || reservedChars.contains char
    || inRanges refusedRanges char.toNat

/-- What a character of a name counts as. -/
def mapChar (char : Char) : List Char :=
  let code := char.toNat
  if inRanges droppedRanges code then []
  else if code = 0x3002 ∨ code = 0xFF61 then ['.']
  else if 0xFF01 ≤ code ∧ code ≤ 0xFF5E then [(Char.ofNat (code - 0xFEE0)).toLower]
  else [char.toLower]

/-- Whether a label can stand in a name: what is spelled behind `xn--` has to need
the spelling. -/
def isLabel : List Char → Bool
  | 'x' :: 'n' :: '-' :: '-' :: spelling =>
      match Punycode.decode? spelling with
      | some label => label.any (0x80 ≤ ·.toNat) && !label.any isRefused
      | none => false
  | label => !label.any isRefused

/-- The name that a text denotes. -/
def domain? (chars : List Char) : Option (List Char) := do
  let plain ← decode? chars
  let name := plain.flatMap mapChar
  if !name.isEmpty && (Text.split (· == '.') name).all isLabel then some name else none

/-- The address between brackets. -/
def bracketed? (chars : List Char) : Option Host :=
  if chars.getLast? = some ']' then (ipv6? chars.dropLast).map Host.ipv6 else none

/-- The host that a text denotes where names are looked up. -/
def Host.ofChars? : List Char → Option Host
  | '[' :: chars => bracketed? chars
  | chars => do
      let name ← domain? chars
      if endsInNumber name then (ipv4? name).map Host.ipv4
      else some (.domain (String.ofList name))

/-- The characters that a host of another kind of address cannot have. -/
def opaqueRefused : List Char :=
  ['\x00', '\t', '\n', '\r', ' ', '#', '/', ':', '<', '>', '?', '@', '[', '\\', ']', '^', '|']

/-- The host that a text denotes where names are not looked up. -/
def Host.ofOpaque? : List Char → Option Host
  | '[' :: chars => bracketed? chars
  | chars =>
      if chars.any opaqueRefused.contains then none
      else some (.domain (String.ofList (encode (fun _ => false) chars)))

end Dialogue.Url
