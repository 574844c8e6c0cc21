/-!
# SHA-256

The 256-bit digest of a byte string, written in lower-case hexadecimal.
-/

namespace Dialogue.Sha256

/-- The eight working words. -/
structure Registers where
  a : UInt32
  b : UInt32
  c : UInt32
  d : UInt32
  e : UInt32
  f : UInt32
  g : UInt32
  h : UInt32

/-- The words before the first block. -/
def start : Registers where
  a := 0x6a09e667
  b := 0xbb67ae85
  c := 0x3c6ef372
  d := 0xa54ff53a
  e := 0x510e527f
  f := 0x9b05688c
  g := 0x1f83d9ab
  h := 0x5be0cd19

/-- The constants of the 64 rounds. -/
def constants : List UInt32 := [
  0x428a2f98, 0x71374491, 0xb5c0fbcf, 0xe9b5dba5, 0x3956c25b, 0x59f111f1, 0x923f82a4, 0xab1c5ed5,
  0xd807aa98, 0x12835b01, 0x243185be, 0x550c7dc3, 0x72be5d74, 0x80deb1fe, 0x9bdc06a7, 0xc19bf174,
  0xe49b69c1, 0xefbe4786, 0x0fc19dc6, 0x240ca1cc, 0x2de92c6f, 0x4a7484aa, 0x5cb0a9dc, 0x76f988da,
  0x983e5152, 0xa831c66d, 0xb00327c8, 0xbf597fc7, 0xc6e00bf3, 0xd5a79147, 0x06ca6351, 0x14292967,
  0x27b70a85, 0x2e1b2138, 0x4d2c6dfc, 0x53380d13, 0x650a7354, 0x766a0abb, 0x81c2c92e, 0x92722c85,
  0xa2bfe8a1, 0xa81a664b, 0xc24b8b70, 0xc76c51a3, 0xd192e819, 0xd6990624, 0xf40e3585, 0x106aa070,
  0x19a4c116, 0x1e376c08, 0x2748774c, 0x34b0bcb5, 0x391c0cb3, 0x4ed8aa4a, 0x5b9cca4f, 0x682e6ff3,
  0x748f82ee, 0x78a5636f, 0x84c87814, 0x8cc70208, 0x90befffa, 0xa4506ceb, 0xbef9a3f7, 0xc67178f2]

/-- Rotates a word to the right. -/
def rotate (word amount : UInt32) : UInt32 :=
  (word >>> amount) ||| (word <<< (32 - amount))

/-- The message schedule, the latest word first, after some more words. -/
def extend : Nat → List UInt32 → List UInt32
  | 0, words => words
  | count + 1, words =>
      let early := words.getD 14 0
      let late := words.getD 1 0
      let low := rotate early 7 ^^^ rotate early 18 ^^^ (early >>> 3)
      let high := rotate late 17 ^^^ rotate late 19 ^^^ (late >>> 10)
      extend count ((words.getD 15 0 + low + words.getD 6 0 + high) :: words)

/-- One round. -/
def round (state : Registers) (input : UInt32 × UInt32) : Registers :=
  let high := rotate state.e 6 ^^^ rotate state.e 11 ^^^ rotate state.e 25
  let choice := (state.e &&& state.f) ^^^ (~~~state.e &&& state.g)
  let first := state.h + high + choice + input.1 + input.2
  let low := rotate state.a 2 ^^^ rotate state.a 13 ^^^ rotate state.a 22
  let majority := (state.a &&& state.b) ^^^ (state.a &&& state.c) ^^^ (state.b &&& state.c)
  { a := first + low + majority
    b := state.a
    c := state.b
    d := state.c
    e := state.d + first
    f := state.e
    g := state.f
    h := state.g }

/-- Takes a block of sixteen words in. -/
def absorb (state : Registers) (block : List UInt32) : Registers :=
  let mixed := (constants.zip (extend 48 block.reverse).reverse).foldl round state
  { a := state.a + mixed.a
    b := state.b + mixed.b
    c := state.c + mixed.c
    d := state.d + mixed.d
    e := state.e + mixed.e
    f := state.f + mixed.f
    g := state.g + mixed.g
    h := state.h + mixed.h }

/-- Takes several blocks in. -/
def absorbAll : Nat → Registers → List UInt32 → Registers
  | 0, state, _ => state
  | count + 1, state, words => absorbAll count (absorb state (words.take 16)) (words.drop 16)

/-- The number of zero bytes that fill a message up to whole blocks. -/
def padding (length : Nat) : Nat :=
  (119 - length % 64) % 64

/-- The bytes of the length in bits, the highest first. -/
def lengthBytes (length : Nat) : List UInt8 :=
  (List.range 8).reverse.map fun place => (length * 8 / Nat.pow 256 place).toUInt8

/-- The message with its padding and length. -/
def padded (message : List UInt8) : List UInt8 :=
  message ++ 0x80 :: List.replicate (padding message.length) 0 ++ lengthBytes message.length

/-- Four bytes make a word, the highest first. -/
def words : List UInt8 → List UInt32
  | first :: second :: third :: fourth :: rest =>
      ((first.toUInt32 <<< 24) ||| (second.toUInt32 <<< 16) ||| (third.toUInt32 <<< 8)
        ||| fourth.toUInt32) :: words rest
  | _ => []

/-- The eight hexadecimal digits of a word. -/
def hexWord (word : UInt32) : List Char :=
  (List.range 8).reverse.map fun place => Nat.digitChar (word.toNat / Nat.pow 16 place % 16)

/-- The digest of a byte string in hexadecimal. -/
def hexDigest (message : List UInt8) : String :=
  let all := words (padded message)
  let state := absorbAll (all.length / 16) start all
  String.ofList ([state.a, state.b, state.c, state.d, state.e, state.f, state.g, state.h].flatMap
    hexWord)

end Dialogue.Sha256
