import SealedGrant.Bytes

/-! # The SHA-256 digest

The message is padded to blocks of 64 bytes; each block is expanded to 64 words and mixed into a
state of eight words. All arithmetic is on 32-bit words that wrap around.
-/

namespace SealedGrant.Sha256

/-- The round constants: the fractional parts of the cube roots of the first 64 primes. -/
def roundConstants : List UInt32 := [
  0x428a2f98, 0x71374491, 0xb5c0fbcf, 0xe9b5dba5, 0x3956c25b, 0x59f111f1, 0x923f82a4, 0xab1c5ed5,
  0xd807aa98, 0x12835b01, 0x243185be, 0x550c7dc3, 0x72be5d74, 0x80deb1fe, 0x9bdc06a7, 0xc19bf174,
  0xe49b69c1, 0xefbe4786, 0x0fc19dc6, 0x240ca1cc, 0x2de92c6f, 0x4a7484aa, 0x5cb0a9dc, 0x76f988da,
  0x983e5152, 0xa831c66d, 0xb00327c8, 0xbf597fc7, 0xc6e00bf3, 0xd5a79147, 0x06ca6351, 0x14292967,
  0x27b70a85, 0x2e1b2138, 0x4d2c6dfc, 0x53380d13, 0x650a7354, 0x766a0abb, 0x81c2c92e, 0x92722c85,
  0xa2bfe8a1, 0xa81a664b, 0xc24b8b70, 0xc76c51a3, 0xd192e819, 0xd6990624, 0xf40e3585, 0x106aa070,
  0x19a4c116, 0x1e376c08, 0x2748774c, 0x34b0bcb5, 0x391c0cb3, 0x4ed8aa4a, 0x5b9cca4f, 0x682e6ff3,
  0x748f82ee, 0x78a5636f, 0x84c87814, 0x8cc70208, 0x90befffa, 0xa4506ceb, 0xbef9a3f7, 0xc67178f2]

/-- The eight words of the state. -/
structure State where
  a : UInt32
  b : UInt32
  c : UInt32
  d : UInt32
  e : UInt32
  f : UInt32
  g : UInt32
  h : UInt32

/-- The state before the first block: the fractional parts of the square roots of the first eight
primes. -/
def State.initial : State :=
  ⟨0x6a09e667, 0xbb67ae85, 0x3c6ef372, 0xa54ff53a, 0x510e527f, 0x9b05688c, 0x1f83d9ab, 0x5be0cd19⟩

def rotateRight (word : UInt32) (count : UInt32) : UInt32 :=
  (word >>> count) ||| (word <<< (32 - count))

/-- The padded message: a one bit, zeros, and the length in bits. -/
def pad (message : Bytes) : Bytes :=
  let length := message.length
  message ++ 0x80 :: List.replicate ((119 - length % 64) % 64) 0 ++ Bytes.ofNat 8 (8 * length)

/-- The words of bytes, four bytes each. -/
def words : Bytes → List UInt32
  | b₀ :: b₁ :: b₂ :: b₃ :: rest =>
      ((b₀.toUInt32 <<< 24) ||| (b₁.toUInt32 <<< 16) ||| (b₂.toUInt32 <<< 8) ||| b₃.toUInt32) ::
        words rest
  | _ => []

/-- The next word of the schedule, from the sixteen words before it, oldest first. -/
def nextWord (window : List UInt32) : UInt32 :=
  match window with
  | w₀ :: w₁ :: rest =>
      let w₉ := rest.getD 7 0
      let w₁₄ := rest.getD 12 0
      let low := rotateRight w₁ 7 ^^^ rotateRight w₁ 18 ^^^ (w₁ >>> 3)
      let high := rotateRight w₁₄ 17 ^^^ rotateRight w₁₄ 19 ^^^ (w₁₄ >>> 10)
      w₀ + low + w₉ + high
  | _ => 0

/-- So many words of the schedule, from a window of sixteen words. -/
def scheduleFrom (window : List UInt32) : Nat → List UInt32
  | 0 => []
  | count + 1 =>
      match window with
      | [] => []
      | first :: rest => first :: scheduleFrom (rest ++ [nextWord window]) count

/-- Mix one word of the schedule with its constant into the state. -/
def State.round (state : State) (input : UInt32 × UInt32) : State :=
  let (constant, word) := input
  let sum₁ := rotateRight state.e 6 ^^^ rotateRight state.e 11 ^^^ rotateRight state.e 25
  let choice := (state.e &&& state.f) ^^^ (~~~state.e &&& state.g)
  let first := state.h + sum₁ + choice + constant + word
  let sum₀ := rotateRight state.a 2 ^^^ rotateRight state.a 13 ^^^ rotateRight state.a 22
  let majority := (state.a &&& state.b) ^^^ (state.a &&& state.c) ^^^ (state.b &&& state.c)
  ⟨first + sum₀ + majority, state.a, state.b, state.c, state.d + first, state.e, state.f, state.g⟩

def State.add (left right : State) : State :=
  ⟨left.a + right.a, left.b + right.b, left.c + right.c, left.d + right.d,
    left.e + right.e, left.f + right.f, left.g + right.g, left.h + right.h⟩

/-- Mix a block of sixteen words into the state. -/
def State.block (state : State) (block : List UInt32) : State :=
  state.add ((roundConstants.zip (scheduleFrom block 64)).foldl State.round state)

/-- Cut so many blocks of sixteen words. -/
def cutBlocks : (count : Nat) → List UInt32 → List (List UInt32)
  | 0, _ => []
  | count + 1, words => words.take 16 :: cutBlocks count (words.drop 16)

def blocks (words : List UInt32) : List (List UInt32) :=
  cutBlocks (words.length / 16) words

def wordBytes (word : UInt32) : Bytes :=
  Bytes.ofNat 4 word.toNat

/-- The 32 bytes of the digest of a message. -/
def digest (message : Bytes) : Bytes :=
  let final := (blocks (words (pad message))).foldl State.block State.initial
  [final.a, final.b, final.c, final.d, final.e, final.f, final.g, final.h].flatMap wordBytes

end SealedGrant.Sha256
