import SealedGrant.Bytes

/-! # The Blowfish cipher with a salted key schedule

The cipher starts from the binary digits of the fractional part of π, eighteen words of subkeys and
four boxes of 256 words. The salted schedule mixes a key and a salt into them; repeating it makes a
password hash as slow as wanted.
-/

namespace SealedGrant.Blowfish

/-- The sum of `scale / ((2k + 1) · base ^ (2k + 1))` with alternating signs, as far as its terms
are not zero: the arc tangent of `1 / base`, scaled. The power of the base is passed on. -/
def arcTangentFrom (square : Nat) : (terms power odd : Nat) → Int
  | 0, _, _ => 0
  | terms + 1, power, odd =>
      if power = 0 then 0
      else (power / odd : Nat) - arcTangentFrom square terms (power / square) (odd + 2)

/-- The arc tangent of `1 / base` in units of `1 / 2 ^ bits`. -/
def arcTangent (bits base : Nat) : Int :=
  arcTangentFrom (base * base) (bits + 1) ((1 <<< bits) / base) 1

/-- How many words the cipher starts from. -/
def wordCount : Nat := 18 + 4 * 256

/-- The first binary digits of the fractional part of π, by Machin's formula. Sixty-four further
digits take up the rounding of the terms. -/
def piDigits : Nat :=
  let bits := 32 * wordCount + 64
  let circle := 4 * (4 * arcTangent bits 5 - arcTangent bits 239)
  (circle.toNat % (1 <<< bits)) >>> 64

/-- The words of π from a position on. -/
def piWords (first count : Nat) : Array UInt32 :=
  Array.ofFn fun index : Fin count =>
    UInt32.ofNat (piDigits >>> (32 * (wordCount - 1 - first - index.val)))

/-- The state of the cipher. -/
structure State where
  subkeys : Array UInt32
  boxes : Array UInt32

/-- The state before any key was mixed in. -/
def State.initial : State :=
  ⟨piWords 0 18, piWords 18 1024⟩

/-- The word of a box at a byte. -/
def State.box (state : State) (index : Nat) (word : UInt32) (shift : UInt32) : UInt32 :=
  state.boxes.getD (256 * index + ((word >>> shift) &&& 0xff).toNat) 0

def State.mix (state : State) (word : UInt32) : UInt32 :=
  ((state.box 0 word 24 + state.box 1 word 16) ^^^ state.box 2 word 8) + state.box 3 word 0

def State.rounds (state : State) (left right : UInt32) (round : Nat) : (count : Nat) →
    UInt32 × UInt32
  | 0 => (right ^^^ state.subkeys.getD 17 0, left ^^^ state.subkeys.getD 16 0)
  | count + 1 =>
      let mixed := left ^^^ state.subkeys.getD round 0
      state.rounds (right ^^^ state.mix mixed) mixed (round + 1) count

def State.encrypt (state : State) (block : UInt32 × UInt32) : UInt32 × UInt32 :=
  state.rounds block.1 block.2 0 16

/-- Words of four bytes each from a byte string that is repeated without end. -/
def cyclicWords (bytes : Array UInt8) (count : Nat) : Array UInt32 :=
  Array.ofFn fun index : Fin count =>
    (List.range 4).foldl (fun word offset =>
      word <<< 8 ||| (bytes.getD ((4 * index.val + offset) % bytes.size) 0).toUInt32) 0

/-- Fill pairs of words from a position on with encryptions of the salt, each one of the block
before it; `place` puts a word at a position. -/
def fill (salt : Array UInt32) (place : State → Nat → UInt32 → State) (offset : Nat) :
    (pairs : Nat) → (position : Nat) → UInt32 × UInt32 → State → State × (UInt32 × UInt32)
  | 0, _, block, state => (state, block)
  | pairs + 1, position, block, state =>
      let turn := (position + offset) % 4
      let next := state.encrypt
        (block.1 ^^^ salt.getD turn 0, block.2 ^^^ salt.getD (turn + 1) 0)
      fill salt place offset pairs (position + 2) next
        (place (place state position next.1) (position + 1) next.2)

def State.putSubkey (state : State) (position : Nat) (word : UInt32) : State :=
  { state with subkeys := state.subkeys.setIfInBounds position word }

def State.putBox (state : State) (position : Nat) (word : UInt32) : State :=
  { state with boxes := state.boxes.setIfInBounds position word }

/-- Mix a key and a salt of four words into the state. -/
def State.expand (state : State) (key : Array UInt32) (salt : Array UInt32) : State :=
  let keyed := { state with subkeys := state.subkeys.zipWith (· ^^^ ·) key }
  let (subkeyed, block) := fill salt .putSubkey 0 9 0 (0, 0) keyed
  (fill salt .putBox 2 512 0 block subkeyed).1

/-- Mix a key and a salt in turn, without salt, so many times. -/
def State.expandTimes (key salt : Array UInt32) : (count : Nat) → State → State
  | 0, state => state
  | count + 1, state =>
      let blank : Array UInt32 := #[0, 0, 0, 0]
      expandTimes key salt count ((state.expand key blank).expand salt blank)

/-- The state that a password, a salt of sixteen bytes and a cost give. -/
def State.salted (cost : Nat) (salt key : Bytes) : State :=
  let keyWords := cyclicWords key.toArray 18
  let saltWords := cyclicWords salt.toArray 4
  expandTimes keyWords (cyclicWords salt.toArray 18) (1 <<< cost)
    (initial.expand keyWords saltWords)

def State.encryptTimes (state : State) : (count : Nat) → UInt32 × UInt32 → UInt32 × UInt32
  | 0, block => block
  | count + 1, block => state.encryptTimes count (state.encrypt block)

end SealedGrant.Blowfish
