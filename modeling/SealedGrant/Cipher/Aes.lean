import SealedGrant.Bytes

/-! # The AES block cipher

Bytes are elements of the field with 256 elements, a state is four columns of four bytes, and a
round substitutes bytes, shifts rows, mixes columns and adds a round key. Keys of 16, 24 and 32
bytes give 10, 12 and 14 rounds. Only encryption is defined: counter mode needs no inverse.
-/

namespace SealedGrant.Aes

/-- Multiply by the indeterminate, modulo `x⁸ + x⁴ + x³ + x + 1`. -/
def double (a : UInt8) : UInt8 :=
  if a < 0x80 then a <<< 1 else (a <<< 1) ^^^ 0x1b

/-- The product of a byte with a number, by doubling: the low bit decides whether the byte is
added. -/
def times (a : UInt8) : (bits factor : Nat) → UInt8
  | 0, _ => 0
  | bits + 1, factor =>
      (if factor % 2 = 1 then a else 0) ^^^ times (double a) bits (factor / 2)

def mul (a b : UInt8) : UInt8 :=
  times a 8 b.toNat

/-- The power of a byte with exponent `2 ^ n - 2`; for eight it is the inverse. -/
def inversePower (a : UInt8) : Nat → UInt8
  | 0 => 1
  | 1 => 1
  | n + 1 => let root := mul (inversePower a n) a; mul root root

/-- The inverse of a byte; zero for zero. -/
def inverse (a : UInt8) : UInt8 :=
  inversePower a 8

/-- Rotate the bits of a byte to the left. -/
def rotateBits (a : UInt8) (places : UInt8) : UInt8 :=
  (a <<< places) ||| (a >>> (8 - places))

/-- The substitution of a byte: its inverse under an affine map. -/
def substitution (a : UInt8) : UInt8 :=
  let b := inverse a
  b ^^^ rotateBits b 1 ^^^ rotateBits b 2 ^^^ rotateBits b 3 ^^^ rotateBits b 4 ^^^ 0x63

def substitutions : Array UInt8 :=
  Array.ofFn fun index : Fin 256 => substitution (UInt8.ofNat index.val)

/-- The substitution of a byte, looked up. -/
def substitute (a : UInt8) : UInt8 :=
  substitutions.getD a.toNat 0

/-- A column of four bytes. -/
structure Word where
  b0 : UInt8
  b1 : UInt8
  b2 : UInt8
  b3 : UInt8
  deriving DecidableEq, Repr

namespace Word

def zero : Word := ⟨0, 0, 0, 0⟩

def add (v w : Word) : Word :=
  ⟨v.b0 ^^^ w.b0, v.b1 ^^^ w.b1, v.b2 ^^^ w.b2, v.b3 ^^^ w.b3⟩

def substituted (w : Word) : Word :=
  ⟨substitute w.b0, substitute w.b1, substitute w.b2, substitute w.b3⟩

/-- Move the first byte to the end. -/
def rotated (w : Word) : Word :=
  ⟨w.b1, w.b2, w.b3, w.b0⟩

/-- Multiply a column by the mixing matrix. -/
def mixed (w : Word) : Word :=
  let whole := w.b0 ^^^ w.b1 ^^^ w.b2 ^^^ w.b3
  ⟨w.b0 ^^^ whole ^^^ double (w.b0 ^^^ w.b1), w.b1 ^^^ whole ^^^ double (w.b1 ^^^ w.b2),
    w.b2 ^^^ whole ^^^ double (w.b2 ^^^ w.b3), w.b3 ^^^ whole ^^^ double (w.b3 ^^^ w.b0)⟩

def toBytes (w : Word) : Bytes :=
  [w.b0, w.b1, w.b2, w.b3]

/-- Cut bytes into words; a short rest is dropped. -/
def ofBytes : Bytes → List Word
  | a :: b :: c :: d :: rest => ⟨a, b, c, d⟩ :: ofBytes rest
  | _ => []

end Word

/-- A state of four columns. -/
structure State where
  c0 : Word
  c1 : Word
  c2 : Word
  c3 : Word
  deriving DecidableEq, Repr

namespace State

def zero : State := ⟨.zero, .zero, .zero, .zero⟩

def add (s t : State) : State :=
  ⟨s.c0.add t.c0, s.c1.add t.c1, s.c2.add t.c2, s.c3.add t.c3⟩

def substituted (s : State) : State :=
  ⟨s.c0.substituted, s.c1.substituted, s.c2.substituted, s.c3.substituted⟩

/-- Shift row `r` to the left by `r` columns. -/
def shifted (s : State) : State :=
  ⟨⟨s.c0.b0, s.c1.b1, s.c2.b2, s.c3.b3⟩, ⟨s.c1.b0, s.c2.b1, s.c3.b2, s.c0.b3⟩,
    ⟨s.c2.b0, s.c3.b1, s.c0.b2, s.c1.b3⟩, ⟨s.c3.b0, s.c0.b1, s.c1.b2, s.c2.b3⟩⟩

def mixed (s : State) : State :=
  ⟨s.c0.mixed, s.c1.mixed, s.c2.mixed, s.c3.mixed⟩

/-- The bytes of a state, column by column. -/
def toBytes (s : State) : Bytes :=
  s.c0.toBytes ++ s.c1.toBytes ++ s.c2.toBytes ++ s.c3.toBytes

/-- Group words into states; a short rest is dropped. -/
def ofWords : List Word → List State
  | a :: b :: c :: d :: rest => ⟨a, b, c, d⟩ :: ofWords rest
  | _ => []

def ofBytes (bytes : Bytes) : State :=
  (ofWords (Word.ofBytes bytes)).headD zero

theorem length_toBytes (s : State) : s.toBytes.length = 16 := rfl

end State

/-- The round constant: a power of the indeterminate in the first byte. -/
def roundConstant : Nat → UInt8
  | 0 => 1
  | n + 1 => double (roundConstant n)

/-- The next word of a key schedule, from the words before it and the length of the key in words. -/
def nextWord (keyWords : Nat) (words : Array Word) : Word :=
  let position := words.size
  let last := words.getD (position - 1) .zero
  let changed :=
    if position % keyWords = 0 then
      last.rotated.substituted.add ⟨roundConstant (position / keyWords - 1), 0, 0, 0⟩
    else if 6 < keyWords && position % keyWords = 4 then last.substituted
    else last
  (words.getD (position - keyWords) .zero).add changed

def extendWords (keyWords : Nat) (words : Array Word) : Nat → Array Word
  | 0 => words
  | count + 1 => extendWords keyWords (words.push (nextWord keyWords words)) count

/-- The round keys of a key: one more than there are rounds. -/
def roundKeys (key : Bytes) : List State :=
  let words := Word.ofBytes key
  let keyWords := words.length
  State.ofWords (extendWords keyWords words.toArray (4 * (keyWords + 7) - keyWords)).toList

/-- The rounds after the first key was added; the last one mixes no columns. -/
def rounds (state : State) : List State → State
  | [] => state
  | [key] => state.substituted.shifted.add key
  | key :: rest => rounds (state.substituted.shifted.mixed.add key) rest

def encryptBlock (keys : List State) (block : State) : State :=
  match keys with
  | [] => block
  | first :: rest => rounds (block.add first) rest

end SealedGrant.Aes
