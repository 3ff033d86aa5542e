import SealedGrant.Cipher.Aes

/-! # Authenticated encryption in Galois counter mode

An encrypted text is the plaintext under a key stream, followed by a tag over the header and what
precedes it. Decryption recomputes the tag first, so it succeeds on exactly the texts that
encryption writes: `decrypt?_eq_some_iff`.
-/

namespace SealedGrant.Gcm

/-- The number of bytes in a tag. -/
def tagLength : Nat := 16

/-- An element of the field with `2 ^ 128` elements: the bits of a polynomial, that of the constant
first. -/
structure Element where
  high : UInt64
  low : UInt64
  deriving DecidableEq, Repr

namespace Element

def zero : Element := ⟨0, 0⟩

def add (a b : Element) : Element :=
  ⟨a.high ^^^ b.high, a.low ^^^ b.low⟩

/-- Multiply by the indeterminate, modulo `x¹²⁸ + x⁷ + x² + x + 1`: the bits move to the right. -/
def shifted (a : Element) : Element :=
  let high := a.high >>> 1
  let low := (a.low >>> 1) ||| (a.high <<< 63)
  if a.low &&& 1 = 0 then ⟨high, low⟩ else ⟨high ^^^ 0xe100000000000000, low⟩

/-- Go through the highest bits of a word: each set bit adds the multiple to the sum, and each bit
shifts the multiple. -/
def addSelected (word : UInt64) : (bits : Nat) → (multiple sum : Element) → Element × Element
  | 0, multiple, sum => (multiple, sum)
  | bits + 1, multiple, sum =>
      addSelected (word <<< 1) bits multiple.shifted
        (if word >>> 63 = 0 then sum else sum.add multiple)

/-- The product of two elements: the sum of the multiples of the second that the bits of the first
select. -/
def mul (a b : Element) : Element :=
  let (multiple, sum) := addSelected a.high 64 b zero
  (addSelected a.low 64 multiple sum).2

/-- The word of the first eight bytes. -/
def wordOfBytes (bytes : Bytes) : UInt64 :=
  (bytes.take 8).foldl (fun word byte => (word <<< 8) ||| byte.toUInt64) 0

def ofBytes (bytes : Bytes) : Element :=
  ⟨wordOfBytes bytes, wordOfBytes (bytes.drop 8)⟩

def toBytes (a : Element) : Bytes :=
  Bytes.ofNat 8 a.high.toNat ++ Bytes.ofNat 8 a.low.toNat

theorem length_toBytes (a : Element) : a.toBytes.length = 16 := by
  simp [toBytes, Bytes.length_ofNat]

end Element

/-- Cut bytes into blocks of sixteen, the last one filled up with zeros. -/
def blocks (bytes : Bytes) : List Bytes :=
  if bytes.isEmpty then []
  else
    let block := bytes.take 16
    (block ++ List.replicate (16 - block.length) 0) :: blocks (bytes.drop 16)
  termination_by bytes.length
  decreasing_by
    have : bytes ≠ [] := by simpa using ‹¬bytes.isEmpty = true›
    have := List.length_pos_iff.mpr this
    simp
    omega

/-- The hash of blocks under a hash key. -/
def hash (hashKey : Element) (input : List Bytes) : Element :=
  input.foldl (fun digest block => (digest.add (.ofBytes block)).mul hashKey) .zero

def counterBlock (nonce : Bytes) (counter : Nat) : Aes.State :=
  .ofBytes (nonce ++ Bytes.ofNat 4 counter)

/-- The key stream of `count` blocks from a counter on. -/
def keyStream (keys : List Aes.State) (nonce : Bytes) (counter : Nat) : (count : Nat) → Bytes
  | 0 => []
  | count + 1 =>
      (Aes.encryptBlock keys (counterBlock nonce counter)).toBytes ++
        keyStream keys nonce (counter + 1) count

/-- Add the key stream to a text. Doing it twice gives the text back. -/
def applyStream (keys : List Aes.State) (nonce text : Bytes) : Bytes :=
  Bytes.xor text (keyStream keys nonce 2 ((text.length + 15) / 16))

/-- The tag of a header and an encrypted text. -/
def tag (keys : List Aes.State) (nonce header text : Bytes) : Bytes :=
  let hashKey := Element.ofBytes (Aes.encryptBlock keys .zero).toBytes
  let lengths := Bytes.ofNat 8 (8 * header.length) ++ Bytes.ofNat 8 (8 * text.length)
  let digest := hash hashKey (blocks header ++ blocks text ++ [lengths])
  Bytes.xor digest.toBytes (Aes.encryptBlock keys (counterBlock nonce 1)).toBytes

/-- Encrypt a plaintext and bind a header to it. -/
def encrypt (key nonce plain header : Bytes) : Bytes :=
  let keys := Aes.roundKeys key
  let text := applyStream keys nonce plain
  text ++ tag keys nonce header text

/-- The plaintext of an encrypted text, if its tag fits. -/
def decrypt? (key nonce encrypted header : Bytes) : Option Bytes :=
  let keys := Aes.roundKeys key
  let textLength := encrypted.length - tagLength
  let text := encrypted.take textLength
  if encrypted.drop textLength = tag keys nonce header text then some (applyStream keys nonce text)
  else none

theorem length_keyStream (keys : List Aes.State) (nonce : Bytes) (counter count : Nat) :
    (keyStream keys nonce counter count).length = 16 * count := by
  induction count generalizing counter with
  | zero => rfl
  | succ count ih =>
    simp only [keyStream, List.length_append, Aes.State.length_toBytes, ih]
    omega

theorem length_applyStream (keys : List Aes.State) (nonce text : Bytes) :
    (applyStream keys nonce text).length = text.length := by
  simp only [applyStream, Bytes.xor, List.length_zipWith, length_keyStream]
  omega

theorem length_tag (keys : List Aes.State) (nonce header text : Bytes) :
    (tag keys nonce header text).length = tagLength := by
  simp [tag, Bytes.xor, Element.length_toBytes, Aes.State.length_toBytes, tagLength]

theorem applyStream_applyStream (keys : List Aes.State) (nonce text : Bytes) :
    applyStream keys nonce (applyStream keys nonce text) = text := by
  show Bytes.xor (applyStream keys nonce text)
    (keyStream keys nonce 2 (((applyStream keys nonce text).length + 15) / 16)) = text
  rw [length_applyStream]
  refine Bytes.xor_xor_cancel text _ ?_
  rw [length_keyStream]
  omega

theorem length_encrypt (key nonce plain header : Bytes) :
    (encrypt key nonce plain header).length = plain.length + tagLength := by
  simp [encrypt, length_applyStream, length_tag]

theorem decrypt?_eq_some_iff (key nonce encrypted header plain : Bytes) :
    decrypt? key nonce encrypted header = some plain ↔
      encrypted = encrypt key nonce plain header := by
  constructor
  · intro opened
    simp only [decrypt?] at opened
    split at opened
    · next fits =>
      obtain rfl := Option.some.inj opened
      simp only [encrypt, applyStream_applyStream]
      rw [← fits, List.take_append_drop]
    · simp at opened
  · rintro rfl
    have cut : (encrypt key nonce plain header).length - tagLength =
        (applyStream (Aes.roundKeys key) nonce plain).length := by
      simp [length_encrypt, length_applyStream]
    simp only [decrypt?, cut]
    simp [encrypt, applyStream_applyStream]

end SealedGrant.Gcm
