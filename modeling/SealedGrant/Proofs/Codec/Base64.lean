import Mathlib
import SealedGrant.Base64
import SealedGrant.Proofs.Codec.Bytes

/-! # Unpadded text

The URL-safe decoder and encoder are inverse to each other in both directions: encoded bytes are
read back (`SealedGrant.Base64.decodeUrl_encodeUrl`), and no other text than the encoded one is read
as those bytes (`SealedGrant.Base64.eq_encodeUrl_of_decodeUrl`).
-/

namespace SealedGrant.Base64

/-- The URL-safe digits of different values differ: each value is read back. -/
theorem value?_digit_url {value : Nat} (below : value < 64) :
    Alphabet.url.value? (Alphabet.url.digit value) = some value := by
  revert value
  decide

theorem lt_of_mem_sextets {bytes : Bytes} {value : Nat} (member : value ∈ sextets bytes) :
    value < 64 := by
  fun_induction sextets bytes with
  | case1 => simp at member
  | case2 a =>
    have := a.toNat_lt
    simp at member
    omega
  | case3 a b =>
    have := a.toNat_lt
    have := b.toNat_lt
    simp at member
    omega
  | case4 a b c rest ih =>
    have := a.toNat_lt
    have := b.toNat_lt
    have := c.toNat_lt
    simp only [List.mem_cons] at member
    rcases member with rfl | rfl | rfl | rfl | member
    · omega
    · omega
    · omega
    · omega
    · exact ih member

/-- What holds of the digit of each value holds of all digits that are written. -/
theorem forall_mem_map_sextets {digit : ℕ → Char} {holds : Char → Prop}
    (each : ∀ value < 64, holds (digit value)) (bytes : Bytes) :
    ∀ c ∈ (sextets bytes).map digit, holds c :=
  List.forall_mem_map.mpr fun value member => each value (lt_of_mem_sextets member)

theorem length_sextets (bytes : Bytes) : (sextets bytes).length = (8 * bytes.length + 5) / 6 := by
  fun_induction sextets bytes with
  | case1 => rfl
  | case2 a => simp
  | case3 a b => simp
  | case4 a b c rest ih =>
    simp only [List.length_cons, ih]
    omega

theorem length_sextets_mod (bytes : Bytes) : (sextets bytes).length % 4 ≠ 1 := by
  rw [length_sextets]
  omega

theorem length_encodeUrl (bytes : Bytes) :
    (encodeUrl bytes).length = (8 * bytes.length + 5) / 6 := by
  rw [encodeUrl, String.length_ofList, encodeDigits, List.length_map, length_sextets]

theorem ofSextets_sextets (bytes : Bytes) : ofSextets (sextets bytes) = bytes := by
  fun_induction sextets bytes with
  | case1 => rfl
  | case2 a =>
    have := a.toNat_lt
    simp only [ofSextets]
    rw [Bytes.ofNat_toNat_of_eq a (by omega)]
  | case3 a b =>
    have := a.toNat_lt
    have := b.toNat_lt
    simp only [ofSextets]
    rw [Bytes.ofNat_toNat_of_eq a (by omega), Bytes.ofNat_toNat_of_eq b (by omega)]
  | case4 a b c rest ih =>
    have := a.toNat_lt
    have := b.toNat_lt
    have := c.toNat_lt
    simp only [ofSextets, ih]
    rw [Bytes.ofNat_toNat_of_eq a (by omega), Bytes.ofNat_toNat_of_eq b (by omega),
      Bytes.ofNat_toNat_of_eq c (by omega)]

/-- What is written value by value is read back value by value. -/
theorem mapM_map_eq_some {α β : Type} {write : α → β} {read? : β → Option α} {values : List α}
    (reads : ∀ value ∈ values, read? (write value) = some value) :
    (values.map write).mapM read? = some values := by
  induction values with
  | nil => rfl
  | cons value rest ih =>
    simp only [List.mem_cons, forall_eq_or_imp] at reads
    simp [reads.1, ih reads.2]

theorem mapM_value?_encodeDigits {alphabet : Alphabet}
    (reads : ∀ value < 64, alphabet.value? (alphabet.digit value) = some value) (bytes : Bytes) :
    (encodeDigits alphabet bytes).mapM alphabet.value? = some (sextets bytes) :=
  mapM_map_eq_some fun value member => reads value (lt_of_mem_sextets member)

/-- **Unpadded text reads back.** The decoder gives the bytes that the encoder was given. -/
theorem decodeUrl_encodeUrl (bytes : Bytes) : decodeUrl (encodeUrl bytes) = .ok bytes := by
  have digits : (encodeUrl bytes).toList = encodeDigits .url bytes := by simp [encodeUrl]
  simp only [decodeUrl, digits, mapM_value?_encodeDigits fun value => value?_digit_url,
    length_sextets_mod, ↓reduceIte, ofSextets_sextets]

/-- **One text for each byte string.** The decoder accepts only what the encoder writes. -/
theorem eq_encodeUrl_of_decodeUrl {text : String} {bytes : Bytes}
    (opened : decodeUrl text = .ok bytes) : text = encodeUrl bytes := by
  simp only [decodeUrl] at opened
  split at opened
  · cases opened
  · split at opened
    · cases opened
    · split at opened
      · next canonical =>
        cases opened
        exact canonical.symm
      · cases opened

end SealedGrant.Base64
