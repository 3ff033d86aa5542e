import Mathlib
import SealedGrant.Bytes

/-! # Numbers in bytes

A number that fits a width is read back from its big-endian bytes
(`SealedGrant.Bytes.toNat_ofNat`), and bytes are the ones of the number that they hold
(`SealedGrant.Bytes.ofNat_toNat`).
-/

namespace SealedGrant.Bytes

theorem toNat_ofNat_byte {value : Nat} (below : value < 256) :
    (UInt8.ofNat value).toNat = value := by
  simp [Nat.mod_eq_of_lt below]

theorem ofNat_toNat_of_eq (byte : UInt8) {value : Nat} (equal : value = byte.toNat) :
    UInt8.ofNat value = byte := by
  rw [equal, UInt8.ofNat_toNat]

theorem toNat_append_singleton (bytes : Bytes) (byte : UInt8) :
    toNat (bytes ++ [byte]) = 256 * toNat bytes + byte.toNat := by
  simp [toNat]

theorem toNat_ofNat {width value : ℕ} (small : value < 256 ^ width) :
    toNat (ofNat width value) = value := by
  induction width generalizing value with
  | zero =>
    rw [pow_zero] at small
    have zero : value = 0 := by omega
    rw [zero]
    rfl
  | succ width ih =>
    have quotient : value / 256 < 256 ^ width := by
      rw [pow_succ] at small
      exact Nat.div_lt_of_lt_mul (by omega)
    rw [ofNat, toNat_append_singleton, ih quotient,
      toNat_ofNat_byte (Nat.mod_lt _ (by norm_num))]
    omega

theorem toNat_lt (bytes : Bytes) : toNat bytes < 256 ^ bytes.length := by
  induction bytes using List.reverseRecOn with
  | nil => exact Nat.one_pos
  | append_singleton bytes byte ih =>
    have digit := byte.toNat_lt
    rw [toNat_append_singleton, List.length_append, List.length_singleton, pow_succ]
    omega

theorem ofNat_toNat (bytes : Bytes) : ofNat bytes.length (toNat bytes) = bytes := by
  induction bytes using List.reverseRecOn with
  | nil => rfl
  | append_singleton bytes byte ih =>
    have digit := byte.toNat_lt
    have quotient : (256 * toNat bytes + byte.toNat) / 256 = toNat bytes := by omega
    rw [toNat_append_singleton, List.length_append, List.length_singleton, ofNat, quotient, ih,
      ofNat_toNat_of_eq byte (by omega)]

theorem length_toHex (bytes : Bytes) : (toHex bytes).toList.length = 2 * bytes.length := by
  induction bytes with
  | nil => rfl
  | cons byte rest ih =>
    simp only [toHex, String.toList_ofList, List.length_flatMap] at ih ⊢
    simp only [List.map_cons, List.sum_cons, List.length_cons, List.length_nil] at ih ⊢
    omega

end SealedGrant.Bytes
