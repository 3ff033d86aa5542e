import Mathlib
import SealedGrant.Proofs.Codec.Base64

/-! # Padded text

Padded text is read back (`SealedGrant.Base64.decodePadded?_encodePadded`): the padding fits the
digits before it, and no digit is a padding character. Its reader also takes texts that are not
written, so the converse fails.
-/

namespace SealedGrant.Base64

/-- The digits of the standard alphabet differ: each value is read back. -/
theorem value?_digit_standard {value : ℕ} (below : value < 64) :
    Alphabet.standard.value? (Alphabet.standard.digit value) = some value := by
  revert value
  decide

theorem ne_padding_of_mem_encodeDigits (bytes : Bytes) :
    ∀ c ∈ encodeDigits .standard bytes, c ≠ '=' :=
  forall_mem_map_sextets (by decide) bytes

/-- The padding that is written fits. -/
theorem paddingFits_sextets (bytes : Bytes) :
    paddingFits (sextets bytes).length ((4 - (sextets bytes).length % 4) % 4) = true := by
  have left := length_sextets_mod bytes
  generalize (sextets bytes).length = digits at left
  have cases : digits % 4 = 0 ∨ digits % 4 = 2 ∨ digits % 4 = 3 := by omega
  unfold paddingFits
  rcases cases with rest | rest | rest <;> simp [rest]

/-- **Padded text reads back.** -/
theorem decodePadded?_encodePadded (bytes : Bytes) :
    decodePadded? (encodePadded bytes) = some bytes := by
  have length : (encodeDigits .standard bytes).length = (sextets bytes).length :=
    List.length_map _
  have kept : ∀ c ∈ encodeDigits .standard bytes, decide (c ≠ '=') = true :=
    fun c member => decide_eq_true (ne_padding_of_mem_encodeDigits bytes c member)
  unfold decodePadded? encodePadded
  dsimp only
  rw [String.toList_ofList, List.takeWhile_append_of_pos kept, List.dropWhile_append_of_pos kept,
    length]
  have fits := paddingFits_sextets bytes
  generalize (4 - (sextets bytes).length % 4) % 4 = padding at fits
  have digits : (List.replicate padding '=').takeWhile (fun c => decide (c ≠ '=')) = [] := by
    cases padding <;> rfl
  have rest : (List.replicate padding '=').dropWhile (fun c => decide (c ≠ '=')) =
      List.replicate padding '=' := by
    cases padding <;> rfl
  have all : ((List.replicate padding '=').all fun c => decide (c = '=')) = true :=
    List.all_eq_true.mpr fun c member => decide_eq_true (List.eq_of_mem_replicate member)
  rw [digits, rest, all, List.append_nil, length, List.length_replicate, fits, Bool.and_self,
    if_pos rfl, mapM_value?_encodeDigits fun value => value?_digit_standard, Option.map_some,
    ofSextets_sextets]

/-- What is written is visible. -/
theorem forall_mem_encodePadded (bytes : Bytes) :
    ∀ c ∈ (encodePadded bytes).toList, 0x20 < c.toNat ∧ c.toNat < 0x7f := by
  have digits : ∀ c ∈ encodeDigits .standard bytes, 0x20 < c.toNat ∧ c.toNat < 0x7f :=
    forall_mem_map_sextets (by decide) bytes
  intro c member
  rw [encodePadded, String.toList_ofList] at member
  rcases List.mem_append.mp member with member | member
  · exact digits c member
  · rw [List.eq_of_mem_replicate member]
    decide

theorem eq_nil_of_encodePadded {bytes : Bytes} (empty : (encodePadded bytes).toList = []) :
    bytes = [] := by
  have read := decodePadded?_encodePadded bytes
  rw [String.toList_eq_nil_iff.mp empty] at read
  exact (Option.some.inj read).symm

end SealedGrant.Base64
