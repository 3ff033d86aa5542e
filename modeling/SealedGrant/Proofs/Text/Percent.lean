import Mathlib
import SealedGrant.Proofs.Codec.Utf8
import SealedGrant.Text.Blank
import SealedGrant.Text.Percent

/-! # Reading the encoding of form fields

The encoding of form fields writes a space as a plus sign, some characters as they are, and every
other one as the escapes of its bytes. Resolving the escapes gives the text back, except that the
plus signs stay: whoever reads it finds one for every space
(`SealedGrant.Text.FormAlphabet.percentDecode_encode`).
-/

namespace SealedGrant

/-- A form takes at most twelve bytes for a character. -/
theorem Text.formLength_le (text : String) : formLength text ≤ 12 * text.length := by
  have width (c : Char) : formWidth c ≤ 12 := by
    have size := c.utf8Size_le_four
    unfold formWidth
    split <;> omega
  have total (chars : List Char) (start : ℕ) :
      chars.foldl (fun total c => total + formWidth c) start ≤ start + 12 * chars.length := by
    induction chars generalizing start with
    | nil => simp
    | cons c rest ih =>
      have first := width c
      have others := ih (start + formWidth c)
      simp only [List.foldl_cons, List.length_cons]
      omega
  have all := total text.toList 0
  rwa [Nat.zero_add, String.length_toList] at all

/-- What was written is read back without any replacement. -/
theorem Utf8.decodeLenient_encodeChars (chars : List Char) :
    decodeLenient (encodeChars chars) = String.ofList chars := by
  rw [decodeLenient, piecesFrom_encodeChars, List.map_map]
  exact congrArg String.ofList (List.map_id chars)

namespace Text

/-- A visible ASCII character. -/
def IsVisible (c : Char) : Prop :=
  0x20 < c.toNat ∧ c.toNat < 0x7f

theorem IsVisible.isBlank_eq_false {c : Char} (visible : IsVisible c) : isBlank c = false := by
  obtain ⟨above, below⟩ := visible
  simp only [isBlank, Bool.or_eq_false_iff, Bool.and_eq_false_iff, decide_eq_false_iff_not]
  omega

theorem isVisible_of_isAlphanum {c : Char} (alphanumeric : c.isAlphanum = true) :
    IsVisible c := by
  simp only [Char.isAlphanum, Char.isAlpha, Char.isUpper, Char.isLower, Char.isDigit,
    Bool.or_eq_true, Bool.and_eq_true, decide_eq_true_eq, ge_iff_le,
    UInt32.le_iff_toNat_le] at alphanumeric
  have bounds : 'A'.val.toNat = 65 ∧ 'Z'.val.toNat = 90 ∧ 'a'.val.toNat = 97 ∧
      'z'.val.toNat = 122 ∧ '0'.val.toNat = 48 ∧ '9'.val.toNat = 57 := by decide
  change 0x20 < c.val.toNat ∧ c.val.toNat < 0x7f
  omega

/-- The characters that a form encoding writes as they are. They are visible, and neither one of
its own signs nor a colon. -/
structure FormAlphabet where
  plain : Char → Bool
  visible : ∀ c, plain c = true → IsVisible c
  unsigned : ∀ c, plain c = true → c ≠ '%' ∧ c ≠ '+' ∧ c ≠ ':'

/-- The letters, the digits and four signs stand for themselves. -/
def FormAlphabet.unreserved : FormAlphabet where
  plain := isUnreserved
  visible c plain := by
    simp only [isUnreserved, Bool.or_eq_true, decide_eq_true_eq] at plain
    rcases plain with ((((alphanumeric | rfl) | rfl) | rfl) | rfl)
    · exact isVisible_of_isAlphanum alphanumeric
    all_goals exact ⟨by decide, by decide⟩
  unsigned c plain := by
    refine ⟨?_, ?_, ?_⟩ <;> rintro rfl <;> cases plain

/-- The upper-case hexadecimal digit of a number below sixteen. -/
def escapeDigit (n : ℕ) : Char :=
  (Bytes.hexDigit n).toUpper

/-- The escape of a byte. -/
def escape (byte : UInt8) : List Char :=
  ['%', escapeDigit (byte.toNat / 16), escapeDigit (byte.toNat % 16)]

namespace FormAlphabet

variable (alphabet : FormAlphabet)

/-- How a form encoding writes a character. -/
def write (c : Char) : List Char :=
  if c = ' ' then ['+']
  else if alphabet.plain c then [c]
  else (String.utf8EncodeChar c).flatMap escape

/-- **The form encoding of a text.** -/
def encode (text : String) : String :=
  String.ofList (text.toList.flatMap alphabet.write)

end FormAlphabet

theorem hexValue?_escapeDigit {n : ℕ} (below : n < 16) :
    Bytes.hexValue? (escapeDigit n) = some n := by
  revert n
  decide

theorem escapeDigit_visible {n : ℕ} (below : n < 16) :
    IsVisible (escapeDigit n) ∧ escapeDigit n ≠ ':' := by
  unfold IsVisible
  revert n
  decide

/-- An escape stands for its byte. -/
theorem percentBytes_escape (byte : UInt8) (rest : List Char) :
    percentBytes (escape byte ++ rest) = byte :: percentBytes rest := by
  have small := byte.toNat_lt
  simp only [escape, List.cons_append, List.nil_append, percentBytes,
    hexValue?_escapeDigit (show byte.toNat / 16 < 16 by omega),
    hexValue?_escapeDigit (show byte.toNat % 16 < 16 by omega)]
  rw [Bytes.ofNat_toNat_of_eq byte (by omega)]

theorem percentBytes_escapes (bytes : Bytes) (rest : List Char) :
    percentBytes (bytes.flatMap escape ++ rest) = bytes ++ percentBytes rest := by
  induction bytes with
  | nil => rfl
  | cons byte others ih =>
    rw [List.flatMap_cons, List.append_assoc, percentBytes_escape, ih, List.cons_append]

/-- Any character but the sign of an escape stands for itself. -/
theorem percentBytes_cons {c : Char} (sign : c ≠ '%') (rest : List Char) :
    percentBytes (c :: rest) = String.utf8EncodeChar c ++ percentBytes rest := by
  rw [percentBytes]
  rintro _ _ _ same _
  exact sign same

/-- What a reader finds that resolves escapes alone: a plus sign for a space. -/
def plusFor (c : Char) : Char :=
  if c = ' ' then '+' else c

/-- A text with a plus sign for every space. -/
def withPlus (text : String) : String :=
  String.ofList (text.toList.map plusFor)

namespace FormAlphabet

variable (alphabet : FormAlphabet)

theorem percentBytes_write (c : Char) (rest : List Char) :
    percentBytes (alphabet.write c ++ rest) =
      String.utf8EncodeChar (plusFor c) ++ percentBytes rest := by
  unfold write plusFor
  split
  · exact percentBytes_cons (by decide) rest
  · split
    · next plain => exact percentBytes_cons (alphabet.unsigned c plain).1 rest
    · exact percentBytes_escapes _ rest

theorem percentBytes_encode (chars : List Char) :
    percentBytes (chars.flatMap alphabet.write) = Utf8.encodeChars (chars.map plusFor) := by
  induction chars with
  | nil => rfl
  | cons c rest ih =>
    rw [List.flatMap_cons, percentBytes_write, ih, List.map_cons, Utf8.encodeChars,
      Utf8.encodeChars, List.flatMap_cons]

/-- **Resolving the escapes of a form encoding** gives the text back, with a plus sign for every
space. -/
theorem percentDecode_encode (text : String) :
    percentDecode (alphabet.encode text) = withPlus text := by
  rw [percentDecode, encode, String.toList_ofList, percentBytes_encode,
    Utf8.decodeLenient_encodeChars, withPlus]

/-- **What a form encoding writes is visible** and holds no colon. -/
theorem isVisible_of_mem_encode {text : String} {c : Char}
    (member : c ∈ (alphabet.encode text).toList) : IsVisible c ∧ c ≠ ':' := by
  rw [encode, String.toList_ofList] at member
  obtain ⟨origin, -, member⟩ := List.mem_flatMap.mp member
  unfold write at member
  split at member
  · rw [List.mem_singleton.mp member]
    exact ⟨⟨by decide, by decide⟩, by decide⟩
  · split at member
    · next plain =>
      rw [List.mem_singleton.mp member]
      exact ⟨alphabet.visible origin plain, (alphabet.unsigned origin plain).2.2⟩
    · obtain ⟨byte, -, member⟩ := List.mem_flatMap.mp member
      have small := byte.toNat_lt
      simp only [escape, List.mem_cons, List.not_mem_nil, or_false] at member
      rcases member with rfl | rfl | rfl
      · exact ⟨⟨by decide, by decide⟩, by decide⟩
      · exact escapeDigit_visible (by omega)
      · exact escapeDigit_visible (by omega)

end FormAlphabet

/-- Only a text without spaces stays as it is. -/
theorem withPlus_eq_self_iff {text : String} : withPlus text = text ↔ ' ' ∉ text.toList := by
  rw [withPlus, ← String.toList_inj, String.toList_ofList]
  induction text.toList with
  | nil => simp
  | cons c rest ih =>
    rw [List.map_cons, List.cons.injEq, ih, List.mem_cons, not_or]
    refine and_congr_left fun _ => ?_
    unfold plusFor
    by_cases space : c = ' '
    · simp [space]
    · simp [space, Ne.symm space]

end Text
end SealedGrant
