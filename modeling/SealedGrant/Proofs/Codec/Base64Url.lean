import Mathlib
import SealedGrant.Proofs.Codec.Base64
import SealedGrant.Proofs.Text.Blank

/-! # The one spelling of bytes

The digits of unpadded text hold the bits of the bytes, six at a time and the most significant ones
first, and zero bits up to a whole digit (`SealedGrant.Base64.Spells`). Every byte string has one
such text and every text spells at most one byte string. The decoder gives the bytes that a text
spells, and refuses a text that spells none (`SealedGrant.Base64.decodeUrl_bijective`).
-/

namespace SealedGrant

/-- **The first digit counts most**, in any base. -/
theorem foldl_digits_cons {α : Type} (base : ℕ) (value : α → ℕ) (first : α) (rest : List α) :
    (first :: rest).foldl (fun total digit => base * total + value digit) 0 =
      value first * base ^ rest.length +
        rest.foldl (fun total digit => base * total + value digit) 0 := by
  induction rest using List.reverseRecOn with
  | nil => simp
  | append_singleton rest last ih =>
    rw [← List.cons_append, List.foldl_append, List.foldl_append, ih, List.length_append,
      List.length_singleton, pow_succ]
    simp only [List.foldl_cons, List.foldl_nil]
    ring

theorem Bytes.toNat_cons (byte : UInt8) (rest : Bytes) :
    Bytes.toNat (byte :: rest) = byte.toNat * 256 ^ rest.length + Bytes.toNat rest :=
  foldl_digits_cons 256 UInt8.toNat byte rest

namespace Base64

/-! ## The bits of six-bit values -/

/-- The number whose big-endian digits in base 64 are the values. -/
def number (values : List ℕ) : ℕ :=
  values.foldl (fun total value => 64 * total + value) 0

theorem number_append_singleton (values : List ℕ) (value : ℕ) :
    number (values ++ [value]) = 64 * number values + value := by
  simp [number]

theorem number_cons (value : ℕ) (rest : List ℕ) :
    number (value :: rest) = value * 64 ^ rest.length + number rest :=
  foldl_digits_cons 64 id value rest

/-- Six-bit values are known from their number. -/
theorem eq_of_number_eq {left right : List ℕ} (lengths : left.length = right.length)
    (leftSmall : ∀ value ∈ left, value < 64) (rightSmall : ∀ value ∈ right, value < 64)
    (same : number left = number right) : left = right := by
  induction left using List.reverseRecOn generalizing right with
  | nil => exact (List.eq_nil_of_length_eq_zero lengths.symm).symm
  | append_singleton left last ih =>
    cases right using List.reverseRecOn with
    | nil => simp at lengths
    | append_singleton right other =>
      rw [number_append_singleton, number_append_singleton] at same
      have lastSmall := leftSmall last (by simp)
      have otherSmall := rightSmall other (by simp)
      have front : left = right := ih (by simpa using lengths)
        (fun value member => leftSmall value (List.mem_append_left _ member))
        (fun value member => rightSmall value (List.mem_append_left _ member)) (by omega)
      rw [front, show last = other by omega]

/-- **The six-bit values of bytes hold their bits**, and then zero bits. -/
theorem number_sextets (bytes : Bytes) : number (sextets bytes) =
    Bytes.toNat bytes * 2 ^ (6 * (sextets bytes).length - 8 * bytes.length) := by
  fun_induction sextets bytes with
  | case1 => rfl
  | case2 a =>
    simp only [number, Bytes.toNat, List.foldl_cons, List.foldl_nil, List.length_cons,
      List.length_nil]
    omega
  | case3 a b =>
    simp only [number, Bytes.toNat, List.foldl_cons, List.foldl_nil, List.length_cons,
      List.length_nil]
    omega
  | case4 a b c rest ih =>
    have long : 8 * rest.length ≤ 6 * (sextets rest).length := by
      rw [length_sextets]
      omega
    have spare : 6 * ((sextets rest).length + 4) - 8 * (rest.length + 3) =
        6 * (sextets rest).length - 8 * rest.length := by omega
    have powers : 64 ^ (sextets rest).length =
        256 ^ rest.length * 2 ^ (6 * (sextets rest).length - 8 * rest.length) := by
      rw [show 64 = 2 ^ 6 by rfl, show 256 = 2 ^ 8 by rfl, ← pow_mul, ← pow_mul, ← pow_add]
      congr 1
      omega
    have group : a.toNat / 4 * 64 ^ 3 + (a.toNat % 4 * 16 + b.toNat / 16) * 64 ^ 2 +
        (b.toNat % 16 * 4 + c.toNat / 64) * 64 + c.toNat % 64 =
          a.toNat * 256 ^ 2 + b.toNat * 256 + c.toNat := by omega
    simp only [number_cons, Bytes.toNat_cons, List.length_cons, ih] at spare ⊢
    rw [spare]
    calc _ = (a.toNat / 4 * 64 ^ 3 + (a.toNat % 4 * 16 + b.toNat / 16) * 64 ^ 2 +
            (b.toNat % 16 * 4 + c.toNat / 64) * 64 + c.toNat % 64) *
              64 ^ (sextets rest).length + Bytes.toNat rest *
                2 ^ (6 * (sextets rest).length - 8 * rest.length) := by ring
      _ = _ := by
        rw [group, powers]
        ring

/-! ## Digits -/

/-- The URL-safe digits in the order of their values. -/
def urlDigits : List Char :=
  "ABCDEFGHIJKLMNOPQRSTUVWXYZabcdefghijklmnopqrstuvwxyz0123456789-_".toList

theorem getElem?_urlDigits {value : ℕ} (below : value < 64) :
    urlDigits[value]? = some (Alphabet.url.digit value) := by
  revert value
  decide

theorem lt_of_getElem?_urlDigits {value : ℕ} {c : Char} (found : urlDigits[value]? = some c) :
    value < 64 :=
  (List.getElem?_eq_some_iff.mp found).1

/-- Only ASCII characters have a value. -/
theorem lt_of_value?_url {c : Char} (known : (Alphabet.url.value? c).isSome = true) :
    c.toNat < 128 := by
  have bound {last : Char} (ascii : last.toNat < 128) (le : c ≤ last) : c.toNat < 128 :=
    lt_of_le_of_lt (Char.le_def.mp le) ascii
  unfold Alphabet.value? at known
  split_ifs at known with upper lower digit low high
  · exact bound (by decide) upper.2
  · exact bound (by decide) lower.2
  · exact bound (by decide) digit.2
  · rw [low]
    decide
  · rw [high]
    decide
  · cases known

/-- **A character has a value exactly when it is a digit.** -/
theorem isSome_value?_url_iff {c : Char} :
    (Alphabet.url.value? c).isSome = true ↔ c ∈ urlDigits := by
  constructor
  · intro known
    have all : ∀ code < 128, (Alphabet.url.value? (Char.ofNat code)).isSome = true →
        Char.ofNat code ∈ urlDigits := by decide +kernel
    obtain ⟨code, small, rfl⟩ := Text.exists_code (lt_of_value?_url known)
    exact all code small known
  · intro member
    obtain ⟨value, found⟩ := List.mem_iff_getElem?.mp member
    have below := lt_of_getElem?_urlDigits found
    rw [getElem?_urlDigits below, Option.some.injEq] at found
    rw [← found, value?_digit_url below]
    rfl

/-! ## Spelling bytes -/

/-- **A text spells bytes**: its digits hold the bits of the bytes, six bits each and the most
significant ones first, and then as many zero bits as the last digit has left. -/
def Spells (text : String) (bytes : Bytes) : Prop :=
  ∃ values : List ℕ,
    List.Forall₂ (fun c value => urlDigits[value]? = some c) text.toList values ∧
      values.length = (8 * bytes.length + 5) / 6 ∧
      number values = Bytes.toNat bytes * 2 ^ (6 * values.length - 8 * bytes.length)

/-- The characters are digits, and so many as a byte string can have. -/
def IsDigits (text : String) : Prop :=
  (∀ c ∈ text.toList, c ∈ urlDigits) ∧ text.toList.length % 4 ≠ 1

instance (text : String) : Decidable (IsDigits text) :=
  @instDecidableAnd _ _ (List.decidableBAll _ _) inferInstance

theorem toList_encodeUrl (bytes : Bytes) :
    (encodeUrl bytes).toList = (sextets bytes).map Alphabet.url.digit :=
  String.toList_ofList

/-- The values of digits are known, one for each. -/
theorem forall₂_digits_iff {chars : List Char} {values : List ℕ} :
    List.Forall₂ (fun c value => urlDigits[value]? = some c) chars values ↔
      (∀ value ∈ values, value < 64) ∧ chars = values.map Alphabet.url.digit := by
  induction values generalizing chars with
  | nil => simp
  | cons value rest ih =>
    constructor
    · intro digits
      cases digits with
      | cons found others =>
        have below := lt_of_getElem?_urlDigits found
        obtain ⟨small, rfl⟩ := ih.mp others
        rw [getElem?_urlDigits below, Option.some.injEq] at found
        rw [← found]
        exact ⟨List.forall_mem_cons.mpr ⟨below, small⟩, rfl⟩
    · rintro ⟨small, rfl⟩
      obtain ⟨below, others⟩ := List.forall_mem_cons.mp small
      exact .cons (getElem?_urlDigits below) (ih.mpr ⟨others, rfl⟩)

theorem spells_encodeUrl (bytes : Bytes) : Spells (encodeUrl bytes) bytes := by
  refine ⟨sextets bytes, forall₂_digits_iff.mpr ⟨fun value => lt_of_mem_sextets, ?_⟩,
    length_sextets bytes, number_sextets bytes⟩
  exact toList_encodeUrl bytes

/-- **The encoder writes the one text that spells the bytes.** -/
theorem eq_encodeUrl_iff_spells {text : String} {bytes : Bytes} :
    text = encodeUrl bytes ↔ Spells text bytes := by
  constructor
  · rintro rfl
    exact spells_encodeUrl bytes
  · rintro ⟨values, digits, length, bits⟩
    obtain ⟨small, chars⟩ := forall₂_digits_iff.mp digits
    have lengths : values.length = (sextets bytes).length := by rw [length, length_sextets]
    have same : values = sextets bytes := by
      refine eq_of_number_eq lengths small (fun value => lt_of_mem_sextets) ?_
      rw [bits, number_sextets, lengths]
    rw [← String.toList_inj, chars, same, toList_encodeUrl]

/-! ## Reading -/

/-- Digits are read as values, and other characters are not. -/
theorem isSome_mapM_value?_iff {chars : List Char} :
    (chars.mapM Alphabet.url.value?).isSome = true ↔ ∀ c ∈ chars, c ∈ urlDigits := by
  induction chars with
  | nil => simp
  | cons c rest ih =>
    rw [List.forall_mem_cons, ← ih, ← isSome_value?_url_iff, List.mapM_cons]
    cases Alphabet.url.value? c with
    | none => simp
    | some value => cases rest.mapM Alphabet.url.value? <;> simp

theorem length_of_mapM_value? {chars : List Char} {values : List ℕ}
    (read : chars.mapM Alphabet.url.value? = some values) : values.length = chars.length := by
  induction chars generalizing values with
  | nil =>
    cases read
    rfl
  | cons c rest ih =>
    rw [List.mapM_cons] at read
    obtain ⟨value, -, read⟩ := Option.bind_eq_some_iff.mp read
    obtain ⟨others, found, read⟩ := Option.bind_eq_some_iff.mp read
    cases read
    rw [List.length_cons, List.length_cons, ih found]

/-- **A text that is not written is refused**: its characters are not digits of a byte string, or
bits that stand for no byte are set. -/
theorem decodeUrl_of_forall_ne {text : String} (other : ∀ bytes, text ≠ encodeUrl bytes) :
    decodeUrl text = .error (if IsDigits text then .nonCanonical else .notDigits) := by
  unfold decodeUrl
  cases read : text.toList.mapM Alphabet.url.value? with
  | none =>
    have foreign : ¬ IsDigits text := fun digits => by
      have known := isSome_mapM_value?_iff.mpr digits.1
      rw [read] at known
      cases known
    rw [if_neg foreign]
  | some values =>
    have digits : ∀ c ∈ text.toList, c ∈ urlDigits := by
      rw [← isSome_mapM_value?_iff, read]
      rfl
    dsimp only
    rw [length_of_mapM_value? read]
    by_cases left : text.toList.length % 4 = 1
    · rw [if_pos left, if_neg fun whole => whole.2 left]
    · rw [if_neg left, if_neg fun same => other _ same.symm, if_pos ⟨digits, left⟩]

/-- **Strict base64 is a bijection.** A text is read as some bytes exactly when it is what the
encoder writes for them, and that is the one text that spells them. Every other text is refused:
for bits that stand for no byte if its characters are digits of a byte string, and else for its
characters. So no two texts are read as the same bytes. -/
theorem decodeUrl_bijective (text : String) :
    (∀ bytes, decodeUrl text = .ok bytes ↔ text = encodeUrl bytes) ∧
      (∀ bytes, text = encodeUrl bytes ↔ Spells text bytes) ∧
      ((∀ bytes, text ≠ encodeUrl bytes) →
        decodeUrl text = .error (if IsDigits text then .nonCanonical else .notDigits)) ∧
      ∀ other bytes, decodeUrl text = .ok bytes → decodeUrl other = .ok bytes →
        text = other := by
  refine ⟨fun bytes => ⟨eq_encodeUrl_of_decodeUrl, ?_⟩, fun bytes => eq_encodeUrl_iff_spells,
    decodeUrl_of_forall_ne, ?_⟩
  · rintro rfl
    exact decodeUrl_encodeUrl bytes
  · intro other bytes read readOther
    rw [eq_encodeUrl_of_decodeUrl read, eq_encodeUrl_of_decodeUrl readOther]

/-- A last digit with a bit that stands for no byte is refused, though both are digits. -/
theorem decodeUrl_spare_bit : (∀ bytes, "AB" ≠ encodeUrl bytes) ∧
    decodeUrl "AB" = .error .nonCanonical := by
  obtain ⟨reads, -, refused, -⟩ := decodeUrl_bijective "AB"
  have unwritten : ∀ bytes, "AB" ≠ encodeUrl bytes := fun bytes same => by
    have unread : (decodeUrl "AB").toBool = false := by rfl
    rw [(reads bytes).mpr same] at unread
    cases unread
  have digits : IsDigits "AB" := by decide
  have answer := refused unwritten
  rw [if_pos digits] at answer
  exact ⟨unwritten, answer⟩

end Base64
end SealedGrant
