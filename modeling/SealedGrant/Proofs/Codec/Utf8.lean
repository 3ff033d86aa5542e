import Mathlib
import SealedGrant.Proofs.Codec.Bytes
import SealedGrant.Text.Encoding

/-! # UTF-8 reads back

The decoder follows the encoder one character at a time: the first byte says how many follow and
bounds the second, and the last byte completes the character. So every text is read back
(`SealedGrant.Utf8.decode?_encode`), and the text of an object also by the reader that looks for
other encodings first (`SealedGrant.Text.decodeJsonBytes?_encode`). The bounds leave no second form
of a character: what the strict decoder accepts is the encoding of what it reads
(`SealedGrant.Utf8.eq_encode_of_decode?`).
-/

namespace SealedGrant.Utf8

theorem ofNat_of_eq_toNat {value : Nat} {c : Char} (equal : value = c.toNat) :
    Char.ofNat value = c := by
  rw [equal, Char.ofNat_toNat]

/-- A code point lies below the surrogates or above them, and is not too large. -/
theorem toNat_char_range (c : Char) :
    c.toNat < 0xd800 ∨ (0xdfff < c.toNat ∧ c.toNat < 0x110000) := by
  exact c.valid

/-- The last byte of a character completes it. -/
theorem piecesFrom_last {low high bits byte : Nat} {c : Char} (rest : Bytes)
    (small : byte < 256) (above : low ≤ byte) (below : byte ≤ high)
    (value : bits * 64 + (byte - 0x80) = c.toNat) :
    piecesFrom (some ⟨0, low, high, bits⟩) (UInt8.ofNat byte :: rest) =
      some c :: piecesFrom none rest := by
  have admitted : Owed.admits ⟨0, low, high, bits⟩ (UInt8.ofNat byte) = true := by
    simp only [Owed.admits, Bytes.toNat_ofNat_byte small, above, below, decide_true, Bool.and_self]
  have number : Owed.bitsWith ⟨0, low, high, bits⟩ (UInt8.ofNat byte) = c.toNat :=
    (congrArg (fun next => bits * 64 + (next - 0x80)) (Bytes.toNat_ofNat_byte small)).trans value
  rw [piecesFrom, if_pos admitted]
  -- closing the goal by computation would count down from the surrogates one by one
  exact congrArg (some · :: piecesFrom none rest) (ofNat_of_eq_toNat number)

/-- A byte before the last one leaves fewer bytes owed. -/
theorem piecesFrom_later {later low high bits byte : Nat} (rest : Bytes)
    (small : byte < 256) (above : low ≤ byte) (below : byte ≤ high) :
    piecesFrom (some ⟨later + 1, low, high, bits⟩) (UInt8.ofNat byte :: rest) =
      piecesFrom (some ⟨later, 0x80, 0xbf, bits * 64 + (byte - 0x80)⟩) rest := by
  have admitted : Owed.admits ⟨later + 1, low, high, bits⟩ (UInt8.ofNat byte) = true := by
    simp only [Owed.admits, Bytes.toNat_ofNat_byte small, above, below, decide_true, Bool.and_self]
  have number : Owed.bitsWith ⟨later + 1, low, high, bits⟩ (UInt8.ofNat byte) =
      bits * 64 + (byte - 0x80) :=
    congrArg (fun next => bits * 64 + (next - 0x80)) (Bytes.toNat_ofNat_byte small)
  rw [piecesFrom, if_pos admitted]
  exact congrArg (fun value => piecesFrom (some ⟨later, 0x80, 0xbf, value⟩) rest) number

/-- The first byte of several tells how many follow and bounds the next one. -/
theorem piecesFrom_lead {byte : Nat} {owed : Owed} (rest : Bytes)
    (found : lead (UInt8.ofNat byte) = .owed owed) :
    piecesFrom none (UInt8.ofNat byte :: rest) = piecesFrom (some owed) rest := by
  simp [piecesFrom, found]

theorem lead_two {byte : Nat} (above : 0xc2 ≤ byte) (below : byte < 0xe0) :
    lead (UInt8.ofNat byte) = .owed ⟨0, 0x80, 0xbf, byte - 0xc0⟩ := by
  have small : byte % 256 = byte := Nat.mod_eq_of_lt (by omega)
  simp [lead, small, below, show ¬byte < 0x80 by omega, show ¬byte < 0xc2 by omega]

theorem lead_three {byte : Nat} (above : 0xe0 ≤ byte) (below : byte < 0xf0) :
    lead (UInt8.ofNat byte) =
      .owed ⟨1, if byte = 0xe0 then 0xa0 else 0x80, if byte = 0xed then 0x9f else 0xbf,
        byte - 0xe0⟩ := by
  have small : byte % 256 = byte := Nat.mod_eq_of_lt (by omega)
  have range : ¬byte < 0x80 ∧ ¬byte < 0xc2 ∧ ¬byte < 0xe0 := by omega
  by_cases first : byte = 0xe0
  · subst first
    rfl
  · by_cases surrogates : byte = 0xed
    · subst surrogates
      rfl
    · simp [lead, small, range, first, surrogates, below]

theorem lead_four {byte : Nat} (above : 0xf0 ≤ byte) (below : byte ≤ 0xf4) :
    lead (UInt8.ofNat byte) =
      .owed ⟨2, if byte = 0xf0 then 0x90 else 0x80, if byte = 0xf4 then 0x8f else 0xbf,
        byte - 0xf0⟩ := by
  have cases : byte = 0xf0 ∨ byte = 0xf1 ∨ byte = 0xf2 ∨ byte = 0xf3 ∨ byte = 0xf4 := by omega
  rcases cases with rfl | rfl | rfl | rfl | rfl <;> rfl

/-- The bytes of one character are read as that character. -/
theorem piecesFrom_encodeChar (c : Char) (rest : Bytes) :
    piecesFrom none (String.utf8EncodeChar c ++ rest) = some c :: piecesFrom none rest := by
  have range := toNat_char_range c
  rw [String.utf8EncodeChar]
  simp only [show c.val.toNat = c.toNat from rfl]
  split
  · next one =>
    have small : c.toNat % 256 = c.toNat := Nat.mod_eq_of_lt (by omega)
    simp [piecesFrom, lead, small, show c.toNat < 0x80 by omega]
  · split
    · simp only [List.cons_append, List.nil_append]
      rw [piecesFrom_lead _ (lead_two (by omega) (by omega)),
        piecesFrom_last (c := c) _ (by omega) (by omega) (by omega) (by omega)]
    · split
      · simp only [List.cons_append, List.nil_append]
        rw [piecesFrom_lead _ (lead_three (by omega) (by omega)),
          piecesFrom_later _ (by omega) (by split <;> omega) (by split <;> omega),
          piecesFrom_last (c := c) _ (by omega) (by omega) (by omega) (by omega)]
      · simp only [List.cons_append, List.nil_append]
        rw [piecesFrom_lead _ (lead_four (by omega) (by omega)),
          piecesFrom_later _ (by omega) (by split <;> omega) (by split <;> omega),
          piecesFrom_later _ (by omega) (by omega) (by omega),
          piecesFrom_last (c := c) _ (by omega) (by omega) (by omega) (by omega)]

theorem piecesFrom_encodeChars (chars : List Char) :
    piecesFrom none (encodeChars chars) = chars.map some := by
  induction chars with
  | nil => rfl
  | cons c rest ih =>
    simp only [encodeChars, List.flatMap_cons, List.map_cons]
    rw [piecesFrom_encodeChar, ← encodeChars, ih]

theorem decodeChars?_encodeChars (chars : List Char) :
    decodeChars? (encodeChars chars) = some chars := by
  rw [decodeChars?, piecesFrom_encodeChars]
  induction chars with
  | nil => rfl
  | cons c rest ih => simp [ih]

/-- **UTF-8 reads back.** -/
theorem decode?_encode (text : String) : decode? (encode text) = some text := by
  simp [decode?, encode, decodeChars?_encodeChars]

/-- A character takes at most four bytes. -/
theorem length_encode_le (text : String) :
    (encode text).length ≤ 4 * text.toList.length := by
  have chars (chars : List Char) : (encodeChars chars).length ≤ 4 * chars.length := by
    induction chars with
    | nil => exact le_rfl
    | cons c rest ih =>
      have size := Char.utf8Size_le_four c
      change (String.utf8EncodeChar c ++ encodeChars rest).length ≤ _
      rw [List.length_append, String.length_utf8EncodeChar, List.length_cons]
      omega
  exact chars text.toList

/-! ## What is read was written -/

/-- A number outside the surrogates and below the end is the code point of a character. -/
theorem toNat_ofNat_char {value : Nat}
    (valid : value < 0xd800 ∨ 0xdfff < value ∧ value < 0x110000) :
    (Char.ofNat value).toNat = value := by
  rw [Char.toNat_ofNat, if_pos valid]

/-- What is owed was read as a byte that the bounds admit: the last one of a character, or one that
leaves fewer bytes owed. -/
theorem exists_of_read_owed {owed : Owed} {bytes : Bytes} {chars : List Char}
    (read : (piecesFrom (some owed) bytes).mapM id = some chars) :
    ∃ byte rest, bytes = byte :: rest ∧ owed.low ≤ byte.toNat ∧ byte.toNat ≤ owed.high ∧
      (owed.later = 0 → ∃ others, chars = Char.ofNat (owed.bitsWith byte) :: others ∧
        (piecesFrom none rest).mapM id = some others) ∧
      ∀ later, owed.later = later + 1 →
        (piecesFrom (some ⟨later, 0x80, 0xbf, owed.bitsWith byte⟩) rest).mapM id = some chars := by
  cases bytes with
  | nil => simp [piecesFrom] at read
  | cons byte rest =>
    by_cases admitted : owed.admits byte = true
    · have bounds : owed.low ≤ byte.toNat ∧ byte.toNat ≤ owed.high := by
        simpa [Owed.admits] using admitted
      rw [piecesFrom, if_pos admitted] at read
      refine ⟨byte, rest, rfl, bounds.1, bounds.2, fun last => ?_, fun later more => ?_⟩
      · rw [last] at read
        cases others : (piecesFrom none rest).mapM id with
        | none => simp [others] at read
        | some found =>
          refine ⟨found, ?_, rfl⟩
          simpa [others] using read.symm
      · rw [more] at read
        exact read
    · rw [piecesFrom, if_neg admitted] at read
      simp at read

/-- What was read as characters begins with an ASCII byte, or with a byte after which others are
owed. -/
theorem exists_of_read_cons {byte : UInt8} {rest : Bytes} {chars : List Char}
    (read : (piecesFrom none (byte :: rest)).mapM id = some chars) :
    (byte.toNat < 0x80 ∧ ∃ others, chars = Char.ofNat byte.toNat :: others ∧
        (piecesFrom none rest).mapM id = some others) ∨
      ∃ owed, lead byte = .owed owed ∧ (piecesFrom (some owed) rest).mapM id = some chars := by
  cases first : lead byte with
  | invalid => simp [piecesFrom, first] at read
  | owed owed => exact Or.inr ⟨owed, rfl, by simpa [piecesFrom, first] using read⟩
  | char c =>
    have ascii : byte.toNat < 0x80 ∧ c = Char.ofNat byte.toNat := by
      unfold lead at first
      dsimp only at first
      split_ifs at first with small
      exact ⟨small, (Lead.char.inj first).symm⟩
    obtain ⟨small, rfl⟩ := ascii
    refine Or.inl ⟨small, ?_⟩
    cases others : (piecesFrom none rest).mapM id with
    | none => simp [piecesFrom, first, others] at read
    | some found =>
      refine ⟨found, ?_, rfl⟩
      simpa [piecesFrom, first, others] using read.symm

/-- What a first byte of several says: how many follow, the bounds of the next and the first bits.
The bounds keep the character out of the shorter forms, the surrogates and what is beyond the
end. -/
theorem cases_of_lead_owed {byte : UInt8} {owed : Owed} (first : lead byte = .owed owed) :
    (owed.later = 0 ∧ owed.low = 0x80 ∧ owed.high = 0xbf ∧ 2 ≤ owed.bits ∧ owed.bits < 32 ∧
        byte.toNat = 0xc0 + owed.bits) ∨
      (owed.later = 1 ∧ 0x80 ≤ owed.low ∧ owed.high ≤ 0xbf ∧ owed.bits < 16 ∧
        byte.toNat = 0xe0 + owed.bits ∧ (owed.bits = 0 → 0xa0 ≤ owed.low) ∧
        (owed.bits = 0xd → owed.high ≤ 0x9f)) ∨
      (owed.later = 2 ∧ 0x80 ≤ owed.low ∧ owed.high ≤ 0xbf ∧ owed.bits ≤ 4 ∧
        byte.toNat = 0xf0 + owed.bits ∧ (owed.bits = 0 → 0x90 ≤ owed.low) ∧
        (owed.bits = 4 → owed.high ≤ 0x8f)) := by
  unfold lead at first
  dsimp only at first
  split_ifs at first <;> cases first <;> dsimp only <;> omega

/-- A character of two, three or four bytes has the bytes that hold the bits of its code point. -/
theorem encodeChar_two {value : Nat} {first second : UInt8} (least : 0x80 ≤ value)
    (most : value ≤ 0x7ff) (one : first.toNat = 0xc0 + value / 64)
    (two : second.toNat = 0x80 + value % 64) :
    String.utf8EncodeChar (Char.ofNat value) = [first, second] := by
  have number : (Char.ofNat value).val.toNat = value := toNat_ofNat_char (by omega)
  have byte₁ : UInt8.ofNat (value / 64 % 32 + 192) = first := Bytes.ofNat_toNat_of_eq _ (by omega)
  have byte₂ : UInt8.ofNat (value % 64 + 128) = second := Bytes.ofNat_toNat_of_eq _ (by omega)
  simp only [String.utf8EncodeChar, number, show ¬ value ≤ 0x7f by omega, most, ↓reduceIte, byte₁,
    byte₂]

theorem encodeChar_three {value : Nat} {first second third : UInt8} (least : 0x800 ≤ value)
    (most : value ≤ 0xffff) (valid : value < 0xd800 ∨ 0xdfff < value)
    (one : first.toNat = 0xe0 + value / 4096) (two : second.toNat = 0x80 + value / 64 % 64)
    (three : third.toNat = 0x80 + value % 64) :
    String.utf8EncodeChar (Char.ofNat value) = [first, second, third] := by
  have number : (Char.ofNat value).val.toNat = value := toNat_ofNat_char (by omega)
  have byte₁ : UInt8.ofNat (value / 4096 % 16 + 224) = first := Bytes.ofNat_toNat_of_eq _ (by omega)
  have byte₂ : UInt8.ofNat (value / 64 % 64 + 128) = second := Bytes.ofNat_toNat_of_eq _ (by omega)
  have byte₃ : UInt8.ofNat (value % 64 + 128) = third := Bytes.ofNat_toNat_of_eq _ (by omega)
  simp only [String.utf8EncodeChar, number, show ¬ value ≤ 0x7f by omega,
    show ¬ value ≤ 0x7ff by omega, most, ↓reduceIte, byte₁, byte₂, byte₃]

theorem encodeChar_four {value : Nat} {first second third fourth : UInt8}
    (least : 0x10000 ≤ value) (most : value < 0x110000)
    (one : first.toNat = 0xf0 + value / 262144) (two : second.toNat = 0x80 + value / 4096 % 64)
    (three : third.toNat = 0x80 + value / 64 % 64) (four : fourth.toNat = 0x80 + value % 64) :
    String.utf8EncodeChar (Char.ofNat value) = [first, second, third, fourth] := by
  have number : (Char.ofNat value).val.toNat = value := toNat_ofNat_char (by omega)
  have byte₁ : UInt8.ofNat (value / 262144 % 8 + 240) = first :=
    Bytes.ofNat_toNat_of_eq _ (by omega)
  have byte₂ : UInt8.ofNat (value / 4096 % 64 + 128) = second :=
    Bytes.ofNat_toNat_of_eq _ (by omega)
  have byte₃ : UInt8.ofNat (value / 64 % 64 + 128) = third := Bytes.ofNat_toNat_of_eq _ (by omega)
  have byte₄ : UInt8.ofNat (value % 64 + 128) = fourth := Bytes.ofNat_toNat_of_eq _ (by omega)
  simp only [String.utf8EncodeChar, number, show ¬ value ≤ 0x7f by omega,
    show ¬ value ≤ 0x7ff by omega, show ¬ value ≤ 0xffff by omega, ↓reduceIte, byte₁, byte₂, byte₃,
    byte₄]

/-- What is read after a first byte of several is the rest of one character and what follows. -/
theorem exists_encode_of_lead {byte : UInt8} {owed : Owed} {rest : Bytes} {chars : List Char}
    (first : lead byte = .owed owed) (read : (piecesFrom (some owed) rest).mapM id = some chars) :
    ∃ c others tail, chars = c :: others ∧ byte :: rest = String.utf8EncodeChar c ++ tail ∧
      (piecesFrom none tail).mapM id = some others := by
  obtain ⟨b₁, rest₁, rfl, low₁, high₁, last₁, more₁⟩ := exists_of_read_owed read
  rcases cases_of_lead_owed first with
    ⟨later, low, high, least, most, number⟩ | ⟨later, low, high, small, number, form, surrogates⟩ |
      ⟨later, low, high, small, number, form, limit⟩
  · obtain ⟨others, rfl, tail⟩ := last₁ later
    refine ⟨Char.ofNat (owed.bits * 64 + (b₁.toNat - 0x80)), others, rest₁, rfl, ?_, tail⟩
    have encoded : String.utf8EncodeChar (Char.ofNat (owed.bits * 64 + (b₁.toNat - 0x80))) =
        [byte, b₁] :=
      encodeChar_two (by omega) (by omega) (by omega) (by omega)
    rw [encoded, List.cons_append, List.cons_append, List.nil_append]
  · obtain ⟨b₂, rest₂, rfl, low₂, high₂, last₂, -⟩ := exists_of_read_owed (more₁ 0 later)
    obtain ⟨others, rfl, tail⟩ := last₂ rfl
    refine ⟨Char.ofNat ((owed.bits * 64 + (b₁.toNat - 0x80)) * 64 + (b₂.toNat - 0x80)), others,
      rest₂, rfl, ?_, tail⟩
    dsimp only at low₂ high₂
    have encoded : String.utf8EncodeChar
        (Char.ofNat ((owed.bits * 64 + (b₁.toNat - 0x80)) * 64 + (b₂.toNat - 0x80))) =
        [byte, b₁, b₂] :=
      encodeChar_three (by omega) (by omega) (by omega) (by omega) (by omega) (by omega)
    rw [encoded, List.cons_append, List.cons_append, List.cons_append, List.nil_append]
  · obtain ⟨b₂, rest₂, rfl, low₂, high₂, -, more₂⟩ := exists_of_read_owed (more₁ 1 later)
    obtain ⟨b₃, rest₃, rfl, low₃, high₃, last₃, -⟩ := exists_of_read_owed (more₂ 0 rfl)
    obtain ⟨others, rfl, tail⟩ := last₃ rfl
    refine ⟨Char.ofNat (((owed.bits * 64 + (b₁.toNat - 0x80)) * 64 + (b₂.toNat - 0x80)) * 64 +
      (b₃.toNat - 0x80)), others, rest₃, rfl, ?_, tail⟩
    dsimp only at low₂ high₂ low₃ high₃
    have encoded : String.utf8EncodeChar
        (Char.ofNat (((owed.bits * 64 + (b₁.toNat - 0x80)) * 64 + (b₂.toNat - 0x80)) * 64 +
          (b₃.toNat - 0x80))) = [byte, b₁, b₂, b₃] :=
      encodeChar_four (by omega) (by omega) (by omega) (by omega) (by omega) (by omega)
    rw [encoded, List.cons_append, List.cons_append, List.cons_append, List.cons_append,
      List.nil_append]

theorem encodeChar_ascii {byte : UInt8} (ascii : byte.toNat < 0x80) :
    String.utf8EncodeChar (Char.ofNat byte.toNat) = [byte] := by
  have number : (Char.ofNat byte.toNat).val.toNat = byte.toNat := toNat_ofNat_char (by omega)
  rw [String.utf8EncodeChar]
  simp only [number, if_pos (show byte.toNat ≤ 0x7f by omega), UInt8.ofNat_toNat]

/-- **Strict reading gives back only what was written**: bytes that are read as characters are
their encoding. -/
theorem eq_encodeChars_of_read {bytes : Bytes} {chars : List Char}
    (read : (piecesFrom none bytes).mapM id = some chars) : bytes = encodeChars chars := by
  -- one character takes one to four bytes, so the induction is on the number of characters
  induction chars generalizing bytes with
  | nil =>
    cases bytes with
    | nil => rfl
    | cons byte rest =>
      rcases exists_of_read_cons read with ⟨-, others, impossible, -⟩ | ⟨owed, first, read⟩
      · cases impossible
      · obtain ⟨_, _, _, impossible, -⟩ := exists_encode_of_lead first read
        cases impossible
  | cons c others ih =>
    cases bytes with
    | nil => simp [piecesFrom] at read
    | cons byte rest =>
      rw [encodeChars, List.flatMap_cons, ← encodeChars]
      rcases exists_of_read_cons read with ⟨ascii, _, same, read⟩ | ⟨owed, first, read⟩
      · cases same
        rw [encodeChar_ascii ascii, ← ih read]
        rfl
      · obtain ⟨_, _, tail, same, written, read⟩ := exists_encode_of_lead first read
        cases same
        rw [written, ← ih read]

/-- **One byte string for each text.** The strict decoder accepts only what the encoder writes. -/
theorem eq_encode_of_decode? {bytes : Bytes} {text : String} (read : decode? bytes = some text) :
    bytes = encode text := by
  obtain ⟨chars, found, rfl⟩ := Option.map_eq_some_iff.mp read
  rw [encode, String.toList_ofList]
  exact eq_encodeChars_of_read found

end SealedGrant.Utf8

namespace SealedGrant.Text

/-- Bytes that begin with a brace and no zero byte after it show no other encoding. -/
theorem detect_brace {second : UInt8} (nonzero : second ≠ 0) (rest : Bytes) :
    Encoding.detect (0x7b :: second :: rest) = (.utf8, 0x7b :: second :: rest) := by
  -- the tests of the first byte compute, and the test of the second is what remains
  cases rest with
  | nil => exact if_neg nonzero
  | cons third rest =>
    cases rest with
    | nil => rfl
    | cons fourth rest => exact if_neg nonzero

/-- **The text of an object is read from its UTF-8 form.** Its first two characters are ASCII, so
no other encoding is taken for it. -/
theorem decodeJsonBytes?_encode {second : Char} (rest : List Char)
    (positive : 0 < second.toNat) (ascii : second.toNat < 0x80) :
    decodeJsonBytes? (Utf8.encode (String.ofList ('{' :: second :: rest))) =
      some (String.ofList ('{' :: second :: rest)) := by
  have bytes : Utf8.encodeChars ('{' :: second :: rest) =
      0x7b :: UInt8.ofNat second.toNat :: Utf8.encodeChars rest := by
    have one : String.utf8EncodeChar second = [UInt8.ofNat second.toNat] := by
      rw [String.utf8EncodeChar]
      exact if_pos (show second.toNat ≤ 0x7f by omega)
    simp only [Utf8.encodeChars, List.flatMap_cons, one]
    rfl
  have nonzero : UInt8.ofNat second.toNat ≠ 0 := by
    intro zero
    have value := congrArg UInt8.toNat zero
    rw [Bytes.toNat_ofNat_byte (by omega)] at value
    exact absurd value (Nat.pos_iff_ne_zero.mp positive)
  have decoded := Utf8.decodeChars?_encodeChars ('{' :: second :: rest)
  simp only [decodeJsonBytes?, Utf8.encode, String.toList_ofList, bytes, detect_brace nonzero,
    Encoding.chars?]
  rw [← bytes, decoded, Option.map_some]

end SealedGrant.Text
