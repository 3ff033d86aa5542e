import Mathlib
import SealedGrant.Password.Bcrypt
import SealedGrant.Proofs.Codec.Base64Url

/-! # Stored hashes are read back

A stored hash tells how it was made: its parts are set off by dollar signs, and none of them has
one. So a hash that was made of a password is read as its setting, whatever the password was
(`SealedGrant.Bcrypt.ofText?_text`), and checking a password against it gives an answer
(`SealedGrant.Bcrypt.isSome_verify?`).
-/

namespace SealedGrant.Bcrypt

/-! ## Parts between dollar signs -/

/-- Looking for a text of one character is looking for the character. -/
theorem splitOnAux_eq_splitAux (text : String) (start stop : String.Pos.Raw)
    (found : List String) :
    text.splitOnAux "$" start stop 0 found = text.splitAux (· == '$') start stop found := by
  have first : String.Pos.Raw.get "$" 0 = '$' := by decide
  have next : String.Pos.Raw.next "$" 0 = ⟨1⟩ := by decide
  have last : String.Pos.Raw.atEnd "$" ⟨1⟩ = true := by decide
  fun_induction String.splitAux text (· == '$') start stop found with
  | case1 start stop found ended => rw [String.splitOnAux, if_pos ended]
  | case2 start stop found more _ here after ih =>
    rw [String.splitOnAux, if_neg more, first, if_pos here]
    have dollar : String.Pos.Raw.get text stop = '$' := eq_of_beq here
    have before : (String.Pos.Raw.next text stop).unoffsetBy ⟨1⟩ = stop := by
      rw [String.Pos.Raw.next, dollar]
      rfl
    simp only [next, last, ↓reduceIte, before]
    exact ih
  | case3 start stop found more _ other ih =>
    rw [String.splitOnAux, if_neg more, first, if_neg other]
    exact ih

/-- **Parts between dollar signs** are found, if none of them has one. -/
theorem splitOn_dollar {parts : List (List Char)} (filled : parts ≠ [])
    (single : ∀ part ∈ parts, '$' ∉ part) :
    (String.ofList (['$'].intercalate parts)).splitOn "$" = parts.map String.ofList := by
  have split : (String.ofList (['$'].intercalate parts)).splitOn "$" =
      (String.ofList (['$'].intercalate parts)).splitToList (· == '$') :=
    splitOnAux_eq_splitAux _ 0 0 []
  rw [split, String.splitToList_of_valid, String.toList_ofList]
  exact congrArg _ (List.splitOn_intercalate '$' single filled)

/-! ## Digits -/

theorem encode_eq_map (bytes : Bytes) : encode bytes = (Base64.sextets bytes).map digit := by
  fun_induction encode bytes with
  | case1 => rfl
  | case2 a => rfl
  | case3 a b => rfl
  | case4 a b c rest ih => simp only [Base64.sextets, List.map_cons, ih]

theorem dollar_not_mem_encode (bytes : Bytes) : '$' ∉ encode bytes := by
  have digits : ∀ c ∈ (Base64.sextets bytes).map digit, c ≠ '$' :=
    Base64.forall_mem_map_sextets (by decide +kernel) bytes
  rw [encode_eq_map]
  exact fun member => digits '$' member rfl

/-- **The digits of a salt are read back.** -/
theorem saltBytes?_encode {salt : Bytes} (long : salt.length = 16) :
    saltBytes? (encode salt) = some salt := by
  have reads : ∀ value < 64, digitValue? (digit value) = some value := by decide +kernel
  have values : (encode salt).mapM digitValue? = some (Base64.sextets salt) := by
    rw [encode_eq_map]
    exact Base64.mapM_map_eq_some fun value member => reads value (Base64.lt_of_mem_sextets member)
  have length : (Base64.sextets salt).length = 22 := by rw [Base64.length_sextets, long]
  have number : (Base64.sextets salt).foldl (fun total value => 64 * total + value) 0 =
      Bytes.toNat salt * 16 := by
    change Base64.number _ = _
    rw [Base64.number_sextets, length, long]
    rfl
  unfold saltBytes?
  rw [values, Option.bind_eq_bind, Option.bind_some]
  dsimp only
  rw [number, if_pos ⟨length, Nat.mul_mod_left _ _⟩, Nat.mul_div_cancel _ (by decide), ← long,
    Bytes.ofNat_toNat]

/-! ## Hashes -/

/-- **A setting that hashes are made with**: its version is understood, its cost is one that is
taken, and its salt has sixteen bytes. -/
structure Setting.IsSound (setting : Setting) : Prop where
  version : setting.version ∈ versions
  cost : 4 ≤ setting.cost ∧ setting.cost ≤ 31
  salt : setting.salt.length = 16

/-- The text of a cost: two digits. -/
def costText (cost : ℕ) : String :=
  (if cost < 10 then "0" else "") ++ toString cost

theorem costText_sound : ∀ cost < 32, 4 ≤ cost →
    cost? (costText cost) = some cost ∧ '$' ∉ (costText cost).toList ∧ costText cost ≠ "" := by
  decide +kernel

theorem version_sound : ∀ version ∈ versions, '$' ∉ version.toList ∧ version ≠ "" := by
  decide +kernel

/-- The parts of a stored hash. -/
def textParts (setting : Setting) (digest : Bytes) : List (List Char) :=
  [[], setting.version.toList, (costText setting.cost).toList,
    encode setting.salt ++ encode digest]

theorem text_eq_intercalate (setting : Setting) (digest : Bytes) :
    text setting digest = String.ofList (['$'].intercalate (textParts setting digest)) := by
  have dollar : "$".toList = ['$'] := rfl
  rw [← String.toList_inj, String.toList_ofList]
  simp only [text, textParts, costText, String.toList_append, String.toList_ofList, dollar,
    List.intercalate, List.intersperse_cons_cons, List.intersperse_singleton, List.flatten_cons,
    List.flatten_nil, List.append_nil, List.nil_append, List.append_assoc]

/-- **A stored hash is read as the setting it was made with.** -/
theorem ofText?_text {setting : Setting} (sound : setting.IsSound) (digest : Bytes) :
    Setting.ofText? (text setting digest) = some setting := by
  obtain ⟨version, cost, salt⟩ := setting
  obtain ⟨understood, ⟨least, most⟩, long⟩ := sound
  dsimp only at understood least most long
  obtain ⟨versionSingle, versionFilled⟩ := version_sound version understood
  obtain ⟨costRead, costSingle, costFilled⟩ := costText_sound cost (by omega) least
  have width : (encode salt).length = 22 := by
    rw [encode_eq_map, List.length_map, Base64.length_sextets, long]
  have single : ∀ part ∈ textParts ⟨version, cost, salt⟩ digest, '$' ∉ part := by
    simp only [textParts, List.forall_mem_cons, List.mem_append, not_or]
    exact ⟨List.not_mem_nil, versionSingle, costSingle,
      ⟨dollar_not_mem_encode salt, dollar_not_mem_encode digest⟩, List.forall_mem_nil _⟩
  have filled : encode salt ≠ [] := List.ne_nil_of_length_pos (by omega)
  have parts : ((text ⟨version, cost, salt⟩ digest).splitOn "$").filter (· ≠ "") =
      [version, costText cost, String.ofList (encode salt ++ encode digest)] := by
    have some_parts : textParts ⟨version, cost, salt⟩ digest ≠ [] := List.cons_ne_nil _ _
    rw [text_eq_intercalate, splitOn_dollar some_parts single]
    simp [textParts, versionFilled, costFilled, filled]
  unfold Setting.ofText?
  rw [parts]
  dsimp only
  rw [costRead, String.toList_ofList, List.take_left' width, saltBytes?_encode long]
  simp [understood]

/-- **Checking a password against a stored hash gives an answer.** -/
theorem isSome_verify? {setting : Setting} (sound : setting.IsSound) (own presented : String) :
    (verify? presented (hash setting own)).isSome = true := by
  rw [verify?, hash, ofText?_text sound]
  rfl

end SealedGrant.Bcrypt
