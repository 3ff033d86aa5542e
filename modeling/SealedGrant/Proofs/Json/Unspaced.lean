import Mathlib
import SealedGrant.Proofs.Json.Scan
import SealedGrant.Text.Blank

/-! # No blank outside strings

The characters of a JSON text that stand outside its strings are found from the quotation marks and
the backslashes alone (`SealedGrant.Json.outsideStrings`). In compact text none of them is a blank
of any script (`SealedGrant.Json.unspaced_write`): what is blank in it belongs to a name or to a
text.
-/

namespace SealedGrant.Json

/-- Where a character stands with respect to the strings of a text. -/
inductive Quoting where
  | outside
  | inside
  /-- Right after a backslash in a string. -/
  | escaped

/-- The characters of a text that stand outside its strings, without the marks of the strings. -/
def outsideStrings : Quoting → List Char → List Char
  | _, [] => []
  | .outside, c :: rest =>
      if c = '"' then outsideStrings .inside rest else c :: outsideStrings .outside rest
  | .inside, c :: rest =>
      if c = '"' then outsideStrings .outside rest
      else if c = '\\' then outsideStrings .escaped rest
      else outsideStrings .inside rest
  | .escaped, _ :: rest => outsideStrings .inside rest

/-! ## Strings -/

section Strings

variable (rest : List Char)

theorem outsideStrings_inside_cons {c : Char} (quote : c ≠ '"') (backslash : c ≠ '\\') :
    outsideStrings .inside (c :: rest) = outsideStrings .inside rest := by
  rw [outsideStrings, if_neg quote, if_neg backslash]

theorem outsideStrings_unitEscape (unit : ℕ) :
    outsideStrings .inside (unitEscape unit ++ rest) = outsideStrings .inside rest := by
  have digit (n : ℕ) : Bytes.hexDigit (n % 16) ≠ '"' ∧ Bytes.hexDigit (n % 16) ≠ '\\' := by
    have small : n % 16 < 16 := Nat.mod_lt n (by norm_num)
    generalize n % 16 = m at small
    interval_cases m <;> decide
  have kept (n : ℕ) (others : List Char) :
      outsideStrings .inside (Bytes.hexDigit (n % 16) :: others) = outsideStrings .inside others :=
    outsideStrings_inside_cons others (digit n).1 (digit n).2
  simp only [unitEscape, Text.hexDigits, List.nil_append, List.cons_append]
  rw [outsideStrings, if_neg (by decide), if_pos rfl, outsideStrings, kept, kept, kept, kept]

theorem outsideStrings_charEscape (c : Char) :
    outsideStrings .inside (charEscape c ++ rest) = outsideStrings .inside rest := by
  unfold charEscape
  dsimp only
  split
  · exact outsideStrings_unitEscape rest _
  · rw [List.append_assoc, outsideStrings_unitEscape, outsideStrings_unitEscape]

/-- A written character neither leaves the string nor shows outside it. -/
theorem outsideStrings_writeChar (asciiOnly : Bool) (c : Char) :
    outsideStrings .inside (writeChar asciiOnly c ++ rest) = outsideStrings .inside rest := by
  unfold writeChar
  split_ifs with quote backslash newline back tab bell feed control wide
  · rfl
  · rfl
  · rfl
  · rfl
  · rfl
  · rfl
  · rfl
  · exact outsideStrings_charEscape rest c
  · exact outsideStrings_charEscape rest c
  · exact outsideStrings_inside_cons rest quote backslash

/-- A written string leaves nothing outside. -/
theorem outsideStrings_writeString (asciiOnly : Bool) (text : String) :
    outsideStrings .outside (writeString asciiOnly text ++ rest) =
      outsideStrings .outside rest := by
  have inner (chars : List Char) (after : List Char) :
      outsideStrings .inside (chars.flatMap (writeChar asciiOnly) ++ after) =
        outsideStrings .inside after := by
    induction chars with
    | nil => rfl
    | cons c chars ih =>
      rw [List.flatMap_cons, List.append_assoc, outsideStrings_writeChar, ih]
  rw [writeString, List.cons_append, List.cons_append, List.append_assoc, outsideStrings,
    if_pos rfl, inner]
  rfl

end Strings

/-! ## Values -/

/-- No character of a text is blank, but for those in its strings. -/
def Unspaced (text : List Char) : Prop :=
  ∀ c ∈ outsideStrings .outside text, Text.isBlank c = false

section Values

variable {rest : List Char} (unspaced : Unspaced rest)

include unspaced

theorem Unspaced.cons {c : Char} (other : c ≠ '"') (visible : Text.isBlank c = false) :
    Unspaced (c :: rest) := by
  rw [Unspaced, outsideStrings, if_neg other, List.forall_mem_cons]
  exact ⟨visible, unspaced⟩

theorem Unspaced.append {chars : List Char}
    (visible : ∀ c ∈ chars, c ≠ '"' ∧ Text.isBlank c = false) : Unspaced (chars ++ rest) := by
  induction chars with
  | nil => exact unspaced
  | cons c chars ih =>
    obtain ⟨⟨other, first⟩, later⟩ := List.forall_mem_cons.mp visible
    exact (ih later).cons other first

theorem Unspaced.word {chars : List Char}
    (visible : chars.all (fun c => c ≠ '"' && !Text.isBlank c) = true) :
    Unspaced (chars ++ rest) :=
  unspaced.append (by simpa using visible)

theorem Unspaced.quoted (asciiOnly : Bool) (text : String) :
    Unspaced (writeString asciiOnly text ++ rest) := by
  rw [Unspaced, outsideStrings_writeString]
  exact unspaced

end Values

/-- A member shows its colon and its value. -/
theorem Unspaced.member {value : Json} {rest : List Char}
    (unspaced : Unspaced (value.write .compact ++ rest)) (name : String) :
    Unspaced ((writeString Style.compact.asciiOnly name ++ Style.compact.colon ++
      value.write .compact) ++ rest) := by
  rw [List.append_assoc, List.append_assoc]
  have colon : Unspaced (':' :: (value.write .compact ++ rest)) :=
    unspaced.cons (by decide) rfl
  exact colon.quoted _ name

mutual

/-- **Compact text has no blank outside its strings.** -/
theorem unspaced_write (value : Json) {rest : List Char} (finite : value.isFinite = true)
    (unspaced : Unspaced rest) : Unspaced (value.write .compact ++ rest) := by
  cases value with
  | null => exact unspaced.word rfl
  | bool value =>
    cases value with
    | true => exact unspaced.word rfl
    | false => exact unspaced.word rfl
  | number n =>
    exact unspaced.append fun c member =>
      forall_isNumeral (fun c => c ≠ '"' ∧ Text.isBlank c = false) (by decide)
        (by decide) (by decide) (by decide) (by decide) (isNumeral_write finite c member)
  | string text => exact unspaced.quoted _ text
  | array items =>
    simp only [write, List.cons_append, List.append_assoc, List.nil_append]
    have closed : Unspaced (']' :: rest) := unspaced.cons (by decide) rfl
    cases items with
    | nil => exact closed.cons (by decide) rfl
    | cons item others =>
      simp only [isFinite, allNumbers, allNumbersIn, Bool.and_eq_true] at finite
      rw [writeItems, intercalate_cons, List.append_assoc]
      exact (unspaced_write item finite.1 (unspaced_laterItems others finite.2 closed)).cons
        (by decide) rfl
  | object members =>
    simp only [write, List.cons_append, List.append_assoc, List.nil_append]
    have closed : Unspaced ('\x7d' :: rest) := unspaced.cons (by decide) rfl
    cases members with
    | nil => exact closed.cons (by decide) rfl
    | cons member others =>
      obtain ⟨name, value⟩ := member
      simp only [isFinite, allNumbers, allNumbersOf, Bool.and_eq_true] at finite
      rw [writeMembers, intercalate_cons, List.append_assoc]
      have shown := unspaced_write value finite.1 (unspaced_laterMembers others finite.2 closed)
      exact (shown.member name).cons (by decide) rfl
termination_by structural value

theorem unspaced_laterItems (items : List Json) {rest : List Char}
    (finite : allNumbersIn Number.isFinite items = true) (unspaced : Unspaced rest) :
    Unspaced ((writeItems .compact items).flatMap (Style.compact.comma ++ ·) ++ rest) := by
  cases items with
  | nil => exact unspaced
  | cons item others =>
    rw [allNumbersIn, Bool.and_eq_true] at finite
    rw [writeItems, List.flatMap_cons, List.append_assoc, List.append_assoc]
    exact (unspaced_write item finite.1 (unspaced_laterItems others finite.2 unspaced)).cons
      (by decide) rfl
termination_by structural items

theorem unspaced_laterMembers (members : List (String × Json)) {rest : List Char}
    (finite : allNumbersOf Number.isFinite members = true) (unspaced : Unspaced rest) :
    Unspaced ((writeMembers .compact members).flatMap (Style.compact.comma ++ ·) ++ rest) := by
  cases members with
  | nil => exact unspaced
  | cons member others =>
    obtain ⟨name, value⟩ := member
    rw [allNumbersOf, Bool.and_eq_true] at finite
    rw [writeMembers, List.flatMap_cons, List.append_assoc, List.append_assoc]
    have shown := unspaced_write value finite.1 (unspaced_laterMembers others finite.2 unspaced)
    exact (shown.member name).cons (by decide) rfl
termination_by structural members

end

end SealedGrant.Json
