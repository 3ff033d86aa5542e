/-! # Texts with surrogates

A text of this library is a `String`, a sequence of Unicode characters. Callers in the same process
may hand over any sequence of code points, and a surrogate that stands alone among them has no form
in UTF-8. A verifier is encoded before it is compared, so a request keeps all its code points. Every
other text is a `String`, the strings of JSON values among them (`SealedGrant.Json`): what is proved
of those does not cover texts with surrogates.
-/

namespace SealedGrant

/-- A code point: a character or a surrogate. -/
inductive CodePoint where
  | char (c : Char)
  /-- The surrogate at an index, counted from U+D800. -/
  | surrogate (index : Fin 0x800)
  deriving DecidableEq, Repr

/-- A text of any code points. -/
abbrev WideText := List CodePoint

namespace WideText

/-- A text of characters. -/
def ofString (text : String) : WideText :=
  text.toList.map .char

def chars? : WideText → Option (List Char)
  | [] => some []
  | .surrogate _ :: _ => none
  | .char c :: rest => (chars? rest).map (c :: ·)

/-- The text, unless it has a surrogate. -/
def text? (text : WideText) : Option String :=
  text.chars?.map String.ofList

theorem chars?_map_char (chars : List Char) : chars? (chars.map .char) = some chars := by
  induction chars with
  | nil => rfl
  | cons c rest ih => rw [List.map_cons, chars?, ih, Option.map_some]

theorem eq_map_char_of_chars? {text : WideText} {chars : List Char}
    (read : text.chars? = some chars) : text = chars.map .char := by
  induction text generalizing chars with
  | nil =>
    cases read
    rfl
  | cons point rest ih =>
    cases point with
    | surrogate index => cases read
    | char c =>
      obtain ⟨later, tail, rfl⟩ := Option.map_eq_some_iff.mp read
      rw [ih tail, List.map_cons]

@[simp] theorem text?_ofString (text : String) : (ofString text).text? = some text := by
  rw [text?, ofString, chars?_map_char, Option.map_some, String.ofList_toList]

/-- A text without surrogates is a text of characters. -/
theorem text?_eq_some_iff {wide : WideText} {text : String} :
    wide.text? = some text ↔ wide = ofString text := by
  constructor
  · intro read
    obtain ⟨chars, found, rfl⟩ := Option.map_eq_some_iff.mp read
    rw [ofString, String.toList_ofList]
    exact eq_map_char_of_chars? found
  · rintro rfl
    exact text?_ofString text

@[simp] theorem ofString_inj {left right : String} :
    ofString left = ofString right ↔ left = right := by
  rw [← text?_eq_some_iff, text?_ofString, Option.some_inj]

@[simp] theorem ofString_eq_nil_iff {text : String} : ofString text = [] ↔ text = "" := by
  rw [ofString, List.map_eq_nil_iff, String.toList_eq_nil_iff]

end WideText
end SealedGrant
