import Mathlib
import SealedGrant.Proofs.Json.Scan

/-! # Compact text is unambiguous

Two values of finite numbers that have one compact text are one value
(`SealedGrant.Json.render_injective`). Inside a longer text the end of a value shows as well
(`SealedGrant.Json.eq_of_write_append`): a string, an array and an object end with a mark of their
own, a number and a word where a mark follows. Integers are told apart by all their digits: the
limit on these is set by reading and by the canonical form, not by the layout.
-/

namespace SealedGrant.Json

/-! ## Numbers -/

theorem intText_injective {m n : ℤ} (equal : Number.intText m = Number.intText n) : m = n := by
  have digits {k l : ℕ} (same : Nat.toDigits 10 k = Nat.toDigits 10 l) : k = l := by
    rw [← Nat.ofDigitChars_ten_toDigits (n := k), same, Nat.ofDigitChars_ten_toDigits]
  have unsigned {k l : ℕ} (same : '-' :: Nat.toDigits 10 k = Nat.toDigits 10 l) : False := by
    have digit := isDigit_of_mem_toDigits (n := l) (c := '-') (by rw [← same]; simp)
    cases digit
  unfold Number.intText at equal
  split at equal
  · next below =>
    split at equal
    · next under =>
      have same := digits (List.cons.inj equal).2
      omega
    · exact (unsigned equal).elim
  · next above =>
    split at equal
    · exact (unsigned equal.symm).elim
    · next large =>
      have same := digits equal
      omega

/-- The text of a finite number is read as the number, or refused for the number of its digits. -/
theorem readNumber_write_cases (names : Number.SpecialNames) {n : Number}
    (finite : n.isFinite = true) :
    readNumber (n.write names) = .ok n ∨
      ∃ digits, readNumber (n.write names) = .error (.tooLong digits) := by
  cases n with
  | int n =>
    rw [Number.write, readNumber_intText_eq]
    split
    · exact .inr ⟨_, rfl⟩
    · exact .inl rfl
  | double d => exact .inl (readNumber_write names finite)

theorem write_injective {names : Number.SpecialNames} {m n : Number} (first : m.isFinite = true)
    (second : n.isFinite = true) (equal : m.write names = n.write names) : m = n := by
  cases m with
  | int m =>
    cases n with
    | int n => rw [intText_injective equal]
    | double d =>
      have double := readNumber_write (n := .double d) names second
      have integer := readNumber_intText_eq m
      rw [← equal, Number.write, integer] at double
      split at double <;> cases double
  | double c =>
    have double := readNumber_write (n := .double c) names first
    cases n with
    | int n =>
      have integer := readNumber_intText_eq n
      rw [equal, Number.write, integer] at double
      split at double <;> cases double
    | double d =>
      have other := readNumber_write (n := .double d) names second
      rw [← equal, double] at other
      exact Except.ok.inj other

/-! ## Where a value begins and ends -/

/-- The mark that a value begins with, unless it is a number or a word. -/
def opening? : Json → Option Char
  | .string _ => some '"'
  | .array _ => some '['
  | .object _ => some '{'
  | .null | .bool _ | .number _ => none

theorem exists_string_of_opening? {value : Json} (opens : value.opening? = some '"') :
    ∃ text, value = .string text := by
  cases value <;> cases opens
  exact ⟨_, rfl⟩

theorem exists_array_of_opening? {value : Json} (opens : value.opening? = some '[') :
    ∃ items, value = .array items := by
  cases value <;> cases opens
  exact ⟨_, rfl⟩

theorem exists_object_of_opening? {value : Json} (opens : value.opening? = some '\x7b') :
    ∃ members, value = .object members := by
  cases value <;> cases opens
  exact ⟨_, rfl⟩

/-- Nothing in the text of a number or a word ends it early. -/
theorem endsBare_of_opening? {style : Style} {value : Json} (finite : value.isFinite = true)
    (bare : value.opening? = none) : ∀ c ∈ value.write style, endsBare c = false := by
  cases value with
  | null => exact inside_of_all rfl
  | bool value =>
    cases value with
    | true => exact inside_of_all rfl
    | false => exact inside_of_all rfl
  | number n => exact endsBare_write finite
  | string text => cases bare
  | array items => cases bare
  | object members => cases bare

/-- A text begins with the mark of its value, or with a character that ends nothing. -/
theorem write_eq_cons (style : Style) {value : Json} (finite : value.isFinite = true) :
    ∃ c rest, value.write style = c :: rest ∧
      (value.opening? = some c ∨ value.opening? = none ∧ endsBare c = false) := by
  cases value with
  | string text => exact ⟨'"', _, rfl, .inl rfl⟩
  | array items => exact ⟨'[', _, rfl, .inl rfl⟩
  | object members => exact ⟨'\x7b', _, rfl, .inl rfl⟩
  | null => exact ⟨'n', _, rfl, .inr ⟨rfl, rfl⟩⟩
  | bool value =>
    cases value with
    | true => exact ⟨'t', _, rfl, .inr ⟨rfl, rfl⟩⟩
    | false => exact ⟨'f', _, rfl, .inr ⟨rfl, rfl⟩⟩
  | number n =>
    have nonempty : n.write specialNames ≠ [] := by
      intro empty
      rcases readNumber_write_cases specialNames finite with read | ⟨digits, read⟩ <;>
        rw [empty] at read <;> cases read
    have inside : ∀ c ∈ n.write specialNames, endsBare c = false := endsBare_write finite
    obtain ⟨c, rest, text⟩ := List.exists_cons_of_ne_nil nonempty
    rw [text] at inside
    exact ⟨c, rest, text, .inr ⟨rfl, inside c List.mem_cons_self⟩⟩

theorem endsBare_of_opening {value : Json} {c : Char} (opens : value.opening? = some c) :
    endsBare c = true := by
  cases value with
  | string text => cases opens; rfl
  | array items => cases opens; rfl
  | object members => cases opens; rfl
  | null => cases opens
  | bool value => cases opens
  | number n => cases opens

section Style

variable {style : Style} {left right : Json} {r s : List Char}
  (leftFinite : left.isFinite = true) (rightFinite : right.isFinite = true)

include leftFinite rightFinite

/-- The first character of a text tells what sort of value it writes. -/
theorem opening?_eq_of_write_append (equal : left.write style ++ r = right.write style ++ s) :
    left.opening? = right.opening? := by
  obtain ⟨c, others, leftText, leftOpens⟩ := write_eq_cons style leftFinite
  obtain ⟨d, more, rightText, rightOpens⟩ := write_eq_cons style rightFinite
  rw [leftText, rightText] at equal
  obtain rfl : c = d := (List.cons.inj equal).1
  rcases leftOpens with leftMark | ⟨leftBare, leftInside⟩
  · rcases rightOpens with rightMark | ⟨-, rightInside⟩
    · rw [leftMark, rightMark]
    · rw [endsBare_of_opening leftMark] at rightInside
      cases rightInside
  · rcases rightOpens with rightMark | ⟨rightBare, -⟩
    · rw [endsBare_of_opening rightMark] at leftInside
      cases leftInside
    · rw [leftBare, rightBare]

/-- Numbers and words of one text are one value. -/
theorem eq_of_write_eq_of_bare (leftBare : left.opening? = none) (rightBare : right.opening? = none)
    (equal : left.write style = right.write style) : left = right := by
  have noWord {n : Number} {word : List Char} (finite : n.isFinite = true)
      (malformed : readNumber word = .error .malformed) : n.write specialNames ≠ word := by
    rintro rfl
    rcases readNumber_write_cases specialNames finite with read | ⟨digits, read⟩ <;>
      rw [malformed] at read <;> cases read
  cases left with
  | number m =>
    cases right with
    | number n => exact congrArg Json.number (write_injective leftFinite rightFinite equal)
    | null => exact absurd equal (noWord leftFinite rfl)
    | bool value => cases value <;> exact absurd equal (noWord leftFinite rfl)
    | string text => cases rightBare
    | array items => cases rightBare
    | object members => cases rightBare
  | null =>
    cases right with
    | number n => exact absurd equal.symm (noWord rightFinite rfl)
    | null => rfl
    | bool value => cases value <;> exact absurd equal (by rw [write, write]; decide)
    | string text => cases rightBare
    | array items => cases rightBare
    | object members => cases rightBare
  | bool first =>
    cases right with
    | number n => cases first <;> exact absurd equal.symm (noWord rightFinite rfl)
    | null => cases first <;> exact absurd equal (by rw [write, write]; decide)
    | bool second =>
      cases first <;> cases second
      · rfl
      · exact absurd equal (by rw [write, write]; decide)
      · exact absurd equal (by rw [write, write]; decide)
      · rfl
    | string text => cases rightBare
    | array items => cases rightBare
    | object members => cases rightBare
  | string text => cases leftBare
  | array items => cases leftBare
  | object members => cases leftBare

end Style

/-- Where characters that end nothing stop is seen from what follows. -/
theorem eq_of_append_of_ends {left right r s : List Char}
    (leftInside : ∀ c ∈ left, endsBare c = false) (rightInside : ∀ c ∈ right, endsBare c = false)
    (leftEnds : Ends r) (rightEnds : Ends s) (equal : left ++ r = right ++ s) :
    left = right ∧ r = s := by
  have taken {chars rest : List Char} (inside : ∀ c ∈ chars, endsBare c = false)
      (ends : Ends rest) : (chars ++ rest).takeWhile (fun c => !endsBare c) = chars := by
    rw [List.takeWhile_append_of_pos (by simpa using inside)]
    cases rest with
    | nil => simp
    | cons c rest => simp [ends c rfl]
  have same : left = right := by
    rw [← taken leftInside leftEnds, equal, taken rightInside rightEnds]
  subst same
  exact ⟨rfl, List.append_cancel_left equal⟩

theorem eq_of_writeString_append {asciiOnly : Bool} {left right : String} {r s : List Char}
    (equal : writeString asciiOnly left ++ r = writeString asciiOnly right ++ s) :
    left = right ∧ r = s := by
  have scanned := congrArg (scanFrom .strict .between) equal
  rw [scanFrom_writeString, scanFrom_writeString] at scanned
  obtain rfl : left = right := by
    injection scanned with lexeme
    injection lexeme with value
    injection value
  exact ⟨rfl, List.append_cancel_left equal⟩

/-! ## Values -/

section Compact

/-- Numbers and words are told from what follows them. -/
theorem eq_of_bare_append {left right : Json} {r s : List Char}
    (leftFinite : left.isFinite = true) (rightFinite : right.isFinite = true)
    (leftBare : left.opening? = none) (rightBare : right.opening? = none)
    (leftEnds : Ends r) (rightEnds : Ends s)
    (equal : left.write .compact ++ r = right.write .compact ++ s) : left = right ∧ r = s := by
  obtain ⟨same, rest⟩ := eq_of_append_of_ends (endsBare_of_opening? leftFinite leftBare)
    (endsBare_of_opening? rightFinite rightBare) leftEnds rightEnds equal
  exact ⟨eq_of_write_eq_of_bare leftFinite rightFinite leftBare rightBare same, rest⟩

/-- What follows an item or a member ends it: a comma, or the closing mark. -/
theorem ends_laterTexts (texts : List (List Char)) {closing : Char}
    (closes : endsBare closing = true) (rest : List Char) :
    Ends (texts.flatMap (Style.compact.comma ++ ·) ++ closing :: rest) :=
  ends_of_flatMap Style.separates_compact texts (ends_cons closes rest)

/-- No value begins with a closing bracket. -/
theorem closeBracket_cons_ne_write_append {value : Json} (finite : value.isFinite = true)
    (rest others : List Char) : ']' :: others ≠ value.write .compact ++ rest := by
  obtain ⟨c, more, text, opens⟩ := write_eq_cons .compact finite
  intro equal
  rw [text] at equal
  obtain rfl : ']' = c := (List.cons.inj equal).1
  rcases opens with opens | ⟨-, inside⟩
  · cases value <;> cases opens
  · cases inside

mutual

/-- **A value in compact text is told from what follows it**, where that ends it. -/
theorem eq_of_write_append (left right : Json) {r s : List Char}
    (leftFinite : left.isFinite = true) (rightFinite : right.isFinite = true)
    (leftEnds : Ends r) (rightEnds : Ends s)
    (equal : left.write .compact ++ r = right.write .compact ++ s) : left = right ∧ r = s := by
  have opening := opening?_eq_of_write_append leftFinite rightFinite equal
  cases left with
  | string text =>
    obtain ⟨other, rfl⟩ := exists_string_of_opening? opening.symm
    obtain ⟨rfl, rest⟩ := eq_of_writeString_append equal
    exact ⟨rfl, rest⟩
  | array items =>
    obtain ⟨others, rfl⟩ := exists_array_of_opening? opening.symm
    simp only [write, List.cons_append, List.append_assoc, List.nil_append, List.cons.injEq,
      true_and] at equal
    obtain ⟨rfl, rest⟩ := eq_of_writeItems_append items others leftFinite rightFinite equal
    exact ⟨rfl, rest⟩
  | object members =>
    obtain ⟨others, rfl⟩ := exists_object_of_opening? opening.symm
    simp only [write, List.cons_append, List.append_assoc, List.nil_append, List.cons.injEq,
      true_and] at equal
    obtain ⟨rfl, rest⟩ := eq_of_writeMembers_append members others leftFinite rightFinite equal
    exact ⟨rfl, rest⟩
  | null => exact eq_of_bare_append leftFinite rightFinite rfl opening.symm leftEnds rightEnds equal
  | bool value =>
    exact eq_of_bare_append leftFinite rightFinite rfl opening.symm leftEnds rightEnds equal
  | number n =>
    exact eq_of_bare_append leftFinite rightFinite rfl opening.symm leftEnds rightEnds equal
termination_by structural left

theorem eq_of_writeItems_append (left right : List Json) {r s : List Char}
    (leftFinite : allNumbersIn Number.isFinite left = true)
    (rightFinite : allNumbersIn Number.isFinite right = true)
    (equal : Style.compact.comma.intercalate (writeItems .compact left) ++ ']' :: r =
      Style.compact.comma.intercalate (writeItems .compact right) ++ ']' :: s) :
    left = right ∧ r = s := by
  cases left with
  | nil =>
    cases right with
    | nil => exact ⟨rfl, (List.cons.inj equal).2⟩
    | cons item rest =>
      rw [writeItems, writeItems, intercalate_cons, List.append_assoc] at equal
      rw [allNumbersIn, Bool.and_eq_true] at rightFinite
      exact absurd equal (closeBracket_cons_ne_write_append rightFinite.1 _ _)
  | cons first others =>
    rw [allNumbersIn, Bool.and_eq_true] at leftFinite
    cases right with
    | nil =>
      rw [writeItems, writeItems, intercalate_cons, List.append_assoc] at equal
      exact absurd equal.symm (closeBracket_cons_ne_write_append leftFinite.1 _ _)
    | cons second rest =>
      rw [allNumbersIn, Bool.and_eq_true] at rightFinite
      rw [writeItems, writeItems, intercalate_cons, intercalate_cons, List.append_assoc,
        List.append_assoc] at equal
      obtain ⟨rfl, later⟩ := eq_of_write_append first second leftFinite.1 rightFinite.1
        (ends_laterTexts _ rfl r) (ends_laterTexts _ rfl s) equal
      obtain ⟨rfl, after⟩ := eq_of_laterItems others rest leftFinite.2 rightFinite.2 later
      exact ⟨rfl, after⟩
termination_by structural left

theorem eq_of_laterItems (left right : List Json) {r s : List Char}
    (leftFinite : allNumbersIn Number.isFinite left = true)
    (rightFinite : allNumbersIn Number.isFinite right = true)
    (equal : (writeItems .compact left).flatMap (Style.compact.comma ++ ·) ++ ']' :: r =
      (writeItems .compact right).flatMap (Style.compact.comma ++ ·) ++ ']' :: s) :
    left = right ∧ r = s := by
  cases left with
  | nil =>
    cases right with
    | nil => exact ⟨rfl, (List.cons.inj equal).2⟩
    | cons item rest => cases equal
  | cons first others =>
    cases right with
    | nil => cases equal
    | cons second rest =>
      rw [allNumbersIn, Bool.and_eq_true] at leftFinite rightFinite
      rw [writeItems, writeItems, List.flatMap_cons, List.flatMap_cons, List.append_assoc,
        List.append_assoc, List.append_assoc, List.append_assoc] at equal
      obtain ⟨rfl, later⟩ := eq_of_write_append first second leftFinite.1 rightFinite.1
        (ends_laterTexts _ rfl r) (ends_laterTexts _ rfl s) (List.append_cancel_left equal)
      obtain ⟨rfl, after⟩ := eq_of_laterItems others rest leftFinite.2 rightFinite.2 later
      exact ⟨rfl, after⟩
termination_by structural left

theorem eq_of_writeMembers_append (left right : List (String × Json)) {r s : List Char}
    (leftFinite : allNumbersOf Number.isFinite left = true)
    (rightFinite : allNumbersOf Number.isFinite right = true)
    (equal : Style.compact.comma.intercalate (writeMembers .compact left) ++ '\x7d' :: r =
      Style.compact.comma.intercalate (writeMembers .compact right) ++ '\x7d' :: s) :
    left = right ∧ r = s := by
  cases left with
  | nil =>
    cases right with
    | nil => exact ⟨rfl, (List.cons.inj equal).2⟩
    | cons member rest =>
      rw [writeMembers, writeMembers, intercalate_cons] at equal
      cases equal
  | cons first others =>
    cases right with
    | nil =>
      rw [writeMembers, writeMembers, intercalate_cons] at equal
      cases equal
    | cons second rest =>
      obtain ⟨name, value⟩ := first
      obtain ⟨other, its⟩ := second
      rw [allNumbersOf, Bool.and_eq_true] at leftFinite rightFinite
      simp only [writeMembers, intercalate_cons, List.append_assoc] at equal
      obtain ⟨rfl, valued⟩ := eq_of_writeString_append equal
      obtain ⟨rfl, later⟩ := eq_of_write_append value its leftFinite.1 rightFinite.1
        (ends_laterTexts _ rfl r) (ends_laterTexts _ rfl s) (List.append_cancel_left valued)
      obtain ⟨rfl, after⟩ := eq_of_laterMembers others rest leftFinite.2 rightFinite.2 later
      exact ⟨rfl, after⟩
termination_by structural left

theorem eq_of_laterMembers (left right : List (String × Json)) {r s : List Char}
    (leftFinite : allNumbersOf Number.isFinite left = true)
    (rightFinite : allNumbersOf Number.isFinite right = true)
    (equal : (writeMembers .compact left).flatMap (Style.compact.comma ++ ·) ++ '\x7d' :: r =
      (writeMembers .compact right).flatMap (Style.compact.comma ++ ·) ++ '\x7d' :: s) :
    left = right ∧ r = s := by
  cases left with
  | nil =>
    cases right with
    | nil => exact ⟨rfl, (List.cons.inj equal).2⟩
    | cons member rest => cases equal
  | cons first others =>
    cases right with
    | nil => cases equal
    | cons second rest =>
      obtain ⟨name, value⟩ := first
      obtain ⟨other, its⟩ := second
      rw [allNumbersOf, Bool.and_eq_true] at leftFinite rightFinite
      simp only [writeMembers, List.flatMap_cons, List.append_assoc] at equal
      obtain ⟨rfl, valued⟩ := eq_of_writeString_append (List.append_cancel_left equal)
      obtain ⟨rfl, later⟩ := eq_of_write_append value its leftFinite.1 rightFinite.1
        (ends_laterTexts _ rfl r) (ends_laterTexts _ rfl s) (List.append_cancel_left valued)
      obtain ⟨rfl, after⟩ := eq_of_laterMembers others rest leftFinite.2 rightFinite.2 later
      exact ⟨rfl, after⟩
termination_by structural left

end

end Compact

/-- **Values of finite numbers with one compact text are one value.** -/
theorem render_injective {left right : Json} (leftFinite : left.isFinite = true)
    (rightFinite : right.isFinite = true)
    (equal : left.render .compact = right.render .compact) : left = right := by
  have nothing : Ends [] := fun c head => by cases head
  have same : left.write .compact ++ [] = right.write .compact ++ [] := by
    rw [List.append_nil, List.append_nil]
    exact String.ofList_injective equal
  exact (eq_of_write_append left right leftFinite rightFinite nothing nothing same).1

end SealedGrant.Json
