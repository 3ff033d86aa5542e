import Mathlib
import SealedGrant.Proofs.Codec.Utf8
import SealedGrant.Proofs.Json.NumberText

/-! # Scanning what was written

A written value is read as the lexemes that it stands for (`SealedGrant.Json.scanFrom_write`): a
string as one lexeme, whichever of its characters are escaped, a number or a word as one lexeme that
ends where a separator or a closing bracket begins, and an array or an object as its brackets and
separators around the lexemes of what it holds.
-/

namespace SealedGrant.Json

section Strings

variable (words : Words) (seen : List Char) (rest : List Char)

theorem scanFrom_cons {scan next : Scan} {c : Char} {lexemes : List Lexeme}
    (step : scanStep words scan c = .ok (lexemes, next)) :
    scanFrom words scan (c :: rest) = lexemes ++ scanFrom words next rest := by
  rw [scanFrom, step]

theorem hexValue?_hexDigit {n : ℕ} (small : n < 16) :
    Bytes.hexValue? (Bytes.hexDigit n) = some n := by
  interval_cases n <;> rfl

/-- Four hexadecimal digits are read as the unit that they write. -/
theorem scanFrom_hexDigits {high : Option ℕ} {unit : ℕ} {next : Scan} (small : unit < 0x10000)
    (after : afterUnit seen high unit = .ok next) :
    scanFrom words (.unit seen high []) (Text.hexDigits 4 unit ++ rest) =
      scanFrom words next rest := by
  have digit (n : ℕ) : Bytes.hexValue? (Bytes.hexDigit (n % 16)) = some (n % 16) :=
    hexValue?_hexDigit (Nat.mod_lt n (by norm_num))
  have value : ((unit / 16 / 16 / 16 % 16 * 16 + unit / 16 / 16 % 16) * 16 + unit / 16 % 16) * 16 +
      unit % 16 = unit := by omega
  simp only [Text.hexDigits, List.nil_append, List.cons_append]
  simp only [scanFrom, scanStep, digit, List.nil_append, List.cons_append, value, after]
  rfl

theorem scanFrom_unitEscape {unit : ℕ} {next : Scan} (small : unit < 0x10000)
    (after : afterUnit seen none unit = .ok next) :
    scanFrom words (.string seen) (unitEscape unit ++ rest) = scanFrom words next rest := by
  rw [unitEscape, List.cons_append, List.cons_append]
  exact scanFrom_hexDigits words seen rest small after

/-- Two escaped halves are read as the character that they make up. -/
theorem scanFrom_halves {high low : ℕ} {c : Char} (highRange : 0xd800 ≤ high ∧ high < 0xdc00)
    (lowRange : 0xdc00 ≤ low ∧ low < 0xe000) (joined : Text.joinSurrogates high low = c.toNat) :
    scanFrom words (.string seen) (unitEscape high ++ unitEscape low ++ rest) =
      scanFrom words (.string (c :: seen)) rest := by
  have highHalf : Text.isHighSurrogate high = true := by
    simpa [Text.isHighSurrogate] using highRange
  have lowHalf : Text.isLowSurrogate low = true := by
    simpa [Text.isLowSurrogate] using lowRange
  have first : afterUnit seen none high = .ok (.partner seen high) := by
    simp only [afterUnit, highHalf, ↓reduceIte]
  have second : afterUnit seen (some high) low = .ok (.string (c :: seen)) :=
    (if_pos lowHalf).trans
      (congrArg (fun meant => Except.ok (Scan.string (meant :: seen)))
        (Utf8.ofNat_of_eq_toNat joined))
  have between : scanFrom words (.partner seen high) (unitEscape low ++ rest) =
      scanFrom words (.unit seen (some high) []) (Text.hexDigits 4 low ++ rest) := rfl
  rw [List.append_assoc, scanFrom_unitEscape words seen _ (by omega) first, between,
    scanFrom_hexDigits words seen rest (by omega) second]

theorem joinSurrogates_halves {n : ℕ} (large : 0x10000 ≤ n) :
    Text.joinSurrogates (0xd800 + (n - 0x10000) / 0x400) (0xdc00 + (n - 0x10000) % 0x400) = n := by
  unfold Text.joinSurrogates
  omega

/-- An escaped character is read as that character. -/
theorem scanFrom_charEscape (c : Char) :
    scanFrom words (.string seen) (charEscape c ++ rest) =
      scanFrom words (.string (c :: seen)) rest := by
  have range := Utf8.toNat_char_range c
  unfold charEscape
  by_cases small : c.toNat < 0x10000
  · have high : Text.isHighSurrogate c.toNat = false := by
      simp only [Text.isHighSurrogate, Bool.and_eq_false_iff, decide_eq_false_iff_not]
      omega
    have low : Text.isLowSurrogate c.toNat = false := by
      simp only [Text.isLowSurrogate, Bool.and_eq_false_iff, decide_eq_false_iff_not]
      omega
    have after : afterUnit seen none c.toNat = .ok (.string (c :: seen)) := by
      simp only [afterUnit, high, low, Bool.false_eq_true, ↓reduceIte, Char.ofNat_toNat]
    rw [if_pos small]
    exact scanFrom_unitEscape words seen rest small after
  · rw [if_neg small]
    exact scanFrom_halves words seen rest (by omega) (by omega) (joinSurrogates_halves (by omega))

/-- **A written character is read back.** -/
theorem scanFrom_writeChar (asciiOnly : Bool) (c : Char) :
    scanFrom words (.string seen) (writeChar asciiOnly c ++ rest) =
      scanFrom words (.string (c :: seen)) rest := by
  unfold writeChar
  split_ifs with quote backslash newline back tab bell feed control wide
  · subst quote
    rfl
  · subst backslash
    rfl
  · subst newline
    rfl
  · subst back
    rfl
  · subst tab
    rfl
  · subst bell
    rfl
  · subst feed
    rfl
  · exact scanFrom_charEscape words seen rest c
  · exact scanFrom_charEscape words seen rest c
  · have step : scanStep words (.string seen) c = .ok ([], .string (c :: seen)) := by
      simp only [scanStep, quote, backslash, control, ↓reduceIte]
    exact scanFrom_cons words rest step

theorem scanFrom_writeChars (asciiOnly : Bool) (chars : List Char) :
    scanFrom words (.string seen) (chars.flatMap (writeChar asciiOnly) ++ rest) =
      scanFrom words (.string (chars.reverse ++ seen)) rest := by
  induction chars generalizing seen with
  | nil => rfl
  | cons c chars ih =>
    rw [List.flatMap_cons, List.append_assoc, scanFrom_writeChar, ih]
    simp

/-- **A written string is one lexeme.** -/
theorem scanFrom_writeString (asciiOnly : Bool) (text : String) :
    scanFrom words .between (writeString asciiOnly text ++ rest) =
      .scalar (.string text) :: scanFrom words .between rest := by
  have opened : scanFrom words .between (writeString asciiOnly text ++ rest) =
      scanFrom words (.string [])
        (text.toList.flatMap (writeChar asciiOnly) ++ ('"' :: rest)) := by
    simp only [writeString, List.cons_append, List.append_assoc, List.nil_append]
    rfl
  rw [opened, scanFrom_writeChars]
  have step : scanStep words (.string text.toList.reverse) '"' =
      .ok ([.scalar (.string text)], .between) := by
    simp [scanStep, String.ofList_toList]
  simpa using scanFrom_cons words rest step

end Strings

/-- What follows a number or a word ends it. -/
def Ends (rest : List Char) : Prop :=
  ∀ c, rest.head? = some c → endsBare c = true

theorem ends_cons {c : Char} (ends : endsBare c = true) (rest : List Char) : Ends (c :: rest) := by
  intro first head
  cases head
  exact ends

/-- A style whose separators are read as the lexemes that they stand for. -/
structure Style.Separates (style : Style) : Prop where
  comma (words : Words) (rest : List Char) :
    scanFrom words .between (style.comma ++ rest) = .comma :: scanFrom words .between rest
  colon (words : Words) (rest : List Char) :
    scanFrom words .between (style.colon ++ rest) = .colon :: scanFrom words .between rest
  ends (rest : List Char) : Ends (style.comma ++ rest)

theorem Style.separates_compact : Style.compact.Separates where
  comma _ _ := rfl
  colon _ _ := rfl
  ends := ends_cons rfl

theorem Style.separates_spacedAscii : Style.spacedAscii.Separates where
  comma _ _ := rfl
  colon _ _ := rfl
  ends _ := ends_cons rfl _

theorem inside_of_all {chars : List Char} (all : chars.all (fun c => !endsBare c) = true) :
    ∀ c ∈ chars, endsBare c = false := by
  simpa using all

section Values

variable (words : Words)

/-- An open number or word is read when what follows ends it. -/
theorem scanFrom_bare {seen chars rest : List Char} {value : Json}
    (inside : ∀ c ∈ chars, endsBare c = false)
    (read : bareScalar words (seen.reverse ++ chars) = .ok value) (ends : Ends rest) :
    scanFrom words (.bare seen) (chars ++ rest) =
      .scalar value :: scanFrom words .between rest := by
  induction chars generalizing seen with
  | nil =>
    rw [List.append_nil] at read
    cases rest with
    | nil =>
      simp only [List.nil_append, scanFrom, scanEnd, read]
      rfl
    | cons c rest =>
      have step : scanStep words (.bare seen) c =
          .ok (.scalar value :: (scanBetween c).1, (scanBetween c).2) := by
        simp only [scanStep, ends c rfl, read, ↓reduceIte]
        rfl
      rw [List.nil_append, scanFrom_cons words rest step]
      rfl
  | cons c chars ih =>
    have step : scanStep words (.bare seen) c = .ok ([], .bare (c :: seen)) := by
      simp only [scanStep, inside c (by simp), Bool.false_eq_true, ↓reduceIte]
    rw [List.cons_append, scanFrom_cons words _ step, List.nil_append]
    apply ih (fun c member => inside c (List.mem_cons_of_mem _ member))
    simpa using read

/-- A number or a word is one lexeme. -/
theorem scanFrom_scalar {chars rest : List Char} {value : Json} (nonempty : chars ≠ [])
    (inside : ∀ c ∈ chars, endsBare c = false) (read : bareScalar words chars = .ok value)
    (ends : Ends rest) :
    scanFrom words .between (chars ++ rest) = .scalar value :: scanFrom words .between rest := by
  obtain ⟨c, chars, rfl⟩ := List.exists_cons_of_ne_nil nonempty
  have first := inside c (by simp)
  have step : scanStep words .between c = .ok ([], .bare [c]) := by
    simp only [endsBare, Bool.or_eq_false_iff, decide_eq_false_iff_not, Option.isSome_eq_false_iff,
      Option.isNone_iff_eq_none] at first
    simp only [scanStep, scanBetween, first, Bool.false_eq_true, ↓reduceIte]
  rw [List.cons_append, scanFrom_cons words _ step, List.nil_append]
  exact scanFrom_bare words (fun c member => inside c (List.mem_cons_of_mem _ member)) read ends

end Values

mutual

/-- The lexemes of a value. -/
def lexemes : Json → List Lexeme
  | .array items => .openBracket :: itemLexemes items ++ [.closeBracket]
  | .object members => .openBrace :: memberLexemes members ++ [.closeBrace]
  | .null => [.scalar .null]
  | .bool value => [.scalar (.bool value)]
  | .number n => [.scalar (.number n)]
  | .string text => [.scalar (.string text)]

/-- The lexemes of items. -/
def itemLexemes : List Json → List Lexeme
  | [] => []
  | item :: rest => lexemes item ++ laterItemLexemes rest

/-- The lexemes of items after the first, each with a comma before it. -/
def laterItemLexemes : List Json → List Lexeme
  | [] => []
  | item :: rest => .comma :: lexemes item ++ laterItemLexemes rest

/-- The lexemes of members. -/
def memberLexemes : List (String × Json) → List Lexeme
  | [] => []
  | (name, value) :: rest =>
      .scalar (.string name) :: .colon :: lexemes value ++ laterMemberLexemes rest

/-- The lexemes of members after the first, each with a comma before it. -/
def laterMemberLexemes : List (String × Json) → List Lexeme
  | [] => []
  | (name, value) :: rest =>
      .comma :: .scalar (.string name) :: .colon :: lexemes value ++ laterMemberLexemes rest

end

theorem intercalate_cons {α : Type} (separator first : List α) (others : List (List α)) :
    separator.intercalate (first :: others) = first ++ others.flatMap (separator ++ ·) := by
  induction others generalizing first with
  | nil => simp [List.intercalate]
  | cons second others ih =>
    rw [List.flatMap_cons, List.append_assoc, ← ih]
    simp [List.intercalate, List.intersperse]

theorem ends_of_flatMap {style : Style} (separates : style.Separates) (texts : List (List Char))
    {rest : List Char} (ends : Ends rest) : Ends (texts.flatMap (style.comma ++ ·) ++ rest) := by
  cases texts with
  | nil => exact ends
  | cons text texts =>
    rw [List.flatMap_cons, List.append_assoc, List.append_assoc]
    exact separates.ends _

theorem write_ne_nil {names : Number.SpecialNames} {n : Number} (readable : isReadable n = true) :
    n.write names ≠ [] := by
  intro empty
  have read := readNumber_write names readable
  rw [empty] at read
  cases read

theorem isFinite_of_isReadable {n : Number} (readable : isReadable n = true) :
    n.isFinite = true := by
  cases n with
  | int n => rfl
  | double d => exact readable

section Written

variable {style : Style} (separates : style.Separates) (words : Words)

include separates

mutual

/-- **A written value is read as its lexemes**, when what follows ends a number or a word. -/
theorem scanFrom_write (value : Json) (readable : value.allNumbers isReadable = true)
    {rest : List Char} (ends : Ends rest) :
    scanFrom words .between (write style value ++ rest) =
      lexemes value ++ scanFrom words .between rest := by
  cases value with
  | null =>
    change scanFrom words .between (['n', 'u', 'l', 'l'] ++ rest) = _
    exact scanFrom_scalar words (by decide) (inside_of_all rfl) rfl ends
  | bool value =>
    cases value with
    | true =>
      change scanFrom words .between (['t', 'r', 'u', 'e'] ++ rest) = _
      exact scanFrom_scalar words (by decide) (inside_of_all rfl) rfl ends
    | false =>
      change scanFrom words .between (['f', 'a', 'l', 's', 'e'] ++ rest) = _
      exact scanFrom_scalar words (by decide) (inside_of_all rfl) rfl ends
  | number n =>
    exact scanFrom_scalar words (write_ne_nil readable)
      (endsBare_write (isFinite_of_isReadable readable))
      (bareScalar_of_readNumber (readNumber_write _ readable)) ends
  | string text => exact scanFrom_writeString words rest style.asciiOnly text
  | array items =>
    have opened (more : List Char) : scanFrom words .between ('[' :: more) =
        .openBracket :: scanFrom words .between more := rfl
    have closed : scanFrom words .between (']' :: rest) =
        .closeBracket :: scanFrom words .between rest := rfl
    cases items with
    | nil => rfl
    | cons item items =>
      simp only [allNumbers, allNumbersIn, Bool.and_eq_true] at readable
      simp only [write, writeItems, intercalate_cons, List.cons_append, List.append_assoc, opened,
        List.nil_append, lexemes, itemLexemes]
      rw [scanFrom_write item readable.1 (ends_of_flatMap separates _ (ends_cons rfl _)),
        scanFrom_laterItems items readable.2 (ends_cons rfl _), closed]
  | object members =>
    have opened (more : List Char) : scanFrom words .between ('{' :: more) =
        .openBrace :: scanFrom words .between more := rfl
    have closed : scanFrom words .between ('}' :: rest) =
        .closeBrace :: scanFrom words .between rest := rfl
    cases members with
    | nil => rfl
    | cons member members =>
      obtain ⟨name, value⟩ := member
      simp only [allNumbers, allNumbersOf, Bool.and_eq_true] at readable
      simp only [write, writeMembers, intercalate_cons, List.cons_append, List.append_assoc,
        opened, List.nil_append, lexemes, memberLexemes, scanFrom_writeString, separates.colon]
      rw [scanFrom_write value readable.1 (ends_of_flatMap separates _ (ends_cons rfl _)),
        scanFrom_laterMembers members readable.2 (ends_cons rfl _), closed]

theorem scanFrom_laterItems (items : List Json) (readable : allNumbersIn isReadable items = true)
    {rest : List Char} (ends : Ends rest) :
    scanFrom words .between ((writeItems style items).flatMap (style.comma ++ ·) ++ rest) =
      laterItemLexemes items ++ scanFrom words .between rest := by
  cases items with
  | nil => rfl
  | cons item items =>
    simp only [allNumbersIn, Bool.and_eq_true] at readable
    simp only [writeItems, List.flatMap_cons, List.append_assoc, separates.comma, laterItemLexemes,
      List.cons_append]
    rw [scanFrom_write item readable.1 (ends_of_flatMap separates _ ends),
      scanFrom_laterItems items readable.2 ends]

theorem scanFrom_laterMembers (members : List (String × Json))
    (readable : allNumbersOf isReadable members = true) {rest : List Char} (ends : Ends rest) :
    scanFrom words .between ((writeMembers style members).flatMap (style.comma ++ ·) ++ rest) =
      laterMemberLexemes members ++ scanFrom words .between rest := by
  cases members with
  | nil => rfl
  | cons member members =>
    obtain ⟨name, value⟩ := member
    simp only [allNumbersOf, Bool.and_eq_true] at readable
    simp only [writeMembers, List.flatMap_cons, List.append_assoc, separates.comma,
      laterMemberLexemes, List.cons_append, scanFrom_writeString, separates.colon]
    rw [scanFrom_write value readable.1 (ends_of_flatMap separates _ ends),
      scanFrom_laterMembers members readable.2 ends]

end

end Written

end SealedGrant.Json
