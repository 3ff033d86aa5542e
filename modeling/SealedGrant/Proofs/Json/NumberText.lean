import Mathlib
import SealedGrant.Json.Reader
import SealedGrant.Json.Writer
import SealedGrant.Proofs.Number.Shortest

/-! # Numbers in JSON text

The text of a number is digits with an optional point and exponent. Integers within the limit on
digits (`SealedGrant.Json.readNumber_intText`) and finite doubles
(`SealedGrant.Json.readNumber_finiteText`) are read as themselves, because every layout of a decimal
keeps its value. Nothing in such a text ends a lexeme early or makes it a word.
-/

namespace SealedGrant.Json

theorem digitsValue_eq (digits : List Char) :
    digitsValue digits = Nat.ofDigitChars 10 digits 0 := rfl

theorem isDigit_of_mem_toDigits {n : ℕ} {c : Char} (member : c ∈ Nat.toDigits 10 n) :
    isDigit c = true := by
  have digit := Nat.isDigit_of_mem_toDigits (by norm_num) (by norm_num) member
  simpa [Char.isDigit, isDigit, Char.le_def] using digit

/-- The digits of a positive number begin with no zero. -/
theorem toDigits_eq_cons {n : ℕ} (positive : 0 < n) :
    ∃ c rest, Nat.toDigits 10 n = c :: rest ∧ c ≠ '0' := by
  induction n using Nat.strong_induction_on with
  | h n ih =>
    by_cases small : n < 10
    · refine ⟨n.digitChar, [], Nat.toDigits_of_lt_base small, ?_⟩
      interval_cases n <;> decide
    · obtain ⟨c, rest, equal, nonzero⟩ := ih (n / 10) (by omega) (by omega)
      refine ⟨c, rest ++ [(n % 10).digitChar], ?_, nonzero⟩
      rw [Nat.toDigits_of_base_le (by norm_num) (by omega), equal, List.cons_append]

theorem isIntegerPart_cons {c : Char} (nonzero : c ≠ '0') (rest : List Char) :
    isIntegerPart (c :: rest) = true := by
  unfold isIntegerPart
  split
  · next empty => cases empty
  · rfl
  · next head =>
    cases head
    simpa using nonzero

theorem isIntegerPart_toDigits (n : ℕ) : isIntegerPart (Nat.toDigits 10 n) = true := by
  rcases n.eq_zero_or_pos with rfl | positive
  · rfl
  · obtain ⟨c, rest, equal, nonzero⟩ := toDigits_eq_cons positive
    rw [equal]
    exact isIntegerPart_cons nonzero rest

section Digits

variable {whole tail : List Char}

theorem takeWhile_digits (digits : ∀ c ∈ whole, isDigit c = true)
    (stops : ∀ c, tail.head? = some c → isDigit c = false) :
    (whole ++ tail).takeWhile isDigit = whole := by
  rw [List.takeWhile_append_of_pos digits]
  cases tail with
  | nil => simp
  | cons c rest => simp [stops c rfl]

theorem dropWhile_digits (digits : ∀ c ∈ whole, isDigit c = true)
    (stops : ∀ c, tail.head? = some c → isDigit c = false) :
    (whole ++ tail).dropWhile isDigit = tail := by
  rw [List.dropWhile_append_of_pos digits]
  cases tail with
  | nil => simp
  | cons c rest => simp [stops c rfl]

/-- Reading digits, with or without a minus sign, looks at what follows them. -/
theorem readNumber_eq (negative : Bool) (digits : ∀ c ∈ whole, isDigit c = true)
    (starts : isIntegerPart whole = true)
    (stops : ∀ c, tail.head? = some c → isDigit c = false) :
    readNumber (if negative then '-' :: (whole ++ tail) else whole ++ tail) =
      (let fraction := (fractionPart? tail).getD ([], tail)
      let exponent := (exponentPart? fraction.2).getD (0, fraction.2)
      if exponent.2.length < tail.length then
        numberEnd (.double (Double.ofDecimal negative (digitsValue (whole ++ fraction.1))
          (exponent.1 - fraction.1.length))) exponent.2
      else if whole.length > Text.digitLimit then .error (.tooLong whole.length)
      else numberEnd (.int (Double.signed negative (digitsValue whole))) tail) := by
  have plain : (whole ++ tail).head? ≠ some '-' := by
    cases whole with
    | nil => cases starts
    | cons c rest =>
      intro minus
      have digit := digits c (by simp)
      simp only [List.cons_append, List.head?_cons, Option.some.injEq] at minus
      rw [minus] at digit
      cases digit
  cases negative
  · simp only [readNumber, Bool.false_eq_true, ↓reduceIte, plain, decide_false,
      takeWhile_digits digits stops, dropWhile_digits digits stops, starts, Bool.not_true]
  · simp only [readNumber, ↓reduceIte, List.head?_cons, decide_true, List.drop_succ_cons,
      List.drop_zero, takeWhile_digits digits stops, dropWhile_digits digits stops, starts,
      Bool.not_true, Bool.false_eq_true]

/-- Digits, a point and digits are a double. -/
theorem readNumber_fraction (negative : Bool) {fraction : List Char}
    (digits : ∀ c ∈ whole, isDigit c = true) (starts : isIntegerPart whole = true)
    (fractionDigits : ∀ c ∈ fraction, isDigit c = true) (nonempty : fraction ≠ []) :
    readNumber (if negative then '-' :: (whole ++ '.' :: fraction) else whole ++ '.' :: fraction) =
      .ok (.double (Double.ofDecimal negative (digitsValue (whole ++ fraction))
        (-fraction.length))) := by
  have taken : fraction.takeWhile isDigit = fraction :=
    List.takeWhile_eq_self_iff.mpr fractionDigits
  have left : fraction.dropWhile isDigit = [] := List.dropWhile_eq_nil_iff.mpr fractionDigits
  have part : fractionPart? ('.' :: fraction) = some (fraction, []) := by
    simp only [fractionPart?, taken, left, List.isEmpty_iff, nonempty, ↓reduceIte]
  rw [readNumber_eq negative digits starts (by
    intro c head
    cases head
    rfl)]
  simp only [part, Option.getD_some, exponentPart?, Option.getD_none, List.length_nil,
    List.length_cons, Nat.succ_pos, ↓reduceIte, zero_sub, numberEnd, List.isEmpty_nil]

/-- An exponent makes a double, with a fraction before it or none. -/
theorem readNumber_exponent (negative below : Bool) {fraction exponent : List Char}
    (digits : ∀ c ∈ whole, isDigit c = true) (starts : isIntegerPart whole = true)
    (fractionDigits : ∀ c ∈ fraction, isDigit c = true)
    (exponentDigits : ∀ c ∈ exponent, isDigit c = true) (nonempty : exponent ≠ []) :
    readNumber (if negative then
        '-' :: (whole ++ ((if fraction = [] then [] else '.' :: fraction) ++
          'e' :: (if below then '-' else '+') :: exponent))
      else whole ++ ((if fraction = [] then [] else '.' :: fraction) ++
        'e' :: (if below then '-' else '+') :: exponent)) =
      .ok (.double (Double.ofDecimal negative (digitsValue (whole ++ fraction))
        (Double.signed below (digitsValue exponent) - fraction.length))) := by
  have taken : exponent.takeWhile isDigit = exponent :=
    List.takeWhile_eq_self_iff.mpr exponentDigits
  have left : exponent.dropWhile isDigit = [] := List.dropWhile_eq_nil_iff.mpr exponentDigits
  have signSplit : Text.splitSign ((if below then '-' else '+') :: exponent) =
      (below, exponent) := by
    cases below <;> rfl
  have exponentPart : exponentPart? ('e' :: (if below then '-' else '+') :: exponent) =
      some (Double.signed below (digitsValue exponent), []) := by
    have some : exponent.isEmpty = false := by simpa using nonempty
    simp [exponentPart?, signSplit, taken, left, some]
  have part : (fractionPart? ((if fraction = [] then [] else '.' :: fraction) ++
      'e' :: (if below then '-' else '+') :: exponent)).getD
        ([], (if fraction = [] then [] else '.' :: fraction) ++
          'e' :: (if below then '-' else '+') :: exponent) =
      (fraction, 'e' :: (if below then '-' else '+') :: exponent) := by
    by_cases none : fraction = []
    · simp only [none, ↓reduceIte, List.nil_append]
      rfl
    · have stops : ∀ c, ('e' :: (if below then '-' else '+') :: exponent).head? = some c →
          isDigit c = false := by
        intro c head
        cases head
        rfl
      simp only [none, ↓reduceIte, List.cons_append, fractionPart?,
        takeWhile_digits fractionDigits stops, dropWhile_digits fractionDigits stops,
        List.isEmpty_iff, Option.getD_some]
  rw [readNumber_eq negative digits starts (by
    intro c head
    by_cases none : fraction = []
    · simp only [none, ↓reduceIte, List.nil_append, List.head?_cons, Option.some.injEq] at head
      subst head
      rfl
    · simp only [none, ↓reduceIte, List.cons_append, List.head?_cons, Option.some.injEq] at head
      subst head
      rfl)]
  simp only [part, exponentPart, Option.getD_some, List.length_nil, List.length_append,
    List.length_cons, numberEnd, List.isEmpty_nil, ↓reduceIte]
  rw [if_pos (by omega)]

end Digits

/-- An integer is read as itself, unless it has too many digits. -/
theorem readNumber_intText_eq (n : ℤ) : readNumber (Number.intText n) =
    if (Nat.toDigits 10 n.natAbs).length > Text.digitLimit then
      .error (.tooLong (Nat.toDigits 10 n.natAbs).length)
    else .ok (.int n) := by
  have text : Number.intText n = if decide (n < 0) then
      '-' :: (Nat.toDigits 10 n.natAbs ++ []) else Nat.toDigits 10 n.natAbs ++ [] := by
    simp [Number.intText]
  have value : Double.signed (decide (n < 0)) n.natAbs = n := by
    by_cases below : n < 0
    · simp only [below, decide_true, Double.signed, ↓reduceIte]
      omega
    · simp only [below, decide_false, Double.signed, Bool.false_eq_true, ↓reduceIte]
      omega
  rw [text, readNumber_eq _ (fun _ => isDigit_of_mem_toDigits) (isIntegerPart_toDigits _)
    (by simp)]
  simp only [fractionPart?, exponentPart?, Option.getD_none, lt_irrefl, ↓reduceIte,
    digitsValue_eq, Nat.ofDigitChars_ten_toDigits, value, numberEnd, List.isEmpty_nil]

/-- **Integers read back**, as far as the limit on digits admits them. -/
theorem readNumber_intText {n : ℤ} (short : (Nat.toDigits 10 n.natAbs).length ≤ Text.digitLimit) :
    readNumber (Number.intText n) = .ok (.int n) := by
  rw [readNumber_intText_eq, if_neg (not_lt.mpr short)]

theorem isDigit_of_mem_replicate (count : ℕ) {c : Char} (member : c ∈ List.replicate count '0') :
    isDigit c = true := by
  rw [List.eq_of_mem_replicate member]
  rfl

theorem isDigit_of_mem_append {first second : List Char} (left : ∀ c ∈ first, isDigit c = true)
    (right : ∀ c ∈ second, isDigit c = true) : ∀ c ∈ first ++ second, isDigit c = true := by
  intro c member
  exact (List.mem_append.mp member).elim (left c) (right c)

/-- Digits with zeros in front and behind are the number times a power of ten. -/
theorem digitsValue_padded (before after : ℕ) (digits : List Char) :
    digitsValue (List.replicate before '0' ++ digits ++ List.replicate after '0') =
      digitsValue digits * 10 ^ after := by
  simp only [digitsValue_eq, Nat.ofDigitChars_append, Nat.ofDigitChars_replicate_zero, mul_zero]
  ring

theorem paddedDigits_spec (width n : ℕ) :
    (∀ c ∈ Decimal.paddedDigits width n, isDigit c = true) ∧
      Decimal.paddedDigits width n ≠ [] ∧ digitsValue (Decimal.paddedDigits width n) = n := by
  refine ⟨isDigit_of_mem_append (fun _ => isDigit_of_mem_replicate _)
    fun _ => isDigit_of_mem_toDigits, ?_, ?_⟩
  · simp [Decimal.paddedDigits]
  · have padded := digitsValue_padded (width - (Nat.toDigits 10 n).length) 0 (Nat.toDigits 10 n)
    rw [List.replicate_zero, List.append_nil, pow_zero, mul_one, digitsValue_eq (Nat.toDigits 10 n),
      Nat.ofDigitChars_ten_toDigits] at padded
    exact padded

/-- Zeros at the end of the coefficient raise the exponent. -/
theorem value_eq_of_scaled {decimal : Decimal} {coefficient : ℕ} {exponent : ℤ} (after : ℕ)
    (scaled : coefficient = decimal.coefficient * 10 ^ after)
    (shifted : exponent + after = decimal.exponent) :
    Decimal.value ⟨coefficient, exponent⟩ = decimal.value := by
  simp only [Decimal.value, scaled]
  rw [← shifted, zpow_add₀ (by norm_num), zpow_natCast]
  push_cast
  ring

/-- What `Layout.write` writes, by its parts: a fraction, or an exponent, and the value of both. -/
theorem layout_write_parts (layout : Decimal.Layout) {decimal : Decimal}
    (positive : 0 < decimal.coefficient) :
    (∃ whole fraction, layout.write decimal = whole ++ '.' :: fraction ∧
      (∀ c ∈ whole, isDigit c = true) ∧ isIntegerPart whole = true ∧
      (∀ c ∈ fraction, isDigit c = true) ∧ fraction ≠ [] ∧
      Decimal.value ⟨digitsValue (whole ++ fraction), -fraction.length⟩ = decimal.value) ∨
    (∃ whole fraction below exponent,
      layout.write decimal = whole ++ ((if fraction = [] then [] else '.' :: fraction) ++
        'e' :: (if below then '-' else '+') :: exponent) ∧
      (∀ c ∈ whole, isDigit c = true) ∧ isIntegerPart whole = true ∧
      (∀ c ∈ fraction, isDigit c = true) ∧ (∀ c ∈ exponent, isDigit c = true) ∧ exponent ≠ [] ∧
      Decimal.value ⟨digitsValue (whole ++ fraction),
        Double.signed below (digitsValue exponent) - fraction.length⟩ = decimal.value) := by
  have value : digitsValue (Nat.toDigits 10 decimal.coefficient) = decimal.coefficient :=
    Nat.ofDigitChars_ten_toDigits
  obtain ⟨lead, others, split, nonzero⟩ := toDigits_eq_cons positive
  have digit : ∀ c ∈ Nat.toDigits 10 decimal.coefficient, isDigit c = true :=
    fun _ => isDigit_of_mem_toDigits
  simp only [Decimal.Layout.write]
  generalize Nat.toDigits 10 decimal.coefficient = digits at *
  subst split
  by_cases positional : layout.least ≤ (lead :: others).length + decimal.exponent - 1 ∧
      (lead :: others).length + decimal.exponent - 1 < layout.limit
  · left
    simp only [positional, and_self, ↓reduceIte]
    by_cases small : (lead :: others).length + decimal.exponent ≤ 0
    · -- zeros between the point and the digits
      have padded := digitsValue_padded
        (1 + (-((lead :: others).length + decimal.exponent)).toNat) 0 (lead :: others)
      rw [List.replicate_add, List.replicate_zero, List.append_nil, value, List.append_assoc]
        at padded
      refine ⟨['0'], List.replicate (-((lead :: others).length + decimal.exponent)).toNat '0' ++
        (lead :: others), ?_, fun _ => isDigit_of_mem_replicate 1, rfl,
        isDigit_of_mem_append (fun _ => isDigit_of_mem_replicate _) digit, ?_,
        value_eq_of_scaled _ padded ?_⟩
      · simp only [small, ↓reduceIte, List.cons_append, List.nil_append]
      · simp
      · rw [List.length_append, List.length_replicate]
        push_cast
        omega
    · by_cases fits : (lead :: others).length ≤ ((lead :: others).length + decimal.exponent).toNat
      · -- zeros between the digits and the point, and one after it
        set zeros := ((lead :: others).length + decimal.exponent).toNat - (lead :: others).length
          with zeros_eq
        have padded := digitsValue_padded 0 (zeros + 1) (lead :: others)
        rw [List.replicate_add, List.replicate_zero, List.nil_append, value, ← List.append_assoc]
          at padded
        refine ⟨lead :: others ++ List.replicate zeros '0', ['0'], ?_,
          isDigit_of_mem_append digit (fun _ => isDigit_of_mem_replicate _),
          isIntegerPart_cons nonzero _, fun _ => isDigit_of_mem_replicate 1, by simp,
          value_eq_of_scaled _ padded ?_⟩
        · simp only [small, fits, ↓reduceIte]
        · simp only [List.length_cons, List.length_nil] at *
          omega
      · -- the point stands among the digits
        set point := ((lead :: others).length + decimal.exponent).toNat with point_eq
        refine ⟨(lead :: others).take point, (lead :: others).drop point, ?_,
          fun c member => digit c (List.mem_of_mem_take member), ?_,
          fun c member => digit c (List.mem_of_mem_drop member), ?_,
          value_eq_of_scaled 0 ?_ ?_⟩
        · simp only [small, fits, ↓reduceIte]
        · obtain ⟨before, equal⟩ : ∃ before, point = before + 1 := ⟨point - 1, by omega⟩
          rw [equal, List.take_succ_cons]
          exact isIntegerPart_cons nonzero _
        · rw [ne_eq, List.drop_eq_nil_iff]
          exact fits
        · rw [List.take_append_drop, value, pow_zero, mul_one]
        · rw [List.length_drop]
          omega
  · right
    obtain ⟨exponentDigits, nonempty, exponentValue⟩ := paddedDigits_spec layout.exponentWidth
      ((lead :: others).length + decimal.exponent - 1).natAbs
    refine ⟨[lead], others, decide ((lead :: others).length + decimal.exponent - 1 < 0), _, ?_,
      fun c member => digit c ?_, isIntegerPart_cons nonzero _,
      fun c member => digit c (List.mem_cons_of_mem _ member), exponentDigits, nonempty,
      value_eq_of_scaled 0 ?_ ?_⟩
    · simp only [positional, ↓reduceIte, decide_eq_true_eq]
      cases others with
      | nil => simp
      | cons next more => simp
    · rw [List.mem_singleton.mp member]
      exact List.mem_cons_self
    · rw [List.singleton_append, value, pow_zero, mul_one]
    · rw [exponentValue]
      simp only [Double.signed, List.length_cons, decide_eq_true_eq]
      split <;> omega

/-- **Layouts keep the value.** Whatever the layout, the text of a positive decimal is read as the
double of a decimal with the same value. -/
theorem readNumber_layout (layout : Decimal.Layout) (negative : Bool) {decimal : Decimal}
    (positive : 0 < decimal.coefficient) :
    ∃ read : Decimal, read.value = decimal.value ∧
      readNumber (if negative then '-' :: layout.write decimal else layout.write decimal) =
        .ok (.double (Double.ofDecimal negative read.coefficient read.exponent)) := by
  rcases layout_write_parts layout positive with
    ⟨whole, fraction, text, digits, starts, fractionDigits, nonempty, value⟩ |
    ⟨whole, fraction, below, exponent, text, digits, starts, fractionDigits, exponentDigits,
      nonempty, value⟩
  · refine ⟨_, value, ?_⟩
    rw [text]
    exact readNumber_fraction negative digits starts fractionDigits nonempty
  · refine ⟨_, value, ?_⟩
    rw [text]
    exact readNumber_exponent negative below digits starts fractionDigits exponentDigits nonempty

/-- **Doubles read back.** -/
theorem readNumber_finiteText (negative : Bool) {mantissa : ℕ} {exponent : ℤ}
    (canonical : Double.Canonical mantissa exponent) :
    readNumber (Double.finiteText negative mantissa exponent) =
      .ok (.double (.finite negative mantissa exponent canonical)) := by
  rcases mantissa.eq_zero_or_pos with rfl | positive
  · have least : exponent = -1074 := canonical.2.2.2.resolve_left (by decide)
    subst least
    cases negative <;> rfl
  · obtain ⟨read, value, equal⟩ := readNumber_layout .plain negative
      (Decimal.coefficient_shortest_pos canonical positive)
    simp only [Double.finiteText, positive.ne', ↓reduceIte]
    rw [equal, Decimal.ofDecimal_of_value_eq_shortest negative canonical positive value]

/-- A number whose text reads back: a finite double, or an integer within the limit on digits. -/
def isReadable : Number → Bool
  | .int n => decide ((Nat.toDigits 10 n.natAbs).length ≤ Text.digitLimit)
  | .double d => d.isFinite

theorem readNumber_write (names : Number.SpecialNames) {n : Number}
    (readable : isReadable n = true) : readNumber (n.write names) = .ok n := by
  cases n with
  | int n => exact readNumber_intText (of_decide_eq_true readable)
  | double d =>
    cases d with
    | finite negative mantissa exponent canonical =>
      exact readNumber_finiteText negative canonical
    | infinite negative => cases readable
    | nan => cases readable

/-- What is read as a number is no word. -/
theorem bareScalar_of_readNumber {words : Words} {chars : List Char} {n : Number}
    (read : readNumber chars = .ok n) : bareScalar words chars = .ok (.number n) := by
  have noWord : word? words (String.ofList chars) = none := by
    cases found : word? words (String.ofList chars) with
    | none => rfl
    | some value =>
      have malformed : readNumber (String.ofList chars).toList = .error .malformed := by
        unfold word? at found
        split at found
        · next text => rw [text]; rfl
        · next text => rw [text]; rfl
        · next text => rw [text]; rfl
        · next text => rw [text]; rfl
        · next text => rw [text]; rfl
        · next text => rw [text]; rfl
        · cases found
      rw [String.toList_ofList, read] at malformed
      cases malformed
  rw [bareScalar, noWord, read]
  rfl

/-- The characters that finite numbers are written with. -/
def isNumeral (c : Char) : Bool :=
  isDigit c || c = '-' || c = '+' || c = '.' || c = 'e'

theorem isNumeral_of_isDigit {c : Char} (digit : isDigit c = true) : isNumeral c = true := by
  simp [isNumeral, digit]

/-- A condition on the fourteen characters of numbers is checked one by one. -/
theorem forall_isNumeral (holds : Char → Prop) (digits : ∀ n < 10, holds (Char.ofNat (48 + n)))
    (minus : holds '-') (plus : holds '+') (point : holds '.') (exponent : holds 'e') {c : Char}
    (numeral : isNumeral c = true) : holds c := by
  simp only [isNumeral, Bool.or_eq_true, decide_eq_true_eq] at numeral
  rcases numeral with (((digit | rfl) | rfl) | rfl) | rfl
  · have bounds : 48 ≤ c.toNat ∧ c.toNat ≤ 57 := by
      simpa [isDigit, Char.le_def, UInt32.le_iff_toNat_le] using digit
    have held := digits (c.toNat - 48) (by omega)
    rwa [show 48 + (c.toNat - 48) = c.toNat by omega, Char.ofNat_toNat] at held
  · exact minus
  · exact plus
  · exact point
  · exact exponent

theorem endsBare_eq_false_of_isNumeral {c : Char} (numeral : isNumeral c = true) :
    endsBare c = false :=
  forall_isNumeral (fun c => endsBare c = false) (by decide) rfl rfl rfl rfl numeral

/-- A minus sign in front of the characters of a number. -/
theorem isNumeral_signed (negative : Bool) {chars : List Char}
    (numerals : ∀ c ∈ chars, isNumeral c = true) :
    ∀ c ∈ (if negative then '-' :: chars else chars), isNumeral c = true := by
  intro c member
  cases negative with
  | false => exact numerals c member
  | true =>
    rcases List.mem_cons.mp member with rfl | member
    · rfl
    · exact numerals c member

theorem isNumeral_layout (layout : Decimal.Layout) {decimal : Decimal}
    (positive : 0 < decimal.coefficient) : ∀ c ∈ layout.write decimal, isNumeral c = true := by
  have plain {c : Char} {chars : List Char} (digits : ∀ c ∈ chars, isDigit c = true)
      (member : c ∈ chars) : isNumeral c = true :=
    isNumeral_of_isDigit (digits c member)
  intro c member
  rcases layout_write_parts layout positive with
    ⟨whole, fraction, text, digits, -, fractionDigits, -, -⟩ |
    ⟨whole, fraction, below, exponent, text, digits, -, fractionDigits, exponentDigits, -, -⟩
  · rw [text, List.mem_append, List.mem_cons] at member
    rcases member with member | rfl | member
    · exact plain digits member
    · rfl
    · exact plain fractionDigits member
  · rw [text] at member
    simp only [List.mem_append, List.mem_cons] at member
    rcases member with member | member | rfl | rfl | member
    · exact plain digits member
    · split at member
      · cases member
      · rcases List.mem_cons.mp member with rfl | member
        · rfl
        · exact plain fractionDigits member
    · rfl
    · cases below <;> rfl
    · exact plain exponentDigits member

theorem isNumeral_write {names : Number.SpecialNames} {n : Number} (finite : n.isFinite = true) :
    ∀ c ∈ n.write names, isNumeral c = true := by
  cases n with
  | int n =>
    have digits : ∀ c ∈ Nat.toDigits 10 n.natAbs, isNumeral c = true :=
      fun _ member => isNumeral_of_isDigit (isDigit_of_mem_toDigits member)
    simpa only [Number.write, Number.intText, decide_eq_true_eq] using
      isNumeral_signed (decide (n < 0)) digits
  | double d =>
    cases d with
    | finite negative mantissa exponent canonical =>
      simp only [Number.write, Double.finiteText]
      apply isNumeral_signed
      rcases mantissa.eq_zero_or_pos with rfl | positive
      · rw [if_pos rfl]
        intro c member
        simp only [List.mem_cons, List.not_mem_nil, or_false] at member
        rcases member with rfl | rfl | rfl
        · rfl
        · rfl
        · rfl
      · rw [if_neg positive.ne']
        exact isNumeral_layout .plain (Decimal.coefficient_shortest_pos canonical positive)
    | infinite negative => cases finite
    | nan => cases finite

/-- The text of a number is one bare lexeme: nothing in it ends the lexeme early. -/
theorem endsBare_write {names : Number.SpecialNames} {n : Number} (finite : n.isFinite = true) :
    ∀ c ∈ n.write names, endsBare c = false :=
  fun c member => endsBare_eq_false_of_isNumeral (isNumeral_write finite c member)

end SealedGrant.Json
