import Mathlib
import SealedGrant.Proofs.ClaimSet.RoundTrip
import SealedGrant.Proofs.Json.Kept
import SealedGrant.Token.Basic

/-! # What reading a claim set ends in

A text or bytes are read as a claim set exactly when they hold an object that follows the schema.
All else ends in a fault of the taxonomy, with one exception: an object whose kind is an array or an
object is not judged (`SealedGrant.ClaimSet.judges_ofRead`). No integer is read that is too long to
be written (`SealedGrant.Json.isWritable_of_readNumber`), so there is no further way to fail.
-/

namespace SealedGrant

namespace Json

/-! ## Integers that are read can be written -/

/-- Digits stand for less than the power of ten of their number. -/
theorem digitsValue_lt {digits : List Char} (numerals : ∀ c ∈ digits, isDigit c = true) :
    digitsValue digits < 10 ^ digits.length := by
  induction digits using List.reverseRecOn with
  | nil => decide
  | append_singleton before last ih =>
    obtain ⟨earlier, digit⟩ := List.forall_mem_append.mp numerals
    have value : digitsValue (before ++ [last]) = 10 * digitsValue before + (last.toNat - 48) := by
      simp only [digitsValue, List.foldl_append, List.foldl_cons, List.foldl_nil]
    have small : last.toNat ≤ 57 := by
      have range := digit last (List.mem_singleton_self last)
      simp only [isDigit, Bool.and_eq_true, decide_eq_true_eq] at range
      exact range.2
    have below := ih earlier
    rw [value, List.length_append, List.length_singleton, pow_succ]
    omega

/-- Digits within a limit, with or without a minus sign, stay below its power of ten. -/
theorem natAbs_signed_lt {digits : List Char} {limit : ℕ} (negative : Bool)
    (numerals : ∀ c ∈ digits, isDigit c = true) (short : digits.length ≤ limit) :
    (Double.signed negative (digitsValue digits)).natAbs < Nat.pow 10 limit := by
  have magnitude : (Double.signed negative (digitsValue digits)).natAbs = digitsValue digits := by
    cases negative <;> simp [Double.signed]
  rw [magnitude]
  exact (digitsValue_lt numerals).trans_le (Nat.pow_le_pow_right (by norm_num) short)

theorem eq_of_numberEnd {number n : Number} {rest : List Char}
    (ended : numberEnd number rest = .ok n) : n = number := by
  unfold numberEnd at ended
  split at ended <;> cases ended
  rfl

/-- **A number that is read can be written**: too many digits are refused. -/
theorem isWritable_of_readNumber {chars : List Char} {n : Number}
    (found : readNumber chars = .ok n) : Json.isWritable n = true := by
  unfold readNumber at found
  extract_lets negative unsigned whole tail fraction exponent at found
  split at found
  · cases found
  · split at found
    · rw [eq_of_numberEnd found]
      rfl
    · split at found
      · cases found
      · next short =>
        have below : (Double.signed negative (digitsValue whole)).natAbs <
            Nat.pow 10 Text.digitLimit :=
          natAbs_signed_lt _ (fun c member => List.mem_takeWhile_imp member) (not_lt.mp short)
        rw [eq_of_numberEnd found]
        unfold Json.isWritable
        exact decide_eq_true below

/-- Reading a text keeps numbers that can be written. -/
theorem keptByReading_writable :
    KeptByReading fun value => value.allNumbers Json.isWritable = true where
  word {words text value} found := by
    unfold word? at found
    split at found <;> cases found <;> rfl
  number := isWritable_of_readNumber
  string _ := rfl
  array {items} writable := by
    rw [allNumbers]
    induction items with
    | nil => rfl
    | cons item rest ih =>
      obtain ⟨first, others⟩ := List.forall_mem_cons.mp writable
      rw [allNumbersIn, first, ih others]
      rfl
  empty := rfl
  set {members name value} before last := by
    rw [allNumbers, allNumbersOf_eq_all, List.all_eq_true] at before ⊢
    intro member found
    rcases Members.mem_of_mem_set found with rfl | old
    · exact last
    · exact before member old

/-- Whether a value is an object whose kind is an array or an object. -/
def nestsKind : Json → Bool
  | .object members =>
      match Members.getD members Claim.kind.name with
      | .array _ | .object _ => true
      | _ => false
  | _ => false

end Json

namespace ClaimSet

/-! ## The three ends of reading -/

/-- **What is read is judged.** A claim set comes of an object that follows the schema and of
nothing else. An object whose kind is an array or an object is not compared with the kinds. All else
is a fault. -/
structure Judges (value : Except Json.ReadError Json) (outcome : Except BuildError ClaimSet) :
    Prop where
  accepted (claims : ClaimSet) :
    outcome = .ok claims ↔ value = .ok (.object claims.members) ∧ ∃ kind, claims.Follows kind
  unjudged : outcome = .error (.check .kindNotScalar) ↔
    ∃ found, value = .ok found ∧ found.nestsKind = true
  faulty : (∀ claims, outcome ≠ .ok claims) →
    (∀ found, value = .ok found → found.nestsKind = false) →
      ∃ cause, outcome = .error (.check (.fault cause))

theorem check_eq_kindNotScalar_iff {members : Members} :
    check ⟨members⟩ = .error .kindNotScalar ↔ (Json.object members).nestsKind = true := by
  have kindValue : value ⟨members⟩ .kind = members.getD Claim.kind.name := rfl
  unfold check Json.nestsKind
  rw [kindValue]
  dsimp only
  cases members.getD Claim.kind.name with
  | null => simp
  | bool value => simp
  | number n => simp
  | array items => simp
  | object members => simp
  | string code =>
    dsimp only
    cases TokenKind.ofCode? code with
    | none => simp
    | some kind =>
      dsimp only
      cases faultAs? ⟨members⟩ kind <;> simp

/-- Reading is judged wherever all that is read can be written. -/
theorem judges_ofRead {value : Except Json.ReadError Json}
    (writable : ∀ found, value = .ok found → found.allNumbers Json.isWritable = true) :
    Judges value (ofRead value) where
  accepted claims := by
    rw [ofRead_eq_ok_iff]
    refine and_congr_right fun same => and_iff_left (writable _ same)
  unjudged := by
    cases value with
    | error cause => simp [ofRead]
    | ok found =>
      cases found with
      | object members =>
        simp only [ofRead, Except.ok.injEq, exists_eq_left', ← check_eq_kindNotScalar_iff]
        unfold ofChecked
        cases checked : check ⟨members⟩ with
        | error cause => simp
        | ok kind => cases ofMembers? members <;> simp
      | null => simp [ofRead, Json.nestsKind]
      | bool value => simp [ofRead, Json.nestsKind]
      | number n => simp [ofRead, Json.nestsKind]
      | string text => simp [ofRead, Json.nestsKind]
      | array items => simp [ofRead, Json.nestsKind]
  faulty refused scalar := by
    cases value with
    | error cause => exact ⟨.notJson, rfl⟩
    | ok found =>
      cases found with
      | object members =>
        have judged := scalar _ rfl
        have short := writable _ rfl
        cases checked : check ⟨members⟩ with
        | error cause =>
          cases cause with
          | fault cause =>
            refine ⟨cause, ?_⟩
            simp only [ofRead, ofChecked, checked]
          | kindNotScalar =>
            rw [check_eq_kindNotScalar_iff.mp checked] at judged
            cases judged
        | ok kind =>
          refine absurd (ofRead_eq_ok_iff.mpr ⟨rfl, ⟨kind, ?_⟩, short⟩) (refused ⟨members⟩)
          exact check_eq_ok_iff.mp checked
      | null => exact ⟨.notObject, rfl⟩
      | bool value => exact ⟨.notObject, rfl⟩
      | number n => exact ⟨.notObject, rfl⟩
      | string text => exact ⟨.notObject, rfl⟩
      | array items => exact ⟨.notObject, rfl⟩

theorem judges_decode (text : String) : Judges (Json.read .strict text) (decode text) :=
  judges_ofRead fun _ found => Json.keptByReading_writable.of_read found

theorem judges_decodeBytes (bytes : Bytes) :
    Judges (Json.readBytes .strict bytes) (decodeBytes bytes) :=
  judges_ofRead fun _ found => Json.keptByReading_writable.of_readBytes found

/-- Whether bytes hold an object whose kind is an array or an object. -/
def nestsKind (bytes : Bytes) : Bool :=
  (Json.readBytes .strict bytes).toOption.any Json.nestsKind

/-- Bytes that hold no claim set are refused with a fault, unless their kind is nested. -/
theorem decodeBytes_cases {bytes : Bytes} (foreign : ∀ claims, decodeBytes bytes ≠ .ok claims) :
    (nestsKind bytes = true ∧ decodeBytes bytes = .error (.check .kindNotScalar)) ∨
      (nestsKind bytes = false ∧ ∃ cause, decodeBytes bytes = .error (.check (.fault cause))) := by
  have judged := judges_decodeBytes bytes
  unfold nestsKind
  cases read : Json.readBytes .strict bytes with
  | error cause =>
    refine Or.inr ⟨rfl, judged.faulty foreign fun found same => ?_⟩
    rw [read] at same
    cases same
  | ok value =>
    cases nested : value.nestsKind with
    | true => exact Or.inl ⟨nested, judged.unjudged.mpr ⟨value, read, nested⟩⟩
    | false =>
      refine Or.inr ⟨nested, judged.faulty foreign fun found same => ?_⟩
      rw [read] at same
      cases same
      exact nested

end ClaimSet

/-- What is not read as a claim set is not read as a token, and for the same cause. -/
theorem Token.readBytes_of_foreign {bytes : Bytes}
    (foreign : ∀ claims, ClaimSet.decodeBytes bytes ≠ .ok claims) (kind : TokenKind) :
    (ClaimSet.nestsKind bytes = true ∧ readBytes kind bytes = .error (.defect .typeMismatch)) ∨
      (ClaimSet.nestsKind bytes = false ∧
        ∃ cause, readBytes kind bytes = .error (.fault (.claims cause))) := by
  unfold readBytes
  rcases ClaimSet.decodeBytes_cases foreign with ⟨nested, refused⟩ | ⟨plain, cause, refused⟩
  · exact Or.inl ⟨nested, by rw [refused]; rfl⟩
  · exact Or.inr ⟨plain, cause, by rw [refused]; rfl⟩

end SealedGrant
