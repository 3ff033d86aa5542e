import Mathlib
import SealedGrant.Pkce
import SealedGrant.Proofs.Codec.Base64

/-! # Verifiers and their challenges

A challenge that is made from a verifier survives its text, whatever characters the verifier has:
the name of a method has no colon, so the last colon of the text is the one between the two
(`SealedGrant.CodeChallenge.ofText?_text`). A code that carries the challenge is then decided by
the verifier that a request gives for it, and by nothing else (`SealedGrant.Pkce.check_made`). A
verifier that cannot be encoded is refused by one method and breaks the other
(`SealedGrant.Pkce.check_of_unencodable`).
-/

namespace SealedGrant

namespace CodeChallenge

variable {challenge : CodeChallenge}

theorem toList_text : challenge.text.toList =
    challenge.value.toList ++ ':' :: challenge.method.toList := by
  simp [text]

/-- **A challenge is read back from its text**, also where its value has colons. -/
theorem ofText?_text (value : challenge.value ≠ "") (method : challenge.method ≠ "")
    (lone : ':' ∉ challenge.method.toList) : ofText? challenge.text = some challenge := by
  have backwards : challenge.text.toList.reverse =
      challenge.method.toList.reverse ++ ':' :: challenge.value.toList.reverse := by
    simp [toList_text]
  have before : ∀ c ∈ challenge.method.toList.reverse, decide (c ≠ ':') = true := by
    intro c member
    refine decide_eq_true ?_
    rintro rfl
    exact lone (List.mem_reverse.mp member)
  have taken : challenge.text.toList.reverse.takeWhile (fun c => decide (c ≠ ':')) =
      challenge.method.toList.reverse := by
    rw [backwards, List.takeWhile_append_of_pos before]
    simp
  have dropped : challenge.text.toList.reverse.dropWhile (fun c => decide (c ≠ ':')) =
      ':' :: challenge.value.toList.reverse := by
    rw [backwards, List.dropWhile_append_of_pos before]
    simp
  unfold ofText?
  simp only [taken, dropped, List.drop_succ_cons, List.drop_zero, List.reverse_reverse,
    String.ofList_toList]
  simp [value, method]

end CodeChallenge

theorem Sha256.length_digest (message : Bytes) : (digest message).length = 32 := by
  simp [digest, wordBytes, Bytes.length_ofNat]

theorem Base64.encodeUrl_ne_empty {bytes : Bytes} (filled : bytes ≠ []) :
    encodeUrl bytes ≠ "" := by
  intro empty
  have same : encodeUrl bytes = encodeUrl [] := empty
  have decoded := congrArg decodeUrl same
  rw [decodeUrl_encodeUrl, decodeUrl_encodeUrl] at decoded
  exact filled (Except.ok.inj decoded)

namespace Pkce

variable {method verifier : String} {given : WideText} {challenge : CodeChallenge} {known : Method}

/-- A verifier answers for another one under a method: it is the same, or it is ASCII and has the
same digest. -/
def Answers (method : String) (given : WideText) (verifier : String) : Prop :=
  (method = "plain" ∧ given = .ofString verifier) ∨
    (method = "S256" ∧ ∃ text, given = .ofString text ∧ (∀ c ∈ text.toList, c.toNat < 0x80) ∧
      Base64.encodeUrl (Sha256.digest (Utf8.encode text)) =
        Base64.encodeUrl (Sha256.digest (Utf8.encode verifier)))

/-- What a method makes of a verifier cannot be encoded: the method takes the verifier as it is, and
that has a surrogate. -/
def Unencodable (method : String) (given : WideText) : Prop :=
  method = "plain" ∧ given.text? = none

theorem ofName?_eq_some_cases (named : Method.ofName? method = some known) :
    (method = "plain" ∧ known = .plain) ∨ (method = "S256" ∧ known = .s256) := by
  unfold Method.ofName? at named
  split at named
  · cases named
    exact Or.inl ⟨rfl, rfl⟩
  · cases named
    exact Or.inr ⟨rfl, rfl⟩
  · cases named

/-- A challenge is made by a supported method, of a verifier that the method takes. -/
theorem challenge_eq_ok_iff : Pkce.challenge verifier method = .ok challenge ↔
    ∃ known value, Method.ofName? method = some known ∧
      known.challengeValue? verifier = some value ∧ challenge = ⟨value, method⟩ := by
  unfold Pkce.challenge challengeValue
  cases Method.ofName? method with
  | none => simp [Except.map]
  | some known =>
    dsimp only
    cases made : known.challengeValue? verifier with
    | none => simp [made, Except.map]
    | some value => simp [made, Except.map, eq_comm]

/-- The digest is taken of ASCII verifiers. -/
theorem challengeValue?_s256_eq_some_iff {value : String} :
    Method.s256.challengeValue? verifier = some value ↔
      (∀ c ∈ verifier.toList, c.toNat < 0x80) ∧
        Base64.encodeUrl (Sha256.digest (Utf8.encode verifier)) = value := by
  have all : (verifier.toList.all fun c => decide (c.toNat < 0x80)) = true ↔
      ∀ c ∈ verifier.toList, c.toNat < 0x80 := by
    simp
  rw [← all]
  simp only [Method.challengeValue?]
  split
  · next ascii => simp [ascii]
  · next other => simp [other]

/-- **The challenge of a verifier survives its text**, whatever characters the verifier has. -/
theorem ofText?_made (made : Pkce.challenge verifier method = .ok challenge)
    (filled : verifier ≠ "") : CodeChallenge.ofText? challenge.text = some challenge := by
  obtain ⟨known, value, named, worth, rfl⟩ := challenge_eq_ok_iff.mp made
  rcases ofName?_eq_some_cases named with ⟨rfl, rfl⟩ | ⟨rfl, rfl⟩
  · have plain : "plain" ≠ "" ∧ ':' ∉ "plain".toList := by decide
    cases worth
    exact CodeChallenge.ofText?_text filled plain.1 plain.2
  · have s256 : "S256" ≠ "" ∧ ':' ∉ "S256".toList := by decide
    obtain ⟨-, rfl⟩ := challengeValue?_s256_eq_some_iff.mp worth
    have digested : Sha256.digest (Utf8.encode verifier) ≠ [] :=
      List.ne_nil_of_length_pos (by rw [Sha256.length_digest]; norm_num)
    exact CodeChallenge.ofText?_text (Base64.encodeUrl_ne_empty digested) s256.1 s256.2

/-- Whether a verifier matches is seen from what the method makes of it, if that can be encoded. -/
theorem verify_eq (encodable : ¬ Unencodable challenge.method given) :
    verify challenge given = match Method.ofName? challenge.method with
      | none => .error (.fault (.request (.unsupportedMethod challenge.method)))
      | some known => .ok (given.text?.bind known.challengeValue? == some challenge.value) := by
  unfold verify
  cases named : Method.ofName? challenge.method with
  | none => rfl
  | some known =>
    cases read : given.text? with
    | some text => cases known <;> rfl
    | none =>
      rcases ofName?_eq_some_cases named with ⟨plain, rfl⟩ | ⟨-, rfl⟩
      · exact absurd ⟨plain, read⟩ encodable
      · rfl

/-- **A verifier matches a challenge** exactly when it answers for the verifier that the challenge
was made from. -/
theorem verify_made (made : Pkce.challenge verifier method = .ok challenge)
    (encodable : ¬ Unencodable method given) :
    ∃ matched, verify challenge given = .ok matched ∧
      (matched = true ↔ Answers method given verifier) := by
  obtain ⟨known, value, named, worth, rfl⟩ := challenge_eq_ok_iff.mp made
  refine ⟨given.text?.bind known.challengeValue? == some value, ?_, ?_⟩
  · rw [verify_eq encodable, named]
  · rw [beq_iff_eq, Option.bind_eq_some_iff]
    simp only [WideText.text?_eq_some_iff]
    rcases ofName?_eq_some_cases named with ⟨rfl, rfl⟩ | ⟨rfl, rfl⟩
    · cases worth
      simp [Method.challengeValue?, Answers]
    · obtain ⟨-, rfl⟩ := challengeValue?_s256_eq_some_iff.mp worth
      simp only [challengeValue?_s256_eq_some_iff]
      simp [Answers]

/-- A verifier answers for itself. -/
theorem answers_self (made : Pkce.challenge verifier method = .ok challenge) :
    Answers method (.ofString verifier) verifier := by
  obtain ⟨known, value, named, worth, -⟩ := challenge_eq_ok_iff.mp made
  rcases ofName?_eq_some_cases named with ⟨rfl, rfl⟩ | ⟨rfl, rfl⟩
  · exact Or.inl ⟨rfl, rfl⟩
  · exact Or.inr ⟨rfl, verifier, rfl, (challengeValue?_s256_eq_some_iff.mp worth).1, rfl⟩

theorem Unencodable.ne_nil (beyond : Unencodable method given) : given ≠ [] := by
  rintro rfl
  cases beyond.2

/-- A verifier that answers can be encoded. -/
theorem Answers.encodable (answers : Answers method given verifier) :
    ¬ Unencodable method given := by
  rintro ⟨rfl, beyond⟩
  rcases answers with ⟨-, rfl⟩ | ⟨other, -⟩
  · rw [WideText.text?_ofString] at beyond
    cases beyond
  · exact absurd other (by decide)

/-! ## The check -/

theorem filter_of_filled (filled : given ≠ []) :
    (some given).filter (fun given : WideText => given ≠ []) = some given := by
  simp [filled]

/-- A verifier that is absent or empty is asked for. -/
theorem check_of_absent {sent : Option WideText} (absent : sent.filter (· ≠ []) = none)
    (challenge : CodeChallenge) :
    check (some challenge) sent = .error (.fault (.request .noVerifier)) := by
  simp only [check, absent]

/-- A verifier that nobody asked for is refused. -/
theorem check_none (filled : given ≠ []) :
    check none (some given) = .error (.fault (.identity .unexpectedVerifier)) := by
  simp only [check, filter_of_filled filled]

/-- **The check of a verifier** against the challenge of another one. -/
theorem check_made (made : Pkce.challenge verifier method = .ok challenge) (filled : given ≠ [])
    (encodable : ¬ Unencodable method given) :
    (Answers method given verifier → check (some challenge) (some given) = .ok ()) ∧
      (¬ Answers method given verifier →
        check (some challenge) (some given) = .error (.fault (.identity .verifierMismatch))) := by
  obtain ⟨matched, verified, answers⟩ := verify_made made encodable
  unfold check
  rw [filter_of_filled filled]
  dsimp only
  rw [verified, ← answers]
  cases matched with
  | true => exact ⟨fun _ => rfl, fun fails => absurd rfl fails⟩
  | false => exact ⟨fun holds => (Bool.false_ne_true holds).elim, fun _ => rfl⟩

/-- **The check breaks at a verifier that cannot be encoded**, where another verifier that does not
match is refused. -/
theorem check_of_unencodable (made : Pkce.challenge verifier method = .ok challenge)
    (beyond : Unencodable method given) :
    check (some challenge) (some given) = .error (.defect .verifierNotUnicode) := by
  have filled := beyond.ne_nil
  obtain ⟨rfl, unread⟩ := beyond
  obtain ⟨known, value, named, -, rfl⟩ := challenge_eq_ok_iff.mp made
  cases named
  have broken : verify ⟨value, "plain"⟩ given = .error (.defect .verifierNotUnicode) := by
    unfold verify
    rw [unread]
    rfl
  unfold check
  rw [filter_of_filled filled]
  dsimp only
  rw [broken]
  rfl

/-- **What the check of a challenge lets pass**: verifiers that are not empty and answer for the one
that it was made from. -/
theorem check_made_eq_ok_iff (made : Pkce.challenge verifier method = .ok challenge)
    {sent : Option WideText} : check (some challenge) sent = .ok () ↔
      ∃ given, sent = some given ∧ given ≠ [] ∧ Answers method given verifier := by
  constructor
  · intro passes
    by_cases absent : sent.filter (· ≠ []) = none
    · rw [check_of_absent absent] at passes
      cases passes
    · obtain ⟨given, present⟩ := Option.ne_none_iff_exists'.mp absent
      obtain ⟨rfl, nonempty⟩ := Option.filter_eq_some_iff.mp present
      have filled : given ≠ [] := of_decide_eq_true nonempty
      refine ⟨given, rfl, filled, ?_⟩
      by_cases beyond : Unencodable method given
      · rw [check_of_unencodable made beyond] at passes
        cases passes
      · by_contra unlike
        rw [(check_made made filled beyond).2 unlike] at passes
        cases passes
  · rintro ⟨given, rfl, filled, answers⟩
    exact (check_made made filled answers.encodable).1 answers

end Pkce
end SealedGrant
