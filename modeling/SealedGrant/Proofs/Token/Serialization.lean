import Mathlib
import SealedGrant.Proofs.ClaimSet.Acceptance
import SealedGrant.Proofs.Token.Opened
import SealedGrant.Proofs.Token.RoundTrip

/-! # Which tokens can be written

A token is read, minted of values that were read, or derived from such a token
(`SealedGrant.Token.Originates`). However it came about, it was checked and repeats no name at any
depth (`SealedGrant.Token.Originates.distinct`), so once it is written its text is read as an equal
token (`SealedGrant.Token.serializes_of_originates`). It can be written exactly when its numbers are
finite: a minted token when those of its options are (`SealedGrant.Token.isFinite_iff_of_mint`), a
derived one when those of its parent are (`SealedGrant.Token.IsChild.isFinite`).

A number such as `1e400` is read as an infinite one, and the builder accepts it: the copy that it
makes has a name for such numbers, and the canonical text has none
(`SealedGrant.Sample.mints_what_cannot_be_written`).
-/

namespace SealedGrant

/-- The values of a request. -/
def TokenRequest.values (request : TokenRequest) : List Json :=
  [request.clientId, request.issuer, request.subject, request.principal, request.issuedAt,
    request.expiresAt, request.authTime, request.redirectUri, request.scope]

/-- The values of options. -/
def TokenOptions.values (options : TokenOptions) : List Json :=
  [options.acr, options.nonce, options.claimsRequest, options.delivery, options.deliveryId,
    options.deliveryUi, options.consentable, options.consented]

namespace Token

/-- A token that is derived from another one. -/
inductive IsChild (parent token : Token) : Prop where
  | access (request : ScopeRequest) (life : Lifetime) (ids : Option IdSource) (withAcr : Bool)
      (supply last : Supply)
      (ran : (parent.deriveAccess request life ids withAcr).run supply = (.ok token, last))
  | refresh (request : ScopeRequest) (life : Lifetime) (ids : Option IdSource)
      (supply last : Supply)
      (ran : (parent.deriveRefresh request life ids).run supply = (.ok token, last))

/-- **Where tokens come from**: they are read, minted of values that were read, or derived. -/
inductive Originates : Token → Prop where
  | read (token : Token) (found : token.claims.IsRead) : Originates token
  | minted (ids : Option IdSource) (kind : TokenKind) (request : TokenRequest)
      (options : TokenOptions) (supply last : Supply) (token : Token)
      (given : ∀ value ∈ request.values ++ options.values, value.IsGiven)
      (ran : (mint ids kind request options).run supply = (.ok token, last)) : Originates token
  | derived (parent token : Token) (origin : Originates parent) (child : IsChild parent token) :
      Originates token

variable {parent token : Token}

theorem IsChild.wellFormed (child : IsChild parent token) : token.WellFormed := by
  cases child with
  | access request life ids withAcr supply last ran =>
    exact IsMade.wellFormed (.access parent ids request life withAcr supply last ran)
  | refresh request life ids supply last ran =>
    exact IsMade.wellFormed (.refresh parent ids request life supply last ran)

theorem Originates.wellFormed (origin : token.Originates) : token.WellFormed := by
  cases origin with
  | read token found => exact wellFormed_of_isRead found
  | minted ids kind request options supply last token given ran =>
    exact IsMade.wellFormed (.minted ids kind request options supply last ran)
  | derived parent token origin child => exact child.wellFormed

/-! ## What holds of every value -/

section All

variable (holds : Json → Prop) (texts : ∀ text, holds (.string text))

include texts

/-- The fresh members of a token that follows the schema are texts and times. -/
theorem of_mem_freshMembers (times : ∀ seconds : ℕ, holds (.number (.int seconds)))
    {members : Members} {kind : TokenKind} {id scope : String} {life : Lifetime}
    (follows : ClaimSet.Follows ⟨members⟩ kind)
    (among : freshMembers kind id life scope ⊆ members) :
    ∀ member ∈ freshMembers kind id life scope, holds member.2 := by
  have time (claim : Claim) (shape : claim.shape = .time) (value : Json)
      (listed : (claim.name, value) ∈ freshMembers kind id life scope) : holds value := by
    have described := follows.describes (among listed)
    rw [shape] at described
    obtain ⟨seconds, rfl⟩ := described
    exact times seconds
  intro member listed
  have which := listed
  simp only [freshMembers, List.mem_cons, List.not_mem_nil, or_false] at which
  rcases which with rfl | rfl | rfl | rfl | rfl
  · exact texts _
  · exact texts _
  · exact time .issuedAt rfl _ listed
  · exact time .expiresAt rfl _ listed
  · exact texts _

theorem of_mem_acrIfAny (wanted : Bool) : ∀ member ∈ parent.acrIfAny wanted, holds member.2 := by
  intro member listed
  unfold acrIfAny at listed
  split at listed
  · split at listed
    · rw [List.mem_singleton.mp listed]
      exact texts _
    · cases listed
  · cases listed

theorem of_mem_acrAlways (nothing : holds .null) :
    ∀ member ∈ parent.acrAlways, holds member.2 := by
  intro member listed
  rw [acrAlways, List.mem_singleton] at listed
  subst listed
  cases parent.acr? with
  | some acr => exact texts acr
  | none => exact nothing

/-- **What holds of a parent's values holds of its child's**, if it holds of texts, times and
null. -/
theorem IsChild.of_parent (times : ∀ seconds : ℕ, holds (.number (.int seconds)))
    (nothing : holds .null) (formed : parent.WellFormed)
    (all : ∀ member ∈ parent.claims.members, holds member.2) (child : IsChild parent token) :
    ∀ member ∈ token.claims.members, holds member.2 := by
  have carried (claims : List Claim) : ∀ member ∈ parent.carried claims, holds member.2 :=
    fun member found => all member (mem_of_mem_carried formed found)
  cases child with
  | access request life ids withAcr supply last ran =>
    obtain ⟨id, scope, -, built⟩ := exists_build_of_deriveAccess ran
    obtain ⟨-, claims, follows, -⟩ := build_eq_ok_iff.mp built
    have fresh : ∀ member ∈ freshMembers .accessToken id life scope, holds member.2 := by
      apply of_mem_freshMembers holds texts times follows
      intro member listed
      simp only [List.mem_append]
      exact Or.inl (Or.inl (Or.inr listed))
    rw [claims]
    simp only [List.forall_mem_append]
    exact ⟨⟨⟨carried _, fresh⟩, of_mem_acrIfAny holds texts withAcr⟩, carried _⟩
  | refresh request life ids supply last ran =>
    obtain ⟨id, scope, -, built⟩ := exists_build_of_deriveRefresh ran
    obtain ⟨-, claims, follows, -⟩ := build_eq_ok_iff.mp built
    have fresh : ∀ member ∈ freshMembers .refreshToken id life scope, holds member.2 := by
      apply of_mem_freshMembers holds texts times follows
      intro member listed
      simp only [List.mem_append]
      exact Or.inl (Or.inr listed)
    rw [claims]
    simp only [List.forall_mem_append]
    exact ⟨⟨carried _, fresh⟩, of_mem_acrAlways holds texts nothing⟩

/-- What holds of texts and of null holds of the members that options set exactly when it holds of
the values of the options. -/
theorem forall_options (nothing : holds .null) {options : TokenOptions} :
    (∀ member ∈ options.members, holds member.2) ↔ ∀ value ∈ options.values, holds value := by
  constructor
  · intro all
    have set (claim : Claim) (value : Json)
        (listed : ClaimSet.isNull value = false → (claim.name, value) ∈ options.members) :
        holds value := by
      cases value with
      | null => exact nothing
      | bool value => exact all _ (listed rfl)
      | number n => exact all _ (listed rfl)
      | string text => exact texts text
      | array items => exact all _ (listed rfl)
      | object members => exact all _ (listed rfl)
    simp only [TokenOptions.values, List.mem_cons, List.not_mem_nil, or_false, forall_eq_or_imp,
      forall_eq]
    refine ⟨set .acr _ ?_, set .nonce _ ?_, set .claimsRequest _ ?_, set .delivery _ ?_,
      set .deliveryId _ ?_, set .deliveryUi _ ?_, set .consentable _ ?_, set .consented _ ?_⟩
    all_goals
      intro given
      exact List.mem_filter.mpr ⟨by simp, by simpa using given⟩
  · intro all member listed
    obtain ⟨listed, given⟩ := List.mem_filter.mp listed
    simp only [TokenOptions.values, List.mem_cons, List.not_mem_nil, or_false, forall_eq_or_imp,
      forall_eq] at all
    obtain ⟨acr, nonce, request, delivery, deliveryId, deliveryUi, consentable, consented⟩ := all
    simp only [List.mem_cons, List.not_mem_nil, or_false] at listed
    rcases listed with rfl | rfl | rfl | rfl | rfl | rfl | rfl | rfl | rfl
    · exact acr
    · exact nonce
    · exact request
    · exact delivery
    · exact deliveryId
    · exact deliveryUi
    · exact consentable
    · exact consented
    · cases challenge : options.codeChallenge with
      | some challenge => exact texts _
      | none =>
        rw [challenge] at given
        cases given

/-- **What holds of the values that a token is minted of holds of its members**, if it holds of
texts, of null and of an array with one value that it holds of. -/
theorem of_mint (nothing : holds .null) (lone : ∀ value, holds value → holds (.array [value]))
    {ids : Option IdSource} {kind : TokenKind} {request : TokenRequest} {options : TokenOptions}
    {supply last : Supply} (all : ∀ value ∈ request.values ++ options.values, holds value)
    (ran : (mint ids kind request options).run supply = (.ok token, last)) :
    ∀ member ∈ token.claims.members, holds member.2 := by
  obtain ⟨id, scope, -, built⟩ := exists_build_of_mint ran
  obtain ⟨-, claims, -, -⟩ := build_eq_ok_iff.mp built
  obtain ⟨requested, optional⟩ := List.forall_mem_append.mp all
  simp only [TokenRequest.values, List.mem_cons, List.not_mem_nil, or_false,
    forall_eq_or_imp, forall_eq] at requested
  obtain ⟨client, issuer, subject, principal, issued, expires, authTime, redirect, -⟩ := requested
  rw [claims]
  intro member listed
  rcases List.mem_append.mp listed with given | option
  · simp only [List.mem_cons, List.not_mem_nil, or_false] at given
    rcases given with rfl | rfl | rfl | rfl | rfl | rfl | rfl | rfl | rfl | rfl | rfl
    · exact texts _
    · exact texts _
    · exact lone _ client
    · exact issuer
    · exact subject
    · exact principal
    · exact issued
    · exact expires
    · exact authTime
    · exact redirect
    · exact texts _
  · exact (forall_options holds texts nothing).mpr optional member option

end All

/-- **A token repeats no name at any depth**, wherever it comes from. -/
theorem Originates.distinct (origin : token.Originates) :
    (Json.object token.claims.members).Distinct := by
  have texts (text : String) : (Json.string text).Distinct := trivial
  have all : ∀ member ∈ token.claims.members, member.2.Distinct := by
    induction origin with
    | read token found =>
      obtain ⟨distinct, -, -⟩ := found.checked
      exact (Json.distinctMembers_iff _).mp distinct.2
    | minted ids kind request options supply last token given ran =>
      exact of_mint Json.Distinct texts trivial (fun value distinct => ⟨distinct, trivial⟩)
        (fun value member => (given value member).distinct) ran
    | derived parent token origin child ih =>
      exact child.of_parent Json.Distinct texts (fun _ => trivial) trivial origin.wellFormed ih
  exact ⟨origin.wellFormed.distinct, (Json.distinctMembers_iff _).mpr all⟩

/-! ## Finite numbers -/

/-- Every number of a token, at any depth, is finite. -/
def IsFinite (token : Token) : Prop :=
  (Json.object token.claims.members).isFinite = true

theorem isFinite_iff :
    token.IsFinite ↔ ∀ member ∈ token.claims.members, member.2.isFinite = true := by
  rw [IsFinite, Json.isFinite, Json.allNumbers, Json.allNumbersOf_eq_all, List.all_eq_true]
  rfl

/-- **Deriving keeps numbers finite.** -/
theorem IsChild.isFinite (child : IsChild parent token) (formed : parent.WellFormed)
    (finite : parent.IsFinite) : token.IsFinite := by
  have texts (text : String) : (Json.string text).isFinite = true := rfl
  rw [isFinite_iff] at finite ⊢
  exact child.of_parent (fun value => value.isFinite = true) texts (fun _ => rfl) rfl formed finite

/-- Only objects can hold numbers that are not finite: the other shapes have texts and times. -/
theorem isFinite_of_describes {shape : Shape} {value : Json} (other : shape ≠ .object)
    (described : shape.Describes value) : value.isFinite = true := by
  cases shape with
  | text =>
    obtain ⟨text, rfl⟩ := described
    rfl
  | time =>
    obtain ⟨seconds, rfl⟩ := described
    rfl
  | object => exact absurd rfl other
  | texts =>
    obtain ⟨texts, rfl⟩ := described
    induction texts with
    | nil => rfl
    | cons text rest ih => exact ih
  | singleText =>
    obtain ⟨text, rfl⟩ := described
    rfl

/-- **A minted token has finite numbers exactly when its options do.** What is required of it are
texts and times. -/
theorem isFinite_iff_of_mint {ids : Option IdSource} {kind : TokenKind} {request : TokenRequest}
    {options : TokenOptions} {supply last : Supply}
    (ran : (mint ids kind request options).run supply = (.ok token, last)) :
    token.IsFinite ↔ ∀ value ∈ options.values, value.isFinite = true := by
  obtain ⟨id, scope, -, built⟩ := exists_build_of_mint ran
  obtain ⟨-, claims, follows, -⟩ := build_eq_ok_iff.mp built
  have texts (text : String) : (Json.string text).isFinite = true := rfl
  rw [isFinite_iff, ← forall_options (fun value => value.isFinite = true) texts rfl, claims]
  have plain (claim : Claim) (other : claim.shape ≠ .object) (value : Json)
      (listed : (claim.name, value) ∈ newMembers kind id request scope options) :
      value.isFinite = true :=
    isFinite_of_describes other (follows.describes listed)
  constructor
  · intro all member option
    exact all member (List.mem_append_right _ option)
  · intro all member listed
    rcases List.mem_append.mp listed with given | option
    · simp only [List.mem_cons, List.not_mem_nil, or_false] at given
      rcases given with rfl | rfl | rfl | rfl | rfl | rfl | rfl | rfl | rfl | rfl | rfl
      · exact texts _
      · exact texts _
      · exact plain .audience (by decide) _ listed
      · exact plain .issuer (by decide) _ listed
      · exact plain .subject (by decide) _ listed
      · exact plain .principal (by decide) _ listed
      · exact plain .issuedAt (by decide) _ listed
      · exact plain .expiresAt (by decide) _ listed
      · exact plain .authTime (by decide) _ listed
      · exact plain .redirectUri (by decide) _ listed
      · exact texts _
    · exact all member option

/-! ## Writing -/

/-- How a token is written: as a text that is read as an equal token, unless one of its numbers is
not finite. -/
structure Serializes (token : Token) : Prop where
  written_iff : (∃ text, token.serialize = .ok text) ↔ token.IsFinite
  readBack : ∀ text, token.serialize = .ok text → ∃ again, read token.kind text = .ok again ∧
    again.kind = token.kind ∧ again.claims.same token.claims = true
  /-- Sealing fails where writing does, and nothing is drawn. -/
  refused : ¬ token.IsFinite → token.serialize = .error (.defect .notFinite) ∧
    ∀ ring random supply, (token.sealedBy ring random).run supply =
      (.error (.defect .notFinite), supply)
  /-- The builder is answerable for what it was given. -/
  minted : ∀ ids kind request options supply last,
    (mint ids kind request options).run supply = (.ok token, last) →
      (token.IsFinite ↔ ∀ value ∈ options.values, value.isFinite = true)
  derived : token.IsFinite → ∀ child, IsChild token child → child.IsFinite

/-- **Wherever a token comes from, it is written exactly when its numbers are finite, and what is
written is read as an equal token.** Its numbers are finite if it was minted of finite ones, or
derived from a token whose numbers are. -/
theorem serializes_of_originates (origin : token.Originates) : token.Serializes where
  written_iff := exists_serialize_iff origin.wellFormed
  readBack := by
    intro text written
    have formed := origin.wellFormed
    have bytes := readBytes_serialize formed written
    refine ⟨token.stored formed, ?_, rfl, same_stored formed origin.distinct⟩
    rw [readBytes, ClaimSet.decodeBytes_of_encode (encode_of_serialize written)] at bytes
    exact bytes
  refused := by
    intro infinite
    have unwritten : token.serialize = .error (.defect .notFinite) :=
      serialize_eq_error origin.wellFormed (eq_false_of_ne_true infinite)
    refine ⟨unwritten, fun ring random supply => ?_⟩
    rw [sealedBy, unwritten]
    rfl
  minted _ _ _ _ _ _ ran := isFinite_iff_of_mint ran
  derived finite _ child := child.isFinite origin.wellFormed finite

end Token

namespace Sample

theorem isGiven_tokenRequest : ∀ value ∈ tokenRequest.values, value.IsGiven := by
  intro value listed
  apply Json.IsGiven.of_readable
  · revert value
    simp [TokenRequest.values, tokenRequest, Json.Distinct]
  · revert value
    simp only [TokenRequest.values, tokenRequest, List.mem_cons, List.not_mem_nil, or_false,
      forall_eq_or_imp, forall_eq, Json.allNumbers, true_and, and_true]
    decide

theorem isGiven_tokenOptions : ∀ value ∈ tokenOptions.values, value.IsGiven := by
  intro value listed
  apply Json.IsGiven.of_readable
  · revert value
    simp [TokenOptions.values, tokenOptions, TokenOptions.none, Json.Distinct,
      Json.DistinctMembers, Json.DistinctItems]
  · revert value
    simp only [TokenOptions.values, tokenOptions, TokenOptions.none, List.mem_cons,
      List.not_mem_nil, or_false, forall_eq_or_imp, forall_eq, Json.allNumbers, Json.allNumbersOf,
      Json.allNumbersIn, Bool.and_true, Bool.true_and, true_and, and_true]
    decide

theorem originates_accessToken : accessToken.Originates :=
  .minted (some .numbered) .accessToken tokenRequest tokenOptions .fresh ⟨1, 0⟩ accessToken
    (List.forall_mem_append.mpr ⟨isGiven_tokenRequest, isGiven_tokenOptions⟩) run_mint_accessToken

/-- The access token is written, and read as an equal token. -/
theorem serializes_accessToken : ∃ text again, accessToken.serialize = .ok text ∧
    Token.read .accessToken text = .ok again ∧ again.claims.same accessToken.claims = true := by
  have written := Token.serializes_of_originates originates_accessToken
  obtain ⟨text, found⟩ := written.written_iff.mpr rfl
  obtain ⟨again, read, -, same⟩ := written.readBack text found
  exact ⟨text, again, found, read, same⟩

/-- Options that ask for a claim with a number beyond all doubles. -/
def wideOptions : TokenOptions :=
  { TokenOptions.none with
    claimsRequest := .object [("x", .number (.double (.infinite false)))] }

theorem read_wideOptions :
    Json.read .strict "\x7b\"x\":1e400\x7d" = .ok wideOptions.claimsRequest := rfl

theorem isGiven_wideOptions : ∀ value ∈ wideOptions.values, value.IsGiven := by
  have nothing : Json.null.IsGiven := .of_readable trivial rfl
  simp only [TokenOptions.values, wideOptions, TokenOptions.none, List.mem_cons, List.not_mem_nil,
    or_false, forall_eq_or_imp, forall_eq]
  exact ⟨nothing, nothing, ⟨_, _, read_wideOptions⟩, nothing, nothing, nothing, nothing, nothing⟩

/-- The access token with these options. -/
def wideToken : Token where
  kind := .accessToken
  claims := ⟨Token.newMembers .accessToken "id-1" tokenRequest "read write" wideOptions⟩
  kind_eq := rfl

theorem run_mint_wideToken :
    (Token.mint (some .numbered) .accessToken tokenRequest wideOptions).run .fresh =
      (.ok wideToken, ⟨1, 0⟩) := by
  have follows : wideToken.claims.Follows .accessToken := ClaimSet.check_eq_ok_iff.mp rfl
  have numbers (holds : Number → Bool) : (Json.object wideToken.claims.members).allNumbers holds =
      (holds 1700000000 && (holds 1700000300 && (holds 1700000000 &&
        ((holds (.double (.infinite false)) && true) && true)))) := rfl
  have writable : (Json.object wideToken.claims.members).allNumbers Json.isWritable = true := by
    have issued : Json.isWritable 1700000000 = true :=
      Json.isWritable_of_lt (by norm_num) (by decide)
    have expires : Json.isWritable 1700000300 = true :=
      Json.isWritable_of_lt (by norm_num) (by decide)
    rw [numbers, issued, expires]
    rfl
  exact Token.run_mint_eq_ok_iff.mpr ⟨rfl, rfl, rfl, rfl, "read write", rfl,
    Token.build_eq_ok_iff.mpr ⟨rfl, rfl, follows, writable⟩⟩

/-- **The builder accepts what cannot be written.** The number is read from a text as all values
are, the token is minted of it and expires in time, and yet it has no text. -/
theorem mints_what_cannot_be_written :
    Json.read .strict "\x7b\"x\":1e400\x7d" = .ok wideOptions.claimsRequest ∧
    (∀ value ∈ tokenRequest.values ++ wideOptions.values, value.IsGiven) ∧
    ∃ token, (Token.mint (some .numbered) .accessToken tokenRequest wideOptions).run .fresh =
        (.ok token, ⟨1, 0⟩) ∧ token.expiresAt < 2 ^ 64 ∧
      token.serialize = .error (.defect .notFinite) :=
  ⟨read_wideOptions, List.forall_mem_append.mpr ⟨isGiven_tokenRequest, isGiven_wideOptions⟩,
    wideToken, run_mint_wideToken, by decide, Token.serialize_eq_error
      (Token.IsMade.minted _ _ _ _ _ _ run_mint_wideToken).wellFormed rfl⟩

end Sample
end SealedGrant
