import Mathlib
import SealedGrant.Proofs.ClaimSet.Reading
import SealedGrant.Proofs.Pkce

/-! # What is accepted

The check walks through tables and members; what it accepts can be said without them. An object that
was read is accepted exactly when it conforms to the schema of its kind, member by member
(`SealedGrant.ClaimSet.Conforms`): what must be there is there, what may be there has its shape,
what another kind carries is absent, the three times ascend, and the redirect URI and the code
challenge are well-formed. Of an accepted claim set every accessor gives the member that it is named
for (`SealedGrant.ClaimSet.Reads`).
-/

namespace SealedGrant

namespace Json

/-- A value that is read from a text. -/
def IsGiven (value : Json) : Prop :=
  ∃ words text, read words text = .ok value

variable {value : Json}

theorem IsGiven.distinct (given : value.IsGiven) : value.Distinct := by
  obtain ⟨words, text, found⟩ := given
  exact distinct_of_read found

/-- No integer that is read is too long to be written. -/
theorem IsGiven.writable (given : value.IsGiven) :
    value.allNumbers Json.isWritable = true := by
  obtain ⟨words, text, found⟩ := given
  exact keptByReading_writable.of_read found

/-- A value that repeats no name is read from its own text. -/
theorem IsGiven.of_readable (distinct : value.Distinct)
    (readable : value.allNumbers isReadable = true) : value.IsGiven := by
  have read := read_render Style.separates_compact .strict readable
  rw [settled_of_distinct value distinct] at read
  exact ⟨.strict, _, read⟩

end Json

namespace CodeChallenge

/-- **A code challenge splits at its last colon** into two parts that are not empty. -/
theorem ofText?_eq_some_iff {text : String} {challenge : CodeChallenge} :
    ofText? text = some challenge ↔ text = challenge.text ∧ challenge.value ≠ "" ∧
      challenge.method ≠ "" ∧ ':' ∉ challenge.method.toList := by
  constructor
  · intro found
    unfold ofText? at found
    extract_lets chars method value at found
    split at found
    · cases found
    · next filled =>
      cases found
      simp only [Bool.or_eq_true, List.isEmpty_iff, not_or] at filled
      have whole : chars.reverse.takeWhile (· ≠ ':') ++ chars.reverse.dropWhile (· ≠ ':') =
          chars.reverse := List.takeWhile_append_dropWhile
      cases dropped : chars.reverse.dropWhile (· ≠ ':') with
      | nil =>
        refine absurd ?_ filled.1
        simp only [value, dropped, List.drop_nil, List.reverse_nil]
      | cons c rest =>
        have colon : c = ':' := by
          have head := List.head?_dropWhile_not (· ≠ ':') chars.reverse
          rw [dropped] at head
          simpa using head
        have valueEq : value = rest.reverse := by
          simp only [value, dropped, List.drop_succ_cons, List.drop_zero]
        have split : chars = value ++ ':' :: method := by
          rw [← List.reverse_reverse chars, ← whole, dropped, colon, valueEq]
          simp [method]
        refine ⟨?_, ?_, ?_, ?_⟩
        · rw [← String.toList_inj, toList_text, String.toList_ofList, String.toList_ofList]
          exact split
        · simpa using filled.1
        · simpa using filled.2
        · rw [String.toList_ofList, List.mem_reverse]
          intro member
          simpa using List.mem_takeWhile_imp member
  · rintro ⟨rfl, value, method, lone⟩
    exact ofText?_text value method lone

end CodeChallenge

namespace Members

variable (members : Members) (name : String) (shape : Shape)

/-- A member that must be there, with a value of a shape. -/
def Must : Prop :=
  ∃ value, members.get? name = some value ∧ shape.Describes value

/-- A member that may be absent; a value that is there has a shape. -/
def May : Prop :=
  ∀ value, members.get? name = some value → shape.Describes value

end Members

namespace ClaimSet

/-- **The schema**, member by member: what must be there, what may be there and what belongs to
other kinds. Other members than these are not looked at. -/
structure Conforms (members : Members) (kind : TokenKind) : Prop where
  kind_eq : members.get? "type" = some (.string kind.code)
  texts : ∀ name ∈ ["iss", "sub", "jti", "scope"], members.Must name .text
  client : members.Must "aud" .singleText
  times : ∃ authTime issued expires : ℕ,
    members.get? "auth_time" = some (.number (.int authTime)) ∧
    members.get? "iat" = some (.number (.int issued)) ∧
    members.get? "exp" = some (.number (.int expires)) ∧ authTime ≤ issued ∧ issued ≤ expires
  redirect : ∃ uri, members.get? "redirect_uri" = some (.string uri) ∧
    RedirectUri.check uri = .ok ()
  /-- An access token may do without a context class. -/
  acr : members.May "acr" .text ∧ (kind ≠ .accessToken → members.Must "acr" .text)
  optionalTexts : ∀ name ∈ ["principal", "nonce"], members.May name .text
  request : members.May "claims" .object
  consents : ∀ name ∈ ["cnsntl_claims", "cnsntd_claims"], members.May name .texts
  delivered : ∀ name ∈ ["dl_claims", "dl_claims_ui"], members.May name .object ∧
    (kind = .refreshToken → members.get? name = none)
  deliveredId : members.May "dl_claims_id" .object ∧
    (kind ≠ .authorizationCode → members.get? "dl_claims_id" = none)
  /-- A challenge is a value and a method with a colon between them, the last one of the text. -/
  challenge : ∀ value, members.get? "code_challenge" = some value → kind = .authorizationCode ∧
    ∃ challenge : CodeChallenge, value = .string challenge.text ∧ challenge.value ≠ "" ∧
      challenge.method ≠ "" ∧ ':' ∉ challenge.method.toList

/-- What the schema demands of one known member. -/
def Meets (members : Members) (kind : TokenKind) (claim : Claim) : Prop :=
  match claim.presence kind with
  | .required => members.Must claim.name claim.shape
  | .optional => members.May claim.name claim.shape
  | .forbidden => members.get? claim.name = none

variable {members : Members} {kind : TokenKind}

theorem meets_iff {claim : Claim} : Meets members kind claim ↔
    (claim.presence kind = .required → isNull (value ⟨members⟩ claim) = false) ∧
      ∀ value, members.get? claim.name = some value →
        memberFault? kind (claim.name, value) = none := by
  simp only [memberFault?_eq_none_iff, Shape.fits_eq_true_iff, value, Members.getD]
  unfold Meets Members.Must Members.May
  cases presence : claim.presence kind with
  | required =>
    cases found : members.get? claim.name with
    | none => simp [isNull]
    | some value =>
      simp only [Option.some.injEq, exists_eq_left', forall_const, Option.getD_some, ne_eq,
        reduceCtorEq, not_false_eq_true, true_and, forall_eq']
      exact ⟨fun described => ⟨described.isNull, described.isNull, described⟩,
        fun both => both.2.2⟩
  | optional =>
    simp only [reduceCtorEq, false_implies, true_and, ne_eq, not_false_eq_true]
    exact ⟨fun may value found => ⟨(may value found).isNull, may value found⟩,
      fun all value found => (all value found).2⟩
  | forbidden => simp [Option.eq_none_iff_forall_ne_some]

/-- Following the schema, with the known members one by one. -/
theorem follows_iff_meets (distinct : members.names.Nodup) : Follows ⟨members⟩ kind ↔
    value ⟨members⟩ .kind = .string kind.code ∧ (∀ claim, Meets members kind claim) ∧
      (time ⟨members⟩ .issuedAt ≤ time ⟨members⟩ .expiresAt ∧
        time ⟨members⟩ .authTime ≤ time ⟨members⟩ .issuedAt) ∧
      redirectFault? ⟨members⟩ = none ∧ challengeFault? ⟨members⟩ = none := by
  simp only [meets_iff, forall_and, ← fits_iff distinct]
  constructor
  · intro follows
    exact ⟨follows.kind_eq, ⟨follows.present, follows.fits⟩,
      ⟨follows.issued_le, follows.auth_le⟩, follows.redirect, follows.challenge⟩
  · rintro ⟨kind_eq, ⟨present, fits⟩, ⟨issued_le, auth_le⟩, redirect, challenge⟩
    exact ⟨kind_eq, present, fits, issued_le, auth_le, redirect, challenge⟩

theorem value_of_get? {claim : Claim} {found : Json}
    (present : members.get? claim.name = some found) : value ⟨members⟩ claim = found := by
  rw [value, Members.getD, present]
  rfl

theorem redirectFault?_of_get? {uri : String}
    (present : members.get? Claim.redirectUri.name = some (.string uri)) :
    redirectFault? ⟨members⟩ = none ↔ RedirectUri.check uri = .ok () := by
  have given : text? ⟨members⟩ .redirectUri = some uri := by
    rw [text?, value_of_get? present]
    rfl
  rw [redirectFault?, given, Option.getD_some]
  cases RedirectUri.check uri with
  | ok accepted => simp
  | error cause => simp

theorem challengeFault?_of_get? {text : String}
    (present : members.get? Claim.codeChallenge.name = some (.string text)) :
    challengeFault? ⟨members⟩ = none ↔
      ∃ challenge, CodeChallenge.ofText? text = some challenge := by
  have given : text? ⟨members⟩ .codeChallenge = some text := by
    rw [text?, value_of_get? present]
    rfl
  simp only [challengeFault?, given]
  cases CodeChallenge.ofText? text with
  | some challenge => simp
  | none => simp

theorem time_of_get? {claim : Claim} {seconds : ℕ}
    (present : members.get? claim.name = some (.number (.int seconds))) :
    time ⟨members⟩ claim = seconds := by
  rw [time, value_of_get? present]
  rfl

/-- What follows the schema conforms to it. -/
theorem Follows.conforms (distinct : members.names.Nodup) (follows : Follows ⟨members⟩ kind) :
    Conforms members kind := by
  obtain ⟨kind_eq, meets, ⟨issued_le, auth_le⟩, redirect, challenge⟩ :=
    (follows_iff_meets distinct).mp follows
  obtain ⟨kindValue, kindFound, -⟩ := meets .kind
  obtain ⟨_, authFound, authTime, rfl⟩ := meets .authTime
  obtain ⟨_, issuedFound, issued, rfl⟩ := meets .issuedAt
  obtain ⟨_, expiresFound, expires, rfl⟩ := meets .expiresAt
  obtain ⟨_, uriFound, uri, rfl⟩ := meets .redirectUri
  rw [time_of_get? issuedFound, time_of_get? expiresFound] at issued_le
  rw [time_of_get? authFound, time_of_get? issuedFound] at auth_le
  have optional (claim : Claim) : members.May claim.name claim.shape := by
    intro value found
    exact Shape.fits_eq_true_iff.mp
      (memberFault?_eq_none_iff.mp ((meets_iff.mp (meets claim)).2 value found)).2.2
  have forbidden (claim : Claim) (presence : claim.presence kind = .forbidden) :
      members.get? claim.name = none := by
    have demand := meets claim
    rwa [Meets, presence] at demand
  refine
    { kind_eq := ?_
      texts := ?_
      client := meets .audience
      times := ⟨authTime, issued, expires, authFound, issuedFound, expiresFound,
        Int.ofNat_le.mp auth_le, Int.ofNat_le.mp issued_le⟩
      redirect := ⟨uri, uriFound, (redirectFault?_of_get? uriFound).mp redirect⟩
      acr := ⟨optional .acr, ?_⟩
      optionalTexts := ?_
      request := optional .claimsRequest
      consents := ?_
      delivered := ?_
      deliveredId := ⟨optional .deliveryId, ?_⟩
      challenge := ?_ }
  · rw [value_of_get? kindFound] at kind_eq
    rw [← kind_eq]
    exact kindFound
  · simp only [List.mem_cons, List.not_mem_nil, or_false, forall_eq_or_imp, forall_eq]
    exact ⟨meets .issuer, meets .subject, meets .id, meets .scope⟩
  · intro other
    have demand := meets .acr
    cases kind with
    | accessToken => exact absurd rfl other
    | authorizationCode => exact demand
    | refreshToken => exact demand
  · simp only [List.mem_cons, List.not_mem_nil, or_false, forall_eq_or_imp, forall_eq]
    exact ⟨optional .principal, optional .nonce⟩
  · simp only [List.mem_cons, List.not_mem_nil, or_false, forall_eq_or_imp, forall_eq]
    exact ⟨optional .consentable, optional .consented⟩
  · simp only [List.mem_cons, List.not_mem_nil, or_false, forall_eq_or_imp, forall_eq]
    refine ⟨⟨optional .delivery, ?_⟩, optional .deliveryUi, ?_⟩
    · rintro rfl
      exact forbidden .delivery rfl
    · rintro rfl
      exact forbidden .deliveryUi rfl
  · intro other
    apply forbidden .deliveryId
    cases kind with
    | authorizationCode => exact absurd rfl other
    | accessToken => rfl
    | refreshToken => rfl
  · intro value found
    obtain ⟨text, rfl⟩ := optional .codeChallenge value found
    obtain ⟨given, read⟩ := (challengeFault?_of_get? found).mp challenge
    obtain ⟨rfl, parts⟩ := CodeChallenge.ofText?_eq_some_iff.mp read
    refine ⟨?_, given, rfl, parts⟩
    by_contra other
    have absent : members.get? Claim.codeChallenge.name = none := by
      apply forbidden
      cases kind with
      | authorizationCode => exact absurd rfl other
      | accessToken => rfl
      | refreshToken => rfl
    cases absent.symm.trans found

theorem Conforms.meets (conforms : Conforms members kind) (claim : Claim) :
    Meets members kind claim := by
  obtain ⟨authTime, issued, expires, authFound, issuedFound, expiresFound, -⟩ := conforms.times
  obtain ⟨uri, uriFound, -⟩ := conforms.redirect
  cases claim with
  | kind => exact ⟨_, conforms.kind_eq, _, rfl⟩
  | issuer => exact conforms.texts "iss" (by simp)
  | subject => exact conforms.texts "sub" (by simp)
  | audience => exact conforms.client
  | expiresAt => exact ⟨_, expiresFound, expires, rfl⟩
  | issuedAt => exact ⟨_, issuedFound, issued, rfl⟩
  | id => exact conforms.texts "jti" (by simp)
  | authTime => exact ⟨_, authFound, authTime, rfl⟩
  | redirectUri => exact ⟨_, uriFound, uri, rfl⟩
  | scope => exact conforms.texts "scope" (by simp)
  | acr =>
    cases kind with
    | accessToken => exact conforms.acr.1
    | authorizationCode => exact conforms.acr.2 (by decide)
    | refreshToken => exact conforms.acr.2 (by decide)
  | principal => exact conforms.optionalTexts "principal" (by simp)
  | nonce => exact conforms.optionalTexts "nonce" (by simp)
  | claimsRequest => exact conforms.request
  | delivery =>
    cases kind with
    | refreshToken => exact (conforms.delivered "dl_claims" (by simp)).2 rfl
    | authorizationCode => exact (conforms.delivered "dl_claims" (by simp)).1
    | accessToken => exact (conforms.delivered "dl_claims" (by simp)).1
  | deliveryId =>
    cases kind with
    | authorizationCode => exact conforms.deliveredId.1
    | accessToken => exact conforms.deliveredId.2 (by decide)
    | refreshToken => exact conforms.deliveredId.2 (by decide)
  | deliveryUi =>
    cases kind with
    | refreshToken => exact (conforms.delivered "dl_claims_ui" (by simp)).2 rfl
    | authorizationCode => exact (conforms.delivered "dl_claims_ui" (by simp)).1
    | accessToken => exact (conforms.delivered "dl_claims_ui" (by simp)).1
  | consentable => exact conforms.consents "cnsntl_claims" (by simp)
  | consented => exact conforms.consents "cnsntd_claims" (by simp)
  | codeChallenge =>
    have bound (other : kind ≠ .authorizationCode) : members.get? "code_challenge" = none := by
      cases found : members.get? "code_challenge" with
      | none => rfl
      | some value => exact absurd (conforms.challenge value found).1 other
    cases kind with
    | authorizationCode =>
      intro value found
      obtain ⟨-, challenge, rfl, -⟩ := conforms.challenge value found
      exact ⟨_, rfl⟩
    | accessToken => exact bound (by decide)
    | refreshToken => exact bound (by decide)

/-- **Following the schema and conforming to it are the same**, for members with different names. -/
theorem follows_iff_conforms (distinct : members.names.Nodup) :
    Follows ⟨members⟩ kind ↔ Conforms members kind := by
  refine ⟨Follows.conforms distinct, fun conforms => (follows_iff_meets distinct).mpr ?_⟩
  obtain ⟨authTime, issued, expires, authFound, issuedFound, expiresFound, auth_le, issued_le⟩ :=
    conforms.times
  obtain ⟨uri, uriFound, valid⟩ := conforms.redirect
  refine ⟨value_of_get? conforms.kind_eq, conforms.meets, ⟨?_, ?_⟩,
    (redirectFault?_of_get? uriFound).mpr valid, ?_⟩
  · rw [time_of_get? issuedFound, time_of_get? expiresFound]
    exact Int.ofNat_le.mpr issued_le
  · rw [time_of_get? authFound, time_of_get? issuedFound]
    exact Int.ofNat_le.mpr auth_le
  · cases found : members.get? Claim.codeChallenge.name with
    | none =>
      have absent : text? ⟨members⟩ .codeChallenge = none := by
        rw [text?, value, Members.getD, found]
        rfl
      rw [challengeFault?, absent]
    | some value =>
      obtain ⟨-, challenge, rfl, parts⟩ := conforms.challenge value found
      exact (challengeFault?_of_get? found).mpr
        ⟨challenge, CodeChallenge.ofText?_eq_some_iff.mpr ⟨rfl, parts⟩⟩

/-- **A claim set is built of what conforms to the schema** and can be written, and of nothing
else. -/
theorem ofChecked_eq_ok_iff_conforms (distinct : members.names.Nodup) {claims : ClaimSet} :
    ofChecked members = .ok claims ↔ claims = ⟨members⟩ ∧ (∃ kind, Conforms members kind) ∧
      (Json.object members).allNumbers Json.isWritable = true := by
  simp only [ofChecked_eq_ok_iff, follows_iff_conforms distinct]

/-! ## Reading the members -/

/-- Every accessor of a claim set gives the member that it is named for; an optional one gives
nothing exactly where the member is absent. -/
structure Reads (claims : ClaimSet) : Prop where
  required : ∀ claim ∈ [Claim.kind, .issuer, .subject, .id, .issuedAt, .expiresAt, .authTime],
    ∃ value, claims.members.get? claim.name = some value ∧ claims.required claim = .ok value
  texts : ∀ claim ∈ [Claim.principal, .acr, .nonce],
    claims.optional claim isText = .ok (claims.members.get? claim.name)
  objects : ∀ claim ∈ [Claim.claimsRequest, .delivery, .deliveryId, .deliveryUi],
    claims.optional claim isObject = .ok (claims.members.get? claim.name)
  arrays : ∀ claim ∈ [Claim.consentable, .consented],
    claims.optional claim isArray = .ok (claims.members.get? claim.name)
  audience : ∃ client, claims.members.get? "aud" = some (.array [.string client]) ∧
    claims.audience = .ok [.string client] ∧ claims.clientId = .ok (.string client)
  redirectUri : ∃ uri, claims.members.get? "redirect_uri" = some (.string uri) ∧
    claims.redirectUri = .ok uri
  scope : ∃ text, claims.members.get? "scope" = some (.string text) ∧
    claims.scope = .ok (Scope.items text)
  /-- The two parts of the challenge are those of its text. -/
  codeChallenge : ∃ challenge? : Option CodeChallenge, claims.codeChallenge = .ok challenge? ∧
    claims.members.get? "code_challenge" = challenge?.map fun challenge => .string challenge.text

theorem required_of_get? {claim : Claim} {found : Json}
    (present : members.get? claim.name = some found) : required ⟨members⟩ claim = .ok found := by
  simp only [required, present]

theorem optional_eq {claim : Claim} {fits : Json → Bool}
    (described : ∀ value, members.get? claim.name = some value →
      isNull value = false ∧ fits value = true) :
    optional ⟨members⟩ claim fits = .ok (members.get? claim.name) := by
  unfold optional value Members.getD
  cases found : members.get? claim.name with
  | none => rfl
  | some value =>
    obtain ⟨present, fitting⟩ := described value found
    simp [present, fitting]

theorem isText_of_describes {value : Json} (described : Shape.text.Describes value) :
    isText value = true := by
  obtain ⟨text, rfl⟩ := described
  rfl

theorem isObject_of_describes {value : Json} (described : Shape.object.Describes value) :
    isObject value = true := by
  obtain ⟨inner, rfl⟩ := described
  rfl

theorem isArray_of_describes {value : Json} (described : Shape.texts.Describes value) :
    isArray value = true := by
  obtain ⟨texts, rfl⟩ := described
  rfl

namespace Conforms

variable (conforms : Conforms members kind)

include conforms

/-- A known member that is there has its shape. -/
theorem describes {claim : Claim} {value : Json} (found : members.get? claim.name = some value) :
    claim.shape.Describes value :=
  Shape.fits_eq_true_iff.mp
    (memberFault?_eq_none_iff.mp ((meets_iff.mp (conforms.meets claim)).2 value found)).2.2

/-- An optional member is read where its shape is the one that is asked for. -/
theorem optional_of_shape {claim : Claim} {fits : Json → Bool}
    (asked : ∀ value, claim.shape.Describes value → fits value = true) :
    optional ⟨members⟩ claim fits = .ok (members.get? claim.name) := by
  apply optional_eq
  intro value found
  have described := conforms.describes found
  exact ⟨described.isNull, asked value described⟩

theorem exists_required {claim : Claim} (presence : claim.presence kind = .required) :
    ∃ value, members.get? claim.name = some value ∧ required ⟨members⟩ claim = .ok value := by
  have demand := conforms.meets claim
  rw [Meets, presence] at demand
  obtain ⟨value, found, -⟩ := demand
  exact ⟨value, found, required_of_get? found⟩

/-- **Acceptance makes every accessor safe.** -/
theorem reads : Reads ⟨members⟩ where
  required := by
    simp only [List.mem_cons, List.not_mem_nil, or_false, forall_eq_or_imp, forall_eq]
    exact ⟨conforms.exists_required rfl, conforms.exists_required rfl,
      conforms.exists_required rfl, conforms.exists_required rfl, conforms.exists_required rfl,
      conforms.exists_required rfl, conforms.exists_required rfl⟩
  texts := by
    simp only [List.mem_cons, List.not_mem_nil, or_false, forall_eq_or_imp, forall_eq]
    exact ⟨conforms.optional_of_shape fun _ => isText_of_describes,
      conforms.optional_of_shape fun _ => isText_of_describes,
      conforms.optional_of_shape fun _ => isText_of_describes⟩
  objects := by
    simp only [List.mem_cons, List.not_mem_nil, or_false, forall_eq_or_imp, forall_eq]
    exact ⟨conforms.optional_of_shape fun _ => isObject_of_describes,
      conforms.optional_of_shape fun _ => isObject_of_describes,
      conforms.optional_of_shape fun _ => isObject_of_describes,
      conforms.optional_of_shape fun _ => isObject_of_describes⟩
  arrays := by
    simp only [List.mem_cons, List.not_mem_nil, or_false, forall_eq_or_imp, forall_eq]
    exact ⟨conforms.optional_of_shape fun _ => isArray_of_describes,
      conforms.optional_of_shape fun _ => isArray_of_describes⟩
  audience := by
    obtain ⟨_, found, client, rfl⟩ := conforms.client
    have given : ClaimSet.required ⟨members⟩ .audience = .ok (.array [.string client]) :=
      required_of_get? found
    refine ⟨client, found, ?_, ?_⟩
    · rw [ClaimSet.audience, given]
      rfl
    · rw [clientId, given]
      rfl
  redirectUri := by
    obtain ⟨uri, found, valid⟩ := conforms.redirect
    have given : ClaimSet.required ⟨members⟩ .redirectUri = .ok (.string uri) :=
      required_of_get? found
    refine ⟨uri, found, ?_⟩
    simp only [ClaimSet.redirectUri, given, bind, Except.bind, valid]
    rfl
  scope := by
    obtain ⟨_, found, text, rfl⟩ := conforms.texts "scope" (by simp)
    have given : ClaimSet.required ⟨members⟩ .scope = .ok (.string text) := required_of_get? found
    refine ⟨text, found, ?_⟩
    rw [ClaimSet.scope, given]
    rfl
  codeChallenge := by
    have given : ClaimSet.optional ⟨members⟩ .codeChallenge isText =
        .ok (members.get? "code_challenge") :=
      conforms.optional_of_shape fun _ => isText_of_describes
    cases found : members.get? "code_challenge" with
    | none =>
      refine ⟨none, ?_, rfl⟩
      rw [ClaimSet.codeChallenge, given, found]
      rfl
    | some value =>
      obtain ⟨-, challenge, rfl, parts⟩ := conforms.challenge value found
      have read := CodeChallenge.ofText?_eq_some_iff.mpr ⟨rfl, parts⟩
      refine ⟨some challenge, ?_, rfl⟩
      simp only [ClaimSet.codeChallenge, given, found, bind, Except.bind, read]
      rfl

end Conforms

/-- **The check accepts exactly the schema.** An object that was read from a text is accepted, as it
is, exactly when it conforms to the schema of one of the three kinds; and every accessor of an
accepted claim set gives the member that it is named for. -/
theorem accepts_exactly_the_schema {members : Members}
    (given : (Json.object members).IsGiven) :
    (∀ claims, ofChecked members = .ok claims ↔
      claims = ⟨members⟩ ∧ ∃ kind, Conforms members kind) ∧
    ∀ claims, ofChecked members = .ok claims → claims.Reads := by
  have distinct : members.names.Nodup := given.distinct.1
  have exactly (claims : ClaimSet) : ofChecked members = .ok claims ↔
      claims = ⟨members⟩ ∧ ∃ kind, Conforms members kind := by
    rw [ofChecked_eq_ok_iff_conforms distinct, and_iff_left given.writable]
  refine ⟨exactly, fun claims accepted => ?_⟩
  obtain ⟨rfl, kind, conforms⟩ := (exactly claims).mp accepted
  exact conforms.reads

/-- The members of a code: a challenge whose value has a colon of its own, and an unknown member
that is null. -/
def codeMembers : Members :=
  [("note", .null), ("type", .string "ac"), ("iss", .string "https://op.example"),
    ("sub", .string "user"), ("aud", .array [.string "app"]), ("exp", .number 300),
    ("iat", .number 0), ("jti", .string "id-1"), ("auth_time", .number 0),
    ("redirect_uri", .string "https://app.example/cb"), ("scope", .string "read write"),
    ("acr", .string "basic"), ("code_challenge", .string "a:b:plain")]

theorem isGiven_codeMembers : (Json.object codeMembers).IsGiven := by
  have numbers (holds : Number → Bool) : (Json.object codeMembers).allNumbers holds =
      (holds 300 && (holds 0 && (holds 0 && true))) := rfl
  have readable : (Json.object codeMembers).allNumbers Json.isReadable = true := by
    rw [numbers]
    decide
  have read := Json.read_render Json.Style.separates_compact .strict readable
  exact ⟨.strict, _, read⟩

/-- The members of the code are accepted, and all of them can be read. -/
theorem accepts_exactly_the_schema_sample : ∃ claims, ofChecked codeMembers = .ok claims ∧
    (∃ kind, Conforms codeMembers kind) ∧ claims.Reads := by
  obtain ⟨exactly, reads⟩ := accepts_exactly_the_schema isGiven_codeMembers
  have follows : Follows ⟨codeMembers⟩ .authorizationCode := check_eq_ok_iff.mp rfl
  have accepted : ofChecked codeMembers = .ok ⟨codeMembers⟩ :=
    ofChecked_eq_ok_iff.mpr ⟨rfl, ⟨_, follows⟩, isGiven_codeMembers.writable⟩
  exact ⟨_, accepted, ((exactly _).mp accepted).2, reads _ accepted⟩

example : codeChallenge ⟨codeMembers⟩ = .ok (some ⟨"a:b", "plain"⟩) := by rfl

end ClaimSet
end SealedGrant
