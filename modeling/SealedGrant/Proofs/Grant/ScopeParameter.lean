import Mathlib
import SealedGrant.Proofs.Grant.Completion
import SealedGrant.Proofs.Grant.Inheritance
import SealedGrant.Proofs.Text.Blank
import SealedGrant.Proofs.Token.Derived

/-! # What the scope parameter means

The items of the scope parameter decide what a reserved grant yields: without items the scope of the
grant, with items of that scope these, and with any other item a refusal
(`SealedGrant.Grant.answers_scope`). One sort of text is an exception. Whether a scope was asked for
is told from the blanks of every script, but items are separated by a space and the five blank
controls of ASCII only, so a text of blanks that has any other blank has an item and still counts as
not asking (`SealedGrant.Grant.IsForeignBlank`): it obtains the whole scope.
-/

namespace SealedGrant

/-! ## Blank texts -/

namespace Text

theorem trim_eq_empty_iff {text : String} :
    trim text = "" ↔ ∀ c ∈ text.toList, isBlank c = true := by
  rw [trim, ← trimBy_eq_nil_iff, ← String.toList_eq_nil_iff, String.toList_ofList]

theorem isBlank_of_isAsciiBlank {c : Char} (blank : isAsciiBlank c = true) : isBlank c = true := by
  simp only [isAsciiBlank, Bool.or_eq_true, Bool.and_eq_true, decide_eq_true_eq] at blank
  rcases blank with rfl | range
  · rfl
  · simp only [isBlank, Bool.or_eq_true, Bool.and_eq_true, decide_eq_true_eq]
    omega

end Text

namespace Grant

/-! ## What the items mean -/

/-- The items that a request names; a request without the parameter names none. -/
def namedItems (request : GrantRequest) : List String :=
  (request.scope.map Scope.items).getD []

/-- The scope that the items of a request mean for a grant, if they stay within its scope. -/
def meantScope? (request : GrantRequest) (grant : Token) : Option String :=
  if namedItems request = [] then some grant.scopeText
  else if ∀ item ∈ namedItems request, item ∈ grant.scope then
    some (" ".intercalate (namedItems request))
  else none

/-- A text of blanks, one of which separates no items. -/
def IsForeignBlank (scope : String) : Prop :=
  (∀ c ∈ scope.toList, Text.isBlank c = true) ∧ ∃ c ∈ scope.toList, Text.isAsciiBlank c = false

/-- An answer that grants a scope, or that refuses the scope which was asked for. -/
def AnswersScope (answer : Answer) : Option String → Prop
  | some scope => ∃ tokens, answer = .granted tokens ∧ tokens.scope = scope
  | none => ∃ refusal, answer = .refused refusal ∧ refusal.code = .invalidScope ∧
      refusal.after = .replayReserved

/-- A foreign blank has an item, and counts as blank. -/
theorem isForeignBlank_iff {scope : String} :
    IsForeignBlank scope ↔ Text.trim scope = "" ∧ Scope.items scope ≠ [] := by
  rw [IsForeignBlank, Text.trim_eq_empty_iff, Ne, Scope.items_eq_nil_iff]
  simp

section Narrow

variable {request : GrantRequest} (grant : Token)

theorem narrow_inherit : grant.narrow .inherit = .ok grant.scopeText := rfl

/-- A foreign blank obtains the scope of the grant. -/
theorem narrow_of_isForeignBlank {scope : String} (sent : request.scope = some scope)
    (foreign : IsForeignBlank scope) :
    grant.narrow (scopeRequest request) = .ok grant.scopeText := by
  have blank := (isForeignBlank_iff.mp foreign).1
  simp only [scopeRequest, sent, blank, ↓reduceIte, narrow_inherit]

/-- Other texts obtain what their items mean. -/
theorem narrow_of_not_isForeignBlank
    (native : ∀ scope, request.scope = some scope → ¬ IsForeignBlank scope) :
    match meantScope? request grant with
    | some scope => grant.narrow (scopeRequest request) = .ok scope
    | none => ∃ extra, grant.narrow (scopeRequest request) = .error (.fault (.scope extra)) := by
  cases sent : request.scope with
  | none =>
    simp only [meantScope?, namedItems, scopeRequest, sent, Option.map_none, Option.getD_none,
      ↓reduceIte, narrow_inherit]
  | some scope =>
    have named : namedItems request = Scope.items scope := by
      rw [namedItems, sent, Option.map_some, Option.getD_some]
    by_cases blank : Text.trim scope = ""
    · have empty : Scope.items scope = [] := by
        by_contra filled
        exact native scope sent (isForeignBlank_iff.mpr ⟨blank, filled⟩)
      simp only [meantScope?, named, empty, scopeRequest, sent, blank, ↓reduceIte, narrow_inherit]
    · have filled : Scope.items scope ≠ [] := fun empty => blank (Text.trim_eq_empty_iff.mpr
        fun c inside => Text.isBlank_of_isAsciiBlank (Scope.items_eq_nil_iff.mp empty c inside))
      simp only [meantScope?, named, filled, scopeRequest, sent, blank, ↓reduceIte]
      by_cases within : ∀ item ∈ Scope.items scope, item ∈ grant.scope
      · rw [if_pos within]
        have granted : (ScopeRequest.text scope).granted grant =
            " ".intercalate (Scope.items scope) :=
          congrArg (" ".intercalate ·) (Scope.eraseDups_of_nodup (Scope.nodup_items scope))
        have narrowed : grant.narrow (.text scope) =
            .ok ((ScopeRequest.text scope).granted grant) := Token.narrow_eq_ok within
        exact narrowed.trans (congrArg Except.ok granted)
      · rw [if_neg within]
        simp only [not_forall] at within
        obtain ⟨item, asked, outside⟩ := within
        exact Token.exists_narrow_error ⟨item, asked, outside⟩

end Narrow

/-! ## The answer -/

section Answer

variable {context : Context} {request : GrantRequest} {grant : Token}

/-- What is issued has the scope that the request was narrowed to. -/
theorem scope_of_issue {now : ℤ} {supply last : Supply} {tokens : Issued} {scope : String}
    (narrowed : grant.narrow (scopeRequest request) = .ok scope)
    (ran : (issue context request now grant).run supply = (.ok tokens, last)) :
    tokens.scope = scope := by
  obtain ⟨derived, first, second, accessText, refresh, derives, -, -, rfl⟩ :=
    run_issue_eq_ok_iff.mp ran
  obtain ⟨expiry, between, -, access, -, -⟩ := run_derive_eq_ok_iff.mp derives
  obtain ⟨-, -, -, -, found, same, built⟩ := Token.run_deriveAccess_eq_ok_iff.mp access
  rw [narrowed] at same
  cases same
  rw [Token.accessMembers, List.append_assoc] at built
  exact Token.scopeText_of_build built

section Reserved

variable {readings : Readings} {state : ServiceState}
  (accepted : accept context readings request = .ok grant)
  (reserved : (reserve context.policy readings grant state.store).1 = .ok ())
  (otherwise : ∀ refusal, (handle context readings request state).1 = .refused refusal →
    refusal.code ≠ .serverError)

include accepted reserved otherwise

theorem answersScope_of_narrow_eq_ok {scope : String}
    (narrowed : grant.narrow (scopeRequest request) = .ok scope) :
    AnswersScope (handle context readings request state).1 (some scope) := by
  cases ran : (issue context request readings.now grant).run state.supply with
  | mk result last =>
    obtain ⟨grants, refuses⟩ := answer_of_reserved accepted reserved ran
    cases result with
    | ok tokens => exact ⟨tokens, grants tokens rfl, scope_of_issue narrowed ran⟩
    | error cause =>
      have fails : cause.code = .serverError :=
        failsWith_issue narrowed state.supply cause last ran
      exact absurd fails (otherwise _ (refuses cause rfl))

theorem answersScope_of_narrow_eq_error {cause : Failure}
    (narrowed : grant.narrow (scopeRequest request) = .error cause) :
    AnswersScope (handle context readings request state).1 none := by
  cases ran : (issue context request readings.now grant).run state.supply with
  | mk result last =>
    obtain ⟨-, refuses⟩ := answer_of_reserved accepted reserved ran
    cases result with
    | ok tokens =>
      obtain ⟨derived, first, -, -, -, derives, -⟩ := run_issue_eq_ok_iff.mp ran
      obtain ⟨expiry, between, -, access, -, -⟩ := run_derive_eq_ok_iff.mp derives
      obtain ⟨-, -, -, -, scope, same, -⟩ := Token.run_deriveAccess_eq_ok_iff.mp access
      rw [narrowed] at same
      cases same
    | error found =>
      have notServer := otherwise _ (refuses found rfl)
      refine ⟨_, refuses found rfl, ?_, rfl⟩
      rcases issue_decided context request readings.now grant ran with decided | ⟨-, _, same, code⟩
      · obtain ⟨check, failing, code, -⟩ := decided
        have member := List.mem_of_find?_eq_some failing
        simp only [issueChecks, List.mem_cons, List.not_mem_nil, or_false] at member
        rcases member with rfl | rfl
        · exact absurd code notServer
        · exact code
      · cases same
        exact absurd code notServer

/-- **The scope parameter means what its items say**, unless it is a foreign blank: that obtains the
whole scope of the grant. -/
theorem answers_scope :
    ((∀ scope, request.scope = some scope → ¬ IsForeignBlank scope) →
      AnswersScope (handle context readings request state).1 (meantScope? request grant)) ∧
    ∀ scope, request.scope = some scope → IsForeignBlank scope →
      AnswersScope (handle context readings request state).1 (some grant.scopeText) := by
  constructor
  · intro native
    have narrowed := narrow_of_not_isForeignBlank grant native
    cases meant : meantScope? request grant with
    | some scope =>
      rw [meant] at narrowed
      exact answersScope_of_narrow_eq_ok accepted reserved otherwise narrowed
    | none =>
      rw [meant] at narrowed
      obtain ⟨extra, refused⟩ := narrowed
      exact answersScope_of_narrow_eq_error accepted reserved otherwise refused
  · intro scope sent foreign
    exact answersScope_of_narrow_eq_ok accepted reserved otherwise
      (narrow_of_isForeignBlank grant sent foreign)

end Reserved

end Answer

/-! ## A code that is redeemed for a scope -/

/-- A request of the client that presents a code and asks for a scope. -/
def codeGrantFor (scope text : String) : GrantRequest :=
  { codeGrant text with scope := some scope }

/-- The no-break space, a blank that separates no items. -/
def noBreakSpace : String := "\u00a0"

theorem toList_noBreakSpace : noBreakSpace.toList = ['\u00a0'] := rfl

theorem items_noBreakSpace : Scope.items noBreakSpace = [noBreakSpace] := by
  rw [Scope.items, toList_noBreakSpace]
  rfl

theorem isForeignBlank_noBreakSpace : IsForeignBlank noBreakSpace := by
  rw [IsForeignBlank, toList_noBreakSpace]
  simp only [List.mem_singleton, forall_eq, exists_eq_left]
  exact ⟨rfl, rfl⟩

theorem items_read : Scope.items "read" = ["read"] := rfl

theorem not_isForeignBlank_read : ¬ IsForeignBlank "read" := by
  rintro ⟨blank, -⟩
  have first := blank 'r' List.mem_cons_self
  cases first

theorem scope_readCode : Sample.readCode.scope = ["read", "write"] := by
  rw [Sample.readCode, Token.scope_stored]
  rfl

/-- Ten seconds after its issue a code yields tokens for a scope that is admitted. -/
theorem exists_granted_codeGrantFor {scope text : String}
    (issued : (issueCode Sample.context 1700000000 Sample.codeRequest Sample.state).result =
      .ok text) (within : asksWithin (codeGrantFor scope text) Sample.readCode = true) :
    accept Sample.context ⟨1700000010, 1700000010, 1700000010⟩ (codeGrantFor scope text) =
        .ok Sample.readCode ∧
      (reserve Sample.context.policy ⟨1700000010, 1700000010, 1700000010⟩ Sample.readCode
        Sample.state.store).1 = .ok () ∧
      ∃ tokens, (handle Sample.context ⟨1700000010, 1700000010, 1700000010⟩
        (codeGrantFor scope text) Sample.state).1 = .granted tokens := by
  have accepted : accept Sample.context ⟨1700000010, 1700000010, 1700000010⟩
      (codeGrantFor scope text) = .ok Sample.readCode := accept_codeGrant issued (by norm_num) rfl
  have reserved : (reserve Sample.context.policy ⟨1700000010, 1700000010, 1700000010⟩
      Sample.readCode Sample.state.store).1 = .ok () := by
    rw [Sample.readCode, reserve_stored]
    rfl
  have opened : Token.ofSealed Sample.context.ring Sample.context.sealSkew (.int 1700000010)
      .authorizationCode text = .ok Sample.readCode := Sample.ofSealed_code issued (by norm_num)
  have ready : Ready Sample.context 1700000010 Sample.readCode :=
    ready_of_issueCode Sample.exact_random isWhole_policy issued
      opened (by decide) (by decide) (by decide)
  refine ⟨accepted, reserved, (handle_of_ready ready accepted reserved within).1.mpr ?_⟩
  rw [Sample.readCode, Token.authTime_stored]
  decide

/-- A code for `read` and `write` yields `read` when asked for it. -/
theorem answers_scope_sample : ∃ text, (issueCode Sample.context 1700000000 Sample.codeRequest
      Sample.state).result = .ok text ∧
    ∃ tokens, (handle Sample.context ⟨1700000010, 1700000010, 1700000010⟩
      (codeGrantFor "read" text) Sample.state).1 = .granted tokens ∧ tokens.scope = "read" := by
  obtain ⟨text, issued⟩ := Sample.exists_issueCode
  have within : asksWithin (codeGrantFor "read" text) Sample.readCode = true := by
    simp [asksWithin, codeGrantFor, items_read, scope_readCode]
  obtain ⟨accepted, reserved, tokens, granted⟩ := exists_granted_codeGrantFor issued within
  have otherwise : ∀ refusal, (handle Sample.context ⟨1700000010, 1700000010, 1700000010⟩
      (codeGrantFor "read" text) Sample.state).1 = .refused refusal →
        refusal.code ≠ .serverError := by
    intro refusal refused
    rw [granted] at refused
    cases refused
  have meant : meantScope? (codeGrantFor "read" text) Sample.readCode = some "read" := by
    simp [meantScope?, namedItems, codeGrantFor, items_read, scope_readCode]
  have answers := (answers_scope accepted reserved otherwise).1
    fun scope sent => by cases sent; exact not_isForeignBlank_read
  rw [meant] at answers
  exact ⟨text, issued, answers⟩

/-- **A disagreement about blanks.** The no-break space is an item beyond the scope of the code, and
the code yields its whole scope for it. -/
theorem grants_whole_scope_for_foreign_blank : ∃ text, (issueCode Sample.context 1700000000
      Sample.codeRequest Sample.state).result = .ok text ∧
    accept Sample.context ⟨1700000010, 1700000010, 1700000010⟩ (codeGrantFor noBreakSpace text) =
      .ok Sample.readCode ∧
    (reserve Sample.context.policy ⟨1700000010, 1700000010, 1700000010⟩ Sample.readCode
      Sample.state.store).1 = .ok () ∧
    noBreakSpace ∈ Scope.items noBreakSpace ∧ noBreakSpace ∉ Sample.readCode.scope ∧
    ∃ tokens, (handle Sample.context ⟨1700000010, 1700000010, 1700000010⟩
      (codeGrantFor noBreakSpace text) Sample.state).1 = .granted tokens ∧
        tokens.scope = Sample.readCode.scopeText := by
  obtain ⟨text, issued⟩ := Sample.exists_issueCode
  have blank := (isForeignBlank_iff.mp isForeignBlank_noBreakSpace).1
  have within : asksWithin (codeGrantFor noBreakSpace text) Sample.readCode = true := by
    simp [asksWithin, codeGrantFor, blank]
  obtain ⟨accepted, reserved, tokens, granted⟩ := exists_granted_codeGrantFor issued within
  refine ⟨text, issued, accepted, reserved, ?_, ?_, ?_⟩
  · rw [items_noBreakSpace]
    exact List.mem_cons_self
  · rw [scope_readCode]
    decide
  · have narrowed : Sample.readCode.narrow (scopeRequest (codeGrantFor noBreakSpace text)) =
        .ok Sample.readCode.scopeText := narrow_of_isForeignBlank _ rfl isForeignBlank_noBreakSpace
    refine answersScope_of_narrow_eq_ok accepted reserved (fun refusal refused => ?_) narrowed
    rw [granted] at refused
    cases refused

end Grant
end SealedGrant
