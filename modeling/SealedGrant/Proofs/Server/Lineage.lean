import Mathlib
import SealedGrant.Proofs.Grant.Completion
import SealedGrant.Proofs.Grant.Inheritance
import SealedGrant.Proofs.Server.SingleUse

/-! # Lineage

A code and the refresh tokens that come of it are redeemed one after the other; every redemption
yields an access token and may yield the next refresh token (`SealedGrant.Server.Lineage`). However
long the chain, whatever the clock shows and whatever is asked for, its tokens continue the code
(`SealedGrant.Server.continues_of_lineage`).
-/

namespace SealedGrant

namespace Server

/-- A granted request together with the token that it redeems and the tokens that it gets. -/
structure Redemption where
  record : Record
  request : GrantRequest
  tokens : Issued
  parent : Token
  access : Token
  refresh : Option Token

namespace Redemption

/-- The tokens of a redemption are those that the texts of the request and of the answer hold. -/
structure Valid (link : Redemption) : Prop where
  granted : link.record.Grants link.request link.tokens
  redeems : ∃ kind text, Grant.grantKind? link.request = some kind ∧
    Grant.presentedText? link.request = some text ∧ link.record.Opens kind text link.parent
  access : link.record.before.context.Seals link.tokens.accessToken link.access
  refresh : Option.Rel (fun closed token => link.record.before.context.Seals closed.1 token)
    link.tokens.refresh link.refresh

/-- The tokens that a redemption yields. -/
def issued (link : Redemption) : List Token :=
  link.access :: link.refresh.toList

end Redemption

/-- Redemptions of which the first redeems a token and each later one the refresh token that the one
before it yields. -/
def Lineage (parent : Token) : List Redemption → Prop
  | [] => True
  | link :: rest => link.Valid ∧ link.parent = parent ∧
      (rest = [] ∨ ∃ refresh, link.refresh = some refresh ∧ Lineage refresh rest)

/-- A code is issued in a record: what comes of it holds the code. -/
def Record.IssuesCode (record : Record) (code : Token) : Prop :=
  ∃ request text, record.event.operation = .issueCode request ∧
    (record.before.issueCode record.event.clock request).result = .ok text ∧
    record.before.context.Seals text code

/-- How the tokens of a redemption continue a code: what they inherit, the client they are for,
their times and their scope. -/
structure Redemption.Continues (policy : Policy) (code : Token) (link : Redemption) : Prop where
  inherits : ∀ token ∈ link.issued, Token.Inherits code token
  audience : ∃ client, link.request.clientId = some client ∧ ∀ token ∈ link.issued,
    token.claims.members.get? Claim.audience.name = some (.array [.string client])
  times : ∃ now, link.record.event.clock.now = .ok now ∧
    link.access.IssuedAt now policy.accessTtl ∧
    ∀ token, link.refresh = some token → token.IssuedAt now policy.refreshTtl
  access_scope : link.access.scope ⊆ code.scope
  refresh_scope : ∀ token, link.refresh = some token → token.scopeText = code.scopeText

theorem eq_of_rel_seals {context : Context} {closed : Option (String × String)}
    {first second : Option Token}
    (left : Option.Rel (fun closed token => context.Seals closed.1 token) closed first)
    (right : Option.Rel (fun closed token => context.Seals closed.1 token) closed second) :
    first = second := by
  cases left with
  | none =>
    cases right
    rfl
  | some seals =>
    cases right with
    | some others => rw [seals.unique others]

variable {server : Server} {code : Token} {link : Redemption}

/-- **One redemption** of a token that continues a code: what it yields continues the code, and its
ids were drawn for it. -/
theorem Redemption.Valid.continues (valid : link.Valid)
    (exact : RandomSource.Exact link.record.before.context.random)
    (formed : link.parent.WellFormed) (canonical : link.parent.Canonical)
    (inherits : Token.Inherits code link.parent)
    (scope : link.parent.scopeText = code.scopeText) :
    link.Continues link.record.before.context.policy code ∧
      (∀ token, link.refresh = some token → token.WellFormed ∧ token.Canonical) ∧
      link.record.before.context.ids.Drawn link.record.before.service.supply
        (link.issued.map Token.id) link.record.after.service.supply := by
  obtain ⟨readings, grant, reads, accepted, -, ran⟩ := valid.granted.cases
  obtain ⟨_, _, -, -, identified⟩ := Grant.accept_eq_ok_iff.mp accepted
  obtain ⟨kind, text, kindEq, textEq, opens⟩ := valid.redeems
  obtain rfl := opens.eq_of_accept reads accepted kindEq textEq
  obtain ⟨access, refresh, accessSeals, refreshSeals, accessYields, within, refreshYields, drawn⟩ :=
    Grant.yields_of_issue exact canonical ran
  obtain rfl := accessSeals.unique valid.access
  obtain rfl := eq_of_rel_seals refreshSeals valid.refresh
  have yields : ∀ token ∈ link.issued, Token.Inherits link.parent token := by
    intro token member
    rcases List.mem_cons.mp member with rfl | member
    · exact accessYields.inherits
    · exact (refreshYields token (Option.mem_toList.mp member)).1.inherits
  have audience (token : Token) (member : token ∈ link.issued) :
      token.claims.members.get? Claim.audience.name =
        some (.array [.string link.parent.clientId]) := by
    rw [(yields token member).members .audience (by decide), Token.get?_audience formed]
  refine ⟨⟨fun token member => inherits.trans (yields token member),
    ⟨_, (Grant.identify_eq_ok_iff.mp identified).client, audience⟩,
    ⟨readings.now, (Event.shown_of_readings reads).1, accessYields.times,
      fun token same => (refreshYields token same).1.times⟩, ?_,
    fun token same => (refreshYields token same).2.trans scope⟩,
    fun token same => ⟨(refreshYields token same).1.formed, (refreshYields token same).1.canonical⟩,
    drawn⟩
  have sameScope : link.parent.scope = code.scope := congrArg Scope.items scope
  rwa [sameScope] at within

/-- A request whose grant is ready, reserved and young enough is granted. -/
theorem Record.exists_grants {record : Record} {request : GrantRequest}
    (same : record.event.operation = .handle request) {readings : Readings}
    (reads : record.event.clock.readings = .ok readings) {grant : Token}
    (ready : Grant.Ready record.before.context readings.now grant)
    (accepted : Grant.accept record.before.context readings request = .ok grant)
    (reserved : (Grant.reserve record.before.context.policy readings grant
      record.before.service.store).1 = .ok ())
    (within : Grant.asksWithin request grant = true)
    (authenticated : grant.authTime ≤ readings.now) :
    ∃ tokens, record.Grants request tokens := by
  obtain ⟨tokens, granted⟩ :=
    (Grant.handle_of_ready ready accepted reserved within).1.mpr authenticated
  exact ⟨tokens, same, by rw [Record.result_eq reads, granted]⟩

/-- A granted request is a redemption of the token that its text opens as. -/
theorem Record.Grants.exists_valid {record : Record} {request : GrantRequest} {tokens : Issued}
    (granted : record.Grants request tokens)
    (exact : RandomSource.Exact record.before.context.random) {readings : Readings}
    (reads : record.event.clock.readings = .ok readings) {parent : Token}
    (accepted : Grant.accept record.before.context readings request = .ok parent)
    (canonical : parent.Canonical) :
    ∃ link : Redemption, link.Valid ∧ link.record = record ∧ link.parent = parent := by
  obtain ⟨found, _, readsFound, acceptedFound, -, ran⟩ := granted.cases
  obtain rfl := Except.ok.inj (readsFound.symm.trans reads)
  rw [accepted] at acceptedFound
  cases acceptedFound
  obtain ⟨access, refresh, accessSeals, refreshSeals, -⟩ :=
    Grant.yields_of_issue exact canonical ran
  exact ⟨⟨record, request, tokens, parent, access, refresh⟩,
    ⟨granted, Record.opens_of_accept reads accepted, accessSeals, refreshSeals⟩, rfl, rfl⟩

/-- A record that issues a code: the code was checked, is canonical and has an id drawn for it. -/
theorem Record.IssuesCode.cases {record : Record} (issued : record.IssuesCode code)
    (exact : RandomSource.Exact record.before.context.random) :
    code.WellFormed ∧ code.Canonical ∧
      record.before.context.ids.Drawn record.before.service.supply [code.id]
        record.after.service.supply := by
  obtain ⟨request, text, operation, result, seals⟩ := issued
  obtain ⟨server, clock, _⟩ := record
  simp only at operation result
  subst operation
  cases reads : clock.now with
  | error cause =>
    rw [issueCode, reads] at result
    cases result
  | ok now =>
  rw [Record.after, step_issueCode_of_now reads]
  rw [issueCode_eq reads] at result
  obtain ⟨minted, between, last, mint, closed⟩ := Grant.issueCode_eq_ok_iff.mp result
  have formed := (Grant.wellFormed_of_mintCode mint).1
  obtain rfl := seals.unique (Context.seals_of_sealed exact formed closed)
  refine ⟨Token.wellFormed_stored formed, Token.canonical_stored formed, server.service.supply,
    Supply.Reaches.refl _, ?_, ?_⟩
  · rw [Token.id_stored, (Grant.id_of_mintCode mint).1]
  · have grown := Grant.reaches_issueCode_of_mintCode mint
    rwa [(Grant.id_of_mintCode mint).2] at grown

/-- A code that was minted and sealed is issued in the record, as it is read back. -/
theorem Record.issuesCode (record : Record) {request : Grant.CodeRequest}
    (same : record.event.operation = .issueCode request) {now : ℤ}
    (reads : record.event.clock.now = .ok now)
    (exact : RandomSource.Exact record.before.context.random) {text : String}
    (issued : (Grant.issueCode record.before.context now request record.before.service).result =
      .ok text) {last : Supply}
    (minted : (Grant.mintCode record.before.context now request).run record.before.service.supply =
      (.ok code, last)) (formed : code.WellFormed) : record.IssuesCode (code.stored formed) := by
  refine ⟨request, text, same, by rw [issueCode_eq reads, issued], ?_⟩
  obtain ⟨found, between, final, mint, closed⟩ := Grant.issueCode_eq_ok_iff.mp issued
  rw [minted] at mint
  cases mint
  exact Context.seals_of_sealed exact formed closed

/-! ## Along a run -/

/-- The induction along a chain: what its first token shares with the code, all its tokens share
with the code, and their ids were drawn one after the other. -/
theorem continues_of_lineage_of_parent (exact : RandomSource.Exact server.context.random)
    {chain : List Redemption} {parent : Token} {start : Supply}
    (contexts : ∀ link ∈ chain, ∃ ring, link.record.before.context = { server.context with ring })
    (order : (chain.map Redemption.record).Pairwise fun first later =>
      first.after.service.supply.Reaches later.before.service.supply)
    (after : ∀ link ∈ chain, start.Reaches link.record.before.service.supply)
    (formed : parent.WellFormed) (canonical : parent.Canonical)
    (inherits : Token.Inherits code parent) (scope : parent.scopeText = code.scopeText)
    (linked : Lineage parent chain) :
    (∀ link ∈ chain, link.Continues server.context.policy code) ∧
      ∃ last, server.context.ids.Drawn start
        (chain.flatMap fun link => link.issued.map Token.id) last := by
  induction chain generalizing parent start with
  | nil => exact ⟨fun _ member => absurd member List.not_mem_nil, start, Supply.Reaches.refl _⟩
  | cons link rest ih =>
    obtain ⟨valid, rfl, ends⟩ := linked
    obtain ⟨ring, context⟩ := contexts link List.mem_cons_self
    rw [List.map_cons, List.pairwise_cons] at order
    have exactHere : RandomSource.Exact link.record.before.context.random := by
      rw [context]
      exact exact
    obtain ⟨continues, refreshes, drawn⟩ :=
      valid.continues exactHere formed canonical inherits scope
    rw [context] at continues drawn
    have first := drawn.of_reaches (after link List.mem_cons_self)
    rcases ends with rfl | ⟨refresh, same, linked⟩
    · exact ⟨List.forall_mem_singleton.mpr continues, _, by simpa using first⟩
    · obtain ⟨refreshFormed, refreshCanonical⟩ := refreshes refresh same
      have refreshInherits := continues.inherits refresh
        (List.mem_cons_of_mem _ (Option.mem_toList.mpr same))
      have later : ∀ next ∈ rest, link.record.after.service.supply.Reaches
          next.record.before.service.supply :=
        fun next member => order.1 next.record (List.mem_map_of_mem member)
      obtain ⟨restContinues, last, restDrawn⟩ :=
        ih (fun next member => contexts next (List.mem_cons_of_mem _ member)) order.2 later
          refreshFormed refreshCanonical refreshInherits (continues.refresh_scope refresh same)
          linked
      exact ⟨List.forall_mem_cons.mpr ⟨continues, restContinues⟩, last, first.append restDrawn⟩

/-- **The lineage of every issued token.** In a chain of redemptions that starts from an issued code
all tokens continue the code; the ids of the code and of all of them differ when the source of ids
never repeats one. -/
theorem continues_of_lineage (exact : RandomSource.Exact server.context.random)
    {events : List Event} {start : Record} {chain : List Redemption}
    (along : (start :: chain.map Redemption.record).Sublist (server.records events))
    (issued : start.IssuesCode code) (linked : Lineage code chain) :
    (∀ link ∈ chain, link.Continues server.context.policy code) ∧
      (server.context.ids.NeverRepeats →
        (code.id :: chain.flatMap fun link => link.issued.map Token.id).Nodup) := by
  have contexts : ∀ record ∈ start :: chain.map Redemption.record,
      ∃ ring, record.before.context = { server.context with ring } :=
    fun record member => context_of_mem_records (along.subset member)
  have order := List.pairwise_cons.mp ((pairwise_reaches server events).sublist along)
  obtain ⟨ring, context⟩ := contexts start List.mem_cons_self
  have exactHere : RandomSource.Exact start.before.context.random := by
    rw [context]
    exact exact
  obtain ⟨formed, canonical, drawn⟩ := issued.cases exactHere
  rw [context] at drawn
  obtain ⟨continues, last, chainDrawn⟩ := continues_of_lineage_of_parent exact
    (fun link member => contexts link.record
      (List.mem_cons_of_mem _ (List.mem_map_of_mem member))) order.2
    (fun link member => order.1 link.record (List.mem_map_of_mem member)) formed canonical
    (Token.Inherits.refl code) rfl linked
  exact ⟨continues, fun fresh => (drawn.append chainDrawn).nodup fresh⟩

/-- A code is issued and redeemed ten seconds later. -/
def issueAndRedeem (text : String) : List Event :=
  [⟨.still 1700000000, .issueCode Sample.codeRequest⟩,
    ⟨.still 1700000010, .handle (Grant.codeGrant text)⟩]

/-- The record of the issue. -/
def issueRecord : Record := ⟨sample, ⟨.still 1700000000, .issueCode Sample.codeRequest⟩⟩

theorem issuesCode_issueRecord {text : String} (issued : (Grant.issueCode Sample.context 1700000000
    Sample.codeRequest Sample.state).result = .ok text) :
    issueRecord.IssuesCode Sample.readCode := by
  have minted : (Grant.mintCode issueRecord.before.context 1700000000 Sample.codeRequest).run
      issueRecord.before.service.supply = (.ok Sample.code, ⟨1, 0⟩) := Sample.run_mintCode
  exact issueRecord.issuesCode rfl rfl Sample.exact_random issued minted Sample.wellFormed_code

/-- The record of the redemption. -/
def redeemRecord (text : String) : Record :=
  ⟨issueRecord.after, ⟨.still 1700000010, .handle (Grant.codeGrant text)⟩⟩

theorem after_issueRecord : issueRecord.after = { sample with
    service :=
      (Grant.issueCode Sample.context 1700000000 Sample.codeRequest Sample.state).state } :=
  step_issueCode_of_now rfl Sample.codeRequest

theorem store_issueRecord : issueRecord.after.service.store = .memory [] := by
  rw [after_issueRecord, Grant.store_issueCode]
  rfl

theorem context_redeemRecord (text : String) :
    (redeemRecord text).before.context = Sample.context :=
  congrArg context after_issueRecord

theorem accept_redeemRecord {text : String} (issued : (Grant.issueCode Sample.context 1700000000
    Sample.codeRequest Sample.state).result = .ok text) :
    Grant.accept (redeemRecord text).before.context (readingsAt 1700000010)
      (Grant.codeGrant text) = .ok Sample.readCode := by
  have identified : Grant.identify Sample.context.policy (Grant.codeGrant text) 1700000010
      Sample.code = .ok () := rfl
  rw [context_redeemRecord]
  exact Grant.accept_codeGrant issued (by norm_num) identified

theorem exists_grants_redeemRecord {text : String} (issued : (Grant.issueCode Sample.context
    1700000000 Sample.codeRequest Sample.state).result = .ok text) :
    ∃ tokens, (redeemRecord text).Grants (Grant.codeGrant text) tokens := by
  have opened : Token.ofSealed Sample.context.ring Sample.context.sealSkew (.int 1700000010)
      .authorizationCode text = .ok Sample.readCode := Sample.ofSealed_code issued (by norm_num)
  have ready : Grant.Ready Sample.context 1700000010 Sample.readCode :=
    Grant.ready_of_issueCode Sample.exact_random Grant.isWhole_policy issued opened (by decide)
      (by decide) (by decide)
  have reserved : (Grant.reserve Sample.context.policy (readingsAt 1700000010) Sample.readCode
      issueRecord.after.service.store).1 = .ok () := by
    rw [store_issueRecord, Sample.readCode, Grant.reserve_stored]
    rfl
  have authenticated : Sample.readCode.authTime ≤ 1700000010 := by
    rw [Sample.readCode, Token.authTime_stored]
    decide
  exact (redeemRecord text).exists_grants rfl rfl (by rwa [context_redeemRecord])
    (accept_redeemRecord issued) (by rwa [context_redeemRecord]) rfl authenticated

theorem continues_of_lineage_sample : ∃ (text : String) (link : Redemption),
    (issueRecord :: [link].map Redemption.record).Sublist (sample.records (issueAndRedeem text)) ∧
      Lineage Sample.readCode [link] ∧ link.Continues sample.context.policy Sample.readCode ∧
      (Sample.readCode.id :: [link].flatMap fun link => link.issued.map Token.id).Nodup := by
  obtain ⟨text, issued⟩ := Sample.exists_issueCode
  obtain ⟨tokens, granted⟩ := exists_grants_redeemRecord issued
  obtain ⟨link, valid, same, parent⟩ := granted.exists_valid Sample.exact_random rfl
    (accept_redeemRecord issued) (Token.canonical_stored Sample.wellFormed_code)
  have along : (issueRecord :: [link].map Redemption.record).Sublist
      (sample.records (issueAndRedeem text)) := by
    rw [List.map_singleton, same]
    exact List.Sublist.refl _
  have linked : Lineage Sample.readCode [link] := ⟨valid, parent, Or.inl rfl⟩
  have exact : RandomSource.Exact sample.context.random := Sample.exact_random
  have lineage := continues_of_lineage exact along (issuesCode_issueRecord issued) linked
  exact ⟨text, link, along, linked, lineage.1 link (List.mem_singleton_self _),
    lineage.2 IdSource.neverRepeats_numbered⟩

end Server
end SealedGrant
