import Mathlib
import SealedGrant.Proofs.Grant.Inheritance
import SealedGrant.Proofs.Text.Blank
import SealedGrant.Proofs.Token.Serialization

/-! # Scopes along a chain of tokens

A token is minted with the first occurrences of the items that its scope names
(`SealedGrant.Token.firstOccurrences_of_mint`). Along a chain of derivations the scope is written
and read once more with every token. What it is made of then are the first occurrences of the items
that were named last, and never an item that the origin does not have
(`SealedGrant.Token.ComesOf.keepsScope`). So the items are the same at the end of every chain on
which no request leaves one out (`SealedGrant.Token.KeepsScope.perm`).
-/

namespace SealedGrant

/-- A request that leaves out no item of a scope and names no other: it inherits the scope, or names
all of it in any order. -/
def ScopeRequest.AsksForAll (request : ScopeRequest) (scope : List String) : Prop :=
  ∀ item, item ∈ request.listed scope ↔ item ∈ scope

/-- What requests, the latest first, make of a scope when each of them asks for all of it. -/
theorem ScopeRequest.mem_foldr_listed_iff {requests : List ScopeRequest} {scope : List String}
    (all : ∀ request ∈ requests, request.AsksForAll scope) (item : String) :
    item ∈ requests.foldr ScopeRequest.listed scope ↔ item ∈ scope := by
  induction requests with
  | nil => rfl
  | cons request earlier ih =>
    obtain ⟨latest, others⟩ := List.forall_mem_cons.mp all
    rw [List.foldr_cons]
    cases request with
    | inherit => exact ih others
    | text scope => exact latest item
    | items scope => exact latest item

namespace Token

variable {origin parent token : Token} {request : ScopeRequest} {requests : List ScopeRequest}

/-! ## Minting -/

/-- Elements that are all read as texts are these texts. -/
theorem eq_map_of_mapM_string? {elements : List Json} {texts : List String}
    (read : elements.mapM Json.string? = some texts) : elements = texts.map .string := by
  induction elements generalizing texts with
  | nil =>
    cases read
    rfl
  | cons element rest ih =>
    rw [List.mapM_cons, Option.bind_eq_bind, Option.bind_eq_some_iff] at read
    obtain ⟨text, first, read⟩ := read
    rw [Option.bind_eq_bind, Option.bind_eq_some_iff] at read
    obtain ⟨others, later, same⟩ := read
    cases same
    rw [ih later, List.map_cons]
    cases element with
    | string found =>
      cases first
      rfl
    | null => cases first
    | bool value => cases first
    | number n => cases first
    | array items => cases first
    | object members => cases first

/-- Filled texts are read as they are, and empty ones are left out. -/
theorem mapM_filled {read : Json → Except Failure String}
    (reads : ∀ text, read (.string text) = .ok text) (texts : List String) :
    ((texts.map Json.string).filter fun item => !item.isEmpty).mapM read =
      .ok (texts.filter (· ≠ "")) := by
  induction texts with
  | nil => rfl
  | cons text rest ih =>
    rw [List.map_cons]
    by_cases empty : text = ""
    · subst empty
      exact ih
    · have filled : (!(Json.string text).isEmpty) = true := by simpa [Json.isEmpty] using empty
      rw [List.filter_cons_of_pos (p := fun item : Json => !item.isEmpty) filled,
        List.filter_cons_of_pos (by simpa using empty), List.mapM_cons, reads, ih]
      rfl

/-- A collection of texts is written as the text of these items. -/
theorem scopeInput_of_elements {input : Json} (other : ∀ text, input ≠ .string text)
    {texts : List String} (walked : ClaimSet.elements input = .ok (texts.map .string)) :
    scopeInput input = .ok (Scope.text texts) := by
  unfold scopeInput
  split
  · next text => exact absurd rfl (other text)
  · rw [walked]
    simp only [bind, Except.bind]
    rw [mapM_filled fun _ => rfl]
    exact congrArg Except.ok (Scope.text_filter texts)

/-- What a request is read of: null, a text, or a collection of texts. -/
theorem cases_of_ofJson {input : Json} (read : ScopeRequest.ofJson input = .ok request) :
    (input = .null ∧ request = .inherit) ∨ (∃ text, input = .string text ∧ request = .text text) ∨
      ∃ texts, (∀ text, input ≠ .string text) ∧
        ClaimSet.elements input = .ok (texts.map .string) ∧ request = .items texts := by
  unfold ScopeRequest.ofJson at read
  split at read
  · cases read
    exact .inl ⟨rfl, rfl⟩
  · cases read
    exact .inr (.inl ⟨_, rfl, rfl⟩)
  · next other =>
    cases walked : ClaimSet.elements input with
    | error cause =>
      rw [walked] at read
      cases read
    | ok elements =>
      rw [walked] at read
      cases named : elements.mapM Json.string? with
      | none =>
        simp only [bind, Except.bind, named] at read
        cases read
      | some texts =>
        simp only [bind, Except.bind, named] at read
        cases read
        rw [eq_map_of_mapM_string? named]
        exact .inr (.inr ⟨texts, other, rfl, rfl⟩)

/-- An input that names items is written as the text of these items. -/
theorem eq_text_of_scopeInput {input : Json} {scope : String}
    (read : ScopeRequest.ofJson input = .ok request) (normal : scopeInput input = .ok scope) :
    scope = Scope.text request.asked := by
  rcases cases_of_ofJson read with ⟨rfl, rfl⟩ | ⟨text, rfl, rfl⟩ | ⟨texts, other, walked, rfl⟩
  · cases normal
  · cases normal
    rfl
  · rw [scopeInput_of_elements other walked] at normal
    cases normal
    rfl

/-- **A minted token has the items that its scope input names**: the first occurrences of those
that are filled. -/
theorem firstOccurrences_of_mint {ids : Option IdSource} {kind : TokenKind}
    {input : TokenRequest} {options : TokenOptions} {supply last : Supply}
    (ran : (mint ids kind input options).run supply = (.ok token, last))
    (read : ScopeRequest.ofJson input.scope = .ok request)
    (solid : ∀ item ∈ request.asked, Scope.IsSolid item) :
    Scope.FirstOccurrences (request.asked.filter (· ≠ "")) token.scope := by
  obtain ⟨id, scope, normal, built⟩ := exists_build_of_mint ran
  obtain ⟨-, claims, -, -⟩ := build_eq_ok_iff.mp built
  have text : token.scopeText = scope := by
    apply scopeText_of_get?
    rw [claims]
    rfl
  rw [Token.scope, text, eq_text_of_scopeInput read normal]
  exact Scope.firstOccurrences_items_text solid

/-! ## Chains -/

/-- A token that is derived from another one with a request for a scope. -/
inductive IsChildFor (parent : Token) (request : ScopeRequest) (token : Token) : Prop where
  | access (life : Lifetime) (ids : Option IdSource) (withAcr : Bool) (supply last : Supply)
      (ran : (parent.deriveAccess request life ids withAcr).run supply = (.ok token, last))
  | refresh (life : Lifetime) (ids : Option IdSource) (supply last : Supply)
      (ran : (parent.deriveRefresh request life ids).run supply = (.ok token, last))

theorem IsChildFor.isChild (child : IsChildFor parent request token) : IsChild parent token := by
  cases child with
  | access life ids withAcr supply last ran =>
    exact .access request life ids withAcr supply last ran
  | refresh life ids supply last ran => exact .refresh request life ids supply last ran

theorem IsChildFor.of_deriveRefresh {life : Lifetime} {ids : Option IdSource} {supply : Supply}
    (made : ((parent.deriveRefresh request life ids).run supply).1 = .ok token) :
    IsChildFor parent request token :=
  .refresh life ids supply _ (Prod.ext made rfl)

/-- A child has the scope that the request was narrowed to. -/
theorem IsChildFor.narrow_eq_ok (child : IsChildFor parent request token) :
    parent.narrow request = .ok token.scopeText := by
  cases child with
  | access life ids withAcr supply last ran =>
    obtain ⟨id, scope, narrowed, built⟩ := exists_build_of_deriveAccess ran
    rw [List.append_assoc] at built
    rw [narrowed, scopeText_of_build built]
  | refresh life ids supply last ran =>
    obtain ⟨id, scope, narrowed, built⟩ := exists_build_of_deriveRefresh ran
    rw [narrowed, scopeText_of_build built]

/-- **A chain of tokens.** Each is derived from the one before it, with requests of which the latest
stands first, and may be written and read back before the next is derived from it. -/
inductive ComesOf (origin : Token) : List ScopeRequest → Token → Prop where
  | itself : ComesOf origin [] origin
  | derived {requests : List ScopeRequest} {parent token : Token} {request : ScopeRequest}
      (came : ComesOf origin requests parent) (child : IsChildFor parent request token) :
      ComesOf origin (request :: requests) token
  | readBack {requests : List ScopeRequest} {parent token : Token} {text : String}
      {kind : TokenKind} (came : ComesOf origin requests parent)
      (written : parent.serialize = .ok text)
      (read : readBytes kind (Utf8.encode text) = .ok token) : ComesOf origin requests token

/-- What a chain makes of the scope of its origin: what the requests make of it, each item once, and
nothing beyond it. -/
structure KeepsScope (origin : Token) (requests : List ScopeRequest) (token : Token) : Prop where
  checked : token.WellFormed
  firsts : Scope.FirstOccurrences (requests.foldr ScopeRequest.listed origin.scope) token.scope
  within : token.scope ⊆ origin.scope

/-- One derivation makes of a scope what its request makes of it. -/
theorem KeepsScope.derived (keeps : KeepsScope origin requests parent)
    (child : IsChildFor parent request token) : KeepsScope origin (request :: requests) token where
  checked := child.isChild.wellFormed
  firsts := by
    have asked := firstOccurrences_of_narrow child.narrow_eq_ok
    -- only a request that inherits leaves the answer to the earlier ones
    cases request with
    | inherit =>
      have same : parent.scope = token.scope :=
        (Scope.eraseDups_of_nodup (Scope.nodup_items _)).symm.trans
          (Scope.firstOccurrences_iff.mp asked)
      rw [← same]
      exact keeps.firsts
    | text scope => exact asked
    | items scope => exact asked
  within := List.Subset.trans (items_subset_of_narrow child.narrow_eq_ok) keeps.within

/-- Writing a token and reading it back changes no scope. -/
theorem KeepsScope.readBack (keeps : KeepsScope origin requests parent) {text : String}
    {kind : TokenKind} (written : parent.serialize = .ok text)
    (read : readBytes kind (Utf8.encode text) = .ok token) : KeepsScope origin requests token := by
  by_cases same : parent.kind = kind
  · subst same
    rw [readBytes_serialize keeps.checked written] at read
    cases read
    refine ⟨wellFormed_stored keeps.checked, ?_, ?_⟩
    · rw [scope_stored]
      exact keeps.firsts
    · rw [scope_stored]
      exact keeps.within
  · obtain ⟨found, refused⟩ := readBytes_serialize_of_ne keeps.checked written same
    rw [refused] at read
    cases read

/-- **Every chain keeps its scope.** -/
theorem ComesOf.keepsScope (formed : origin.WellFormed) (came : ComesOf origin requests token) :
    KeepsScope origin requests token := by
  induction came with
  | itself =>
    exact ⟨formed, Scope.firstOccurrences_of_nodup (Scope.nodup_items _), List.Subset.refl _⟩
  | derived _ child ih => exact ih.derived child
  | readBack _ written read ih => exact ih.readBack written read

/-- Where every request asks for all of the scope, the last token has its items, each once. -/
theorem KeepsScope.perm (keeps : KeepsScope origin requests token)
    (all : ∀ request ∈ requests, request.AsksForAll origin.scope) :
    token.scope.Perm origin.scope :=
  (List.perm_ext_iff_of_nodup (Scope.nodup_items _) (Scope.nodup_items _)).mpr fun item =>
    (keeps.firsts.mem_iff item).trans (ScopeRequest.mem_foldr_listed_iff all item)

/-- **Scopes have a normal form, and every chain of tokens keeps it.** Six characters separate
items. What is read of a text is the one list of filled items without blanks that are the first
occurrences of its words, and it is read again however often it is written. Items without blanks
that are written are read as the first occurrences of the filled ones, and so is the scope that a
token is minted with. A request within a token's scope is granted, and read as it was asked for.
From any checked token, derivations, each of which writes a scope and reads one, keep all items as
long as no request leaves one out, and otherwise those that were named last. -/
theorem scopes_are_kept :
    (∀ c, Text.isAsciiBlank c = true ↔ c ∈ [' ', '\t', '\n', '\r', '\x0c', '\x0b']) ∧
    (∀ scope list, Scope.items scope = list ↔ Scope.Reads scope list) ∧
    (∀ scope, Scope.items (Scope.text (Scope.items scope)) = Scope.items scope ∧
      ∀ times, Scope.items (Scope.normalize^[times] scope) = Scope.items scope) ∧
    (∀ list : List String, (∀ item ∈ list, Scope.IsSolid item) →
      Scope.FirstOccurrences (list.filter (· ≠ "")) (Scope.items (Scope.text list))) ∧
    (∀ ids kind (input : TokenRequest) options supply last token request,
      (mint ids kind input options).run supply = (.ok token, last) →
      ScopeRequest.ofJson input.scope = .ok request →
      (∀ item ∈ request.asked, Scope.IsSolid item) →
        Scope.FirstOccurrences (request.asked.filter (· ≠ "")) token.scope) ∧
    (∀ (token : Token) (request : ScopeRequest), (∀ item ∈ request.asked, item ∈ token.scope) →
      ∃ scope, token.narrow request = .ok scope ∧
        Scope.FirstOccurrences (request.listed token.scope) (Scope.items scope)) ∧
    ∀ origin : Token, origin.WellFormed → ∀ requests token, ComesOf origin requests token →
      KeepsScope origin requests token ∧
        ((∀ request ∈ requests, request.AsksForAll origin.scope) →
          token.scope.Perm origin.scope) := by
  refine ⟨fun _ => Text.isAsciiBlank_iff, fun _ _ => Scope.items_eq_iff_reads, ?_,
    fun _ => Scope.firstOccurrences_items_text,
    fun _ _ _ _ _ _ _ _ => firstOccurrences_of_mint, ?_, ?_⟩
  · exact fun scope => ⟨Scope.items_text_items scope, Scope.items_iterate_normalize scope⟩
  · intro token request within
    have narrowed : token.narrow request = .ok (request.granted token) := narrow_eq_ok within
    exact ⟨_, narrowed, firstOccurrences_of_narrow narrowed⟩
  · intro origin formed requests token came
    have keeps := came.keepsScope formed
    exact ⟨keeps, keeps.perm⟩

/-- A refresh token of the code, asked for with all of its scope in another order and with other
blanks, is written and read back. -/
theorem exists_comesOf_code :
    ∃ token, ComesOf Sample.code [.text "\twrite  read\nwrite"] token := by
  have nowShort : 1700000010 < 10 ^ Text.digitLimit := lt_pow_digitLimit (by norm_num)
  have expiresShort : 1700000020 < 10 ^ Text.digitLimit := lt_pow_digitLimit (by norm_num)
  have decides : Decides Sample.code .refreshToken (.text "\twrite  read\nwrite")
      (IdSource.numbered.next .fresh) 1700000010 1700000020 ["acr"] _ :=
    decides_derived suits_refreshToken Sample.wellFormed_code nowShort expiresShort
      (acrAlways_eq_carried Sample.wellFormed_code)
  obtain ⟨child, made, -⟩ :=
    decides.granted (by decide) (by decide) (by decide) (by decide)
  rw [← deriveRefresh_eq_derived] at made
  have derived := IsChildFor.of_deriveRefresh made
  have finite : child.IsFinite := derived.isChild.isFinite Sample.wellFormed_code rfl
  obtain ⟨text, written⟩ := (exists_serialize_iff derived.isChild.wellFormed).mpr finite
  exact ⟨_, .readBack (.derived .itself derived) written
    (readBytes_serialize derived.isChild.wellFormed written)⟩

theorem asksForAll_code :
    ScopeRequest.AsksForAll (.text "\twrite  read\nwrite") Sample.code.scope := by
  have asked : (ScopeRequest.text "\twrite  read\nwrite").listed Sample.code.scope =
      ["write", "read"] := rfl
  have granted : Sample.code.scope = ["read", "write"] := rfl
  intro item
  rw [asked, granted]
  simp [or_comm]

/-- A list with an empty and a repeated item, a token that is minted with two items, one of them
asked of a code twice, and a chain from the code that keeps both. -/
theorem scopes_are_kept_sample :
    Scope.FirstOccurrences ["write", "read", "write"]
      (Scope.items (Scope.text ["write", "", "read", "write"])) ∧
    Scope.FirstOccurrences ["read", "write"] Sample.accessToken.scope ∧
    (∃ scope, Sample.code.narrow (.items ["write", "write"]) = .ok scope ∧
      Scope.FirstOccurrences ["write", "write"] (Scope.items scope)) ∧
    ∃ token, ComesOf Sample.code [.text "\twrite  read\nwrite"] token ∧
      token.scope.Perm ["read", "write"] := by
  obtain ⟨-, -, -, written, minted, granted, chains⟩ := scopes_are_kept
  obtain ⟨token, came⟩ := exists_comesOf_code
  have solid : ∀ item ∈ ["write", "", "read", "write"], Scope.IsSolid item := by
    simp [Scope.IsSolid, Text.isAsciiBlank]
  refine ⟨written _ solid, ?_, granted _ (.items ["write", "write"]) (by decide), token, came, ?_⟩
  · exact minted _ _ _ _ _ _ _ (.text "read write") Sample.run_mint_accessToken rfl
      fun _ member => Scope.isSolid_of_mem_items member
  · exact (chains _ Sample.wellFormed_code _ _ came).2
      (List.forall_mem_singleton.mpr asksForAll_code)

end Token
end SealedGrant
