import Mathlib
import SealedGrant.Client.Credentials
import SealedGrant.Http.Delivery
import SealedGrant.Proofs.Codec.Base64Padded
import SealedGrant.Proofs.Text.Blank
import SealedGrant.Proofs.Text.Percent

/-! # Basic headers

A Basic header is the scheme in any case, a space and a payload, with blanks around them
(`SealedGrant.Credentials.IsBasic`). Reading it fails for a payload that is not ASCII, and for no
other header (`SealedGrant.Credentials.parseBasic_eq_error_iff`). A client's id and secret in the
form encoding are read back, except that the plus signs which stand for spaces stay plus signs
(`SealedGrant.Credentials.reads_form_encoded`).
-/

namespace SealedGrant.Credentials

open Text (isBlank IsTrimmed)

/-- **A Basic header has a payload**: what follows the scheme and its space, without the blanks
around it. -/
def IsBasic (header : String) (payload : List Char) : Prop :=
  ∃ before scheme between after : List Char,
    header.toList = before ++ (scheme ++ (between ++ payload)) ++ after ∧
      (∀ c ∈ before, isBlank c = true) ∧ (∀ c ∈ between, isBlank c = true) ∧
      (∀ c ∈ after, isBlank c = true) ∧ scheme.map Text.asciiLower = basicScheme ∧
      payload ≠ [] ∧ IsTrimmed isBlank payload

/-- What a payload says. -/
def readPayload (payload : List Char) : Except Failure (Option (String × String)) :=
  if payload.any fun c => 0x80 ≤ c.toNat then .error (.defect .base64NotAscii)
  else .ok (((Base64.decodePadded? (String.ofList payload)).bind Utf8.decode?).bind ofPair?)

/-- The scheme begins with a letter, so a header is trimmed from its scheme on. -/
theorem isTrimmed_append {scheme rest : List Char}
    (same : scheme.map Text.asciiLower = basicScheme) (filled : rest ≠ [])
    (last : isBlank (rest.getLast filled) = false) : IsTrimmed isBlank (scheme ++ rest) := by
  cases scheme with
  | nil => cases same
  | cons first others =>
    have letter : Text.asciiLower first = 'b' := (List.cons.inj same).1
    refine fun _ => ⟨?_, ?_⟩
    · change isBlank first = false
      rw [← Text.isBlank_asciiLower, letter]
      rfl
    · rwa [List.getLast_append_of_ne_nil _ filled]

/-- The scheme ends with a space, so it is trimmed unless something else than blanks follows. -/
theorem isBlank_getLast_append {scheme rest : List Char}
    (same : scheme.map Text.asciiLower = basicScheme) (blank : ∀ c ∈ rest, isBlank c = true)
    (filled : scheme ++ rest ≠ []) : isBlank ((scheme ++ rest).getLast filled) = true := by
  cases rest with
  | nil =>
    simp only [List.append_nil] at filled ⊢
    have lower : scheme.map Text.asciiLower ≠ [] := by simpa using filled
    have space : (scheme.map Text.asciiLower).getLast lower = ' ' := by
      simp only [same]
      rfl
    rw [List.getLast_map] at space
    rw [← Text.isBlank_asciiLower, space]
    rfl
  | cons c others =>
    rw [List.getLast_append_of_ne_nil filled (List.cons_ne_nil c others)]
    exact blank _ (List.getLast_mem _)

variable {header : String} {payload : List Char}

/-- **A Basic header is read as its payload says.** -/
theorem parseBasic_of_isBasic (basic : IsBasic header payload) :
    parseBasic header = readPayload payload := by
  obtain ⟨before, scheme, between, after, parts, first, middle, last, same, filled, trimmed⟩ :=
    basic
  have long : scheme.length = basicScheme.length := by rw [← same, List.length_map]
  have kept : between ++ payload ≠ [] := List.append_ne_nil_of_right_ne_nil _ filled
  have bare : Text.trim header = String.ofList (scheme ++ (between ++ payload)) := by
    rw [Text.trim, parts, Text.trimBy_append first last]
    refine isTrimmed_append same kept ?_
    rw [List.getLast_append_of_ne_nil _ filled]
    exact (trimmed filled).2
  have inner : Text.trim (String.ofList (between ++ payload)) = String.ofList payload := by
    have alone := Text.trimBy_append middle (List.forall_mem_nil _) trimmed
    rw [List.append_nil] at alone
    rw [Text.trim, String.toList_ofList, alone]
  unfold parseBasic readPayload
  dsimp only
  rw [bare, String.toList_ofList, List.map_append, same, List.take_left, if_pos rfl, ← long,
    List.drop_left, inner, String.toList_ofList]

/-- Any other header is no Basic header. -/
theorem parseBasic_of_not (other : ∀ payload, ¬ IsBasic header payload) :
    parseBasic header = .ok none := by
  unfold parseBasic
  dsimp only
  refine if_neg fun same => ?_
  obtain ⟨before, after, parts, first, last⟩ := Text.exists_trimBy isBlank header.toList
  have bareTrimmed : IsTrimmed isBlank (Text.trimBy isBlank header.toList) := Text.isTrimmed_trimBy
  rw [Text.trim, String.toList_ofList, ← List.map_take] at same
  generalize Text.trimBy isBlank header.toList = bare at parts bareTrimmed same
  obtain ⟨between, later, restParts, middle, tail⟩ :=
    Text.exists_trimBy isBlank (bare.drop basicScheme.length)
  refine other (Text.trimBy isBlank (bare.drop basicScheme.length)) ⟨before,
    bare.take basicScheme.length, between, later ++ after, ?_, first, middle,
    List.forall_mem_append.mpr ⟨tail, last⟩, same, fun empty => ?_, Text.isTrimmed_trimBy⟩
  · rw [parts]
    nth_rewrite 1 [← List.take_append_drop basicScheme.length bare]
    nth_rewrite 1 [restParts]
    simp only [List.append_assoc]
  · -- with an empty payload the header would end with a blank, which trimming drops
    have blank : ∀ c ∈ bare.drop basicScheme.length, isBlank c = true := by
      rw [restParts, empty, List.append_nil]
      exact List.forall_mem_append.mpr ⟨middle, tail⟩
    have filled : bare ≠ [] := by
      rintro rfl
      cases same
    have ends := isBlank_getLast_append same blank (by rwa [List.take_append_drop])
    simp only [List.take_append_drop] at ends
    rw [(bareTrimmed filled).2] at ends
    cases ends

/-- **A header that cannot be read**: a Basic header whose payload has a character beyond ASCII. -/
def IsForeign (header : String) : Prop :=
  ∃ payload, IsBasic header payload ∧ ∃ c ∈ payload, 0x80 ≤ c.toNat

/-- **Reading fails for foreign headers alone**: any other one holds a pair, or it does not. -/
theorem parseBasic_eq_error_iff {cause : Failure} : parseBasic header = .error cause ↔
    IsForeign header ∧ cause = .defect .base64NotAscii := by
  constructor
  · intro failed
    by_cases some_payload : ∃ payload, IsBasic header payload
    · obtain ⟨payload, basic⟩ := some_payload
      rw [parseBasic_of_isBasic basic, readPayload] at failed
      split at failed
      · next foreign =>
        cases failed
        obtain ⟨c, member, large⟩ := List.any_eq_true.mp foreign
        exact ⟨⟨payload, basic, c, member, of_decide_eq_true large⟩, rfl⟩
      · cases failed
    · rw [parseBasic_of_not (not_exists.mp some_payload)] at failed
      cases failed
  · rintro ⟨⟨payload, basic, c, member, large⟩, rfl⟩
    rw [parseBasic_of_isBasic basic, readPayload,
      if_pos (List.any_eq_true.mpr ⟨c, member, decide_eq_true large⟩)]

/-- A header that is not foreign is read. -/
theorem exists_parseBasic (plain : ¬ IsForeign header) : ∃ pair, parseBasic header = .ok pair := by
  cases read : parseBasic header with
  | ok pair => exact ⟨pair, rfl⟩
  | error cause => exact absurd (parseBasic_eq_error_iff.mp read).1 plain

/-! ## What clients write -/

theorem isTrimmed_of_visible {chars : List Char} (visible : ∀ c ∈ chars, Text.IsVisible c) :
    IsTrimmed isBlank chars :=
  Text.isTrimmed_of_forall fun c member => (visible c member).isBlank_eq_false

/-- **The header of a login is a Basic header**, and its payload spells the login. -/
theorem isBasic_basic (login : String × String) : IsBasic (Delivery.basic login)
    (Base64.encodePadded (Utf8.encode (login.1 ++ ":" ++ login.2))).toList := by
  refine ⟨[], "Basic ".toList, [], [], ?_, List.forall_mem_nil _, List.forall_mem_nil _,
    List.forall_mem_nil _, by decide, fun empty => ?_,
    isTrimmed_of_visible (Base64.forall_mem_encodePadded _)⟩
  · rw [Delivery.basic, String.toList_append, List.nil_append, List.nil_append, List.append_nil]
  · have read := Utf8.decode?_encode (login.1 ++ ":" ++ login.2)
    rw [Base64.eq_nil_of_encodePadded empty] at read
    have nothing : login.1 ++ ":" ++ login.2 = "" := (Option.some.inj read).symm
    have chars := congrArg String.toList nothing
    simp [String.toList_append] at chars

/-- The header of a login is read as the pair that it spells. -/
theorem parseBasic_basic (login : String × String) :
    parseBasic (Delivery.basic login) = .ok (ofPair? (login.1 ++ ":" ++ login.2)) := by
  have ascii : ¬ ((Base64.encodePadded (Utf8.encode (login.1 ++ ":" ++ login.2))).toList.any
      fun c => decide (0x80 ≤ c.toNat)) = true := by
    rw [List.any_eq_true]
    rintro ⟨c, member, large⟩
    have small := (Base64.forall_mem_encodePadded _ c member).2
    have large := of_decide_eq_true large
    omega
  rw [parseBasic_of_isBasic (isBasic_basic login), readPayload, if_neg ascii,
    String.ofList_toList, Base64.decodePadded?_encodePadded, Option.bind_some,
    Utf8.decode?_encode, Option.bind_some]

theorem ofPair?_append {id secret : String} (single : ∀ c ∈ id.toList, c ≠ ':') :
    ofPair? (id ++ ":" ++ secret) =
      some (Text.percentDecode (Text.trim id), Text.percentDecode secret) := by
  have chars : (id ++ ":" ++ secret).toList = id.toList ++ ':' :: secret.toList := by
    rw [String.toList_append, String.toList_append, List.append_assoc]
    rfl
  have front : ∀ c ∈ id.toList, decide (c ≠ ':') = true := fun c member =>
    decide_eq_true (single c member)
  unfold ofPair?
  dsimp only
  rw [chars, if_pos (by simp), List.takeWhile_append_of_pos front,
    List.dropWhile_append_of_pos front]
  simp

variable (alphabet : Text.FormAlphabet)

/-- The header in which a client presents its id and secret: both in the form encoding. -/
def clientHeader (id secret : String) : String :=
  Delivery.basic (alphabet.encode id, alphabet.encode secret)

/-- A client's header is read as its id and secret, with plus signs for spaces. -/
theorem parseBasic_clientHeader (id secret : String) :
    parseBasic (clientHeader alphabet id secret) =
      .ok (some (Text.withPlus id, Text.withPlus secret)) := by
  have trimmed : Text.trim (alphabet.encode id) = alphabet.encode id := by
    rw [Text.trim, Text.trimBy_of_isTrimmed (isTrimmed_of_visible fun c member =>
      (alphabet.isVisible_of_mem_encode member).1), String.ofList_toList]
  rw [clientHeader, parseBasic_basic, ofPair?_append fun c member =>
    (alphabet.isVisible_of_mem_encode member).2, trimmed, alphabet.percentDecode_encode,
    alphabet.percentDecode_encode]

/-- **What clients present in the form encoding** is read back but for the spaces: they are read as
plus signs. So the id and the secret that are read are those that were presented exactly when
neither has a space. -/
theorem reads_form_encoded (id secret : String) :
    parseBasic (clientHeader alphabet id secret) =
        .ok (some (Text.withPlus id, Text.withPlus secret)) ∧
      (parseBasic (clientHeader alphabet id secret) = .ok (some (id, secret)) ↔
        ' ' ∉ id.toList ∧ ' ' ∉ secret.toList) := by
  refine ⟨parseBasic_clientHeader alphabet id secret, ?_⟩
  rw [parseBasic_clientHeader, Except.ok.injEq, Option.some.injEq, Prod.mk.injEq,
    Text.withPlus_eq_self_iff, Text.withPlus_eq_self_iff]

/-- **A space is lost**: with one in the id and one in the secret, what is read are plus signs. -/
theorem reads_plus_for_space : clientHeader .unreserved "a b" "c d" = "Basic YStiOmMrZA==" ∧
    parseBasic "Basic YStiOmMrZA==" = .ok (some ("a+b", "c+d")) ∧
    parseBasic "Basic YStiOmMrZA==" ≠ .ok (some ("a b", "c d")) := by
  have written : clientHeader .unreserved "a b" "c d" = "Basic YStiOmMrZA==" := by decide +kernel
  have read : parseBasic "Basic YStiOmMrZA==" = .ok (some ("a+b", "c+d")) := by
    rw [← written, parseBasic_clientHeader]
    decide +kernel
  refine ⟨written, read, ?_⟩
  rw [read]
  decide +kernel

end SealedGrant.Credentials
