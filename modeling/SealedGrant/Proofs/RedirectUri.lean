import Mathlib
import SealedGrant.ClaimSet.Access
import SealedGrant.Proofs.Json.NumberText

/-! # The grammar of redirect URIs

A redirect URI is absolute and has no fragment (`SealedGrant.RedirectUri.IsAbsolute`): it has a
scheme, something other than a query follows it, and the port of an authority is a number up to
65535. The check takes the text apart from left to right, each part up to the first character that
ends it, and accepts exactly the texts of this grammar
(`SealedGrant.RedirectUri.check_eq_ok_iff`), as far as they are ASCII and without brackets. A port
of more digits than a number is read of is refused, whatever its value.
-/

namespace SealedGrant.RedirectUri

/-! ## The grammar -/

/-- What follows a scheme, without two leading slashes. -/
def unslashed : List Char → List Char
  | '/' :: '/' :: rest => rest
  | chars => chars

/-- The authority of what follows a scheme: after two slashes, up to a slash or a query. -/
def IsAuthority (authority rest : List Char) : Prop :=
  ∃ tail, rest = '/' :: '/' :: (authority ++ tail) ∧ (∀ c ∈ authority, c ≠ '/' ∧ c ≠ '?') ∧
    ∀ c, tail.head? = some c → c = '/' ∨ c = '?'

/-- The host of an authority with its port: what follows the last at-sign, if there is one. -/
def IsHost (host authority : List Char) : Prop :=
  '@' ∉ host ∧ (authority = host ∨ ∃ user, authority = user ++ '@' :: host)

/-- The port of a host: what follows the first colon. -/
def IsPort (port host : List Char) : Prop :=
  ∃ name, host = name ++ ':' :: port ∧ ':' ∉ name

/-- Decimal digits of a value up to 65535; there may be none of them. -/
def IsPortNumber (port : List Char) : Prop :=
  (∀ c ∈ port, '0' ≤ c ∧ c ≤ '9') ∧ Nat.ofDigitChars 10 port 0 ≤ 65535

/-- A port that is read: a port number of not too many digits. -/
def IsShortPort (port : List Char) : Prop :=
  IsPortNumber port ∧ port.length ≤ Text.digitLimit

/-- **An absolute URI without fragment**, whose port, if there is one, fits. -/
structure IsAbsolute (fits : List Char → Prop) (chars : List Char) : Prop where
  /-- No control character, no blank, none of the marks that a URI never has, and no fragment. -/
  visible : ∀ c ∈ chars, 0x20 < c.toNat ∧ c.toNat ≠ 0x7f ∧
    c ∉ ['<', '>', '"', '\x7b', '\x7d', '|', '\\', '^', '\x60', '#']
  /-- A scheme, then something other than a query; two slashes in front of it do not count. -/
  parts : ∃ letter scheme rest, chars = letter :: scheme ++ ':' :: rest ∧ letter.isAlpha = true ∧
    (∀ c ∈ scheme, c.isAlphanum = true ∨ c = '+' ∨ c = '-' ∨ c = '.') ∧
    unslashed rest ≠ [] ∧ (unslashed rest).head? ≠ some '?' ∧
    ∀ authority host port, IsAuthority authority rest → IsHost host authority →
      IsPort port host → fits port

/-! ## Parts and how they are taken -/

theorem takeWhile_append_cons {holds : Char → Bool} {chars rest : List Char} {c : Char}
    (inside : ∀ x ∈ chars, holds x = true) (ends : holds c = false) :
    (chars ++ c :: rest).takeWhile holds = chars := by
  rw [List.takeWhile_append_of_pos inside, List.takeWhile_cons_of_neg (by simp [ends]),
    List.append_nil]

theorem dropWhile_append_cons {holds : Char → Bool} {chars rest : List Char} {c : Char}
    (inside : ∀ x ∈ chars, holds x = true) (ends : holds c = false) :
    (chars ++ c :: rest).dropWhile holds = c :: rest := by
  rw [List.dropWhile_append_of_pos inside, List.dropWhile_cons_of_neg (by simp [ends])]

/-- A mark that a text does not have differs from all its characters. -/
theorem differs_of_not_mem {mark : Char} {chars : List Char} (absent : mark ∉ chars) :
    ∀ c ∈ chars, decide (c ≠ mark) = true := by
  intro c inside
  simpa using fun equal : c = mark => absent (equal ▸ inside)

/-- The character at which a search stops. -/
theorem holds_eq_false_of_dropWhile {holds : Char → Bool} {chars rest : List Char} {c : Char}
    (dropped : chars.dropWhile holds = c :: rest) : holds c = false := by
  have stops := List.head?_dropWhile_not holds chars
  rw [dropped] at stops
  simpa using stops

theorem isHost_iff {host authority : List Char} :
    IsHost host authority ↔ host = afterLast '@' authority := by
  have others {chars : List Char} (absent : '@' ∉ chars) :
      ∀ c ∈ chars.reverse, decide (c ≠ '@') = true :=
    differs_of_not_mem fun inside => absent (List.mem_reverse.mp inside)
  unfold IsHost afterLast
  constructor
  · rintro ⟨absent, rfl | ⟨user, rfl⟩⟩
    · rw [List.takeWhile_eq_self_iff.mpr (others absent), List.reverse_reverse]
    · rw [List.reverse_append, List.reverse_cons, List.append_assoc, List.singleton_append,
        takeWhile_append_cons (others absent) (by simp), List.reverse_reverse]
  · rintro rfl
    refine ⟨fun inside => ?_, ?_⟩
    · rw [List.mem_reverse] at inside
      simpa using List.mem_takeWhile_imp inside
    · have whole := List.takeWhile_append_dropWhile
        (p := fun c => decide (c ≠ '@')) (l := authority.reverse)
      cases dropped : authority.reverse.dropWhile fun c => decide (c ≠ '@') with
      | nil =>
        rw [dropped, List.append_nil] at whole
        exact .inl (by rw [whole, List.reverse_reverse])
      | cons c user =>
        have stops := holds_eq_false_of_dropWhile dropped
        obtain rfl : c = '@' := by simpa using stops
        have turned := congrArg List.reverse whole
        rw [dropped, List.reverse_append, List.reverse_cons, List.reverse_reverse,
          List.append_assoc, List.singleton_append] at turned
        exact .inr ⟨user.reverse, turned.symm⟩

theorem isPort_iff {port host : List Char} :
    IsPort port host ↔ ':' ∈ host ∧ port = after ':' host := by
  unfold IsPort after
  constructor
  · rintro ⟨name, rfl, absent⟩
    refine ⟨by simp, ?_⟩
    rw [dropWhile_append_cons (differs_of_not_mem absent) (by simp)]
    rfl
  · rintro ⟨present, rfl⟩
    have whole := List.takeWhile_append_dropWhile (p := fun c => decide (c ≠ ':')) (l := host)
    cases dropped : host.dropWhile fun c => decide (c ≠ ':') with
    | nil =>
      rw [List.dropWhile_eq_nil_iff] at dropped
      simpa using dropped ':' present
    | cons c port =>
      have stops := holds_eq_false_of_dropWhile dropped
      obtain rfl : c = ':' := by simpa using stops
      refine ⟨host.takeWhile fun c => decide (c ≠ ':'), ?_, fun inside => ?_⟩
      · rw [dropped] at whole
        exact whole.symm
      · simpa using List.mem_takeWhile_imp inside

theorem after_of_not_mem {separator : Char} {chars : List Char} (absent : separator ∉ chars) :
    after separator chars = [] := by
  have all : chars.dropWhile (fun c => decide (c ≠ separator)) = [] := by
    rw [List.dropWhile_eq_nil_iff]
    exact differs_of_not_mem absent
  rw [after, all]
  rfl

theorem isAuthority_iff {authority rest : List Char} (noFragment : '#' ∉ rest) :
    IsAuthority authority rest ↔ ∃ chars, rest = '/' :: '/' :: chars ∧
      authority = chars.takeWhile fun c => !endsAuthority c := by
  unfold IsAuthority
  constructor
  · rintro ⟨tail, rfl, inside, ends⟩
    refine ⟨_, rfl, ?_⟩
    have kept : ∀ c ∈ authority, (!endsAuthority c) = true := by
      intro c member
      have other : c ≠ '#' := by
        rintro rfl
        exact noFragment (by simp [member])
      simp [endsAuthority, inside c member, other]
    cases tail with
    | nil => rw [List.append_nil, List.takeWhile_eq_self_iff.mpr kept]
    | cons c tail =>
      have stops : (!endsAuthority c) = false := by
        rcases ends c rfl with rfl | rfl <;> rfl
      rw [takeWhile_append_cons kept stops]
  · rintro ⟨chars, rfl, rfl⟩
    refine ⟨chars.dropWhile fun c => !endsAuthority c, ?_, ?_, ?_⟩
    · rw [List.takeWhile_append_dropWhile]
    · intro c inside
      have kept := List.mem_takeWhile_imp inside
      simp only [endsAuthority, Bool.not_eq_true', Bool.or_eq_false_iff,
        decide_eq_false_iff_not] at kept
      exact kept.1
    · intro c first
      obtain ⟨rest, dropped⟩ := List.head?_eq_some_iff.mp first
      have stops := holds_eq_false_of_dropWhile dropped
      have other : c ≠ '#' := by
        rintro rfl
        have member : '#' ∈ chars :=
          (List.dropWhile_sublist _).mem (dropped ▸ List.mem_cons_self)
        exact noFragment (by simp [member])
      simpa [endsAuthority, other, or_iff_not_imp_left] using stops

/-- What follows a scheme has an authority, or is taken as a path. -/
theorem splitAuthority_cases (rest : List Char) :
    (∃ chars, rest = '/' :: '/' :: chars ∧ unslashed rest = chars ∧ splitAuthority rest =
      (chars.takeWhile fun c => !endsAuthority c, chars.dropWhile fun c => !endsAuthority c)) ∨
    ((∀ chars, rest ≠ '/' :: '/' :: chars) ∧ unslashed rest = rest ∧
      splitAuthority rest = ([], rest)) := by
  by_cases slashes : ∃ chars, rest = '/' :: '/' :: chars
  · obtain ⟨chars, rfl⟩ := slashes
    exact .inl ⟨chars, rfl, rfl, rfl⟩
  · have other : ∀ chars, rest ≠ '/' :: '/' :: chars := not_exists.mp slashes
    refine .inr ⟨other, ?_, ?_⟩
    · unfold unslashed
      split
      · exact absurd rfl (other _)
      · rfl
    · unfold splitAuthority
      split
      · exact absurd rfl (other _)
      · rfl

theorem before_append {separator : Char} {name rest : List Char} (absent : separator ∉ name) :
    before separator (name ++ separator :: rest) = name :=
  takeWhile_append_cons (differs_of_not_mem absent) (by simp)

theorem isSchemeChar_of_isAlpha {c : Char} (alpha : c.isAlpha = true) : isSchemeChar c = true := by
  simp [isSchemeChar, Char.isAlphanum, alpha]

theorem colon_not_mem {scheme : List Char} (all : ∀ c ∈ scheme, isSchemeChar c = true) :
    ':' ∉ scheme :=
  fun inside => by cases all ':' inside

/-- The scheme is taken up to the first colon. -/
theorem splitScheme_append {letter : Char} {scheme rest : List Char}
    (alpha : letter.isAlpha = true) (all : ∀ c ∈ scheme, isSchemeChar c = true) :
    splitScheme (letter :: scheme ++ ':' :: rest) = (letter :: scheme, rest) := by
  have every : ∀ c ∈ letter :: scheme, isSchemeChar c = true :=
    List.forall_mem_cons.mpr ⟨isSchemeChar_of_isAlpha alpha, all⟩
  have absent := colon_not_mem every
  have port : IsPort rest (letter :: scheme ++ ':' :: rest) := ⟨letter :: scheme, rfl, absent⟩
  obtain ⟨present, following⟩ := isPort_iff.mp port
  have whole : (letter :: scheme).all isSchemeChar = true := List.all_eq_true.mpr every
  rw [splitScheme, before_append absent, ← following, whole]
  simp only [List.contains_iff_mem.mpr present, List.head?_cons, Option.any_some, alpha,
    Bool.and_self, ↓reduceIte]

theorem exists_of_splitScheme {chars : List Char} (filled : (splitScheme chars).1 ≠ []) :
    ∃ letter scheme rest, chars = letter :: scheme ++ ':' :: rest ∧ letter.isAlpha = true ∧
      ∀ c ∈ scheme, isSchemeChar c = true := by
  unfold splitScheme at filled
  dsimp only at filled
  split at filled
  · next found =>
    simp only [Bool.and_eq_true, List.contains_iff_mem] at found
    obtain ⟨⟨present, alpha⟩, all⟩ := found
    obtain ⟨name, text, absent⟩ : IsPort (after ':' chars) chars := isPort_iff.mpr ⟨present, rfl⟩
    generalize after ':' chars = rest at text filled
    subst text
    rw [before_append absent] at alpha all filled
    obtain ⟨letter, scheme, rfl⟩ := List.exists_cons_of_ne_nil filled
    exact ⟨letter, scheme, _, rfl, alpha, fun c inside =>
      List.all_eq_true.mp all c (List.mem_cons_of_mem _ inside)⟩
  · exact absurd rfl filled

/-! ## The check -/

/-- Visible characters are those that are neither forbidden nor the mark of a fragment. -/
theorem visible_iff {c : Char} :
    (0x20 < c.toNat ∧ c.toNat ≠ 0x7f ∧
      c ∉ ['<', '>', '"', '\x7b', '\x7d', '|', '\\', '^', '\x60', '#']) ↔
      isForbidden c = false ∧ c ≠ '#' := by
  have marks : ("<>\"\x7b\x7d|\\^\x60".toList.contains c = false ∧ c ≠ '#') ↔
      c ∉ ['<', '>', '"', '\x7b', '\x7d', '|', '\\', '^', '\x60', '#'] := by
    simp [and_assoc]
  rw [← marks, isForbidden]
  simp only [Bool.or_eq_false_iff, decide_eq_false_iff_not, not_le, and_assoc]

/-- A text is accepted when none of the four things is wrong with it. -/
theorem check_eq_ok_iff_parts {uri : String} :
    check uri = .ok () ↔ (∀ c ∈ uri.toList, isForbidden c = false ∧ c ≠ '#') ∧
      authorityFits (split uri.toList).authority = true ∧ (split uri.toList).scheme ≠ [] ∧
      ((split uri.toList).authority ≠ [] ∨ (split uri.toList).path ≠ []) := by
  have clean : (∀ c ∈ uri.toList, isForbidden c = false ∧ c ≠ '#') ↔
      uri.toList.any isForbidden = false ∧ uri.toList.contains '#' = false := by
    rw [forall₂_and, List.any_eq_false, ← Bool.not_eq_true, List.contains_iff_mem]
    simp only [Bool.not_eq_true, ne_eq, and_congr_right_iff]
    exact fun _ => ⟨fun other inside => other _ inside rfl, fun absent c inside equal =>
      absent (equal ▸ inside)⟩
  have filled : ((split uri.toList).scheme ≠ [] ∧
      ((split uri.toList).authority ≠ [] ∨ (split uri.toList).path ≠ [])) ↔
      ((split uri.toList).scheme.isEmpty ||
        ((split uri.toList).authority.isEmpty && (split uri.toList).path.isEmpty)) = false := by
    simp [or_iff_not_imp_left]
  rw [clean, filled]
  unfold check
  dsimp only
  split_ifs with forbidden authority nothing fragment
  · simp [forbidden]
  · rw [Bool.not_eq_true'] at authority
    simp [authority]
  · simp [nothing]
  · simp only [fragment, Bool.true_eq_false, and_false, false_and]
  · simp only [Bool.not_eq_true] at forbidden nothing fragment
    simp only [Bool.not_eq_true', Bool.not_eq_false] at authority
    exact iff_of_true rfl ⟨⟨forbidden, fragment⟩, authority, nothing⟩

/-- In plain ASCII only the port of an authority can be wrong. -/
theorem authorityFits_eq {chars : List Char}
    (plain : ∀ c ∈ chars, c.toNat < 0x80 ∧ c ≠ '[' ∧ c ≠ ']') :
    authorityFits chars = portFits (after ':' (afterLast '@' chars)) := by
  have noBracket : chars.contains '[' = false ∧ chars.contains ']' = false := by
    rw [← Bool.not_eq_true, ← Bool.not_eq_true, List.contains_iff_mem, List.contains_iff_mem]
    exact ⟨fun inside => (plain _ inside).2.1 rfl, fun inside => (plain _ inside).2.2 rfl⟩
  have noForm : chars.any hasDelimiterForm = false := by
    rw [List.any_eq_false]
    intro c inside
    have ascii := (plain c inside).1
    simp only [hasDelimiterForm, List.contains_iff_mem, List.mem_cons, List.not_mem_nil, or_false]
    omega
  have hostBracket : (afterLast '@' chars).contains '[' = false := by
    rw [← Bool.not_eq_true, List.contains_iff_mem, afterLast, List.mem_reverse]
    intro inside
    have whole := (List.takeWhile_sublist _).mem inside
    exact (plain _ (List.mem_reverse.mp whole)).2.1 rfl
  simp only [authorityFits, bracketsFit, noBracket, noForm, port, hostBracket, Bool.not_false,
    Bool.and_self, ↓reduceIte, Bool.true_and, Bool.false_eq_true]

theorem before_eq_self {separator : Char} {chars : List Char} (absent : separator ∉ chars) :
    before separator chars = chars := by
  rw [before, List.takeWhile_eq_self_iff]
  exact differs_of_not_mem absent

theorem before_ne_nil_iff {separator : Char} {chars : List Char} :
    before separator chars ≠ [] ↔ chars ≠ [] ∧ chars.head? ≠ some separator := by
  cases chars with
  | nil => simp [before]
  | cons c chars => by_cases same : c = separator <;> simp [before, same]

/-- An authority or a path: something other than a query, behind the slashes. -/
theorem located_iff {rest : List Char} (noFragment : '#' ∉ rest) :
    ((splitAuthority rest).1 ≠ [] ∨ before '?' (before '#' (splitAuthority rest).2) ≠ []) ↔
      unslashed rest ≠ [] ∧ (unslashed rest).head? ≠ some '?' := by
  rcases splitAuthority_cases rest with ⟨chars, rfl, bare, split⟩ | ⟨-, bare, split⟩
  · rw [bare, split]
    dsimp only
    cases chars with
    | nil => simp [before]
    | cons c chars =>
      cases ends : endsAuthority c with
      | true =>
        have whole : before '#' (c :: chars) = c :: chars :=
          before_eq_self fun inside => noFragment (by simp [inside])
        simp only [List.takeWhile_cons, List.dropWhile_cons, ends, Bool.not_true,
          Bool.false_eq_true, ↓reduceIte, ne_eq, not_true_eq_false, false_or, whole]
        exact before_ne_nil_iff
      | false =>
        have other : c ≠ '?' := by
          rintro rfl
          cases ends
        simp [ends, other]
  · rw [bare, split, before_eq_self noFragment]
    simp only [ne_eq, not_true_eq_false, false_or]
    exact before_ne_nil_iff

theorem portFits_iff {port : List Char} : portFits port = true ↔ IsShortPort port := by
  simp only [IsShortPort, IsPortNumber, ← Json.digitsValue_eq, portFits, Bool.and_eq_true,
    List.all_eq_true, Json.isDigit, decide_eq_true_eq]
  tauto

/-- The authority fits when its port does, if it has one. -/
theorem authorityFits_iff {rest : List Char} (noFragment : '#' ∉ rest)
    (plain : ∀ c ∈ rest, c.toNat < 0x80 ∧ c ≠ '[' ∧ c ≠ ']') :
    authorityFits (splitAuthority rest).1 = true ↔ ∀ authority host port,
      IsAuthority authority rest → IsHost host authority → IsPort port host →
        IsShortPort port := by
  rcases splitAuthority_cases rest with ⟨chars, rfl, -, split⟩ | ⟨other, -, split⟩
  · rw [split]
    dsimp only
    generalize taken : chars.takeWhile (fun c => !endsAuthority c) = authority
    have ascii : ∀ c ∈ authority, c.toNat < 0x80 ∧ c ≠ '[' ∧ c ≠ ']' := by
      intro c inside
      rw [← taken] at inside
      exact plain c (by simp [(List.takeWhile_sublist _).mem inside])
    rw [authorityFits_eq ascii, portFits_iff]
    constructor
    · intro fits found host port isAuthority isHost isPort
      obtain ⟨others, same, rfl⟩ := (isAuthority_iff noFragment).mp isAuthority
      cases same
      rw [taken] at isHost
      rw [isHost_iff] at isHost
      subst isHost
      rw [(isPort_iff.mp isPort).2]
      exact fits
    · intro all
      have isAuthority : IsAuthority authority ('/' :: '/' :: chars) :=
        (isAuthority_iff noFragment).mpr ⟨chars, rfl, taken.symm⟩
      by_cases present : ':' ∈ afterLast '@' authority
      · exact all _ _ _ isAuthority (isHost_iff.mpr rfl) (isPort_iff.mpr ⟨present, rfl⟩)
      · rw [after_of_not_mem present]
        exact ⟨⟨by simp, by simp⟩, Nat.zero_le _⟩
  · rw [split]
    refine iff_of_true rfl fun authority host port isAuthority => ?_
    obtain ⟨chars, same, -⟩ := (isAuthority_iff noFragment).mp isAuthority
    exact absurd same (other chars)

theorem isSchemeChar_iff {c : Char} : isSchemeChar c = true ↔
    c.isAlphanum = true ∨ c = '+' ∨ c = '-' ∨ c = '.' := by
  simp [isSchemeChar, or_assoc]

/-- A text with a scheme is taken apart behind it. -/
theorem split_append {letter : Char} {scheme rest : List Char} (alpha : letter.isAlpha = true)
    (all : ∀ c ∈ scheme, isSchemeChar c = true) : split (letter :: scheme ++ ':' :: rest) =
      ⟨letter :: scheme, (splitAuthority rest).1,
        before '?' (before '#' (splitAuthority rest).2)⟩ := by
  rw [split, splitScheme_append alpha all]

/-- **The check accepts exactly the absolute URIs without fragment** among the texts of ASCII
characters without brackets. -/
theorem check_eq_ok_iff {uri : String}
    (plain : ∀ c ∈ uri.toList, c.toNat < 0x80 ∧ c ≠ '[' ∧ c ≠ ']') :
    check uri = .ok () ↔ IsAbsolute IsShortPort uri.toList := by
  rw [check_eq_ok_iff_parts]
  -- what both directions say of a text with a scheme
  have located {letter : Char} {scheme rest : List Char}
      (text : uri.toList = letter :: scheme ++ ':' :: rest) (alpha : letter.isAlpha = true)
      (all : ∀ c ∈ scheme, isSchemeChar c = true)
      (clean : ∀ c ∈ uri.toList, isForbidden c = false ∧ c ≠ '#') :
      (authorityFits (split uri.toList).authority = true ∧
        ((split uri.toList).authority ≠ [] ∨ (split uri.toList).path ≠ [])) ↔
      (unslashed rest ≠ [] ∧ (unslashed rest).head? ≠ some '?' ∧
        ∀ authority host port, IsAuthority authority rest → IsHost host authority →
          IsPort port host → IsShortPort port) := by
    have within : ∀ c ∈ rest, c ∈ uri.toList := fun c inside => by rw [text]; simp [inside]
    have noFragment : '#' ∉ rest := fun inside => (clean _ (within _ inside)).2 rfl
    rw [text, split_append alpha all]
    dsimp only
    rw [located_iff noFragment,
      authorityFits_iff noFragment fun c inside => plain c (within c inside)]
    tauto
  constructor
  · rintro ⟨clean, fits, filled, present⟩
    obtain ⟨letter, scheme, rest, text, alpha, all⟩ := exists_of_splitScheme filled
    exact {
      visible := fun c inside => visible_iff.mpr (clean c inside)
      parts := ⟨letter, scheme, rest, text, alpha,
        fun c inside => isSchemeChar_iff.mp (all c inside),
        (located text alpha all clean).mp ⟨fits, present⟩⟩ }
  · rintro ⟨visible, letter, scheme, rest, text, alpha, chars, follows⟩
    have clean := fun c inside => visible_iff.mp (visible c inside)
    have all : ∀ c ∈ scheme, isSchemeChar c = true :=
      fun c inside => isSchemeChar_iff.mpr (chars c inside)
    obtain ⟨fits, present⟩ := (located text alpha all clean).mpr follows
    refine ⟨clean, fits, ?_, present⟩
    rw [text, split_append alpha all]
    exact List.cons_ne_nil _ _

/-- A claim set gives its redirect URI as it is, or the fault of the check. -/
theorem redirectUri_eq {claims : ClaimSet} {uri : String}
    (held : claims.members.get? Claim.redirectUri.name = some (.string uri)) :
    claims.redirectUri = match check uri with
      | .ok _ => .ok uri
      | .error cause => .error (.fault (.claims (.redirectUri cause))) := by
  have given : claims.required .redirectUri = .ok (.string uri) := by
    rw [ClaimSet.required, held]
  rw [ClaimSet.redirectUri, given]
  rfl

/-- **Which redirect URIs are accepted.** An accepted one is given back unchanged. Among the texts
of ASCII characters without brackets, those are accepted that are absolute URIs without fragment
and with a port that is read, and all others are refused with a parse error. -/
theorem accepts_exactly_absolute_uris {claims : ClaimSet} {uri : String}
    (held : claims.members.get? Claim.redirectUri.name = some (.string uri)) :
    (check uri = .ok () → claims.redirectUri = .ok uri) ∧
    ((∀ c ∈ uri.toList, c.toNat < 0x80 ∧ c ≠ '[' ∧ c ≠ ']') →
      (check uri = .ok () ↔ IsAbsolute IsShortPort uri.toList) ∧
      (¬ IsAbsolute IsShortPort uri.toList → ∃ cause, check uri = .error cause ∧
        claims.redirectUri = .error (.fault (.claims (.redirectUri cause))) ∧
        (Fault.claims (.redirectUri cause)).name = "ParseError")) := by
  have read := redirectUri_eq held
  refine ⟨fun accepted => ?_, fun plain => ?_⟩
  · rw [read, accepted]
  · have iff := check_eq_ok_iff plain
    refine ⟨iff, fun other => ?_⟩
    cases checked : check uri with
    | ok accepted => exact absurd (iff.mp checked) other
    | error cause =>
      rw [checked] at read
      exact ⟨cause, rfl, read, rfl⟩

/-! ## A URI with a port -/

/-- What follows a scheme has one port at most. -/
theorem port_unique {rest authority other host another port number : List Char}
    (noFragment : '#' ∉ rest) (first : IsAuthority authority rest)
    (second : IsAuthority other rest) (firstHost : IsHost host authority)
    (secondHost : IsHost another other) (firstPort : IsPort port host)
    (secondPort : IsPort number another) : port = number := by
  obtain ⟨chars, same, rfl⟩ := (isAuthority_iff noFragment).mp first
  obtain ⟨others, equal, rfl⟩ := (isAuthority_iff noFragment).mp second
  rw [same] at equal
  cases equal
  rw [isHost_iff] at firstHost secondHost
  rw [← secondHost] at firstHost
  subst firstHost
  rw [(isPort_iff.mp firstPort).2, (isPort_iff.mp secondPort).2]

/-- A URI with a host and a port. -/
def withPort (port : List Char) : String :=
  String.ofList ('x' :: [] ++ ':' :: '/' :: '/' :: (['h'] ++ ':' :: port))

theorem toList_withPort (port : List Char) : (withPort port).toList =
    'x' :: [] ++ ':' :: '/' :: '/' :: (['h'] ++ ':' :: port) :=
  String.toList_ofList

/-- A URI with a port is taken apart in front of its slashes. -/
theorem splitScheme_withPort (port : List Char) : splitScheme (withPort port).toList =
    (['x'], '/' :: '/' :: (['h'] ++ ':' :: port)) := by
  rw [toList_withPort]
  exact splitScheme_append rfl (by simp)

section Port

variable {port : List Char} (digits : ∀ c ∈ port, '0' ≤ c ∧ c ≤ '9')

include digits

/-- Digits are characters of a URI, and none of the marks that part it. -/
theorem apart_of_digits : ∀ c ∈ port, (c.toNat < 0x80 ∧ c ≠ '[' ∧ c ≠ ']') ∧
    (isForbidden c = false ∧ c ≠ '#') ∧ c ∉ ['/', '?', '@'] := by
  intro c inside
  have digit : Json.isDigit c = true := by simpa [Json.isDigit] using digits c inside
  exact Json.forall_isNumeral (fun c => (c.toNat < 0x80 ∧ c ≠ '[' ∧ c ≠ ']') ∧
    (isForbidden c = false ∧ c ≠ '#') ∧ c ∉ ['/', '?', '@']) (by decide) (by decide) (by decide)
    (by decide) (by decide) (Json.isNumeral_of_isDigit digit)

theorem plain_withPort :
    ∀ c ∈ (withPort port).toList, c.toNat < 0x80 ∧ c ≠ '[' ∧ c ≠ ']' := by
  have plain := fun c inside => (apart_of_digits digits c inside).1
  simpa [withPort] using plain

theorem clean_withPort : ∀ c ∈ (withPort port).toList, isForbidden c = false ∧ c ≠ '#' := by
  rw [toList_withPort]
  simp only [List.forall_mem_append, List.forall_mem_cons]
  exact ⟨⟨by decide, by simp⟩, by decide, by decide, by decide, ⟨by decide, by simp⟩, by decide,
    fun c inside => (apart_of_digits digits c inside).2.1⟩

/-- All that follows the slashes is a host, and it has the port. -/
theorem isPort_withPort :
    IsAuthority (['h'] ++ ':' :: port) ('/' :: '/' :: (['h'] ++ ':' :: port)) ∧
      IsHost (['h'] ++ ':' :: port) (['h'] ++ ':' :: port) ∧
      IsPort port (['h'] ++ ':' :: port) := by
  refine ⟨⟨[], by simp, ?_, fun c first => by cases first⟩, ⟨fun inside => ?_, .inl rfl⟩,
    ['h'], rfl, by decide⟩
  · simp only [List.forall_mem_append, List.forall_mem_cons]
    refine ⟨⟨by decide, by simp⟩, by decide, fun c inside => ?_⟩
    have other := (apart_of_digits digits c inside).2.2
    simp only [List.mem_cons, not_or] at other
    exact ⟨other.1, other.2.1⟩
  · simp only [List.mem_append, List.mem_cons, List.not_mem_nil, or_false, Char.reduceEq,
      false_or] at inside
    exact (apart_of_digits digits _ inside).2.2 (by decide)

/-- A URI with a port is absolute when the port fits. -/
theorem isAbsolute_withPort_iff {fits : List Char → Prop} :
    IsAbsolute fits (withPort port).toList ↔ fits port := by
  obtain ⟨isAuthority, isHost, isPort⟩ := isPort_withPort digits
  constructor
  · rintro ⟨-, letter, scheme, rest, text, alpha, all, -, -, ports⟩
    have split : splitScheme (withPort port).toList = (letter :: scheme, rest) := by
      rw [text]
      exact splitScheme_append alpha fun c inside => isSchemeChar_iff.mpr (all c inside)
    rw [splitScheme_withPort] at split
    obtain rfl := (Prod.mk.inj split).2
    exact ports _ _ _ isAuthority isHost isPort
  · intro fit
    have clean := clean_withPort digits
    have noFragment : '#' ∉ '/' :: '/' :: (['h'] ++ ':' :: port) := by
      intro inside
      have whole := List.mem_append_right ['x'] (List.mem_cons_of_mem ':' inside)
      exact (clean '#' (toList_withPort port ▸ whole)).2 rfl
    refine ⟨fun c inside => visible_iff.mpr (clean c inside), 'x', [],
      '/' :: '/' :: (['h'] ++ ':' :: port), toList_withPort port, rfl, by simp,
      by simp [unslashed], by simp [unslashed], ?_⟩
    intro authority host number found foundHost foundPort
    rw [port_unique noFragment found isAuthority foundHost isHost foundPort isPort]
    exact fit

end Port

/-- A claim set with a redirect URI. -/
def redirecting (uri : String) : ClaimSet :=
  ⟨[(Claim.redirectUri.name, .string uri)]⟩

theorem get?_redirecting (uri : String) :
    (redirecting uri).members.get? Claim.redirectUri.name = some (.string uri) := rfl

theorem digits_of_all {port : List Char} (all : port.all Json.isDigit = true) :
    ∀ c ∈ port, '0' ≤ c ∧ c ≤ '9' := by
  simpa [Json.isDigit] using all

/-- The last port there is is accepted, the next one is refused. -/
theorem accepts_port_65535 :
    (redirecting (withPort "65535".toList)).redirectUri = .ok (withPort "65535".toList) ∧
      ∃ cause, (redirecting (withPort "65536".toList)).redirectUri =
        .error (.fault (.claims (.redirectUri cause))) := by
  have last : ∀ c ∈ "65535".toList, '0' ≤ c ∧ c ≤ '9' := digits_of_all rfl
  have next : ∀ c ∈ "65536".toList, '0' ≤ c ∧ c ≤ '9' := digits_of_all rfl
  obtain ⟨unchanged, decided⟩ := accepts_exactly_absolute_uris
    (get?_redirecting (withPort "65535".toList))
  obtain ⟨-, refused⟩ := (accepts_exactly_absolute_uris
    (get?_redirecting (withPort "65536".toList))).2 (plain_withPort next)
  constructor
  · refine unchanged ((decided (plain_withPort last)).1.mpr ?_)
    rw [isAbsolute_withPort_iff last]
    exact ⟨⟨last, by decide⟩, by decide⟩
  · obtain ⟨cause, -, fault, -⟩ := refused fun absolute => by
      have short := (isAbsolute_withPort_iff next).mp absolute
      exact absurd short.1.2 (by decide)
    exact ⟨cause, fault⟩

theorem isPortNumber_zeros (count : ℕ) : IsPortNumber (List.replicate count '0') := by
  refine ⟨fun c inside => by rw [List.eq_of_mem_replicate inside]; decide, ?_⟩
  have value : Nat.ofDigitChars 10 (List.replicate count '0') 0 = 0 := by
    induction count with
    | zero => rfl
    | succ count ih => rw [List.replicate_succ, Nat.ofDigitChars_cons]; exact ih
  omega

/-- **Zeros count as digits.** A port of too many zeros is refused, although its value is zero. -/
theorem refuses_port_of_many_zeros :
    (∀ c ∈ (withPort (List.replicate 4301 '0')).toList, c.toNat < 0x80 ∧ c ≠ '[' ∧ c ≠ ']') ∧
      IsAbsolute IsPortNumber (withPort (List.replicate 4301 '0')).toList ∧
      ∃ cause, check (withPort (List.replicate 4301 '0')) = .error cause := by
  have number := isPortNumber_zeros 4301
  have plain := plain_withPort number.1
  refine ⟨plain, (isAbsolute_withPort_iff number.1).mpr number, ?_⟩
  cases checked : check (withPort (List.replicate 4301 '0')) with
  | error cause => exact ⟨cause, rfl⟩
  | ok accepted =>
    have short := (isAbsolute_withPort_iff number.1).mp ((check_eq_ok_iff plain).mp checked)
    have length := short.2
    rw [List.length_replicate] at length
    exact absurd length (by decide)

end SealedGrant.RedirectUri
