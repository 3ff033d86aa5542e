import Mathlib
import SealedGrant.Scope

/-! # Reading and writing scopes

A text has words, which stand between its blanks (`SealedGrant.Scope.Words`), and a list has first
occurrences (`SealedGrant.Scope.FirstOccurrences`). What is read of a scope text are the first
occurrences of its words (`SealedGrant.Scope.items_eq_iff_reads`), and what is read of a list that
was written are the first occurrences of its filled items
(`SealedGrant.Scope.firstOccurrences_items_text`). So a scope that was read does not change however
often it is written and read (`SealedGrant.Scope.items_iterate_normalize`).
-/

namespace SealedGrant.Scope

/-- An item without separators. -/
def IsSolid (item : String) : Prop :=
  ∀ c ∈ item.toList, Text.isAsciiBlank c = false

/-! ## First occurrences -/

/-- A list has the items of another one, in the order in which these first occur there. -/
structure FirstOccurrences (all kept : List String) : Prop where
  mem_iff : ∀ item, item ∈ kept ↔ item ∈ all
  ordered : kept.Pairwise fun first second => all.idxOf first < all.idxOf second

theorem FirstOccurrences.nodup {all kept : List String} (firsts : FirstOccurrences all kept) :
    kept.Nodup :=
  firsts.ordered.imp fun {_ _} before same => by
    subst same
    exact lt_irrefl _ before

/-- Leaving others out does not change which of two items comes first. -/
theorem idxOf_filter_lt_iff {kept : String → Bool} {first second : String}
    (firstKept : kept first = true) (secondKept : kept second = true) (list : List String) :
    (list.filter kept).idxOf first < (list.filter kept).idxOf second ↔
      list.idxOf first < list.idxOf second := by
  induction list with
  | nil => rfl
  | cons item rest ih =>
    cases held : kept item with
    | false =>
      have neither (other : String) (otherKept : kept other = true) : item ≠ other := by
        rintro rfl
        rw [held] at otherKept
        cases otherKept
      rw [List.filter_cons_of_neg (by simp [held]), ih,
        List.idxOf_cons_ne _ (neither first firstKept),
        List.idxOf_cons_ne _ (neither second secondKept), Nat.succ_lt_succ_iff]
    | true =>
      rw [List.filter_cons_of_pos held]
      by_cases here : item = second
      · subst here
        simp only [List.idxOf_cons_self, Nat.not_lt_zero]
      · rw [List.idxOf_cons_ne _ here, List.idxOf_cons_ne _ here]
        by_cases start : item = first
        · subst start
          simp only [List.idxOf_cons_self, Nat.zero_lt_succ]
        · rw [List.idxOf_cons_ne _ start, List.idxOf_cons_ne _ start, Nat.succ_lt_succ_iff,
            Nat.succ_lt_succ_iff, ih]

theorem pairwise_eraseDups (all : List String) :
    all.eraseDups.Pairwise fun first second => all.idxOf first < all.idxOf second := by
  cases all with
  | nil => exact List.Pairwise.nil
  | cons item rest =>
    -- what is left of the rest is compared in the rest, and from there in the whole list
    have others {other : String} (member : other ∈ (rest.filter (!· == item)).eraseDups) :
        (!other == item) = true :=
      (List.mem_filter.mp (List.mem_eraseDups.mp member)).2
    have apart {other : String} (member : other ∈ (rest.filter (!· == item)).eraseDups) :
        item ≠ other := by
      rintro rfl
      simpa using others member
    rw [List.eraseDups_cons, List.pairwise_cons]
    constructor
    · intro other member
      rw [List.idxOf_cons_self, List.idxOf_cons_ne _ (apart member)]
      exact Nat.zero_lt_succ _
    · refine (pairwise_eraseDups (rest.filter (!· == item))).imp_of_mem ?_
      intro first second firstMember secondMember before
      rw [List.idxOf_cons_ne _ (apart firstMember), List.idxOf_cons_ne _ (apart secondMember),
        Nat.succ_lt_succ_iff]
      exact (idxOf_filter_lt_iff (others firstMember) (others secondMember) rest).mp before
termination_by all.length
decreasing_by
  have shorter := List.length_filter_le (!· == item) rest
  rw [List.length_cons]
  omega

theorem firstOccurrences_eraseDups (all : List String) : FirstOccurrences all all.eraseDups :=
  ⟨fun _ => List.mem_eraseDups, pairwise_eraseDups all⟩

/-- **First occurrences are one list.** -/
theorem firstOccurrences_iff {all kept : List String} :
    FirstOccurrences all kept ↔ all.eraseDups = kept := by
  constructor
  · intro firsts
    have erased := firstOccurrences_eraseDups all
    have perm : all.eraseDups.Perm kept :=
      (List.perm_ext_iff_of_nodup erased.nodup firsts.nodup).mpr fun item =>
        (erased.mem_iff item).trans (firsts.mem_iff item).symm
    exact perm.eq_of_pairwise (fun _ _ _ _ before after => absurd before after.asymm)
      erased.ordered firsts.ordered
  · rintro rfl
    exact firstOccurrences_eraseDups all

theorem nodup_eraseDups (items : List String) : items.eraseDups.Nodup :=
  (firstOccurrences_eraseDups items).nodup

theorem eraseDups_of_nodup {items : List String} (distinct : items.Nodup) :
    items.eraseDups = items := by
  induction items with
  | nil => rfl
  | cons item rest ih =>
    rw [List.nodup_cons] at distinct
    have kept : rest.filter (fun other => !other == item) = rest := by
      rw [List.filter_eq_self]
      intro other member
      simp only [Bool.not_eq_true', beq_eq_false_iff_ne]
      rintro rfl
      exact distinct.1 member
    rw [List.eraseDups_cons, kept, ih distinct.2]

theorem firstOccurrences_of_nodup {list : List String} (distinct : list.Nodup) :
    FirstOccurrences list list :=
  firstOccurrences_iff.mpr (eraseDups_of_nodup distinct)

/-! ## Words -/

/-- The words of a text in the order of their occurrences. -/
def wordsOf (chars : List Char) : List String :=
  ((chars.splitOnP Text.isAsciiBlank).filter fun piece => !piece.isEmpty).map String.ofList

/-- **Words end at a blank**, wherever it stands. -/
theorem wordsOf_append_cons (before after : List Char) {c : Char}
    (blank : Text.isAsciiBlank c = true) :
    wordsOf (before ++ c :: after) = wordsOf before ++ wordsOf after := by
  rw [wordsOf, List.splitOnP_append_cons before after blank, List.filter_append, List.map_append]
  rfl

theorem wordsOf_blanks_append {blanks : List Char}
    (blank : ∀ c ∈ blanks, Text.isAsciiBlank c = true) (rest : List Char) :
    wordsOf (blanks ++ rest) = wordsOf rest := by
  induction blanks with
  | nil => rfl
  | cons c blanks ih =>
    obtain ⟨first, others⟩ := List.forall_mem_cons.mp blank
    have start : wordsOf (c :: (blanks ++ rest)) = wordsOf [] ++ wordsOf (blanks ++ rest) :=
      wordsOf_append_cons [] _ first
    rw [List.cons_append, start, ih others]
    rfl

theorem wordsOf_blanks {blanks : List Char} (blank : ∀ c ∈ blanks, Text.isAsciiBlank c = true) :
    wordsOf blanks = [] := by
  have nothing := wordsOf_blanks_append blank []
  rwa [List.append_nil] at nothing

/-- A filled text without blanks is one word. -/
theorem wordsOf_toList {item : String} (filled : item ≠ "") (solid : IsSolid item) :
    wordsOf item.toList = [item] := by
  have whole : item.toList.isEmpty = false :=
    List.isEmpty_eq_false_iff.mpr fun empty => filled (String.toList_eq_nil_iff.mp empty)
  rw [wordsOf, List.splitOnP_eq_singleton solid, List.filter_singleton, whole]
  exact congrArg (fun word => [word]) String.ofList_toList

/-- A word stands before the words of what follows it. -/
theorem wordsOf_append {item : String} (filled : item ≠ "") (solid : IsSolid item)
    {rest : List Char} (ends : ∀ c ∈ rest.head?, Text.isAsciiBlank c = true) :
    wordsOf (item.toList ++ rest) = item :: wordsOf rest := by
  cases rest with
  | nil =>
    rw [List.append_nil]
    exact wordsOf_toList filled solid
  | cons c rest =>
    have blank : Text.isAsciiBlank c = true := ends c rfl
    have after : wordsOf (c :: rest) = wordsOf rest := wordsOf_append_cons [] rest blank
    rw [wordsOf_append_cons item.toList rest blank, wordsOf_toList filled solid, after]
    rfl

/-- **The words of a text**, one for each occurrence: blanks stand before each of them, and a blank
or nothing after it. -/
inductive Words : List Char → List String → Prop where
  | blanks {blanks : List Char} (blank : ∀ c ∈ blanks, Text.isAsciiBlank c = true) :
      Words blanks []
  | word {blanks rest : List Char} {item : String} {words : List String}
      (blank : ∀ c ∈ blanks, Text.isAsciiBlank c = true) (filled : item ≠ "")
      (solid : IsSolid item) (ends : ∀ c ∈ rest.head?, Text.isAsciiBlank c = true)
      (later : Words rest words) : Words (blanks ++ item.toList ++ rest) (item :: words)

/-- A blank in front is in front of the first word. -/
theorem Words.cons_blank {c : Char} (first : Text.isAsciiBlank c = true) {chars : List Char}
    {words : List String} (described : Words chars words) : Words (c :: chars) words := by
  cases described with
  | blanks blank => exact .blanks (List.forall_mem_cons.mpr ⟨first, blank⟩)
  | word blank filled solid ends later =>
    exact .word (List.forall_mem_cons.mpr ⟨first, blank⟩) filled solid ends later

/-- A visible character in front begins a word, or makes the first word longer. -/
theorem Words.exists_cons_visible {c : Char} (visible : Text.isAsciiBlank c = false)
    {chars : List Char} {words : List String} (described : Words chars words) :
    ∃ words, Words (c :: chars) words := by
  have begins (ends : ∀ c ∈ chars.head?, Text.isAsciiBlank c = true) :
      Words (c :: chars) (String.ofList [c] :: words) := by
    have solid : IsSolid (String.ofList [c]) := by
      rw [IsSolid, String.toList_ofList]
      exact List.forall_mem_singleton.mpr visible
    have filled : String.ofList [c] ≠ "" := by simp
    have whole := Words.word (List.forall_mem_nil _) filled solid ends described
    rwa [String.toList_ofList] at whole
  cases described with
  | blanks blank => exact ⟨_, begins fun c first => blank c (List.mem_of_mem_head? first)⟩
  | @word blanks rest item words blank filled solid ends later =>
    -- the character belongs to the first word only if nothing stands between them
    cases blanks with
    | cons space blanks =>
      refine ⟨_, begins fun c first => ?_⟩
      rw [← Option.some.inj first]
      exact blank space List.mem_cons_self
    | nil =>
      have solid : IsSolid (String.ofList (c :: item.toList)) := by
        rw [IsSolid, String.toList_ofList]
        exact List.forall_mem_cons.mpr ⟨visible, solid⟩
      have filled : String.ofList (c :: item.toList) ≠ "" := by simp
      have whole := Words.word (List.forall_mem_nil _) filled solid ends later
      rw [String.toList_ofList] at whole
      exact ⟨_, whole⟩

/-- Every text has words. -/
theorem exists_words (chars : List Char) : ∃ words, Words chars words := by
  induction chars with
  | nil => exact ⟨[], .blanks (List.forall_mem_nil _)⟩
  | cons c rest ih =>
    obtain ⟨words, described⟩ := ih
    cases kind : Text.isAsciiBlank c with
    | true => exact ⟨words, described.cons_blank kind⟩
    | false => exact described.exists_cons_visible kind

/-- **A text has one list of words.** -/
theorem words_iff {chars : List Char} {words : List String} :
    Words chars words ↔ wordsOf chars = words := by
  have only {words : List String} (described : Words chars words) : wordsOf chars = words := by
    induction described with
    | blanks blank => exact wordsOf_blanks blank
    | word blank filled solid ends later ih =>
      rw [List.append_assoc, wordsOf_blanks_append blank, wordsOf_append filled solid ends, ih]
  constructor
  · exact only
  · rintro rfl
    obtain ⟨words, described⟩ := exists_words chars
    rwa [only described]

/-- Words are filled and have no blanks. -/
theorem Words.forall_mem {chars : List Char} {words : List String} (described : Words chars words) :
    ∀ item ∈ words, item ≠ "" ∧ IsSolid item := by
  induction described with
  | blanks => exact List.forall_mem_nil _
  | word _ filled solid _ _ ih => exact List.forall_mem_cons.mpr ⟨⟨filled, solid⟩, ih⟩

/-- Only a text of blanks has no words. -/
theorem wordsOf_eq_nil_iff {chars : List Char} :
    wordsOf chars = [] ↔ ∀ c ∈ chars, Text.isAsciiBlank c = true := by
  constructor
  · intro nothing
    cases words_iff.mpr nothing with
    | blanks blank => exact blank
  · exact wordsOf_blanks

/-! ## Reading -/

theorem items_eq (scope : String) : items scope = (wordsOf scope.toList).eraseDups := rfl

theorem nodup_items (scope : String) : (items scope).Nodup :=
  nodup_eraseDups _

theorem forall_mem_items (scope : String) : ∀ item ∈ items scope, item ≠ "" ∧ IsSolid item :=
  fun item member => (words_iff.mpr rfl).forall_mem item (List.mem_eraseDups.mp member)

/-- **Items have no blanks.** -/
theorem isSolid_of_mem_items {scope item : String} (member : item ∈ items scope) : IsSolid item :=
  (forall_mem_items scope item member).2

theorem items_eq_nil_iff {scope : String} :
    items scope = [] ↔ ∀ c ∈ scope.toList, Text.isAsciiBlank c = true := by
  rw [← wordsOf_eq_nil_iff, items_eq, List.eq_nil_iff_forall_not_mem,
    List.eq_nil_iff_forall_not_mem]
  simp only [List.mem_eraseDups]

/-- What a list of items has to be to be read of a scope text. -/
structure Reads (scope : String) (list : List String) : Prop where
  filled : ∀ item ∈ list, item ≠ ""
  solid : ∀ item ∈ list, IsSolid item
  distinct : list.Nodup
  firsts : ∃ words, Words scope.toList words ∧ FirstOccurrences words list

/-- **What is read of a scope text** are the first occurrences of its words. -/
theorem items_eq_iff_reads {scope : String} {list : List String} :
    items scope = list ↔ Reads scope list := by
  constructor
  · rintro rfl
    exact {
      filled := fun item member => (forall_mem_items scope item member).1
      solid := fun item member => (forall_mem_items scope item member).2
      distinct := nodup_items scope
      firsts := ⟨_, words_iff.mpr rfl, firstOccurrences_eraseDups _⟩ }
  · rintro ⟨-, -, -, words, described, firsts⟩
    rw [items_eq, words_iff.mp described, firstOccurrences_iff.mp firsts]

/-! ## Writing -/

/-- Filled items without blanks are the words of the text that has spaces between them. -/
theorem wordsOf_intercalate {list : List String}
    (each : ∀ item ∈ list, item ≠ "" ∧ IsSolid item) :
    wordsOf (" ".intercalate list).toList = list := by
  rw [String.toList_intercalate]
  induction list with
  | nil => rfl
  | cons item rest ih =>
    obtain ⟨⟨filled, solid⟩, others⟩ := List.forall_mem_cons.mp each
    cases rest with
    | nil =>
      rw [List.map_singleton, List.intercalate_singleton]
      exact wordsOf_toList filled solid
    | cons next rest =>
      rw [List.map_cons, List.map_cons, List.intercalate_cons_cons, List.append_assoc]
      rw [List.map_cons] at ih
      have parts := wordsOf_append_cons item.toList
        ([' '].intercalate (next.toList :: rest.map String.toList)) (c := ' ') rfl
      exact parts.trans (congrArg₂ (· ++ ·) (wordsOf_toList filled solid) (ih others))

theorem items_intercalate {list : List String}
    (each : ∀ item ∈ list, item ≠ "" ∧ IsSolid item) :
    items (" ".intercalate list) = list.eraseDups := by
  rw [items_eq, wordsOf_intercalate each]

/-- **A scope is read as it was written**: the filled items, each once. -/
theorem items_text {list : List String} (solid : ∀ item ∈ list, IsSolid item) :
    items (text list) = (list.filter (· ≠ "")).eraseDups := by
  have each : ∀ item ∈ (list.filter (· ≠ "")).eraseDups, item ≠ "" ∧ IsSolid item := by
    intro item member
    obtain ⟨listed, filled⟩ := List.mem_filter.mp (List.mem_eraseDups.mp member)
    exact ⟨of_decide_eq_true filled, solid item listed⟩
  rw [text, items_intercalate each, eraseDups_of_nodup (nodup_eraseDups _)]

/-- Empty items are not written. -/
theorem text_filter (list : List String) : text (list.filter (· ≠ "")) = text list := by
  rw [text, List.filter_filter]
  simp only [Bool.and_self]
  rfl

/-- **What is read of a list that was written** are the first occurrences of its filled items. -/
theorem firstOccurrences_items_text {list : List String} (solid : ∀ item ∈ list, IsSolid item) :
    FirstOccurrences (list.filter (· ≠ "")) (items (text list)) := by
  rw [items_text solid]
  exact firstOccurrences_eraseDups _

/-- A scope that was read is written and read as it is. -/
theorem items_text_items (scope : String) : items (text (items scope)) = items scope := by
  have filled : (items scope).filter (· ≠ "") = items scope :=
    List.filter_eq_self.mpr fun _ member => decide_eq_true (forall_mem_items scope _ member).1
  rw [items_text fun _ member => isSolid_of_mem_items member, filled,
    eraseDups_of_nodup (nodup_items scope)]

/-- **The normal form of a scope has its items**, however often it is taken. -/
theorem items_iterate_normalize (scope : String) (times : ℕ) :
    items (normalize^[times] scope) = items scope := by
  induction times with
  | zero => rfl
  | succ times ih =>
    rw [Function.iterate_succ_apply', normalize, items_text_items, ih]

end SealedGrant.Scope
