import Mathlib
import SealedGrant.Text.Blank

/-! # What trimming leaves

Trimming takes characters apart: some to drop, what is left, and some to drop. Neither end of what
is left is to be dropped, and this alone tells what is left (`SealedGrant.Text.trimBy_eq_iff`).
Lower case keeps blanks and makes none (`SealedGrant.Text.isBlank_asciiLower`). The blanks of the
scope syntax are six characters (`SealedGrant.Text.isAsciiBlank_iff`).
-/

namespace SealedGrant.Text

/-- An ASCII character is one of the first 128. -/
theorem exists_code {c : Char} (ascii : c.toNat < 128) : ∃ code < 128, Char.ofNat code = c :=
  ⟨c.toNat, ascii, Char.ofNat_toNat c⟩

/-- **Lower case keeps blanks** and makes none. -/
theorem isBlank_asciiLower (c : Char) : isBlank (asciiLower c) = isBlank c := by
  by_cases ascii : c.toNat < 128
  · have all : ∀ code < 128,
        isBlank (asciiLower (Char.ofNat code)) = isBlank (Char.ofNat code) := by
      decide
    obtain ⟨code, small, rfl⟩ := exists_code ascii
    exact all code small
  · unfold asciiLower
    split
    · next kelvin => simp [isBlank, kelvin]
    · rw [Char.toLower, dif_neg]
      rintro ⟨-, capital⟩
      have bound : c.toNat ≤ 90 := capital
      omega

/-- **Six characters separate scope items.** -/
theorem isAsciiBlank_iff {c : Char} :
    isAsciiBlank c = true ↔ c ∈ [' ', '\t', '\n', '\r', '\x0c', '\x0b'] := by
  constructor
  · intro blank
    simp only [isAsciiBlank, Bool.or_eq_true, Bool.and_eq_true, decide_eq_true_eq] at blank
    rcases blank with rfl | ⟨low, high⟩
    · exact List.mem_cons_self
    · have all : ∀ code < 14, 9 ≤ code →
          Char.ofNat code ∈ [' ', '\t', '\n', '\r', '\x0c', '\x0b'] := by
        decide
      have same := all c.toNat (by omega) low
      rwa [Char.ofNat_toNat] at same
  · have all : ∀ c ∈ [' ', '\t', '\n', '\r', '\x0c', '\x0b'], isAsciiBlank c = true := by
      simp [isAsciiBlank]
    exact all c

/-- Neither end of the characters is to be dropped. -/
def IsTrimmed (drop : Char → Bool) (chars : List Char) : Prop :=
  ∀ filled : chars ≠ [], drop (chars.head filled) = false ∧ drop (chars.getLast filled) = false

variable {drop : Char → Bool} {chars before middle after : List Char}

theorem isTrimmed_of_forall (kept : ∀ c ∈ chars, drop c = false) : IsTrimmed drop chars :=
  fun filled => ⟨kept _ (List.head_mem filled), kept _ (List.getLast_mem filled)⟩

theorem trimBy_eq_rdropWhile : trimBy drop chars = (chars.dropWhile drop).rdropWhile drop := rfl

theorem isTrimmed_trimBy : IsTrimmed drop (trimBy drop chars) := by
  rw [trimBy_eq_rdropWhile]
  intro filled
  refine ⟨?_, by simpa using List.rdropWhile_last_not drop _ filled⟩
  have start : (chars.dropWhile drop).rdropWhile drop <+: chars.dropWhile drop :=
    List.rdropWhile_prefix drop _
  have kept : chars.dropWhile drop ≠ [] := fun empty => filled (by simp [empty])
  rw [start.head filled]
  exact List.head_dropWhile_not drop kept

/-- What is dropped at the ends is to be dropped. -/
theorem exists_trimBy (drop : Char → Bool) (chars : List Char) : ∃ before after,
    chars = before ++ trimBy drop chars ++ after ∧ (∀ c ∈ before, drop c = true) ∧
      ∀ c ∈ after, drop c = true := by
  refine ⟨chars.takeWhile drop, (chars.dropWhile drop).rtakeWhile drop, ?_,
    fun c member => List.mem_takeWhile_imp member, fun c member => List.mem_rtakeWhile_imp member⟩
  rw [trimBy_eq_rdropWhile, List.append_assoc, List.rdropWhile_append_rtakeWhile,
    List.takeWhile_append_dropWhile]

theorem trimBy_append (first : ∀ c ∈ before, drop c = true) (last : ∀ c ∈ after, drop c = true)
    (trimmed : IsTrimmed drop middle) : trimBy drop (before ++ middle ++ after) = middle := by
  rw [trimBy, List.append_assoc, List.dropWhile_append_of_pos first]
  cases middle with
  | nil =>
    rw [List.nil_append, List.dropWhile_eq_nil_iff.mpr last]
    rfl
  | cons c rest =>
    obtain ⟨head, tail⟩ := trimmed (List.cons_ne_nil c rest)
    have front : ((c :: rest) ++ after).dropWhile drop = (c :: rest) ++ after :=
      List.dropWhile_cons_of_neg (by simpa using head)
    have back : (c :: rest).rdropWhile drop = c :: rest :=
      List.rdropWhile_eq_self_iff.mpr fun _ => by simpa using tail
    rw [front, List.reverse_append, List.dropWhile_append_of_pos (by simpa using last)]
    exact back

theorem trimBy_of_isTrimmed (trimmed : IsTrimmed drop chars) : trimBy drop chars = chars := by
  have same := trimBy_append (List.forall_mem_nil _) (List.forall_mem_nil _) trimmed
  rwa [List.nil_append, List.append_nil] at same

/-- Nothing is left where everything is to be dropped. -/
theorem trimBy_eq_nil_iff : trimBy drop chars = [] ↔ ∀ c ∈ chars, drop c = true := by
  constructor
  · intro empty
    obtain ⟨before, after, parts, first, last⟩ := exists_trimBy drop chars
    rw [parts, empty, List.append_nil]
    exact List.forall_mem_append.mpr ⟨first, last⟩
  · intro all
    have nothing := trimBy_append all (List.forall_mem_nil _)
      (isTrimmed_of_forall (List.forall_mem_nil fun c => drop c = false))
    rwa [List.append_nil, List.append_nil] at nothing

/-- **What trimming leaves** is what stands between characters to drop and has none at its ends. -/
theorem trimBy_eq_iff : trimBy drop chars = middle ↔ ∃ before after,
    chars = before ++ middle ++ after ∧ (∀ c ∈ before, drop c = true) ∧
      (∀ c ∈ after, drop c = true) ∧ IsTrimmed drop middle := by
  constructor
  · rintro rfl
    obtain ⟨before, after, parts, first, last⟩ := exists_trimBy drop chars
    exact ⟨before, after, parts, first, last, isTrimmed_trimBy⟩
  · rintro ⟨before, after, rfl, first, last, trimmed⟩
    exact trimBy_append first last trimmed

end SealedGrant.Text
