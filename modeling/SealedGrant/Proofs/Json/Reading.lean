import Mathlib
import SealedGrant.Proofs.Json.Scan

/-! # Reading what was written

The machine that turns lexemes into a value gives back the written value, except that of several
members of one name it keeps the last value in the place of the first (`SealedGrant.Json.settled`).
With the scanner, every readable value is read from its text (`SealedGrant.Json.read_render`).
-/

namespace SealedGrant.Json

mutual

/-- A value as it is read back: of several members of one name the last value counts. -/
def settled : Json → Json
  | .array items => .array (settledItems items)
  | .object members => .object (settledMembers [] members)
  | .null => .null
  | .bool value => .bool value
  | .number n => .number n
  | .string text => .string text

/-- Items as they are read back. -/
def settledItems : List Json → List Json
  | [] => []
  | item :: rest => settled item :: settledItems rest

/-- Members as they are read back after others. -/
def settledMembers (before : Members) : List (String × Json) → Members
  | [] => before
  | (name, value) :: rest => settledMembers (before.set name (settled value)) rest

end

/-- An array waits for its first item as for any value, unless it ends at once. -/
theorem run_firstItem (item : Json) (frames : List Frame) (rest : List Lexeme) :
    Build.run ⟨.firstItem, frames⟩ (lexemes item ++ rest) =
      Build.run ⟨.value, .items [] :: frames⟩ (lexemes item ++ rest) := by
  cases item <;> rfl

mutual

/-- **The machine reads the lexemes of a value as that value.** -/
theorem run_lexemes (value : Json) (frames : List Frame) (rest : List Lexeme) :
    Build.run ⟨.value, frames⟩ (lexemes value ++ rest) =
      Build.run ⟨.rest (settled value), frames⟩ rest := by
  cases value with
  | null => rfl
  | bool value => rfl
  | number n => rfl
  | string text => rfl
  | array items =>
    cases items with
    | nil => rfl
    | cons item items =>
      have opened (more : List Lexeme) : Build.run ⟨.value, frames⟩ (.openBracket :: more) =
          Build.run ⟨.firstItem, frames⟩ more := rfl
      simp only [lexemes, itemLexemes, List.cons_append, List.append_assoc, opened, run_firstItem,
        List.nil_append]
      rw [run_lexemes item, run_laterItems items]
      rfl
  | object members =>
    cases members with
    | nil => rfl
    | cons member members =>
      obtain ⟨name, value⟩ := member
      have opened (more : List Lexeme) :
          Build.run ⟨.value, frames⟩ (.openBrace :: .scalar (.string name) :: .colon :: more) =
            Build.run ⟨.value, .members [] name :: frames⟩ more := rfl
      simp only [lexemes, memberLexemes, List.cons_append, List.append_assoc, opened,
        List.nil_append]
      rw [run_lexemes value, run_laterMembers members]
      rfl

theorem run_laterItems (items before : List Json) (last : Json) (frames : List Frame)
    (rest : List Lexeme) :
    Build.run ⟨.rest last, .items before :: frames⟩
        (laterItemLexemes items ++ .closeBracket :: rest) =
      Build.run ⟨.rest (.array ((last :: before).reverse ++ settledItems items)), frames⟩ rest := by
  cases items with
  | nil =>
    simp only [laterItemLexemes, settledItems, List.nil_append, List.append_nil]
    rfl
  | cons item items =>
    have next (more : List Lexeme) :
        Build.run ⟨.rest last, .items before :: frames⟩ (.comma :: more) =
          Build.run ⟨.value, .items (last :: before) :: frames⟩ more := rfl
    simp only [laterItemLexemes, List.cons_append, List.append_assoc, next]
    rw [run_lexemes item, run_laterItems items]
    simp [settledItems]

theorem run_laterMembers (members before : List (String × Json)) (name : String) (last : Json)
    (frames : List Frame) (rest : List Lexeme) :
    Build.run ⟨.rest last, .members before name :: frames⟩
        (laterMemberLexemes members ++ .closeBrace :: rest) =
      Build.run ⟨.rest (.object (settledMembers (Members.set before name last) members)), frames⟩
        rest := by
  cases members with
  | nil => rfl
  | cons member members =>
    obtain ⟨key, value⟩ := member
    have next (more : List Lexeme) :
        Build.run ⟨.rest last, .members before name :: frames⟩
            (.comma :: .scalar (.string key) :: .colon :: more) =
          Build.run ⟨.value, .members (Members.set before name last) key :: frames⟩ more := rfl
    simp only [laterMemberLexemes, List.cons_append, List.append_assoc, next]
    rw [run_lexemes value, run_laterMembers members]
    rfl

end

theorem ofLexemes_lexemes (value : Json) : ofLexemes (lexemes value) = .ok (settled value) := by
  have run := run_lexemes value [] []
  rw [List.append_nil] at run
  rw [ofLexemes, run]
  rfl

/-- **A written value is read back.** -/
theorem read_render {style : Style} (separates : style.Separates) (words : Words) {value : Json}
    (readable : value.allNumbers isReadable = true) :
    read words (value.render style) = .ok value.settled := by
  have nothing : Ends [] := by
    intro c head
    cases head
  have scanned := scanFrom_write separates words value readable nothing
  have stop : scanFrom words .between [] = [] := rfl
  rw [List.append_nil, stop, List.append_nil] at scanned
  rw [read, render, String.toList_ofList, scanned]
  exact ofLexemes_lexemes value

end SealedGrant.Json
