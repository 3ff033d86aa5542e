import Mathlib
import SealedGrant.Json.Reader

/-! # What holds of whatever is read

A property that the scalars of a text have, and that arrays and objects take from what they hold,
holds of every value that is read (`SealedGrant.Json.KeptByReading.of_read`,
`SealedGrant.Json.KeptByReading.of_readBytes`). The scanner makes scalars only, and the machine
makes arrays of the items so far and sets members in the members so far, so each of its steps keeps
the property of all that it holds (`SealedGrant.Json.Build.Satisfies.step`).
-/

namespace SealedGrant.Json

/-- A property that scalars have when they are read, and that passes from what arrays and objects
hold to them. An object grows by setting one member after the other. -/
structure KeptByReading (holds : Json → Prop) : Prop where
  word : ∀ {words : Words} {text : String} {value : Json}, word? words text = some value →
    holds value
  number : ∀ {chars : List Char} {n : Number}, readNumber chars = .ok n → holds (.number n)
  string : ∀ text : String, holds (.string text)
  array : ∀ {items : List Json}, (∀ item ∈ items, holds item) → holds (.array items)
  empty : holds (.object [])
  set : ∀ {members : Members} {name : String} {value : Json}, holds (.object members) →
    holds value → holds (.object (members.set name value))

variable {holds : Json → Prop}

/-! ## The scanner -/

/-- What a lexeme carries satisfies a property. -/
def Lexeme.Satisfies (holds : Json → Prop) : Lexeme → Prop
  | .scalar value => holds value
  | _ => True

theorem satisfies_of_scanBetween (c : Char) :
    ∀ lexeme ∈ (scanBetween c).1, lexeme.Satisfies holds := by
  intro lexeme member
  unfold scanBetween at member
  split at member
  · cases member
  · split at member
    · cases member
    · split at member
      · next found mark =>
        rw [List.mem_singleton.mp member]
        unfold punctuation? at mark
        split at mark <;> cases mark <;> trivial
      · cases member

namespace KeptByReading

variable (kept : KeptByReading holds)

include kept

theorem of_bareScalar {words : Words} {chars : List Char} {value : Json}
    (found : bareScalar words chars = .ok value) : holds value := by
  unfold bareScalar at found
  split at found
  · next value word =>
    cases found
    exact kept.word word
  · cases number : readNumber chars with
    | error cause =>
      rw [number] at found
      cases found
    | ok n =>
      rw [number] at found
      cases found
      exact kept.number number

theorem of_scanStep {words : Words} {scan next : Scan} {c : Char} {lexemes : List Lexeme}
    (stepped : scanStep words scan c = .ok (lexemes, next)) :
    ∀ lexeme ∈ lexemes, lexeme.Satisfies holds := by
  have none : ∀ lexeme ∈ ([] : List Lexeme), lexeme.Satisfies holds :=
    fun _ member => nomatch member
  unfold scanStep at stepped
  split at stepped
  · have between : ∀ lexeme ∈ (scanBetween c).1, lexeme.Satisfies holds :=
      satisfies_of_scanBetween c
    rw [Except.ok.inj stepped] at between
    exact between
  · next seen =>
    split at stepped
    · cases scalar : bareScalar words seen.reverse with
      | error cause =>
        rw [scalar] at stepped
        cases stepped
      | ok value =>
        rw [scalar] at stepped
        cases stepped
        exact List.forall_mem_cons.mpr
          ⟨kept.of_bareScalar scalar, satisfies_of_scanBetween c⟩
    · cases stepped
      exact none
  · split at stepped
    · cases stepped
      exact List.forall_mem_singleton.mpr (kept.string _)
    · split at stepped
      · cases stepped
        exact none
      · split at stepped <;> cases stepped
        exact none
  · split at stepped
    · cases stepped
      exact none
    · split at stepped <;> cases stepped
      exact none
  · next seen high digits =>
    split at stepped
    · cases stepped
    · split at stepped
      · cases unit : afterUnit seen high _ with
        | error cause =>
          rw [unit] at stepped
          cases stepped
        | ok after =>
          rw [unit] at stepped
          cases stepped
          exact none
      · cases stepped
        exact none
  · split at stepped <;> cases stepped
    exact none
  · split at stepped <;> cases stepped
    exact none

theorem of_scanEnd {words : Words} {scan : Scan} {lexemes : List Lexeme}
    (ended : scanEnd words scan = .ok lexemes) : ∀ lexeme ∈ lexemes, lexeme.Satisfies holds := by
  unfold scanEnd at ended
  split at ended
  · cases ended
    exact fun _ member => nomatch member
  · next seen =>
    cases scalar : bareScalar words seen.reverse with
    | error cause =>
      rw [scalar] at ended
      cases ended
    | ok value =>
      rw [scalar] at ended
      cases ended
      exact List.forall_mem_singleton.mpr (kept.of_bareScalar scalar)
  · cases ended

/-- **The lexemes of a text** carry what satisfies the property. -/
theorem of_scanFrom (words : Words) (scan : Scan) (chars : List Char) :
    ∀ lexeme ∈ scanFrom words scan chars, lexeme.Satisfies holds := by
  induction chars generalizing scan with
  | nil =>
    unfold scanFrom
    split
    · next lexemes ended => exact kept.of_scanEnd ended
    · exact List.forall_mem_singleton.mpr trivial
  | cons c rest ih =>
    unfold scanFrom
    split
    · next lexemes after stepped =>
      exact List.forall_mem_append.mpr ⟨kept.of_scanStep stepped, ih after⟩
    · exact List.forall_mem_singleton.mpr trivial

end KeptByReading

/-! ## The machine -/

/-- What an open array or object holds satisfies a property. -/
def Frame.Satisfies (holds : Json → Prop) : Frame → Prop
  | .items before => ∀ item ∈ before, holds item
  | .members before _ => holds (.object before)

/-- What the machine has read, but not yet put into its place, satisfies a property. -/
def Expect.Satisfies (holds : Json → Prop) : Expect → Prop
  | .value | .firstItem | .firstName => True
  | .name before | .colon before _ => holds (.object before)
  | .rest found => holds found

namespace Build

/-- All that the machine holds satisfies a property. -/
structure Satisfies (holds : Json → Prop) (build : Build) : Prop where
  expect : build.expect.Satisfies holds
  frames : ∀ frame ∈ build.frames, frame.Satisfies holds

variable {build later : Build} {lexeme : Lexeme}

theorem satisfies_of_value {frames : List Frame}
    (outer : ∀ frame ∈ frames, frame.Satisfies holds) (plain : lexeme.Satisfies holds)
    (begun : Build.value frames lexeme = .ok later) : later.Satisfies holds := by
  cases lexeme with
  | scalar value =>
    cases begun
    exact ⟨plain, outer⟩
  | openBracket =>
    cases begun
    exact ⟨trivial, outer⟩
  | openBrace =>
    cases begun
    exact ⟨trivial, outer⟩
  | closeBracket => cases begun
  | closeBrace => cases begun
  | colon => cases begun
  | comma => cases begun
  | invalid cause => cases begun

/-- **A step keeps the property.** -/
theorem Satisfies.step (kept : KeptByReading holds) (satisfied : build.Satisfies holds)
    (plain : lexeme.Satisfies holds) (stepped : build.step lexeme = .ok later) :
    later.Satisfies holds := by
  obtain ⟨expect, frames⟩ := build
  have outer {first : Frame} {rest : List Frame} (same : frames = first :: rest) :
      first.Satisfies holds ∧ ∀ frame ∈ rest, frame.Satisfies holds := by
    subst same
    exact List.forall_mem_cons.mp satisfied.frames
  unfold Build.step at stepped
  dsimp only at stepped
  split at stepped
  · exact satisfies_of_value satisfied.frames plain stepped
  · cases stepped
    exact ⟨kept.array (fun _ member => nomatch member), satisfied.frames⟩
  · refine satisfies_of_value (List.forall_mem_cons.mpr ⟨?_, satisfied.frames⟩) plain stepped
    exact fun _ member => nomatch member
  · cases stepped
    exact ⟨kept.empty, satisfied.frames⟩
  · cases stepped
    exact ⟨kept.empty, satisfied.frames⟩
  · cases stepped
    exact ⟨satisfied.expect, satisfied.frames⟩
  · cases stepped
    exact ⟨trivial, List.forall_mem_cons.mpr ⟨satisfied.expect, satisfied.frames⟩⟩
  · cases stepped
    obtain ⟨inner, rest⟩ := outer rfl
    exact ⟨trivial, List.forall_mem_cons.mpr
      ⟨List.forall_mem_cons.mpr ⟨satisfied.expect, inner⟩, rest⟩⟩
  · cases stepped
    obtain ⟨inner, rest⟩ := outer rfl
    refine ⟨kept.array fun item member => ?_, rest⟩
    rcases List.mem_cons.mp (List.mem_reverse.mp member) with rfl | old
    · exact satisfied.expect
    · exact inner item old
  · cases stepped
    obtain ⟨inner, rest⟩ := outer rfl
    exact ⟨kept.set inner satisfied.expect, rest⟩
  · cases stepped
    obtain ⟨inner, rest⟩ := outer rfl
    exact ⟨kept.set inner satisfied.expect, rest⟩
  · cases stepped

/-- **A run keeps the property.** -/
theorem Satisfies.run (kept : KeptByReading holds) (satisfied : build.Satisfies holds)
    {lexemes : List Lexeme} (plain : ∀ lexeme ∈ lexemes, lexeme.Satisfies holds)
    (ran : build.run lexemes = .ok later) : later.Satisfies holds := by
  induction lexemes generalizing build with
  | nil =>
    cases ran
    exact satisfied
  | cons lexeme rest ih =>
    obtain ⟨first, others⟩ := List.forall_mem_cons.mp plain
    rw [Build.run] at ran
    cases stepped : build.step lexeme with
    | error cause =>
      rw [stepped] at ran
      cases ran
    | ok next =>
      rw [stepped] at ran
      exact ih (satisfied.step kept first stepped) others ran

end Build

namespace KeptByReading

variable {words : Words} {value : Json} (kept : KeptByReading holds)

include kept

/-- **The property holds of what is read.** -/
theorem of_read {text : String} (found : read words text = .ok value) : holds value := by
  unfold read ofLexemes at found
  cases ran : Build.run ⟨.value, []⟩ (scanFrom words .between text.toList) with
  | error cause =>
    rw [ran] at found
    cases found
  | ok build =>
    have start : Build.Satisfies holds ⟨.value, []⟩ := ⟨trivial, fun _ member => nomatch member⟩
    have satisfied := start.run kept (kept.of_scanFrom words .between text.toList) ran
    rw [ran] at found
    dsimp only [Bind.bind, Except.bind] at found
    split at found
    · cases found
      exact satisfied.expect
    · cases found

theorem of_readBytes {bytes : Bytes} (found : readBytes words bytes = .ok value) :
    holds value := by
  unfold readBytes at found
  split at found
  · exact kept.of_read found
  · cases found

end KeptByReading
end SealedGrant.Json
