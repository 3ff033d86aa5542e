import Mathlib
import SealedGrant.ClaimSet.Mapping
import SealedGrant.Proofs.Json.Reordering
import SealedGrant.Proofs.Json.Unspaced

/-! # The canonical encoding

An object is encoded alike as a mapping and as a claim set
(`SealedGrant.Mapping.encode_ofJson_object`). Where its numbers are finite, and have no more digits
than are written, the text lays out the object with the names of every object in it ascending, and
has no blank outside strings (`SealedGrant.ClaimSet.Encoded`); and two objects are encoded alike
exactly when they differ in the order of members only
(`SealedGrant.ClaimSet.encode_eq_iff_reordered`).
-/

namespace SealedGrant

namespace Mapping

/-- The entry of a member. -/
def entryOf (member : String × Json) : Entry :=
  ⟨.string member.1, member.2⟩

theorem inKeyOrder_entryOf (members : Members) :
    inKeyOrder (members.map entryOf) =
      .ok ((members.mergeSort fun left right => decide (left.1 ≤ right.1)).map entryOf) := by
  have texts : (members.map entryOf).all (fun entry => entry.key.string?.isSome) = true := by
    rw [List.all_map, List.all_eq_true]
    intro member _
    rfl
  have moved := List.map_mergeSort (l := members) (f := entryOf)
    (r := fun left right => decide (left.1 ≤ right.1))
    (s := fun left right => decide (left.name ≤ right.name)) fun _ _ _ _ => rfl
  rw [inKeyOrder, if_pos texts, moved]

/-- Texts as keys add no numbers to those of the values. -/
theorem writeError?_parts (members : Members) :
    (Json.array ((members.map entryOf).flatMap
      fun entry => [entry.key, entry.value.sorted])).writeError? =
        (Json.object ((members.map entryOf).map
          fun entry => (entry.name, entry.value.sorted))).writeError? := by
  have same : Json.numbersIn ((members.map entryOf).flatMap
      fun entry => [entry.key, entry.value.sorted]) =
        Json.numbersOf ((members.map entryOf).map
          fun entry => (entry.name, entry.value.sorted)) := by
    induction members with
    | nil => rfl
    | cons member rest ih =>
      simp only [List.map_cons, List.flatMap_cons, List.cons_append, List.nil_append,
        Json.numbersIn, Json.numbersOf, ih]
      rfl
  rw [Json.writeError?, Json.writeError?, Json.numbers, Json.numbers, same]

/-- **An object is encoded as its claim set is.** -/
theorem encode_ofJson_object (members : Members) :
    ofJson (.object members) >>= encode =
      (ClaimSet.encode ⟨members⟩).mapError fun cause => .defect (.ofWriteError cause) := by
  have ordered := inKeyOrder_entryOf members
  have laidOut : Json.object (((members.mergeSort fun left right =>
      decide (left.1 ≤ right.1)).map entryOf).map fun entry => (entry.name, entry.value.sorted)) =
        (Json.object members).sorted := by
    rw [Json.sorted, Json.sortedMembers_eq_map, ← Members.map_mergeSort_names Json.sorted,
      List.map_map]
    rfl
  change encode (members.map entryOf) = _
  rw [encode, ordered]
  dsimp only [bind, Except.bind]
  rw [writeError?_parts, laidOut, ClaimSet.encode, Json.canonical, Json.renderFinite]
  cases (Json.object members).sorted.writeError? <;> rfl

end Mapping

namespace ClaimSet

open Json

/-- A text that an object is encoded as. -/
structure Encoded (members : Members) (text : String) : Prop where
  mapping : Mapping.ofJson (.object members) >>= Mapping.encode = .ok text
  claims : ClaimSet.encode ⟨members⟩ = .ok text
  /-- The names of every object ascend strictly, by code point. -/
  ordered : ∃ value, Reordered (.object members) value ∧ Ordered value ∧
    text = value.render .compact
  unspaced : Unspaced text.toList

/-- How an object is encoded: as a text, unless a number has more digits than are written. No such
number is read, or built into a claim set. -/
structure Encodes (members : Members) : Prop where
  encoded : (Json.object members).allNumbers isWritable = true → ∃ text, Encoded members text
  refused : (Json.object members).allNumbers isWritable = false →
    Mapping.ofJson (.object members) >>= Mapping.encode = .error (.defect .tooManyDigits) ∧
      ClaimSet.encode ⟨members⟩ = .error .tooManyDigits

/-- **Every object of finite numbers is encoded**, if they have no more digits than are written. -/
theorem encodes_of_isFinite {members : Members} (distinct : Distinct (.object members))
    (finite : (Json.object members).isFinite = true) : Encodes members where
  encoded writable := by
    have sortedFinite : (Json.object members).sorted.isFinite = true :=
      (allNumbers_sorted _ _).trans finite
    have written : ClaimSet.encode ⟨members⟩ =
        .ok ((Json.object members).sorted.render .compact) :=
      canonical_eq_ok_iff.mpr ⟨allNumbers_isReadable_iff.mpr ⟨finite, writable⟩, rfl⟩
    have visible : Unspaced (((Json.object members).sorted.write .compact) ++ []) :=
      unspaced_write _ sortedFinite fun c inside => by cases inside
    have mapping := Mapping.encode_ofJson_object members
    rw [written] at mapping
    refine ⟨_, mapping, written, ⟨_, reordered_sorted _, ordered_sorted distinct, rfl⟩, ?_⟩
    rwa [render, String.toList_ofList, ← List.append_nil (write _ _)]
  refused unwritable := by
    have long : (Json.object members).sorted.writeError? = some .tooManyDigits :=
      writeError?_eq_tooManyDigits ((allNumbers_sorted _ _).trans finite)
        ((allNumbers_sorted _ _).trans unwritable)
    have unwritten : ClaimSet.encode ⟨members⟩ = .error .tooManyDigits := by
      rw [ClaimSet.encode, canonical, renderFinite, long]
    have mapping := Mapping.encode_ofJson_object members
    rw [unwritten] at mapping
    exact ⟨mapping, unwritten⟩

/-- **The encoding is a canonical form**: objects of finite numbers are encoded, if these have no
more digits than are written, and two of them alike exactly when they differ in the order of members
only. -/
theorem encode_eq_iff_reordered {left right : Members} (leftDistinct : Distinct (.object left))
    (rightDistinct : Distinct (.object right)) (leftFinite : (Json.object left).isFinite = true)
    (rightFinite : (Json.object right).isFinite = true) :
    Encodes left ∧ Encodes right ∧ ∀ first second, Encoded left first → Encoded right second →
      (first = second ↔ Reordered (.object left) (.object right)) := by
  refine ⟨encodes_of_isFinite leftDistinct leftFinite,
    encodes_of_isFinite rightDistinct rightFinite,
    fun first second leftEncoded rightEncoded => ?_⟩
  exact (reordered_iff_canonical_eq leftDistinct leftEncoded.claims rightEncoded.claims).symm

/-- Two orders of one object, with another object in it, are encoded as one text. -/
theorem encoded_alike_in_two_orders : ∃ text,
    Encoded [("b", .number (.int 1)), ("a", .object [("d", .null), ("c", .bool true)])] text ∧
    Encoded [("a", .object [("c", .bool true), ("d", .null)]), ("b", .number (.int 1))] text := by
  obtain ⟨left, right, iff⟩ := encode_eq_iff_reordered
    (show Distinct (.object [("b", .number (.int 1)),
      ("a", .object [("d", .null), ("c", .bool true)])]) by simp [Distinct, DistinctMembers])
    (show Distinct (.object [("a", .object [("c", .bool true), ("d", .null)]),
      ("b", .number (.int 1))]) by simp [Distinct, DistinctMembers]) rfl rfl
  have one : isWritable (.int 1) = true := (isReadable_iff.mp (by decide)).2
  obtain ⟨first, leftEncoded⟩ := left.encoded (by simp [allNumbers, allNumbersOf, one])
  obtain ⟨second, rightEncoded⟩ := right.encoded (by simp [allNumbers, allNumbersOf, one])
  have outer := Reordered.members (List.Perm.swap ("a", .object [("d", .null), ("c", .bool true)])
    ("b", .number (.int 1)) [])
  have inner := Reordered.member [] [("b", .number (.int 1))] "a"
    (.members (List.Perm.swap ("c", .bool true) ("d", .null) []))
  obtain rfl := (iff first second leftEncoded rightEncoded).mpr (outer.trans inner)
  exact ⟨first, leftEncoded, rightEncoded⟩

end ClaimSet
end SealedGrant
