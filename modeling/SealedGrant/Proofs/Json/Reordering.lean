import Mathlib
import SealedGrant.Proofs.Json.Equality
import SealedGrant.Proofs.Json.Unambiguous

/-! # Values up to the order of members

Values that differ in the order of members only, at any depth, are `Reordered`. Nothing else is
left out of account: an integer, a double and a truth value of one worth stay three values. Where
no object repeats a name, sorting the members gives one value for all the orders
(`SealedGrant.Json.reordered_iff_sorted_eq`), so the canonical texts of two such values are one
exactly when the values are reordered (`SealedGrant.Json.reordered_iff_canonical_eq`).
-/

namespace SealedGrant.Json

/-- Values that differ in the order of the members of objects, at any depth, and in nothing else. -/
inductive Reordered : Json → Json → Prop
  | refl (value : Json) : Reordered value value
  | symm {left right : Json} : Reordered left right → Reordered right left
  | trans {left middle right : Json} :
      Reordered left middle → Reordered middle right → Reordered left right
  /-- Members in another order. -/
  | members {left right : Members} : left.Perm right → Reordered (.object left) (.object right)
  /-- An item of an array, in its place. -/
  | item (before after : List Json) {left right : Json} : Reordered left right →
      Reordered (.array (before ++ left :: after)) (.array (before ++ right :: after))
  /-- The value of a member, under its name. -/
  | member (before after : Members) (name : String) {left right : Json} : Reordered left right →
      Reordered (.object (before ++ (name, left) :: after))
        (.object (before ++ (name, right) :: after))

theorem sortedItems_eq_map (items : List Json) : sortedItems items = items.map sorted := by
  induction items with
  | nil => rfl
  | cons item rest ih => rw [sortedItems, ih, List.map_cons]

namespace Reordered

/-- Another order repeats no name that was not repeated before. -/
theorem distinct_iff {left right : Json} (reordered : Reordered left right) :
    Distinct left ↔ Distinct right := by
  induction reordered with
  | refl value => exact Iff.rfl
  | symm _ ih => exact ih.symm
  | trans _ _ first second => exact first.trans second
  | members perm =>
    simp only [Distinct, distinctMembers_iff, perm.mem_iff, (perm.map Prod.fst).nodup_iff]
  | item before after _ ih =>
    simp only [Distinct, distinctItems_iff, List.forall_mem_append, List.forall_mem_cons, ih]
  | member before after name _ ih =>
    simp only [Distinct, distinctMembers_iff, List.forall_mem_append, List.forall_mem_cons, ih,
      List.map_append, List.map_cons]

end Reordered

theorem names_sortedMembers (members : Members) :
    Members.names (sortedMembers members) = members.names := by
  rw [sortedMembers_eq_map, Members.names_map]

/-- Members without repeated names are sorted alike from every order. -/
theorem mergeSort_eq_of_perm {left right : Members} (distinct : left.names.Nodup)
    (perm : left.Perm right) :
    (left.mergeSort fun first second => decide (first.1 ≤ second.1)) =
      right.mergeSort fun first second => decide (first.1 ≤ second.1) := by
  have ascending (members : Members) := List.pairwise_map.mp (pairwise_mergeSort_names members)
  refine List.Perm.eq_of_pairwise ?_ (ascending _) (ascending _)
    ((List.mergeSort_perm _ _).trans (perm.trans (List.mergeSort_perm _ _).symm))
  intro first second here there below above
  rw [List.mem_mergeSort] at here there
  exact List.inj_on_of_nodup_map distinct here (perm.mem_iff.mpr there)
    (le_antisymm below above)

theorem sorted_eq_of_perm {left right : Members} (distinct : left.names.Nodup)
    (perm : (sortedMembers left).Perm (sortedMembers right)) :
    (Json.object left).sorted = (Json.object right).sorted :=
  congrArg Json.object
    (mergeSort_eq_of_perm (by rwa [names_sortedMembers left]) perm)

theorem Reordered.sorted_eq {left right : Json} (reordered : Reordered left right)
    (distinct : Distinct left) : left.sorted = right.sorted := by
  induction reordered with
  | refl value => rfl
  | symm reordered ih => exact (ih (reordered.distinct_iff.mpr distinct)).symm
  | trans reordered _ first second =>
    exact (first distinct).trans (second (reordered.distinct_iff.mp distinct))
  | members perm =>
    refine sorted_eq_of_perm distinct.1 ?_
    rw [sortedMembers_eq_map, sortedMembers_eq_map]
    exact perm.map _
  | item before after _ ih =>
    have held := (distinctItems_iff _).mp distinct _ (List.mem_append_right _ List.mem_cons_self)
    simp only [sorted, sortedItems_eq_map, List.map_append, List.map_cons, ih held]
  | member before after name _ ih =>
    have held := (distinctMembers_iff _).mp distinct.2 _
      (List.mem_append_right _ List.mem_cons_self)
    simp only [sorted, sortedMembers_eq_map, List.map_append, List.map_cons, ih held]

mutual

/-- **A value with its members sorted** is the value in another order. -/
theorem reordered_sorted (value : Json) : Reordered value value.sorted := by
  cases value with
  | null => exact .refl _
  | bool value => exact .refl _
  | number n => exact .refl _
  | string text => exact .refl _
  | array items => exact reordered_sortedItems [] items
  | object members =>
    exact (reordered_sortedMembers [] members).trans
      (.members (List.mergeSort_perm _ _).symm)

theorem reordered_sortedItems (before items : List Json) :
    Reordered (.array (before ++ items)) (.array (before ++ sortedItems items)) := by
  cases items with
  | nil => exact .refl _
  | cons item rest =>
    have later := reordered_sortedItems (before ++ [item.sorted]) rest
    rw [List.append_assoc, List.append_assoc] at later
    exact (Reordered.item before rest (reordered_sorted item)).trans later

theorem reordered_sortedMembers (before members : List (String × Json)) :
    Reordered (.object (before ++ members)) (.object (before ++ sortedMembers members)) := by
  cases members with
  | nil => exact .refl _
  | cons member rest =>
    obtain ⟨name, value⟩ := member
    have later := reordered_sortedMembers (before ++ [(name, value.sorted)]) rest
    rw [List.append_assoc, List.append_assoc] at later
    exact (Reordered.member before rest name (reordered_sorted value)).trans later

end

theorem ordered_sorted {value : Json} (distinct : Distinct value) : Ordered value.sorted :=
  canon_eq_sorted distinct ▸ ordered_canon value

section

variable {left right : Json} (leftDistinct : Distinct left) (rightDistinct : Distinct right)

include leftDistinct

/-- **Values are reordered exactly when they have one sorted value.** -/
theorem reordered_iff_sorted_eq : Reordered left right ↔ left.sorted = right.sorted := by
  constructor
  · exact fun reordered => reordered.sorted_eq leftDistinct
  · intro equal
    exact (reordered_sorted left).trans (equal ▸ (reordered_sorted right).symm)

/-- **Values that can be written are reordered exactly when they have one canonical text.** -/
theorem reordered_iff_canonical_eq {first second : String}
    (leftWritten : left.canonical = .ok first) (rightWritten : right.canonical = .ok second) :
    Reordered left right ↔ first = second := by
  obtain ⟨leftReadable, rfl⟩ := canonical_eq_ok_iff.mp leftWritten
  obtain ⟨rightReadable, rfl⟩ := canonical_eq_ok_iff.mp rightWritten
  have leftFinite := (allNumbers_isReadable_iff.mp leftReadable).1
  have rightFinite := (allNumbers_isReadable_iff.mp rightReadable).1
  rw [reordered_iff_sorted_eq leftDistinct]
  exact ⟨congrArg _, render_injective (by rwa [isFinite, allNumbers_sorted])
    (by rwa [isFinite, allNumbers_sorted])⟩

end

end SealedGrant.Json
