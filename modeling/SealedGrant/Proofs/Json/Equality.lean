import Mathlib
import SealedGrant.Proofs.Json.Canonical

/-! # Values up to the order of members

Values in which no object repeats a name are equal when their canonical values are
(`SealedGrant.Json.same_of_canon_eq`). The canonical value of such a value is the value with its
members sorted (`SealedGrant.Json.canon_eq_sorted`), so being written and read back keeps every
member at every depth.
-/

namespace SealedGrant.Json

theorem distinctItems_iff (items : List Json) :
    DistinctItems items ↔ ∀ item ∈ items, Distinct item := by
  induction items with
  | nil => simp [DistinctItems]
  | cons item rest ih => simp [DistinctItems, ih]

theorem distinctMembers_iff (members : Members) :
    DistinctMembers members ↔ ∀ member ∈ members, Distinct member.2 := by
  induction members with
  | nil => simp [DistinctMembers]
  | cons member rest ih => simp [DistinctMembers, ih]

mutual

/-- Sorting repeats no name. -/
theorem distinct_sorted (value : Json) (distinct : Distinct value) : Distinct value.sorted := by
  cases value with
  | null => trivial
  | bool value => trivial
  | number n => trivial
  | string text => trivial
  | array items => exact distinctItems_sorted items distinct
  | object members =>
    have perm := List.mergeSort_perm (sortedMembers members)
      fun left right => decide (left.1 ≤ right.1)
    have names : (sortedMembers members).map Prod.fst = members.map Prod.fst := by
      simp [sortedMembers_eq_map]
    refine ⟨?_, ?_⟩
    · rw [(perm.map Prod.fst).nodup_iff, names]
      exact distinct.1
    · rw [distinctMembers_iff]
      intro member found
      exact (distinctMembers_iff _).mp (distinctMembers_sorted members distinct.2) member
        (perm.mem_iff.mp found)

theorem distinctItems_sorted (items : List Json) (distinct : DistinctItems items) :
    DistinctItems (sortedItems items) := by
  cases items with
  | nil => trivial
  | cons item rest =>
    exact ⟨distinct_sorted item distinct.1, distinctItems_sorted rest distinct.2⟩

theorem distinctMembers_sorted (members : List (String × Json))
    (distinct : DistinctMembers members) : DistinctMembers (sortedMembers members) := by
  cases members with
  | nil => trivial
  | cons member rest =>
    obtain ⟨name, value⟩ := member
    exact ⟨distinct_sorted value distinct.1, distinctMembers_sorted rest distinct.2⟩

end

/-- **The canonical value** of a value without repeated names is the value with its members
sorted. -/
theorem canon_eq_sorted {value : Json} (distinct : Distinct value) : value.canon = value.sorted :=
  settled_of_distinct _ (distinct_sorted value distinct)

theorem distinct_canon (value : Json) : Distinct value.canon :=
  distinct_of_ordered _ (ordered_canon value)

/-- Equal canonical members: each member has one of its name with the same canonical value. -/
theorem exists_of_canonMembers_eq {left right : Members} (leftNames : left.names.Nodup)
    (rightNames : right.names.Nodup) (equal : canonMembers left = canonMembers right) :
    left.length = right.length ∧ ∀ member ∈ left, ∃ value,
      right.get? member.1 = some value ∧ member.2.canon = value.canon := by
  refine ⟨?_, ?_⟩
  · have leftLength := (canonMembers_perm leftNames).length_eq
    have rightLength := (canonMembers_perm rightNames).length_eq
    rw [List.length_map] at leftLength rightLength
    rw [← leftLength, ← rightLength, equal]
  · intro member found
    have held := Members.get?_canon leftNames member.1
    rw [(Members.get?_eq_some_iff leftNames).mpr found, equal, Members.get?_canon rightNames]
      at held
    obtain ⟨value, present, same⟩ := Option.map_eq_some_iff.mp held
    exact ⟨value, present, same.symm⟩

mutual

/-- **Values with one canonical value are equal.** -/
theorem same_of_canon_eq (left right : Json) (leftDistinct : Distinct left)
    (rightDistinct : Distinct right) (equal : left.canon = right.canon) :
    left.same right = true := by
  cases left with
  | array items =>
    cases right with
    | array others =>
      rw [canon_array, canon_array, Json.array.injEq] at equal
      rw [same]
      exact sameItems_of_canon_eq items others leftDistinct rightDistinct equal
    | null => cases equal
    | bool value => cases equal
    | number n => cases equal
    | string text => cases equal
    | object members => cases equal
  | object members =>
    cases right with
    | object others =>
      rw [canon_object, canon_object, Json.object.injEq] at equal
      obtain ⟨length, found⟩ := exists_of_canonMembers_eq leftDistinct.1 rightDistinct.1 equal
      rw [same, Bool.and_eq_true, beq_iff_eq]
      exact ⟨length, sameMembers_of_canon_eq members others leftDistinct.2 rightDistinct found⟩
    | null => cases equal
    | bool value => cases equal
    | number n => cases equal
    | string text => cases equal
    | array items => cases equal
  | null =>
    cases right with
    | null => rw [same]
    | bool value => cases equal
    | number n => cases equal
    | string text => cases equal
    | array items => cases equal
    | object members => cases equal
  | bool value =>
    cases right with
    | bool other =>
      cases equal
      cases value <;> decide
    | null => cases equal
    | number n => cases equal
    | string text => cases equal
    | array items => cases equal
    | object members => cases equal
  | number n =>
    cases right with
    | number other =>
      cases equal
      simp [same, asNumber?]
    | null => cases equal
    | bool value => cases equal
    | string text => cases equal
    | array items => cases equal
    | object members => cases equal
  | string text =>
    cases right with
    | string other =>
      cases equal
      rw [same, beq_self_eq_true]
    | null => cases equal
    | bool value => cases equal
    | number n => cases equal
    | array items => cases equal
    | object members => cases equal

theorem sameItems_of_canon_eq (left right : List Json) (leftDistinct : DistinctItems left)
    (rightDistinct : DistinctItems right) (equal : left.map canon = right.map canon) :
    sameItems left right = true := by
  cases left with
  | nil =>
    cases right with
    | nil => rw [sameItems]
    | cons item rest => cases equal
  | cons first others =>
    cases right with
    | nil => cases equal
    | cons second rest =>
      rw [List.map_cons, List.map_cons, List.cons.injEq] at equal
      rw [sameItems, Bool.and_eq_true]
      exact ⟨same_of_canon_eq first second leftDistinct.1 rightDistinct.1 equal.1,
        sameItems_of_canon_eq others rest leftDistinct.2 rightDistinct.2 equal.2⟩

theorem sameMembers_of_canon_eq (left : List (String × Json)) (right : Members)
    (leftDistinct : DistinctMembers left) (rightDistinct : Distinct (.object right))
    (found : ∀ member ∈ left, ∃ value, right.get? member.1 = some value ∧
      member.2.canon = value.canon) : sameMembers left right = true := by
  cases left with
  | nil => rw [sameMembers]
  | cons member rest =>
    obtain ⟨name, first⟩ := member
    obtain ⟨value, present, equal⟩ := found (name, first) List.mem_cons_self
    have listed := (Members.get?_eq_some_iff rightDistinct.1).mp present
    have distinct : Distinct value :=
      (distinctMembers_iff right).mp rightDistinct.2 (name, value) listed
    rw [sameMembers, present, Bool.and_eq_true]
    exact ⟨same_of_canon_eq first value leftDistinct.1 distinct equal,
      sameMembers_of_canon_eq rest right leftDistinct.2 rightDistinct fun member later =>
        found member (List.mem_cons_of_mem _ later)⟩

end

end SealedGrant.Json
