import Mathlib
import SealedGrant.ClaimSet.Mapping
import SealedGrant.Proofs.Json.Reordering
import SealedGrant.Proofs.Number.Form

/-! # Equal values and their forms

Equality of values is blind to the order of members and to the form of a number: `1`, `1.0` and
`true` are equal, and so are the two zeros. The canonical text shows the forms. What equality leaves
out is found place by place, along the paths into a value: two equal values have one canonical text
exactly when their numbers have one form at every place
(`SealedGrant.Json.canonical_eq_iff_same`).
-/

namespace SealedGrant.Json

/-- A step from an array or an object to a value in it. -/
inductive Step where
  | item (position : ℕ)
  | member (name : String)

/-- The value that a path leads to. -/
def reach? : Json → List Step → Option Json
  | value, [] => some value
  | .array items, .item position :: path => items[position]?.bind fun item => item.reach? path
  | .object members, .member name :: path =>
      (Members.get? members name).bind fun value => value.reach? path
  | _, _ :: _ => none

/-- The form of a value that counts as a number. -/
inductive Form where
  | truth
  | integer
  | double (negative : Bool)

def form? : Json → Option Form
  | .bool _ => some .truth
  | .number (.int _) => some .integer
  | .number (.double d) => some (.double d.isNegative)
  | .null | .string _ | .array _ | .object _ => none

/-- Two values have numbers at the same places, and of one form at each. -/
def SameForms (left right : Json) : Prop :=
  ∀ path, (left.reach? path).bind form? = (right.reach? path).bind form?

/-! ## Places of a sorted value -/

theorem form?_sorted (value : Json) : value.sorted.form? = value.form? := by
  cases value <;> rfl

theorem get?_sorted {members : Members} (distinct : members.names.Nodup) (name : String) :
    Members.get? ((sortedMembers members).mergeSort fun left right => decide (left.1 ≤ right.1))
      name = (members.get? name).map sorted := by
  rw [Members.get?_perm (List.mergeSort_perm _ _) (names_sortedMembers members ▸ distinct),
    sortedMembers_eq_map, Members.get?_map]

/-- Sorting moves no value to another place. -/
theorem reach?_sorted {value : Json} (distinct : Distinct value) (path : List Step) :
    value.sorted.reach? path = (value.reach? path).map sorted := by
  induction path generalizing value with
  | nil => rfl
  | cons step path ih =>
    cases step with
    | item position =>
      cases value with
      | array items =>
        simp only [sorted, sortedItems_eq_map, reach?, List.getElem?_map]
        cases held : items[position]? with
        | none => rfl
        | some item =>
          exact ih ((distinctItems_iff items).mp distinct item (List.mem_of_getElem? held))
      | null => rfl
      | bool value => rfl
      | number n => rfl
      | string text => rfl
      | object members => rfl
    | member name =>
      cases value with
      | object members =>
        simp only [sorted, reach?, get?_sorted distinct.1]
        cases held : Members.get? members name with
        | none => rfl
        | some value =>
          exact ih ((distinctMembers_iff members).mp distinct.2 (name, value)
            ((Members.get?_eq_some_iff distinct.1).mp held))
      | null => rfl
      | bool value => rfl
      | number n => rfl
      | string text => rfl
      | array items => rfl

/-- Values with one sorted value have one form at every place. -/
theorem sameForms_of_sorted_eq {left right : Json} (leftDistinct : Distinct left)
    (rightDistinct : Distinct right) (equal : left.sorted = right.sorted) :
    SameForms left right := by
  have shown {value : Json} (distinct : Distinct value) (path : List Step) :
      (value.sorted.reach? path).bind form? = (value.reach? path).bind form? := by
    rw [reach?_sorted distinct]
    cases value.reach? path with
    | none => rfl
    | some held => exact form?_sorted held
  intro path
  rw [← shown leftDistinct, equal, shown rightDistinct]

/-! ## Equal values of the same forms -/

theorem exists_of_array_same {items : List Json} {right : Json}
    (same : (Json.array items).same right = true) :
    ∃ others, right = .array others ∧ sameItems items others = true := by
  cases right with
  | array others => exact ⟨others, rfl, by rwa [Json.same] at same⟩
  | null => cases same
  | bool value => cases same
  | number n => cases same
  | string text => cases same
  | object members => cases same

theorem exists_of_object_same {members : Members} {right : Json}
    (same : (Json.object members).same right = true) :
    ∃ others, right = .object others ∧ members.length = others.length ∧
      sameMembers members others = true := by
  cases right with
  | object others =>
    rw [Json.same, Bool.and_eq_true, beq_iff_eq] at same
    exact ⟨others, rfl, same⟩
  | null => cases same
  | bool value => cases same
  | number n => cases same
  | string text => cases same
  | array items => cases same

/-- Equal numbers of one form are one number. -/
theorem number_eq_of_form?_eq {m n : Number} (equal : (m.same n || m == n) = true)
    (form : (Json.number m).form? = (Json.number n).form?) : m = n := by
  rw [Bool.or_eq_true, beq_iff_eq] at equal
  rcases equal with equal | equal
  · cases m with
    | int m =>
      cases n with
      | int n => exact congrArg Number.int (Number.eq_of_same_int equal)
      | double d => cases form
    | double c =>
      cases n with
      | int n => cases form
      | double d =>
        have sign : c.isNegative = d.isNegative := by
          injection form with form
          injection form
        exact congrArg Number.double (Number.eq_of_same_double sign equal)
  · exact equal

/-- Equal scalars of one form are one value. -/
theorem eq_of_same_of_form?_eq {left right : Json} (scalar : left.isScalar = true)
    (same : left.same right = true) (form : left.form? = right.form?) : left = right := by
  cases left with
  | array items => cases scalar
  | object members => cases scalar
  | null => cases right <;> first | rfl | cases same
  | string text =>
    cases right with
    | string other =>
      rw [Json.same, beq_iff_eq] at same
      exact congrArg Json.string same
    | null => cases same
    | bool value => cases same
    | number n => cases same
    | array items => cases same
    | object members => cases same
  | bool value =>
    cases right with
    | bool other => cases value <;> cases other <;> first | rfl | cases same
    | number n => cases n <;> cases form
    | null => cases form
    | string text => cases form
    | array items => cases form
    | object members => cases form
  | number m =>
    cases right with
    | number n => exact congrArg Json.number (number_eq_of_form?_eq same form)
    | bool value => cases m <;> cases form
    | null => cases m <;> cases form
    | string text => cases m <;> cases form
    | array items => cases m <;> cases form
    | object members => cases m <;> cases form

theorem SameForms.of_cons {first second : Json} {others rest : List Json}
    (forms : SameForms (.array (first :: others)) (.array (second :: rest))) :
    SameForms first second ∧ SameForms (.array others) (.array rest) := by
  refine ⟨fun path => forms (.item 0 :: path), fun path => ?_⟩
  cases path with
  | nil => rfl
  | cons step path =>
    cases step with
    | item position => exact forms (.item (position + 1) :: path)
    | member name => rfl

theorem SameForms.of_get? {left right : Members} (forms : SameForms (.object left) (.object right))
    {name : String} {value other : Json} (held : left.get? name = some value)
    (present : right.get? name = some other) : SameForms value other := by
  intro path
  have agree := forms (.member name :: path)
  rwa [reach?, reach?, held, present, Option.bind_some, Option.bind_some] at agree

/-- As many members as there are, all of them among the others: the others in another order. -/
theorem perm_of_forall_mem {left right : Members} (leftNames : left.names.Nodup)
    (length : left.length = right.length) (all : ∀ member ∈ left, member ∈ right) :
    left.Perm right := by
  have distinct : left.Nodup := List.Nodup.of_map Prod.fst leftNames
  exact (List.subperm_of_subset distinct all).perm_of_length_le length.ge

mutual

/-- **Equal values with the same forms** are sorted alike. -/
theorem sorted_eq_of_same (left right : Json) (leftDistinct : Distinct left)
    (rightDistinct : Distinct right) (same : left.same right = true)
    (forms : SameForms left right) : left.sorted = right.sorted := by
  cases left with
  | array items =>
    obtain ⟨others, rfl, each⟩ := exists_of_array_same same
    exact congrArg Json.array
      (sortedItems_eq_of_same items others leftDistinct rightDistinct each forms)
  | object members =>
    obtain ⟨others, rfl, length, each⟩ := exists_of_object_same same
    have held := mem_sortedMembers_of_same members others leftDistinct.2 rightDistinct each
      fun member found other present =>
        forms.of_get? ((Members.get?_eq_some_iff leftDistinct.1).mpr found) present
    refine sorted_eq_of_perm leftDistinct.1 (perm_of_forall_mem ?_ ?_ held)
    · rw [names_sortedMembers]
      exact leftDistinct.1
    · rw [sortedMembers_eq_map, sortedMembers_eq_map, List.length_map, List.length_map, length]
  | null => rw [eq_of_same_of_form?_eq rfl same (forms [])]
  | bool value => rw [eq_of_same_of_form?_eq rfl same (forms [])]
  | number n => rw [eq_of_same_of_form?_eq rfl same (forms [])]
  | string text => rw [eq_of_same_of_form?_eq rfl same (forms [])]
termination_by structural left

theorem sortedItems_eq_of_same (left right : List Json) (leftDistinct : DistinctItems left)
    (rightDistinct : DistinctItems right) (same : sameItems left right = true)
    (forms : SameForms (.array left) (.array right)) : sortedItems left = sortedItems right := by
  cases left with
  | nil =>
    cases right with
    | nil => rfl
    | cons item rest => cases same
  | cons first others =>
    cases right with
    | nil => cases same
    | cons second rest =>
      rw [sameItems, Bool.and_eq_true] at same
      obtain ⟨head, tail⟩ := forms.of_cons
      rw [sortedItems, sortedItems,
        sorted_eq_of_same first second leftDistinct.1 rightDistinct.1 same.1 head,
        sortedItems_eq_of_same others rest leftDistinct.2 rightDistinct.2 same.2 tail]
termination_by structural left

/-- Each sorted member of the first object is one of the second. -/
theorem mem_sortedMembers_of_same (left : List (String × Json)) (right : Members)
    (leftDistinct : DistinctMembers left) (rightDistinct : Distinct (.object right))
    (same : sameMembers left right = true) (forms : ∀ member ∈ left, ∀ other,
      right.get? member.1 = some other → SameForms member.2 other) :
    ∀ member ∈ sortedMembers left, member ∈ sortedMembers right := by
  cases left with
  | nil => simp [sortedMembers]
  | cons first rest =>
    obtain ⟨name, value⟩ := first
    rw [sameMembers, Bool.and_eq_true] at same
    cases present : right.get? name with
    | none =>
      rw [present] at same
      cases same.1
    | some other =>
      rw [present] at same
      have listed := (Members.get?_eq_some_iff rightDistinct.1).mp present
      have otherDistinct : Distinct other :=
        (distinctMembers_iff right).mp rightDistinct.2 (name, other) listed
      have equal := sorted_eq_of_same value other leftDistinct.1 otherDistinct same.1
        (forms (name, value) List.mem_cons_self other present)
      have later := mem_sortedMembers_of_same rest right leftDistinct.2 rightDistinct same.2
        fun member found => forms member (List.mem_cons_of_mem _ found)
      rw [sortedMembers, List.forall_mem_cons]
      refine ⟨?_, later⟩
      rw [equal, sortedMembers_eq_map]
      exact List.mem_map_of_mem (f := fun member => (member.1, member.2.sorted)) listed
termination_by structural left

end

/-- **Equality and the canonical text**: the canonical texts of two values are one exactly when the
values are equal and their numbers have one form at every place. -/
theorem canonical_eq_iff_same {left right : Json} (leftDistinct : Distinct left)
    (rightDistinct : Distinct right) {first second : String}
    (leftWritten : left.canonical = .ok first) (rightWritten : right.canonical = .ok second) :
    first = second ↔ left.same right = true ∧ SameForms left right := by
  rw [← reordered_iff_canonical_eq leftDistinct leftWritten rightWritten,
    reordered_iff_sorted_eq leftDistinct]
  constructor
  · intro equal
    have canonical : left.canon = right.canon := by
      rw [canon_eq_sorted leftDistinct, canon_eq_sorted rightDistinct, equal]
    exact ⟨same_of_canon_eq left right leftDistinct rightDistinct canonical,
      sameForms_of_sorted_eq leftDistinct rightDistinct equal⟩
  · rintro ⟨same, forms⟩
    exact sorted_eq_of_same left right leftDistinct rightDistinct same forms

end SealedGrant.Json
