import Mathlib
import SealedGrant.Proofs.Json.Equality

/-! # Members that are merged

Where no name occurs twice in the members that are merged in, their values win and all others stay
(`SealedGrant.Members.get?_merge`). Merging repeats no name, and neither does leaving members out
(`SealedGrant.Members.nodup_merge`, `SealedGrant.Members.get?_filter`).
-/

namespace SealedGrant

namespace Members

theorem get?_append (left right : Members) (name : String) :
    get? (left ++ right) name = (left.get? name).or (right.get? name) :=
  List.lookup_append

theorem get?_cons (key : String) (value : Json) (rest : Members) (name : String) :
    get? ((key, value) :: rest) name = if name = key then some value else rest.get? name := by
  simp only [get?, List.lookup_cons]
  by_cases same : name = key
  · simp [same]
  · have differs : (name == key) = false := by simpa using same
    simp [same, differs]

@[simp] theorem get?_nil (name : String) : get? [] name = none := rfl

theorem get?_eq_none_of_not_mem {members : Members} {name : String}
    (absent : name ∉ members.names) : members.get? name = none := by
  induction members with
  | nil => rfl
  | cons member rest ih =>
    obtain ⟨first, others⟩ := not_or.mp (List.mem_cons.not.mp absent)
    rw [get?_cons, if_neg first, ih others]

theorem get?_set (members : Members) (name : String) (value : Json) (other : String) :
    (members.set name value).get? other = if other = name then some value
      else members.get? other := by
  split
  · next same =>
    subst same
    exact get?_set_self members other value
  · next differs => exact get?_set_of_ne members value differs

theorem nodup_set {members : Members} (distinct : members.names.Nodup) (name : String)
    (value : Json) : (members.set name value).names.Nodup := by
  rw [names_set]
  split
  · exact distinct
  · next absent =>
    exact List.Nodup.append distinct (List.nodup_singleton _)
      (List.disjoint_singleton.mpr absent)

theorem merge_cons (left : Members) (name : String) (value : Json) (rest : Members) :
    left.merge ((name, value) :: rest) = (left.set name value).merge rest := rfl

theorem nodup_merge {left : Members} (distinct : left.names.Nodup) (right : Members) :
    (left.merge right).names.Nodup := by
  induction right generalizing left with
  | nil => exact distinct
  | cons member rest ih => exact ih (nodup_set distinct member.1 member.2)

/-- What is merged was in one of both. -/
theorem mem_of_mem_merge {left right : Members} {member : String × Json}
    (found : member ∈ left.merge right) : member ∈ left ∨ member ∈ right := by
  induction right generalizing left with
  | nil => exact Or.inl found
  | cons next rest ih =>
    rcases ih found with first | later
    · rcases mem_of_mem_set first with rfl | old
      · exact Or.inr List.mem_cons_self
      · exact Or.inl old
    · exact Or.inr (List.mem_cons_of_mem _ later)

/-- **Members that are merged in win** over those that are there. -/
theorem get?_merge (left : Members) {right : Members} (distinct : right.names.Nodup)
    (name : String) : (left.merge right).get? name = (right.get? name).or (left.get? name) := by
  induction right generalizing left with
  | nil => rfl
  | cons member rest ih =>
    obtain ⟨key, value⟩ := member
    obtain ⟨fresh, others⟩ := List.nodup_cons.mp distinct
    rw [merge_cons, ih _ others, get?_set, get?_cons]
    by_cases same : name = key
    · subst same
      rw [if_pos rfl, if_pos rfl, get?_eq_none_of_not_mem fresh]
      rfl
    · rw [if_neg same, if_neg same]

/-- Members that are left out by name are gone, and all others stay. -/
theorem get?_filter (members : Members) (keep : String → Bool) (name : String) :
    get? (members.filter fun member => keep member.1) name =
      if keep name then members.get? name else none := by
  induction members with
  | nil => simp
  | cons member rest ih =>
    obtain ⟨key, value⟩ := member
    rw [List.filter_cons, get?_cons]
    by_cases same : name = key
    · subst same
      cases kept : keep name with
      | true => simp [get?_cons]
      | false => simpa [kept] using ih
    · cases kept : keep key with
      | true => simpa [kept, get?_cons, same] using ih
      | false => simpa [kept, same] using ih

theorem nodup_filter {members : Members} (distinct : members.names.Nodup)
    (keep : String × Json → Bool) : (names (members.filter keep)).Nodup :=
  distinct.sublist (List.filter_sublist.map _)

end Members
end SealedGrant
