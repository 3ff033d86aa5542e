import Mathlib
import SealedGrant.Proofs.Json.Reading

/-! # Canonical values

A value that is written in canonical form is read back as its canonical value
(`SealedGrant.Json.canon`): the names of every object ascend strictly, whatever the order and the
repetitions of its members were. A canonical value is its own canonical value
(`SealedGrant.Json.canon_canon`), so writing and reading it again changes nothing, and a member of
an object without repetitions keeps its canonical value
(`SealedGrant.Members.get?_canon`).
-/

namespace SealedGrant

namespace Members

theorem names_set (members : Members) (name : String) (value : Json) :
    (members.set name value).names =
      if name ∈ members.names then members.names else members.names ++ [name] := by
  induction members with
  | nil => simp [set, names]
  | cons member rest ih =>
    obtain ⟨key, old⟩ := member
    simp only [names, List.map_cons, List.mem_cons] at ih ⊢
    by_cases same : key = name
    · simp [set, same]
    · have differs : name ≠ key := fun equal => same equal.symm
      by_cases present : name ∈ rest.map Prod.fst
      · simp [set, same, ih, differs, present]
      · simp [set, same, ih, differs, present]

theorem set_of_not_mem {members : Members} {name : String} {value : Json}
    (absent : name ∉ members.names) : members.set name value = members ++ [(name, value)] := by
  induction members with
  | nil => rfl
  | cons member rest ih =>
    obtain ⟨key, old⟩ := member
    simp only [names, List.map_cons, List.mem_cons, not_or] at absent
    have differs : key ≠ name := fun equal => absent.1 equal.symm
    simp only [set, differs, ↓reduceIte, List.cons_append]
    rw [ih absent.2]

theorem mem_of_mem_set {members : Members} {name : String} {value : Json} {member : String × Json}
    (found : member ∈ members.set name value) : member = (name, value) ∨ member ∈ members := by
  induction members with
  | nil => simpa [set] using found
  | cons first rest ih =>
    obtain ⟨key, old⟩ := first
    simp only [set] at found
    split at found
    · next same =>
      subst same
      rcases List.mem_cons.mp found with rfl | later
      · exact .inl rfl
      · exact .inr (List.mem_cons_of_mem _ later)
    · rcases List.mem_cons.mp found with rfl | later
      · exact .inr List.mem_cons_self
      · exact (ih later).imp_right (List.mem_cons_of_mem _)

/-- Where no name occurs twice, looking a name up finds the member of that name. -/
theorem get?_eq_some_iff {members : Members} (distinct : members.names.Nodup) {name : String}
    {value : Json} : members.get? name = some value ↔ (name, value) ∈ members := by
  induction members with
  | nil => simp [get?]
  | cons member rest ih =>
    obtain ⟨key, old⟩ := member
    simp only [names, List.map_cons, List.nodup_cons] at distinct
    have others := ih distinct.2
    simp only [get?, List.lookup_cons, List.mem_cons, Prod.mk.injEq] at others ⊢
    by_cases same : name = key
    · subst same
      have absent : (name, value) ∉ rest := fun member =>
        distinct.1 (List.mem_map_of_mem (f := Prod.fst) member)
      simp [absent, eq_comm]
    · have differs : (name == key) = false := by simpa using same
      simp [differs, same, others]

theorem get?_map (members : Members) (change : Json → Json) (name : String) :
    get? (members.map fun member => (member.1, change member.2)) name =
      (members.get? name).map change := by
  induction members with
  | nil => rfl
  | cons member rest ih =>
    obtain ⟨key, value⟩ := member
    simp only [get?, List.map_cons, List.lookup_cons] at ih ⊢
    split
    · rfl
    · exact ih

theorem names_map (members : Members) (change : Json → Json) :
    names (members.map fun member => (member.1, change member.2)) = members.names := by
  simp [names]

/-- Members are put in the order of their names before or after their values are changed. -/
theorem map_mergeSort_names {α β : Type} (change : α → β) (members : List (String × α)) :
    (members.mergeSort fun left right => decide (left.1 ≤ right.1)).map
        (fun member => (member.1, change member.2)) =
      (members.map fun member => (member.1, change member.2)).mergeSort
        fun left right => decide (left.1 ≤ right.1) :=
  List.map_mergeSort fun _ _ _ _ => rfl

theorem get?_perm {left right : Members} (perm : left.Perm right) (distinct : right.names.Nodup)
    (name : String) : left.get? name = right.get? name := by
  have leftDistinct : left.names.Nodup := (perm.map Prod.fst).nodup_iff.mpr distinct
  apply Option.ext
  intro value
  rw [get?_eq_some_iff leftDistinct, get?_eq_some_iff distinct, perm.mem_iff]

end Members

namespace Json

mutual

/-- Whether the names of every object in a value ascend strictly. -/
def Ordered : Json → Prop
  | .array items => OrderedItems items
  | .object members => (members.map Prod.fst).Pairwise (· < ·) ∧ OrderedMembers members
  | .null | .bool _ | .number _ | .string _ => True

/-- Whether all items are ordered. -/
def OrderedItems : List Json → Prop
  | [] => True
  | item :: rest => Ordered item ∧ OrderedItems rest

/-- Whether the values of all members are ordered. -/
def OrderedMembers : List (String × Json) → Prop
  | [] => True
  | (_, value) :: rest => Ordered value ∧ OrderedMembers rest

end

mutual

/-- Whether no object in a value has two members of one name. -/
def Distinct : Json → Prop
  | .array items => DistinctItems items
  | .object members => (members.map Prod.fst).Nodup ∧ DistinctMembers members
  | .null | .bool _ | .number _ | .string _ => True

/-- Whether all items are without repeated names. -/
def DistinctItems : List Json → Prop
  | [] => True
  | item :: rest => Distinct item ∧ DistinctItems rest

/-- Whether the values of all members are without repeated names. -/
def DistinctMembers : List (String × Json) → Prop
  | [] => True
  | (_, value) :: rest => Distinct value ∧ DistinctMembers rest

end

/-- The value that is read from the canonical text of a value. -/
def canon (value : Json) : Json :=
  value.sorted.settled

/-- The members that are read from the canonical text of an object. -/
def canonMembers (members : Members) : Members :=
  settledMembers [] ((sortedMembers members).mergeSort fun left right => decide (left.1 ≤ right.1))

theorem canon_object (members : Members) :
    (Json.object members).canon = .object (canonMembers members) := rfl

@[simp] theorem canonMembers_nil : canonMembers [] = [] := by
  simp [canonMembers, sortedMembers, settledMembers]

theorem settledItems_sortedItems (items : List Json) :
    settledItems (sortedItems items) = items.map canon := by
  induction items with
  | nil => rfl
  | cons item rest ih =>
    rw [sortedItems, settledItems, ih]
    rfl

theorem canon_array (items : List Json) : (Json.array items).canon = .array (items.map canon) :=
  congrArg Json.array (settledItems_sortedItems items)

theorem sortedMembers_eq_map (members : Members) :
    sortedMembers members = members.map fun member => (member.1, member.2.sorted) := by
  induction members with
  | nil => rfl
  | cons member rest ih => simp [sortedMembers, ih]

theorem orderedMembers_iff (members : Members) :
    OrderedMembers members ↔ ∀ member ∈ members, Ordered member.2 := by
  induction members with
  | nil => simp [OrderedMembers]
  | cons member rest ih => simp [OrderedMembers, ih]

theorem allNumbersOf_eq_all (holds : Number → Bool) (members : Members) :
    allNumbersOf holds members = members.all fun member => allNumbers holds member.2 := by
  induction members with
  | nil => rfl
  | cons member rest ih => simp [allNumbersOf, ih]

/-- Where no name occurs twice, reading members back keeps all of them. -/
theorem settledMembers_eq_append (before members : Members)
    (distinct : (before.names ++ members.names).Nodup) :
    settledMembers before members =
      before ++ members.map fun member => (member.1, member.2.settled) := by
  induction members generalizing before with
  | nil => simp [settledMembers]
  | cons member rest ih =>
    obtain ⟨name, value⟩ := member
    have absent : name ∉ before.names := by
      intro present
      have apart := (List.nodup_append.mp distinct).2.2
      exact apart name present name (by simp [Members.names]) rfl
    have appended : before.set name value.settled = before ++ [(name, value.settled)] :=
      Members.set_of_not_mem absent
    rw [settledMembers, appended, ih]
    · simp
    · simpa [Members.names] using distinct

/-- The names of sorted members ascend strictly once they are read back. -/
theorem pairwise_settledMembers (before members : Members)
    (strict : before.names.Pairwise (· < ·))
    (ascending : (before.names ++ members.names).Pairwise (· ≤ ·)) :
    (settledMembers before members).names.Pairwise (· < ·) := by
  induction members generalizing before with
  | nil => exact strict
  | cons member rest ih =>
    obtain ⟨name, value⟩ := member
    have split : (before.names ++ name :: Members.names rest).Pairwise (· ≤ ·) := ascending
    obtain ⟨first, later, below⟩ := List.pairwise_append.mp split
    rw [settledMembers]
    apply ih
    · rw [Members.names_set]
      split_ifs with present
      · exact strict
      · refine List.pairwise_append.mpr ⟨strict, List.pairwise_singleton _ _, ?_⟩
        intro key earlier other same
        rw [List.mem_singleton.mp same]
        refine lt_of_le_of_ne (below key earlier name List.mem_cons_self) ?_
        rintro rfl
        exact present earlier
    · rw [Members.names_set]
      split_ifs with present
      · exact split.sublist (List.Sublist.append_left (List.sublist_cons_self _ _) _)
      · simpa using split

theorem ordered_settledMembers (before members : Members) (first : OrderedMembers before)
    (values : ∀ member ∈ members, Ordered member.2.settled) :
    OrderedMembers (settledMembers before members) := by
  induction members generalizing before with
  | nil => exact first
  | cons member rest ih =>
    obtain ⟨name, value⟩ := member
    rw [settledMembers]
    apply ih
    · rw [orderedMembers_iff] at first ⊢
      intro member found
      rcases Members.mem_of_mem_set found with rfl | earlier
      · exact values (name, value) List.mem_cons_self
      · exact first member earlier
    · exact fun member later => values member (List.mem_cons_of_mem _ later)

theorem pairwise_mergeSort_names (members : Members) :
    (Members.names (members.mergeSort fun left right => decide (left.1 ≤ right.1))).Pairwise
      (· ≤ ·) := by
  have sorted : (members.mergeSort fun left right => decide (left.1 ≤ right.1)).Pairwise
      fun left right => decide (left.1 ≤ right.1) = true :=
    List.pairwise_mergeSort (fun a b c => by simpa using le_trans)
      (fun a b => by simpa using le_total a.1 b.1) members
  rw [Members.names, List.pairwise_map]
  exact sorted.imp (by simp)

mutual

/-- **A canonical value is ordered.** -/
theorem ordered_canon (value : Json) : Ordered value.canon := by
  cases value with
  | null => trivial
  | bool value => trivial
  | number n => trivial
  | string text => trivial
  | array items => exact ordered_canonItems items
  | object members =>
    refine ⟨pairwise_settledMembers [] _ List.Pairwise.nil (pairwise_mergeSort_names _), ?_⟩
    apply ordered_settledMembers [] _ trivial
    intro member found
    rw [List.mem_mergeSort, sortedMembers_eq_map] at found
    obtain ⟨⟨name, value⟩, source, rfl⟩ := List.mem_map.mp found
    exact ordered_canonMembers members (name, value) source

theorem ordered_canonItems (items : List Json) :
    OrderedItems (settledItems (sortedItems items)) := by
  cases items with
  | nil => trivial
  | cons item rest => exact ⟨ordered_canon item, ordered_canonItems rest⟩

theorem ordered_canonMembers (members : List (String × Json)) :
    ∀ member ∈ members, Ordered member.2.canon := by
  cases members with
  | nil => simp
  | cons first rest =>
    obtain ⟨name, value⟩ := first
    intro member found
    rcases List.mem_cons.mp found with rfl | later
    · exact ordered_canon value
    · exact ordered_canonMembers rest member later

end

mutual

/-- Sorting an ordered value changes nothing. -/
theorem sorted_of_ordered (value : Json) (ordered : Ordered value) : value.sorted = value := by
  cases value with
  | null => rfl
  | bool value => rfl
  | number n => rfl
  | string text => rfl
  | array items => rw [sorted, sortedItems_of_ordered items ordered]
  | object members =>
    rw [sorted, sortedMembers_of_ordered members ordered.2, List.mergeSort_of_pairwise]
    have ascending := List.pairwise_map.mp ordered.1
    exact ascending.imp fun less => by simpa using less.le

theorem sortedItems_of_ordered (items : List Json) (ordered : OrderedItems items) :
    sortedItems items = items := by
  cases items with
  | nil => rfl
  | cons item rest =>
    rw [sortedItems, sorted_of_ordered item ordered.1, sortedItems_of_ordered rest ordered.2]

theorem sortedMembers_of_ordered (members : List (String × Json))
    (ordered : OrderedMembers members) : sortedMembers members = members := by
  cases members with
  | nil => rfl
  | cons member rest =>
    obtain ⟨name, value⟩ := member
    rw [sortedMembers, sorted_of_ordered value ordered.1, sortedMembers_of_ordered rest ordered.2]

end

mutual

/-- The names of every object of an ordered value are distinct. -/
theorem distinct_of_ordered (value : Json) (ordered : Ordered value) : Distinct value := by
  cases value with
  | null => trivial
  | bool value => trivial
  | number n => trivial
  | string text => trivial
  | array items => exact distinctItems_of_ordered items ordered
  | object members =>
    refine ⟨?_, distinctMembers_of_ordered members ordered.2⟩
    exact ordered.1.imp ne_of_lt

theorem distinctItems_of_ordered (items : List Json) (ordered : OrderedItems items) :
    DistinctItems items := by
  cases items with
  | nil => trivial
  | cons item rest =>
    exact ⟨distinct_of_ordered item ordered.1, distinctItems_of_ordered rest ordered.2⟩

theorem distinctMembers_of_ordered (members : List (String × Json))
    (ordered : OrderedMembers members) : DistinctMembers members := by
  cases members with
  | nil => trivial
  | cons member rest =>
    obtain ⟨name, value⟩ := member
    exact ⟨distinct_of_ordered value ordered.1, distinctMembers_of_ordered rest ordered.2⟩

end

mutual

/-- Reading a value without repeated names back changes nothing. -/
theorem settled_of_distinct (value : Json) (distinct : Distinct value) : value.settled = value := by
  cases value with
  | null => rfl
  | bool value => rfl
  | number n => rfl
  | string text => rfl
  | array items => rw [settled, settledItems_of_distinct items distinct]
  | object members =>
    have names : (Members.names [] ++ Members.names members).Nodup := distinct.1
    rw [settled, settledMembers_eq_append [] members names, List.nil_append,
      settledValues_of_distinct members distinct.2]

theorem settledItems_of_distinct (items : List Json) (distinct : DistinctItems items) :
    settledItems items = items := by
  cases items with
  | nil => rfl
  | cons item rest =>
    rw [settledItems, settled_of_distinct item distinct.1, settledItems_of_distinct rest distinct.2]

theorem settledValues_of_distinct (members : List (String × Json))
    (distinct : DistinctMembers members) :
    (members.map fun member => (member.1, member.2.settled)) = members := by
  cases members with
  | nil => rfl
  | cons member rest =>
    obtain ⟨name, value⟩ := member
    rw [List.map_cons, settled_of_distinct value distinct.1,
      settledValues_of_distinct rest distinct.2]

end

theorem canon_of_ordered {value : Json} (ordered : Ordered value) : value.canon = value := by
  rw [canon, sorted_of_ordered value ordered,
    settled_of_distinct value (distinct_of_ordered value ordered)]

/-- **The canonical form is a normal form.** -/
theorem canon_canon (value : Json) : value.canon.canon = value.canon :=
  canon_of_ordered (ordered_canon value)

theorem canonMembers_canonMembers (members : Members) :
    canonMembers (canonMembers members) = canonMembers members :=
  Json.object.inj (canon_canon (.object members))

/-- Without repeated names, the canonical members are the given ones with canonical values, in
another order. -/
theorem canonMembers_perm {members : Members} (distinct : members.names.Nodup) :
    (canonMembers members).Perm (members.map fun member => (member.1, member.2.canon)) := by
  have perm := List.mergeSort_perm (sortedMembers members)
    fun left right => decide (left.1 ≤ right.1)
  have sortedDistinct : (Members.names [] ++ Members.names
      ((sortedMembers members).mergeSort fun left right => decide (left.1 ≤ right.1))).Nodup := by
    rw [Members.names, List.map_nil, List.nil_append, Members.names,
      (perm.map Prod.fst).nodup_iff, sortedMembers_eq_map]
    simpa [Members.names, Function.comp_def] using distinct
  rw [canonMembers, settledMembers_eq_append [] _ sortedDistinct, List.nil_append]
  refine (perm.map _).trans ?_
  rw [sortedMembers_eq_map, List.map_map]
  exact List.Perm.refl _

mutual

/-- Sorting keeps the numbers of a value. -/
theorem allNumbers_sorted (holds : Number → Bool) (value : Json) :
    allNumbers holds value.sorted = allNumbers holds value := by
  cases value with
  | null => rfl
  | bool value => rfl
  | number n => rfl
  | string text => rfl
  | array items => exact allNumbersIn_sorted holds items
  | object members =>
    rw [sorted, allNumbers, allNumbers, ← allNumbersOf_sorted holds members, allNumbersOf_eq_all,
      allNumbersOf_eq_all]
    exact (List.mergeSort_perm _ _).all_eq

theorem allNumbersIn_sorted (holds : Number → Bool) (items : List Json) :
    allNumbersIn holds (sortedItems items) = allNumbersIn holds items := by
  cases items with
  | nil => rfl
  | cons item rest =>
    rw [sortedItems, allNumbersIn, allNumbersIn, allNumbers_sorted, allNumbersIn_sorted]

theorem allNumbersOf_sorted (holds : Number → Bool) (members : List (String × Json)) :
    allNumbersOf holds (sortedMembers members) = allNumbersOf holds members := by
  cases members with
  | nil => rfl
  | cons member rest =>
    obtain ⟨name, value⟩ := member
    rw [sortedMembers, allNumbersOf, allNumbersOf, allNumbers_sorted, allNumbersOf_sorted]

end

mutual

/-- What is read back has no other numbers than what was written. -/
theorem allNumbers_settled {holds : Number → Bool} (value : Json)
    (all : allNumbers holds value = true) : allNumbers holds value.settled = true := by
  cases value with
  | null => rfl
  | bool value => rfl
  | number n => exact all
  | string text => rfl
  | array items => exact allNumbersIn_settled items all
  | object members => exact allNumbersOf_settled [] members rfl all

theorem allNumbersIn_settled {holds : Number → Bool} (items : List Json)
    (all : allNumbersIn holds items = true) : allNumbersIn holds (settledItems items) = true := by
  cases items with
  | nil => rfl
  | cons item rest =>
    simp only [allNumbersIn, Bool.and_eq_true] at all
    simp only [settledItems, allNumbersIn, Bool.and_eq_true]
    exact ⟨allNumbers_settled item all.1, allNumbersIn_settled rest all.2⟩

theorem allNumbersOf_settled {holds : Number → Bool} (before members : List (String × Json))
    (first : allNumbersOf holds before = true) (all : allNumbersOf holds members = true) :
    allNumbersOf holds (settledMembers before members) = true := by
  cases members with
  | nil => exact first
  | cons member rest =>
    obtain ⟨name, value⟩ := member
    simp only [allNumbersOf, Bool.and_eq_true] at all
    have settledValue := allNumbers_settled value all.1
    refine allNumbersOf_settled _ rest ?_ all.2
    rw [allNumbersOf_eq_all, List.all_eq_true] at first ⊢
    intro member found
    rcases Members.mem_of_mem_set found with rfl | earlier
    · exact settledValue
    · exact first member earlier

end

theorem allNumbers_canon {holds : Number → Bool} {value : Json}
    (all : allNumbers holds value = true) : allNumbers holds value.canon = true :=
  allNumbers_settled _ (by rwa [allNumbers_sorted])

mutual

/-- A condition holds of every number in a value when it holds of all in their order. -/
theorem allNumbers_eq_all (holds : Number → Bool) (value : Json) :
    allNumbers holds value = value.numbers.all holds := by
  cases value with
  | null => rfl
  | bool value => rfl
  | number n => simp [allNumbers, numbers]
  | string text => rfl
  | array items => exact allNumbersIn_eq_all holds items
  | object members => exact allNumbersOf_eq_all_numbers holds members

theorem allNumbersIn_eq_all (holds : Number → Bool) (items : List Json) :
    allNumbersIn holds items = (numbersIn items).all holds := by
  cases items with
  | nil => rfl
  | cons item rest =>
    rw [allNumbersIn, numbersIn, List.all_append, allNumbers_eq_all, allNumbersIn_eq_all]

theorem allNumbersOf_eq_all_numbers (holds : Number → Bool) (members : List (String × Json)) :
    allNumbersOf holds members = (numbersOf members).all holds := by
  cases members with
  | nil => rfl
  | cons member rest =>
    obtain ⟨name, value⟩ := member
    rw [allNumbersOf, numbersOf, List.all_append, allNumbers_eq_all, allNumbersOf_eq_all_numbers]

end

theorem numbersOf_eq_flatMap (members : Members) :
    numbersOf members = members.flatMap fun member => member.2.numbers := by
  induction members with
  | nil => rfl
  | cons member rest ih => simp [numbersOf, ih]

/-- The numbers of a sorted object come in the order of the names. -/
theorem numbers_sorted_object (members : Members) : (Json.object members).sorted.numbers =
    ((members.map fun member => (member.1, member.2.sorted.numbers)).mergeSort
      fun left right => decide (left.1 ≤ right.1)).flatMap Prod.snd := by
  have numbered : (members.map fun member => (member.1, member.2.sorted)).map
      (fun member => (member.1, member.2.numbers)) =
        members.map fun member => (member.1, member.2.sorted.numbers) := List.map_map
  rw [sorted, numbers, numbersOf_eq_flatMap, sortedMembers_eq_map, ← numbered,
    ← Members.map_mergeSort_names numbers, List.flatMap_map]

/-! ## What can be written -/

/-- A number is read back when it is finite and short enough to be written. -/
theorem isReadable_iff {n : Number} :
    isReadable n = true ↔ n.isFinite = true ∧ isWritable n = true := by
  cases n with
  | int n =>
    have positive : 0 < Text.digitLimit := by decide
    simp only [isReadable, Number.isFinite, isWritable, decide_eq_true_eq, true_and, Nat.pow_eq]
    rw [Nat.length_toDigits_le_iff (by norm_num) positive]
  | double d => simp [isReadable, Number.isFinite, isWritable]

theorem allNumbers_isReadable_iff {value : Json} : value.allNumbers isReadable = true ↔
    value.isFinite = true ∧ value.allNumbers isWritable = true := by
  rw [isFinite, allNumbers_eq_all, allNumbers_eq_all, allNumbers_eq_all]
  simp only [List.all_eq_true, isReadable_iff]
  exact forall₂_and

theorem numberError?_eq_none_iff {n : Number} :
    numberError? n = none ↔ isReadable n = true := by
  rw [isReadable_iff, numberError?]
  cases isWritable n <;> cases n.isFinite <;> simp

/-- **A value can be written exactly when its numbers are read back.** -/
theorem writeError?_eq_none_iff {value : Json} :
    value.writeError? = none ↔ value.allNumbers isReadable = true := by
  rw [writeError?, List.findSome?_eq_none_iff, allNumbers_eq_all, List.all_eq_true]
  simp only [numberError?_eq_none_iff]

/-- What is reported of a number is wrong with it. -/
theorem cases_of_numberError? {n : Number} {cause : WriteError}
    (wrong : numberError? n = some cause) :
    (cause = .notFinite ∧ n.isFinite = false) ∨
      (cause = .tooManyDigits ∧ isWritable n = false) := by
  unfold numberError? at wrong
  split at wrong
  · next long =>
    cases wrong
    exact .inr ⟨rfl, by simpa using long⟩
  · split at wrong
    · next infinite =>
      cases wrong
      exact .inl ⟨rfl, by simpa using infinite⟩
    · cases wrong

/-- A value that cannot be written is reported for the one thing that is wrong with its numbers. -/
theorem writeError?_eq_of_forall {value : Json} {cause : WriteError}
    (unreadable : value.allNumbers isReadable = false)
    (only : ∀ n ∈ value.numbers, ∀ other, numberError? n = some other → other = cause) :
    value.writeError? = some cause := by
  cases found : value.writeError? with
  | none =>
    rw [writeError?_eq_none_iff, unreadable] at found
    cases found
  | some other =>
    obtain ⟨n, listed, wrong⟩ := List.exists_of_findSome?_eq_some found
    rw [only n listed other wrong]

/-- Where all numbers are short enough, only one that is not finite keeps a value from being
written. -/
theorem writeError?_eq_notFinite {value : Json} (infinite : value.isFinite = false)
    (writable : value.allNumbers isWritable = true) : value.writeError? = some .notFinite := by
  refine writeError?_eq_of_forall ?_ fun n listed other wrong => ?_
  · refine Bool.eq_false_iff.mpr fun readable => ?_
    exact Bool.eq_false_iff.mp infinite (allNumbers_isReadable_iff.mp readable).1
  · rw [allNumbers_eq_all, List.all_eq_true] at writable
    obtain ⟨rfl, -⟩ | ⟨-, long⟩ := cases_of_numberError? wrong
    · rfl
    · exact absurd (writable n listed) (Bool.eq_false_iff.mp long)

/-- Where all numbers are finite, only one with too many digits keeps a value from being written. -/
theorem writeError?_eq_tooManyDigits {value : Json} (finite : value.isFinite = true)
    (unwritable : value.allNumbers isWritable = false) :
    value.writeError? = some .tooManyDigits := by
  refine writeError?_eq_of_forall ?_ fun n listed other wrong => ?_
  · refine Bool.eq_false_iff.mpr fun readable => ?_
    exact Bool.eq_false_iff.mp unwritable (allNumbers_isReadable_iff.mp readable).2
  · rw [isFinite, allNumbers_eq_all, List.all_eq_true] at finite
    obtain ⟨-, infinite⟩ | ⟨rfl, -⟩ := cases_of_numberError? wrong
    · exact absurd (finite n listed) (Bool.eq_false_iff.mp infinite)
    · rfl

theorem renderFinite_eq_ok_iff {style : Style} {value : Json} {text : String} :
    value.renderFinite style = .ok text ↔
      value.allNumbers isReadable = true ∧ value.render style = text := by
  rw [← writeError?_eq_none_iff, renderFinite]
  cases value.writeError? <;> simp

/-- **A canonical text** is the text of the sorted value, whose numbers are all read back. -/
theorem canonical_eq_ok_iff {value : Json} {text : String} : value.canonical = .ok text ↔
    value.allNumbers isReadable = true ∧ value.sorted.render .compact = text := by
  rw [canonical, renderFinite_eq_ok_iff, allNumbers_sorted]

/-- The text of an object begins with a brace, and a mark or a brace follows. -/
theorem write_object (style : Style) (members : Members) :
    ∃ second rest, (Json.object members).write style = '{' :: second :: rest ∧
      (second = '"' ∨ second = '}') := by
  cases members with
  | nil => exact ⟨'}', [], rfl, .inr rfl⟩
  | cons member members =>
    obtain ⟨name, value⟩ := member
    simp only [write, writeMembers, intercalate_cons, writeString, List.cons_append]
    exact ⟨'"', _, rfl, .inl rfl⟩

/-- The text of an object is found in its bytes. -/
theorem decodeJsonBytes?_render (style : Style) (members : Members) :
    Text.decodeJsonBytes? (Utf8.encode ((Json.object members).render style)) =
      some ((Json.object members).render style) := by
  obtain ⟨second, rest, shape, ascii⟩ := write_object style members
  rw [render, shape]
  rcases ascii with rfl | rfl
  · exact Text.decodeJsonBytes?_encode rest (by decide) (by decide)
  · exact Text.decodeJsonBytes?_encode rest (by decide) (by decide)

/-- **An object is read back from its bytes.** -/
theorem readBytes_render {style : Style} (separates : style.Separates) (words : Words)
    {members : Members} (readable : (Json.object members).allNumbers isReadable = true) :
    readBytes words (Utf8.encode ((Json.object members).render style)) =
      .ok (Json.object members).settled := by
  rw [readBytes, decodeJsonBytes?_render]
  exact read_render separates words readable

/-- The canonical text of an object is read from its bytes. -/
theorem decodeJsonBytes?_canonical {members : Members} {text : String}
    (written : (Json.object members).canonical = .ok text) :
    Text.decodeJsonBytes? (Utf8.encode text) = some text := by
  obtain ⟨-, rfl⟩ := canonical_eq_ok_iff.mp written
  rw [sorted]
  exact decodeJsonBytes?_render .compact _

/-- **A canonical text is read as the canonical value.** -/
theorem read_canonical {value : Json} {text : String} (words : Words)
    (written : value.canonical = .ok text) : read words text = .ok value.canon := by
  obtain ⟨readable, rfl⟩ := canonical_eq_ok_iff.mp written
  exact read_render Style.separates_compact words (by rwa [allNumbers_sorted])

end Json

/-- **A member keeps its canonical value** in an object without repeated names. -/
theorem Members.get?_canon {members : Members} (distinct : members.names.Nodup) (name : String) :
    get? (Json.canonMembers members) name = (members.get? name).map Json.canon := by
  rw [get?_perm (Json.canonMembers_perm distinct) (by rwa [names_map]), get?_map]

end SealedGrant
