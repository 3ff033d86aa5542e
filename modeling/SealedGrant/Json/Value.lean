import SealedGrant.Number.Basic

/-! # JSON values

An object keeps its members in the order in which they were written. Setting a member that is
there already keeps its place; a new member goes to the end.

Strings and names are sequences of Unicode characters. A string with a surrogate that stands alone
is no value here, although its escape is well-formed JSON: the reader refuses that escape, and no
statement about values, claim sets or tokens covers such a string.
-/

namespace SealedGrant

/-- A JSON value. -/
inductive Json where
  | null
  | bool (value : Bool)
  | number (value : Number)
  | string (value : String)
  | array (items : List Json)
  | object (members : List (String × Json))

instance : Inhabited Json := ⟨.null⟩

/-- The members of an object, in order. -/
abbrev Members := List (String × Json)

namespace Members

def get? (members : Members) (name : String) : Option Json :=
  members.lookup name

/-- The value of a member, null when it is absent. -/
def getD (members : Members) (name : String) : Json :=
  (members.get? name).getD .null

def has (members : Members) (name : String) : Bool :=
  (members.get? name).isSome

/-- The names of the members, in order. -/
def names (members : Members) : List String :=
  members.map Prod.fst

/-- Give a member a value, in its place if it is there already. -/
def set (members : Members) (name : String) (value : Json) : Members :=
  match members with
  | [] => [(name, value)]
  | (key, old) :: rest =>
      if key = name then (key, value) :: rest else (key, old) :: set rest name value

/-- Set all members of the right object in the left one. -/
def merge (left right : Members) : Members :=
  right.foldl (fun members (name, value) => members.set name value) left

theorem get?_set_self (members : Members) (name : String) (value : Json) :
    (members.set name value).get? name = some value := by
  induction members with
  | nil => simp [set, get?]
  | cons member rest ih =>
    obtain ⟨key, old⟩ := member
    by_cases same : key = name
    · simp [set, same, get?]
    · have differs : (name == key) = false := by simpa using fun equal => same equal.symm
      simpa [set, same, get?, List.lookup_cons, differs] using ih

theorem get?_set_of_ne (members : Members) {name other : String} (value : Json)
    (differs : other ≠ name) : (members.set name value).get? other = members.get? other := by
  have unequal : (other == name) = false := by simpa using differs
  induction members with
  | nil => simp [set, get?, List.lookup_cons, unequal]
  | cons member rest ih =>
    obtain ⟨key, old⟩ := member
    by_cases same : key = name
    · subst same
      simp [set, get?, List.lookup_cons, unequal]
    · cases found : other == key <;> simp [set, same, get?, List.lookup_cons, found]
      exact ih

end Members

namespace Json

/-- The number that a value counts as in comparisons: true and false count as one and zero. -/
def asNumber? : Json → Option Number
  | .bool true => some (.int 1)
  | .bool false => some (.int 0)
  | .number n => some n
  | _ => none

mutual

/-- Whether two values are equal: numbers by value, also across integers, doubles and truth values,
arrays position by position and objects whatever the order of their members. -/
def same : Json → Json → Bool
  | .array left, .array right => sameItems left right
  | .object left, .object right => left.length == right.length && sameMembers left right
  | .string left, .string right => left == right
  | .null, .null => true
  | left, right =>
      match left.asNumber?, right.asNumber? with
      | some m, some n => m.same n || m == n
      | _, _ => false

/-- Whether two arrays are equal position by position. -/
def sameItems : List Json → List Json → Bool
  | [], [] => true
  | left :: lefts, right :: rights => same left right && sameItems lefts rights
  | _, _ => false

/-- Whether each member of the first object has an equal one in the second. -/
def sameMembers : List (String × Json) → List (String × Json) → Bool
  | [], _ => true
  | (name, left) :: rest, right =>
      (match Members.get? right name with
        | some value => same left value
        | none => false) && sameMembers rest right

end

mutual

/-- Whether a condition holds of every number in a value. -/
def allNumbers (holds : Number → Bool) : Json → Bool
  | .number n => holds n
  | .array items => allNumbersIn holds items
  | .object members => allNumbersOf holds members
  | .null | .bool _ | .string _ => true

/-- Whether a condition holds of every number in the items. -/
def allNumbersIn (holds : Number → Bool) : List Json → Bool
  | [] => true
  | item :: rest => allNumbers holds item && allNumbersIn holds rest

/-- Whether a condition holds of every number in the members. -/
def allNumbersOf (holds : Number → Bool) : List (String × Json) → Bool
  | [] => true
  | (_, value) :: rest => allNumbers holds value && allNumbersOf holds rest

end

mutual

/-- The numbers in a value, in order. -/
def numbers : Json → List Number
  | .number n => [n]
  | .array items => numbersIn items
  | .object members => numbersOf members
  | .null | .bool _ | .string _ => []

/-- The numbers in the items. -/
def numbersIn : List Json → List Number
  | [] => []
  | item :: rest => numbers item ++ numbersIn rest

/-- The numbers in the members. -/
def numbersOf : List (String × Json) → List Number
  | [] => []
  | (_, value) :: rest => numbers value ++ numbersOf rest

end

/-- Whether every number in a value is finite. -/
def isFinite (value : Json) : Bool :=
  value.allNumbers Number.isFinite

/-- Whether a value counts as nothing: null, false, zero, and the empty text, array and object. -/
def isEmpty : Json → Bool
  | .null => true
  | .bool value => !value
  | .number n => n.same (.int 0)
  | .string value => value.isEmpty
  | .array items => items.isEmpty
  | .object members => members.isEmpty

def string? : Json → Option String
  | .string value => some value
  | _ => none

def int? : Json → Option Int
  | .number (.int n) => some n
  | _ => none

def object? : Json → Option Members
  | .object members => some members
  | _ => none

def array? : Json → Option (List Json)
  | .array items => some items
  | _ => none

end Json
end SealedGrant
