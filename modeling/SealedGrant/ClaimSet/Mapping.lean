import SealedGrant.ClaimSet.Access

/-! # Mappings

Members may also be handed over as a mapping: an object, or a collection of pairs whose keys are any
scalars. Equal keys are one entry, so the last value wins in the place of the first; equality is
that of values, which takes `1`, `1.0` and `true` for one key. A key becomes a name only when the
mapping is written, and two different keys may then have one name.
-/

namespace SealedGrant

/-- A key with its value. -/
structure Entry where
  key : Json
  value : Json

/-- The entries of a mapping, in order; no two of them have equal keys. -/
abbrev Mapping := List Entry

/-- Whether a value can be a key. -/
def Json.isScalar : Json → Bool
  | .array _ | .object _ => false
  | .null | .bool _ | .number _ | .string _ => true

namespace Entry

/-- The entry that the element at a position stands for: it is a collection of a key and a value. -/
def ofElement (position : Nat) (element : Json) : Except Failure Entry := do
  match ← ClaimSet.elements element with
  | [key, value] => if key.isScalar then return ⟨key, value⟩ else throw (.defect .typeMismatch)
  | parts => throw (.defect (.pairLength position parts.length))

/-- The name that a key is written as: a string as it is, another scalar as its JSON text. -/
def name (entry : Entry) : String :=
  match entry.key with
  | .string text => text
  | key => key.render .compact

end Entry

namespace Mapping

/-- Give a key a value, in its place if an equal key is there already. -/
def set (mapping : Mapping) (entry : Entry) : Mapping :=
  match mapping with
  | [] => [entry]
  | first :: rest =>
      if first.key.same entry.key then { first with value := entry.value } :: rest
      else first :: set rest entry

/-- Set the entries of some elements, the first of which is at a position. -/
def setElements (mapping : Mapping) (position : Nat) : List Json → Except Failure Mapping
  | [] => .ok mapping
  | element :: rest => do
      setElements (mapping.set (← Entry.ofElement position element)) (position + 1) rest

/-- The mapping that a value stands for: the members of an object, or the pairs of a collection. -/
def ofJson : Json → Except Failure Mapping
  | .object members => .ok (members.map fun member => ⟨.string member.1, member.2⟩)
  | value => do setElements [] 0 (← ClaimSet.elements value)

/-- The members of a mapping; keys with one name are one member. -/
def members (mapping : Mapping) : Members :=
  mapping.foldl (fun members entry => members.set entry.name entry.value) []

/-- The entries in the order of their keys: all keys are strings, or all are numbers. Other keys
have no order unless there is one alone. -/
def inKeyOrder (mapping : Mapping) : Except Failure Mapping :=
  if mapping.all fun entry => entry.key.string?.isSome then
    .ok (mapping.mergeSort fun left right => decide (left.name ≤ right.name))
  else
    let numbered := mapping.filterMap fun entry => entry.key.asNumber?.map (·, entry)
    if numbered.length = mapping.length then
      .ok ((numbered.mergeSort fun left right => left.1.le right.1).map Prod.snd)
    else if mapping.length = 1 then .ok mapping
    else .error (.defect .typeMismatch)

/-- The text of a mapping in the order of its keys, its values in canonical form. -/
def encode (mapping : Mapping) : Except Failure String := do
  let ordered ← mapping.inKeyOrder
  let written := Json.object (ordered.map fun entry => (entry.name, entry.value.sorted))
  -- A key is written before its value.
  let parts := Json.array (ordered.flatMap fun entry => [entry.key, entry.value.sorted])
  match parts.writeError? with
  | none => return written.render .compact
  | some cause => throw (.defect (.ofWriteError cause))

end Mapping

/-- The claim set of a value that stands for a mapping; it need not follow the schema. -/
def ClaimSet.ofJson (value : Json) : Except Failure ClaimSet := do
  let mapping ← Mapping.ofJson value
  match ofMembers? mapping.members with
  | some claims => return claims
  | none => throw (.defect .tooManyDigits)

end SealedGrant
