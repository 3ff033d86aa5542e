import Mathlib
import SealedGrant.Proofs.Json.Kept
import SealedGrant.Proofs.Json.Merging

/-! # What is read repeats no name

Of several members of one name only one is kept, in every object at every depth of a value that is
read (`SealedGrant.Json.distinct_of_read`, `SealedGrant.Json.distinct_of_readBytes`): the members so
far repeat no name, and neither do they when a member is set in them
(`SealedGrant.Json.Distinct.set`).
-/

namespace SealedGrant.Json

/-- Setting a member repeats no name. -/
theorem Distinct.set {members : Members} {name : String} {value : Json}
    (members_distinct : (Json.object members).Distinct) (distinct : value.Distinct) :
    (Json.object (members.set name value)).Distinct := by
  refine ⟨?_, ?_⟩
  · exact Members.nodup_set members_distinct.1 name value
  · rw [distinctMembers_iff]
    intro member found
    rcases Members.mem_of_mem_set found with rfl | old
    · exact distinct
    · exact (distinctMembers_iff members).mp members_distinct.2 member old

/-- Reading a text keeps values without repetitions. -/
theorem keptByReading_distinct : KeptByReading Distinct where
  word {words text value} found := by
    unfold word? at found
    split at found <;> cases found <;> trivial
  number _ := trivial
  string _ := trivial
  array items := (distinctItems_iff _).mpr items
  empty := ⟨List.nodup_nil, trivial⟩
  set := Distinct.set

/-- **What is read repeats no name**, at any depth. -/
theorem distinct_of_read {words : Words} {text : String} {value : Json}
    (found : read words text = .ok value) : value.Distinct :=
  keptByReading_distinct.of_read found

theorem distinct_of_readBytes {words : Words} {bytes : Bytes} {value : Json}
    (found : readBytes words bytes = .ok value) : value.Distinct :=
  keptByReading_distinct.of_readBytes found

end SealedGrant.Json
