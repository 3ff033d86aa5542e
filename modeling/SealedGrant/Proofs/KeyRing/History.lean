import Mathlib
import SealedGrant.KeyRing.Basic

/-! # Histories of key rings

A ring begins with a list of keys, and keys are rotated in and retired one after the other. What one
change does is said once (`SealedGrant.KeyRing.after_cases`); a property of the first ring that
every change keeps holds of every ring that can be reached
(`SealedGrant.KeyRing.Reachable.induction`). The ids of a reachable ring are key ids
(`SealedGrant.KeyRing.Reachable.isKeyId_of_secret?`).
-/

namespace SealedGrant.KeyRing

/-- A change of the keys of a ring. -/
inductive Change where
  | rotate (key : SealingKey)
  | retire (id : String)

/-- The outcome of a change. -/
def change (ring : KeyRing) : Change → Except KeyFault KeyRing
  | .rotate key => ring.rotate key
  | .retire id => ring.retire id

/-- The ring after a change; one that is refused leaves the ring as it was. -/
def after (ring : KeyRing) (wanted : Change) : KeyRing :=
  match ring.change wanted with
  | .ok later => later
  | .error _ => ring

/-- A ring of some keys after some changes. -/
def Reachable (ring : KeyRing) : Prop :=
  ∃ keys first changes, ofKeys keys = .ok first ∧ ring = List.foldl after first changes

variable {ring : KeyRing}

/-- **What a change does**: it is refused, it adds a new current key, or it drops another key than
the current one. -/
theorem after_cases (ring : KeyRing) (wanted : Change) :
    ring.after wanted = ring ∨
      (∃ key, wanted = .rotate key ∧ key.role = .current ∧ ring.secret? key.id = none ∧
        ring.after wanted = ⟨key, ring.table ++ [(key.id, key.secret)]⟩) ∨
      ∃ id, wanted = .retire id ∧ id ≠ ring.current.id ∧
        ring.after wanted = { ring with table := ring.table.filter fun entry => entry.1 ≠ id } := by
  cases wanted with
  | rotate key =>
    by_cases role : key.role = .current
    · cases bound : ring.secret? key.id with
      | some secret =>
        refine Or.inl ?_
        simp [after, change, rotate, role, bound]
      | none =>
        refine Or.inr (Or.inl ⟨key, rfl, role, bound, ?_⟩)
        simp [after, change, rotate, role, bound]
    · refine Or.inl ?_
      simp [after, change, rotate, role]
  | retire id =>
    by_cases current : id = ring.current.id
    · refine Or.inl ?_
      simp [after, change, retire, current]
    · refine Or.inr (Or.inr ⟨id, rfl, current, ?_⟩)
      simp [after, change, retire, current]

/-- Adding keys to a table puts their secrets at its end. -/
theorem eq_append_of_addSecrets {keys : List SealingKey} {table result : List (String × Bytes)}
    (added : addSecrets table keys = .ok result) :
    result = table ++ keys.map fun key => (key.id, key.secret) := by
  induction keys generalizing table with
  | nil =>
    cases added
    exact (List.append_nil _).symm
  | cons key rest ih =>
    rw [addSecrets] at added
    split at added
    · cases added
    · rw [ih added, List.append_assoc, List.map_cons, List.singleton_append]

/-- The ring of some keys knows just their secrets. -/
theorem table_of_ofKeys {keys : List SealingKey} (made : ofKeys keys = .ok ring) :
    ring.table = keys.map fun key => (key.id, key.secret) := by
  unfold ofKeys at made
  split at made
  · next current _ =>
    cases added : addSecrets [] keys with
    | error cause =>
      rw [added] at made
      cases made
    | ok table =>
      rw [added] at made
      cases made
      exact eq_append_of_addSecrets added
  · cases made

/-- **What holds at the start and is kept by every change** holds of every reachable ring. -/
theorem Reachable.induction (holds : KeyRing → Prop)
    (first : ∀ keys ring, ofKeys keys = .ok ring → holds ring)
    (later : ∀ ring wanted, holds ring → holds (ring.after wanted)) (reachable : ring.Reachable) :
    holds ring := by
  obtain ⟨keys, start, changes, made, rfl⟩ := reachable
  have begins := first keys start made
  clear made
  induction changes generalizing start with
  | nil => exact begins
  | cons wanted rest ih => exact ih (start.after wanted) (later start wanted begins)

/-- The ids of a reachable ring are key ids. -/
theorem Reachable.isKeyId_of_mem (reachable : ring.Reachable) :
    ∀ entry ∈ ring.table, isKeyId entry.1 = true := by
  refine reachable.induction (fun ring => ∀ entry ∈ ring.table, isKeyId entry.1 = true) ?_ ?_
  · intro keys ring made entry member
    rw [table_of_ofKeys made] at member
    obtain ⟨key, -, rfl⟩ := List.mem_map.mp member
    exact key.id_valid
  · intro ring wanted valid entry member
    rcases after_cases ring wanted with same | ⟨key, -, -, -, same⟩ | ⟨id, -, -, same⟩
    · rw [same] at member
      exact valid entry member
    · rw [same] at member
      rcases List.mem_append.mp member with old | new
      · exact valid entry old
      · rw [List.mem_singleton.mp new]
        exact key.id_valid
    · rw [same] at member
      exact valid entry (List.mem_filter.mp member).1

theorem mem_table_of_secret? {id : String} {secret : Bytes}
    (bound : ring.secret? id = some secret) : (id, secret) ∈ ring.table := by
  unfold secret? at bound
  obtain ⟨before, after, split, -⟩ := List.lookup_eq_some_iff.mp bound
  rw [split]
  simp

/-- **What a reachable ring knows by an id, it knows by a key id.** -/
theorem Reachable.isKeyId_of_secret? {id : String} {secret : Bytes} (reachable : ring.Reachable)
    (bound : ring.secret? id = some secret) : isKeyId id = true :=
  reachable.isKeyId_of_mem _ (mem_table_of_secret? bound)

end SealedGrant.KeyRing
