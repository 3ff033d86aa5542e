import Mathlib
import SealedGrant.Proofs.KeyRing.Rotation
import SealedGrant.Proofs.Server.Effects

/-! # Keys along a run

The key ring of a run goes through the changes of keys among the events
(`SealedGrant.Server.context_run`). A record of a run finds the server after the events before it
(`SealedGrant.Server.exists_run_of_mem_records`), so its ring is sound
(`SealedGrant.Server.sound_of_mem_records`). Where no retired id is added again, an id that was
bound stays bound to its secret until it is retired, and then it is unknown
(`SealedGrant.KeyRing.Sound.secret?_of_neverReadds`).
-/

namespace SealedGrant

namespace KeyRing

/-- An id is retired by one of the changes. -/
def Retired (ring : KeyRing) (changes : List Change) (id : String) : Prop :=
  ∃ step ∈ ring.steps changes, step.Retires id

/-- No id that is retired is added again. -/
def NeverReadds (ring : KeyRing) (changes : List Change) : Prop :=
  ∀ earlier step later id, ring.steps changes = earlier ++ step :: later → step.Retires id →
    ∀ next ∈ later, ∀ secret, ¬ next.Adds id secret

/-- **A bound id stays bound until it is retired**, if no id that is retired is added again. -/
theorem Sound.secret?_of_neverReadds {ring : KeyRing} (sound : ring.Sound) {id : String}
    {secret : Bytes} (bound : ring.secret? id = some secret) {changes : List Change}
    (never : ring.NeverReadds changes) :
    (¬ ring.Retired changes id → (ring.afterAll changes).secret? id = some secret) ∧
      (ring.Retired changes id → (ring.afterAll changes).secret? id = none) := by
  constructor
  · intro kept
    exact sound.secret?_afterAll bound fun step member retires => kept ⟨step, member, retires⟩
  · rintro ⟨step, member, retires⟩
    obtain ⟨earlier, later, history⟩ := List.append_of_mem member
    exact secret?_eq_none_of_retires history retires (never _ _ _ _ history retires)

end KeyRing

namespace Server

/-- The change of keys that an event wants. -/
def Event.keyChange? (event : Event) : Option KeyRing.Change :=
  match event.operation with
  | .rotate key => some (.rotate key)
  | .retire id => some (.retire id)
  | .issueCode _ | .handle _ | .purge => none

/-- The changes of keys among events. -/
def keyChanges (events : List Event) : List KeyRing.Change :=
  events.filterMap Event.keyChange?

variable {server : Server}

theorem context_step_of_keyChange {event : Event} {wanted : KeyRing.Change}
    (changes : event.keyChange? = some wanted) : (server.step event).context =
      { server.context with ring := server.context.ring.after wanted } := by
  obtain ⟨clock, operation⟩ := event
  cases operation with
  | rotate key =>
    cases changes
    simp only [step, rotate, KeyRing.after, KeyRing.change]
    cases server.context.ring.rotate key <;> rfl
  | retire id =>
    cases changes
    simp only [step, retire, KeyRing.after, KeyRing.change]
    cases server.context.ring.retire id <;> rfl
  | issueCode request => cases changes
  | handle request => cases changes
  | purge => cases changes

theorem context_step_of_no_keyChange {event : Event} (changes : event.keyChange? = none) :
    (server.step event).context = server.context := by
  obtain ⟨clock, operation⟩ := event
  cases operation with
  | rotate key => cases changes
  | retire id => cases changes
  | issueCode request =>
    rcases step_issueCode server clock request with same | ⟨now, same⟩ <;> rw [same]
  | handle request => exact context_step_handle rfl
  | purge => rfl

/-- **Of the context a run changes the key ring alone**, by the changes of keys among its events. -/
theorem context_run (server : Server) (events : List Event) : (server.run events).context =
    { server.context with ring := server.context.ring.afterAll (keyChanges events) } := by
  induction events generalizing server with
  | nil => rfl
  | cons event rest ih =>
    have unfolded : server.run (event :: rest) = (server.step event).run rest := rfl
    rw [unfolded, ih]
    cases changes : event.keyChange? with
    | none =>
      have same : keyChanges (event :: rest) = keyChanges rest := by
        rw [keyChanges, List.filterMap_cons_none changes, keyChanges]
      rw [context_step_of_no_keyChange changes, same]
    | some wanted =>
      have same : keyChanges (event :: rest) = wanted :: keyChanges rest := by
        rw [keyChanges, List.filterMap_cons_some changes, keyChanges]
      rw [context_step_of_keyChange changes, same]
      rfl

/-- A record of a run finds the server after the events before it. -/
theorem exists_run_of_mem_records {events : List Event} {record : Record}
    (member : record ∈ server.records events) :
    ∃ earlier later, events = earlier ++ record.event :: later ∧
      record.before = server.run earlier := by
  induction events generalizing server with
  | nil => cases member
  | cons event rest ih =>
    rcases List.mem_cons.mp member with rfl | member
    · exact ⟨[], rest, rfl, rfl⟩
    · obtain ⟨earlier, later, rfl, before⟩ := ih member
      exact ⟨event :: earlier, later, rfl, before⟩

/-- **The rings of a run are sound** when the first one is. -/
theorem sound_of_mem_records (sound : server.context.ring.Sound) {events : List Event}
    {record : Record} (member : record ∈ server.records events) :
    record.before.context.ring.Sound := by
  obtain ⟨earlier, -, -, before⟩ := exists_run_of_mem_records member
  rw [before, context_run]
  exact sound.afterAll _

end Server
end SealedGrant
