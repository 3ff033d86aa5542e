import Mathlib
import SealedGrant.Proofs.KeyRing.History
import SealedGrant.Proofs.KeyRing.Opening
import SealedGrant.Proofs.Number.Sum
import SealedGrant.Proofs.Token.Minting

/-! # Rotating and retiring keys

A history of a ring is the list of its steps: each change that was wanted, with the ring that it
met, whether it was made or refused. What one step does to the table is said once
(`SealedGrant.KeyRing.mem_table_after_iff`): it adds what it rotates in and drops what it retires.
Over a history the table holds what was there or added, unless it was retired since
(`SealedGrant.KeyRing.mem_table_afterAll_iff`). Every ring of a history knows its current secret
and no id twice (`SealedGrant.KeyRing.Sound`), so it can seal; and what it sealed opens after any
more steps that do not retire its key, and is refused once one did
(`SealedGrant.KeyRing.opens_throughout_history`).
-/

namespace SealedGrant.KeyRing

/-- The ring after changes that are wanted one after the other. -/
def afterAll (ring : KeyRing) (changes : List Change) : KeyRing :=
  changes.foldl after ring

/-- A change that is wanted, and the ring that it meets. -/
structure Step where
  before : KeyRing
  wanted : Change

namespace Step

/-- The change is not refused. -/
def IsMade (step : Step) : Prop :=
  ∃ later, step.before.change step.wanted = .ok later

/-- The step rotates in a secret under an id. -/
def Adds (step : Step) (id : String) (secret : Bytes) : Prop :=
  step.IsMade ∧ ∃ key : SealingKey, step.wanted = .rotate key ∧ key.id = id ∧ key.secret = secret

/-- The step drops an id. -/
def Retires (step : Step) (id : String) : Prop :=
  step.IsMade ∧ step.wanted = .retire id

end Step

/-- The steps of a history. -/
def steps (ring : KeyRing) : List Change → List Step
  | [] => []
  | wanted :: rest => ⟨ring, wanted⟩ :: (ring.after wanted).steps rest

/-- **A ring that can seal and names no key twice.** -/
structure Sound (ring : KeyRing) : Prop where
  /-- The current id is bound to the current secret. -/
  current : ring.secret? ring.current.id = some ring.current.secret
  distinct : ring.ids.Nodup

/-- A secret was rotated in under an id, and the id was not retired since. -/
def AddedSince (history : List Step) (id : String) (secret : Bytes) : Prop :=
  ∃ earlier step later, history = earlier ++ step :: later ∧ step.Adds id secret ∧
    ∀ next ∈ later, ¬ next.Retires id

variable {ring : KeyRing} {id : String} {secret : Bytes}

/-! ## One step -/

theorem change_rotate_eq_ok_iff {key : SealingKey} {later : KeyRing} :
    ring.change (.rotate key) = .ok later ↔ key.role = .current ∧ ring.secret? key.id = none ∧
      later = ⟨key, ring.table ++ [(key.id, key.secret)]⟩ := by
  unfold change rotate
  by_cases role : key.role = .current
  · cases bound : ring.secret? key.id with
    | some secret => simp [role, bound]
    | none => simp only [role, bound, ne_eq, not_true_eq_false, ↓reduceIte, Option.isSome_none,
        Bool.false_eq_true, Except.ok.injEq, true_and, eq_comm]
  · simp [role]

theorem change_retire_eq_ok_iff {later : KeyRing} :
    ring.change (.retire id) = .ok later ↔ id ≠ ring.current.id ∧
      later = { ring with table := ring.table.filter fun entry => entry.1 ≠ id } := by
  unfold change retire
  by_cases current : id = ring.current.id
  · simp [current]
  · simp [current, eq_comm]

theorem after_eq_of_ok {wanted : Change} {later : KeyRing}
    (made : ring.change wanted = .ok later) : ring.after wanted = later := by
  rw [after, made]

theorem after_eq_of_error {wanted : Change} {cause : KeyFault}
    (refused : ring.change wanted = .error cause) : ring.after wanted = ring := by
  rw [after, refused]

theorem after_eq_of_not_isMade {wanted : Change} (refused : ¬ Step.IsMade ⟨ring, wanted⟩) :
    ring.after wanted = ring := by
  cases outcome : ring.change wanted with
  | ok later => exact absurd ⟨later, outcome⟩ refused
  | error cause => exact after_eq_of_error outcome

/-- **What one step does to the table**: what it holds was there and is not retired, or is added. -/
theorem mem_table_after_iff (ring : KeyRing) (wanted : Change) (id : String) (secret : Bytes) :
    (id, secret) ∈ (ring.after wanted).table ↔
      ((id, secret) ∈ ring.table ∧ ¬ Step.Retires ⟨ring, wanted⟩ id) ∨
        Step.Adds ⟨ring, wanted⟩ id secret := by
  by_cases made : Step.IsMade ⟨ring, wanted⟩
  · obtain ⟨later, outcome⟩ := made
    rw [after_eq_of_ok outcome]
    cases wanted with
    | rotate key =>
      obtain ⟨-, -, rfl⟩ := change_rotate_eq_ok_iff.mp outcome
      have kept : ¬ Step.Retires ⟨ring, .rotate key⟩ id := fun retires => nomatch retires.2
      simp only [kept, not_false_eq_true, and_true, List.mem_append, List.mem_singleton,
        Prod.mk.injEq]
      refine or_congr_right ⟨?_, ?_⟩
      · rintro ⟨rfl, rfl⟩
        exact ⟨⟨_, outcome⟩, key, rfl, rfl, rfl⟩
      · rintro ⟨-, other, same, rfl, rfl⟩
        cases same
        exact ⟨rfl, rfl⟩
    | retire gone =>
      obtain ⟨-, rfl⟩ := change_retire_eq_ok_iff.mp outcome
      have nothing : ¬ Step.Adds ⟨ring, .retire gone⟩ id secret := by
        rintro ⟨-, key, same, -⟩
        cases same
      have retires : Step.Retires ⟨ring, .retire gone⟩ id ↔ gone = id := by
        refine ⟨fun retires => Change.retire.inj retires.2, ?_⟩
        rintro rfl
        exact ⟨⟨_, outcome⟩, rfl⟩
      simp only [nothing, or_false, retires, List.mem_filter, decide_eq_true_eq]
      exact and_congr_right fun _ => not_congr eq_comm
  · have kept : ¬ Step.Retires ⟨ring, wanted⟩ id := fun retires => made retires.1
    have nothing : ¬ Step.Adds ⟨ring, wanted⟩ id secret := fun adds => made adds.1
    rw [after_eq_of_not_isMade made]
    simp only [kept, nothing, not_false_eq_true, and_true, or_false]

/-- In a table without repeated ids, what is found is what is there. -/
theorem secret?_eq_some_iff_mem (distinct : ring.ids.Nodup) :
    ring.secret? id = some secret ↔ (id, secret) ∈ ring.table := by
  refine ⟨mem_table_of_secret?, fun member => ?_⟩
  cases bound : ring.secret? id with
  | none =>
    have absent := List.lookup_eq_none_iff.mp bound _ member
    simp at absent
  | some found =>
    have same := List.inj_on_of_nodup_map distinct (mem_table_of_secret? bound) member rfl
    cases same
    rfl

theorem secret?_eq_none_iff_not_mem :
    ring.secret? id = none ↔ ∀ secret, (id, secret) ∉ ring.table := by
  constructor
  · intro unbound secret member
    have absent := List.lookup_eq_none_iff.mp unbound _ member
    simp at absent
  · intro absent
    cases bound : ring.secret? id with
    | none => rfl
    | some secret => exact absurd (mem_table_of_secret? bound) (absent secret)

/-- A fresh id at the end of a table repeats none. -/
theorem nodup_append_fresh {table : List (String × Bytes)}
    (distinct : (table.map Prod.fst).Nodup) (fresh : table.lookup id = none) :
    ((table ++ [(id, secret)]).map Prod.fst).Nodup := by
  rw [List.map_append]
  refine List.Nodup.append distinct (List.nodup_singleton _) (List.disjoint_singleton.mpr ?_)
  intro member
  obtain ⟨entry, present, same⟩ := List.mem_map.mp member
  have absent := List.lookup_eq_none_iff.mp fresh entry present
  simp [same] at absent

/-- Adding keys to a table repeats no id. -/
theorem nodup_of_addSecrets {keys : List SealingKey} {table result : List (String × Bytes)}
    (distinct : (table.map Prod.fst).Nodup) (added : addSecrets table keys = .ok result) :
    (result.map Prod.fst).Nodup := by
  induction keys generalizing table with
  | nil =>
    cases added
    exact distinct
  | cons key rest ih =>
    rw [addSecrets] at added
    split at added
    · cases added
    · next fresh =>
      exact ih (nodup_append_fresh distinct (Option.not_isSome_iff_eq_none.mp fresh)) added

/-- **A ring of keys is sound.** -/
theorem sound_of_ofKeys {keys : List SealingKey} (made : ofKeys keys = .ok ring) : ring.Sound := by
  have table := table_of_ofKeys made
  unfold ofKeys at made
  split at made
  · next current one =>
    cases added : addSecrets [] keys with
    | error cause =>
      rw [added] at made
      cases made
    | ok result =>
      rw [added] at made
      cases made
      have empty : (([] : List (String × Bytes)).map Prod.fst).Nodup := List.nodup_nil
      have distinct : (KeyRing.mk current result).ids.Nodup := nodup_of_addSecrets empty added
      refine ⟨(secret?_eq_some_iff_mem distinct).mpr ?_, distinct⟩
      have member : current ∈ keys.filter fun key => key.role = .current := by
        rw [one]
        exact List.mem_singleton_self current
      rw [table]
      exact List.mem_map.mpr ⟨current, (List.mem_filter.mp member).1, rfl⟩
  · cases made

/-- **A step keeps a ring sound.** -/
theorem Sound.after (sound : ring.Sound) (wanted : Change) : (ring.after wanted).Sound := by
  cases outcome : ring.change wanted with
  | error cause =>
    rw [after_eq_of_error outcome]
    exact sound
  | ok later =>
    have held := mem_table_after_iff ring wanted
    rw [after_eq_of_ok outcome] at held ⊢
    cases wanted with
    | rotate key =>
      obtain ⟨-, fresh, rfl⟩ := change_rotate_eq_ok_iff.mp outcome
      have distinct : (KeyRing.mk key (ring.table ++ [(key.id, key.secret)])).ids.Nodup :=
        nodup_append_fresh sound.distinct fresh
      refine ⟨(secret?_eq_some_iff_mem distinct).mpr ((held _ _).mpr (Or.inr ?_)), distinct⟩
      exact ⟨⟨_, outcome⟩, key, rfl, rfl, rfl⟩
    | retire gone =>
      obtain ⟨other, rfl⟩ := change_retire_eq_ok_iff.mp outcome
      have distinct : ({ ring with
          table := ring.table.filter fun entry => entry.1 ≠ gone } : KeyRing).ids.Nodup :=
        sound.distinct.sublist (List.filter_sublist.map Prod.fst)
      refine ⟨(secret?_eq_some_iff_mem distinct).mpr ((held _ _).mpr (Or.inl ⟨?_, ?_⟩)), distinct⟩
      · exact mem_table_of_secret? sound.current
      · intro retires
        exact other (Change.retire.inj retires.2)

/-! ## A history -/

theorem steps_append (ring : KeyRing) (earlier later : List Change) :
    ring.steps (earlier ++ later) = ring.steps earlier ++ (ring.afterAll earlier).steps later := by
  induction earlier generalizing ring with
  | nil => rfl
  | cons wanted rest ih => exact congrArg (_ :: ·) (ih (ring.after wanted))

theorem afterAll_append (ring : KeyRing) (earlier later : List Change) :
    ring.afterAll (earlier ++ later) = (ring.afterAll earlier).afterAll later :=
  List.foldl_append

/-- A piece of a history is the history of a piece. -/
theorem exists_of_steps_eq_append {changes : List Change} {earlier later : List Step}
    (split : ring.steps changes = earlier ++ later) :
    ∃ first rest, changes = first ++ rest ∧ (ring.afterAll first).steps rest = later := by
  induction earlier generalizing ring changes with
  | nil => exact ⟨[], changes, rfl, split⟩
  | cons step earlier ih =>
    cases changes with
    | nil => cases split
    | cons wanted changes =>
      obtain ⟨first, rest, rfl, same⟩ := ih (List.cons.inj split).2
      exact ⟨wanted :: first, rest, rfl, same⟩

theorem addedSince_concat_iff {history : List Step} {step : Step} :
    AddedSince (history ++ [step]) id secret ↔
      AddedSince history id secret ∧ ¬ step.Retires id ∨ step.Adds id secret := by
  constructor
  · rintro ⟨earlier, adding, later, split, adds, kept⟩
    rcases List.eq_nil_or_concat later with rfl | ⟨between, last, rfl⟩
    · obtain ⟨-, same⟩ := List.append_inj' split rfl
      cases same
      exact Or.inr adds
    · rw [List.concat_eq_append, ← List.cons_append, ← List.append_assoc] at split
      obtain ⟨rfl, same⟩ := List.append_inj' split rfl
      cases same
      simp only [List.concat_eq_append, List.mem_append, List.mem_singleton] at kept
      exact Or.inl ⟨⟨earlier, adding, between, rfl, adds, fun next member =>
        kept next (Or.inl member)⟩, kept step (Or.inr rfl)⟩
  · rintro (⟨⟨earlier, adding, later, rfl, adds, kept⟩, keeps⟩ | adds)
    · refine ⟨earlier, adding, later ++ [step], by simp, adds, fun next member => ?_⟩
      rcases List.mem_append.mp member with old | new
      · exact kept next old
      · rw [List.mem_singleton.mp new]
        exact keeps
    · exact ⟨history, step, [], rfl, adds, fun _ member => nomatch member⟩

/-- **What a table holds after a history**: what it held at the start, or what was added, unless it
was retired since. -/
theorem mem_table_afterAll_iff (ring : KeyRing) (changes : List Change) (id : String)
    (secret : Bytes) : (id, secret) ∈ (ring.afterAll changes).table ↔
      ((id, secret) ∈ ring.table ∧ ∀ step ∈ ring.steps changes, ¬ step.Retires id) ∨
        AddedSince (ring.steps changes) id secret := by
  induction changes using List.reverseRecOn with
  | nil =>
    have nothing : ¬ AddedSince [] id secret := by
      rintro ⟨earlier, step, later, split, -⟩
      simp at split
    simp [nothing, afterAll, steps]
  | append_singleton changes wanted ih =>
    have last : ring.steps (changes ++ [wanted]) =
        ring.steps changes ++ [⟨ring.afterAll changes, wanted⟩] := steps_append ring changes _
    rw [last, addedSince_concat_iff, afterAll_append]
    change (id, secret) ∈ ((ring.afterAll changes).after wanted).table ↔ _
    rw [mem_table_after_iff, ih]
    simp only [List.forall_mem_append, List.forall_mem_singleton]
    tauto

theorem Sound.afterAll (sound : ring.Sound) (changes : List Change) :
    (ring.afterAll changes).Sound := by
  induction changes generalizing ring with
  | nil => exact sound
  | cons wanted rest ih => exact ih (sound.after wanted)

/-- A secret stays bound as long as no step retires its id. -/
theorem Sound.secret?_afterAll (sound : ring.Sound) (bound : ring.secret? id = some secret)
    {changes : List Change} (kept : ∀ step ∈ ring.steps changes, ¬ step.Retires id) :
    (ring.afterAll changes).secret? id = some secret := by
  rw [secret?_eq_some_iff_mem (sound.afterAll changes).distinct]
  exact (mem_table_afterAll_iff ring changes id secret).mpr
    (Or.inl ⟨mem_table_of_secret? bound, kept⟩)

/-- **An id that was retired and not added again is unknown.** -/
theorem secret?_eq_none_of_retires {changes : List Change} {earlier later : List Step} {step : Step}
    (history : ring.steps changes = earlier ++ step :: later) (retires : step.Retires id)
    (gone : ∀ next ∈ later, ∀ secret, ¬ next.Adds id secret) :
    (ring.afterAll changes).secret? id = none := by
  obtain ⟨first, rest, rfl, split⟩ := exists_of_steps_eq_append history
  cases rest with
  | nil => cases split
  | cons wanted rest =>
    obtain ⟨rfl, rfl⟩ := List.cons.inj split
    rw [afterAll_append]
    refine secret?_eq_none_iff_not_mem.mpr fun secret member => ?_
    rcases (mem_table_afterAll_iff _ rest id secret).mp member with ⟨there, -⟩ | added
    · -- the step that retires the id leaves no secret under it
      rcases (mem_table_after_iff _ wanted id secret).mp there with ⟨-, kept⟩ | adds
      · exact kept retires
      · obtain ⟨-, key, same, -⟩ := adds
        cases retires.2.symm.trans same
    · obtain ⟨_, adding, _, split, adds, -⟩ := added
      refine gone adding ?_ secret adds
      rw [split]
      simp

/-! ## Sealing and opening over a history -/

/-- **Sealing never misses its key** in a sound ring, whatever the time. -/
theorem Sound.wrap_ne_absent (sound : ring.Sound) (random : RandomSource) (plain : Bytes)
    (expiry : Number) (supply : Supply) :
    ((ring.wrap random plain expiry).run supply).1 ≠ .error .absent := by
  unfold wrap wrapBytes
  simp only [sound.current, Draw.run_bind, Draw.run_ofResult, Draw.run_drawBytes, Draw.run_pure]
  cases value : expiryValue expiry with
  | ok seconds => simp
  | error cause =>
    intro absent
    cases absent
    unfold expiryValue at value
    split at value
    · cases value
    · split at value
      · cases value
      · split at value <;> cases value

/-- A sound ring seals until every time that fits eight bytes. -/
theorem Sound.exists_wrap (sound : ring.Sound) (random : RandomSource) (plain : Bytes)
    {expiry : ℕ} (small : expiry < expiryLimit) (supply : Supply) :
    ∃ text, (ring.wrap random plain (.int expiry)).run supply = (.ok text, supply.afterDraw) :=
  ⟨_, run_wrap_eq_ok_iff.mpr ⟨expiry, _, rfl, small, sound.current, rfl, rfl⟩⟩

/-- **Histories of rotation.** A ring of keys goes through changes, made or refused:
* a refused change leaves the ring as it was;
* the current id is bound to the current secret, and no id is bound twice;
* the table holds the first keys and those added since, but none that was retired since;
* sealing never misses its key;
* what is sealed opens after any more changes that do not retire its key, while its time is not up;
  and it is refused at every time once its key was retired and not added again. -/
theorem opens_throughout_history {keys : List SealingKey} {first : KeyRing}
    (made : ofKeys keys = .ok first) (changes : List Change) :
    let ring := first.afterAll changes
    (∀ wanted cause, ring.change wanted = .error cause → ring.after wanted = ring) ∧
    (ring.secret? ring.current.id = some ring.current.secret ∧ ring.ids.Nodup) ∧
    (∀ id secret, (id, secret) ∈ ring.table ↔
      ((∃ key ∈ keys, key.id = id ∧ key.secret = secret) ∧
        ∀ step ∈ first.steps changes, ¬ step.Retires id) ∨
      AddedSince (first.steps changes) id secret) ∧
    ∀ (random : RandomSource) (plain : Bytes) (supply : Supply),
      (∀ expiry, ((ring.wrap random plain expiry).run supply).1 ≠ .error .absent) ∧
      (∀ expiry : ℕ, expiry < expiryLimit → ∃ text,
        (ring.wrap random plain (.int expiry)).run supply = (.ok text, supply.afterDraw)) ∧
      (RandomSource.Exact random → ∀ (expiry : ℤ) (text : String) (last : Supply),
        (ring.wrap random plain (.int expiry)).run supply = (.ok text, last) →
        ∀ (more : List Change) (skew now : Number),
          ((∀ step ∈ ring.steps more, ¬ step.Retires ring.current.id) →
            now.lt (.add (.int expiry) skew) = true →
            (ring.afterAll more).unwrap skew now text = .ok plain) ∧
          (∀ earlier step later, ring.steps more = earlier ++ step :: later →
            step.Retires ring.current.id →
            (∀ next ∈ later, ∀ secret, ¬ next.Adds ring.current.id secret) →
            (ring.afterAll more).unwrap skew now text =
              .error (.unknownKey ring.current.id))) := by
  intro ring
  have sound : ring.Sound := (sound_of_ofKeys made).afterAll changes
  refine ⟨fun wanted cause refused => after_eq_of_error refused, ⟨sound.current, sound.distinct⟩,
    ?_, ?_⟩
  · intro id secret
    rw [mem_table_afterAll_iff first changes id secret, table_of_ofKeys made]
    simp only [List.mem_map, Prod.mk.injEq]
  · intro random plain supply
    refine ⟨fun expiry => sound.wrap_ne_absent random plain expiry supply,
      fun expiry small => sound.exists_wrap random plain small supply, ?_⟩
    intro exact expiry text last closed more skew now
    obtain ⟨secret, seconds, bound, rfl, opens⟩ := opens_of_wrap exact closed
    constructor
    · intro kept early
      refine unwrap_eq_ok_iff.mpr ⟨_, secret, seconds, ?_, opens, Number.le_eq_false_of_lt early⟩
      exact sound.secret?_afterAll bound kept
    · intro earlier step later history retires gone
      exact unwrap_eq_unknownKey_of_opens opens (secret?_eq_none_of_retires history retires gone)

/-- The key that follows the first one. -/
def nextKey : SealingKey := ⟨"k2", List.replicate 16 1, .current, by decide, by decide⟩

/-- A text that is sealed under the first key opens after the next key came, and no longer after the
first key went. -/
theorem opens_throughout_history_sample : ∃ text last,
    (Sample.context.ring.wrap Sample.context.random [1, 2] (.int 1700000000)).run .fresh =
      (.ok text, last) ∧
    (Sample.context.ring.afterAll [.rotate nextKey]).unwrap 60 1700000059 text = .ok [1, 2] ∧
    (Sample.context.ring.afterAll [.rotate nextKey, .retire "k1"]).unwrap 60 0 text =
      .error (.unknownKey "k1") := by
  have made : ofKeys [Sample.key] = .ok Sample.context.ring := rfl
  obtain ⟨-, -, -, sealing⟩ := opens_throughout_history made []
  obtain ⟨-, closes, opens⟩ := sealing Sample.context.random [1, 2] .fresh
  obtain ⟨text, closed⟩ := closes 1700000000 (by decide)
  refine ⟨text, _, closed, ?_, ?_⟩
  · apply (opens Sample.exact_random 1700000000 text _ closed [.rotate nextKey] 60 1700000059).1
    · intro step member retires
      rw [List.mem_singleton.mp member] at retires
      cases retires.2
    · rfl
  · apply (opens Sample.exact_random 1700000000 text _ closed [.rotate nextKey, .retire "k1"]
      60 0).2 [⟨Sample.context.ring, .rotate nextKey⟩] _ [] rfl
    · exact ⟨⟨_, rfl⟩, rfl⟩
    · intro next member
      cases member

end SealedGrant.KeyRing
