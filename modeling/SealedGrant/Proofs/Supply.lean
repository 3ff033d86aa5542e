import Mathlib
import SealedGrant.Supply

/-! # Runs that draw fresh material

A computation that draws is run step by step: a bind succeeds exactly when both of its parts do, one
after the other (`SealedGrant.Draw.run_bind_eq_ok_iff`), and a failure of the first part is the
failure of the whole.
-/

namespace SealedGrant

/-- Random bytes come in the number that was asked for. -/
def RandomSource.Exact (random : RandomSource) : Prop :=
  ∀ draw count, (random draw count).length = count

namespace Supply

/-- Nothing of the first supply is missing from the second. -/
def Reaches (earlier later : Supply) : Prop :=
  earlier.ids ≤ later.ids ∧ earlier.draws ≤ later.draws

theorem Reaches.refl (supply : Supply) : supply.Reaches supply :=
  ⟨le_rfl, le_rfl⟩

theorem Reaches.trans {first second third : Supply} (left : first.Reaches second)
    (right : second.Reaches third) : first.Reaches third :=
  ⟨left.1.trans right.1, left.2.trans right.2⟩

theorem reaches_afterDraw (supply : Supply) : supply.Reaches supply.afterDraw :=
  ⟨le_rfl, Nat.le_succ _⟩

theorem reaches_afterId (supply : Supply) (ids : IdSource) :
    supply.Reaches (supply.afterId ids) := by
  unfold afterId
  split
  · exact supply.reaches_afterDraw
  · exact ⟨Nat.le_succ _, le_rfl⟩

end Supply

/-- **An id is not handed out again** by a source that never repeats one. -/
theorem IdSource.NeverRepeats.next_ne {ids : IdSource} (fresh : ids.NeverRepeats)
    {earlier later : Supply} (after : (earlier.afterId ids).Reaches later) :
    ids.next earlier ≠ ids.next later := by
  apply fresh
  unfold Supply.afterId at after
  cases drawing : ids.drawing with
  | true =>
    rw [drawing] at after
    exact after.2
  | false =>
    rw [drawing] at after
    exact after.1

theorem IdSource.neverRepeats_numbered : IdSource.numbered.NeverRepeats := by
  intro earlier later more same
  have digits : toString (earlier.ids + 1) = toString (later.ids + 1) :=
    (String.append_right_inj "id-").mp same
  have counts := Nat.repr_injective digits
  have order : earlier.ids < later.ids := more
  omega

/-- Ids that were drawn one after the other between two supplies. -/
def IdSource.Drawn (ids : IdSource) (start : Supply) (drawn : List String) (last : Supply) : Prop :=
  match drawn with
  | [] => start.Reaches last
  | id :: rest => ∃ supply, start.Reaches supply ∧ id = ids.next supply ∧
      ids.Drawn (supply.afterId ids) rest last

namespace IdSource.Drawn

variable {ids : IdSource} {start last : Supply} {drawn : List String}

theorem of_reaches {earlier : Supply} (before : earlier.Reaches start)
    (run : ids.Drawn start drawn last) : ids.Drawn earlier drawn last := by
  cases drawn with
  | nil => exact before.trans run
  | cons id rest =>
    obtain ⟨supply, between, same, after⟩ := run
    exact ⟨supply, before.trans between, same, after⟩

theorem append {middle : Supply} {more : List String} (run : ids.Drawn start drawn middle)
    (next : ids.Drawn middle more last) : ids.Drawn start (drawn ++ more) last := by
  induction drawn generalizing start with
  | nil => exact next.of_reaches run
  | cons id rest ih =>
    obtain ⟨supply, before, same, after⟩ := run
    exact ⟨supply, before, same, ih after⟩

theorem exists_of_mem (run : ids.Drawn start drawn last) {id : String} (member : id ∈ drawn) :
    ∃ supply, start.Reaches supply ∧ id = ids.next supply := by
  induction drawn generalizing start with
  | nil => cases member
  | cons first rest ih =>
    obtain ⟨supply, before, same, after⟩ := run
    rcases List.mem_cons.mp member with rfl | member
    · exact ⟨supply, before, same⟩
    · obtain ⟨later, between, sameLater⟩ := ih after member
      exact ⟨later, (before.trans (supply.reaches_afterId ids)).trans between, sameLater⟩

/-- **Drawn ids differ** when the source never repeats one. -/
theorem nodup (fresh : ids.NeverRepeats) (run : ids.Drawn start drawn last) : drawn.Nodup := by
  induction drawn generalizing start with
  | nil => exact List.nodup_nil
  | cons id rest ih =>
    obtain ⟨supply, -, rfl, after⟩ := run
    refine List.nodup_cons.mpr ⟨fun member => ?_, ih after⟩
    obtain ⟨later, between, same⟩ := after.exists_of_mem member
    exact fresh.next_ne between same

/-- **Ids of two draws differ**, one after the other, when the source never repeats one. -/
theorem ne_of_reaches (fresh : ids.NeverRepeats) (run : ids.Drawn start drawn last)
    {later final : Supply} (order : last.Reaches later) {more : List String}
    (next : ids.Drawn later more final) {first second : String} (left : first ∈ drawn)
    (right : second ∈ more) : first ≠ second := by
  have distinct := (run.append (next.of_reaches order)).nodup fresh
  rintro rfl
  exact List.disjoint_of_nodup_append distinct left right

end IdSource.Drawn

namespace Draw

variable {ε α β : Type}

@[simp] theorem run_pure (value : α) (supply : Supply) :
    Draw.run (pure value : Draw ε α) supply = (.ok value, supply) := rfl

@[simp] theorem run_throw (cause : ε) (supply : Supply) :
    Draw.run (throw cause : Draw ε α) supply = (.error cause, supply) := rfl

@[simp] theorem run_ofResult (result : Except ε α) (supply : Supply) :
    Draw.run (ofResult result) supply = (result, supply) := rfl

@[simp] theorem run_drawId (ids : IdSource) (supply : Supply) :
    Draw.run (drawId ids : Draw ε String) supply = (.ok (ids.next supply), supply.afterId ids) :=
  rfl

@[simp] theorem run_drawBytes (source : RandomSource) (count : Nat) (supply : Supply) :
    Draw.run (drawBytes source count : Draw ε Bytes) supply =
      (.ok (source supply.draws count), supply.afterDraw) :=
  rfl

theorem run_bind (draw : Draw ε α) (next : α → Draw ε β) (supply : Supply) :
    Draw.run (draw >>= next) supply =
      match draw.run supply with
      | (.ok value, later) => (next value).run later
      | (.error cause, later) => (.error cause, later) := by
  change (ExceptT.bindCont next (draw.run supply).1).run (draw.run supply).2 = _
  cases draw.run supply with
  | mk result later => cases result <;> rfl

theorem run_bind_eq_ok_iff {draw : Draw ε α} {next : α → Draw ε β} {supply last : Supply}
    {value : β} :
    Draw.run (draw >>= next) supply = (.ok value, last) ↔
      ∃ first later, draw.run supply = (.ok first, later) ∧
        (next first).run later = (.ok value, last) := by
  rw [run_bind]
  cases draw.run supply with
  | mk result later =>
    cases result with
    | ok first => simp
    | error cause => simp

theorem run_map (change : α → β) (draw : Draw ε α) (supply : Supply) :
    Draw.run (change <$> draw) supply = ((draw.run supply).1.map change, (draw.run supply).2) := by
  change Draw.run (draw >>= fun value => pure (change value)) supply = _
  rw [run_bind]
  cases draw.run supply with
  | mk result later => cases result <;> rfl

theorem run_adapt {δ : Type} (change : ε → δ) (draw : Draw ε α) (supply : Supply) :
    Draw.run (ExceptT.adapt change draw) supply =
      ((draw.run supply).1.mapError change, (draw.run supply).2) :=
  rfl

/-- Every failure of a computation satisfies a condition. -/
def FailsWith (draw : Draw ε α) (holds : ε → Prop) : Prop :=
  ∀ supply cause last, draw.run supply = (.error cause, last) → holds cause

section FailsWith

variable {holds : ε → Prop}

theorem failsWith_pure (value : α) : FailsWith (pure value : Draw ε α) holds := by
  intro supply cause last failed
  cases failed

theorem failsWith_throw {cause : ε} (held : holds cause) :
    FailsWith (throw cause : Draw ε α) holds := by
  intro supply found last failed
  cases failed
  exact held

theorem failsWith_ofResult {result : Except ε α}
    (held : ∀ cause, result = .error cause → holds cause) : FailsWith (ofResult result) holds := by
  intro supply cause last failed
  exact held cause (congrArg Prod.fst failed)

theorem failsWith_bind {draw : Draw ε α} {next : α → Draw ε β} (first : FailsWith draw holds)
    (second : ∀ value, FailsWith (next value) holds) : FailsWith (draw >>= next) holds := by
  intro supply cause last failed
  rw [run_bind] at failed
  cases result : draw.run supply with
  | mk outcome later =>
    rw [result] at failed
    cases outcome with
    | ok value => exact second value later cause last failed
    | error found =>
      cases failed
      exact first _ _ _ result

theorem failsWith_map {draw : Draw ε α} {change : α → β} (first : FailsWith draw holds) :
    FailsWith (change <$> draw) holds := by
  intro supply cause last failed
  rw [run_map] at failed
  cases result : draw.run supply with
  | mk outcome later =>
    rw [result] at failed
    cases outcome with
    | ok value => cases failed
    | error found =>
      cases failed
      exact first _ _ _ result

end FailsWith

/-- A computation gives back nothing of what it was supplied with. -/
def Grows (draw : Draw ε α) : Prop :=
  ∀ supply : Supply, supply.Reaches (draw.run supply).2

section Grows

theorem grows_of_run_eq {draw : Draw ε α} (result : Supply → Except ε α)
    (same : ∀ supply, draw.run supply = (result supply, supply)) : draw.Grows := by
  intro supply
  rw [same]
  exact Supply.Reaches.refl supply

theorem grows_pure (value : α) : Grows (pure value : Draw ε α) :=
  grows_of_run_eq (fun _ => .ok value) fun _ => rfl

theorem grows_throw (cause : ε) : Grows (throw cause : Draw ε α) :=
  grows_of_run_eq (fun _ => .error cause) fun _ => rfl

theorem grows_ofResult (result : Except ε α) : Grows (ofResult result) :=
  grows_of_run_eq (fun _ => result) fun _ => rfl

theorem grows_drawId (ids : IdSource) : Grows (drawId ids : Draw ε String) :=
  fun supply => supply.reaches_afterId ids

theorem grows_drawBytes (source : RandomSource) (count : ℕ) :
    Grows (drawBytes source count : Draw ε Bytes) :=
  fun supply => supply.reaches_afterDraw

theorem grows_bind {draw : Draw ε α} {next : α → Draw ε β} (first : draw.Grows)
    (second : ∀ value, (next value).Grows) : (draw >>= next).Grows := by
  intro supply
  have grown := first supply
  rw [run_bind]
  cases result : draw.run supply with
  | mk outcome later =>
    rw [result] at grown
    cases outcome with
    | ok value => exact grown.trans (second value later)
    | error cause => exact grown

theorem grows_map (change : α → β) {draw : Draw ε α} (first : draw.Grows) :
    (change <$> draw).Grows := by
  intro supply
  rw [run_map]
  exact first supply

end Grows

end Draw
end SealedGrant
