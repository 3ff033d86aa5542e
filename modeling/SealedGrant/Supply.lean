import SealedGrant.Base64

/-! # Fresh material

Token ids and nonces come from outside. A supply only counts what was handed out, so that a run of
the service is a function of the sources and the counts: the sources map the counts to the
material. Failing operations keep what they drew.
-/

namespace SealedGrant

/-- How much fresh material was handed out. -/
structure Supply where
  ids : Nat
  draws : Nat
  deriving DecidableEq, Repr

def Supply.fresh : Supply := ⟨0, 0⟩

/-- Random bytes: the number of the draw and the number of bytes determine them. -/
abbrev RandomSource := Nat → Nat → Bytes

/-- A source of token ids. -/
structure IdSource where
  /-- The id handed out after a supply. -/
  next : Supply → String
  /-- Whether an id is made from a random draw, and not from a running number. -/
  drawing : Bool

def IdSource.numbered : IdSource where
  next supply := "id-" ++ toString (supply.ids + 1)
  drawing := false

/-- Ids of 160 random bits in URL-safe text. -/
def IdSource.random (source : RandomSource) : IdSource where
  next supply := Base64.encodeUrl (source supply.draws 20)
  drawing := true

def Supply.afterDraw (supply : Supply) : Supply :=
  ⟨supply.ids, supply.draws + 1⟩

def Supply.afterId (supply : Supply) (ids : IdSource) : Supply :=
  if ids.drawing then supply.afterDraw else ⟨supply.ids + 1, supply.draws⟩

/-- No id is handed out twice: whenever an id was handed out in between, the next one is new. -/
def IdSource.NeverRepeats (ids : IdSource) : Prop :=
  ∀ earlier later : Supply,
    (if ids.drawing then earlier.draws < later.draws else earlier.ids < later.ids) →
      ids.next earlier ≠ ids.next later

/-- A computation that draws fresh material and may fail; what was drawn stays drawn. -/
abbrev Draw (ε α : Type) := ExceptT ε (StateM Supply) α

def drawId {ε : Type} (ids : IdSource) : Draw ε String := do
  let supply ← get
  set (supply.afterId ids)
  return ids.next supply

def drawBytes {ε : Type} (source : RandomSource) (count : Nat) : Draw ε Bytes := do
  let supply ← get
  set supply.afterDraw
  return source supply.draws count

def Draw.ofResult {ε α : Type} (result : Except ε α) : Draw ε α :=
  ExceptT.mk (pure result)

def Draw.run {ε α : Type} (draw : Draw ε α) (supply : Supply) : Except ε α × Supply :=
  StateT.run (ExceptT.run draw) supply

end SealedGrant
