import SealedGrant.Text.Blank

/-! # Scopes

A scope is a set of items written in one text with blanks between them. Only ASCII blanks separate
items. Reading and writing drop empty and repeated items and keep the order of first occurrences.
-/

namespace SealedGrant.Scope

/-- The items of a scope text, each once, in the order of first occurrences. -/
def items (text : String) : List String :=
  let pieces := (text.toList.splitOnP Text.isAsciiBlank).filter fun piece => !piece.isEmpty
  (pieces.map String.ofList).eraseDups

/-- The text of items, each once and with single spaces between; empty items are dropped. -/
def text (items : List String) : String :=
  " ".intercalate (items.filter (· ≠ "")).eraseDups

/-- The same scope in its normal form. -/
def normalize (scope : String) : String :=
  text (items scope)

end SealedGrant.Scope
