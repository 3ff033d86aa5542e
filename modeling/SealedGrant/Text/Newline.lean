/-! # Line ends

A stored text may end its lines with a line feed, a return, or both in this order. Reading it turns
every line end into a line feed.
-/

namespace SealedGrant.Text

/-- Characters with every line end as a line feed. -/
def feedLines : List Char → List Char
  | [] => []
  | '\r' :: '\n' :: rest => '\n' :: feedLines rest
  | '\r' :: rest => '\n' :: feedLines rest
  | c :: rest => c :: feedLines rest

/-- A text with every line end as a line feed. -/
def withLineFeeds (text : String) : String :=
  String.ofList (feedLines text.toList)

theorem feedLines_of_not_mem {chars : List Char} (absent : '\r' ∉ chars) :
    feedLines chars = chars := by
  induction chars with
  | nil => rfl
  | cons c rest ih =>
    have differs : c ≠ '\r' := fun same => absent (same ▸ List.mem_cons_self)
    have later : '\r' ∉ rest := fun member => absent (List.mem_cons_of_mem c member)
    simp [feedLines, differs, ih later]

end SealedGrant.Text
