/-! # Code challenges

A code challenge is a value and the method that made it. It is written `value:method`; the method
has no colon, so the last colon separates the two.
-/

namespace SealedGrant

/-- A challenge that binds an authorization code to its client's verifier. -/
structure CodeChallenge where
  value : String
  method : String
  deriving DecidableEq, Repr

namespace CodeChallenge

def text (challenge : CodeChallenge) : String :=
  challenge.value ++ ":" ++ challenge.method

/-- Read a written form: both parts are non-empty. -/
def ofText? (text : String) : Option CodeChallenge :=
  let chars := text.toList
  let method := (chars.reverse.takeWhile (· ≠ ':')).reverse
  let value := ((chars.reverse.dropWhile (· ≠ ':')).drop 1).reverse
  if value.isEmpty || method.isEmpty then none
  else some ⟨String.ofList value, String.ofList method⟩

end CodeChallenge
end SealedGrant
