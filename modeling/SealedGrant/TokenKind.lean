/-! # Token kinds

Three kinds of token share one claim set. An authorization code is redeemed once; a refresh token
obtains further access tokens; an access token opens resources and is the parent of nothing.
-/

namespace SealedGrant

/-- A kind of token. -/
inductive TokenKind where
  | authorizationCode
  | accessToken
  | refreshToken
  deriving DecidableEq, Repr

namespace TokenKind

/-- All kinds, in the order in which messages list them. -/
def all : List TokenKind := [.authorizationCode, .accessToken, .refreshToken]

/-- The short name of a kind inside a claim set. -/
def code : TokenKind → String
  | .authorizationCode => "ac"
  | .accessToken => "at"
  | .refreshToken => "rt"

def title : TokenKind → String
  | .authorizationCode => "AUTHORIZATION_CODE"
  | .accessToken => "ACCESS_TOKEN"
  | .refreshToken => "REFRESH_TOKEN"

def ofCode? (code : String) : Option TokenKind :=
  all.find? fun kind => kind.code = code

theorem ofCode?_code (kind : TokenKind) : ofCode? kind.code = some kind := by
  cases kind <;> decide

theorem code_of_ofCode? {code : String} {kind : TokenKind} (found : ofCode? code = some kind) :
    kind.code = code := by
  simpa using List.find?_some found

end TokenKind
end SealedGrant
