import SealedGrant.Json.Writer
import SealedGrant.Text.Blank

/-! # HTTP messages

Only what the service looks at: method, path, headers and form fields of a request; status, headers
and body of a response.
-/

namespace SealedGrant

/-- A request. -/
structure HttpRequest where
  method : String
  path : String
  headers : List (String × String)
  form : List (String × String)
  deriving DecidableEq, Repr

namespace HttpRequest

/-- The value of a header field: the first one of its name, in any case. -/
def header? (request : HttpRequest) (name : String) : Option String :=
  (request.headers.find? fun field => Text.lower field.1 = Text.lower name).map Prod.snd

/-- Whether the request has a method, which is written in capitals; case does not matter. -/
def hasMethod (request : HttpRequest) (method : String) : Bool :=
  Text.upper request.method = method

end HttpRequest

/-- A response. -/
structure HttpResponse where
  status : Nat
  headers : List (String × String)
  body : String
  deriving DecidableEq, Repr

namespace HttpResponse

/-- A response with a JSON body whose numbers are known to be finite. -/
def ofJson (status : Nat) (body : Json) (headers : List (String × String)) : HttpResponse :=
  ⟨status, headers, body.render .compact⟩

/-- A response that says what was wrong. -/
def detail (status : Nat) (text : String) (headers : List (String × String)) : HttpResponse :=
  ofJson status (.object [("detail", .string text)]) headers

/-- A response without its body, as the answer to a request for headers alone. -/
def headOnly (response : HttpResponse) : HttpResponse :=
  { response with body := "" }

/-- The header fields that forbid to keep a response. -/
def noStore : List (String × String) :=
  [("cache-control", "no-store"), ("pragma", "no-cache")]

end HttpResponse
end SealedGrant
