import SealedGrant.Policy
import SealedGrant.Text.Blank
import SealedGrant.Text.WholeNumber

/-! # Settings

Settings come from named variables; each has a value for when its variable is not set. Numbers are
read when the settings are, whether the policy they make is accepted is asked later.
-/

namespace SealedGrant

/-- The variables that settings are read from. -/
abbrev Environment := List (String × String)

/-- The value of a variable, or a value for when it is not set. -/
def Environment.getD (environment : Environment) (name fallback : String) : String :=
  (environment.lookup name).getD fallback

/-- The settings of a service. -/
structure Settings where
  /-- The public name of the issuer, which goes into every token. -/
  issuer : String
  policy : PolicyInput

namespace Settings

/-- A text without the slashes at its end. -/
def dropSlashes (text : String) : String :=
  String.ofList (text.toList.reverse.dropWhile (· = '/')).reverse

/-- The name of a mode, as it is written in a variable: blanks around it and case do not matter. -/
def modeName (text : String) : String :=
  Text.lower (Text.trim text)

/-- The number of seconds that a variable holds. -/
def seconds (environment : Environment) (name fallback : String) :
    Except Text.WholeNumberError Json := do
  return .number (.int (← Text.readWholeNumber (environment.getD name fallback)))

def ofEnvironment (environment : Environment) : Except Text.WholeNumberError Settings := do
  let accessTtl ← seconds environment "OP_ACCESS_TOKEN_TTL" "3600"
  let refreshTtl ← seconds environment "OP_REFRESH_TOKEN_TTL" "7200"
  let codeTtl ← seconds environment "OP_AUTHORIZATION_CODE_TTL" "300"
  let idTtl ← seconds environment "OP_ID_TOKEN_TTL" "3600"
  let skew ← seconds environment "OP_CLOCK_SKEW_TOLERANCE" "0"
  return {
    issuer := dropSlashes (environment.getD "OP_ISSUER" "http://127.0.0.1:9000")
    policy := {
      accessTtl, refreshTtl, codeTtl, idTtl, skew
      rotation := .string (modeName (environment.getD "OP_REFRESH_TOKEN_ROTATION" "off"))
      pkce := .string (modeName (environment.getD "OP_PKCE_REQUIRED" "none")) } }

end Settings
end SealedGrant
