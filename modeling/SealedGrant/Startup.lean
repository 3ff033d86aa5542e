import SealedGrant.KeyRing.Store
import SealedGrant.Rsa.Key
import SealedGrant.Server
import SealedGrant.Settings

/-! # Starting a server

Settings are read first, then the policy is checked, the sealing keys and the signing key are
loaded, and a client is registered if the settings name one.
-/

namespace SealedGrant.Startup

/-- Why a server does not start. -/
inductive Error where
  | setting (cause : Text.WholeNumberError)
  | policy (cause : PolicyFault)
  | keyStore (cause : KeyStore.Error)
  | keys (cause : KeyFault)
  | signingKey (cause : Rsa.FileError)
  deriving DecidableEq, Repr

/-- The files beside the settings, and what takes the place of files that are not there. -/
structure Files where
  keyStore : Option String
  signingKey : Option String
  generatedKey : Rsa.PrivateKey

/-- The client that variables name: its id, its redirect URIs and its secret. -/
def namedClient? (environment : Environment) : Option (String × List String × Option String) := do
  let id ← (environment.lookup "OP_CLIENT_ID").filter (· ≠ "")
  let listed ← (environment.lookup "OP_REDIRECT_URIS").filter (· ≠ "")
  let uris := ((listed.splitOn ",").map Text.trim).filter (· ≠ "")
  if uris.isEmpty then none
  else some (id, uris, environment.lookup "OP_CLIENT_SECRET")

/-- Register the client that variables name, if they name one. -/
def seed (server : Server) (environment : Environment) : Reply Unit :=
  match namedClient? environment with
  | none => ⟨.ok (), [], server⟩
  | some (id, uris, secret) =>
      let reply := server.register id uris secret
      ⟨reply.result.map fun _ => (), reply.log, reply.server⟩

/-- The context of settings and files, and what is drawn for it. -/
def context (environment : Environment) (files : Files) (random : RandomSource) :
    Draw Error Context := do
  let settings ← Draw.ofResult ((Settings.ofEnvironment environment).mapError .setting)
  let policy ← Draw.ofResult ((Policy.make settings.policy).mapError .policy)
  let loaded ← ExceptT.adapt .keyStore (KeyStore.load random files.keyStore true)
  let ring ← Draw.ofResult ((KeyRing.ofKeys loaded.keys).mapError .keys)
  let signing ←
    Draw.ofResult ((Rsa.load files.signingKey files.generatedKey true).mapError .signingKey)
  return {
    issuer := settings.issuer
    policy, ring, random
    sealSkew := policy.skew
    signer := ⟨signing.key, signing.key.publicKey.id⟩
    ids := .random random }

/-- Start a server whose tables are new. -/
def start (environment : Environment) (files : Files) (random : RandomSource)
    (secretSetting : Bcrypt.Setting) : Except Error (List LogEntry × Server) :=
  match (context environment files random).run .fresh with
  | (.error cause, _) => .error cause
  | (.ok context, supply) =>
      let reply := seed {
        context
        service := ⟨supply, .table (some [])⟩
        secretSetting
        registry := .empty
        audit := .empty
        spareTable := false } environment
      .ok (reply.log, reply.server)

end SealedGrant.Startup
