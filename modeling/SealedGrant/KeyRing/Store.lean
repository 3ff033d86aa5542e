import SealedGrant.Json.Display
import SealedGrant.Json.Reader
import SealedGrant.Json.Writer
import SealedGrant.KeyRing.Key
import SealedGrant.Supply
import SealedGrant.Text.Newline

/-! # Stored keys

Keys are stored as a JSON document with one entry for each key. A stored document that cannot be
read is an error: silently replacing the keys would close every live token.
-/

namespace SealedGrant.KeyStore

/-- Why a document holds no keys. -/
inductive Error where
  | unreadable (cause : Json.ReadError)
  | notObject
  /-- There is no array of keys, or an empty one. -/
  | noKeys
  | entryNotObject
  /-- An entry lacks its id or its secret. -/
  | missing
  | secret (cause : Base64.UrlError)
  | key (cause : KeyFault)
  deriving DecidableEq, Repr

/-- The wording of the errors that have one. -/
def Error.message? : Error → Option String
  | .noKeys => some "sealer keystore must contain a non-empty 'keys' array"
  | .secret cause => some cause.message
  | .key cause => some cause.message
  | .unreadable cause => cause.message?
  | .notObject | .entryNotObject | .missing => none

/-- The text of a member that an entry must have. -/
def requiredText (members : Members) (name : String) : Except Error String :=
  match members.get? name with
  | some value => .ok value.display
  | none => .error .missing

/-- The key of the members of an entry; without a role it is a current one. -/
def readMembers (members : Members) : Except Error SealingKey := do
  let id ← requiredText members "kid"
  let secretText ← requiredText members "key"
  let secret ← (Base64.decodeUrl secretText).mapError .secret
  let role := (members.get? "role").elim KeyRole.current.name Json.display
  (SealingKey.make id secret role).mapError .key

def readEntry (value : Json) : Except Error SealingKey :=
  match value.object? with
  | some members => readMembers members
  | none => .error .entryNotObject

def readDocument (value : Json) : Except Error (List SealingKey) :=
  match value.object? with
  | none => .error .notObject
  | some members =>
      match members.getD "keys" with
      | .array (first :: rest) => (first :: rest).mapM readEntry
      | _ => .error .noKeys

def entry (key : SealingKey) : Json :=
  .object [("kid", .string key.id), ("key", .string (Base64.encodeUrl key.secret)),
    ("role", .string key.role.name)]

def document (keys : List SealingKey) : Json :=
  .object [("keys", .array (keys.map entry))]

def write (keys : List SealingKey) : String :=
  (document keys).render .spacedAscii

def read (text : String) : Except Error (List SealingKey) := do
  readDocument (← (Json.read .withSpecials text).mapError .unreadable)

/-- Make a fresh key of 256 bits. Without an id a random one is drawn first. -/
def generate (source : RandomSource) (id : Option String) (role : String) :
    Draw KeyFault SealingKey := do
  let id ← match id with
    | some given => pure given
    | none => do pure ("sealer-" ++ Bytes.toHex (← drawBytes source 4))
  let secret ← drawBytes source 32
  Draw.ofResult (SealingKey.make id secret role)

/-- What came of looking for stored keys. -/
structure Loaded where
  keys : List SealingKey
  /-- The text that is now stored, if any. -/
  file : Option String
  deriving DecidableEq

/-- Load the stored keys; where nothing is stored, make one current key and store it if the place
can be written to. What is stored already is only read, with every line end as a line feed. -/
def load (source : RandomSource) (file : Option String) (writable : Bool) : Draw Error Loaded :=
  match file with
  | some stored => Draw.ofResult ((read (Text.withLineFeeds stored)).map (⟨·, some stored⟩))
  | none => do
      let key ← ExceptT.adapt .key (generate source none KeyRole.current.name)
      return ⟨[key], if writable then some (write [key]) else none⟩

end SealedGrant.KeyStore
