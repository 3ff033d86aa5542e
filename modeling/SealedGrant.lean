import SealedGrant.Audit
import SealedGrant.Base64
import SealedGrant.Bytes
import SealedGrant.Cipher.Aes
import SealedGrant.Cipher.Gcm
import SealedGrant.ClaimSet.Access
import SealedGrant.ClaimSet.Basic
import SealedGrant.ClaimSet.Check
import SealedGrant.ClaimSet.Mapping
import SealedGrant.ClaimSet.Schema
import SealedGrant.Client.Authentication
import SealedGrant.Client.Credentials
import SealedGrant.Client.Registry
import SealedGrant.CodeChallenge
import SealedGrant.Der
import SealedGrant.Digest.Sha256
import SealedGrant.Fault
import SealedGrant.Grant.Admission
import SealedGrant.Grant.Answer
import SealedGrant.Grant.Code
import SealedGrant.Grant.Context
import SealedGrant.Grant.Issuance
import SealedGrant.Grant.Redemption
import SealedGrant.Http.Delivery
import SealedGrant.Http.Form
import SealedGrant.Http.Message
import SealedGrant.Http.Target
import SealedGrant.IdToken
import SealedGrant.Json.Display
import SealedGrant.Json.Reader
import SealedGrant.Json.Value
import SealedGrant.Json.Writer
import SealedGrant.KeyRing.Basic
import SealedGrant.KeyRing.Envelope
import SealedGrant.KeyRing.Key
import SealedGrant.KeyRing.Store
import SealedGrant.Log
import SealedGrant.Number.Basic
import SealedGrant.Number.Decimal
import SealedGrant.Number.Double
import SealedGrant.Password.Bcrypt
import SealedGrant.Password.Blowfish
import SealedGrant.Pkce
import SealedGrant.Policy
import SealedGrant.RedirectUri.Basic
import SealedGrant.RedirectUri.Host
import SealedGrant.Reservation
import SealedGrant.Rsa.Key
import SealedGrant.Rsa.Signature
import SealedGrant.Scope
import SealedGrant.Server
import SealedGrant.Settings
import SealedGrant.Startup
import SealedGrant.Supply
import SealedGrant.Text.Blank
import SealedGrant.Text.DecimalDigit
import SealedGrant.Text.Encoding
import SealedGrant.Text.Newline
import SealedGrant.Text.Percent
import SealedGrant.Text.Printable
import SealedGrant.Text.Quoted
import SealedGrant.Text.Utf8
import SealedGrant.Text.WholeNumber
import SealedGrant.Token.Basic
import SealedGrant.Token.Derive
import SealedGrant.Token.Mint
import SealedGrant.TokenKind
import SealedGrant.UserInfo
import SealedGrant.Proofs.Codec.Base64
import SealedGrant.Proofs.Codec.Utf8
import SealedGrant.Proofs.ClaimSet.Schema
import SealedGrant.Proofs.Grant.Completion
import SealedGrant.Proofs.Grant.Inheritance
import SealedGrant.Proofs.KeyRing.Rotation
import SealedGrant.Proofs.KeyRing.Spelling
import SealedGrant.Proofs.Reservation.Interval
import SealedGrant.Proofs.Server.Delivery
import SealedGrant.Proofs.Server.Rotation
import SealedGrant.Proofs.Token.RoundTrip
import SealedGrant.Proofs.Server.Authentication
import SealedGrant.Proofs.Server.Contents
import SealedGrant.Proofs.Server.UserInfo
import SealedGrant.Proofs.Grant.ProofKey
import SealedGrant.Proofs.Server.Audit
import SealedGrant.Proofs.Server.MovingClock
import SealedGrant.Proofs.Server.Order
import SealedGrant.Proofs.KeyRing.Store
import SealedGrant.Proofs.ClaimSet.Acceptance
import SealedGrant.Proofs.Token.Derived
import SealedGrant.Proofs.Token.Serialization
import SealedGrant.Proofs.Token.KeptScope
import SealedGrant.Proofs.ClaimSet.Equality
import SealedGrant.Proofs.Grant.ScopeParameter
import SealedGrant.Proofs.RedirectUri
import SealedGrant.Proofs.Codec.Base64Url
import SealedGrant.Proofs.Audit
import SealedGrant.Proofs.Client.BasicHeader
import SealedGrant.Proofs.Server.AnyHeader
