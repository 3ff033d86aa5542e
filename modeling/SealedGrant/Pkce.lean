import SealedGrant.Base64
import SealedGrant.CodeChallenge
import SealedGrant.Digest.Sha256
import SealedGrant.Fault
import SealedGrant.Text.Utf8
import SealedGrant.Text.Wide

/-! # Proof key for code exchange

A client keeps a verifier and sends a challenge made from it with the authorization request. The
method `plain` sends the verifier itself, the method `S256` the unpadded base64url text of its
SHA-256 digest. On redemption a verifier is owed exactly when there is a challenge.
-/

namespace SealedGrant.Pkce

/-- A supported way of making a challenge. -/
inductive Method where
  | plain
  | s256
  deriving DecidableEq, Repr

/-- The method of a name; names are case-sensitive. -/
def Method.ofName? : String → Option Method
  | "plain" => some .plain
  | "S256" => some .s256
  | _ => none

/-- The value of a challenge. The digest is taken of ASCII verifiers only. -/
def Method.challengeValue? : Method → String → Option String
  | .plain, verifier => some verifier
  | .s256, verifier =>
      if verifier.toList.all fun c => c.toNat < 0x80 then
        some (Base64.encodeUrl (Sha256.digest (Utf8.encode verifier)))
      else none

/-- The value of a challenge made by a named method. -/
def challengeValue (verifier method : String) : Except Failure String :=
  match Method.ofName? method with
  | none => .error (.fault (.request (.unsupportedMethod method)))
  | some known =>
      match known.challengeValue? verifier with
      | some value => .ok value
      | none => .error (.defect .verifierNotAscii)

/-- The challenge made from a verifier by a named method. -/
def challenge (verifier method : String) : Except Failure CodeChallenge :=
  (challengeValue verifier method).map (⟨·, method⟩)

/-- Whether a verifier matches a challenge. A method that is not supported is a fault. What a method
makes of a verifier is compared in UTF-8. A verifier with a surrogate is not ASCII, so it has no
digest to match; the method `plain` makes the verifier itself of it, which cannot be encoded. -/
def verify (challenge : CodeChallenge) (verifier : WideText) : Except Failure Bool :=
  match Method.ofName? challenge.method, verifier.text? with
  | none, _ => .error (.fault (.request (.unsupportedMethod challenge.method)))
  | some .plain, none => .error (.defect .verifierNotUnicode)
  | some .s256, none => .ok false
  | some known, some text => .ok (known.challengeValue? text == some challenge.value)

/-- Ask for a verifier exactly when there is a challenge. An empty verifier counts as none. -/
def check (challenge : Option CodeChallenge) (verifier : Option WideText) :
    Except Failure Unit :=
  let given := verifier.filter (· ≠ [])
  match challenge, given with
  | none, none => .ok ()
  | none, some _ => .error (.fault (.identity .unexpectedVerifier))
  | some _, none => .error (.fault (.request .noVerifier))
  | some challenge, some verifier => do
      if ← verify challenge verifier then return ()
      else throw (.fault (.identity .verifierMismatch))

/-- A fresh verifier of 256 random bits. -/
def verifierOf (bytes : Bytes) : String :=
  Base64.encodeUrl bytes

end SealedGrant.Pkce
