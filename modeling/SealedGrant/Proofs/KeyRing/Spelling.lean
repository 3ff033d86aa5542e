import Mathlib
import SealedGrant.Proofs.KeyRing.History
import SealedGrant.Proofs.KeyRing.Opening
import SealedGrant.Proofs.Number.Order
import SealedGrant.Proofs.Token.Minting

/-! # One spelling for each envelope

A ring opens exactly the texts that sealing writes: the unpadded text of a header, a nonce and the
body encrypted under both, where the key id is one that the ring knows and the time of the header
lies ahead (`SealedGrant.KeyRing.unwrap_eq_ok_iff_spelling`). The header fixes how long the id is,
the body reaches to the end of the bytes, and the text of the bytes is the one that the encoder
writes, so no other text stands for the same envelope.
-/

namespace SealedGrant.KeyRing

/-- The header of an envelope: its version, the length of the id, the id and the expiry time. -/
def headerBytes (id : String) (expiry : ℕ) : Bytes :=
  [1, UInt8.ofNat (Utf8.encode id).length] ++ Utf8.encode id ++ Bytes.ofNat 8 expiry

/-- The text of a plaintext sealed by an id, a secret, an expiry time and a nonce. -/
def spelling (id : String) (secret : Bytes) (expiry : ℕ) (nonce plain : Bytes) : String :=
  Base64.encodeUrl (headerBytes id expiry ++ nonce ++
    Gcm.encrypt secret nonce plain (headerBytes id expiry))

/-- The spelling is the text of an envelope. -/
theorem spelling_eq (id : String) (secret : Bytes) (expiry : ℕ) (nonce plain : Bytes) :
    spelling id secret expiry nonce plain =
      Base64.encodeUrl (Envelope.write ⟨Utf8.encode id, expiry, nonce,
        Gcm.encrypt secret nonce plain (Envelope.header (Utf8.encode id) expiry)⟩) := rfl

/-- **A text opens under the secret of a key id** exactly when it is a spelling of the plaintext. -/
theorem opens_iff_spelling {id : String} (valid : isKeyId id = true) {secret plain : Bytes}
    {text : String} {expiry : ℕ} :
    Opens id secret text plain expiry ↔
      expiry < 2 ^ 64 ∧ ∃ nonce : Bytes, nonce.length = 12 ∧
        text = spelling id secret expiry nonce plain := by
  constructor
  · intro opens
    obtain ⟨bytes, ⟨keyId, expires, nonce, body⟩, decoded, read, name, rfl, opened⟩ := opens
    obtain ⟨rfl, -, small, width⟩ := Envelope.eq_write_of_read read
    dsimp only at name opened small width ⊢
    obtain rfl := Utf8.eq_encode_of_decode? name
    obtain rfl := (Gcm.decrypt?_eq_some_iff _ _ _ _ _).mp opened
    exact ⟨small, nonce, width, Base64.eq_encodeUrl_of_decodeUrl decoded⟩
  · intro parts
    obtain ⟨small, nonce, width, rfl⟩ := parts
    rw [spelling_eq]
    have idLength : (Utf8.encode id).length ≤ 255 := by
      simp only [isKeyId, Bool.and_eq_true, decide_eq_true_eq] at valid
      exact valid.2
    have bodyLength : Envelope.leastBodyLength ≤ (Gcm.encrypt secret nonce plain
        (Envelope.header (Utf8.encode id) expiry)).length := by
      rw [Gcm.length_encrypt]
      exact Nat.le_add_left _ _
    refine ⟨_, _, Base64.decodeUrl_encodeUrl _,
      Envelope.read_write idLength small width bodyLength, ?_⟩
    exact ⟨Utf8.decode?_encode id, rfl, (Gcm.decrypt?_eq_some_iff _ _ _ _ _).mpr rfl⟩

/-- **A ring opens exactly what sealing writes.** At every reading of the clock, a text opens as a
plaintext exactly when it is the spelling of that plaintext by an id and a secret of the ring, a
time that is not over and some nonce. Every other text is refused. -/
theorem unwrap_eq_ok_iff_spelling {ring : KeyRing} (reachable : ring.Reachable) (skew : ℤ)
    {now : Number} (reading : now.isNaN = false) (text : String) :
    (∀ plain, ring.unwrap (.int skew) now text = .ok plain ↔
      ∃ id secret, ∃ expiry : ℕ, ∃ nonce : Bytes, ring.secret? id = some secret ∧ expiry < 2 ^ 64 ∧
        nonce.length = 12 ∧ now.lt (.int (expiry + skew)) = true ∧
        text = spelling id secret expiry nonce plain) ∧
    ((∀ id secret, ∀ expiry : ℕ, ∀ nonce plain : Bytes, ring.secret? id = some secret →
      expiry < 2 ^ 64 → nonce.length = 12 → now.lt (.int (expiry + skew)) = true →
      text ≠ spelling id secret expiry nonce plain) →
      ∃ cause, ring.unwrap (.int skew) now text = .error cause) := by
  have image (plain : Bytes) : ring.unwrap (.int skew) now text = .ok plain ↔
      ∃ id secret, ∃ expiry : ℕ, ∃ nonce : Bytes, ring.secret? id = some secret ∧ expiry < 2 ^ 64 ∧
        nonce.length = 12 ∧ now.lt (.int (expiry + skew)) = true ∧
        text = spelling id secret expiry nonce plain := by
    have ahead (expiry : ℕ) : (Number.add (.int expiry) (.int skew)).le now = false ↔
        now.lt (.int (expiry + skew)) = true :=
      Number.le_eq_false_iff_lt rfl reading
    rw [unwrap_eq_ok_iff]
    constructor
    · intro parts
      obtain ⟨id, secret, expiry, bound, opens, alive⟩ := parts
      obtain ⟨small, nonce, width, spelled⟩ :=
        (opens_iff_spelling (reachable.isKeyId_of_secret? bound)).mp opens
      exact ⟨id, secret, expiry, nonce, bound, small, width, (ahead expiry).mp alive, spelled⟩
    · intro parts
      obtain ⟨id, secret, expiry, nonce, bound, small, width, alive, spelled⟩ := parts
      refine ⟨id, secret, expiry, bound, ?_, (ahead expiry).mpr alive⟩
      exact (opens_iff_spelling (reachable.isKeyId_of_secret? bound)).mpr
        ⟨small, nonce, width, spelled⟩
  refine ⟨image, fun other => ?_⟩
  cases opened : ring.unwrap (.int skew) now text with
  | error cause => exact ⟨cause, rfl⟩
  | ok plain =>
    obtain ⟨id, secret, expiry, nonce, bound, small, width, alive, spelled⟩ :=
      (image plain).mp opened
    exact absurd spelled (other id secret expiry nonce plain bound small width alive)

/-- The ring of one key opens its spelling of the empty plaintext half a second before the time is
over. -/
theorem unwrap_spelling_sample : Sample.context.ring.Reachable ∧
    Sample.context.ring.unwrap (.int 60) (.double (Double.ofQuotient false 719 2))
      (spelling "k1" (List.replicate 16 0) 300 (List.replicate 12 0) []) = .ok [] := by
  have reachable : Sample.context.ring.Reachable := ⟨[Sample.key], _, [], rfl, rfl⟩
  refine ⟨reachable, ?_⟩
  refine ((unwrap_eq_ok_iff_spelling reachable 60 (by decide) _).1 []).mpr ?_
  exact ⟨"k1", List.replicate 16 0, 300, List.replicate 12 0, rfl, by norm_num, rfl, by decide, rfl⟩

end SealedGrant.KeyRing
