import Mathlib
import SealedGrant.KeyRing.Basic
import SealedGrant.Proofs.Codec.Base64
import SealedGrant.Proofs.Codec.Bytes
import SealedGrant.Proofs.Codec.Utf8
import SealedGrant.Proofs.Supply

/-! # Opening what was sealed

A text opens under the secret of a key id as one plaintext and one expiry time, whatever the ring
and the time (`SealedGrant.KeyRing.Opens`). A ring opens a text exactly when it binds the id to such
a secret and the time is not up (`SealedGrant.KeyRing.unwrap_eq_ok_iff`), and what a ring seals
opens under its current secret (`SealedGrant.KeyRing.opens_of_wrap`).
-/

namespace SealedGrant

namespace Envelope

/-- **An envelope is read as it was written**, when its parts have the lengths that it gives. -/
theorem read_write {envelope : Envelope} (id : envelope.keyId.length ≤ 255)
    (expiry : envelope.expiry < 256 ^ expiryLength) (nonce : envelope.nonce.length = nonceLength)
    (body : leastBodyLength ≤ envelope.body.length) : read envelope.write = .ok envelope := by
  obtain ⟨keyId, expires, nonceBytes, bodyBytes⟩ := envelope
  simp only at id expiry nonce body
  have count : (UInt8.ofNat keyId.length).toNat = keyId.length :=
    Bytes.toNat_ofNat_byte (by omega)
  have expiryBytes := Bytes.length_ofNat expiryLength expires
  have written : write ⟨keyId, expires, nonceBytes, bodyBytes⟩ =
      version :: UInt8.ofNat keyId.length ::
        (keyId ++ (Bytes.ofNat expiryLength expires ++ (nonceBytes ++ bodyBytes))) := by
    simp [write, header]
  have long : ¬ (keyId ++ (Bytes.ofNat expiryLength expires ++ (nonceBytes ++ bodyBytes))).length <
      keyId.length + expiryLength + nonceLength + leastBodyLength := by
    simp only [List.length_append, expiryBytes, nonce]
    omega
  rw [written]
  simp only [read, ne_eq, not_true_eq_false, ↓reduceIte, count, long, List.drop_left,
    List.take_left, List.drop_left' expiryBytes, List.take_left' expiryBytes,
    List.drop_left' nonce, List.take_left' nonce, Bytes.toNat_ofNat expiry]

/-- **An envelope was written as it is read**, and its parts have the lengths that it gives. -/
theorem eq_write_of_read {bytes : Bytes} {envelope : Envelope}
    (opened : read bytes = .ok envelope) : bytes = envelope.write ∧ envelope.keyId.length ≤ 255 ∧
      envelope.expiry < 256 ^ expiryLength ∧ envelope.nonce.length = nonceLength := by
  unfold read at opened
  split at opened
  · next first idLength rest =>
    split at opened
    · cases opened
    · next supported =>
      dsimp only at opened
      split at opened
      · cases opened
      · next long =>
        cases opened
        have small := idLength.toNat_lt
        have count : (rest.take idLength.toNat).length = idLength.toNat := by
          rw [List.length_take]
          omega
        have width : ((rest.drop idLength.toNat).take expiryLength).length = expiryLength := by
          rw [List.length_take, List.length_drop]
          omega
        refine ⟨?_, ?_, ?_, ?_⟩
        · have version : first = version := not_not.mp supported
          have expiry := Bytes.ofNat_toNat ((rest.drop idLength.toNat).take expiryLength)
          rw [width] at expiry
          simp only [write, header, count, UInt8.ofNat_toNat, expiry, version, List.cons_append,
            List.append_assoc, List.take_append_drop]
        · rw [count]
          omega
        · have fits := Bytes.toNat_lt ((rest.drop idLength.toNat).take expiryLength)
          rwa [width] at fits
        · rw [List.length_take, List.length_drop, List.length_drop]
          omega
  · cases opened

end Envelope

namespace KeyRing

/-- Two rings bind no id to different secrets. -/
def Agrees (first second : KeyRing) : Prop :=
  ∀ id secret₁ secret₂, first.secret? id = some secret₁ → second.secret? id = some secret₂ →
    secret₁ = secret₂

theorem Agrees.refl (ring : KeyRing) : ring.Agrees ring :=
  fun _ _ _ bound₁ bound₂ => Option.some.inj (bound₁.symm.trans bound₂)

/-- A text holds a plaintext under the secret of a key id, until a time. -/
def Opens (id : String) (secret : Bytes) (text : String) (plain : Bytes) (expiry : ℕ) : Prop :=
  ∃ bytes envelope, Base64.decodeUrl text = .ok bytes ∧ Envelope.read bytes = .ok envelope ∧
    Utf8.decode? envelope.keyId = some id ∧ envelope.expiry = expiry ∧
    Gcm.decrypt? secret envelope.nonce envelope.body
      (Envelope.header envelope.keyId envelope.expiry) = some plain

/-- A text names one key id and one time. -/
theorem Opens.unique {id₁ id₂ text : String} {secret₁ secret₂ plain₁ plain₂ : Bytes}
    {expiry₁ expiry₂ : ℕ} (first : Opens id₁ secret₁ text plain₁ expiry₁)
    (second : Opens id₂ secret₂ text plain₂ expiry₂) :
    id₁ = id₂ ∧ expiry₁ = expiry₂ ∧ (secret₁ = secret₂ → plain₁ = plain₂) := by
  obtain ⟨bytes₁, envelope₁, decoded₁, read₁, name₁, rfl, plain₁⟩ := first
  obtain ⟨bytes₂, envelope₂, decoded₂, read₂, name₂, rfl, plain₂⟩ := second
  rw [decoded₁] at decoded₂
  cases decoded₂
  rw [read₁] at read₂
  cases read₂
  rw [name₁] at name₂
  cases name₂
  refine ⟨rfl, rfl, ?_⟩
  rintro rfl
  rw [plain₁] at plain₂
  exact Option.some.inj plain₂

theorem unwrapBytes_eq_ok_iff {ring : KeyRing} {skew now : Number} {bytes plain : Bytes} :
    ring.unwrapBytes skew now bytes = .ok plain ↔
      ∃ envelope id secret, Envelope.read bytes = .ok envelope ∧
        Utf8.decode? envelope.keyId = some id ∧ ring.secret? id = some secret ∧
        (Number.add (.int envelope.expiry) skew).le now = false ∧
        Gcm.decrypt? secret envelope.nonce envelope.body
          (Envelope.header envelope.keyId envelope.expiry) = some plain := by
  unfold unwrapBytes
  cases read : Envelope.read bytes with
  | error cause =>
    refine iff_of_false (fun opened => nomatch opened) ?_
    intro parts
    obtain ⟨_, _, _, other, -⟩ := parts
    cases other
  | ok envelope =>
    dsimp only [Bind.bind, Except.bind]
    constructor
    · intro opened
      split at opened
      · cases opened
      · next id name =>
        split at opened
        · cases opened
        · next secret bound =>
          split at opened
          · cases opened
          · next alive =>
            split at opened
            · next found decrypted =>
              cases opened
              exact ⟨envelope, id, secret, rfl, name, bound, by simpa using alive, decrypted⟩
            · cases opened
    · intro parts
      obtain ⟨_, id, secret, same, name, bound, alive, decrypted⟩ := parts
      cases same
      simp only [name, bound, alive, decrypted, Bool.false_eq_true, ↓reduceIte]
      rfl

/-- **A ring opens a text** exactly when it binds the key id to a secret that opens it and the time
is not up. -/
theorem unwrap_eq_ok_iff {ring : KeyRing} {skew now : Number} {text : String} {plain : Bytes} :
    ring.unwrap skew now text = .ok plain ↔
      ∃ id secret expiry, ring.secret? id = some secret ∧ Opens id secret text plain expiry ∧
        (Number.add (.int expiry) skew).le now = false := by
  unfold unwrap
  cases decoded : Base64.decodeUrl text with
  | error cause =>
    simp only [reduceCtorEq, false_iff]
    intro parts
    obtain ⟨id, secret, expiry, -, ⟨bytes, envelope, otherwise, -⟩, -⟩ := parts
    rw [decoded] at otherwise
    cases otherwise
  | ok bytes =>
    simp only [unwrapBytes_eq_ok_iff]
    constructor
    · intro parts
      obtain ⟨envelope, id, secret, read, name, bound, alive, decrypted⟩ := parts
      exact ⟨id, secret, envelope.expiry, bound,
        ⟨bytes, envelope, decoded, read, name, rfl, decrypted⟩, alive⟩
    · intro parts
      obtain ⟨id, secret, expiry, bound, opens, alive⟩ := parts
      obtain ⟨others, envelope, same, read, name, rfl, decrypted⟩ := opens
      rw [decoded] at same
      cases same
      exact ⟨envelope, id, secret, read, name, bound, alive, decrypted⟩

section Refused

variable {ring : KeyRing} {skew now : Number} {id text : String} {secret other plain : Bytes}
  {expiry : ℕ} (opens : Opens id secret text plain expiry)

include opens

/-- A text whose key id the ring does not know is refused for it. -/
theorem unwrap_eq_unknownKey_of_opens (unknown : ring.secret? id = none) :
    ring.unwrap skew now text = .error (.unknownKey id) := by
  obtain ⟨bytes, envelope, decoded, read, name, rfl, -⟩ := opens
  rw [unwrap, decoded]
  simp only [unwrapBytes, read, Bind.bind, Except.bind, name, unknown]
  rfl

/-- A text that would open is refused as expired once its time is up, under whatever secret. -/
theorem unwrap_eq_expired_of_opens (bound : ring.secret? id = some other)
    (passed : (Number.add (.int expiry) skew).le now = true) :
    ring.unwrap skew now text = .error .expired := by
  obtain ⟨bytes, envelope, decoded, read, name, rfl, -⟩ := opens
  rw [unwrap, decoded]
  simp only [unwrapBytes, read, Bind.bind, Except.bind, name, bound, passed, ↓reduceIte]
  rfl

/-- A text that another secret does not open is refused as tampered with. -/
theorem unwrap_eq_tampered_of_opens (bound : ring.secret? id = some other)
    (alive : (Number.add (.int expiry) skew).le now = false)
    (closed : ∀ found, ¬ Opens id other text found expiry) :
    ring.unwrap skew now text = .error .tampered := by
  obtain ⟨bytes, envelope, decoded, read, name, rfl, -⟩ := opens
  rw [unwrap, decoded]
  simp only [unwrapBytes, read, Bind.bind, Except.bind, name, bound, alive, Bool.false_eq_true,
    ↓reduceIte]
  cases decrypted : Gcm.decrypt? other envelope.nonce envelope.body
      (Envelope.header envelope.keyId envelope.expiry) with
  | none => rfl
  | some found => exact absurd ⟨bytes, envelope, decoded, read, name, rfl, decrypted⟩ (closed found)

end Refused

/-- Only a text that is not empty opens. -/
theorem Opens.text_ne {id text : String} {secret plain : Bytes} {expiry : ℕ}
    (opens : Opens id secret text plain expiry) : text ≠ "" := by
  rintro rfl
  obtain ⟨bytes, envelope, decoded, read, -⟩ := opens
  cases decoded
  cases read

theorem expiryValue_int (expiry : ℤ) :
    expiryValue (.int expiry) =
      if expiry < 0 then .error .negativeExpiry
      else if expiry.toNat < expiryLimit then .ok expiry.toNat else .error .expiryTooLarge := by
  have zero : (0 : Number) = .int 0 := rfl
  simp only [expiryValue, zero, Number.lt_int, Number.whole_int, decide_eq_true_eq]

theorem expiryValue_eq_ok_iff {expiry : ℤ} {seconds : ℕ} :
    expiryValue (.int expiry) = .ok seconds ↔
      expiry = seconds ∧ seconds < expiryLimit := by
  rw [expiryValue_int]
  split
  · next negative =>
    simp only [reduceCtorEq, false_iff, not_and]
    intro equal
    omega
  · next notNegative =>
    split
    · next small =>
      constructor
      · intro equal
        cases equal
        exact ⟨by omega, small⟩
      · rintro ⟨rfl, -⟩
        simp
    · next large =>
      simp only [reduceCtorEq, false_iff, not_and]
      intro equal
      rw [equal, Int.toNat_natCast] at large
      exact large

/-- **Sealing succeeds** exactly when the time fits eight bytes and the ring knows its current
secret; it draws one nonce. -/
theorem run_wrap_eq_ok_iff {ring : KeyRing} {random : RandomSource} {plain : Bytes} {expiry : ℤ}
    {supply last : Supply} {text : String} :
    (ring.wrap random plain (.int expiry)).run supply = (.ok text, last) ↔
      ∃ seconds secret, expiry = (seconds : ℕ) ∧ seconds < expiryLimit ∧
        ring.secret? ring.current.id = some secret ∧ last = supply.afterDraw ∧
        text = Base64.encodeUrl (Envelope.write ⟨Utf8.encode ring.current.id, seconds,
          random supply.draws Envelope.nonceLength,
          Gcm.encrypt secret (random supply.draws Envelope.nonceLength) plain
            (Envelope.header (Utf8.encode ring.current.id) seconds)⟩) := by
  simp only [wrap, wrapBytes, Draw.run_bind_eq_ok_iff, Draw.run_ofResult, Draw.run_drawBytes,
    Prod.mk.injEq, expiryValue_eq_ok_iff]
  constructor
  · intro parts
    obtain ⟨bytes, between, ⟨seconds, first, ⟨⟨whole, small⟩, rfl⟩, nonce, second, ⟨drawn, rfl⟩,
      written⟩, text_eq⟩ := parts
    cases drawn
    split at written
    · cases written
    · next secret bound =>
      cases written
      cases text_eq
      exact ⟨seconds, secret, whole, small, bound, rfl, rfl⟩
  · intro parts
    obtain ⟨seconds, secret, whole, small, bound, rfl, rfl⟩ := parts
    refine ⟨_, _, ⟨seconds, supply, ⟨⟨whole, small⟩, rfl⟩, _, _, ⟨rfl, rfl⟩, ?_⟩, rfl⟩
    simp only [bound]
    rfl

/-- **How long an envelope's text is**: beside the key's id and the plaintext it holds thirty-eight
bytes, of the header, the nonce and the tag. -/
theorem length_of_wrap {ring : KeyRing} {random : RandomSource} {plain : Bytes} {expiry : ℤ}
    {supply last : Supply} {text : String} (exact : RandomSource.Exact random)
    (closed : (ring.wrap random plain (.int expiry)).run supply = (.ok text, last)) :
    text.length =
      (8 * ((Utf8.encode ring.current.id).length + plain.length + 38) + 5) / 6 := by
  obtain ⟨seconds, secret, -, -, -, -, rfl⟩ := run_wrap_eq_ok_iff.mp closed
  have nonce : (random supply.draws 12).length = 12 := exact _ _
  rw [Base64.length_encodeUrl]
  simp only [Envelope.write, Envelope.header, List.length_append, List.length_cons,
    Bytes.length_ofNat, nonce, Gcm.length_encrypt, Envelope.expiryLength, Envelope.nonceLength,
    Gcm.tagLength]
  omega

/-- **What a ring seals opens under its current secret.** -/
theorem opens_of_wrap {ring : KeyRing} {random : RandomSource} {plain : Bytes} {expiry : ℤ}
    {supply last : Supply} {text : String} (exact : RandomSource.Exact random)
    (closed : (ring.wrap random plain (.int expiry)).run supply = (.ok text, last)) :
    ∃ secret seconds, ring.secret? ring.current.id = some secret ∧ expiry = (seconds : ℕ) ∧
      Opens ring.current.id secret text plain seconds := by
  obtain ⟨seconds, secret, whole, small, bound, -, rfl⟩ := run_wrap_eq_ok_iff.mp closed
  refine ⟨secret, seconds, bound, whole, _, _, Base64.decodeUrl_encodeUrl _,
    Envelope.read_write ?_ ?_ ?_ ?_, Utf8.decode?_encode _, rfl, ?_⟩
  · have valid := ring.current.id_valid
    simp only [isKeyId, Bool.and_eq_true, decide_eq_true_eq] at valid
    exact valid.2
  · exact small
  · exact exact _ _
  · rw [Gcm.length_encrypt]
    exact Nat.le_add_left _ _
  · exact (Gcm.decrypt?_eq_some_iff _ _ _ _ _).mpr rfl

end KeyRing
end SealedGrant
