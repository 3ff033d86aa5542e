import Mathlib
import SealedGrant.Proofs.ClaimSet.Schema
import SealedGrant.Proofs.Json.Distinct

/-! # Reading and writing claim sets

A claim set that was read repeats no name and follows the schema, so it is written in canonical form
and read back, from the text and from its bytes alike, with every member at every depth; and writing
it once more gives the same text (`SealedGrant.ClaimSet.encode_decode_encode`).
-/

namespace SealedGrant.ClaimSet

/-- A claim set that is read from a text or from bytes. -/
inductive IsRead (claims : ClaimSet) : Prop where
  | text (text : String) (read : decode text = .ok claims)
  | bytes (bytes : Bytes) (read : decodeBytes bytes = .ok claims)

variable {claims : ClaimSet}

/-- A claim set is read from an object that follows the schema and can be written. -/
theorem ofRead_eq_ok_iff {value : Except Json.ReadError Json} :
    ofRead value = .ok claims ↔ value = .ok (.object claims.members) ∧
      (∃ kind, claims.Follows kind) ∧
      (Json.object claims.members).allNumbers Json.isWritable = true := by
  constructor
  · intro accepted
    unfold ofRead at accepted
    split at accepted
    · cases accepted
    · obtain ⟨rfl, follows, writable⟩ := ofChecked_eq_ok_iff.mp accepted
      exact ⟨rfl, follows, writable⟩
    · cases accepted
  · rintro ⟨rfl, follows, writable⟩
    exact ofChecked_eq_ok_iff.mpr ⟨rfl, follows, writable⟩

/-- **A claim set that is read** repeats no name at any depth, follows the schema and can be
written. -/
theorem IsRead.checked (found : claims.IsRead) : (Json.object claims.members).Distinct ∧
    (∃ kind, claims.Follows kind) ∧
    (Json.object claims.members).allNumbers Json.isWritable = true := by
  cases found with
  | text text accepted =>
    obtain ⟨value, checked⟩ := ofRead_eq_ok_iff.mp accepted
    exact ⟨Json.distinct_of_read value, checked⟩
  | bytes bytes accepted =>
    obtain ⟨value, checked⟩ := ofRead_eq_ok_iff.mp accepted
    exact ⟨Json.distinct_of_readBytes value, checked⟩

/-- A canonical text and its bytes are read alike. -/
theorem decodeBytes_of_encode {text : String} (written : claims.encode = .ok text) :
    decodeBytes (Utf8.encode text) = decode text := by
  rw [decodeBytes, Json.readBytes, Json.decodeJsonBytes?_canonical written, decode]

section Stored

variable (distinct : (Json.object claims.members).Distinct)

include distinct

/-- What is read back has the members that were written, sorted at every depth. -/
theorem object_stored :
    Json.object claims.stored.members = (Json.object claims.members).sorted :=
  Json.canon_eq_sorted distinct

/-- What is read back is equal to what was written. -/
theorem same_stored : claims.stored.same claims = true := by
  have canonical : Json.object claims.stored.members = (Json.object claims.members).canon := rfl
  rw [same, canonical]
  exact Json.same_of_canon_eq _ _ (Json.distinct_canon _) distinct (Json.canon_canon _)

/-- What is read back has, under every name, the value that was written. -/
theorem get?_stored (name : String) :
    claims.stored.members.get? name = (claims.members.get? name).map Json.sorted := by
  rw [stored, Members.get?_canon distinct.1]
  cases present : claims.members.get? name with
  | none => rfl
  | some value =>
    have listed := (Members.get?_eq_some_iff distinct.1).mp present
    have plain : value.Distinct := (Json.distinctMembers_iff _).mp distinct.2 _ listed
    rw [Option.map_some, Option.map_some, Json.canon_eq_sorted plain]

/-- What is read back is written as before. -/
theorem encode_stored : claims.stored.encode = claims.encode := by
  have ordered := Json.sorted_of_ordered _ (Json.ordered_canon (.object claims.members))
  rw [Json.canon_eq_sorted distinct] at ordered
  rw [encode, encode, Json.canonical, Json.canonical, object_stored distinct, ordered]

end Stored

/-- **Reading, writing and reading again.** A claim set that was read from a text or from bytes, and
all of whose numbers are finite, has a canonical text. That is read, from the text and from its
UTF-8 bytes alike, as a claim set with the same members: sorted at every depth, and the same value
under every name. And this one is written as the same text. -/
theorem encode_decode_encode (found : claims.IsRead)
    (finite : (Json.object claims.members).isFinite = true) :
    ∃ text again, claims.encode = .ok text ∧ decode text = .ok again ∧
      decodeBytes (Utf8.encode text) = .ok again ∧
      Json.object again.members = (Json.object claims.members).sorted ∧
      (∀ name, again.members.get? name = (claims.members.get? name).map Json.sorted) ∧
      again.same claims = true ∧ again.encode = .ok text := by
  obtain ⟨distinct, ⟨kind, follows⟩, writable⟩ := found.checked
  obtain ⟨text, written⟩ :=
    exists_encode_iff.mpr (Json.allNumbers_isReadable_iff.mpr ⟨finite, writable⟩)
  have bytes := decodeBytes_encode distinct.1 follows written
  refine ⟨text, claims.stored, written, ?_, bytes, object_stored distinct, get?_stored distinct,
    same_stored distinct, ?_⟩
  · rw [← decodeBytes_of_encode written, bytes]
  · rw [encode_stored distinct, written]

/-- Members as they are written: out of order, the subject twice, and one unknown member with an
object of its own. -/
def sampleWritten : Members :=
  [("sub", .string "someone"), ("type", .string "at"), ("jti", .string "id-1"),
    ("aud", .array [.string "app"]), ("iss", .string "https://op.example"),
    ("iat", .number 0), ("exp", .number 300), ("auth_time", .number 0),
    ("redirect_uri", .string "https://app.example/cb"), ("scope", .string "read"),
    ("note", .object [("b", .number 7), ("a", .array [.null, .bool true])]),
    ("sub", .string "user")]

/-- The members as they are read: the last subject counts, in the place of the first. -/
def sampleRead : ClaimSet :=
  ⟨Json.settledMembers [] sampleWritten⟩

theorem isRead_sampleRead : sampleRead.IsRead := by
  have numbers (holds : Number → Bool) : (Json.object sampleWritten).allNumbers holds =
      (holds 0 && (holds 300 && (holds 0 && ((holds 7 && true) && true)))) := rfl
  have readable : (Json.object sampleWritten).allNumbers Json.isReadable = true := by
    rw [numbers]
    decide
  have read := Json.read_render Json.Style.separates_compact .strict readable
  have writable : (Json.object sampleRead.members).allNumbers Json.isWritable = true := by
    have short {n : Number} (few : Json.isReadable n = true) : Json.isWritable n = true :=
      (Json.isReadable_iff.mp few).2
    apply Json.allNumbers_settled (.object sampleWritten)
    rw [numbers, short (n := 0) (by decide), short (n := 300) (by decide),
      short (n := 7) (by decide)]
    rfl
  exact .text _ (ofRead_eq_ok_iff.mpr ⟨read, ⟨.accessToken, check_eq_ok_iff.mp rfl⟩, writable⟩)

theorem encode_decode_encode_sample : ∃ text again,
    sampleRead.encode = .ok text ∧ decode text = .ok again ∧
      again.members.get? "sub" = some (.string "user") ∧
      again.members.get? "note" =
        some (.object [("a", .array [.null, .bool true]), ("b", .number 7)]) ∧
      again.encode = .ok text := by
  obtain ⟨text, again, written, read, -, -, same, -, rewritten⟩ :=
    encode_decode_encode isRead_sampleRead rfl
  refine ⟨text, again, written, read, ?_, ?_, rewritten⟩
  · rw [same]
    rfl
  · rw [same]
    have note : sampleRead.members.get? "note" =
        some (.object [("b", .number 7), ("a", .array [.null, .bool true])]) := rfl
    rw [note]
    simp [Json.sorted, Json.sortedMembers, Json.sortedItems, List.mergeSort]

end SealedGrant.ClaimSet
