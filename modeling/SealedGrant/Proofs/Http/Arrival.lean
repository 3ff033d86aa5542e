import Mathlib
import SealedGrant.Proofs.Codec.Base64
import SealedGrant.Proofs.Codec.Utf8
import SealedGrant.Proofs.Text.Blank
import SealedGrant.Server

/-! # Requests that arrive as they are sent

A request to the path of an endpoint arrives there, and header fields of ASCII characters arrive
unchanged (`SealedGrant.Server.answer_eq_answerAt`). The bearer header of a text without blanks
bears just that text (`SealedGrant.UserInfo.bearer?_of_solid`), and every text that is read as
URL-safe base64 is such a text (`SealedGrant.Base64.isSolid_of_decodeUrl`).
-/

namespace SealedGrant

namespace Text

/-- A text of ASCII characters. -/
def IsAscii (text : String) : Prop :=
  ∀ c ∈ text.toList, c.toNat < 0x80

instance (text : String) : Decidable (IsAscii text) :=
  inferInstanceAs (Decidable (∀ c ∈ text.toList, c.toNat < 0x80))

/-- A text of ASCII characters, none of them a blank. -/
def IsSolid (text : String) : Prop :=
  ∀ c ∈ text.toList, c.toNat < 0x80 ∧ isBlank c = false

theorem IsSolid.isAscii {text : String} (solid : IsSolid text) : IsAscii text :=
  fun c member => (solid c member).1

theorem IsAscii.append {first second : String} (left : IsAscii first) (right : IsAscii second) :
    IsAscii (first ++ second) := by
  intro c member
  rw [String.toList_append] at member
  rcases List.mem_append.mp member with member | member
  · exact left c member
  · exact right c member

theorem IsSolid.trim_eq {text : String} (solid : IsSolid text) : trim text = text := by
  rw [trim, trimBy_of_isTrimmed (isTrimmed_of_forall fun c member => (solid c member).2),
    String.ofList_toList]

end Text

/-- What is read as URL-safe base64 is solid. -/
theorem Base64.isSolid_of_decodeUrl {text : String} {bytes : Bytes}
    (opened : decodeUrl text = .ok bytes) : Text.IsSolid text := by
  rw [eq_encodeUrl_of_decodeUrl opened, Text.IsSolid, encodeUrl, String.toList_ofList]
  exact forall_mem_map_sextets (by decide) bytes

namespace Delivery

variable {text : String}

theorem isLatin_of_isAscii (ascii : Text.IsAscii text) : isLatin text = true := by
  rw [isLatin, List.all_eq_true]
  intro c member
  have small := ascii c member
  exact decide_eq_true (by omega)

/-- ASCII characters are their own bytes. -/
theorem latinBytes_of_isAscii (ascii : Text.IsAscii text) :
    latinBytes text = Utf8.encode text := by
  unfold Text.IsAscii at ascii
  unfold latinBytes Utf8.encode Utf8.encodeChars
  generalize text.toList = chars at ascii
  induction chars with
  | nil => rfl
  | cons c rest ih =>
    obtain ⟨first, others⟩ := List.forall_mem_cons.mp ascii
    have single : String.utf8EncodeChar c = [UInt8.ofNat c.toNat] := by
      have byte : (UInt8.ofNat c.toNat).toNat = c.toNat := Bytes.toNat_ofNat_byte (by omega)
      have small : (UInt8.ofNat c.toNat).toNat < 0x80 := by omega
      have written := Utf8.encodeChar_ascii small
      rwa [byte, Char.ofNat_toNat] at written
    rw [List.map_cons, List.flatMap_cons, single, ih others]
    rfl

theorem holdsUtf8_of_isAscii (ascii : Text.IsAscii text) : holdsUtf8 text = true := by
  rw [holdsUtf8, latinBytes_of_isAscii ascii, Utf8.decode?_encode]
  rfl

/-- **Header fields of ASCII characters arrive unchanged.** -/
theorem received_of_isAscii {headers : List (String × String)}
    (ascii : ∀ field ∈ headers, Text.IsAscii field.1 ∧ Text.IsAscii field.2) :
    received headers = headers := by
  refine if_pos (List.all_eq_true.mpr fun field member => ?_)
  obtain ⟨name, value⟩ := ascii field member
  rw [holdsUtf8_of_isAscii name, holdsUtf8_of_isAscii value]
  rfl

end Delivery

namespace Server

theorem read?_path (endpoint : Endpoint) :
    Target.read? endpoint.path = some ⟨.service, none, endpoint.path⟩ := by
  cases endpoint <;> rfl

/-- **A request to an endpoint arrives there** as it was sent. -/
theorem exists_delivery {request : HttpRequest} {endpoint : Endpoint}
    (path : request.path = endpoint.path)
    (ascii : ∀ field ∈ request.headers, Text.IsAscii field.1 ∧ Text.IsAscii field.2) :
    ∃ delivery, Delivery.ofRequest request = .ok delivery ∧
      Endpoint.at? delivery.target.path = some endpoint ∧ delivery.final = .ok request := by
  obtain ⟨method, place, headers, form⟩ := request
  simp only at path ascii
  subst path
  have latin : (headers.all fun field =>
      Delivery.isLatin field.1 && Delivery.isLatin field.2) = true := by
    refine List.all_eq_true.mpr fun field member => ?_
    obtain ⟨name, value⟩ := ascii field member
    rw [Delivery.isLatin_of_isAscii name, Delivery.isLatin_of_isAscii value]
    rfl
  refine ⟨⟨⟨method, endpoint.path, headers, form⟩, ⟨.service, none, endpoint.path⟩⟩, ?_, ?_, ?_⟩
  · have reached : Origin.service.reachable = .ok () := rfl
    unfold Delivery.ofRequest
    dsimp only
    rw [latin, read?_path]
    dsimp only
    rw [reached]
    rfl
  · have found : Endpoint.at? endpoint.path = some endpoint := by cases endpoint <;> decide
    exact found
  · have plain : endpoint.path.endsWith "/" = false := by
      rw [String.endsWith_eq_endsWith_toSlice, String.Slice.endsWith_string_eq_false_iff]
      cases endpoint <;> decide
    unfold Delivery.final Delivery.arrived
    dsimp only
    rw [plain, Delivery.received_of_isAscii ascii]
    rfl

/-- **A request to an endpoint is answered there.** -/
theorem answer_eq_answerAt (server : Server) (clock : Clock) {request : HttpRequest}
    {endpoint : Endpoint} (path : request.path = endpoint.path)
    (ascii : ∀ field ∈ request.headers, Text.IsAscii field.1 ∧ Text.IsAscii field.2) :
    server.answer clock request = server.answerAt clock endpoint request := by
  obtain ⟨delivery, sent, found, arrives⟩ := exists_delivery path ascii
  rw [answer, sent]
  dsimp only
  rw [found]
  dsimp only
  rw [arrives]

end Server

/-- **A bearer header bears its text.** -/
theorem UserInfo.bearer?_of_solid {text : String} (solid : Text.IsSolid text) (given : text ≠ "") :
    bearer? (some ("Bearer " ++ text)) = some text := by
  have chars : ("Bearer " ++ text).toList = "Bearer".toList ++ ' ' :: text.toList := by
    rw [String.toList_append]
    rfl
  have scheme : ∀ c ∈ "Bearer".toList, decide (c ≠ ' ') = true := by simp
  have token : ((' ' :: text.toList).dropWhile (· ≠ ' ')).drop 1 = text.toList := by simp
  have named : Text.lower "Bearer" = "bearer" := by decide
  unfold bearer?
  simp only [Option.bind_eq_bind, Option.bind_some]
  rw [chars, List.takeWhile_append_of_pos scheme, List.dropWhile_append_of_pos scheme, token]
  simp only [ne_eq, not_true_eq_false, decide_false, Bool.false_eq_true, not_false_eq_true,
    List.takeWhile_cons_of_neg, List.append_nil, String.ofList_toList, solid.trim_eq]
  simp [named, given]

end SealedGrant
