import Mathlib
import SealedGrant.Proofs.Grant.Completion
import SealedGrant.Proofs.Grant.Order
import SealedGrant.Proofs.Server.SingleUse

/-! # Requests in any order

Two requests that present different tokens do not see each other: whichever of them is answered
first, each gets an answer of one shape, and the reservations that hold afterwards are the same
(`SealedGrant.Server.requests_commute`).
-/

namespace SealedGrant

namespace Server

variable {server : Server} {clock : Clock} {request : GrantRequest} {grant : Token}

/-- A request presents a token: the text that it presents opens as this token. -/
def Presents (server : Server) (clock : Clock) (request : GrantRequest) (grant : Token) : Prop :=
  ∃ kind text, Grant.presented request = .ok (kind, text) ∧
    Token.ofSealed server.context.ring server.context.sealSkew clock.sealing kind text = .ok grant

theorem presents_of_accept {now : ℤ} (accepted : Grant.accept server.context
    ⟨now, clock.sealing, clock.store⟩ request = .ok grant) :
    server.Presents clock request grant := by
  obtain ⟨kind, text, presented, opened, -⟩ := Grant.accept_eq_ok_iff.mp accepted
  exact ⟨kind, text, presented, opened⟩

/-- **Requests on different tokens commute.** Whichever of two requests is answered first, each of
them is granted the same but for fresh ids and nonces, or is refused for the same cause after the
same stage, if the tokens that they present, as far as they present any, have different ids. Both
orders leave the same reservations that hold. -/
theorem requests_commute (server : Server) (clock : Clock) (left right : GrantRequest)
    (apart : ∀ grant found, server.Presents clock left grant → server.Presents clock right found →
      grant.id ≠ found.id) :
    SameResult (SameAnswer Issued.SameShape) (server.handle clock left).result
        ((server.handle clock right).server.handle clock left).result ∧
      SameResult (SameAnswer Issued.SameShape) (server.handle clock right).result
        ((server.handle clock left).server.handle clock right).result ∧
      (((server.handle clock left).server.handle clock right).server.service.store.live
          clock.store).Perm
        (((server.handle clock right).server.handle clock left).server.service.store.live
          clock.store) := by
  cases shown : clock.now with
  | error cause =>
    have reads : clock.readings = .error cause := by
      rw [Clock.readings, shown]
      rfl
    have fails (server : Server) (request : GrantRequest) :
        server.handle clock request = ⟨.error cause, [], server⟩ := by
      rw [handle, reads]
      rfl
    simp only [fails]
    exact ⟨.error cause, .error cause, List.Perm.refl _⟩
  | ok now =>
    have reads : clock.readings = .ok ⟨now, clock.sealing, clock.store⟩ := by
      rw [Clock.readings, shown]
      rfl
    have separate : Grant.Apart server.context ⟨now, clock.sealing, clock.store⟩ left right :=
      fun grant found accepted acceptedToo =>
        apart grant found (presents_of_accept accepted) (presents_of_accept acceptedToo)
    simp only [handle_eq reads]
    exact ⟨.ok (Grant.handle_after separate server.service).1,
      .ok (Grant.handle_after separate.symm server.service).1,
      Grant.live_handle_perm separate server.service⟩

/-! ## Two codes -/

/-- What a request with a code presents is what opens of the code. -/
theorem ofSealed_of_presents {text : String}
    (presents : server.Presents clock (Grant.codeGrant text) grant) :
    Token.ofSealed server.context.ring server.context.sealSkew clock.sealing .authorizationCode
      text = .ok grant := by
  obtain ⟨kind, found, presented, opened⟩ := presents
  by_cases given : text = ""
  · subst given
    cases presented
  · rw [Grant.presented_codeGrant given] at presented
    cases presented
    exact opened

/-- Two codes are issued one after the other. They can be redeemed in any order. -/
theorem requests_commute_sample : ∃ first second,
    (Grant.issueCode Sample.context 1700000000 Sample.codeRequest Sample.state).result =
        .ok first ∧
      (Grant.issueCode Sample.context 1700000000 Sample.codeRequest ⟨⟨1, 1⟩, .memory []⟩).result =
        .ok second ∧
      (∀ grant found, sample.Presents (.still 1700000010) (Grant.codeGrant first) grant →
        sample.Presents (.still 1700000010) (Grant.codeGrant second) found → grant.id ≠ found.id) ∧
      SameResult (SameAnswer Issued.SameShape)
        (sample.handle (.still 1700000010) (Grant.codeGrant first)).result
        ((sample.handle (.still 1700000010) (Grant.codeGrant second)).server.handle
          (.still 1700000010) (Grant.codeGrant first)).result := by
  obtain ⟨first, issued⟩ := Sample.exists_issueCode
  have steady := Grant.issueCode_steady Sample.context 1700000000 Sample.codeRequest Sample.state
    ⟨⟨1, 1⟩, .memory []⟩
  cases later : (Grant.issueCode Sample.context 1700000000 Sample.codeRequest
      ⟨⟨1, 1⟩, .memory []⟩).result with
  | error cause =>
    rw [issued, later] at steady
    cases steady
  | ok second =>
    have apart : ∀ grant found,
        sample.Presents (.still 1700000010) (Grant.codeGrant first) grant →
        sample.Presents (.still 1700000010) (Grant.codeGrant second) found →
          grant.id ≠ found.id := by
      intro grant found presents presentsToo
      have opened : Token.ofSealed Sample.context.ring Sample.context.sealSkew 1700000010
          .authorizationCode first = .ok grant := ofSealed_of_presents presents
      have openedToo : Token.ofSealed Sample.context.ring Sample.context.sealSkew 1700000010
          .authorizationCode second = .ok found := ofSealed_of_presents presentsToo
      have named : grant.id = "id-1" := Grant.id_of_issueCode Sample.exact_random issued opened
      have namedToo : found.id = "id-2" := Grant.id_of_issueCode Sample.exact_random later openedToo
      rw [named, namedToo]
      decide
    exact ⟨first, second, issued, rfl, apart,
      (requests_commute sample (.still 1700000010) _ _ apart).1⟩

end Server
end SealedGrant
