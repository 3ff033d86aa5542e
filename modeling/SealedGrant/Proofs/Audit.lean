import Mathlib
import SealedGrant.Audit

/-! # What the audit query answers

After any offers of records the log holds those that could be written, in their order
(`SealedGrant.AuditLog.afterAll_some`). A query with a limit that is not negative answers with the
newest of the records that are asked for, as many as the limit and the cap allow, and the newest
ones first. A negative limit passes under the cap: it is no limit, or no number that a query can
hold (`SealedGrant.AuditLog.recent_afterAll`).
-/

namespace SealedGrant.AuditLog

/-! ## Offers -/

/-- What is said when a record is offered; the event and the outcome may be missing. -/
structure Offer where
  event : Option String
  clientId : Option String
  error : Option String
  outcome : Option String

/-- The record that an offer leaves, if it can be written. -/
def Offer.record? (offer : Offer) : Option AuditRecord := do
  return ⟨← offer.event, offer.clientId, offer.error, ← offer.outcome⟩

/-- The log after an offer. -/
def after (audit : AuditLog) (offer : Offer) : AuditLog :=
  (audit.offer offer.event offer.clientId offer.error offer.outcome).2

/-- The log after offers, one after the other. -/
def afterAll (audit : AuditLog) (offers : List Offer) : AuditLog :=
  offers.foldl after audit

theorem after_some (records : List AuditRecord) (offer : Offer) :
    after (some records) offer = some (records ++ offer.record?.toList) := by
  obtain ⟨event, clientId, error, outcome⟩ := offer
  cases event with
  | none => simp [after, AuditLog.offer, Offer.record?]
  | some event =>
    cases outcome with
    | none => simp [after, AuditLog.offer, Offer.record?]
    | some outcome => rfl

/-- **The log holds what could be written**, in the order of the offers. -/
theorem afterAll_some (records : List AuditRecord) (offers : List Offer) :
    afterAll (some records) offers = some (records ++ offers.filterMap Offer.record?) := by
  induction offers generalizing records with
  | nil => simp [afterAll]
  | cons offer rest ih =>
    have step : afterAll (some records) (offer :: rest) =
        afterAll (some (records ++ offer.record?.toList)) rest :=
      congrArg (afterAll · rest) (after_some records offer)
    rw [step, ih, List.append_assoc, List.filterMap_cons]
    cases offer.record? <;> rfl

/-! ## Queries -/

/-- Whether a record is asked for: it is of the client that is named, or none is named. -/
def concerns (clientId : Option String) (record : AuditRecord) : Bool :=
  clientId.all fun id => id = "" || record.clientId = some id

/-- The newest records of a list of records, so many and the newest ones first. -/
def newest (count : ℕ) (records : List AuditRecord) : List AuditRecord :=
  (records.rtake count).reverse

theorem newest_eq_take (count : ℕ) (records : List AuditRecord) :
    newest count records = records.reverse.take count := by
  rw [newest, List.rtake_eq_reverse_take_reverse, List.reverse_reverse]

theorem length_newest (count : ℕ) (records : List AuditRecord) :
    (newest count records).length = min count records.length := by
  rw [newest_eq_take, List.length_take, List.length_reverse]

theorem min_queryLimit (limit : ℤ) :
    (Number.int limit).min queryLimit = .int (min limit 500) := by
  have cap : queryLimit = .int 500 := rfl
  rw [cap, Number.min, Number.lt_int]
  by_cases large : 500 < limit
  · rw [if_pos (decide_eq_true large), min_eq_right large.le]
  · rw [if_neg (by simpa using large), min_eq_left (not_lt.mp large)]

/-- The least limit that a query can hold. -/
def leastLimit : ℤ := -2 ^ 63

theorem fitsWord_min_iff (limit : ℤ) :
    Number.fitsWord (min limit 500) = true ↔ leastLimit ≤ limit := by
  simp only [Number.fitsWord, leastLimit, Bool.and_eq_true, decide_eq_true_eq]
  omega

theorem filter_concerns_of_none {clientId : Option String}
    (unnamed : clientId.filter (· ≠ "") = none) (records : List AuditRecord) :
    records.filter (concerns clientId) = records := by
  refine List.filter_eq_self.mpr fun record _ => ?_
  cases clientId with
  | none => rfl
  | some id =>
    have empty : id = "" := by simpa using unnamed
    simp [concerns, empty]

theorem filter_concerns_of_some {clientId : Option String} {id : String}
    (named : clientId.filter (· ≠ "") = some id) (records : List AuditRecord) :
    records.filter (concerns clientId) =
      records.filter fun record : AuditRecord => record.clientId = some id := by
  obtain ⟨rfl, filled⟩ := Option.filter_eq_some_iff.mp named
  have filled : id ≠ "" := of_decide_eq_true filled
  exact List.filter_congr fun record _ => by simp [concerns, filled]

/-- What a query makes of the records that are asked for, oldest first. -/
def answered (limit : ℤ) (asked : List AuditRecord) : Except Failure (List AuditRecord) :=
  if 0 ≤ limit then .ok (newest (min limit 500).toNat asked)
  else if leastLimit ≤ limit then .ok asked.reverse
  else .error (.defect .integerTooLarge)

section Answered

variable {limit : ℤ} {asked : List AuditRecord}

theorem answered_of_nonneg (nonneg : 0 ≤ limit) :
    answered limit asked = .ok (newest (min limit 500).toNat asked) :=
  if_pos nonneg

theorem answered_of_negative (negative : limit < 0) (held : leastLimit ≤ limit) :
    answered limit asked = .ok asked.reverse := by
  rw [answered, if_neg (not_le.mpr negative), if_pos held]

theorem answered_of_below (below : limit < leastLimit) :
    answered limit asked = .error (.defect .integerTooLarge) := by
  have negative : leastLimit < 0 := by decide
  rw [answered, if_neg (by omega), if_neg (not_le.mpr below)]

/-- A query answers as the nearest limit that is not negative would, unless it misses the cap. -/
theorem answered_eq_newest_iff : answered limit asked =
    .ok (newest (min (max limit 0) 500).toNat asked) ↔
      0 ≤ limit ∨ leastLimit ≤ limit ∧ asked = [] := by
  rcases le_or_gt 0 limit with nonneg | negative
  · rw [answered_of_nonneg nonneg, max_eq_left nonneg]
    exact iff_of_true rfl (Or.inl nonneg)
  · have none_left : newest (min (max limit 0) 500).toNat asked = [] := by
      rw [max_eq_right negative.le, newest_eq_take]
      rfl
    rw [none_left]
    rcases le_or_gt leastLimit limit with held | below
    · rw [answered_of_negative negative held]
      simp [held, negative]
    · rw [answered_of_below below]
      simp [negative, below]

/-- Answers stay within the cap unless the limit is negative and more is asked for. -/
theorem length_le_of_answered {found : List AuditRecord} (told : answered limit asked = .ok found) :
    found.length ≤ 500 ↔ 0 ≤ limit ∨ asked.length ≤ 500 := by
  rcases le_or_gt 0 limit with nonneg | negative
  · rw [answered_of_nonneg nonneg] at told
    cases told
    refine iff_of_true ?_ (Or.inl nonneg)
    rw [length_newest]
    omega
  · rcases le_or_gt leastLimit limit with held | below
    · rw [answered_of_negative negative held] at told
      cases told
      rw [List.length_reverse, or_iff_right (not_le.mpr negative)]
    · rw [answered_of_below below] at told
      cases told

end Answered

/-- A limit below the cap bounds the answer unless it is negative. -/
theorem limited_eq_answered (limit : ℤ) (asked : List AuditRecord) :
    (if Number.fitsWord (min limit 500) then .ok (limited (min limit 500) asked.reverse)
      else .error (.defect .integerTooLarge)) = answered limit asked := by
  unfold answered
  by_cases held : leastLimit ≤ limit
  · rw [if_pos ((fitsWord_min_iff limit).mpr held), if_pos held]
    by_cases nonneg : 0 ≤ limit
    · rw [if_pos nonneg, limited, if_neg (by omega), newest_eq_take]
    · rw [if_neg nonneg, limited, if_pos (by omega)]
  · have negative : ¬ 0 ≤ limit := by
      unfold leastLimit at held
      omega
    rw [if_neg fun fits => held ((fitsWord_min_iff limit).mp fits), if_neg negative, if_neg held]

/-- **What a query answers** is told by its limit and by the records of the client. -/
theorem recent_some (records : List AuditRecord) (limit : ℤ) (clientId : Option String) :
    recent (some records) (.int limit) clientId =
      answered limit (records.filter (concerns clientId)) := by
  rw [← limited_eq_answered]
  unfold recent
  rw [min_queryLimit, Number.whole_int]
  cases named : clientId.filter (· ≠ "") with
  | none =>
    rw [filter_concerns_of_none named]
    rfl
  | some id =>
    rw [filter_concerns_of_some named]
    rfl

/-- **The audit query is ordered, and bounded for limits that are not negative.** After any offers,
let the records that are asked for be those of the client that is named, or all if none is. With a
limit that is not negative the answer has the newest of them, as many as the limit says and at most
five hundred; with a negative one it has all of them, or there is no answer if the limit is below
what a query can hold. So a negative limit answers as the limit zero only where no record is asked
for, and there are more than five hundred records in an answer just where the limit is negative and
so many are asked for. -/
theorem recent_afterAll (offers : List Offer) (limit : ℤ) (clientId : Option String) :
    let answer := recent (afterAll empty offers) (.int limit) clientId
    let asked := (offers.filterMap Offer.record?).filter (concerns clientId)
    (0 ≤ limit → answer = .ok (newest (min limit 500).toNat asked)) ∧
      (limit < 0 → leastLimit ≤ limit → answer = .ok asked.reverse) ∧
      (limit < leastLimit → answer = .error (.defect .integerTooLarge)) ∧
      (answer = .ok (newest (min (max limit 0) 500).toNat asked) ↔
        0 ≤ limit ∨ leastLimit ≤ limit ∧ asked = []) ∧
      ∀ found, answer = .ok found → (found.length ≤ 500 ↔ 0 ≤ limit ∨ asked.length ≤ 500) := by
  intro answer asked
  have told : answer = answered limit asked := by
    have log : afterAll empty offers = some (offers.filterMap Offer.record?) :=
      afterAll_some [] offers
    rw [show answer = recent (afterAll empty offers) (.int limit) clientId from rfl, log,
      recent_some]
  rw [told]
  exact ⟨answered_of_nonneg, answered_of_negative, answered_of_below, answered_eq_newest_iff,
    fun found => length_le_of_answered⟩

/-- An offer of the record of issued tokens. -/
def issuedOffer (clientId : String) : Offer :=
  ⟨some "token_issued", some clientId, none, some AuditRecord.success⟩

/-- Of three records, a limit of two gives the newest two of all, the newest one first, or all that
the client has. -/
theorem recent_afterAll_three : 0 ≤ (2 : ℤ) ∧
    recent (afterAll empty [issuedOffer "app", issuedOffer "web", issuedOffer "app"]) (.int 2)
        none = .ok [.issued (some "app") false, .issued (some "web") false] ∧
    recent (afterAll empty [issuedOffer "app", issuedOffer "web", issuedOffer "app"]) (.int 2)
        (some "web") = .ok [.issued (some "web") false] := by
  have nonneg : 0 ≤ (2 : ℤ) := by decide
  exact ⟨nonneg, (recent_afterAll _ 2 none).1 nonneg, (recent_afterAll _ 2 (some "web")).1 nonneg⟩

/-- **A negative limit is no bound**: with minus one, more than five hundred records are answered
where a bounded query would answer none. -/
theorem negative_limit_unbounded : ∃ found,
    recent (afterAll empty (List.replicate 501 (issuedOffer "app"))) (.int (-1)) none = .ok found ∧
      found.length = 501 := by
  have log : afterAll empty (List.replicate 501 (issuedOffer "app")) =
      some (List.replicate 501 (.issued (some "app") false)) := by
    have record : (issuedOffer "app").record? = some (.issued (some "app") false) := rfl
    rw [empty, afterAll_some, List.nil_append, List.filterMap_replicate_of_some record]
  refine ⟨List.replicate 501 (.issued (some "app") false), ?_, List.length_replicate⟩
  rw [log, recent_some, answered_of_negative (by decide) (by decide),
    filter_concerns_of_none rfl, List.reverse_replicate]

end SealedGrant.AuditLog
