import Goshop.Lib.Run
import Goshop.Review.Service

/-! The audit rows of moderation. `Moderate` writes the decision through the struct
that it has loaded, so the struct holds the decision when the audit row is filled
from it. -/
namespace Goshop.Review.Moderation

open Goshop.Lib Goshop.Lib.GoText Goshop.Lib.Transaction Goshop.Lib.Run
open Goshop.Review.Model
open Goshop.Review.Service (parseDecision)

section Store

structure ReviewReply where
  id : Int := 0
  reviewID : Int
  actorUserID : Int
  content : String
deriving DecidableEq, Repr

inductive AuditAction where
  | moderate
  | reply
deriving DecidableEq, Repr

structure Audit where
  id : Int := 0
  reviewID : Int
  actorUserID : Int
  action : AuditAction
  fromStatus : ReviewStatus
  toStatus : ReviewStatus
  requestID : String
  reason : String := ""
deriving DecidableEq, Repr

structure Store where
  db : ReviewDB
  replies : List ReviewReply
  audits : List Audit

abbrev StoreTxn := Txn ReviewError Store

/-- `tx.Model(&review).Update("status", v)`, with the struct as gorm leaves it. -/
def updateStatus (review : ReviewDO) (decision : ReviewStatus) : StoreTxn ReviewDO := do
  let store ← Txn.read
  Txn.write { store with db := { store.db with
    reviews := store.db.reviews.map (setStatus review.id decision) } }
  return { review with status := decision }

def createAudit (audit : Audit) : StoreTxn Unit := do
  let store ← Txn.read
  Txn.guard (Sql.fitsVarchar 128 audit.requestID && Sql.fitsVarchar 255 audit.reason) .storage
  Txn.write { store with
    audits := store.audits ++ [{ audit with id := Sql.nextId (store.audits.map (·.id)) }] }

def createEvent (event : OutboxEvent) : StoreTxn Unit := do
  let store ← Txn.read
  Txn.guard (!store.db.outbox.any fun other =>
    other.reviewID = event.reviewID ∧ other.decision = event.decision) .storage
  Txn.write { store with db := { store.db with outbox := appendEvent event store.db.outbox } }

def createReply (reply : ReviewReply) : StoreTxn Unit := do
  let store ← Txn.read
  Txn.guard (Sql.fitsVarchar 2000 reply.content) .storage
  Txn.guard (!store.replies.any (·.reviewID = reply.reviewID)) .conflict
  Txn.write { store with
    replies := store.replies ++ [{ reply with id := Sql.nextId (store.replies.map (·.id)) }] }

def moderate (reviewID : Int) (decision : ReviewStatus) (actor : Int) (requestID reason : String) :
    StoreTxn Unit := do
  let store ← Txn.read
  let review ← Txn.lift (getReview store.db reviewID)
  Txn.guard (review.status = .pending) .invalidState
  let review ← updateStatus review decision
  createAudit
    { reviewID := reviewID
      actorUserID := actor
      action := .moderate
      fromStatus := review.status
      toStatus := decision
      requestID := requestID
      reason := reason }
  createEvent { reviewID := reviewID, decision := decision, goodsID := review.goodsID }

def reply (reviewID actor : Int) (content requestID : String) : StoreTxn Unit := do
  let store ← Txn.read
  let review ← Txn.lift (getReview store.db reviewID)
  Txn.guard (review.status = .approved) .invalidState
  createReply { reviewID := reviewID, actorUserID := actor, content := content }
  createAudit
    { reviewID := reviewID
      actorUserID := actor
      action := .reply
      fromStatus := review.status
      toStatus := review.status
      requestID := requestID }

inductive Request where
  | moderate (id : Int) (decision : String) (actor : Int) (requestID reason : String)
  | reply (id actor : Int) (content requestID : String)
deriving DecidableEq, Repr

def body : Request → StoreTxn Unit
  | .moderate id decision actor requestID reason =>
    match parseDecision decision with
    | none => Txn.fail .invalid
    | some decision => do
      Txn.guard (id ≠ 0 ∧ 0 < actor ∧ trimSpace requestID ≠ "") .invalid
      moderate id decision actor requestID reason
  | .reply id actor content requestID => do
    let content := trimSpace content
    Txn.guard (id ≠ 0 ∧ 0 < actor ∧ content ≠ "" ∧ content.utf8ByteSize ≤ 2000 ∧
      trimSpace requestID ≠ "") .invalid
    reply id actor content requestID

def step (store : Store) (request : Request) : Store :=
  (Txn.commit (body request) store).2

end Store

section Effects

def statusOf (store : Store) (id : Int) : Option ReviewStatus :=
  (store.db.reviews.find? (·.id = id)).map (·.status)

variable {store store' : Store}

theorem getReview_ok {db : ReviewDB} {id : Int} {review : ReviewDO}
    (h : getReview db id = .ok review) :
    db.reviews.find? (·.id = id) = some review ∧ review.id = id := by
  unfold getReview at h
  cases hfind : db.reviews.find? (·.id = id) with
  | none =>
    rw [hfind] at h
    cases h
  | some row =>
    rw [hfind] at h
    cases h
    exact ⟨rfl, by simpa using List.find?_some hfind⟩

theorem find_setStatus {rows : List ReviewDO} {id : Int} {decision : ReviewStatus} :
    ((rows.map (setStatus id decision)).find? (·.id = id)).map (·.status) =
      (rows.find? (·.id = id)).map fun _ => decision := by
  induction rows with
  | nil => rfl
  | cons row rest ih =>
    by_cases hrow : row.id = id
    · simp [setStatus, hrow]
    · simpa [setStatus, hrow] using ih

theorem createAudit_ok {audit : Audit} (h : createAudit audit store = .ok ((), store')) :
    (Sql.fitsVarchar 128 audit.requestID && Sql.fitsVarchar 255 audit.reason) = true ∧
      store' = { store with
        audits := store.audits ++
          [{ audit with id := Sql.nextId (store.audits.map (·.id)) }] } := by
  simp only [createAudit, Txn.read_bind, Txn.guard_bind_ok, Txn.write_ok] at h
  obtain ⟨hfits, h⟩ := h
  cases h
  exact ⟨hfits, rfl⟩

theorem createEvent_ok {event : OutboxEvent} (h : createEvent event store = .ok ((), store')) :
    (!store.db.outbox.any fun other =>
        other.reviewID = event.reviewID ∧ other.decision = event.decision) = true ∧
      store' =
        { store with db := { store.db with outbox := appendEvent event store.db.outbox } } := by
  simp only [createEvent, Txn.read_bind, Txn.guard_bind_ok, Txn.write_ok] at h
  obtain ⟨hfresh, h⟩ := h
  cases h
  exact ⟨hfresh, rfl⟩

/-- A `Moderate` that commits has found the review pending, and its audit row says
that the review came from the status that it has gone to. -/
theorem moderate_ok {id actor : Int} {decision : ReviewStatus} {requestID reason : String}
    (h : moderate id decision actor requestID reason store = .ok ((), store')) :
    statusOf store id = some .pending ∧ statusOf store' id = some decision ∧
      (∃ auditID, store'.audits = store.audits ++ [{
        id := auditID, reviewID := id, actorUserID := actor, action := .moderate
        fromStatus := decision, toStatus := decision, requestID := requestID, reason := reason }]) ∧
      Model.moderate id decision requestID reason store.db = .ok ((), store'.db) := by
  simp only [moderate, Txn.read_bind, Txn.lift_bind_ok, Txn.guard_bind_ok, decide_eq_true_eq] at h
  obtain ⟨review, hreview, hpending, h⟩ := h
  obtain ⟨hfind, hid⟩ := getReview_ok hreview
  obtain ⟨struct, updated, hupdate, h⟩ := Txn.bind_ok.mp h
  cases hupdate
  obtain ⟨⟨⟩, audited, haudit, hevent⟩ := Txn.bind_ok.mp h
  obtain ⟨hfits, rfl⟩ := createAudit_ok haudit
  obtain ⟨hfresh, rfl⟩ := createEvent_ok hevent
  refine ⟨by simp [statusOf, hfind, hpending], ?_, ⟨_, rfl⟩, ?_⟩
  · unfold statusOf
    dsimp only
    rw [hid, find_setStatus, hfind]
    rfl
  · simp only [Model.moderate, Txn.read_bind, hreview, Txn.lift_ok_bind, hpending, decide_true,
      Txn.guard_true_bind, hfits, hid]
    rw [hfresh, Txn.guard_true_bind]
    rfl

theorem parseDecision_ne_pending {text : String} {decision : ReviewStatus}
    (h : parseDecision text = some decision) : decision ≠ .pending := by
  unfold parseDecision at h
  dsimp only at h
  split_ifs at h <;> cases h <;> decide

end Effects

section Trail

def Moderates (store : Store) : Request → Prop
  | .moderate id decision actor requestID reason =>
    (body (.moderate id decision actor requestID reason) store).toOption.isSome
  | .reply _ _ _ _ => False

instance (store : Store) (request : Request) : Decidable (Moderates store request) :=
  match request with
  | .moderate id decision actor requestID reason => inferInstanceAs (Decidable
      ((body (.moderate id decision actor requestID reason) store).toOption.isSome = true))
  | .reply _ _ _ _ => inferInstanceAs (Decidable False)

/-- The audit row of a `Moderate` that commits names the status of the review before
the call and the one after it. -/
def Recorded (store : Store) : Request → Prop
  | .moderate id decision actor requestID reason =>
    let request := .moderate id decision actor requestID reason
    Moderates store request → ∃ auditID before after,
      (step store request).audits = store.audits ++ [{
        id := auditID, reviewID := id, actorUserID := actor, action := .moderate
        fromStatus := before, toStatus := after, requestID := requestID, reason := reason }] ∧
      statusOf store id = some before ∧ statusOf (step store request) id = some after
  | .reply _ _ _ _ => True

theorem body_moderate_ok {id actor : Int} {text requestID reason : String} {store store' : Store}
    (h : body (.moderate id text actor requestID reason) store = .ok ((), store')) :
    ∃ decision, decision ≠ .pending ∧
      moderate id decision actor requestID reason store = .ok ((), store') := by
  cases hdecision : parseDecision text with
  | none =>
    simp only [body, hdecision, Txn.fail_ok] at h
  | some decision =>
    simp only [body, hdecision, Txn.guard_bind_ok] at h
    exact ⟨decision, parseDecision_ne_pending hdecision, h.2⟩

/-- The step lemma: no `Moderate` that commits is recorded as what it did. -/
theorem recorded_iff (store : Store) (request : Request) :
    Recorded store request ↔ ¬Moderates store request := by
  cases request with
  | reply id actor content requestID => exact iff_of_true trivial fun h => h
  | moderate id text actor requestID reason =>
    refine ⟨fun hrecorded hcommits => ?_, fun hrefused hcommits => absurd hcommits hrefused⟩
    obtain ⟨auditID, before, after, haudits, hbefore, -⟩ := hrecorded hcommits
    rcases Txn.commit_cases (body (.moderate id text actor requestID reason)) store with
      ⟨⟨⟩, store', hrun, hcommit⟩ | ⟨err, hrun, -⟩
    · obtain ⟨decision, hdecided, hmoderate⟩ := body_moderate_ok hrun
      obtain ⟨hpending, -, ⟨written, hwritten⟩, -⟩ := moderate_ok hmoderate
      rw [step, hcommit, hwritten, List.append_cancel_left_eq] at haudits
      have hfrom : [decision] = [before] := congrArg (List.map Audit.fromStatus) haudits
      rw [hpending, Option.some.injEq] at hbefore
      exact hdecided ((List.singleton_inj.mp hfrom).trans hbefore.symm)
    · simp [Moderates, hrun, Except.toOption] at hcommits

/-- In a sequence of requests every audit row of a `Moderate` names the real
transition exactly if no `Moderate` of the sequence commits. -/
theorem moderation_recorded_iff (store : Store) (requests : List Request) :
    Along step Recorded store requests ↔
      Along step (fun store request => ¬Moderates store request) store requests := by
  constructor
  · exact fun h => h.mono fun store request => (recorded_iff store request).mp
  · exact fun h => h.mono fun store request => (recorded_iff store request).mpr

/-- An approval: the review goes from PENDING to APPROVED, and its audit row says that
it came from APPROVED. -/
theorem approval_audited_from_approved :
    let review : ReviewDO := { id := 1, userID := 7, orderSN := "S1", goodsID := 5
                               rating := fiveStars, content := "good" }
    let store : Store := ⟨⟨[review], [], fun _ => none⟩, [], []⟩
    let request : Request := .moderate 1 "approved" 9 "req-1" ""
    Moderates store request ∧ statusOf store 1 = some .pending ∧
      statusOf (step store request) 1 = some .approved ∧
      (step store request).audits.map (fun audit => (audit.fromStatus, audit.toStatus)) =
        [(.approved, .approved)] := by
  decide +kernel

end Trail

end Goshop.Review.Moderation
