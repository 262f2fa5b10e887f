import Goshop.Order.PaymentSteps
import Goshop.System

/-! The refund requests of an order over whole histories of the calls that touch
them. Each call leaves the refund rows alone, adds one, or changes the status of
one; both results below read that off one lemma. -/
namespace Goshop.Order.Refunds

open Goshop.Lib Goshop.Lib.Transaction Goshop.Lib.Process Goshop.Lib.Run
open Goshop.Order.Model Goshop.Order.Data Goshop.Order.Service Goshop.Order.Payment
open Goshop.Order.Steps Goshop.Order.PaymentSteps Goshop.System
open Goshop.Lib.GoText (CaseTable)

section Calls

inductive RefundCall where
  | update (order : OrderDTO)
  | claimRefundJobs (limit maxAttempts lockTimeout : Int)
  | completeRefundJob (id : Int) (result : RefundResult) (maxAttempts : Int)
  | retryDeadRefundJob (id : Int)
  | completePaymentEvent (id : Int) (success : Bool) (detail : String)
deriving DecidableEq, Repr

/-- One call after the other, each at its own time in nanoseconds; the rows keep
milliseconds. -/
def serve [CaseTable] (db : OrderDB) (label : RefundCall × Int) : OrderDB :=
  match label.1 with
  | .update order => (Txn.commit (updateBody order (Sql.datetime3 label.2)) db).2
  | .claimRefundJobs limit maxAttempts lockTimeout =>
    (claimRefundJobs limit maxAttempts lockTimeout label.2 db).2
  | .completeRefundJob id result maxAttempts =>
    (completeRefundJob id result maxAttempts (Sql.datetime3 label.2) db).2
  | .retryDeadRefundJob id => (retryDeadRefundJob id (Sql.datetime3 label.2) db).2
  | .completePaymentEvent id success detail =>
    (completePaymentEvent id success detail (Sql.datetime3 label.2) db).2

def jobIn (status : OutboxStatus) (id : Int) (db : OrderDB) : Option RefundOutboxDO :=
  db.outbox.find? fun row => row.id = id ∧ row.status = status

def requestOf (status : OutboxStatus) (id : Int) (db : OrderDB) : Option RefundRequestDO :=
  (jobIn status id db).bind fun job => db.refunds.find? (·.id = job.refundRequestID)

def exhausted (id maxAttempts : Int) (db : OrderDB) : Bool :=
  (jobIn .processing id db).any fun job => positiveOr maxAttempts 8 ≤ job.attempts

def reportedStatus [CaseTable] (result : RefundResult) : RefundStatus :=
  acceptedStatus (normalizeResult result).providerStatus

def MayMove [CaseTable] (db : OrderDB) : RefundCall → RefundRequestDO → RefundStatus → Prop
  | .completeRefundJob id result maxAttempts, row, status =>
    requestOf .processing id db = some row ∧
      if result.success then status = reportedStatus result
      else status = .failed ∧ exhausted id maxAttempts db
  | .retryDeadRefundJob id, row, _ => requestOf .dead id db = some row ∧ row.status = .failed
  | .completePaymentEvent _ _ _, row, _ => row.status = .refundPending ∨ row.status = .processing
  | _, _, _ => False

def Keeps (change : RefundRequestDO → RefundRequestDO) : Prop :=
  ∀ row, (change row).id = row.id ∧ (change row).orderSN = row.orderSN ∧
    (change row).amountFen = row.amountFen

/-- What one call can do to the refund rows. -/
inductive Effect [CaseTable] (db : OrderDB) (call : RefundCall) : List RefundRequestDO → Prop
  | none : Effect db call db.refunds
  | opened {order : OrderDTO} {now : Int} (hcall : call = .update order)
    (pending : order.trimmed.target = .refundPending) (positive : 0 < order.refundAmountFen) :
    Effect db call (db.refunds ++
      [newRefundRequest (Sql.nextId (db.refunds.map (·.id))) (refundEntry order.trimmed) now])
  | changed {row : RefundRequestDO} {change : RefundRequestDO → RefundRequestDO}
    (hrow : row ∈ db.refunds) (keeps : Keeps change)
    (moves : MayMove db call row (change row).status) :
    Effect db call (changeRefund row.id change db.refunds)

theorem mem_of_find {id : Int} {rows : List RefundRequestDO} {row : RefundRequestDO}
    (h : rows.find? (·.id = id) = some row) : row ∈ rows ∧ row.id = id :=
  ⟨List.mem_of_find?_eq_some h, by simpa using List.find?_some h⟩

theorem changeRefund_of_absent {id : Int} {rows : List RefundRequestDO}
    (h : rows.find? (·.id = id) = none) (change : RefundRequestDO → RefundRequestDO) :
    changeRefund id change rows = rows := by
  apply Table.modify_of_absent
  simpa using List.find?_eq_none.mp h

theorem checkUpdate_refundAmount {existing : OrderInfoDO} {order : OrderDTO}
    (h : checkUpdate existing order = .ok ()) (hpending : order.target = .refundPending) :
    0 < order.refundAmountFen := by
  unfold checkUpdate at h
  split at h
  · cases h
  · split at h
    · cases h
    · split at h
      · cases h
      · rename_i hfields
        exact Int.not_le.mp fun hle => hfields ⟨hpending, .inr (.inl hle)⟩

theorem update_effect [CaseTable] {db db' : OrderDB} {order : OrderDTO} {now : Int}
    (h : updateBody order now db = .ok ((), db')) : Effect db (.update order) db'.refunds := by
  obtain ⟨existing, -, -, hcheck, hrun⟩ := updateBody_ok h
  obtain ⟨-, rfl⟩ := updateTxn_ok hrun
  by_cases hpending : order.trimmed.target = .refundPending
  · simp only [openedRefunds, if_pos hpending]
    have hamount : order.trimmed.refundAmountFen = order.refundAmountFen := by
      simp only [OrderDTO.trimmed]
    apply Effect.opened rfl hpending
    rw [← hamount]
    exact checkUpdate_refundAmount hcheck hpending
  · simp only [openedRefunds, if_neg hpending, List.append_nil]
    exact .none

theorem claim_effect [CaseTable] {db db' : OrderDB} {limit maxAttempts lockTimeout now : Int}
    {call : RefundCall} {jobs : List RefundJob}
    (h : claimBody limit maxAttempts lockTimeout now db = .ok (jobs, db')) :
    Effect db call db'.refunds := by
  rw [claimBody, Txn.read_bind] at h
  obtain ⟨outbox, rfl, -, -⟩ := claimJobs_ok h
  exact .none

theorem keeps_acceptedRefund (result : RefundResult) (now : Int) :
    Keeps (acceptedRefund result now) := fun _ => ⟨rfl, rfl, rfl⟩

theorem keeps_failedRefund (detail : String) (now : Int) : Keeps (failedRefund detail now) :=
  fun _ => ⟨rfl, rfl, rfl⟩

theorem keeps_reopenedRefund (now : Int) : Keeps (reopenedRefund now) := fun _ => ⟨rfl, rfl, rfl⟩

theorem Effect.ofJob [CaseTable] {db : OrderDB} {call : RefundCall} {job : RefundOutboxDO}
    {change : RefundRequestDO → RefundRequestDO} (keeps : Keeps change)
    (moves : ∀ row, db.refunds.find? (·.id = job.refundRequestID) = some row →
      MayMove db call row (change row).status) :
    Effect db call (changeRefund job.refundRequestID change db.refunds) := by
  cases hrow : db.refunds.find? (·.id = job.refundRequestID) with
  | none =>
    rw [changeRefund_of_absent hrow]
    exact .none
  | some row =>
    obtain ⟨hmem, hid⟩ := mem_of_find hrow
    rw [← hid]
    exact .changed hmem keeps (moves row hrow)

theorem mayMove_accepted [CaseTable] {db : OrderDB} {id maxAttempts now : Int}
    {result : RefundResult}
    {row : RefundRequestDO} (hrequest : requestOf .processing id db = some row)
    (hsuccess : result.success = true) :
    MayMove db (.completeRefundJob id result maxAttempts) row
      (acceptedRefund (normalizeResult result) now row).status := by
  simp only [MayMove, hrequest, hsuccess, if_true, true_and, reportedStatus, acceptedRefund]

theorem mayMove_failed [CaseTable] {db : OrderDB} {id maxAttempts now : Int}
    {result : RefundResult}
    {row : RefundRequestDO} {detail : String} (hrequest : requestOf .processing id db = some row)
    (hfailure : result.success = false) (hexhausted : exhausted id maxAttempts db = true) :
    MayMove db (.completeRefundJob id result maxAttempts) row
      (failedRefund detail now row).status := by
  simp [MayMove, hrequest, hfailure, hexhausted, failedRefund]

theorem completeRefund_effect [CaseTable] {db db' : OrderDB} {id maxAttempts now : Int}
    {result : RefundResult}
    (h : completeRefundBody id (normalizeResult result) (positiveOr maxAttempts 8) now db =
      .ok ((), db')) :
    Effect db (.completeRefundJob id result maxAttempts) db'.refunds := by
  obtain ⟨job, detail, orders, logs, outbox, hjob, -, -, rfl⟩ := completeRefundBody_ok h
  have hrequest : ∀ row, db.refunds.find? (·.id = job.refundRequestID) = some row →
      requestOf .processing id db = some row := by
    intro row hrow
    simp only [requestOf, jobIn, hjob, Option.bind_some, hrow]
  change Effect db _ (reportedRefunds (normalizeResult result) detail _ now job db.refunds)
  rw [reportedRefunds, normalizeResult_success]
  cases hsuccess : result.success with
  | true =>
    rw [if_pos rfl]
    apply Effect.ofJob (keeps_acceptedRefund _ _)
    intro row hrow
    exact mayMove_accepted (hrequest row hrow) hsuccess
  | false =>
    rw [if_neg Bool.false_ne_true]
    split
    · rename_i hattempts
      apply Effect.ofJob (keeps_failedRefund _ _)
      intro row hrow
      have hexhausted : exhausted id maxAttempts db = true := by
        simp only [exhausted, jobIn, hjob, Option.any_some, hattempts, decide_true]
      exact mayMove_failed (hrequest row hrow) hsuccess hexhausted
    · exact .none

theorem retryDead_effect [CaseTable] {db db' : OrderDB} {id now : Int} {job : RefundJob}
    (h : retryDeadBody id now db = .ok (job, db')) :
    Effect db (.retryDeadRefundJob id) db'.refunds := by
  obtain ⟨dead, refund, orders, logs, outbox, hdead, hrefund, -, rfl⟩ := retryDeadBody_ok h
  by_cases hfailed : refund.status = .failed
  · simp only [if_pos hfailed]
    apply Effect.changed (mem_of_find hrefund).1 (keeps_reopenedRefund now)
    exact ⟨by simp only [requestOf, jobIn, hdead, Option.bind_some, hrefund], hfailed⟩
  · simp only [if_neg hfailed]
    exact .none

theorem completeEvent_effect [CaseTable] {db db' : OrderDB} {id now : Int} {success : Bool}
    {detail : String}
    (h : completeBody id success detail now db = .ok ((), db')) :
    Effect db (.completePaymentEvent id success detail) db'.refunds := by
  obtain ⟨event, -, rfl⟩ := completeBody_ok h
  unfold settledRefunds
  split
  · unfold settleRefund
    split
    · exact .none
    · rename_i request hopen
      have hmem := List.mem_of_find?_eq_some hopen
      have hstatus := List.find?_some hopen
      simp only [decide_eq_true_eq] at hstatus
      exact .changed (List.mem_reverse.mp hmem) (fun _ => ⟨rfl, rfl, rfl⟩) hstatus.2
  · exact .none

theorem commit_effect [CaseTable] {α : Type} {body : OrderTxn α} {db : OrderDB}
    {call : RefundCall}
    (h : ∀ value db', body db = .ok (value, db') → Effect db call db'.refunds) :
    Effect db call (Txn.commit body db).2.refunds := by
  rcases Txn.commit_cases body db with ⟨value, db', hrun, hcommit⟩ | ⟨err, -, hcommit⟩
  · rw [hcommit]
    exact h value db' hrun
  · rw [hcommit]
    exact .none

/-- The spec of a call, as far as the refund rows go. -/
theorem serve_effect [CaseTable] (db : OrderDB) (label : RefundCall × Int) :
    Effect db label.1 (serve db label).refunds := by
  obtain ⟨call, now⟩ := label
  cases call with
  | update order =>
    simp only [serve]
    exact commit_effect fun _ _ h => update_effect h
  | claimRefundJobs limit maxAttempts lockTimeout =>
    simp only [serve, claimRefundJobs]
    exact commit_effect fun _ _ h => claim_effect h
  | completeRefundJob id result maxAttempts =>
    simp only [serve, completeRefundJob]
    exact commit_effect fun _ _ h => completeRefund_effect h
  | retryDeadRefundJob id =>
    simp only [serve, retryDeadRefundJob]
    exact commit_effect fun _ _ h => retryDead_effect h
  | completePaymentEvent id success detail =>
    simp only [serve, completePaymentEvent]
    exact commit_effect fun _ _ h => completeEvent_effect h

theorem Effect.unique [CaseTable] {db : OrderDB} {call : RefundCall}
    {rows : List RefundRequestDO}
    (heffect : Effect db call rows) (h : (db.refunds.map (·.id)).Nodup) :
    (rows.map (·.id)).Nodup := by
  cases heffect with
  | none => exact h
  | opened hcall pending positive =>
    apply Table.nodup_snoc h
    intro other hother
    have hlt : other.id < Sql.nextId (db.refunds.map (·.id)) :=
      Sql.lt_nextId (List.mem_map_of_mem hother)
    exact ne_of_lt hlt
  | changed hrow keeps moves =>
    rw [changeRefund, Table.modify_keys fun row => (keeps row).1]
    exact h

end Calls

section Total

def openFen (orderSn : String) (row : RefundRequestDO) : Int :=
  if row.orderSN = orderSn ∧ row.status ≠ .failed then row.amountFen else 0

def openAmount (orderSn : String) (rows : List RefundRequestDO) : Int :=
  (rows.map (openFen orderSn)).sum

def failedFen (orderSn : String) (row : RefundRequestDO) : Int :=
  if row.orderSN = orderSn ∧ row.status = .failed then row.amountFen else 0

/-- The amount that a call opens for the order: a new request, or a failed one
that a report of success or a retry takes up again. -/
def reopened (orderSn : String) (db : OrderDB) : RefundCall → Int
  | .update order =>
    if order.trimmed.orderSn = orderSn ∧ order.trimmed.target = .refundPending ∧
        0 < order.refundAmountFen then
      order.refundAmountFen
    else 0
  | .completeRefundJob id result _ =>
    if result.success then ((requestOf .processing id db).map (failedFen orderSn)).getD 0 else 0
  | .retryDeadRefundJob id => ((requestOf .dead id db).map (failedFen orderSn)).getD 0
  | _ => 0

structure WellKept (rows : List RefundRequestDO) : Prop where
  unique : (rows.map (·.id)).Nodup
  amounts : ∀ row ∈ rows, 0 ≤ row.amountFen

theorem WellKept.effect [CaseTable] {db : OrderDB} {call : RefundCall}
    {rows : List RefundRequestDO}
    (kept : WellKept db.refunds) (heffect : Effect db call rows) : WellKept rows := by
  refine ⟨heffect.unique kept.unique, ?_⟩
  cases heffect with
  | none => exact kept.amounts
  | opened hcall pending positive =>
    intro row hrow
    rcases List.mem_append.mp hrow with hold | hnew
    · exact kept.amounts row hold
    · rw [List.mem_singleton.mp hnew]
      simp only [newRefundRequest, refundEntry, OrderDTO.trimmed_refundAmountFen]
      exact positive.le
  | changed hrow keeps moves =>
    apply Table.modify_forall kept.amounts
    intro row hrow _ hamount
    rw [(keeps row).2.2]
    exact hamount

theorem openFen_newRefundRequest (orderSn : String) (id now : Int) (db : OrderDB)
    {order : OrderDTO} (hpending : order.trimmed.target = .refundPending)
    (hpositive : 0 < order.refundAmountFen) :
    openFen orderSn (newRefundRequest id (refundEntry order.trimmed) now) =
      reopened orderSn db (.update order) := by
  simp [openFen, newRefundRequest, refundEntry, reopened, hpending, OrderDTO.trimmed_refundAmountFen,
    hpositive]

theorem openFen_change_le {change : RefundRequestDO → RefundRequestDO} (keeps : Keeps change)
    (orderSn : String) {row : RefundRequestDO} (hamount : 0 ≤ row.amountFen) :
    openFen orderSn (change row) ≤ openFen orderSn row + failedFen orderSn row := by
  obtain ⟨-, hsn, hfen⟩ := keeps row
  by_cases hsame : row.orderSN = orderSn
  · by_cases hbefore : row.status = .failed <;> by_cases hafter : (change row).status = .failed
    all_goals simp [openFen, failedFen, hsn, hfen, hsame, hbefore, hafter, hamount]
  · simp [openFen, failedFen, hsn, hsame]

theorem openFen_failed {orderSn : String} {row : RefundRequestDO} (h : row.status = .failed) :
    openFen orderSn row = 0 := by
  simp [openFen, h]

theorem failedFen_nonneg {orderSn : String} {row : RefundRequestDO} (h : 0 ≤ row.amountFen) :
    0 ≤ failedFen orderSn row := by
  unfold failedFen
  split
  · exact h
  · exact le_rfl

theorem requestOf_mem {status : OutboxStatus} {id : Int} {db : OrderDB} {row : RefundRequestDO}
    (h : requestOf status id db = some row) : row ∈ db.refunds := by
  obtain ⟨job, -, hrow⟩ := Option.bind_eq_some_iff.mp h
  exact List.mem_of_find?_eq_some hrow

theorem requestOf_failedFen_nonneg {db : OrderDB} (kept : WellKept db.refunds)
    (status : OutboxStatus) (id : Int) (orderSn : String) :
    0 ≤ ((requestOf status id db).map (failedFen orderSn)).getD 0 := by
  cases hrequest : requestOf status id db with
  | none => exact le_rfl
  | some row => exact failedFen_nonneg (kept.amounts row (requestOf_mem hrequest))

theorem reopened_nonneg {db : OrderDB} (kept : WellKept db.refunds) (orderSn : String)
    (call : RefundCall) : 0 ≤ reopened orderSn db call := by
  cases call with
  | update order =>
    simp only [reopened]
    split
    · rename_i h
      exact h.2.2.le
    · exact le_rfl
  | completeRefundJob id result maxAttempts =>
    simp only [reopened]
    split
    · exact requestOf_failedFen_nonneg kept _ _ _
    · exact le_rfl
  | retryDeadRefundJob id =>
    simp only [reopened]
    exact requestOf_failedFen_nonneg kept _ _ _
  | _ => simp only [reopened, le_refl]

theorem openFen_nonneg {orderSn : String} {row : RefundRequestDO} (h : 0 ≤ row.amountFen) :
    0 ≤ openFen orderSn row := by
  unfold openFen
  split
  · exact h
  · exact le_rfl

theorem openFen_moved_le [CaseTable] {db : OrderDB} {call : RefundCall}
    {row : RefundRequestDO}
    {change : RefundRequestDO → RefundRequestDO} (keeps : Keeps change) (orderSn : String)
    (hamount : 0 ≤ row.amountFen) (moves : MayMove db call row (change row).status) :
    openFen orderSn (change row) ≤ openFen orderSn row + reopened orderSn db call := by
  have hchange := openFen_change_le keeps orderSn hamount
  cases call with
  | completeRefundJob id result maxAttempts =>
    obtain ⟨hrequest, hstatus⟩ := moves
    cases hsuccess : result.success with
    | true =>
      simp only [reopened, hsuccess, if_true, hrequest, Option.map_some, Option.getD_some]
      exact hchange
    | false =>
      rw [hsuccess, if_neg Bool.false_ne_true] at hstatus
      rw [openFen_failed hstatus.1]
      simp only [reopened, hsuccess, Bool.false_eq_true, if_false, add_zero]
      exact openFen_nonneg hamount
  | retryDeadRefundJob id =>
    simp only [reopened, moves.1, Option.map_some, Option.getD_some]
    exact hchange
  | completePaymentEvent id success detail =>
    have hopen : failedFen orderSn row = 0 := by
      rcases moves with h | h <;> simp [failedFen, h]
    rw [hopen] at hchange
    simp only [reopened]
    exact hchange
  | _ => exact moves.elim

/-- The step lemma: the open amount grows by at most what the call opens. -/
theorem openAmount_serve_le [CaseTable] {db : OrderDB} (kept : WellKept db.refunds)
    (orderSn : String)
    (label : RefundCall × Int) :
    openAmount orderSn (serve db label).refunds ≤
      openAmount orderSn db.refunds + reopened orderSn db label.1 := by
  have heffect := serve_effect db label
  generalize (serve db label).refunds = rows at heffect ⊢
  cases heffect with
  | none =>
    have hopened := reopened_nonneg kept orderSn label.1
    omega
  | opened hcall pending positive =>
    rw [hcall]
    unfold openAmount
    rw [List.map_append, List.sum_append, List.map_singleton, List.sum_singleton,
      openFen_newRefundRequest orderSn _ _ db pending positive]
  | @changed row change hrow keeps moves =>
    have hmoved := openFen_moved_le keeps orderSn (kept.amounts row hrow) moves
    have hsum := Table.sum_modify (openFen orderSn) change kept.unique hrow
    unfold openAmount changeRefund
    rw [hsum]
    omega

/-- The order has room for what the call opens. -/
def Covered (order : OrderInfoDO) (db : OrderDB) (label : RefundCall × Int) : Prop :=
  openAmount order.orderSn db.refunds + reopened order.orderSn db label.1 ≤ order.orderMountFen

instance (order : OrderInfoDO) (db : OrderDB) (label : RefundCall × Int) :
    Decidable (Covered order db label) :=
  inferInstanceAs (Decidable (_ ≤ _))

structure Within (order : OrderInfoDO) (db : OrderDB) : Prop where
  kept : WellKept db.refunds
  bounded : openAmount order.orderSn db.refunds ≤ order.orderMountFen

theorem Within.serve [CaseTable] {order : OrderInfoDO} {db : OrderDB}
    {label : RefundCall × Int}
    (within : Within order db) (covered : Covered order db label) :
    Within order (serve db label) where
  kept := within.kept.effect (serve_effect db label)
  bounded := (openAmount_serve_le within.kept order.orderSn label).trans covered

/-- Any sequence of calls with any arguments: as long as every call that opens a
request finds room for its amount, the requests that have not failed never add
up to more than the order. -/
theorem refunds_within_amount [CaseTable] (order : OrderInfoDO) (start : OrderDB)
    (calls : List (RefundCall × Int)) (kept : WellKept start.refunds)
    (initial : openAmount order.orderSn start.refunds ≤ order.orderMountFen)
    (covered : Along serve (Covered order) start calls) :
    openAmount order.orderSn (run serve start calls).refunds ≤ order.orderMountFen := by
  have hstart : Within order start := ⟨kept, initial⟩
  have hend : Within order (run serve start calls) :=
    covered.invariant (fun _ _ within hcovered => within.serve hcovered) hstart
  exact hend.bounded

def paidOrder (orderSn : String) : OrderInfoDO :=
  { unpaidOrder orderSn with status := .tradeSuccess, tradeNo := "T1" }

def paidStart (orderSn : String) : OrderDB := ⟨[paidOrder orderSn], [], [], [], [], []⟩

def refundOf (orderSn correlationID : String) (amountFen : Int) : RefundCall :=
  .update
    { orderSn := orderSn
      status := "REFUND_PENDING"
      statusReason := "returned"
      refundAmountFen := amountFen
      actorUserID := 9
      correlationID := correlationID }

local instance letters : CaseTable := GoText.asciiTable

/-- The second request is a transition from `REFUND_PENDING` to itself. -/
theorem second_refund_exceeds_amount :
    let refunded := run serve (paidStart "S1")
      [(refundOf "S1" "R1" 100, second), (refundOf "S1" "R2" 100, 2 * second)]
    openAmount "S1" refunded.refunds = 200 ∧ (paidOrder "S1").orderMountFen = 100 := by
  decide +kernel

theorem refunds_within_amount_one_request :
    let calls := [(refundOf "S1" "R1" 60, second), (.claimRefundJobs 0 0 0, 2 * second),
      (.completeRefundJob 1 { success := true, providerStatus := "refunded" } 0, 3 * second)]
    openAmount "S1" (run serve (paidStart "S1") calls).refunds ≤ (paidOrder "S1").orderMountFen ∧
      openAmount "S1" (run serve (paidStart "S1") calls).refunds = 60 :=
  ⟨refunds_within_amount (paidOrder "S1") _ _ ⟨by decide, by decide⟩ (by decide)
    (by decide +kernel), by decide +kernel⟩

end Total

section Final

def HasStatus (id : Int) (status : RefundStatus) (db : OrderDB) : Prop :=
  ∃ row ∈ db.refunds, row.id = id ∧ row.status = status

instance (id : Int) (status : RefundStatus) (db : OrderDB) : Decidable (HasStatus id status db) :=
  inferInstanceAs (Decidable (∃ _ ∈ _, _))

/-- A report on the job of a refunded request agrees with the refund: it says
that the money is returned, or it fails with attempts left. -/
def Agrees [CaseTable] (db : OrderDB) (label : RefundCall × Int) : Prop :=
  match label.1 with
  | .completeRefundJob id result maxAttempts =>
    ∀ row ∈ requestOf .processing id db, row.status = .refunded →
      if result.success then reportedStatus result = .refunded
      else exhausted id maxAttempts db = false
  | _ => True

instance [CaseTable] (db : OrderDB) (label : RefundCall × Int) : Decidable
    (Agrees db label) := by
  unfold Agrees
  split <;> infer_instance

theorem mayMove_refunded [CaseTable] {db : OrderDB} {label : RefundCall × Int}
    {row : RefundRequestDO}
    {status : RefundStatus} (hagrees : Agrees db label) (hrefunded : row.status = .refunded)
    (moves : MayMove db label.1 row status) : status = .refunded := by
  obtain ⟨call, now⟩ := label
  cases call with
  | completeRefundJob id result maxAttempts =>
    obtain ⟨hrequest, hstatus⟩ := moves
    have hreport := hagrees row hrequest hrefunded
    cases hsuccess : result.success with
    | true =>
      rw [hsuccess, if_pos rfl] at hstatus hreport
      rw [hstatus, hreport]
    | false =>
      rw [hsuccess, if_neg Bool.false_ne_true] at hstatus hreport
      rw [hreport] at hstatus
      exact absurd hstatus.2 Bool.false_ne_true
  | retryDeadRefundJob id =>
    rw [moves.2] at hrefunded
    cases hrefunded
  | completePaymentEvent id success detail =>
    rcases moves with h | h <;> rw [h] at hrefunded <;> cases hrefunded
  | _ => exact moves.elim

theorem serve_refunded [CaseTable] {db : OrderDB} {label : RefundCall × Int} {id : Int}
    (unique : (db.refunds.map (·.id)).Nodup) (hagrees : Agrees db label)
    (h : HasStatus id .refunded db) : HasStatus id .refunded (serve db label) := by
  obtain ⟨row, hrow, rfl, hrefunded⟩ := h
  have heffect := serve_effect db label
  unfold HasStatus
  generalize (serve db label).refunds = rows at heffect ⊢
  cases heffect with
  | none => exact ⟨row, hrow, rfl, hrefunded⟩
  | opened _ _ _ => exact ⟨row, List.mem_append_left _ hrow, rfl, hrefunded⟩
  | @changed other change hother keeps moves =>
    by_cases hsame : row.id = other.id
    · have heq : row = other := List.inj_on_of_nodup_map unique hrow hother hsame
      subst heq
      refine ⟨change row, ?_, (keeps row).1, mayMove_refunded hagrees hrefunded moves⟩
      exact List.mem_map.mpr ⟨row, hrow, if_pos rfl⟩
    · exact ⟨row, List.mem_map.mpr ⟨row, hrow, if_neg hsame⟩, rfl, hrefunded⟩

theorem run_refunded [CaseTable] {db : OrderDB} {id : Int}
    (unique : (db.refunds.map (·.id)).Nodup)
    (refunded : HasStatus id .refunded db) {calls : List (RefundCall × Int)}
    (agrees : Along serve Agrees db calls) : HasStatus id .refunded (run serve db calls) := by
  induction calls generalizing db with
  | nil => exact refunded
  | cons label rest ih =>
    rw [run_cons]
    exact ih ((serve_effect db label).unique unique) (serve_refunded unique agrees.1 refunded)
      agrees.2

theorem run_unique [CaseTable] {start : OrderDB} (unique : (start.refunds.map (·.id)).Nodup)
    (calls : List (RefundCall × Int)) :
    ((run serve start calls).refunds.map (·.id)).Nodup := by
  induction calls generalizing start with
  | nil => exact unique
  | cons label rest ih =>
    rw [run_cons]
    exact ih ((serve_effect start label).unique unique)

/-- Once a request is refunded it stays so in every later state, as long as the
worker's reports on its job agree with that. -/
theorem refunded_is_final [CaseTable] (start : OrderDB) (id : Int)
    (earlier later : List (RefundCall × Int))
    (unique : (start.refunds.map (·.id)).Nodup)
    (agrees : Along serve Agrees start (earlier ++ later))
    (refunded : HasStatus id .refunded (run serve start earlier)) :
    HasStatus id .refunded (run serve start (earlier ++ later)) := by
  obtain ⟨-, hlater⟩ := along_append.mp agrees
  rw [run_append]
  exact run_refunded (run_unique unique earlier) refunded hlater

def refundingStart (orderSn : String) : OrderDB where
  orders := [{ paidOrder orderSn with status := .refundPending }]
  carts := []
  statusLogs := []
  refunds := [⟨1, orderSn, 9, 100, "returned", .refundPending, "", "", "", "R1", 0, 0⟩]
  outbox := [⟨1, 1, .pending, 0, 0, none, "", 0, 0⟩]
  events := [⟨1, "mock", "E1", orderSn, "T1", .refundSucceeded, 100, 100, 100, .processing, "",
    0, none⟩]

local instance finalLetters : CaseTable := GoText.asciiTable

/-- The provider's callback overtakes the answer to the worker's request. -/
theorem late_report_reopens_refund :
    let settled := run serve (refundingStart "S1")
      [(.claimRefundJobs 0 0 0, second), (.completePaymentEvent 1 true "", 2 * second)]
    let reported := serve settled
      (.completeRefundJob 1 { success := true, providerStatus := "processing" } 0, 3 * second)
    HasStatus 1 .refunded settled ∧ HasStatus 1 .processing reported ∧
      ¬HasStatus 1 .refunded reported := by
  decide +kernel

theorem refunded_is_final_agreeing_report :
    let earlier := [(.claimRefundJobs 0 0 0, second), (.completePaymentEvent 1 true "", 2 * second)]
    let later :=
      [(.completeRefundJob 1 { success := true, providerStatus := "Succeeded" } 0, 3 * second),
        (.retryDeadRefundJob 1, 4 * second)]
    HasStatus 1 .refunded (run serve (refundingStart "S1") (earlier ++ later)) :=
  refunded_is_final _ 1 _ _ (by decide) (by decide +kernel) (by decide +kernel)

end Final

end Goshop.Order.Refunds
