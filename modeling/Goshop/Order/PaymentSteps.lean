import Goshop.Order.Payment
import Goshop.Order.Steps

/-! What the payment and refund transactions do to the tables when they
succeed. -/
namespace Goshop.Order.PaymentSteps

open Goshop.Errors Goshop.Lib Goshop.Lib.Transaction
open Goshop.Order.Model Goshop.Order.Data Goshop.Order.Payment Goshop.Order.Steps

variable {now : Int} {db db' : OrderDB}

@[simp] theorem found_ok {α : Type} {row : Option α} {result : α × OrderDB} :
    found row db = .ok result ↔ row = some result.1 ∧ db = result.2 := by
  cases row <;> simp [found]

@[simp] theorem found_bind_ok {α β : Type} {row : Option α} {next : α → OrderTxn β}
    {result : β × OrderDB} :
    (found row >>= next) db = .ok result ↔
      ∃ value, row = some value ∧ next value db = .ok result := by
  cases row <;> simp [found]

section Events

variable {event : PaymentEventRequest} {response : PaymentEventResponse}

/-- A failed event is taken up again; any other known event is only answered. -/
theorem resumeEvent_ok {existing : PaymentEventDO}
    (h : resumeEvent existing db = .ok (response, db')) :
    (∃ order, findOrder db existing.orderSN = some order) ∧
      response.id = existing.id ∧ response.orderAmountFen = existing.orderAmountFen ∧
      if existing.status = .failed then
        response.accepted = true ∧
          db' = { db with events := changeEvent existing.id reopenEvent db.events }
      else
        response.accepted = false ∧
          response.completed = decide (existing.status = .completed) ∧ db' = db := by
  simp only [resumeEvent, Txn.read_bind, found_bind_ok] at h
  obtain ⟨order, horder, h⟩ := h
  refine ⟨⟨order, horder⟩, ?_⟩
  split at h
  · rename_i hfailed
    simp only [Txn.write_bind, Txn.pure_ok] at h
    cases h
    simp [hfailed]
  · rename_i hother
    simp only [Txn.pure_ok] at h
    cases h
    simp [hother]

theorem recordEvent_ok (h : recordEvent event now db = .ok (response, db')) :
    ∃ order, findOrder db event.orderSN = some order ∧
      response = ⟨Sql.nextId (db.events.map (·.id)), true, false, order.orderMountFen,
        order.status⟩ ∧
      db' = { db with events := db.events ++
        [newEvent (Sql.nextId (db.events.map (·.id))) event order now] } := by
  simp only [recordEvent, Txn.read_bind, found_bind_ok, Txn.guard_bind_ok, Txn.write_bind,
    Txn.pure_ok] at h
  obtain ⟨order, horder, -, h⟩ := h
  cases h
  exact ⟨order, horder, rfl, rfl⟩

theorem beginBody_ok (h : beginBody event now db = .ok (response, db')) :
    (∃ existing, findEvent db event.provider event.eventID = some existing ∧
        resumeEvent existing db = .ok (response, db')) ∨
      findEvent db event.provider event.eventID = none ∧
        recordEvent event now db = .ok (response, db') := by
  rw [beginBody, Txn.guard_bind_ok, Txn.read_bind] at h
  cases hfind : findEvent db event.provider event.eventID with
  | some existing =>
    rw [hfind] at h
    exact .inl ⟨existing, rfl, h.2⟩
  | none =>
    rw [hfind] at h
    exact .inr ⟨rfl, h.2⟩

section Totality

variable {existing : PaymentEventDO} {order : OrderInfoDO}

theorem beginBody_resume (hvalid : validEvent event = true)
    (hfind : findEvent db event.provider event.eventID = some existing) :
    beginBody event now db = resumeEvent existing db := by
  rw [beginBody, hvalid, Txn.guard_true_bind, Txn.read_bind, hfind]

theorem beginBody_record (hvalid : validEvent event = true)
    (hfind : findEvent db event.provider event.eventID = none) :
    beginBody event now db = recordEvent event now db := by
  rw [beginBody, hvalid, Txn.guard_true_bind, Txn.read_bind, hfind]

theorem resumeEvent_failed (horder : findOrder db existing.orderSN = some order)
    (hfailed : existing.status = .failed) :
    resumeEvent existing db =
      .ok (⟨existing.id, true, false, existing.orderAmountFen, order.status⟩,
        { db with events := changeEvent existing.id reopenEvent db.events }) := by
  simp only [resumeEvent, Txn.read_bind, found_bind_ok, horder, Option.some.injEq]
  exact ⟨order, rfl, by rw [if_pos hfailed]; rfl⟩

theorem resumeEvent_other (horder : findOrder db existing.orderSN = some order)
    (hother : existing.status ≠ .failed) :
    resumeEvent existing db =
      .ok (⟨existing.id, false, existing.status = .completed, existing.orderAmountFen,
        order.status⟩, db) := by
  simp only [resumeEvent, Txn.read_bind, found_bind_ok, horder, Option.some.injEq]
  exact ⟨order, rfl, by rw [if_neg hother]; rfl⟩

theorem recordEvent_run (horder : findOrder db event.orderSN = some order)
    (hfits : fitsEvent event = true) :
    recordEvent event now db =
      .ok (⟨Sql.nextId (db.events.map (·.id)), true, false, order.orderMountFen, order.status⟩,
        { db with events := db.events ++
          [newEvent (Sql.nextId (db.events.map (·.id))) event order now] }) := by
  simp only [recordEvent, Txn.read_bind, found_bind_ok, horder, Option.some.injEq,
    Txn.guard_bind_ok]
  exact ⟨order, rfl, hfits, rfl⟩

end Totality

theorem beginBody_frame (h : beginBody event now db = .ok (response, db')) :
    ∃ events, db' = { db with events := events } := by
  rcases beginBody_ok h with ⟨existing, -, hresume⟩ | ⟨-, hrecord⟩
  · obtain ⟨-, -, -, hresume⟩ := resumeEvent_ok hresume
    split at hresume
    · exact ⟨_, hresume.2⟩
    · exact ⟨db.events, hresume.2.2⟩
  · obtain ⟨_, -, -, rfl⟩ := recordEvent_ok hrecord
    exact ⟨_, rfl⟩

def closedEvent (success : Bool) (detail : String) (now : Int) :
    PaymentEventDO → PaymentEventDO :=
  if success then completedEvent now else failedEvent (GoText.trimSpace detail)

def settledRefunds (success : Bool) (event : PaymentEventDO) (now : Int) (db : OrderDB) :
    List RefundRequestDO :=
  if success ∧ (event.eventType = .refundSucceeded ∨ event.eventType = .refundFailed) then
    (settleRefund event now db).refunds
  else db.refunds

theorem settleRefund_frame (event : PaymentEventDO) (now : Int) (db : OrderDB) :
    settleRefund event now db =
      { db with refunds := (settleRefund event now db).refunds } := by
  unfold settleRefund
  split <;> rfl

theorem settleRefund_refunds (event : PaymentEventDO) (now : Int) (db : OrderDB)
    (events : List PaymentEventDO) :
    (settleRefund event now { db with events := events }).refunds =
      (settleRefund event now db).refunds := by
  have hlatest : latestOpenRefund { db with events := events } event.orderSN =
      latestOpenRefund db event.orderSN := rfl
  unfold settleRefund
  rw [hlatest]
  cases latestOpenRefund db event.orderSN <;> rfl

theorem completeBody_ok {id : Int} {success : Bool} {detail : String}
    (h : completeBody id success detail now db = .ok ((), db')) :
    ∃ event, (db.events.find? fun row => row.id = id ∧ row.status = .processing) = some event ∧
      db' = { db with
        events := changeEvent event.id (closedEvent success detail now) db.events
        refunds := settledRefunds success event now db } := by
  simp only [completeBody, Txn.read_bind, found_bind_ok, Txn.guard_bind_ok] at h
  obtain ⟨event, hevent, -, h⟩ := h
  refine ⟨event, hevent, ?_⟩
  unfold settledRefunds
  split at h
  · rename_i hrefund
    rw [if_pos hrefund]
    rw [Txn.write_ok, settleRefund_frame, settleRefund_refunds] at h
    cases h
    rfl
  · rename_i hother
    rw [if_neg hother]
    rw [Txn.write_ok] at h
    cases h
    rfl

theorem completeBody_run {row : PaymentEventDO} {id : Int} {success : Bool} {detail : String}
    (hfind : (db.events.find? fun row => row.id = id ∧ row.status = .processing) = some row)
    (hfits : (success || Sql.fitsVarchar 255 (GoText.trimSpace detail)) = true) :
    ∃ refunds, completeBody id success detail now db = .ok ((), { db with
      events := changeEvent row.id (closedEvent success detail now) db.events
      refunds := refunds }) := by
  have hrun : ∃ db', completeBody id success detail now db = .ok ((), db') := by
    simp only [completeBody, Txn.read_bind, found_bind_ok, Txn.guard_bind_ok, hfind,
      Option.some.injEq]
    by_cases hrefund : success = true ∧
        (row.eventType = .refundSucceeded ∨ row.eventType = .refundFailed)
    · exact ⟨_, row, rfl, hfits, by rw [if_pos hrefund]; rfl⟩
    · exact ⟨_, row, rfl, hfits, by rw [if_neg hrefund]; rfl⟩
  obtain ⟨db', hrun⟩ := hrun
  obtain ⟨event, hevent, rfl⟩ := completeBody_ok hrun
  rw [hfind, Option.some.injEq] at hevent
  subst hevent
  exact ⟨_, hrun⟩

end Events

section Refunds

structure OutboxKept (id : Int) (rows rows' : List RefundOutboxDO) : Prop where
  keys : rows'.map (·.id) = rows.map (·.id)
  others : ∀ row ∈ rows, row.id ≠ id → row ∈ rows'

theorem changeOutbox_kept {id : Int} (change : RefundOutboxDO → RefundOutboxDO)
    (hid : ∀ row, (change row).id = row.id) (rows : List RefundOutboxDO) :
    OutboxKept id rows (changeOutbox id change rows) := by
  refine ⟨Table.modify_keys hid, fun row hrow hother => ?_⟩
  exact List.mem_map.mpr ⟨row, hrow, if_neg hother⟩

structure OutboxClaimed (now : Int) (jobs : List Int) (rows rows' : List RefundOutboxDO) :
    Prop where
  keys : rows'.map (·.id) = rows.map (·.id)
  locked : ∀ job ∈ jobs, job ∈ rows.map (·.id) → ∃ row ∈ rows', row.id = job ∧
    row.status = .processing ∧ row.lockedAt = some now
  others : ∀ row ∈ rows, row.id ∉ jobs → row ∈ rows'

theorem OutboxClaimed.cons {job : Int} {jobs : List Int} {rows rows' : List RefundOutboxDO}
    (h : OutboxClaimed now jobs (changeOutbox job (claimedJob now) rows) rows') :
    OutboxClaimed now (job :: jobs) rows rows' := by
  have hkept : OutboxKept job rows (changeOutbox job (claimedJob now) rows) :=
    changeOutbox_kept (claimedJob now) (fun _ => rfl) rows
  refine ⟨h.keys.trans hkept.keys, fun wanted hwanted hkey => ?_, fun row hrow hother => ?_⟩
  · by_cases hlater : wanted ∈ jobs
    · exact h.locked wanted hlater (hkept.keys ▸ hkey)
    · have hjob : wanted = job := (List.mem_cons.mp hwanted).resolve_right hlater
      obtain ⟨row, hrow, hid⟩ := List.mem_map.mp hkey
      refine ⟨claimedJob now row, h.others _ ?_ ?_, hid, rfl, rfl⟩
      · exact List.mem_map.mpr ⟨row, hrow, if_pos (hid.trans hjob)⟩
      · rwa [show (claimedJob now row).id = wanted from hid]
  · rw [List.mem_cons, not_or] at hother
    exact h.others row (hkept.others row hrow hother.1) hother.2

theorem claimJob_ok {job : RefundOutboxDO} {claimed : RefundJob}
    (h : claimJob now job db = .ok (claimed, db')) : claimed.outboxID = job.id ∧
      db' = { db with outbox := changeOutbox job.id (claimedJob now) db.outbox } := by
  simp only [claimJob, Txn.read_bind, Txn.write_bind, found_bind_ok, Txn.pure_ok] at h
  obtain ⟨_, -, _, -, h⟩ := h
  cases h
  exact ⟨rfl, rfl⟩

theorem claimJobs_ok {due : List RefundOutboxDO} {claimed : List RefundJob}
    (h : claimJobs now due db = .ok (claimed, db')) :
    ∃ outbox, db' = { db with outbox := outbox } ∧
      claimed.map (·.outboxID) = due.map (·.id) ∧
      OutboxClaimed now (due.map (·.id)) db.outbox outbox := by
  induction due generalizing db claimed with
  | nil =>
    rw [claimJobs, Txn.pure_ok] at h
    cases h
    exact ⟨_, rfl, rfl, rfl, by simp, fun _ hrow _ => hrow⟩
  | cons job rest ih =>
    simp only [claimJobs, Txn.bind_ok, Txn.pure_ok] at h
    obtain ⟨_, mid, hjob, _, _, hrest, h⟩ := h
    cases h
    obtain ⟨hid, rfl⟩ := claimJob_ok hjob
    obtain ⟨outbox, rfl, hids, hclaimed⟩ := ih hrest
    exact ⟨outbox, rfl, by simp [hid, hids], hclaimed.cons⟩

/-- What the refund workflow does to the orders and their logs: nothing, or one move
of one order along an edge of the state machine, with its entry. -/
inductive RefundMove (db : OrderDB) : List OrderInfoDO → List OrderStatusLogDO → Prop where
  | stay : RefundMove db db.orders db.statusLogs
  | move {order : OrderInfoDO} {target : OrderStatus} (id now : Int) (reason : String)
      (hfind : findOrder db order.orderSn = some order) (hvalid : isValidOrderStatus target)
      (hallowed : canTransitionOrderStatus order.status target = true) :
      RefundMove db (changeOrderStatus order.id target now db.orders)
        (db.statusLogs ++ [newStatusLog id ⟨order.id, order.orderSn, order.status, target, reason,
          "payment.refund.worker", "system"⟩ now])

theorem updateRefundOrderStatus_ok {orderSN reason : String} {source target : OrderStatus}
    (hvalid : isValidOrderStatus target)
    (hallowed : canTransitionOrderStatus source target = true)
    (h : updateRefundOrderStatus orderSN source target reason now db = .ok ((), db')) :
    ∃ orders logs, RefundMove db orders logs ∧
      db' = { db with orders := orders, statusLogs := logs } := by
  simp only [updateRefundOrderStatus, Txn.read_bind, found_bind_ok] at h
  obtain ⟨order, hfind, h⟩ := h
  split at h
  · rw [Txn.pure_ok] at h
    cases h
    exact ⟨db.orders, db.statusLogs, .stay, rfl⟩
  · rw [Txn.guard_bind_ok, Txn.write_bind, decide_eq_true_eq] at h
    obtain ⟨rfl, h⟩ := h
    obtain rfl := (findOrder_some hfind).2.2
    exact ⟨_, _, .move _ now reason hfind hvalid hallowed, insertStatusLog_ok h⟩

theorem RefundMove.refunds {refunds : List RefundRequestDO} {orders : List OrderInfoDO}
    {logs : List OrderStatusLogDO} (h : RefundMove { db with refunds := refunds } orders logs) :
    RefundMove db orders logs := by
  cases h with
  | stay => exact .stay
  | move id now reason hfind hvalid hallowed => exact .move id now reason hfind hvalid hallowed

theorem writeRefund_ok {job : RefundOutboxDO} {change : RefundRequestDO → RefundRequestDO}
    {refund : RefundRequestDO} (h : writeRefund job change db = .ok (refund, db')) :
    db' = { db with refunds := changeRefund job.refundRequestID change db.refunds } := by
  simp only [writeRefund, Txn.read_bind, Txn.write_bind, found_ok] at h
  exact h.2.symm

theorem writeOutbox_ok {job : RefundOutboxDO} {change : RefundOutboxDO → RefundOutboxDO}
    (h : writeOutbox job change db = .ok ((), db')) :
    db' = { db with outbox := changeOutbox job.id change db.outbox } := by
  rw [writeOutbox, Txn.read_bind, Txn.write_ok] at h
  cases h
  rfl

def reportedRefunds (result : RefundResult) (detail : String) (maxAttempts now : Int)
    (job : RefundOutboxDO) (rows : List RefundRequestDO) : List RefundRequestDO :=
  if result.success then changeRefund job.refundRequestID (acceptedRefund result now) rows
  else if maxAttempts ≤ job.attempts then
    changeRefund job.refundRequestID (failedRefund detail now) rows
  else rows

theorem succeedJob_ok {job : RefundOutboxDO} {result : RefundResult}
    (h : succeedJob job result now db = .ok ((), db')) :
    ∃ orders logs outbox, RefundMove db orders logs ∧ OutboxKept job.id db.outbox outbox ∧
      db' = { db with
        orders := orders
        statusLogs := logs
        outbox := outbox
        refunds := changeRefund job.refundRequestID (acceptedRefund result now) db.refunds } := by
  rw [succeedJob, Txn.guard_bind_ok] at h
  simp only [Txn.bind_ok] at h
  obtain ⟨-, refund, refunded, hrefund, _, moved, hmove, houtbox⟩ := h
  have hrefunded := writeRefund_ok hrefund
  subst hrefunded
  rw [writeOutbox_ok houtbox]
  rw [Txn.when_ok] at hmove
  split at hmove
  · obtain ⟨orders, logs, hmoved, rfl⟩ := updateRefundOrderStatus_ok (by decide) (by decide) hmove
    exact ⟨orders, logs, _, hmoved.refunds, changeOutbox_kept (acceptedJob now) (fun _ => rfl) _,
      rfl⟩
  · cases hmove
    exact ⟨db.orders, db.statusLogs, _, .stay, changeOutbox_kept (acceptedJob now) (fun _ => rfl) _,
      rfl⟩

theorem failJob_ok {job : RefundOutboxDO} {detail : String} {maxAttempts : Int}
    (h : failJob job detail maxAttempts now db = .ok ((), db')) :
    ∃ orders logs outbox, RefundMove db orders logs ∧ OutboxKept job.id db.outbox outbox ∧
      db' = { db with
        orders := orders
        statusLogs := logs
        outbox := outbox
        refunds := if maxAttempts ≤ job.attempts then
          changeRefund job.refundRequestID (failedRefund detail now) db.refunds
          else db.refunds } := by
  unfold failJob at h
  split at h
  · rename_i hdead
    rw [if_pos hdead]
    simp only [Txn.bind_ok] at h
    obtain ⟨refund, failed, hrefund, _, moved, hmove, houtbox⟩ := h
    have hfailed := writeRefund_ok hrefund
    subst hfailed
    obtain ⟨orders, logs, hmoved, rfl⟩ := updateRefundOrderStatus_ok (by decide) (by decide) hmove
    exact ⟨orders, logs, _, hmoved.refunds, changeOutbox_kept (deadJob detail now) (fun _ => rfl) _,
      writeOutbox_ok houtbox⟩
  · rename_i hretry
    rw [if_neg hretry]
    exact ⟨db.orders, db.statusLogs, _, .stay,
      changeOutbox_kept (retriedJob detail now) (fun _ => rfl) _, writeOutbox_ok h⟩

theorem completeRefundBody_ok {id maxAttempts : Int} {result : RefundResult}
    (h : completeRefundBody id result maxAttempts now db = .ok ((), db')) :
    ∃ job detail orders logs outbox,
      (db.outbox.find? fun row => row.id = id ∧ row.status = .processing) = some job ∧
      RefundMove db orders logs ∧ OutboxKept job.id db.outbox outbox ∧
      db' = { db with
        orders := orders
        statusLogs := logs
        outbox := outbox
        refunds := reportedRefunds result detail maxAttempts now job db.refunds } := by
  simp only [completeRefundBody, Txn.guard_bind_ok, Txn.read_bind, found_bind_ok] at h
  obtain ⟨-, job, hjob, h⟩ := h
  unfold reportedRefunds
  split at h
  · rename_i hsuccess
    obtain ⟨orders, logs, outbox, hmoved, hkept, rfl⟩ := succeedJob_ok h
    exact ⟨job, "", orders, logs, outbox, hjob, hmoved, hkept, by rw [if_pos hsuccess]⟩
  · rename_i hfailure
    rw [found_bind_ok] at h
    obtain ⟨detail, -, h⟩ := h
    obtain ⟨orders, logs, outbox, hmoved, hkept, rfl⟩ := failJob_ok h
    exact ⟨job, detail, orders, logs, outbox, hjob, hmoved, hkept, by rw [if_neg hfailure]⟩

/-- A retried dead job opens its request again only when that one has failed. -/
theorem retryDeadBody_ok {id : Int} {job : RefundJob}
    (h : retryDeadBody id now db = .ok (job, db')) :
    ∃ dead refund orders logs outbox,
      (db.outbox.find? fun row => row.id = id ∧ row.status = .dead) = some dead ∧
      db.refunds.find? (·.id = dead.refundRequestID) = some refund ∧
      RefundMove db orders logs ∧
      db' = { db with
        orders := orders
        statusLogs := logs
        outbox := outbox
        refunds := if refund.status = .failed then
          changeRefund refund.id (reopenedRefund now) db.refunds
          else db.refunds } := by
  simp only [retryDeadBody, Txn.guard_bind_ok, Txn.read_bind, found_bind_ok] at h
  obtain ⟨-, dead, hdead, refund, hrefund, h⟩ := h
  rw [Txn.bind_ok] at h
  obtain ⟨_, opened, hopen, h⟩ := h
  rw [found_bind_ok] at h
  obtain ⟨order, -, h⟩ := h
  simp only [Txn.bind_ok, Txn.pure_ok] at h
  obtain ⟨_, moved, hmove, _, requeued, hrequeue, h⟩ := h
  cases h
  have hopened : opened = { db with
      refunds := if refund.status = .failed then
        changeRefund refund.id (reopenedRefund now) db.refunds
        else db.refunds } := by
    rw [Txn.when_ok] at hopen
    split at hopen
    · rename_i hfailed
      rw [if_pos (by simpa using hfailed)]
      rw [Txn.write_ok] at hopen
      cases hopen
      rfl
    · rename_i hother
      rw [if_neg (by simpa using hother)]
      cases hopen
      rfl
  subst hopened
  rw [writeOutbox_ok hrequeue]
  rw [Txn.when_ok] at hmove
  split at hmove
  · obtain ⟨orders, logs, hmoved, rfl⟩ := updateRefundOrderStatus_ok (by decide) (by decide) hmove
    exact ⟨dead, refund, orders, logs, _, hdead, hrefund, hmoved.refunds, rfl⟩
  · cases hmove
    exact ⟨dead, refund, db.orders, db.statusLogs, _, hdead, hrefund, .stay, rfl⟩

end Refunds

end Goshop.Order.PaymentSteps
