import Goshop.Lib.Table
import Goshop.Order.Data

/-! Payment events and the refund workflow of the order service. Every function
is one transaction; whatever fails inside it reaches the caller as the same
database error. -/
namespace Goshop.Order.Payment

open Goshop.Errors Goshop.Lib Goshop.Lib.Transaction Goshop.Order.Model Goshop.Order.Data
open Goshop.Lib.GoText (CaseTable trimSpace)

section Events

structure PaymentEventRequest where
  provider : String
  eventID : String
  orderSN : String
  tradeNo : String
  eventType : String
  providerAmountFen : Int
  refundAmountFen : Int
deriving DecidableEq, Repr

structure PaymentEventResponse where
  id : Int
  accepted : Bool
  completed : Bool
  orderAmountFen : Int
  orderStatus : OrderStatus
deriving DecidableEq, Repr

def normalizeEvent [table : CaseTable] (event : PaymentEventRequest) :
    PaymentEventRequest :=
  { event with
    provider := table.lowerTrim event.provider
    eventID := trimSpace event.eventID
    orderSN := trimSpace event.orderSN
    tradeNo := trimSpace event.tradeNo
    eventType := table.lowerTrim event.eventType }

def validEvent (event : PaymentEventRequest) : Bool :=
  event.provider ≠ "" ∧ event.eventID ≠ "" ∧ event.orderSN ≠ "" ∧ event.eventType ≠ "" ∧
    0 ≤ event.providerAmountFen

def fitsEvent (event : PaymentEventRequest) : Bool :=
  Sql.fitsVarchar 32 event.provider && Sql.fitsVarchar 128 event.eventID &&
    Sql.fitsVarchar 64 event.orderSN && Sql.fitsVarchar 128 event.tradeNo &&
    Sql.fitsVarchar 32 event.eventType

def findEvent (db : OrderDB) (provider eventID : String) : Option PaymentEventDO :=
  db.events.find? fun row => row.provider = provider ∧ row.eventID = eventID

def found {α : Type} (row : Option α) : OrderTxn α :=
  Txn.lift (match row with
    | some row => .ok row
    | none => .error databaseError)

def changeEvent (id : Int) (change : PaymentEventDO → PaymentEventDO)
    (rows : List PaymentEventDO) : List PaymentEventDO :=
  Table.modify (·.id) id change rows

def reopenEvent (row : PaymentEventDO) : PaymentEventDO :=
  { row with status := .processing, errorDetail := "" }

/-- A redelivered event: a failed one is taken up again, with the order it was
recorded for. -/
def resumeEvent (existing : PaymentEventDO) : OrderTxn PaymentEventResponse := do
  let db ← Txn.read
  let order ← found (findOrder db existing.orderSN)
  if existing.status = .failed then do
    Txn.write { db with events := changeEvent existing.id reopenEvent db.events }
    pure ⟨existing.id, true, false, existing.orderAmountFen, order.status⟩
  else pure ⟨existing.id, false, existing.status = .completed, existing.orderAmountFen, order.status⟩

def newEvent (id : Int) (event : PaymentEventRequest) (order : OrderInfoDO) (now : Int) :
    PaymentEventDO where
  id := id
  provider := event.provider
  eventID := event.eventID
  orderSN := event.orderSN
  tradeNo := event.tradeNo
  eventType := .ofText event.eventType
  orderAmountFen := order.orderMountFen
  providerAmountFen := event.providerAmountFen
  refundAmountFen := event.refundAmountFen
  status := .processing
  errorDetail := ""
  receivedAt := now
  completedAt := none

def recordEvent (event : PaymentEventRequest) (now : Int) : OrderTxn PaymentEventResponse := do
  let db ← Txn.read
  let order ← found (findOrder db event.orderSN)
  Txn.guard (fitsEvent event) databaseError
  let id := Sql.nextId (db.events.map (·.id))
  Txn.write { db with events := db.events ++ [newEvent id event order now] }
  pure ⟨id, true, false, order.orderMountFen, order.status⟩

def beginBody (event : PaymentEventRequest) (now : Int) : OrderTxn PaymentEventResponse := do
  Txn.guard (validEvent event) (newCode .errValidation "payment event is invalid")
  let db ← Txn.read
  match findEvent db event.provider event.eventID with
  | some existing => resumeEvent existing
  | none => recordEvent event now

def beginPaymentEvent [CaseTable] (event : PaymentEventRequest) (now : Int) :
    OrderDB → Except AppError PaymentEventResponse × OrderDB :=
  Txn.commit (beginBody (normalizeEvent event) now)

def completedEvent (now : Int) (row : PaymentEventDO) : PaymentEventDO :=
  { row with status := .completed, completedAt := some now, errorDetail := "" }

def failedEvent (detail : String) (row : PaymentEventDO) : PaymentEventDO :=
  { row with status := .failed, errorDetail := detail }

/-- `ORDER BY id DESC LIMIT 1` over the open requests of an order. -/
def latestOpenRefund (db : OrderDB) (orderSN : String) : Option RefundRequestDO :=
  db.refunds.reverse.find? fun row =>
    row.orderSN = orderSN ∧ (row.status = .refundPending ∨ row.status = .processing)

def changeRefund (id : Int) (change : RefundRequestDO → RefundRequestDO)
    (rows : List RefundRequestDO) : List RefundRequestDO :=
  Table.modify (·.id) id change rows

def settleRefund (event : PaymentEventDO) (now : Int) (db : OrderDB) : OrderDB :=
  match latestOpenRefund db event.orderSN with
  | none => db
  | some request =>
    { db with refunds := changeRefund request.id (fun row =>
        { row with
          status := if event.eventType = .refundFailed then .failed else .refunded
          provider := event.provider
          failureReason :=
            if event.eventType = .refundFailed then "provider reported refund failure" else ""
          updatedAt := now }) db.refunds }

def completeBody (id : Int) (success : Bool) (detail : String) (now : Int) : OrderTxn Unit := do
  let db ← Txn.read
  let event ← found (db.events.find? fun row => row.id = id ∧ row.status = .processing)
  let detail := trimSpace detail
  Txn.guard (success || Sql.fitsVarchar 255 detail) databaseError
  let change := if success then completedEvent now else failedEvent detail
  let db := { db with events := changeEvent event.id change db.events }
  if success ∧ (event.eventType = .refundSucceeded ∨ event.eventType = .refundFailed) then
    Txn.write (settleRefund event now db)
  else Txn.write db

def completePaymentEvent (id : Int) (success : Bool) (detail : String) (now : Int) :
    OrderDB → Except AppError Unit × OrderDB :=
  Txn.commit (completeBody id success detail now)

end Events

section Refunds

structure RefundJob where
  outboxID : Int
  refundRequestID : Int
  orderSN : String
  tradeNo : String
  amountFen : Int
  reason : String
  correlationID : String
  attempts : Int
deriving DecidableEq, Repr

def positiveOr (value fallback : Int) : Int :=
  if value ≤ 0 then fallback else value

def second : Int := 1000000000

/-- A job is due, or its worker has held it for too long. The timeout and the clock
are in nanoseconds, the columns in milliseconds. -/
def claimable (maxAttempts lockTimeout now : Int) (job : RefundOutboxDO) : Bool :=
  (job.attempts < maxAttempts ∧ job.availableAt * 1000 ≤ Sql.datetime6 now ∧
      (job.status = .pending ∨ job.status = .retry)) ∨
    (job.status = .processing ∧ job.lockedAt.any (· * 1000 < Sql.datetime6 (now - lockTimeout)))

def changeOutbox (id : Int) (change : RefundOutboxDO → RefundOutboxDO)
    (rows : List RefundOutboxDO) : List RefundOutboxDO :=
  Table.modify (·.id) id change rows

def claimedJob (now : Int) (row : RefundOutboxDO) : RefundOutboxDO :=
  { row with
    status := .processing
    attempts := row.attempts + 1
    lockedAt := some now
    updatedAt := now }

/-- Claim one job and load what its worker needs; the join reads hidden orders too. -/
def claimJob (now : Int) (job : RefundOutboxDO) : OrderTxn RefundJob := do
  let db ← Txn.read
  Txn.write { db with outbox := changeOutbox job.id (claimedJob now) db.outbox }
  let request ← found (db.refunds.find? (·.id = job.refundRequestID))
  let order ← found (db.orders.find? (·.orderSn = request.orderSN))
  pure ⟨job.id, request.id, request.orderSN, order.tradeNo, request.amountFen, request.reason,
    request.correlationID, job.attempts + 1⟩

def claimJobs (now : Int) : List RefundOutboxDO → OrderTxn (List RefundJob)
  | [] => pure []
  | job :: rest => do
    let claimed ← claimJob now job
    let others ← claimJobs now rest
    pure (claimed :: others)

def claimBody (limit maxAttempts lockTimeout now : Int) : OrderTxn (List RefundJob) := do
  let db ← Txn.read
  let due := db.outbox.filter (claimable maxAttempts lockTimeout now)
  claimJobs (Sql.datetime3 now) (due.take limit.toNat)

def claimRefundJobs (limit maxAttempts lockTimeout now : Int) :
    OrderDB → Except AppError (List RefundJob) × OrderDB :=
  Txn.commit (claimBody (positiveOr limit 20) (positiveOr maxAttempts 8)
    (positiveOr lockTimeout (120 * second)) now)

def changeOrderStatus (id : Int) (status : OrderStatus) (now : Int) (rows : List OrderInfoDO) :
    List OrderInfoDO :=
  rows.map fun row =>
    if !row.deleted ∧ row.id = id then { row with status := status, updateTime := now } else row

/-- The order moves only from the expected status, and its row is locked. -/
def updateRefundOrderStatus (orderSN : String) (source target : OrderStatus) (reason : String)
    (now : Int) : OrderTxn Unit := do
  let db ← Txn.read
  let order ← found (findOrder db orderSN)
  if order.status = target then pure ()
  else do
    Txn.guard (order.status = source) databaseError
    Txn.write { db with orders := changeOrderStatus order.id target now db.orders }
    insertStatusLog
      { orderID := order.id
        orderSn := order.orderSn
        fromStatus := source
        toStatus := target
        reason := reason
        source := "payment.refund.worker"
        operator := "system" } now

/-- The first characters that fill exactly `width` bytes, if any do. -/
def cutBytes : Nat → List Char → Option (List Char)
  | 0, _ => some []
  | _, [] => some []
  | width, char :: rest =>
    if char.utf8Size ≤ width then (cutBytes (width - char.utf8Size) rest).map (char :: ·)
    else none

/-- A detail is cut after 255 bytes; a cut inside a character leaves a text that
the column refuses. -/
def truncatePaymentDetail (value : String) : Option String :=
  let value := trimSpace value
  if 255 < value.utf8ByteSize then (cutBytes 255 value.toList).map String.ofList else some value

def refundBackoff (attempts : Int) : Int :=
  1000 * 2 ^ (min attempts 10).toNat

/-- The provider has reported the money as returned. -/
def refundFinal (providerStatus : String) : Bool :=
  GoText.equalFold providerStatus "refunded" || GoText.equalFold providerStatus "succeeded"

structure RefundResult where
  success : Bool
  provider : String := ""
  providerRefundID : String := ""
  providerStatus : String := ""
  detail : String := ""
deriving DecidableEq, Repr

def normalizeResult [table : CaseTable] (result : RefundResult) : RefundResult :=
  { result with
    provider := table.lowerTrim result.provider
    providerRefundID := trimSpace result.providerRefundID
    providerStatus := table.lowerTrim result.providerStatus }

theorem normalizeResult_success [CaseTable] (result : RefundResult) :
    (normalizeResult result).success = result.success := by
  simp only [normalizeResult]

def acceptedJob (now : Int) (row : RefundOutboxDO) : RefundOutboxDO :=
  { row with status := .completed, lockedAt := none, lastError := "", updatedAt := now }

def deadJob (detail : String) (now : Int) (row : RefundOutboxDO) : RefundOutboxDO :=
  { row with status := .dead, lockedAt := none, lastError := detail, updatedAt := now }

def retriedJob (detail : String) (now : Int) (row : RefundOutboxDO) : RefundOutboxDO :=
  { row with
    status := .retry
    availableAt := now + refundBackoff row.attempts
    lockedAt := none
    lastError := detail
    updatedAt := now }

def acceptedStatus (providerStatus : String) : RefundStatus :=
  if refundFinal providerStatus then .refunded else .processing

def acceptedRefund (result : RefundResult) (now : Int) (row : RefundRequestDO) :
    RefundRequestDO :=
  { row with
    status := acceptedStatus result.providerStatus
    provider := result.provider
    providerRefundID := result.providerRefundID
    failureReason := ""
    updatedAt := now }

def failedRefund (detail : String) (now : Int) (row : RefundRequestDO) : RefundRequestDO :=
  { row with status := .failed, failureReason := detail, updatedAt := now }

def writeRefund (job : RefundOutboxDO) (change : RefundRequestDO → RefundRequestDO) :
    OrderTxn RefundRequestDO := do
  let db ← Txn.read
  let rows := changeRefund job.refundRequestID change db.refunds
  Txn.write { db with refunds := rows }
  found (rows.find? (·.id = job.refundRequestID))

def writeOutbox (job : RefundOutboxDO) (change : RefundOutboxDO → RefundOutboxDO) :
    OrderTxn Unit := do
  let db ← Txn.read
  Txn.write { db with outbox := changeOutbox job.id change db.outbox }

def succeedJob (job : RefundOutboxDO) (result : RefundResult) (now : Int) : OrderTxn Unit := do
  Txn.guard (Sql.fitsVarchar 32 result.provider && Sql.fitsVarchar 128 result.providerRefundID)
    databaseError
  let refund ← writeRefund job (acceptedRefund result now)
  Txn.when (refundFinal result.providerStatus)
    (updateRefundOrderStatus refund.orderSN .refundPending .refunded "provider refund completed"
      now)
  writeOutbox job (acceptedJob now)

def failJob (job : RefundOutboxDO) (detail : String) (maxAttempts now : Int) :
    OrderTxn Unit := do
  if maxAttempts ≤ job.attempts then do
    let refund ← writeRefund job (failedRefund detail now)
    updateRefundOrderStatus refund.orderSN .refundPending .refundFailed
      "refund retry limit reached" now
    writeOutbox job (deadJob detail now)
  else writeOutbox job (retriedJob detail now)

def completeRefundBody (id : Int) (result : RefundResult) (maxAttempts now : Int) :
    OrderTxn Unit := do
  Txn.guard (id ≠ 0) (newCode .errValidation "refund job id is required")
  let db ← Txn.read
  let job ← found (db.outbox.find? fun row => row.id = id ∧ row.status = .processing)
  if result.success then succeedJob job result now
  else do
    let detail ← found (truncatePaymentDetail result.detail)
    failJob job detail maxAttempts now

def completeRefundJob [CaseTable] (id : Int) (result : RefundResult)
    (maxAttempts now : Int) :
    OrderDB → Except AppError Unit × OrderDB :=
  Txn.commit (completeRefundBody id (normalizeResult result) (positiveOr maxAttempts 8) now)

def reopenedRefund (now : Int) (row : RefundRequestDO) : RefundRequestDO :=
  { row with status := .processing, failureReason := "", updatedAt := now }

def requeuedJob (now : Int) (row : RefundOutboxDO) : RefundOutboxDO :=
  { row with
    status := .retry
    attempts := 0
    availableAt := now
    lockedAt := none
    lastError := ""
    updatedAt := now }

def retryDeadBody (id : Int) (now : Int) : OrderTxn RefundJob := do
  Txn.guard (id ≠ 0) (newCode .errValidation "refund job id is required")
  let db ← Txn.read
  let job ← found (db.outbox.find? fun row => row.id = id ∧ row.status = .dead)
  let refund ← found (db.refunds.find? (·.id = job.refundRequestID))
  Txn.when (refund.status = .failed)
    (Txn.write { db with refunds := changeRefund refund.id (reopenedRefund now) db.refunds })
  let order ← found (findOrder db refund.orderSN)
  Txn.when (order.status = .refundFailed)
    (updateRefundOrderStatus refund.orderSN .refundFailed .refundPending
      "refund dead-letter retry requested" now)
  writeOutbox job (requeuedJob now)
  pure ⟨job.id, refund.id, refund.orderSN, order.tradeNo, refund.amountFen, refund.reason,
    refund.correlationID, 0⟩

def retryDeadRefundJob (id : Int) (now : Int) : OrderDB → Except AppError RefundJob × OrderDB :=
  Txn.commit (retryDeadBody id now)

end Refunds

end Goshop.Order.Payment
