import Goshop.Lib.GoText
import Goshop.Lib.Paging
import Goshop.Order.Data
import Goshop.Order.Reconciliation
import Goshop.Order.Steps

/-! What the order service answers to queries: the orders of a user, payment
events, the trace of one order, and the records of the payment reconciliation. -/
namespace Goshop.Order.Queries

open Goshop.Errors Goshop.Lib Goshop.Lib.Paging Goshop.Lib.Transaction Goshop.Order.Model
open Goshop.Order.Data Goshop.Order.Steps
open Goshop.Order.Reconciliation (PaymentReconciliationRunDO PaymentReconciliationItemDO)
open Goshop.Lib.GoText (CaseTable trimSpace)

section Pages

def pageOf {α : Type} (page size : Int) (rows : List α) : List α :=
  (rows.drop ((page - 1) * size).toNat).take size.toNat

def clampPage (page : Int) : Int := if page < 1 then 1 else page

def clampSize (size : Int) : Int := if size < 1 ∨ 100 < size then 20 else size

def Covers (page size : Int) (before : Nat) : Prop :=
  ((page - 1) * size).toNat ≤ before ∧ before < ((page - 1) * size).toNat + size.toNat

instance (page size : Int) (before : Nat) : Decidable (Covers page size before) :=
  inferInstanceAs (Decidable (_ ∧ _))

theorem mem_of_mem_pageOf {α : Type} {page size : Int} {rows : List α} {row : α}
    (h : row ∈ pageOf page size rows) : row ∈ rows :=
  List.mem_of_mem_drop (List.mem_of_mem_take h)

end Pages

section Orders

structure OrderList where
  total : Int
  items : List OrderInfoDO
deriving DecidableEq, Repr

/-- The id reaches the store as a `uint64`, so a negative one has no orders. -/
def ordersList (db : OrderDB) (userID page size : Int) : OrderList :=
  if userID ≤ 0 then ⟨0, []⟩
  else
    let rows := db.orders.filter fun row => !row.deleted ∧ row.user = userID
    let size := if size = 0 then 10 else size
    let page := if 0 < page then page else 1
    ⟨rows.length,
      pageOf page size (rows.insertionSort fun first second => second.addTime ≤ first.addTime)⟩

end Orders

section Events

structure PaymentEventList where
  total : Int
  mismatchCount : Int
  data : List PaymentEventDO
deriving DecidableEq, Repr

def isMismatch (event : PaymentEventDO) : Bool :=
  if event.eventType = .refundSucceeded then
    event.refundAmountFen ≠ event.providerAmountFen ∨ event.orderAmountFen < event.refundAmountFen
  else event.providerAmountFen ≠ event.orderAmountFen

def matchingEvents (db : OrderDB) (orderSN : String) : List PaymentEventDO :=
  db.events.filter fun row => orderSN = "" ∨ row.orderSN = orderSN

def listPaymentEvents (db : OrderDB) (orderSN : String) (page size : Int)
    (mismatchesOnly : Bool) : PaymentEventList :=
  let matching := matchingEvents db orderSN
  let rows := matching.filter fun row => !mismatchesOnly || isMismatch row
  ⟨rows.length, (matching.filter isMismatch).length,
    pageOf page size (rows.insertionSort fun first second => second.id ≤ first.id)⟩

theorem mem_matchingEvents {db : OrderDB} {orderSN : String} {event : PaymentEventDO} :
    event ∈ matchingEvents db orderSN ↔
      event ∈ db.events ∧ (orderSN = "" ∨ event.orderSN = orderSN) := by
  simp [matchingEvents]

/-- An event is on the page that covers the number of the later ones. -/
theorem mem_listPaymentEvents_iff {db : OrderDB} (unique : (db.events.map (·.id)).Nodup)
    {orderSN : String} {page size : Int} {event : PaymentEventDO} :
    event ∈ (listPaymentEvents db orderSN page size false).data ↔
      event ∈ matchingEvents db orderSN ∧
        Covers page size ((matchingEvents db orderSN).countP (event.id < ·.id)) := by
  have hmatching : ((matchingEvents db orderSN).map (·.id)).Nodup :=
    (List.filter_sublist.map _).nodup unique
  simp only [listPaymentEvents, Bool.not_false, Bool.true_or, List.filter_true]
  exact mem_falling_window_iff hmatching

end Events

section Trace

structure OrderTraceLookup where
  orderSN : String
  tradeNo : String
  correlationID : String
deriving DecidableEq, Repr

structure OrderTrace where
  matchedBy : String
  matchedValue : String
  order : OrderInfoDO
  statusLogs : List OrderStatusLogDO
  paymentEvents : List PaymentEventDO
  refunds : List (RefundRequestDO × Option RefundOutboxDO)
deriving DecidableEq, Repr

/-- The order number read with `LIMIT 1`; no row leaves the text empty. -/
def orderOfNumber (db : OrderDB) (orderSN : Option String) : Except AppError OrderInfoDO :=
  let orderSN := orderSN.getD ""
  if trimSpace orderSN = "" then .error (newCode .errOrderNotFound "order not found")
  else ordersGet db orderSN

/-- The lookup by trade number reads the table without the filter on deleted
rows; the order itself is then read with it. -/
def resolveTraceOrder (db : OrderDB) (lookup : OrderTraceLookup) :
    Except AppError (OrderInfoDO × String × String) :=
  if lookup.orderSN ≠ "" then
    (ordersGet db lookup.orderSN).map (·, "order_sn", lookup.orderSN)
  else if lookup.tradeNo ≠ "" then
    (orderOfNumber db ((db.orders.find? (·.tradeNo = lookup.tradeNo)).map (·.orderSn))).map
      (·, "trade_no", lookup.tradeNo)
  else if lookup.correlationID ≠ "" then
    (orderOfNumber db
      ((db.refunds.find? (·.correlationID = lookup.correlationID)).map (·.orderSN))).map
      (·, "correlation_id", lookup.correlationID)
  else .error (newCode .errValidation "order_sn, trade_no or correlation_id is required")

def loadTraceStatusLogs (db : OrderDB) (orderSN : String) : List OrderStatusLogDO :=
  (db.statusLogs.filter (·.orderSn = orderSN)).insertionSort fun first second =>
    first.addTime < second.addTime ∨ (first.addTime = second.addTime ∧ first.id ≤ second.id)

def withJobs (outbox : List RefundOutboxDO) (refund : RefundRequestDO) :
    List (RefundRequestDO × Option RefundOutboxDO) :=
  match outbox.filter (·.refundRequestID = refund.id) with
  | [] => [(refund, none)]
  | jobs => jobs.map fun job => (refund, some job)

def loadTraceRefunds (db : OrderDB) (orderSN : String) :
    List (RefundRequestDO × Option RefundOutboxDO) :=
  ((db.refunds.filter (·.orderSN = orderSN)).insertionSort
    fun first second => first.id ≤ second.id).flatMap (withJobs db.outbox)

def OrderTraceLookup.trimmed (lookup : OrderTraceLookup) : OrderTraceLookup :=
  ⟨trimSpace lookup.orderSN, trimSpace lookup.tradeNo,
    trimSpace lookup.correlationID⟩

def getOrderTrace (db : OrderDB) (lookup : OrderTraceLookup) : Except AppError OrderTrace :=
  (resolveTraceOrder db lookup.trimmed).map fun (order, matchedBy, matchedValue) =>
    { matchedBy, matchedValue, order
      statusLogs := loadTraceStatusLogs db order.orderSn
      paymentEvents := (listPaymentEvents db order.orderSn 1 100 false).data
      refunds := loadTraceRefunds db order.orderSn }

def OrderTrace.numbers (trace : OrderTrace) : List String :=
  trace.statusLogs.map (·.orderSn) ++ trace.paymentEvents.map (·.orderSN) ++
    trace.refunds.map (·.1.orderSN)

variable {db : OrderDB} {lookup : OrderTraceLookup}

def Resolved (db : OrderDB) (order : OrderInfoDO) : Prop :=
  order.orderSn ≠ "" ∧ findOrder db order.orderSn = some order

theorem ordersGet_resolved {orderSN : String} {order : OrderInfoDO}
    (h : ordersGet db orderSN = .ok order) : Resolved db order := by
  have hfind := ordersGet_ok h
  have hnumber := (findOrder_some hfind).2.2
  simp only [ordersGet] at h
  split at h
  next => cases h
  next hne => exact ⟨by rwa [hnumber], by rwa [hnumber]⟩

theorem orderOfNumber_resolved {orderSN : Option String} {order : OrderInfoDO}
    (h : orderOfNumber db orderSN = .ok order) : Resolved db order := by
  simp only [orderOfNumber] at h
  split at h
  · cases h
  · exact ordersGet_resolved h

theorem resolveTraceOrder_resolved {order : OrderInfoDO} {matched : String × String}
    (h : resolveTraceOrder db lookup = .ok (order, matched)) : Resolved db order := by
  unfold resolveTraceOrder at h
  split at h
  · obtain ⟨given, hgiven, hpair⟩ := except_map_ok h
    cases hpair
    exact ordersGet_resolved hgiven
  · split at h
    · obtain ⟨given, hgiven, hpair⟩ := except_map_ok h
      cases hpair
      exact orderOfNumber_resolved hgiven
    · split at h
      · obtain ⟨given, hgiven, hpair⟩ := except_map_ok h
        cases hpair
        exact orderOfNumber_resolved hgiven
      · cases h

def Recorded (db : OrderDB) (orderSN : String) : Prop :=
  (∃ log ∈ db.statusLogs, log.orderSn = orderSN) ∨ (∃ event ∈ db.events, event.orderSN = orderSN) ∨
    ∃ refund ∈ db.refunds, refund.orderSN = orderSN

theorem mem_traceStatusLogs_iff {orderSN number : String} :
    number ∈ (loadTraceStatusLogs db orderSN).map (·.orderSn) ↔
      number = orderSN ∧ ∃ log ∈ db.statusLogs, log.orderSn = number := by
  simp only [loadTraceStatusLogs, List.mem_map, List.mem_insertionSort, List.mem_filter,
    decide_eq_true_eq]
  constructor
  · rintro ⟨log, ⟨hlog, hnumber⟩, rfl⟩
    exact ⟨hnumber, log, hlog, rfl⟩
  · rintro ⟨rfl, log, hlog, hnumber⟩
    exact ⟨log, ⟨hlog, hnumber⟩, hnumber⟩

theorem mem_tracePaymentEvents_iff {orderSN number : String} (hne : orderSN ≠ "") :
    number ∈ (listPaymentEvents db orderSN 1 100 false).data.map (·.orderSN) ↔
      number = orderSN ∧ ∃ event ∈ db.events, event.orderSN = number := by
  have hmatch : ∀ event ∈ (listPaymentEvents db orderSN 1 100 false).data,
      event ∈ db.events ∧ event.orderSN = orderSN := by
    intro event hevent
    have hsorted := mem_of_mem_pageOf hevent
    rw [List.mem_insertionSort] at hsorted
    obtain ⟨hmem, hnumber⟩ := mem_matchingEvents.mp (List.mem_of_mem_filter hsorted)
    exact ⟨hmem, hnumber.resolve_left hne⟩
  constructor
  · intro hnumber
    obtain ⟨event, hevent, rfl⟩ := List.mem_map.mp hnumber
    obtain ⟨hmem, hsame⟩ := hmatch event hevent
    exact ⟨hsame, event, hmem, rfl⟩
  · rintro ⟨rfl, event, hevent, hsame⟩
    have hpage : (listPaymentEvents db number 1 100 false).data ≠ [] := by
      have hmem : event ∈ matchingEvents db number := mem_matchingEvents.mpr ⟨hevent, .inr hsame⟩
      have hlength := List.length_pos_of_mem hmem
      rw [← List.length_pos_iff_ne_nil]
      simp only [listPaymentEvents, pageOf, Bool.not_false, Bool.true_or, List.filter_true,
        List.length_take, List.length_drop, List.length_insertionSort]
      omega
    obtain ⟨shown, rest, hshown⟩ := List.exists_cons_of_ne_nil hpage
    have hfirst := hmatch shown (by simp [hshown])
    exact List.mem_map.mpr ⟨shown, by simp [hshown], hfirst.2⟩

theorem map_withJobs (outbox : List RefundOutboxDO) (refund : RefundRequestDO) :
    ∃ count, (withJobs outbox refund).map (·.1.orderSN) =
      List.replicate (count + 1) refund.orderSN := by
  unfold withJobs
  split
  · exact ⟨0, rfl⟩
  next hsome =>
    obtain ⟨job, rest, hjobs⟩ := List.exists_cons_of_ne_nil hsome
    exact ⟨rest.length, by simp [hjobs, List.replicate_succ, Function.comp_def]⟩

theorem mem_traceRefunds_iff {orderSN number : String} :
    number ∈ (loadTraceRefunds db orderSN).map (·.1.orderSN) ↔
      number = orderSN ∧ ∃ refund ∈ db.refunds, refund.orderSN = number := by
  have hentries (refund : RefundRequestDO) :
      number ∈ (withJobs db.outbox refund).map (·.1.orderSN) ↔ number = refund.orderSN := by
    obtain ⟨count, hcount⟩ := map_withJobs db.outbox refund
    simp [hcount]
  simp only [loadTraceRefunds, List.map_flatMap, List.mem_flatMap, hentries,
    List.mem_insertionSort, List.mem_filter, decide_eq_true_eq]
  constructor
  · rintro ⟨refund, ⟨hrefund, hnumber⟩, rfl⟩
    exact ⟨hnumber, refund, hrefund, rfl⟩
  · rintro ⟨rfl, refund, hrefund, hnumber⟩
    exact ⟨refund, ⟨hrefund, hnumber⟩, hnumber.symm⟩

/-- A trace is about the order that its number leads to, and shows the records of
this number. -/
theorem getOrderTrace_ok {trace : OrderTrace} (h : getOrderTrace db lookup = .ok trace) :
    (∃ matched, resolveTraceOrder db lookup.trimmed = .ok (trace.order, matched)) ∧
      Resolved db trace.order ∧
      ∀ number, number ∈ trace.numbers ↔ number = trace.order.orderSn ∧ Recorded db number := by
  obtain ⟨⟨order, matched⟩, hresolve, rfl⟩ := except_map_ok h
  have hresolved := resolveTraceOrder_resolved hresolve
  refine ⟨⟨matched, hresolve⟩, hresolved, ?_⟩
  intro number
  rw [OrderTrace.numbers, List.mem_append, List.mem_append, mem_traceStatusLogs_iff,
    mem_tracePaymentEvents_iff hresolved.1, mem_traceRefunds_iff, ← and_or_left, ← and_or_left,
    or_assoc]
  rfl

end Trace

section Reconciliation

/-- The filter that both lists share. A bound that is not positive is no bound. -/
structure ReconciliationFilter where
  provider : String
  windowStart : Int
  windowEnd : Int
deriving DecidableEq, Repr

def ReconciliationFilter.keeps (table : CaseTable) (filter : ReconciliationFilter)
    (run : PaymentReconciliationRunDO) : Bool :=
  let provider := table.lowerTrim filter.provider
  (provider = "" || run.provider = provider) &&
    (filter.windowStart ≤ 0 || filter.windowStart ≤ run.windowStart) &&
    (filter.windowEnd ≤ 0 || run.windowEnd ≤ filter.windowEnd)

structure RunList where
  total : Int
  data : List PaymentReconciliationRunDO
deriving DecidableEq, Repr

structure ItemList where
  total : Int
  data : List PaymentReconciliationItemDO
deriving DecidableEq, Repr

variable (table : CaseTable) (runs : List PaymentReconciliationRunDO)
  (items : List PaymentReconciliationItemDO) (filter : ReconciliationFilter) (result : String)
  (runID page size : Int)

def listPaymentReconciliationRuns : RunList :=
  let rows := runs.filter (filter.keeps table)
  ⟨rows.length, pageOf page size (rows.insertionSort fun first second => second.id ≤ first.id)⟩

def matchingItems : List PaymentReconciliationItemDO :=
  let result := table.lowerTrim result
  items.filter fun item =>
    (runs.any fun run => run.id = item.runID ∧ filter.keeps table run) &&
      (result = "" || item.result.text = result) && (runID = 0 || item.runID = runID)

/-- The rows of the table stand in the order of their keys. -/
def listPaymentReconciliationItems : ItemList :=
  let rows := matchingItems table runs items filter result runID
  ⟨rows.length, pageOf page size rows.reverse⟩

variable {table runs items filter result runID page size}

theorem mem_listPaymentReconciliationItems_iff {item : PaymentReconciliationItemDO} :
    item ∈ (listPaymentReconciliationItems table runs items filter result runID page size).data ↔
      ∃ front rest, matchingItems table runs items filter result runID = front ++ item :: rest ∧
        Covers page size rest.length :=
  mem_reverse_window_iff

end Reconciliation

end Goshop.Order.Queries
