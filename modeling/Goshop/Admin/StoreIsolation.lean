import Goshop.Admin.Operations

/-! Which orders a member of staff reaches through the admin routes, against the
scopes of the token. The order routes check the order that a number leads to; the
payment routes check no order at all. Without `GetOrderBySn` the routes for one
order never succeed, and what is left unchecked can be read off the request and
the tables. -/
namespace Goshop.Admin.StoreIsolation

open Goshop.Errors Goshop.Lib Goshop.Lib.GoText Goshop.Lib.Transaction
open Goshop.Authz.Principal Goshop.Authz.Roles Goshop.Authz.Scope Goshop.Admin.Access
open Goshop.Order.Model Goshop.Order.Data Goshop.Order.Service Goshop.Order.Payment
open Goshop.Order.Queries Goshop.Order.Steps Goshop.Admin.Operations
open Goshop.System (OrderLookup)

section Reach

def rowsOf : Response → List OrderInfoDO
  | .orders _ data => data
  | .trace trace => [trace.order]
  | .order detail => [detail]
  | _ => []

def numbersOf : Response → List String
  | .trace trace => trace.numbers
  | .events list => list.data.map (·.orderSN)
  | .items list => list.data.map (·.orderSN)
  | _ => []

def refundState (db : OrderDB) (orderSN : String) :
    List (RefundRequestDO × List RefundOutboxDO) :=
  (db.refunds.filter (·.orderSN = orderSN)).map fun refund =>
    (refund, db.outbox.filter (·.refundRequestID = refund.id))

def Changed (before after : OrderDB) (order : OrderInfoDO) : Prop :=
  order ∉ after.orders ∨ refundState after order.orderSn ≠ refundState before order.orderSn

/-- A successful request has shown the order or its records, or has changed it. -/
def Reached (before : Backend) (response : Response) (after : Backend) (order : OrderInfoDO) :
    Prop :=
  order ∈ before.orders.orders ∧ order.deleted = false ∧
    (order ∈ rowsOf response ∨ order.orderSn ∈ numbersOf response ∨
      Changed before.orders after.orders order)

def InScope (table : CaseTable) (claims : Claims) (order : OrderInfoDO) : Prop :=
  ∃ domain, claimsAllowScope table claims (orderScope order domain) = true

def isPaymentRoute : Request → Bool
  | .listPaymentEvents _ _ _ | .listPaymentReconciliationRuns _ _ _
  | .listPaymentReconciliationItems _ _ _ _ _ | .retryDeadRefundJob _ => true
  | .listOrders _ _ _ | .getOrderTrace _ | .getOrder _ | .closeOrder _ | .refundOrder _ _ _ =>
    false

/-- The records of the order are in what the request selects, and no handler looks
at the order: another order with its number is traced, or its events or items
stand on the page. -/
def Exposed (table : CaseTable) (backend : Backend) (order : OrderInfoDO) : Request → Prop
  | .getOrderTrace lookup =>
    (∃ found matched, resolveTraceOrder backend.orders lookup.trimmed = .ok (found, matched) ∧
      found ≠ order ∧ found.orderSn = order.orderSn) ∧ Recorded backend.orders order.orderSn
  | .listPaymentEvents orderSN page size =>
    let matching := matchingEvents backend.orders (trimSpace orderSN)
    ∃ event ∈ matching, event.orderSN = order.orderSn ∧
      Covers (clampPage page) (clampSize size) (matching.countP (event.id < ·.id))
  | .listPaymentReconciliationItems filter result runID page size =>
    ∃ front item rest,
      matchingItems table backend.runs backend.items filter result runID = front ++ item :: rest ∧
        item.orderSN = order.orderSn ∧ Covers (clampPage page) (clampSize size) rest.length
  | _ => False

end Reach

section Update

variable {order : OrderDTO} {now : Int} {db db' : OrderDB}

theorem not_changed_self (db : OrderDB) {row : OrderInfoDO} (h : row ∈ db.orders) :
    ¬Changed db db row := by
  simp [Changed, h]

theorem updateBody_changed (hid : order.id = 0) (h : updateBody order now db = .ok ((), db'))
    {row : OrderInfoDO} (hrow : row ∈ db.orders) (hchanged : Changed db db' row) :
    row.orderSn = order.trimmed.orderSn := by
  obtain ⟨existing, -, -, -, hrun⟩ := updateBody_ok h
  obtain ⟨-, rfl⟩ := updateTxn_ok hrun
  by_contra hother
  rcases hchanged with hmissing | hrefunds
  · apply hmissing
    refine List.mem_map.mpr ⟨row, hrow, ?_⟩
    have hkeyless : order.trimmed.id = 0 := (OrderDTO.trimmed_id order).trans hid
    rw [addressed_withPayTime, OrderDTO.trimmed_trimmed, addressed_eq_hasSn hkeyless, hasSn,
      decide_eq_false hother, Bool.and_false]
    rfl
  · apply hrefunds
    have hopened : (openedRefunds order.trimmed now db).filter (·.orderSN = row.orderSn) = [] := by
      unfold openedRefunds
      split
      · simp [newRefundRequest, refundEntry, Ne.symm hother]
      · rfl
    simp only [refundState, List.filter_append, hopened, List.append_nil]
    apply List.map_congr_left
    intro refund hrefund
    have hid := Sql.lt_nextId (List.mem_map_of_mem (f := (·.id)) (List.mem_of_mem_filter hrefund))
    have hjobs : (openedJobs order.trimmed now db).filter (·.refundRequestID = refund.id) = [] := by
      unfold openedJobs
      split
      · simp [newRefundOutbox]
        omega
      · rfl
    rw [hjobs, List.append_nil]

end Update

section Routes

variable {lookup : OrderLookup} {table : CaseTable} {claims : Claims}

theorem authorizeOrder_ok {db : OrderDB} {orderSN : String} {domain : BusinessDomain}
    {order : OrderInfoDO}
    (h : authorizeOrder lookup table claims db orderSN domain = .ok order) :
    findOrder db (trimSpace orderSN) = some order ∧
      claimsAllowScope table claims (orderScope order domain) = true := by
  obtain ⟨found, hfound, h⟩ := except_bind_ok.mp h
  split at h
  next hallowed =>
    cases h
    have hfind := ordersGet_ok (lookup.sound _ _ _ hfound)
    rw [trimSpace_trimSpace] at hfind
    exact ⟨hfind, hallowed⟩
  next => cases h

theorem updateOrderStatus_reached {domain : BusinessDomain} {order : OrderDTO} {action : String}
    {now : Int} {backend backend' : Backend} {response : Response} (hid : order.id = 0)
    (h : updateOrderStatus lookup table claims domain order action now backend =
      (.ok response, backend'))
    {row : OrderInfoDO} (hreached : Reached backend response backend' row)
    (hfind : findOrder backend.orders row.orderSn = some row) : InScope table claims row := by
  unfold updateOrderStatus at h
  cases hauthorized : authorizeOrder lookup table claims backend.orders order.orderSn domain with
  | error err =>
    rw [hauthorized] at h
    cases h
  | ok authorized =>
    rw [hauthorized] at h
    obtain ⟨hfirst, hallowed⟩ := authorizeOrder_ok hauthorized
    rcases Txn.commit_cases (updateBody order now) backend.orders with
      ⟨value, db', hrun, hcommit⟩ | ⟨err, -, hcommit⟩
    · simp only [hcommit, Prod.mk.injEq] at h
      obtain ⟨hresponse, rfl⟩ := h
      obtain ⟨audited, -, hupdated⟩ := except_map_ok hresponse
      obtain ⟨hrow, -, hrows | hnumbers | hchanged⟩ := hreached
      · simp [← hupdated, rowsOf] at hrows
      · simp [← hupdated, numbersOf] at hnumbers
      · have hnumber := updateBody_changed hid hrun hrow hchanged
        rw [hnumber] at hfind
        cases hfirst.symm.trans hfind
        exact ⟨domain, hallowed⟩
    · simp only [hcommit, Prod.mk.injEq] at h
      cases h.1

/-- The order routes check the order that the number of a reached order leads to. -/
theorem orders_route_in_scope {arrival : Arrival} {backend backend' : Backend}
    {response : Response}
    (h : handle lookup table claims arrival backend = (.ok response, backend'))
    (hroute : isPaymentRoute arrival.request = false) {order : OrderInfoDO}
    (hreached : Reached backend response backend' order)
    (hfind : findOrder backend.orders order.orderSn = some order) : InScope table claims order := by
  unfold handle at h
  cases hrequest : arrival.request with
  | listOrders userID page size =>
    simp only [hrequest, Prod.mk.injEq, Except.ok.injEq] at h
    obtain ⟨rfl, rfl⟩ := h
    obtain ⟨hrow, -, hrows | hnumbers | hchanged⟩ := hreached
    · exact ⟨_, by simpa [rowsOf, listOrders] using (List.mem_filter.mp hrows).2⟩
    · simp [numbersOf, listOrders] at hnumbers
    · exact absurd hchanged (not_changed_self _ hrow)
  | getOrderTrace traced =>
    simp only [hrequest, Prod.mk.injEq] at h
    obtain ⟨htrace, rfl⟩ := h
    obtain ⟨trace, hread, hanswer⟩ := except_bind_ok.mp htrace
    split at hanswer
    next hallowed =>
      cases hanswer
      obtain ⟨-, hresolved, hparts⟩ := getOrderTrace_ok hread
      obtain ⟨hrow, -, hrows | hnumbers | hchanged⟩ := hreached
      · cases List.mem_singleton.mp hrows
        exact ⟨_, hallowed⟩
      · rw [((hparts _).mp hnumbers).1] at hfind
        cases hresolved.2.symm.trans hfind
        exact ⟨_, hallowed⟩
      · exact absurd hchanged (not_changed_self _ hrow)
    next => cases hanswer
  | getOrder orderSN =>
    simp only [hrequest, Prod.mk.injEq] at h
    obtain ⟨horder, rfl⟩ := h
    obtain ⟨detail, hauthorized, rfl⟩ := except_map_ok horder
    obtain ⟨hrow, -, hrows | hnumbers | hchanged⟩ := hreached
    · cases List.mem_singleton.mp hrows
      exact ⟨_, (authorizeOrder_ok hauthorized).2⟩
    · simp [numbersOf] at hnumbers
    · exact absurd hchanged (not_changed_self _ hrow)
  | closeOrder orderSN =>
    simp only [hrequest] at h
    exact updateOrderStatus_reached rfl h hreached hfind
  | refundOrder orderSN amountFen reason =>
    simp only [hrequest, refundOrder] at h
    split at h
    · cases h
    · cases hactor : userIDFromClaims claims with
      | error err =>
        rw [hactor] at h
        cases h
      | ok actor =>
        rw [hactor] at h
        exact updateOrderStatus_reached rfl h hreached hfind
  | listPaymentEvents _ _ _ => rw [hrequest] at hroute; cases hroute
  | listPaymentReconciliationRuns _ _ _ => rw [hrequest] at hroute; cases hroute
  | listPaymentReconciliationItems _ _ _ _ _ => rw [hrequest] at hroute; cases hroute
  | retryDeadRefundJob _ => rw [hrequest] at hroute; cases hroute

end Routes

section Main

variable {table : CaseTable} {claims : Claims} {backend : Backend}

theorem retryDeadRefundJobHandler_refused (claims : Claims) (id now : Int) (backend : Backend) :
    ∃ err, (retryDeadRefundJobHandler claims id now backend).1 = .error err := by
  have haudit : ∃ err, audit claims "refund_dead_job_retried" = .error err := by
    have hunknown : lowerTrim "refund_dead_job_retried" ∉ adminAuditActions := by decide +kernel
    unfold audit
    cases userIDFromClaims claims with
    | error err => exact ⟨err, rfl⟩
    | ok _ => exact ⟨_, by rw [if_neg hunknown]; rfl⟩
  obtain ⟨err, herr⟩ := haudit
  unfold retryDeadRefundJobHandler
  split
  · exact ⟨_, rfl⟩
  · simp only [herr]
    cases (retryDeadRefundJob id now backend.orders).1 with
    | error err' => exact ⟨err', rfl⟩
    | ok job => exact ⟨err, rfl⟩

theorem reached_self_iff {response : Response} {order : OrderInfoDO} :
    Reached backend response backend order ↔
      order ∈ backend.orders.orders ∧ order.deleted = false ∧
        (order ∈ rowsOf response ∨ order.orderSn ∈ numbersOf response) := by
  constructor
  · rintro ⟨hrow, hvisible, hrows | hnumbers | hchanged⟩
    · exact ⟨hrow, hvisible, .inl hrows⟩
    · exact ⟨hrow, hvisible, .inr hnumbers⟩
    · exact absurd hchanged (not_changed_self _ hrow)
  · rintro ⟨hrow, hvisible, hrows | hnumbers⟩
    · exact ⟨hrow, hvisible, .inl hrows⟩
    · exact ⟨hrow, hvisible, .inr (.inl hnumbers)⟩

/-- The response shows an order that is in scope, or the records of one that is
exposed, and of all that are. -/
def Shows (table : CaseTable) (claims : Claims) (backend : Backend) (request : Request)
    (response : Response) : Prop :=
  (∀ order ∈ rowsOf response, InScope table claims order) ∧
    ∀ order, (order.orderSn ∈ numbersOf response → order ∉ rowsOf response →
      Exposed table backend order request) ∧
        (Exposed table backend order request → order.orderSn ∈ numbersOf response)

theorem shows_trace {lookup : OrderTraceLookup} {response : Response}
    (h : getOrderTraceHandler table claims backend.orders lookup = .ok response) :
    Shows table claims backend (.getOrderTrace lookup) response := by
  obtain ⟨trace, hread, hanswer⟩ := except_bind_ok.mp h
  split at hanswer
  next hallowed =>
    cases hanswer
    obtain ⟨⟨matched, hfound⟩, -, hnumbers⟩ := getOrderTrace_ok hread
    refine ⟨?_, fun order => ⟨?_, ?_⟩⟩
    · intro order hrow
      cases List.mem_singleton.mp hrow
      exact ⟨_, hallowed⟩
    · intro hnumber hother
      obtain ⟨hsame, hrecorded⟩ := (hnumbers _).mp hnumber
      refine ⟨⟨trace.order, matched, hfound, ?_, hsame.symm⟩, hrecorded⟩
      rintro rfl
      exact hother (List.mem_singleton.mpr rfl)
    · rintro ⟨⟨found, matched', hresolved, -, hsame⟩, hrecorded⟩
      cases hfound.symm.trans hresolved
      exact (hnumbers _).mpr ⟨hsame.symm, hrecorded⟩
  next => cases hanswer

theorem shows_events (unique : (backend.orders.events.map (·.id)).Nodup) (orderSN : String)
    (page size : Int) :
    Shows table claims backend (.listPaymentEvents orderSN page size)
      (.events (listPaymentEvents backend.orders (trimSpace orderSN) (clampPage page)
        (clampSize size) false)) := by
  refine ⟨fun _ hrow => absurd hrow List.not_mem_nil, fun order => ⟨?_, ?_⟩⟩
  · intro hnumber _
    obtain ⟨event, hevent, hsame⟩ := List.mem_map.mp hnumber
    obtain ⟨hmatching, hcovers⟩ := (mem_listPaymentEvents_iff unique).mp hevent
    exact ⟨event, hmatching, hsame, hcovers⟩
  · rintro ⟨event, hmatching, hsame, hcovers⟩
    have hevent := (mem_listPaymentEvents_iff unique).mpr ⟨hmatching, hcovers⟩
    exact List.mem_map.mpr ⟨event, hevent, hsame⟩

theorem shows_items (filter : ReconciliationFilter) (result : String) (runID page size : Int) :
    Shows table claims backend (.listPaymentReconciliationItems filter result runID page size)
      (.items (listPaymentReconciliationItems table backend.runs backend.items filter result
        runID (clampPage page) (clampSize size))) := by
  refine ⟨fun _ hrow => absurd hrow List.not_mem_nil, fun order => ⟨?_, ?_⟩⟩
  · intro hnumber _
    obtain ⟨item, hitem, hsame⟩ := List.mem_map.mp hnumber
    obtain ⟨front, rest, hmatching, hcovers⟩ := mem_listPaymentReconciliationItems_iff.mp hitem
    exact ⟨front, item, rest, hmatching, hsame, hcovers⟩
  · rintro ⟨front, item, rest, hmatching, hsame, hcovers⟩
    have hitem := mem_listPaymentReconciliationItems_iff.mpr ⟨front, rest, hmatching, hcovers⟩
    exact List.mem_map.mpr ⟨item, hitem, hsame⟩

/-- Only the routes that read succeed, and what they show is checked or exposed. -/
theorem handle_shows {arrival : Arrival} {backend' : Backend} {response : Response}
    (unique : (backend.orders.events.map (·.id)).Nodup)
    (h : handle .unimplemented table claims arrival backend = (.ok response, backend')) :
    backend' = backend ∧ Shows table claims backend arrival.request response := by
  unfold handle at h
  cases hrequest : arrival.request with
  | listOrders userID page size =>
    simp only [hrequest, Prod.mk.injEq, Except.ok.injEq] at h
    obtain ⟨rfl, rfl⟩ := h
    refine ⟨rfl, fun order hrow => ?_, fun order =>
      ⟨fun hnumber => absurd hnumber List.not_mem_nil, False.elim⟩⟩
    exact ⟨_, by simpa [rowsOf, listOrders] using (List.mem_filter.mp hrow).2⟩
  | getOrderTrace lookup =>
    simp only [hrequest, Prod.mk.injEq] at h
    exact ⟨h.2.symm, shows_trace h.1⟩
  | getOrder orderSN =>
    simp only [hrequest, Prod.mk.injEq] at h
    cases h.1
  | closeOrder orderSN =>
    simp only [hrequest] at h
    cases (Prod.ext_iff.mp h).1
  | refundOrder orderSN amountFen reason =>
    simp only [hrequest, refundOrder] at h
    split at h
    · cases (Prod.ext_iff.mp h).1
    · cases hactor : userIDFromClaims claims with
      | error err => rw [hactor] at h; cases (Prod.ext_iff.mp h).1
      | ok actor => rw [hactor] at h; cases (Prod.ext_iff.mp h).1
  | listPaymentEvents orderSN page size =>
    simp only [hrequest, Prod.mk.injEq, Except.ok.injEq] at h
    obtain ⟨rfl, rfl⟩ := h
    exact ⟨rfl, shows_events unique orderSN page size⟩
  | listPaymentReconciliationRuns filter page size =>
    simp only [hrequest, Prod.mk.injEq, Except.ok.injEq] at h
    obtain ⟨rfl, rfl⟩ := h
    exact ⟨rfl, fun _ hrow => absurd hrow List.not_mem_nil,
      fun _ => ⟨fun hnumber => absurd hnumber List.not_mem_nil, False.elim⟩⟩
  | listPaymentReconciliationItems filter result runID page size =>
    simp only [hrequest, Prod.mk.injEq, Except.ok.injEq] at h
    obtain ⟨rfl, rfl⟩ := h
    exact ⟨rfl, shows_items filter result runID page size⟩
  | retryDeadRefundJob id =>
    simp only [hrequest] at h
    obtain ⟨err, herr⟩ := retryDeadRefundJobHandler_refused claims id arrival.now backend
    rw [h] at herr
    cases herr

/-- A successful request stays within the scopes of the token if and only if the
visible orders do whose records the request selects unchecked. -/
theorem store_isolation_iff {arrival : Arrival} {backend' : Backend} {response : Response}
    (unique : (backend.orders.events.map (·.id)).Nodup)
    (h : serve .unimplemented table claims arrival backend = (.ok response, backend')) :
    (∀ order, Reached backend response backend' order → InScope table claims order) ↔
      ∀ order ∈ backend.orders.orders, order.deleted = false →
        Exposed table backend order arrival.request → InScope table claims order := by
  unfold serve at h
  cases hchecks : middleware table claims arrival with
  | error err =>
    rw [hchecks] at h
    cases h
  | ok _ =>
    rw [hchecks] at h
    obtain ⟨rfl, hrows, hnumbers⟩ := handle_shows unique h
    constructor
    · intro hall order hrow hvisible hexposed
      exact hall order (reached_self_iff.mpr
        ⟨hrow, hvisible, .inr ((hnumbers order).2 hexposed)⟩)
    · intro hexposed order hreached
      obtain ⟨hrow, hvisible, hshown⟩ := reached_self_iff.mp hreached
      by_cases hchecked : order ∈ rowsOf response
      · exact hrows order hchecked
      · exact hexposed order hrow hvisible
          ((hnumbers order).1 (hshown.resolve_left hchecked) hchecked)

end Main

section Examples

def orderOf (id : Int) (orderSn storeID : String) : OrderInfoDO :=
  { Goshop.System.unpaidOrder orderSn with id := id, storeID := storeID }

def paymentOf (order : OrderInfoDO) : PaymentEventDO :=
  ⟨order.id, "alipay", "event-" ++ order.orderSn, order.orderSn, "trade-" ++ order.orderSn,
    .paymentSucceeded, order.orderMountFen, order.orderMountFen, 0, .processing, "", 0, none⟩

def ownOrder : OrderInfoDO := orderOf 1 "A-1" "store-a"

def otherOrder : OrderInfoDO := orderOf 2 "B-1" "store-b"

def twoStores : Backend where
  orders := ⟨[ownOrder, otherOrder], [], [], [], [], [paymentOf ownOrder, paymentOf otherOrder]⟩
  runs := []
  items := []

def financeToken : Claims :=
  { id := 7, roles := ["finance"], principalType := .staff, accountStatus := "active"
    scope := ["order:refund:any"]
    resourceScopes :=
      [encodeResourceScope asciiTable { domain := "finance", storeID := "store-a" }] }

/-- The list of all payment events shows the event of the other store's order. -/
theorem payment_events_cross_stores :
    let response := Response.events ⟨2, 0, [paymentOf otherOrder, paymentOf ownOrder]⟩
    serve .unimplemented asciiTable financeToken ⟨.listPaymentEvents "" 1 20, none, "", 0⟩
        twoStores = (.ok response, twoStores) ∧
      Reached twoStores response twoStores otherOrder ∧
      ¬InScope asciiTable financeToken otherOrder := by
  refine ⟨by decide +kernel, ⟨by decide +kernel, rfl, .inr (.inl (by decide +kernel))⟩, ?_⟩
  rintro ⟨domain, hallowed⟩
  revert hallowed
  cases domain <;> decide +kernel

def ownEvents : Arrival := ⟨.listPaymentEvents "A-1" 1 20, none, "", 0⟩

/-- The events of the token's own order are of no other order. -/
theorem store_isolation_own_events :
    let response := Response.events ⟨1, 0, [paymentOf ownOrder]⟩
    serve .unimplemented asciiTable financeToken ownEvents twoStores = (.ok response, twoStores) ∧
      Reached twoStores response twoStores ownOrder ∧
      ∀ order, Reached twoStores response twoStores order →
        InScope asciiTable financeToken order := by
  have hserved : serve .unimplemented asciiTable financeToken ownEvents twoStores =
      (.ok (.events ⟨1, 0, [paymentOf ownOrder]⟩), twoStores) := by decide +kernel
  refine ⟨hserved, ⟨by decide +kernel, rfl, .inr (.inl (by decide +kernel))⟩,
    (store_isolation_iff (by decide +kernel) hserved).mpr ?_⟩
  have hown : ∀ order ∈ twoStores.orders.orders,
      (∃ event ∈ matchingEvents twoStores.orders (trimSpace "A-1"),
        event.orderSN = order.orderSn) → order = ownOrder := by
    decide +kernel
  rintro order hrow - ⟨event, hevent, hsame, -⟩
  cases hown order hrow ⟨event, hevent, hsame⟩
  exact ⟨.finance, by decide +kernel⟩

end Examples

end Goshop.Admin.StoreIsolation
