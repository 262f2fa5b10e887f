import Goshop.Admin.Access
import Goshop.Order.Queries
import Goshop.System

/-! The admin routes for orders and payments: the checks that the router puts in
front of each handler, and the handlers over the database of the order service. -/
namespace Goshop.Admin.Operations

open Goshop.Errors Goshop.Lib Goshop.Lib.GoText Goshop.Lib.Transaction
open Goshop.Authz.Principal Goshop.Authz.Roles Goshop.Authz.Scope Goshop.Admin.Access
open Goshop.Order.Model Goshop.Order.Data Goshop.Order.Service Goshop.Order.Payment
open Goshop.Order.Queries
open Goshop.Order.Reconciliation (PaymentReconciliationRunDO PaymentReconciliationItemDO)
open Goshop.System (OrderLookup)

structure Backend where
  orders : OrderDB
  runs : List PaymentReconciliationRunDO
  items : List PaymentReconciliationItemDO
deriving DecidableEq, Repr

inductive Request where
  | listOrders (userID page size : Int)
  | getOrderTrace (lookup : OrderTraceLookup)
  | getOrder (orderSN : String)
  | closeOrder (orderSN : String)
  | refundOrder (orderSN : String) (amountFen : Int) (reason : String)
  | listPaymentEvents (orderSN : String) (page size : Int)
  | listPaymentReconciliationRuns (filter : ReconciliationFilter) (page size : Int)
  | listPaymentReconciliationItems (filter : ReconciliationFilter) (result : String)
      (runID page size : Int)
  | retryDeadRefundJob (id : Int)
deriving DecidableEq, Repr

/-- A request as it arrives. The confirmation is `none` where no token is
configured, else whether the header has it. -/
structure Arrival where
  request : Request
  confirmation : Option Bool := none
  correlationID : String := ""
  now : Int := 0
deriving DecidableEq, Repr

inductive Response where
  | orders (total : Int) (data : List OrderInfoDO)
  | trace (trace : OrderTrace)
  | order (detail : OrderInfoDO)
  | updated
  | events (list : PaymentEventList)
  | runs (list : RunList)
  | items (list : ItemList)
  | retried (job : RefundJob)
deriving DecidableEq, Repr

section Checks

variable (table : CaseTable) (claims : Claims)

def scopeDenied : AppError := newCode .errPermissionDenied "resource scope denied"

def requireRole (allowed : List StaffRole) : Except AppError Unit :=
  if allowed.any fun role => role.text ∈ claims.roles then .ok ()
  else .error (newCode .errPermissionDenied "role is not allowed for this operation")

def requireResourceScope (domain : BusinessDomain) : Except AppError Unit :=
  if claimsAllowDomain table claims domain then .ok () else .error scopeDenied

/-- The role of operations wins over the role of finance. -/
def requireResourceScopeForRoles : Except AppError Unit :=
  requireResourceScope table claims
    (if StaffRole.ops.text ∈ claims.roles then .operations
    else if StaffRole.finance.text ∈ claims.roles then .finance
    else .support)

def requirePermission (permission : Permission) : Except AppError Unit :=
  if claims.accountStatus ≠ "active" ∨ permission.text ∉ claims.scope then
    .error (newCode .errPermissionDenied "permission denied")
  else .ok ()

def requirePrincipalTypes : Except AppError Unit :=
  if claims.principalType = .staff then .ok ()
  else .error (newCode .errPermissionDenied "principal type denied")

def requireAdminConfirmation : Option Bool → Except AppError Unit
  | none => .error (newCode .errServiceUnavailable "admin confirmation is not configured")
  | some false => .error (newCode .errPermissionDenied "admin confirmation required")
  | some true => .ok ()

def requirePaymentGroup : Except AppError Unit := do
  requireRole claims [.finance, .admin, .superAdmin]
  requireResourceScope table claims .finance

def middleware (arrival : Arrival) : Except AppError Unit := do
  requirePrincipalTypes claims
  match arrival.request with
  | .listOrders _ _ _ | .getOrderTrace _ | .getOrder _ =>
    requireResourceScopeForRoles table claims
    requirePermission claims .orderReadAny
  | .closeOrder _ =>
    requireRole claims [.ops, .admin, .superAdmin]
    requirePermission claims .orderCloseAny
    requireAdminConfirmation arrival.confirmation
  | .refundOrder _ _ _ =>
    requireRole claims [.finance, .admin, .superAdmin]
    requirePermission claims .orderRefundAny
    requireAdminConfirmation arrival.confirmation
  | .listPaymentEvents _ _ _ =>
    requirePaymentGroup table claims
    requirePermission claims .orderRefundAny
  | .listPaymentReconciliationRuns _ _ _ | .listPaymentReconciliationItems _ _ _ _ _ =>
    requirePaymentGroup table claims
    requirePermission claims .paymentReconcileReadAny
  | .retryDeadRefundJob _ =>
    requirePaymentGroup table claims
    requirePermission claims .refundDeadJobRetryAny
    requireAdminConfirmation arrival.confirmation

end Checks

section Handlers

variable (lookup : OrderLookup) (table : CaseTable) (claims : Claims)

/-- Here the role of finance wins. -/
def requestedOrderDomain : BusinessDomain :=
  if StaffRole.finance.text ∈ claims.roles then .finance
  else if StaffRole.ops.text ∈ claims.roles then .operations
  else .support

def orderScope (order : OrderInfoDO) (domain : BusinessDomain) : ResourceScope where
  domain := domain.text
  storeID := trimSpace order.storeID
  resourceType := "order"
  resourceID := trimSpace order.orderSn

def authorizeOrder (db : OrderDB) (orderSN : String) (domain : BusinessDomain) :
    Except AppError OrderInfoDO := do
  let order ← lookup.answer db (trimSpace orderSN)
  if claimsAllowScope table claims (orderScope order domain) then return order
  else throw scopeDenied

def userIDFromClaims : Except AppError Int :=
  if 0 < claims.id then .ok claims.id
  else .error (newCode .errTokenInvalid "token user id invalid")

def adminAuditActions : List String :=
  ["staff_login_succeeded", "break_glass_session_issued", "goods_created", "goods_updated",
    "goods_deleted", "inventory_adjusted", "order_closed", "order_refund_requested"]

def audit (action : String) : Except AppError Unit := do
  let _ ← userIDFromClaims claims
  if lowerTrim action ∈ adminAuditActions then return ()
  else throw (newCode .errValidation "admin audit action is invalid")

def listOrders (db : OrderDB) (userID page size : Int) : Response :=
  let list := ordersList db userID (clampPage page) (clampSize size)
  let filtered := list.items.filter fun order =>
    claimsAllowScope table claims (orderScope order (requestedOrderDomain claims))
  .orders filtered.length filtered

def getOrderTraceHandler (db : OrderDB) (lookup : OrderTraceLookup) :
    Except AppError Response := do
  let trace ← getOrderTrace db lookup
  if claimsAllowScope table claims (orderScope trace.order (requestedOrderDomain claims)) then
    return .trace trace
  else throw scopeDenied

/-- `UpdateOrderStatus` for an authorized order, and the audit record of it. The
update stays when the record is refused. -/
def updateOrderStatus (domain : BusinessDomain) (order : OrderDTO) (action : String)
    (now : Int) (backend : Backend) : Except AppError Response × Backend :=
  match authorizeOrder lookup table claims backend.orders order.orderSn domain with
  | .error err => (.error err, backend)
  | .ok _ =>
    let result := Txn.commit (updateBody order now) backend.orders
    (result.1.bind fun _ => (audit claims action).map fun _ => .updated,
      { backend with orders := result.2 })

def closeOrder (orderSN : String) (now : Int) :
    Backend → Except AppError Response × Backend :=
  updateOrderStatus lookup table claims .operations
    { orderSn := trimSpace orderSN, status := "TRADE_CLOSED" } "order_closed" now

def refundOrder (orderSN : String) (amountFen : Int) (reason correlationID : String) (now : Int)
    (backend : Backend) : Except AppError Response × Backend :=
  if amountFen ≤ 0 ∨ reason = "" ∨ 255 < reason.length then
    (.error (newCode .errValidation "invalid refund request"), backend)
  else
    match userIDFromClaims claims with
    | .error err => (.error err, backend)
    | .ok actor =>
      updateOrderStatus lookup table claims .finance
        { orderSn := trimSpace orderSN
          status := "REFUND_PENDING"
          actorUserID := actor
          refundAmountFen := amountFen
          statusReason := trimSpace reason
          correlationID := correlationID } "order_refund_requested" now backend

/-- The action of the audit record is not one that the user service knows. -/
def retryDeadRefundJobHandler (id : Int) (now : Int) (backend : Backend) :
    Except AppError Response × Backend :=
  if id ≤ 0 then (.error (newCode .errValidation "invalid resource id"), backend)
  else
    let result := retryDeadRefundJob id now backend.orders
    (result.1.bind fun job => (audit claims "refund_dead_job_retried").map fun _ => .retried job,
      { backend with orders := result.2 })

def handle (arrival : Arrival) (backend : Backend) : Except AppError Response × Backend :=
  match arrival.request with
  | .listOrders userID page size =>
    (.ok (listOrders table claims backend.orders userID page size), backend)
  | .getOrderTrace lookup => (getOrderTraceHandler table claims backend.orders lookup, backend)
  | .getOrder orderSN =>
    ((authorizeOrder lookup table claims backend.orders orderSN
      (requestedOrderDomain claims)).map .order, backend)
  | .closeOrder orderSN => closeOrder lookup table claims orderSN arrival.now backend
  | .refundOrder orderSN amountFen reason =>
    refundOrder lookup table claims orderSN amountFen reason arrival.correlationID arrival.now
      backend
  | .listPaymentEvents orderSN page size =>
    (.ok (.events (listPaymentEvents backend.orders (trimSpace orderSN) (clampPage page)
      (clampSize size) false)), backend)
  | .listPaymentReconciliationRuns filter page size =>
    (.ok (.runs (listPaymentReconciliationRuns table backend.runs filter (clampPage page)
      (clampSize size))), backend)
  | .listPaymentReconciliationItems filter result runID page size =>
    (.ok (.items (listPaymentReconciliationItems table backend.runs backend.items filter result
      runID (clampPage page) (clampSize size))), backend)
  | .retryDeadRefundJob id => retryDeadRefundJobHandler claims id arrival.now backend

def serve (arrival : Arrival) (backend : Backend) : Except AppError Response × Backend :=
  match middleware table claims arrival with
  | .error err => (.error err, backend)
  | .ok _ => handle lookup table claims arrival backend

end Handlers

end Goshop.Admin.Operations
