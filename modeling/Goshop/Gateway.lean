import Goshop.System

/-! The functions that settle an order from outside the order service: the
payment callback and the cancellation of the gateway, the sweep over expired
orders, and the close button of the admin console. Each is the sequence of its
remote calls. -/
namespace Goshop.Gateway

open Goshop.Errors Goshop.Lib Goshop.Lib.Process
open Goshop.Inventory.Model (GoodsDetail)
open Goshop.Order.Model Goshop.Order.Data Goshop.Order.Service Goshop.Order.Payment Goshop.System

section Callback

structure CallbackRequest where
  provider : String
  eventID : String
  eventType : String
  orderSN : String
  tradeNo : String
  amountFen : Int
deriving DecidableEq, Repr

def CallbackRequest.type (req : CallbackRequest) : EventType :=
  .ofText req.eventType

def CallbackRequest.isRefund (req : CallbackRequest) : Bool :=
  req.type = .refundSucceeded ∨ req.type = .refundFailed

def CallbackRequest.valid (req : CallbackRequest) : Bool :=
  req.provider ≠ "" ∧ req.eventID ≠ "" ∧ req.eventType ≠ "" ∧ req.orderSN ≠ "" ∧
    0 ≤ req.amountFen

def paymentEventRequest (req : CallbackRequest) : PaymentEventRequest where
  provider := req.provider
  eventID := req.eventID
  orderSN := req.orderSN
  tradeNo := req.tradeNo
  eventType := req.eventType
  providerAmountFen := req.amountFen
  refundAmountFen := if req.isRefund then req.amountFen else 0

def paymentEventAllowed (type : EventType) (status : OrderStatus) : Bool :=
  match type with
  | .paymentSucceeded | .paymentFailed => status = .waitBuyerPay ∨ status = .paying
  | .refundSucceeded | .refundFailed => status = .refundPending
  | .other _ => false

def sellInfoFromOrder (goods : List OrderGoods) : Except AppError (List GoodsDetail) :=
  if goods.any fun item => item.goods ≤ 0 ∨ item.nums ≤ 0 then
    .error (statusInvalid "order goods are invalid")
  else if goods = [] then .error (statusInvalid "order goods are required")
  else .ok (goods.map fun item => ⟨item.goods, item.nums⟩)

abbrev Failure := String × AppError

def failWith {α : Type} (detail : String) (result : Except AppError α) : Except Failure α :=
  result.mapError (detail, ·)

def invalid (detail : String) : Failure := (detail, statusInvalid detail)

def checkAmount (req : CallbackRequest) (begun : PaymentEventResponse) : Except Failure Unit :=
  if (!req.isRefund ∧ req.amountFen ≠ begun.orderAmountFen) ∨
      (req.isRefund ∧ (req.amountFen ≤ 0 ∨ begun.orderAmountFen < req.amountFen)) then
    .error (invalid "payment amount mismatch")
  else .ok ()

def checkOrder (req : CallbackRequest) (order : OrderInfoDO) :
    Except Failure (List GoodsDetail) :=
  if ¬paymentEventAllowed req.type order.status.trim then
    .error (invalid "payment event is out of order")
  else failWith "invalid order items" (sellInfoFromOrder order.orderGoods)

def settleStock (req : CallbackRequest) (items : List GoodsDetail) :
    Proc Call Reply (Except Failure OrderStatus) :=
  match req.type with
  | .paymentSucceeded => do
    let confirmed ← Proc.send (.confirm req.orderSN items)
    pure ((failWith "confirm inventory failed" confirmed).map fun _ => .tradeSuccess)
  | .paymentFailed => do
    let released ← Proc.send (.release req.orderSN items)
    pure ((failWith "release inventory failed" released).map fun _ => .tradeClosed)
  | .refundSucceeded => pure (.ok .refunded)
  | .refundFailed => pure (.ok .refundFailed)
  | .other _ => pure (.error (invalid "unknown payment event"))

/-- `time.Now().Unix()` as a time; the controller ignores what is not positive. -/
def payTimeOf (clock : Int) : Option Int :=
  if 0 < clock / 1000 then some (clock / 1000 * 1000) else none

def callbackUpdate (req : CallbackRequest) (clock : Int) (target : OrderStatus) : OrderDTO :=
  { orderSn := req.orderSN
    status := target.text
    payType := req.provider
    tradeNo := req.tradeNo
    payTime := if target = .tradeSuccess then payTimeOf clock else none }

def processEvent (req : CallbackRequest) (clock : Int) (begun : PaymentEventResponse) :
    Proc Call Reply (Except Failure Unit) :=
  Proc.attempt (checkAmount req begun) fun _ => do
    let loaded ← Proc.send (.getOrderBySn req.orderSN)
    Proc.attempt (failWith "load order failed" loaded) fun order =>
      Proc.attempt (checkOrder req order) fun items => do
        Proc.attempt (← settleStock req items) fun target => do
          let updated ← orderUpdate (callbackUpdate req clock target)
          pure (failWith "update order status failed" updated)

/-- The deferred end of the event; an error of the call is only logged. -/
def finishEvent (id : Int) : Except Failure Unit → Proc Call Reply (Except AppError Bool)
  | .ok _ => do
    let _ ← Proc.send (.completePaymentEvent id true "")
    pure (.ok false)
  | .error (detail, err) => do
    let _ ← Proc.send (.completePaymentEvent id false detail)
    pure (.error err)

/-- `ProcessPayCallback`; `true` is the answer to an event that was completed
before. -/
def processPayCallback (req : CallbackRequest) (clock : Int) :
    Proc Call Reply (Except AppError Bool) :=
  if req.valid then do
    let begin ← Proc.send (.beginPaymentEvent (paymentEventRequest req))
    Proc.attempt begin fun (begun : PaymentEventResponse) =>
      if begun.accepted then do
        finishEvent begun.id (← processEvent req clock begun)
      else if begun.completed then pure (.ok true)
      else pure (.error (newCode .errConnectGRPC "payment callback is already processing"))
  else pure (.error (statusInvalid "payment callback is invalid"))

/-- One delivery of a callback, with what happens to each of its calls. The
gateway stops where the choices end, as it does when it crashes. -/
structure Delivery where
  req : CallbackRequest
  clock : Int := 0
  choices : List Choice
deriving DecidableEq, Repr

def deliver [GoText.CaseTable] (lookup : OrderLookup) (world : World)
    (delivery : Delivery) : World :=
  (runAlone (exec lookup) (processPayCallback delivery.req delivery.clock) delivery.choices
    world).2

end Callback

section Close

def orderDetail (userID : Int) (orderSn : String) : Proc Call Reply (Except AppError OrderInfoDO) :=
  let orderSn := GoText.trimSpace orderSn
  if userID = 0 ∨ orderSn = "" then pure (.error (newCode .errOrderNotFound "order not found"))
  else do
    let loaded ← Proc.send (.ordersGet orderSn)
    Proc.attempt loaded fun (order : OrderInfoDO) =>
      if order.user = userID then pure (.ok order)
      else pure (.error (newCode .errOrderNotFound "order not found"))

def cancelOrder (userID : Int) (orderSN : String) : Proc Call Reply (Except AppError Unit) := do
  Proc.attempt (← orderDetail userID orderSN) fun order =>
    let current := order.status.trim
    if current ≠ .waitBuyerPay ∧ current ≠ .paying then
      pure (.error (statusInvalid "order cannot be cancelled in current status"))
    else
      Proc.attempt (sellInfoFromOrder order.orderGoods) fun items => do
        Proc.attempt (← Proc.send (.release orderSN items)) fun _ =>
          orderUpdate
            { orderSn := orderSN
              status := OrderStatus.tradeClosed.text
              statusReason := "cancelled by customer" }

def releaseItems (order : OrderInfoDO) : List GoodsDetail :=
  (order.orderGoods.filter fun item => 0 < item.goods ∧ 0 < item.nums).map fun item =>
    ⟨item.goods, item.nums⟩

def releaseOrderInventory (order : OrderInfoDO) : Proc Call Reply (Except AppError Unit) :=
  let items := releaseItems order
  if items = [] then pure (.ok ())
  else Proc.send (Call.release (GoText.trimSpace order.orderSn) items)

def closeExpired (order : OrderInfoDO) : Proc Call Reply (Except AppError Unit) := do
  Proc.attempt (← releaseOrderInventory order) fun _ =>
    orderUpdate
      { orderSn := order.orderSn
        status := OrderStatus.tradeClosed.text
        statusReason := "order timeout auto close"
        statusSource := "order.timeout_worker"
        statusOperator := "system" }

def closeAllExpired : List OrderInfoDO → Proc Call Reply (Except AppError Unit)
  | [] => pure (.ok ())
  | order :: rest => do
    let _ ← closeExpired order
    closeAllExpired rest

def processExpiredOrdersOnce (timeoutCloseAfter batchSize : Int) :
    Proc Call Reply (Except AppError Unit) := do
  Proc.attempt (← Proc.send
    (.listCloseCandidates [.waitBuyerPay, .paying] timeoutCloseAfter batchSize)) closeAllExpired

/-- `closeOrder` of the admin console; `authorize` stands for the scope check on
the loaded order. -/
def closeOrder (authorize : OrderInfoDO → Except AppError Unit) (orderSN : String) :
    Proc Call Reply (Except AppError Unit) := do
  let orderSN := GoText.trimSpace orderSN
  Proc.attempt (← Proc.send (.getOrderBySn orderSN)) fun order =>
    Proc.attempt (authorize order) fun _ =>
      orderUpdate { orderSn := orderSN, status := OrderStatus.tradeClosed.text }

end Close

end Goshop.Gateway
