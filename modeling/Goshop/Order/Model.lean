import Goshop.Errors
import Goshop.Lib.GoText
import Goshop.Lib.Sql
import Goshop.Lib.Transaction
import Mathlib.Algebra.Ring.Int.Defs
import Mathlib.Data.List.Dedup

/-! The tables of the order service and the statements of its data layer. A
table is the list of all its rows in key order; a soft-deleted row stays in the
list and is hidden from every query that goes through the model. Times are
milliseconds, and a function that reads the clock takes the time as `now`. -/
namespace Goshop.Order.Model

open Goshop.Errors Goshop.Lib Goshop.Lib.Transaction

inductive OrderStatus where
  | paying
  | waitBuyerPay
  | tradeSuccess
  | tradeClosed
  | tradeFinished
  | refundPending
  | refundFailed
  | refunded
  | other (text : String)
deriving DecidableEq, Repr

namespace OrderStatus

def text : OrderStatus → String
  | .paying => "PAYING"
  | .waitBuyerPay => "WAIT_BUYER_PAY"
  | .tradeSuccess => "TRADE_SUCCESS"
  | .tradeClosed => "TRADE_CLOSED"
  | .tradeFinished => "TRADE_FINISHED"
  | .refundPending => "REFUND_PENDING"
  | .refundFailed => "REFUND_FAILED"
  | .refunded => "REFUNDED"
  | .other text => text

def ofText (text : String) : OrderStatus :=
  if text = "PAYING" then .paying
  else if text = "WAIT_BUYER_PAY" then .waitBuyerPay
  else if text = "TRADE_SUCCESS" then .tradeSuccess
  else if text = "TRADE_CLOSED" then .tradeClosed
  else if text = "TRADE_FINISHED" then .tradeFinished
  else if text = "REFUND_PENDING" then .refundPending
  else if text = "REFUND_FAILED" then .refundFailed
  else if text = "REFUNDED" then .refunded
  else .other text

def blank : OrderStatus := .other ""

/-- The status that a column's text means once blanks around it are dropped. -/
def trim (status : OrderStatus) : OrderStatus :=
  ofText (GoText.trimSpace status.text)

end OrderStatus

def isValidOrderStatus : OrderStatus → Bool
  | .other _ => false
  | _ => true

def canTransitionOrderStatus (current next : OrderStatus) : Bool :=
  let current := current.trim
  let next := next.trim
  if current = .blank ∨ current = next then true
  else
    match current with
    | .waitBuyerPay => next = .paying ∨ next = .tradeSuccess ∨ next = .tradeClosed
    | .paying => next = .tradeSuccess ∨ next = .tradeClosed
    | .tradeClosed => false
    | .tradeFinished => next = .refundPending
    | .tradeSuccess => next = .tradeFinished ∨ next = .refundPending
    | .refundPending => next = .refunded ∨ next = .refundFailed
    | .refundFailed => next = .refundPending
    | .refunded => false
    | .other _ => false

inductive RefundStatus where
  | refundPending
  | processing
  | refunded
  | failed
deriving DecidableEq, Repr

inductive OutboxStatus where
  | pending
  | processing
  | retry
  | completed
  | dead
deriving DecidableEq, Repr

inductive EventStatus where
  | processing
  | completed
  | failed
deriving DecidableEq, Repr

inductive EventType where
  | paymentSucceeded
  | paymentFailed
  | refundSucceeded
  | refundFailed
  | other (text : String)
deriving DecidableEq, Repr

def EventType.ofText (text : String) : EventType :=
  if text = "payment_succeeded" then .paymentSucceeded
  else if text = "payment_failed" then .paymentFailed
  else if text = "refund_succeeded" then .refundSucceeded
  else if text = "refund_failed" then .refundFailed
  else .other text

structure OrderGoods where
  goods : Int
  nums : Int
  goodsName : String := ""
  goodsImage : String := ""
  goodsPriceFen : Int := 0
deriving DecidableEq, Repr

structure OrderInfoDO where
  id : Int
  user : Int
  orderSn : String
  payType : String
  status : OrderStatus
  tradeNo : String
  orderMountFen : Int
  storeID : String
  payTime : Option Int
  address : String
  signerName : String
  singerMobile : String
  post : String
  orderGoods : List OrderGoods
  addTime : Int
  updateTime : Int
  deleted : Bool
deriving DecidableEq, Repr

structure ShoppingCartDO where
  id : Int
  user : Int
  goods : Int
  nums : Int
  checked : Bool
  updateTime : Int
  deleted : Bool
deriving DecidableEq, Repr

structure OrderStatusLogDO where
  id : Int
  orderID : Int
  orderSn : String
  fromStatus : OrderStatus
  toStatus : OrderStatus
  reason : String
  source : String
  operator : String
  addTime : Int
deriving DecidableEq, Repr

structure RefundRequestDO where
  id : Int
  orderSN : String
  actorUserID : Int
  amountFen : Int
  reason : String
  status : RefundStatus
  provider : String
  providerRefundID : String
  failureReason : String
  correlationID : String
  createdAt : Int
  updatedAt : Int
deriving DecidableEq, Repr

structure RefundOutboxDO where
  id : Int
  refundRequestID : Int
  status : OutboxStatus
  attempts : Int
  availableAt : Int
  lockedAt : Option Int
  lastError : String
  createdAt : Int
  updatedAt : Int
deriving DecidableEq, Repr

structure PaymentEventDO where
  id : Int
  provider : String
  eventID : String
  orderSN : String
  tradeNo : String
  eventType : EventType
  orderAmountFen : Int
  providerAmountFen : Int
  refundAmountFen : Int
  status : EventStatus
  errorDetail : String
  receivedAt : Int
  completedAt : Option Int
deriving DecidableEq, Repr

structure OrderDB where
  orders : List OrderInfoDO
  carts : List ShoppingCartDO
  statusLogs : List OrderStatusLogDO
  refunds : List RefundRequestDO
  outbox : List RefundOutboxDO
  events : List PaymentEventDO
deriving DecidableEq, Repr

def noOrders : OrderDB :=
  { orders := [], carts := [], statusLogs := [], refunds := [], outbox := [], events := [] }

abbrev OrderTxn := Txn AppError OrderDB

end Goshop.Order.Model
