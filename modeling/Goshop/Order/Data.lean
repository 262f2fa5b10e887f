import Goshop.Order.Model

/-! The data layer of the order service: orders, carts, status logs and refund
requests. Each function is the body of a transaction or a part of one. -/
namespace Goshop.Order.Data

open Goshop.Errors Goshop.Lib Goshop.Lib.Transaction Goshop.Order.Model
open Goshop.Lib.GoText (trimSpace)

/-- The fields of the service's `OrderDTO` that the modelled functions read. The
defaults are the zero values of the Go struct. -/
structure OrderDTO where
  id : Int := 0
  user : Int := 0
  orderSn : String := ""
  payType : String := ""
  status : String := ""
  tradeNo : String := ""
  orderMountFen : Int := 0
  storeID : String := ""
  payTime : Option Int := none
  address : String := ""
  signerName : String := ""
  singerMobile : String := ""
  post : String := ""
  orderGoods : List OrderGoods := []
  statusReason : String := ""
  statusSource : String := ""
  statusOperator : String := ""
  refundAmountFen : Int := 0
  actorUserID : Int := 0
  correlationID : String := ""
deriving DecidableEq, Repr

def OrderDTO.trimmed (order : OrderDTO) : OrderDTO :=
  { order with
    orderSn := trimSpace order.orderSn
    status := trimSpace order.status }

def OrderDTO.target (order : OrderDTO) : OrderStatus :=
  .ofText order.status

def databaseError : AppError := wrapDatabase "database operation"

def hasSn (orderSn : String) (row : OrderInfoDO) : Bool :=
  !row.deleted && row.orderSn = orderSn

def findOrder (db : OrderDB) (orderSn : String) : Option OrderInfoDO :=
  db.orders.find? (hasSn orderSn)

def ordersGet (db : OrderDB) (orderSn : String) : Except AppError OrderInfoDO :=
  let orderSn := trimSpace orderSn
  if orderSn = "" then .error (newCode .errOrderNotFound "order not found")
  else
    match findOrder db orderSn with
    | some order => .ok order
    | none => .error (newCode .errOrderNotFound "record not found")

/-- The columns of `orderinfo` and `ordergoods` take the row. -/
def fitsOrder (row : OrderInfoDO) : Bool :=
  Sql.fitsVarchar 30 row.orderSn && Sql.fitsVarchar 20 row.payType &&
    Sql.fitsVarchar 20 row.status.text && Sql.fitsVarchar 100 row.tradeNo &&
    Sql.fitsVarchar 64 row.storeID && Sql.fitsVarchar 100 row.address &&
    Sql.fitsVarchar 20 row.signerName && Sql.fitsVarchar 11 row.singerMobile &&
    Sql.fitsVarchar 20 row.post && row.orderGoods.all fun item =>
      Sql.fitsVarchar 100 item.goodsName && Sql.fitsVarchar 200 item.goodsImage

def newOrder (id : Int) (order : OrderDTO) (now : Int) : OrderInfoDO where
  id := id
  user := order.user
  orderSn := order.orderSn
  payType := order.payType
  status := order.target
  tradeNo := order.tradeNo
  orderMountFen := order.orderMountFen
  storeID := order.storeID
  payTime := order.payTime
  address := order.address
  signerName := order.signerName
  singerMobile := order.singerMobile
  post := order.post
  orderGoods := order.orderGoods
  addTime := now
  updateTime := now
  deleted := false

def ordersCreate (order : OrderDTO) (now : Int) : OrderTxn Int := do
  let order := { order with orderSn := trimSpace order.orderSn }
  Txn.guard (0 < order.user ∧ order.orderSn ≠ "")
    (newCode .errSubmitOrder "user and order_sn are required")
  let db ← Txn.read
  let id := Sql.nextId (db.orders.map (·.id))
  Txn.guard (fitsOrder (newOrder id order now)) databaseError
  Txn.write { db with orders := db.orders ++ [newOrder id order now] }
  pure id

def hideOrder (order : OrderInfoDO) (rows : List OrderInfoDO) : List OrderInfoDO :=
  rows.map fun row =>
    if !row.deleted ∧ row.id = order.id then { row with deleted := true } else row

def ordersDeleteByOrderSn (orderSn : String) : OrderTxn Unit :=
  let orderSn := trimSpace orderSn
  Txn.when (orderSn ≠ "") do
    let db ← Txn.read
    match findOrder db orderSn with
    | none => pure ()
    | some order => Txn.write { db with orders := hideOrder order db.orders }

/-- The rows that `Update` addresses: by key when the request has one. -/
def addressed (order : OrderDTO) (row : OrderInfoDO) : Bool :=
  !row.deleted && if 0 < order.id then row.id = order.id else row.orderSn = order.orderSn

/-- `SET` of `Update`: empty fields of the request leave their columns alone. -/
def written (order : OrderDTO) (now : Int) (row : OrderInfoDO) : OrderInfoDO :=
  { row with
    status := order.target
    payType := if order.payType = "" then row.payType else order.payType
    tradeNo := if order.tradeNo = "" then row.tradeNo else order.tradeNo
    payTime := order.payTime.or row.payTime
    updateTime := now }

def storeWritten (order : OrderDTO) (now : Int) (row : OrderInfoDO) :
    Except AppError OrderInfoDO :=
  if Sql.fitsVarchar 20 order.payType && Sql.fitsVarchar 100 order.tradeNo then
    .ok (written order now row)
  else .error databaseError

def ordersUpdate (order : OrderDTO) (now : Int) : OrderTxn Unit := do
  let order := order.trimmed
  Txn.guard (0 < order.id ∨ order.orderSn ≠ "") (newCode .errOrderNotFound "order not found")
  Txn.guard (order.status ≠ "") (newCode .errOrderStatusInvalid "order status is required")
  let db ← Txn.read
  let rows ← Txn.lift (Sql.update (addressed order) (storeWritten order now) db.orders)
  Txn.write { db with orders := rows }
  Txn.guard (Sql.affected db.orders rows ≠ 0) (newCode .errOrderNotFound "order not found")

structure StatusLogEntry where
  orderID : Int
  orderSn : String
  fromStatus : OrderStatus
  toStatus : OrderStatus
  reason : String
  source : String
  operator : String
deriving DecidableEq, Repr

def fitsStatusLog (entry : StatusLogEntry) : Bool :=
  Sql.fitsVarchar 30 entry.orderSn && Sql.fitsVarchar 20 entry.fromStatus.text &&
    Sql.fitsVarchar 20 entry.toStatus.text && Sql.fitsVarchar 128 entry.reason &&
    Sql.fitsVarchar 64 entry.source && Sql.fitsVarchar 64 entry.operator

def newStatusLog (id : Int) (entry : StatusLogEntry) (now : Int) : OrderStatusLogDO where
  id := id
  orderID := entry.orderID
  orderSn := entry.orderSn
  fromStatus := entry.fromStatus
  toStatus := entry.toStatus
  reason := entry.reason
  source := entry.source
  operator := entry.operator
  addTime := now

def insertStatusLog (entry : StatusLogEntry) (now : Int) : OrderTxn Unit := do
  let db ← Txn.read
  Txn.guard (fitsStatusLog entry) databaseError
  let id := Sql.nextId (db.statusLogs.map (·.id))
  Txn.write { db with statusLogs := db.statusLogs ++ [newStatusLog id entry now] }

def statusLogsCreate (entry : StatusLogEntry) (now : Int) : OrderTxn Unit := do
  Txn.guard (trimSpace entry.orderSn ≠ "" ∧ trimSpace entry.toStatus.text ≠ "")
    (newCode .errValidation "order status log is required")
  insertStatusLog entry now

def cartsDeleteByGoodsIDs (userID : Int) (goodsIDs : List Int) : OrderTxn Unit :=
  Txn.when (userID ≠ 0 ∧ goodsIDs ≠ []) do
    let db ← Txn.read
    Txn.write { db with carts := db.carts.map fun row =>
      if !row.deleted ∧ row.user = userID ∧ row.goods ∈ goodsIDs then { row with deleted := true }
      else row }

def restoreCheckedItem (userID : Int) (now : Int) (item : OrderGoods) : OrderTxn Unit :=
  Txn.when (0 < item.goods ∧ 0 < item.nums) do
    let db ← Txn.read
    let rows := db.carts.map fun row =>
      if !row.deleted ∧ row.user = userID ∧ row.goods = item.goods then
        { row with nums := max row.nums item.nums, checked := true, updateTime := now }
      else row
    if Sql.affected db.carts rows ≠ 0 then Txn.write { db with carts := rows }
    else Txn.write { db with carts := db.carts ++
      [⟨Sql.nextId (db.carts.map (·.id)), userID, item.goods, item.nums, true, now, false⟩] }

def cartsRestoreCheckedItems (userID : Int) (items : List OrderGoods) (now : Int) :
    OrderTxn Unit :=
  Txn.when (userID ≠ 0) (forM items (restoreCheckedItem userID now))

structure RefundEntry where
  orderSN : String
  actorUserID : Int
  amountFen : Int
  reason : String
  correlationID : String
deriving DecidableEq, Repr

def fitsRefund (db : OrderDB) (entry : RefundEntry) : Bool :=
  Sql.fitsVarchar 64 entry.orderSN && Sql.fitsVarchar 255 entry.reason &&
    Sql.fitsVarchar 36 entry.correlationID &&
    !db.refunds.any (·.correlationID = entry.correlationID)

def newRefundRequest (id : Int) (entry : RefundEntry) (now : Int) : RefundRequestDO where
  id := id
  orderSN := entry.orderSN
  actorUserID := entry.actorUserID
  amountFen := entry.amountFen
  reason := entry.reason
  status := .refundPending
  provider := ""
  providerRefundID := ""
  failureReason := ""
  correlationID := entry.correlationID
  createdAt := now
  updatedAt := now

def newRefundOutbox (id requestID now : Int) : RefundOutboxDO where
  id := id
  refundRequestID := requestID
  status := .pending
  attempts := 0
  availableAt := now
  lockedAt := none
  lastError := ""
  createdAt := now
  updatedAt := now

def createRefundRequest (entry : RefundEntry) (now : Int) : OrderTxn Unit := do
  Txn.guard (entry.orderSN ≠ "" ∧ 0 < entry.actorUserID ∧ 0 < entry.amountFen ∧
      entry.reason ≠ "" ∧ entry.correlationID ≠ "")
    (newCode .errValidation "refund request is invalid")
  let db ← Txn.read
  Txn.guard (fitsRefund db entry) databaseError
  let requestID := Sql.nextId (db.refunds.map (·.id))
  Txn.guard (!db.outbox.any (·.refundRequestID = requestID)) databaseError
  let job := newRefundOutbox (Sql.nextId (db.outbox.map (·.id))) requestID now
  Txn.write { db with
    refunds := db.refunds ++ [newRefundRequest requestID entry now]
    outbox := db.outbox ++ [job] }

end Goshop.Order.Data
