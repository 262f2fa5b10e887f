import Goshop.Money.Fen
import Goshop.Order.Data

/-! The business functions of the order service, cut where they leave the
process: the checks before a lookup, the checks on its answer, and the body of
the transaction. -/
namespace Goshop.Order.Service

open Goshop.Errors Goshop.Lib Goshop.Lib.Transaction Goshop.Money Goshop.Order.Model
open Goshop.Order.Data
open Goshop.Lib.GoText (trimSpace)

section Logs

def defaultStatusLogReason (reason : String) (fromStatus toStatus : OrderStatus) : String :=
  let reason := trimSpace reason
  if reason ≠ "" then reason
  else if fromStatus = .blank ∧ toStatus = .waitBuyerPay then "order created"
  else if toStatus = .tradeSuccess then "payment confirmed"
  else if toStatus = .tradeClosed then "order closed"
  else if toStatus = .tradeFinished then "order finished"
  else "order status changed"

def defaultStatusLogSource (source : String) (fromStatus toStatus : OrderStatus) : String :=
  let source := trimSpace source
  if source ≠ "" then source
  else if fromStatus = .blank ∧ toStatus = .waitBuyerPay then "order.create"
  else if toStatus = .tradeSuccess then "order.payment"
  else if toStatus = .tradeClosed then "order.close"
  else if toStatus = .tradeFinished then "order.finish"
  else "order.update"

def defaultStatusLogOperator (operator : String) (userID : Int) : String :=
  let operator := trimSpace operator
  if operator ≠ "" then operator
  else if 0 < userID then "user:" ++ toString userID
  else "system"

def buildStatusLog (existing : OrderInfoDO) (order : OrderDTO) : StatusLogEntry where
  orderID := existing.id
  orderSn := existing.orderSn
  fromStatus := existing.status
  toStatus := order.target
  reason := defaultStatusLogReason order.statusReason existing.status order.target
  source := defaultStatusLogSource order.statusSource existing.status order.target
  operator := defaultStatusLogOperator order.statusOperator existing.user

end Logs

section Update

def statusInvalid (message : String) : AppError := newCode .errOrderStatusInvalid message

def prepareUpdate (order : OrderDTO) : Except AppError OrderDTO :=
  let order := order.trimmed
  if order.orderSn = "" ∨ order.status = "" then
    .error (statusInvalid "order_sn and status are required")
  else if ¬isValidOrderStatus order.target then .error (statusInvalid "invalid order status")
  else .ok order

/-- `Update` between its lookup and its transaction: the checks against the
order that the lookup has read. -/
def checkUpdate (existing : OrderInfoDO) (order : OrderDTO) : Except AppError Unit :=
  if ¬canTransitionOrderStatus existing.status order.target then
    .error (statusInvalid "invalid order status transition")
  else if order.target = .tradeSuccess ∧ trimSpace order.tradeNo = "" then
    .error (statusInvalid "trade_no is required when order is paid")
  else if order.target = .refundPending ∧ (order.actorUserID ≤ 0 ∨ order.refundAmountFen ≤ 0 ∨
      trimSpace order.statusReason = "" ∨ trimSpace order.correlationID = "") then
    .error (statusInvalid "refund actor, amount, reason, and correlation_id are required")
  else if order.target = .refundPending ∧ existing.orderMountFen < order.refundAmountFen then
    .error (statusInvalid "refund amount exceeds order total")
  else .ok ()

/-- A paid order without a payment time is paid now. -/
def withPayTime (order : OrderDTO) (now : Int) : OrderDTO :=
  if order.target = .tradeSuccess ∧ order.payTime = none then { order with payTime := some now }
  else order

def refundEntry (order : OrderDTO) : RefundEntry where
  orderSN := order.orderSn
  actorUserID := order.actorUserID
  amountFen := order.refundAmountFen
  reason := order.statusReason
  correlationID := order.correlationID

def updateTxn (existing : OrderInfoDO) (order : OrderDTO) (now : Int) : OrderTxn Unit := do
  ordersUpdate (withPayTime order now) now
  Txn.when (existing.status.trim ≠ order.target.trim)
    (Txn.mapError (.wrap "create order status log")
      (statusLogsCreate (buildStatusLog existing order) now))
  Txn.when (order.target = .refundPending)
    (createRefundRequest (refundEntry order) now)

/-- `Update` with nothing between its lookup and its transaction. -/
def updateBody (order : OrderDTO) (now : Int) : OrderTxn Unit := do
  let order ← Txn.lift (prepareUpdate order)
  let db ← Txn.read
  let existing ← Txn.lift (ordersGet db order.orderSn)
  Txn.lift (checkUpdate existing order)
  updateTxn existing order now

end Update

section Create

def hasOrderGoods (items : List OrderGoods) : Bool :=
  items ≠ [] ∧ items.all fun item => 0 < item.goods ∧ 0 < item.nums

def aggregated (goods : Int) (items : List OrderGoods) : Int :=
  ((items.filter (·.goods = goods)).map (·.nums)).sum

def sameOrderGoods (left right : List OrderGoods) : Bool :=
  let leftGoods := (left.map (·.goods)).dedup
  let rightGoods := (right.map (·.goods)).dedup
  hasOrderGoods left && hasOrderGoods right && leftGoods.length = rightGoods.length &&
    leftGoods.all fun goods => aggregated goods right = aggregated goods left

def sameText (left right : String) : Bool :=
  trimSpace left = trimSpace right

def sameCreateOrder (existing : OrderInfoDO) (incoming : OrderDTO) : Bool :=
  existing.user = incoming.user && sameText existing.orderSn incoming.orderSn &&
    sameText existing.address incoming.address &&
    sameText existing.signerName incoming.signerName &&
    sameText existing.singerMobile incoming.singerMobile &&
    sameText existing.post incoming.post &&
    (trimSpace existing.storeID = "" || trimSpace incoming.storeID = "" ||
      sameText existing.storeID incoming.storeID) &&
    sameOrderGoods existing.orderGoods incoming.orderGoods

def normalizeInitialOrderStatus (status : String) : String :=
  if trimSpace status = "" then OrderStatus.waitBuyerPay.text else trimSpace status

def prepareCreate (order : OrderDTO) : Except AppError OrderDTO :=
  let order := { order with orderSn := trimSpace order.orderSn }
  if order.orderSn = "" then .error (newCode .errSubmitOrder "order_sn is required")
  else if ¬hasOrderGoods order.orderGoods then
    .error (newCode .errNoGoodsSelect "没有选择商品")
  else .ok { order with status := normalizeInitialOrderStatus order.status }

def answerExisting (existing : OrderInfoDO) (order : OrderDTO) : Except AppError Unit :=
  if sameCreateOrder existing order then .ok ()
  else .error
    (newCode .errOrderConflict "order_sn already exists with different order data")

structure GoodsInfo where
  id : Int := 0
  name : String := ""
  shopPriceFen : Int := 0
  goodsFrontImage : String := ""
  storeID : String := ""
deriving DecidableEq, Repr

/-- A lookup in the map built from the answer of the goods service; the zero
value stands for a missing key. -/
def goodsInfo (goods : List GoodsInfo) (id : Int) : GoodsInfo :=
  (goods.reverse.find? (·.id = id)).getD {}

/-- A checked operation on amounts, on the numbers that the amounts hold; numbers
that no `int64` holds do not occur. -/
def onAmounts (operation : Int64 → Int64 → Except String Int64) (message : String)
    (left right : Int) : Except AppError Int :=
  if Fen.FitsInt64 left ∧ Fen.FitsInt64 right then
    match operation (.ofInt left) (.ofInt right) with
    | .ok amount => .ok amount.toInt
    | .error _ => .error (newCode .errUnknown message)
  else .error (newCode .errUnknown message)

def fenMultiply (price quantity : Int) : Except AppError Int :=
  onAmounts Fen.multiply "calculate order line amount" price quantity

def fenAdd (left right : Int) : Except AppError Int :=
  onAmounts Fen.add "accumulate order amount" left right

structure Priced where
  amountFen : Int := 0
  storeID : String := ""
  items : List OrderGoods := []
deriving DecidableEq, Repr

def priceItem (goods : List GoodsInfo) (priced : Priced) (item : OrderGoods) :
    Except AppError Priced := do
  let info := goodsInfo goods item.goods
  let storeID := trimSpace info.storeID
  if storeID = "" then .error (newCode .errGoodsNotFound "商品缺少归属门店")
  else if priced.storeID ≠ "" ∧ priced.storeID ≠ storeID then
    .error (newCode .errSubmitOrder "订单商品必须属于同一门店")
  else do
    let line ← fenMultiply info.shopPriceFen item.nums
    let amount ← fenAdd priced.amountFen line
    pure
      { amountFen := amount
        storeID := storeID
        items := priced.items ++ [{ item with
          goodsName := info.name
          goodsPriceFen := info.shopPriceFen
          goodsImage := info.goodsFrontImage }] }

def priceOrder (goods : List GoodsInfo) (order : OrderDTO) : Except AppError OrderDTO :=
  if (goods.map (·.id)).dedup.length ≠ order.orderGoods.length then
    .error (newCode .errGoodsNotFound "商品不存在或者部分不存在")
  else do
    let priced ← order.orderGoods.foldlM (priceItem goods) {}
    pure { order with
      orderMountFen := priced.amountFen
      storeID := priced.storeID
      orderGoods := priced.items }

def createTxn (order : OrderDTO) (now : Int) : OrderTxn Unit := do
  let id ← Txn.mapError (.wrap "create order") (ordersCreate order now)
  Txn.mapError (.wrap "delete selected shop carts")
    (cartsDeleteByGoodsIDs order.user (order.orderGoods.map (·.goods)))
  Txn.mapError (.wrap "create order status log") (statusLogsCreate
    { orderID := id
      orderSn := order.orderSn
      fromStatus := .blank
      toStatus := order.target
      reason := "order created"
      source := "order.create"
      operator := "user:" ++ toString order.user } now)

/-- `Create` with nothing between its lookup, the answer of the goods service and
its transaction. -/
def createBody (goods : Except AppError (List GoodsInfo)) (order : OrderDTO) (now : Int) :
    OrderTxn Unit := do
  let order ← Txn.lift (prepareCreate order)
  match ordersGet (← Txn.read) order.orderSn with
  | .ok existing => Txn.lift (answerExisting existing order)
  | .error err =>
    if err.code = .errOrderNotFound then do
      let goods ← Txn.lift goods
      let order ← Txn.lift (priceOrder goods order)
      createTxn order now
    else Txn.fail err

def createComTxn (existing : OrderInfoDO) (now : Int) : OrderTxn Unit := do
  Txn.mapError (.wrap "restore selected shop carts")
    (cartsRestoreCheckedItems existing.user existing.orderGoods now)
  Txn.mapError (.wrap "delete compensated order") (ordersDeleteByOrderSn existing.orderSn)

def createComBody (orderSn : String) (now : Int) : OrderTxn Unit :=
  Txn.when (trimSpace orderSn ≠ "") do
    match ordersGet (← Txn.read) orderSn with
    | .ok existing => createComTxn existing now
    | .error err => if err.code = .errOrderNotFound then pure () else Txn.fail err

end Create

section Submit

/-- The checked items of a cart; the list has pages of ten. -/
def checkedItems (db : OrderDB) (userID : Int) : List ShoppingCartDO :=
  (db.carts.filter fun row => !row.deleted ∧ row.user = userID ∧ row.checked).take 10

def submit (order : OrderDTO) (db : OrderDB) : Except AppError OrderDTO :=
  let orderSn := trimSpace order.orderSn
  let items := checkedItems db order.user
  if order.user ≤ 0 ∨ orderSn = "" then
    .error (newCode .errSubmitOrder "user and order_sn are required")
  else if items = [] then .error (newCode .errNoGoodsSelect "没有选择商品")
  else .ok
    { orderSn := orderSn
      user := order.user
      address := order.address
      signerName := order.signerName
      singerMobile := order.singerMobile
      post := order.post
      orderGoods := items.map fun item => { goods := item.goods, nums := item.nums } }

end Submit

end Goshop.Order.Service
