import Goshop.Errors
import Goshop.Lib.GoText
import Goshop.Lib.Sql
import Goshop.Lib.Transaction
import Mathlib.Data.List.Sort

/-! The inventory service: the tables `inventory` and `stockselldetail`, the
statements of the data layer, and the four operations on the stock of an order.
A table is the list of its visible rows in key order. -/
namespace Goshop.Inventory.Model

open Goshop.Errors Goshop.Lib Goshop.Lib.Transaction

structure GoodsDetail where
  goods : Int
  num : Int
deriving DecidableEq, Repr

structure InventoryDO where
  id : Int
  goods : Int
  stocks : Int
  total : Int
  available : Int
  locked : Int
  sold : Int
deriving DecidableEq, Repr

structure StockSellDetailDO where
  orderSn : String
  status : Int
  detail : List GoodsDetail
deriving DecidableEq, Repr

structure InventoryDB where
  inventory : List InventoryDO
  stockSellDetail : List StockSellDetailDO
deriving DecidableEq, Repr

def stockSellStatusReserved : Int := 1
def stockSellStatusReleased : Int := 2
def stockSellStatusConfirmed : Int := 3

/-- `sort.Sort` on a `GoodsDetailList`. The list that fits its column has fewer
than a dozen items, and on those the library sorts by insertion. -/
def sortByGoods (detail : List GoodsDetail) : List GoodsDetail :=
  detail.insertionSort fun first second => first.goods ≤ second.goods

/-- `GoodsDetailList.Value`: the JSON text that the `detail` column holds. -/
def goodsDetailValue (detail : List GoodsDetail) : String :=
  "[" ++ ",".intercalate (detail.map fun item =>
    "\x7b\"Goods\":" ++ toString item.goods ++ ",\"Num\":" ++ toString item.num ++ "\x7d") ++ "]"

abbrev StockTxn := Txn AppError InventoryDB

def sellDetailNotFound : AppError :=
  newCode .errInvSellDetailNotFound "inventory sell detail not found"

def getSellDetail (db : InventoryDB) (ordersn : String) : Except AppError StockSellDetailDO :=
  let ordersn := GoText.trimSpace ordersn
  if ordersn = "" then .error sellDetailNotFound
  else
    match db.stockSellDetail.find? (·.orderSn = ordersn) with
    | some detail => .ok detail
    | none => .error (newCode .errInvSellDetailNotFound "record not found")

def updateStockSellDetailStatus (ordersn : String) (status : Int) : StockTxn Unit := do
  let ordersn := GoText.trimSpace ordersn
  Txn.guard (ordersn ≠ "") sellDetailNotFound
  Txn.guard (0 < status)
    (newCode .errValidation "inventory sell detail status is invalid")
  let db ← Txn.read
  let rows := db.stockSellDetail.map fun row =>
    if row.orderSn = ordersn then { row with status := status } else row
  Txn.write { db with stockSellDetail := rows }
  Txn.guard (Sql.affected db.stockSellDetail rows ≠ 0) sellDetailNotFound

def storeInventory (operation : String) (row : InventoryDO) : Except AppError InventoryDO :=
  if Sql.FitsInt row.stocks ∧ Sql.FitsInt row.available ∧ Sql.FitsInt row.locked ∧
      Sql.FitsInt row.sold then .ok row
  else .error (wrapDatabase operation)

/-- The statement shared by `Reduce`, `Increase` and `ConfirmSell`: move `num`
units of a goods between two counters, if the source counter holds them. -/
def moveStock (operation : String) (source : InventoryDO → Int)
    (shift : Int → InventoryDO → InventoryDO) (missing : AppError) (goodsID num : Int) :
    StockTxn Unit := do
  Txn.guard (goodsID ≠ 0) (newCode .errInventoryNotFound "inventory not found")
  Txn.guard (0 < num) (newCode .errValidation "inventory quantity is invalid")
  let db ← Txn.read
  let rows ← Txn.lift (Sql.update (fun row => row.goods = goodsID ∧ num ≤ source row)
    (fun row => storeInventory operation (shift num row)) db.inventory)
  Txn.write { db with inventory := rows }
  Txn.guard (Sql.affected db.inventory rows ≠ 0) missing

def reserveUnits (num : Int) (row : InventoryDO) : InventoryDO :=
  { row with
    available := row.available - num
    locked := row.locked + num
    stocks := row.stocks - num }

def returnUnits (num : Int) (row : InventoryDO) : InventoryDO :=
  { row with
    available := row.available + num
    locked := row.locked - num
    stocks := row.stocks + num }

def sellUnits (num : Int) (row : InventoryDO) : InventoryDO :=
  { row with
    locked := row.locked - num
    sold := row.sold + num }

def reduce : Int → Int → StockTxn Unit :=
  moveStock "reduce inventory" (·.available) reserveUnits (newCode .errInvNotEnough "库存不足")

def increase : Int → Int → StockTxn Unit :=
  moveStock "increase inventory" (·.locked) returnUnits
    (newCode .errInventoryNotFound "inventory not found")

def confirmSell : Int → Int → StockTxn Unit :=
  moveStock "confirm inventory sale" (·.locked) sellUnits
    (newCode .errInventoryNotFound "inventory not found")

def validateStockSellDetail (row : StockSellDetailDO) : Except AppError Unit :=
  if GoText.trimSpace row.orderSn = "" then .error sellDetailNotFound
  else if row.status ≤ 0 then
    .error (newCode .errValidation "inventory sell detail status is invalid")
  else if row.detail.any fun item => item.goods ≤ 0 ∨ item.num ≤ 0 then
    .error (newCode .errValidation "inventory sell detail is invalid")
  else .ok ()

def fitsSellDetail (row : StockSellDetailDO) : Bool :=
  Sql.fitsVarchar 200 row.orderSn && Sql.fitsVarchar 200 (goodsDetailValue row.detail)

def createStockSellDetail (row : StockSellDetailDO) : StockTxn Unit := do
  Txn.lift (validateStockSellDetail row)
  let db ← Txn.read
  Txn.guard (fitsSellDetail row && !db.stockSellDetail.any (·.orderSn = row.orderSn))
    (wrapDatabase "create inventory sell detail")
  Txn.write { db with stockSellDetail := db.stockSellDetail ++ [row] }

def createStockSellDetailIfAbsent (row : StockSellDetailDO) : StockTxn Bool := do
  Txn.lift (validateStockSellDetail row)
  let db ← Txn.read
  Txn.guard (fitsSellDetail row) (wrapDatabase "create inventory sell detail if absent")
  if db.stockSellDetail.any (·.orderSn = row.orderSn) then pure false
  else do
    Txn.write { db with stockSellDetail := db.stockSellDetail ++ [row] }
    pure true

def validateStockOperation (orderSn : String) (details : List GoodsDetail) :
    Except AppError Unit :=
  if GoText.trimSpace orderSn = "" then .error (newCode .errValidation "order_sn不能为空")
  else if details = [] then .error (newCode .errValidation "库存明细不能为空")
  else if details.any fun item => item.goods ≤ 0 ∨ item.num ≤ 0 then
    .error (newCode .errValidation "库存明细参数错误")
  else .ok ()

def reserve (ordersn : String) (detail : List GoodsDetail) : StockTxn Unit := do
  forM detail fun item => reduce item.goods item.num
  createStockSellDetail ⟨ordersn, stockSellStatusReserved, detail⟩

def sellBody (ordersn : String) (detail : List GoodsDetail) : StockTxn Unit := do
  match getSellDetail (← Txn.read) ordersn with
  | .ok existing =>
    if existing.status = stockSellStatusReserved then pure ()
    else if existing.status = stockSellStatusReleased ∨
        existing.status = stockSellStatusConfirmed then pure ()
    else reserve ordersn detail
  | .error err =>
    if err.code = .errInvSellDetailNotFound then reserve ordersn detail else Txn.fail err

/-- The part of `Reback` and `Confirm` that settles a reserved order: move every
item, then record the new status. -/
def settle (move : Int → Int → StockTxn Unit) (status : Int) (ordersn : String)
    (row : StockSellDetailDO) : StockTxn Unit := do
  Txn.guard (row.detail ≠ []) (newCode .errDatabase "inventory sell detail is empty")
  forM (sortByGoods row.detail) fun item => move item.goods item.num
  updateStockSellDetailStatus ordersn status

def rebackBody (ordersn : String) (details : List GoodsDetail) : StockTxn Unit := do
  match getSellDetail (← Txn.read) ordersn with
  | .ok row =>
    if row.status = stockSellStatusReleased then pure ()
    else if row.status = stockSellStatusConfirmed then pure ()
    else settle increase stockSellStatusReleased ordersn row
  | .error err =>
    if err.code = .errInvSellDetailNotFound then do
      let _ ← createStockSellDetailIfAbsent
        ⟨ordersn, stockSellStatusReleased, sortByGoods details⟩
      pure ()
    else Txn.fail err

def confirmBody (ordersn : String) : StockTxn Unit := do
  match getSellDetail (← Txn.read) ordersn with
  | .ok row =>
    if row.status = stockSellStatusReleased then pure ()
    else if row.status = stockSellStatusConfirmed then pure ()
    else settle confirmSell stockSellStatusConfirmed ordersn row
  | .error err => Txn.fail err

def stockOperation (body : StockTxn Unit) (ordersn : String) (details : List GoodsDetail)
    (db : InventoryDB) : Except AppError Unit × InventoryDB :=
  match validateStockOperation ordersn details with
  | .error err => (.error err, db)
  | .ok () => Txn.commit body db

def sell (ordersn : String) (details : List GoodsDetail) :
    InventoryDB → Except AppError Unit × InventoryDB :=
  stockOperation (sellBody ordersn (sortByGoods details)) ordersn details

def reback (ordersn : String) (details : List GoodsDetail) :
    InventoryDB → Except AppError Unit × InventoryDB :=
  stockOperation (rebackBody ordersn details) ordersn details

def confirm (ordersn : String) (details : List GoodsDetail) :
    InventoryDB → Except AppError Unit × InventoryDB :=
  stockOperation (confirmBody ordersn) ordersn details

def release (ordersn : String) (details : List GoodsDetail) :
    InventoryDB → Except AppError Unit × InventoryDB :=
  reback ordersn details

end Goshop.Inventory.Model
