import Goshop.Errors
import Goshop.Lib.GoText
import Goshop.Lib.Sql
import Goshop.Lib.Transaction
import Mathlib.Data.List.Sort

/-! The goods service: the goods table, the outbox that carries each change of
it to the search index, and the document that the index keeps for a row. -/
namespace Goshop.Goods.Model

open Goshop.Errors Goshop.Lib Goshop.Lib.GoText Goshop.Lib.Transaction

structure GoodsSearchDO where
  id : Int
  categoryID : Int
  brandsID : Int
  onSale : Bool
  shipFree : Bool
  isNew : Bool
  isHot : Bool
  name : String
  clickNum : Int
  soldNum : Int
  favNum : Int
  marketPriceFen : Int
  goodsBrief : String
  shopPriceFen : Int
  spuCode : String
  skuCode : String
deriving DecidableEq, Repr

structure GoodsDO where
  id : Int := 0
  categoryID : Int
  brandsID : Int
  onSale : Bool := false
  shipFree : Bool := false
  isNew : Bool := false
  isHot : Bool := false
  name : String
  goodsSn : String
  spuCode : String := ""
  skuCode : String := ""
  storeID : String
  clickNum : Int := 0
  soldNum : Int := 0
  favNum : Int := 0
  marketPriceFen : Int := 0
  shopPriceFen : Int := 0
  goodsBrief : String := ""
  deleted : Bool := false
deriving DecidableEq, Repr

def goodsSearchFromDTO (goods : GoodsDO) : GoodsSearchDO where
  id := goods.id
  categoryID := goods.categoryID
  brandsID := goods.brandsID
  onSale := goods.onSale
  shipFree := goods.shipFree
  isNew := goods.isNew
  isHot := goods.isHot
  name := goods.name
  clickNum := goods.clickNum
  soldNum := goods.soldNum
  favNum := goods.favNum
  marketPriceFen := goods.marketPriceFen
  goodsBrief := goods.goodsBrief
  shopPriceFen := goods.shopPriceFen
  spuCode := goods.spuCode
  skuCode := goods.skuCode

inductive OutboxStatus where
  | pending
  | processing
  | done
  | dead
deriving DecidableEq, Repr

inductive OutboxAction where
  | upsert
  | delete
deriving DecidableEq, Repr

structure GoodsOutboxPayload where
  action : OutboxAction
  goods : Option GoodsSearchDO := none
  id : Int
deriving DecidableEq, Repr

structure OutboxEventDO where
  id : Int := 0
  topic : String
  aggregateID : Int
  payload : GoodsOutboxPayload
  status : OutboxStatus
  retryCount : Int := 0
  maxRetryCount : Int
  nextAttemptAt : Int := 0
  claimedAt : Int := 0
deriving DecidableEq, Repr

/-- The tables; of brands and categories only the keys matter. -/
structure GoodsDB where
  goods : List GoodsDO
  outbox : List OutboxEventDO
  brands : List Int
  categories : List Int
deriving DecidableEq, Repr

abbrev GoodsTxn := Txn AppError GoodsDB

def outboxTopicGoodsSync : String := "goods.search.sync"

def outboxMaxRetry : Int := 5

def newGoodsSyncEvent (goods : GoodsDO) : OutboxEventDO where
  topic := outboxTopicGoodsSync
  aggregateID := goods.id
  payload := { action := .upsert, goods := some (goodsSearchFromDTO goods), id := goods.id }
  status := .pending
  maxRetryCount := outboxMaxRetry

def newGoodsDeleteEvent (id : Int) : OutboxEventDO where
  topic := outboxTopicGoodsSync
  aggregateID := id
  payload := { action := .delete, id := id }
  status := .pending
  maxRetryCount := outboxMaxRetry

section Checks

def goodsInvalid (message : String) : AppError := newCode .errGoodsInvalid message

def trimGoods (goods : GoodsDO) : GoodsDO :=
  let goodsSn := trimSpace goods.goodsSn
  let orGoodsSn (code : String) := if trimSpace code = "" then goodsSn else trimSpace code
  { goods with
    name := trimSpace goods.name
    goodsSn := goodsSn
    spuCode := orGoodsSn goods.spuCode
    skuCode := orGoodsSn goods.skuCode
    storeID := trimSpace goods.storeID
    goodsBrief := trimSpace goods.goodsBrief }

def validateGoodsForWrite (goods : GoodsDO) (requireID : Bool) : Except AppError GoodsDO :=
  let trimmed := trimGoods goods
  if requireID ∧ goods.id ≤ 0 then .error (goodsInvalid "goods id is required")
  else if trimmed.categoryID ≤ 0 ∨ trimmed.brandsID ≤ 0 then
    .error (goodsInvalid "category_id and brand_id are required")
  else if trimmed.name = "" ∨ trimmed.goodsSn = "" then
    .error (goodsInvalid "name and goods_sn are required")
  else if trimmed.storeID = "" then .error (goodsInvalid "store_id is required")
  else if trimmed.marketPriceFen < 0 ∨ trimmed.shopPriceFen < 0 then
    .error (goodsInvalid "goods price must not be negative")
  else .ok trimmed

def fitsGoods (goods : GoodsDO) : Bool :=
  Sql.fitsVarchar 50 goods.name && Sql.fitsVarchar 50 goods.goodsSn &&
    Sql.fitsVarchar 64 goods.spuCode && Sql.fitsVarchar 64 goods.skuCode &&
    Sql.fitsVarchar 64 goods.storeID && Sql.fitsVarchar 100 goods.goodsBrief

end Checks

section Goods

/-- The row is visible and has the key. Keys arrive as `uint64`, so a negative one
finds nothing. -/
def hasID (id : Int) (row : GoodsDO) : Bool :=
  row.id = id && 0 < id && !row.deleted

def goodsGet (db : GoodsDB) (id : Int) : Except AppError GoodsDO :=
  if id = 0 then .error (newCode .errGoodsNotFound "goods not found")
  else
    match db.goods.find? (hasID id) with
    | some row => .ok row
    | none => .error (newCode .errGoodsNotFound "record not found")

/-- The visible rows in the order of their keys, one page of them. -/
def goodsList (db : GoodsDB) (page size : Int) : List GoodsDO :=
  let rows := (db.goods.filter fun row => !row.deleted).insertionSort
    fun first second => first.id ≤ second.id
  (rows.drop ((page - 1) * size).toNat).take size.toNat

def appendEvent (event : OutboxEventDO) (db : GoodsDB) : GoodsDB :=
  { db with outbox := db.outbox ++ [{ event with id := Sql.nextId (db.outbox.map (·.id)) }] }

def createEvent (event : OutboxEventDO) : GoodsTxn Unit := do
  Txn.write (appendEvent event (← Txn.read))

/-- The transaction of `Create`. A request may name the key of its row; the key
and the unique index on `sku_code` refuse one that is taken. -/
def createTxn (goods : GoodsDO) : GoodsTxn Unit := do
  let db ← Txn.read
  let id := if goods.id = 0 then Sql.nextId (db.goods.map (·.id)) else goods.id
  let row := { goods with id := id, deleted := false }
  Txn.guard (fitsGoods row && !db.goods.any (·.id = id) && !db.goods.any (·.skuCode = row.skuCode))
    (wrapDatabase "create goods in transaction")
  Txn.write { db with goods := db.goods ++ [row] }
  createEvent (newGoodsSyncEvent row)

/-- `SET` of `UpdateInTxn`; the store stays. -/
def goodsUpdateValues (goods row : GoodsDO) : GoodsDO :=
  { goods with id := row.id, storeID := row.storeID, deleted := row.deleted }

def updateGoods (id : Int) (change : GoodsDO → GoodsDO) (db : GoodsDB) : GoodsDB :=
  { db with goods := db.goods.map fun row => if hasID id row then change row else row }

def rewriteGoods (goods : GoodsDO) : GoodsDB → GoodsDB :=
  updateGoods goods.id (goodsUpdateValues goods)

def hideGoods (id : Int) : GoodsDB → GoodsDB :=
  updateGoods id fun row => { row with deleted := true }

def updateTxn (goods : GoodsDO) : GoodsTxn Unit := do
  let db ← Txn.read
  Txn.guard (db.goods.any (hasID goods.id)) (newCode .errGoodsNotFound "record not found")
  Txn.guard (fitsGoods goods &&
      !db.goods.any fun row => row.id ≠ goods.id ∧ row.skuCode = goods.skuCode)
    (wrapDatabase "update goods in transaction")
  Txn.write (rewriteGoods goods db)
  createEvent (newGoodsSyncEvent goods)

def deleteTxn (id : Int) : GoodsTxn Unit := do
  let db ← Txn.read
  Txn.guard (db.goods.any (hasID id)) (newCode .errGoodsNotFound "goods not found")
  Txn.write (hideGoods id db)
  createEvent (newGoodsDeleteEvent id)

variable {db db' : GoodsDB}

theorem createTxn_ok {goods : GoodsDO} (h : createTxn goods db = .ok ((), db')) :
    ∃ row : GoodsDO, (∀ other ∈ db.goods, other.id ≠ row.id) ∧
      db' = appendEvent (newGoodsSyncEvent row) { db with goods := db.goods ++ [row] } := by
  simp only [createTxn, createEvent, Txn.read_bind, Txn.guard_bind_ok, Txn.write_bind,
    Txn.write_ok] at h
  obtain ⟨hfits, h⟩ := h
  cases h
  simp only [Bool.and_eq_true, Bool.not_eq_true', List.any_eq_false, decide_eq_true_eq] at hfits
  exact ⟨_, hfits.1.2, rfl⟩

theorem updateTxn_ok {goods : GoodsDO} (h : updateTxn goods db = .ok ((), db')) :
    db' = appendEvent (newGoodsSyncEvent goods) (rewriteGoods goods db) := by
  simp only [updateTxn, createEvent, Txn.read_bind, Txn.guard_bind_ok, Txn.write_bind,
    Txn.write_ok] at h
  obtain ⟨-, -, h⟩ := h
  cases h
  rfl

theorem deleteTxn_ok {id : Int} (h : deleteTxn id db = .ok ((), db')) :
    db.goods.any (hasID id) = true ∧
      db' = appendEvent (newGoodsDeleteEvent id) (hideGoods id db) := by
  simp only [deleteTxn, createEvent, Txn.read_bind, Txn.guard_bind_ok, Txn.write_bind,
    Txn.write_ok] at h
  obtain ⟨hvisible, h⟩ := h
  cases h
  exact ⟨hvisible, rfl⟩

end Goods

section Outbox

def isStale (topic : String) (claimedBefore : Int) (event : OutboxEventDO) : Bool :=
  event.topic = topic ∧ event.status = .processing ∧ 0 < event.claimedAt ∧
    event.claimedAt ≤ claimedBefore

def updateEvents (selected : OutboxEventDO → Bool) (change : OutboxEventDO → OutboxEventDO)
    (db : GoodsDB) : GoodsDB :=
  { db with outbox := db.outbox.map fun event => if selected event then change event else event }

/-- A claim that its worker has not ended in time is open again. -/
def requeueStale (topic : String) (claimedBefore : Int) : GoodsDB → GoodsDB :=
  updateEvents (isStale topic claimedBefore) fun event =>
    { event with status := .pending, claimedAt := 0, nextAttemptAt := 0 }

def isClaimable (topic : String) (now : Int) (event : OutboxEventDO) : Bool :=
  event.topic = topic ∧ event.status = .pending ∧ event.nextAttemptAt ≤ now

/-- The events that the claim reads. Rows that another transaction has locked at
that moment are skipped. -/
def claimedEvents (topic : String) (limit now : Int) (locked : List Int) (db : GoodsDB) :
    List OutboxEventDO :=
  let limit := if limit ≤ 0 then 10 else limit
  let rows := db.outbox.filter fun event => isClaimable topic now event && event.id ∉ locked
  (rows.insertionSort fun first second => first.id ≤ second.id).take limit.toNat

/-- The events are returned as they were read, before the claim is written. -/
def claimPending (topic : String) (limit now : Int) (locked : List Int) (db : GoodsDB) :
    List OutboxEventDO × GoodsDB :=
  let events := claimedEvents topic limit now locked db
  (events, updateEvents (fun event => event.id ∈ events.map (·.id) ∧ event.status = .pending)
    (fun event => { event with status := .processing, claimedAt := now }) db)

def updateStatus (id : Int) (change : OutboxEventDO → OutboxEventDO) (db : GoodsDB) :
    Except AppError Unit × GoodsDB :=
  if id ≤ 0 then (.error (newCode .errValidation "outbox event id is required"), db)
  else (.ok (), updateEvents (·.id = id) change db)

def markDone (id : Int) : GoodsDB → Except AppError Unit × GoodsDB :=
  updateStatus id fun event => { event with status := .done, claimedAt := 0 }

def markRetry (id retryCount nextAttemptAt : Int) : GoodsDB → Except AppError Unit × GoodsDB :=
  updateStatus id fun event =>
    { event with
      status := .pending, retryCount := retryCount, nextAttemptAt := nextAttemptAt, claimedAt := 0 }

def markDead (id retryCount : Int) : GoodsDB → Except AppError Unit × GoodsDB :=
  updateStatus id fun event =>
    { event with status := .dead, retryCount := retryCount, claimedAt := 0 }

end Outbox

end Goshop.Goods.Model
