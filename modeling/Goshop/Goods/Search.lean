import Goshop.Goods.Model
import Goshop.Lib.Process

/-! The functions of the goods service that touch the search index or change what
it should hold: the writers of goods, the outbox worker, and the reindexing of
the recovery service. Each call is atomic; between two calls of a function
anything may happen. -/
namespace Goshop.Goods.Search

open Goshop.Errors Goshop.Lib Goshop.Lib.Transaction Goshop.Lib.Process Goshop.Goods.Model

structure World where
  db : GoodsDB
  index : Int → Option GoodsSearchDO

structure Choice where
  outcome : Outcome := .ok
  now : Int := 0
  locked : List Int := []

inductive Call where
  | getGoods (id : Int)
  | getBrand (id : Int)
  | getCategory (id : Int)
  | listGoods (page size : Int)
  | createTxn (goods : GoodsDO)
  | updateTxn (goods : GoodsDO)
  | deleteTxn (id : Int)
  | requeueStale (topic : String) (claimedBefore : Int)
  | countByStatus (topic : String) (status : OutboxStatus)
  | claimPending (topic : String) (limit now : Int)
  | searchUpdate (goods : GoodsSearchDO)
  | searchDelete (id : Int)
  | markDone (id : Int)
  | markRetry (id retryCount backoff : Int)
  | markDead (id retryCount : Int)
deriving DecidableEq, Repr

abbrev Answer : Call → Type
  | .getGoods _ => GoodsDO
  | .listGoods _ _ => List GoodsDO
  | .countByStatus _ _ => Int
  | .claimPending _ _ _ => List OutboxEventDO
  | _ => Unit

abbrev Reply (request : Call) : Type := Except AppError (Answer request)

abbrev Result (α : Type) := Except AppError α

abbrev Program := Proc Call Reply

section Serve

def onDB {α : Type} (operation : GoodsDB → Except AppError α × GoodsDB) (world : World) :
    Except AppError α × World :=
  let result := operation world.db
  (result.1, { world with db := result.2 })

def keyExists (keys : List Int) (id : Int) (missing : AppError) : Except AppError Unit :=
  if id ∈ keys then .ok () else .error missing

/-- Documents have positive ids. -/
def searchUpdate (goods : GoodsSearchDO) (world : World) : Except AppError Unit × World :=
  if goods.id ≤ 0 then (.error (newCode .errGoodsInvalid "goods is required"), world)
  else (.ok (), { world with index := Function.update world.index goods.id (some goods) })

def searchDelete (id : Int) (world : World) : Except AppError Unit × World :=
  if id = 0 then (.error (newCode .errGoodsNotFound "goods not found"), world)
  else (.ok (), { world with index := Function.update world.index id none })

def serve : (request : Call) → Choice → World → Reply request × World
  | .getGoods id, _, world => (goodsGet world.db id, world)
  | .getBrand id, _, world =>
    (keyExists world.db.brands id (newCode .errBrandNotFound "record not found"), world)
  | .getCategory id, _, world =>
    (keyExists world.db.categories id (newCode .errCategoryNotFound "record not found"), world)
  | .listGoods page size, _, world => (.ok (goodsList world.db page size), world)
  | .createTxn goods, _, world => onDB (Txn.commit (createTxn goods)) world
  | .updateTxn goods, _, world => onDB (Txn.commit (updateTxn goods)) world
  | .deleteTxn id, _, world => onDB (Txn.commit (deleteTxn id)) world
  | .requeueStale topic claimedBefore, _, world =>
    onDB (fun db => (.ok (), requeueStale topic claimedBefore db)) world
  | .countByStatus topic status, _, world =>
    (.ok (world.db.outbox.countP fun event => event.topic = topic ∧ event.status = status), world)
  | .claimPending topic limit now, choice, world =>
    onDB (fun db => let result := claimPending topic limit now choice.locked db
      (.ok result.1, result.2)) world
  | .searchUpdate goods, _, world => searchUpdate goods world
  | .searchDelete id, _, world => searchDelete id world
  | .markDone id, _, world => onDB (markDone id) world
  | .markRetry id retryCount backoff, choice, world =>
    onDB (markRetry id retryCount (choice.now + backoff)) world
  | .markDead id retryCount, _, world => onDB (markDead id retryCount) world

def callFailed : AppError := newCode .errUnknown "call failed"

def exec (request : Call) (choice : Choice) (world : World) : Reply request × World :=
  call callFailed choice.outcome (serve request choice) world

end Serve

section Writers

def checkReferences (goods : GoodsDO) (next : Program (Result Unit)) : Program (Result Unit) := do
  let brand ← Proc.send (Call.getBrand goods.brandsID)
  Proc.attempt brand fun _ => do
    let category ← Proc.send (Call.getCategory goods.categoryID)
    Proc.attempt category fun _ => next

def create (goods : GoodsDO) : Program (Result Unit) :=
  Proc.attempt (validateGoodsForWrite goods false) fun goods =>
    checkReferences goods (Proc.send (Call.createTxn goods))

def update (goods : GoodsDO) : Program (Result Unit) :=
  Proc.attempt (validateGoodsForWrite goods true) fun goods => do
    let current ← Proc.send (Call.getGoods goods.id)
    Proc.attempt current fun _ => checkReferences goods (Proc.send (Call.updateTxn goods))

def delete (id : Int) : Program (Result Unit) :=
  if id = 0 then .ret (.error (goodsInvalid "goods id is required"))
  else do
    let current ← Proc.send (Call.getGoods id)
    Proc.attempt current fun _ => Proc.send (Call.deleteTxn id)

end Writers

section Worker

def outboxBatchSize : Int := 20

def outboxClaimTimeout : Int := 300

def backoffDuration (retryCount : Int) : Int :=
  if retryCount ≤ 0 then 1 else retryCount

/-- An upsert reads the row again and ignores the goods of its payload. -/
def applyEvent (event : OutboxEventDO) : Program (Result Unit) :=
  match event.payload.action with
  | .upsert =>
    if event.aggregateID ≤ 0 ∧ event.payload.goods.all (·.id ≤ 0) then
      .ret (.error (newCode .errUnknown "invalid goods upsert payload"))
    else do
      let current ← Proc.send (Call.getGoods event.aggregateID)
      Proc.attempt current fun goods => Proc.send (Call.searchUpdate (goodsSearchFromDTO goods))
  | .delete =>
    if event.payload.id = 0 then
      .ret (.error (newCode .errUnknown "invalid goods delete payload"))
    else Proc.send (Call.searchDelete event.payload.id)

def recordFailure (event : OutboxEventDO) : Program (Result Unit) :=
  let retryCount := event.retryCount + 1
  if event.maxRetryCount ≤ retryCount then Proc.send (Call.markDead event.id retryCount)
  else Proc.send (Call.markRetry event.id retryCount (backoffDuration retryCount))

def processGoodsOutboxEvent (event : OutboxEventDO) : Program (Result Unit) := do
  match ← applyEvent event with
  | .ok _ => Proc.send (Call.markDone event.id)
  | .error _ => recordFailure event

/-- The loop of the sweep; it ends at the first status that cannot be stored. -/
def processEvents : List OutboxEventDO → Program (Result Unit)
  | [] => .ret (.ok ())
  | event :: rest => do
    let processed ← processGoodsOutboxEvent event
    Proc.attempt processed fun _ => processEvents rest

def observeGoodsOutboxBacklog : List OutboxStatus → Program (Result Unit)
  | [] => .ret (.ok ())
  | status :: rest => do
    let count ← Proc.send (Call.countByStatus outboxTopicGoodsSync status)
    Proc.attempt count fun _ => observeGoodsOutboxBacklog rest

/-- One sweep, which reads the clock once at its start. -/
def processGoodsOutboxOnce (now : Int) : Program (Result Unit) := do
  let requeued ← Proc.send (Call.requeueStale outboxTopicGoodsSync (now - outboxClaimTimeout))
  Proc.attempt requeued fun _ => do
    let observed ← observeGoodsOutboxBacklog [.pending, .processing, .dead]
    Proc.attempt observed fun _ => do
      let events ← Proc.send (Call.claimPending outboxTopicGoodsSync outboxBatchSize now)
      Proc.attempt events fun events => processEvents events

end Worker

section Reindex

def writeRows (reindexed : List Int) : List GoodsDO → Program (Result (List Int))
  | [] => .ret (.ok reindexed)
  | row :: rest => do
    let written ← Proc.send (Call.searchUpdate (goodsSearchFromDTO row))
    Proc.attempt written fun _ => writeRows (reindexed ++ [row.id]) rest

def reindexEach (reindexed : List Int) : List Int → Program (Result (List Int))
  | [] => .ret (.ok reindexed)
  | id :: rest => do
    let current ← Proc.send (Call.getGoods id)
    Proc.attempt current fun goods => do
      let written ← Proc.send (Call.searchUpdate (goodsSearchFromDTO goods))
      Proc.attempt written fun _ => reindexEach (reindexed ++ [id]) rest

def reindex (ids : List Int) : Program (Result (List Int)) :=
  let ids := (ids.filter (· ≠ 0)).eraseDups
  if ids = [] then .ret (.error (newCode .errValidation "goods_ids or all=true is required"))
  else reindexEach [] ids

/-- The loop over pages of a hundred rows, which ends at an empty one; `pages` is
the number of them that the run gets to before its context ends. -/
def reindexPages : (pages : Nat) → (page : Int) → List Int → Program (Result (List Int))
  | 0, _, _ => .ret (.error callFailed)
  | pages + 1, page, reindexed => do
    let rows ← Proc.send (Call.listGoods page 100)
    Proc.attempt rows fun rows =>
      if rows = [] then .ret (.ok reindexed)
      else do
        let written ← writeRows reindexed rows
        Proc.attempt written fun reindexed => reindexPages pages (page + 1) reindexed

def reindexAll (pages : Nat) : Program (Result (List Int)) :=
  reindexPages pages 1 []

end Reindex

inductive Task where
  | create (goods : GoodsDO)
  | update (goods : GoodsDO)
  | delete (id : Int)
  | sweep (now : Int)
  | reindex (ids : List Int)
  | reindexAll (pages : Nat)

def Task.program : Task → Program (Result Unit)
  | .create goods => Search.create goods
  | .update goods => Search.update goods
  | .delete id => Search.delete id
  | .sweep now => processGoodsOutboxOnce now
  | .reindex ids => Search.reindex ids >>= fun result => .ret (result.map fun _ => ())
  | .reindexAll pages => Search.reindexAll pages >>= fun result => .ret (result.map fun _ => ())

end Goshop.Goods.Search
