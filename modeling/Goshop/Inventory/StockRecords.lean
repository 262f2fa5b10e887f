import Goshop.Inventory.Steps
import Goshop.Lib.Run

/-! How stock records come into the table. `SetInv` always inserts a row and
`SetStock` writes the first row of its goods, or inserts one; the index on the
goods is not unique. As long as no `SetInv` is accepted for a goods that has a
row, every goods has one. -/
namespace Goshop.Inventory.StockRecords

open Goshop.Errors Goshop.Lib Goshop.Lib.Transaction Goshop.Lib.Run
open Goshop.Inventory.Model Goshop.Inventory.Steps

structure GoodsInvInfo where
  goodsId : Int32
  num : Int32 := 0
  total : Int32 := 0
  available : Int32 := 0
  locked : Int32 := 0
  sold : Int32 := 0
  actorUserId : Int32 := 0
  correlationId : String := ""
  requestId : String := ""
  reason : String := ""
deriving DecidableEq, Repr

structure InventoryDTO where
  goods : Int32
  stocks : Int32
  total : Int32
  available : Int32
  locked : Int32
  sold : Int32
deriving DecidableEq, Repr

structure InventoryAdjustmentDO where
  goodsID : Int32
  beforeAvailable : Int
  afterAvailable : Int
  actorUserID : Int32
  correlationID : String
  requestID : String
  reason : String
deriving DecidableEq, Repr

structure StockDB where
  stock : InventoryDB
  adjustments : List InventoryAdjustmentDO
deriving DecidableEq, Repr

abbrev RecordTxn := Txn AppError StockDB

def inventoryInvalid : AppError :=
  newCode .errValidation "inventory is invalid"

def InventoryDTO.negative (inv : InventoryDTO) : Bool :=
  inv.stocks < 0 || inv.total < 0 || inv.available < 0 || inv.locked < 0 || inv.sold < 0

/-- The counters that the request leaves out. The sum is that of 32-bit machine
integers. -/
def InventoryDTO.completed (inv : InventoryDTO) : InventoryDTO :=
  let lifecycleProvided := 0 < inv.total ∨ 0 < inv.available ∨ 0 < inv.locked ∨ 0 < inv.sold
  if ¬lifecycleProvided then
    { inv with total := inv.stocks, available := inv.stocks, locked := 0, sold := 0 }
  else if inv.total = 0 then
    { inv with total := inv.available + inv.locked + inv.sold }
  else inv

def normalizeInventory (inv : InventoryDTO) : Except AppError InventoryDTO :=
  if inv.goods ≤ 0 then .error inventoryInvalid
  else if inv.negative then .error inventoryInvalid
  else
    let inv := inv.completed
    if inv.total < inv.available + inv.locked + inv.sold then .error inventoryInvalid
    else .ok { inv with stocks := inv.available }

def inventoryRow (id : Int) (inv : InventoryDTO) : InventoryDO where
  id := id
  goods := inv.goods.toInt
  stocks := inv.stocks.toInt
  total := inv.total.toInt
  available := inv.available.toInt
  locked := inv.locked.toInt
  sold := inv.sold.toInt

def insertRow (inv : InventoryDTO) (rows : List InventoryDO) : List InventoryDO :=
  rows ++ [inventoryRow (Sql.nextId (rows.map (·.id))) inv]

def writeCounters (inv : InventoryDTO) (row : InventoryDO) : InventoryDO :=
  { row with
    stocks := inv.available.toInt
    total := inv.total.toInt
    available := inv.available.toInt
    locked := inv.locked.toInt
    sold := inv.sold.toInt }

def StockDB.withRows (db : StockDB) (rows : List InventoryDO) : StockDB :=
  { db with stock := { db.stock with inventory := rows } }

def inventorysCreate (inv : InventoryDTO) : RecordTxn Unit := do
  let inv ← Txn.lift (normalizeInventory inv)
  let db ← Txn.read
  Txn.write (db.withRows (insertRow inv db.stock.inventory))

/-- The columns of `inventory_adjustment_logs` take the row, and its
correlation id is new. -/
def fitsAdjustment (adjustments : List InventoryAdjustmentDO) (audit : InventoryAdjustmentDO) :
    Bool :=
  Sql.fitsVarchar 36 audit.correlationID && Sql.fitsVarchar 128 audit.requestID &&
    Sql.fitsVarchar 255 audit.reason &&
    !adjustments.any (·.correlationID = audit.correlationID)

def createAudit (audit : InventoryAdjustmentDO) : RecordTxn Unit := do
  let db ← Txn.read
  Txn.guard (fitsAdjustment db.adjustments audit) (wrapDatabase "adjust inventory")
  Txn.write { db with adjustments := db.adjustments ++ [audit] }

def inventorysAdjust (inv : InventoryDTO) (audit : InventoryAdjustmentDO) : RecordTxn Unit := do
  let inv ← Txn.lift (normalizeInventory inv)
  Txn.guard (0 < audit.actorUserID && GoText.trimSpace audit.correlationID ≠ "" &&
      GoText.trimSpace audit.reason ≠ "")
    (newCode .errValidation "inventory adjustment audit is invalid")
  let db ← Txn.read
  let rows := db.stock.inventory
  let audit := { audit with goodsID := inv.goods, afterAvailable := inv.available.toInt }
  match rows.find? (·.goods = inv.goods.toInt) with
  | some current => do
    Txn.write (db.withRows (Table.modify (·.id) current.id (writeCounters inv) rows))
    createAudit { audit with beforeAvailable := current.available }
  | none => do
    Txn.write (db.withRows (insertRow inv rows))
    createAudit audit

def inventoryCreate (inv : InventoryDTO) : RecordTxn Unit := do
  Txn.guard (0 < inv.goods && !inv.negative) inventoryInvalid
  inventorysCreate inv

def GoodsInvInfo.dto (info : GoodsInvInfo) : InventoryDTO where
  goods := info.goodsId
  stocks := info.num
  total := info.total
  available := info.available
  locked := info.locked
  sold := info.sold

def GoodsInvInfo.audit (info : GoodsInvInfo) : InventoryAdjustmentDO where
  goodsID := 0
  beforeAvailable := 0
  afterAvailable := 0
  actorUserID := info.actorUserId
  correlationID := info.correlationId
  requestID := info.requestId
  reason := info.reason

def setInv (info : GoodsInvInfo) : StockDB → Except AppError Unit × StockDB :=
  Txn.commit (inventoryCreate info.dto)

def setStock (info : GoodsInvInfo) : StockDB → Except AppError Unit × StockDB :=
  Txn.commit (inventorysAdjust info.dto info.audit)

inductive Request
  | setInv (info : GoodsInvInfo)
  | setStock (info : GoodsInvInfo)
deriving DecidableEq, Repr

def exec (db : StockDB) : Request → StockDB
  | .setInv info => (setInv info db).2
  | .setStock info => (setStock info db).2

/-- A `SetInv` that is accepted is for a goods without a row. -/
def Fresh (db : StockDB) : Request → Prop
  | .setInv info => (setInv info db).1 = .ok () →
    ∀ row ∈ db.stock.inventory, row.goods ≠ info.goodsId.toInt
  | .setStock _ => True

instance (db : StockDB) (request : Request) : Decidable (Fresh db request) :=
  match request with
  | .setInv info => inferInstanceAs (Decidable ((setInv info db).1 = .ok () →
      ∀ row ∈ db.stock.inventory, row.goods ≠ info.goodsId.toInt))
  | .setStock _ => inferInstanceAs (Decidable True)

section Requests

variable {db db' : StockDB}

theorem completed_goods (inv : InventoryDTO) : inv.completed.goods = inv.goods := by
  simp only [InventoryDTO.completed]
  split
  · rfl
  · split <;> rfl

theorem normalizeInventory_goods {inv inv' : InventoryDTO}
    (h : normalizeInventory inv = .ok inv') : inv'.goods = inv.goods := by
  simp only [normalizeInventory] at h
  split at h
  · cases h
  · split at h
    · cases h
    · split at h
      · cases h
      · cases h
        exact completed_goods inv

theorem setInv_cases (info : GoodsInvInfo) (db : StockDB) :
    (∃ err, setInv info db = (.error err, db)) ∨
      ∃ inv, normalizeInventory info.dto = .ok inv ∧
        setInv info db = (.ok (), db.withRows (insertRow inv db.stock.inventory)) := by
  rcases Txn.commit_cases (inventoryCreate info.dto) db with
    ⟨_, db', hrun, hcommit⟩ | ⟨err, -, hcommit⟩
  · simp only [inventoryCreate, inventorysCreate, Txn.guard_bind_ok, Txn.lift_bind_ok,
      Txn.read_bind, Txn.write_ok] at hrun
    obtain ⟨-, inv, hinv, hend⟩ := hrun
    cases hend
    exact .inr ⟨inv, hinv, hcommit⟩
  · exact .inl ⟨err, hcommit⟩

theorem createAudit_ok {audit : InventoryAdjustmentDO} (h : createAudit audit db = .ok ((), db')) :
    db'.stock = db.stock := by
  simp only [createAudit, Txn.read_bind, Txn.guard_bind_ok, Txn.write_ok] at h
  obtain ⟨-, hend⟩ := h
  cases hend
  rfl

theorem modify_writeCounters_goods (inv : InventoryDTO) (id : Int) (rows : List InventoryDO) :
    (Table.modify (·.id) id (writeCounters inv) rows).map (·.goods) = rows.map (·.goods) := by
  unfold Table.modify
  rw [List.map_map]
  apply List.map_congr_left
  intro row _
  rw [Function.comp_apply]
  split <;> rfl

/-- The table after an adjustment: the first row of the goods is written over, or a row
is added for a goods that has none. -/
def adjusted (inv : InventoryDTO) (rows : List InventoryDO) : List InventoryDO :=
  match rows.find? (·.goods = inv.goods.toInt) with
  | some current => Table.modify (·.id) current.id (writeCounters inv) rows
  | none => insertRow inv rows

theorem setStock_cases (info : GoodsInvInfo) (db : StockDB) :
    (∃ err, setStock info db = (.error err, db)) ∨
      ∃ inv, normalizeInventory info.dto = .ok inv ∧ (setStock info db).1 = .ok () ∧
        (setStock info db).2.stock =
          { db.stock with inventory := adjusted inv db.stock.inventory } := by
  rcases Txn.commit_cases (inventorysAdjust info.dto info.audit) db with
    ⟨⟨⟩, db', hrun, hcommit⟩ | ⟨err, -, hcommit⟩
  · simp only [inventorysAdjust, Txn.lift_bind_ok, Txn.guard_bind_ok, Txn.read_bind] at hrun
    obtain ⟨inv, hinv, -, hrun⟩ := hrun
    refine .inr ⟨inv, hinv, ?_⟩
    rw [setStock, hcommit, adjusted]
    cases hfind : db.stock.inventory.find? (·.goods = inv.goods.toInt) with
    | some current =>
      simp only [hfind, Txn.write_bind] at hrun
      exact ⟨rfl, createAudit_ok hrun⟩
    | none =>
      simp only [hfind, Txn.write_bind] at hrun
      exact ⟨rfl, createAudit_ok hrun⟩
  · exact .inl ⟨err, hcommit⟩

theorem adjusted_goods (inv : InventoryDTO) {rows : List InventoryDO}
    (hone : (rows.map (·.goods)).Nodup) : ((adjusted inv rows).map (·.goods)).Nodup := by
  unfold adjusted
  cases hfind : rows.find? (·.goods = inv.goods.toInt) with
  | some current =>
    rw [modify_writeCounters_goods]
    exact hone
  | none =>
    apply Table.nodup_snoc hone
    simpa [inventoryRow] using hfind

theorem setStock_keeps (info : GoodsInvInfo) (hone : OneRowPerGoods db.stock) :
    OneRowPerGoods (setStock info db).2.stock := by
  rcases setStock_cases info db with ⟨err, h⟩ | ⟨inv, -, -, h⟩
  · rw [h]
    exact hone
  · rw [h]
    exact adjusted_goods inv hone

/-- The step lemma: a request keeps one row per goods if and only if it is not
a `SetInv` for a goods that has one. -/
theorem exec_oneRow (hone : OneRowPerGoods db.stock) (request : Request) :
    OneRowPerGoods (exec db request).stock ↔ Fresh db request := by
  cases request with
  | setStock info => exact iff_of_true (setStock_keeps info hone) trivial
  | setInv info =>
    rcases setInv_cases info db with ⟨err, h⟩ | ⟨inv, hinv, h⟩
    · simp only [exec, Fresh, h, hone, true_iff]
      intro hok
      cases hok
    · have hgoods : inv.goods = info.goodsId := normalizeInventory_goods hinv
      simp only [exec, Fresh, h, ← hgoods, forall_const]
      constructor
      · intro hnext other hother hsame
        rw [OneRowPerGoods, StockDB.withRows, insertRow, List.map_append,
          List.nodup_append] at hnext
        exact hnext.2.2 _ (List.mem_map_of_mem hother) inv.goods.toInt (by simp [inventoryRow])
          hsame
      · intro hfresh
        exact @Table.nodup_snoc InventoryDO Int (·.goods) _ hone (inventoryRow _ inv) hfresh

end Requests

def availableOf (goods : Int) (db : InventoryDB) : Int :=
  ((db.inventory.filter (·.goods = goods)).map (·.available)).sum

def ReducesExactly (db : InventoryDB) : Prop :=
  ∀ goods num db', reduce goods num db = .ok ((), db') →
    availableOf goods db' = availableOf goods db - num

theorem availableOf_eq_sum (goods : Int) (db : InventoryDB) :
    availableOf goods db =
      (db.inventory.map fun row => if row.goods = goods then row.available else 0).sum := by
  unfold availableOf
  induction db.inventory with
  | nil => rfl
  | cons row rest ih =>
    by_cases h : row.goods = goods <;> simp [h, ih]

theorem reducesExactly_of_oneRow {db : InventoryDB} (hone : OneRowPerGoods db) :
    ReducesExactly db := by
  intro goods num db' h
  obtain ⟨-, ⟨row, hrow, hgoods, -⟩, -⟩ := moveStock_ok h
  obtain ⟨-, -, rfl⟩ := moveStock_whole hone h
  subst hgoods
  rw [availableOf_eq_sum, availableOf_eq_sum]
  refine (Table.sum_modify
    (fun other : InventoryDO => if other.goods = row.goods then other.available else 0)
    (reserveUnits num) hone hrow).trans ?_
  simp only [reserveUnits, if_true]
  omega

/-- From an empty table on, every goods has at most one row in every state and
`Reduce` is exact, if and only if no `SetInv` is accepted for a goods that has a
row already. -/
theorem one_record_per_goods {start : StockDB} (hempty : start.stock.inventory = [])
    (requests : List Request) :
    (∀ done, done <+: requests → OneRowPerGoods (run exec start done).stock ∧
        ReducesExactly (run exec start done).stock) ↔
      Along exec Fresh start requests := by
  have hstart : OneRowPerGoods start.stock := by simp [OneRowPerGoods, hempty]
  have hiff := @along_iff_invariant _ _ exec Fresh start (fun db => OneRowPerGoods db.stock)
    requests hstart fun db request hone => exec_oneRow hone request
  rw [← hiff]
  constructor
  · exact fun all done hdone => (all done hdone).1
  · exact fun all done hdone => ⟨all done hdone, reducesExactly_of_oneRow (all done hdone)⟩

def noRecords : StockDB where
  stock := ⟨[], []⟩
  adjustments := []

/-- Two `SetInv` requests for one goods are both accepted. The three units of
one `Reduce` are then taken from each of the two rows. -/
theorem second_setInv_doubles_record :
    let info : GoodsInvInfo := { goodsId := 7, num := 5 }
    let doubled := run exec noRecords [.setInv info, .setInv info]
    let reduced := Txn.commit (reduce 7 3) doubled.stock
    (setInv info noRecords).1 = .ok () ∧ (setInv info (setInv info noRecords).2).1 = .ok () ∧
      doubled.stock.inventory.map (·.goods) = [7, 7] ∧ reduced.1 = .ok () ∧
      availableOf 7 reduced.2 = availableOf 7 doubled.stock - 6 := by
  decide +kernel

theorem one_record_per_goods_adjusted :
    let requests : List Request :=
      [.setInv { goodsId := 7, num := 5 },
        .setStock
          { goodsId := 7, num := 9, actorUserId := 1, correlationId := "c1", reason := "count" },
        .setStock
          { goodsId := 8, num := 2, actorUserId := 1, correlationId := "c2", reason := "new" }]
    (run exec noRecords requests).stock.inventory.map (fun row => (row.goods, row.available)) =
        [(7, 9), (8, 2)] ∧
      ∀ done, done <+: requests → OneRowPerGoods (run exec noRecords done).stock ∧
        ReducesExactly (run exec noRecords done).stock :=
  ⟨by decide +kernel, (one_record_per_goods rfl _).mpr (by decide +kernel)⟩

end Goshop.Inventory.StockRecords
