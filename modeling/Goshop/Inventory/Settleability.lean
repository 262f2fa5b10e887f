import Goshop.Inventory.Compensation
import Goshop.Inventory.Ledger
import Goshop.Inventory.Normalization
import Goshop.Inventory.SellStatus
import Mathlib.Algebra.Order.Group.Int

/-! Whether the reserved orders can be settled. `Confirm` and `Release` take the units of
an order out of the locked counter, and `SetStock` writes that counter from its request,
whatever is reserved. As long as every adjustment leaves the reserved units locked, each
reserved order can go both ways. -/
namespace Goshop.Inventory.Settleability

open Goshop.Errors Goshop.Lib Goshop.Lib.Transaction Goshop.Lib.Run
open Goshop.Inventory.Model Goshop.Inventory.Steps Goshop.Inventory.Ledger
open Goshop.Inventory.StockRecords Goshop.Inventory.Normalization
open Goshop.Inventory.SellStatus Goshop.Inventory.Compensation
open Goshop.Lib.GoText (trimSpace)

/-- The units of a goods that are reserved. -/
abbrev reservedUnits (goods : Int) (db : InventoryDB) : Int :=
  held stockSellStatusReserved goods db.stockSellDetail

/-- The reserved units are locked, and every reserved order can still be confirmed and
can still be released. -/
structure Settleable (db : InventoryDB) : Prop where
  locked : ∀ row ∈ db.inventory, reservedUnits row.goods db ≤ row.locked
  confirmed : ∀ order ∈ db.stockSellDetail, order.status = stockSellStatusReserved →
    ∀ details, validateStockOperation order.orderSn details = .ok () →
      (confirm order.orderSn details db).1 = .ok () ∧
        sellStatus (confirm order.orderSn details db).2 order.orderSn =
          some stockSellStatusConfirmed
  released : ∀ order ∈ db.stockSellDetail, order.status = stockSellStatusReserved →
    ∀ details, validateStockOperation order.orderSn details = .ok () →
      (release order.orderSn details db).1 = .ok () ∧
        sellStatus (release order.orderSn details db).2 order.orderSn =
          some stockSellStatusReleased

inductive Call
  | stock (call : StockCall)
  | record (request : Request)
deriving DecidableEq, Repr

def exec (db : StockDB) : Call → StockDB
  | .stock call => { db with stock := (call.operation db.stock).2 }
  | .record request => StockRecords.exec db request

/-- A first sale is made under a trimmed number; stock records are created once for a
goods, with counters that add up within their columns; and an adjustment leaves locked
what is reserved. -/
def Careful (db : StockDB) : Call → Prop
  | .stock (.sell ordersn details) => (sell ordersn details db.stock).1 = .ok () →
    (∀ row ∈ db.stock.stockSellDetail, row.orderSn ≠ trimSpace ordersn) →
      trimSpace ordersn = ordersn
  | .stock _ => True
  | .record (.setInv info) => (setInv info db).1 = .ok () →
    (∀ row ∈ db.stock.inventory, row.goods ≠ info.goodsId.toInt) ∧ demand info.dto < 2 ^ 31
  | .record (.setStock info) => (setStock info db).1 = .ok () →
    reservedUnits info.goodsId.toInt db.stock ≤ info.locked.toInt ∧ demand info.dto < 2 ^ 31

instance (db : StockDB) (call : Call) : Decidable (Careful db call) :=
  match call with
  | .stock (.sell ordersn details) => inferInstanceAs (Decidable
      ((sell ordersn details db.stock).1 = .ok () →
        (∀ row ∈ db.stock.stockSellDetail, row.orderSn ≠ trimSpace ordersn) →
          trimSpace ordersn = ordersn))
  | .stock (.confirm _ _) => inferInstanceAs (Decidable True)
  | .stock (.reback _ _) => inferInstanceAs (Decidable True)
  | .stock (.release _ _) => inferInstanceAs (Decidable True)
  | .record (.setInv info) => inferInstanceAs (Decidable ((setInv info db).1 = .ok () →
      (∀ row ∈ db.stock.inventory, row.goods ≠ info.goodsId.toInt) ∧ demand info.dto < 2 ^ 31))
  | .record (.setStock info) => inferInstanceAs (Decidable ((setStock info db).1 = .ok () →
      reservedUnits info.goodsId.toInt db.stock ≤ info.locked.toInt ∧
        demand info.dto < 2 ^ 31))

structure Backed (orders : List StockSellDetailDO) (row : InventoryDO) : Prop where
  stocks : row.stocks = row.available
  available : 0 ≤ row.available
  sold : 0 ≤ row.sold
  locked : held stockSellStatusReserved row.goods orders ≤ row.locked
  fits : row.available + row.locked + row.sold ≤ 2147483647

structure Recorded (goods : List Int) (order : StockSellDetailDO) : Prop where
  known : knownStatus order.status
  number : order.status = stockSellStatusReserved →
    trimSpace order.orderSn = order.orderSn ∧ order.orderSn ≠ ""
  nonempty : order.status = stockSellStatusReserved → order.detail ≠ []
  items : order.status = stockSellStatusReserved →
    ∀ item ∈ order.detail, 0 < item.goods ∧ 0 < item.num ∧ item.goods ∈ goods

structure Books (db : InventoryDB) : Prop where
  oneRow : OneRowPerGoods db
  ids : (db.inventory.map (·.id)).Nodup
  rows : ∀ row ∈ db.inventory, Backed db.stockSellDetail row
  unique : (db.stockSellDetail.map (·.orderSn)).Nodup
  orders : ∀ order ∈ db.stockSellDetail, Recorded (db.inventory.map (·.goods)) order

section Settle

variable {db db' : InventoryDB} {orders orders' : List StockSellDetailDO}
  {order : StockSellDetailDO} {goods : List Int}

theorem Recorded.units_nonneg (recorded : Recorded goods order)
    (hreserved : order.status = stockSellStatusReserved) (wanted : Int) :
    0 ≤ units wanted order.detail :=
  Steps.units_nonneg wanted fun item hitem => (recorded.items hreserved item hitem).2.1

theorem exists_order_of_units {status wanted amount : Int}
    (h : amount ∈ (orders.filter (·.status = status)).map fun row => units wanted row.detail) :
    ∃ other ∈ orders, other.status = status ∧ units wanted other.detail = amount := by
  obtain ⟨other, hother, hunits⟩ := List.mem_map.mp h
  have hfilter := List.mem_filter.mp hother
  exact ⟨other, hfilter.1, of_decide_eq_true hfilter.2, hunits⟩

theorem units_le_held (hall : ∀ other ∈ orders, Recorded goods other) (horder : order ∈ orders)
    (hreserved : order.status = stockSellStatusReserved) (wanted : Int) :
    units wanted order.detail ≤ held stockSellStatusReserved wanted orders := by
  apply List.single_le_sum
  · intro amount hamount
    obtain ⟨other, hother, hstatus, rfl⟩ := exists_order_of_units hamount
    exact (hall other hother).units_nonneg hstatus wanted
  · exact List.mem_map.mpr
      ⟨order, List.mem_filter.mpr ⟨horder, decide_eq_true hreserved⟩, rfl⟩

theorem held_unknown (hall : ∀ other ∈ orders, Recorded goods other) {wanted : Int}
    (hwanted : wanted ∉ goods) : held stockSellStatusReserved wanted orders = 0 := by
  apply List.sum_eq_zero
  intro amount hamount
  obtain ⟨other, hother, hstatus, rfl⟩ := exists_order_of_units hamount
  apply units_eq_zero
  intro item hitem hgoods
  exact hwanted (hgoods ▸ ((hall other hother).items hstatus item hitem).2.2)

theorem Books.settle_total {operation : String} {shift : Int → InventoryDO → InventoryDO}
    {missing : AppError} {status : Int} (books : Books db) (horder : order ∈ db.stockSellDetail)
    (hreserved : order.status = stockSellStatusReserved) (law : LawfulShift (·.locked) shift)
    (hfits : ∀ row ∈ db.inventory, ∀ num, 0 ≤ num → num ≤ row.locked → Stored (shift num row))
    (hstatus : 0 < status) (hother : stockSellStatusReserved ≠ status) :
    settle (moveStock operation (·.locked) shift missing) status order.orderSn order db =
      .ok ((), ⟨shiftAll shift (sortByGoods order.detail) db.inventory,
        setStatus order.orderSn status db.stockSellDetail⟩) := by
  have recorded := books.orders order horder
  have hitems : ∀ item ∈ sortByGoods order.detail, 0 < item.goods ∧ 0 < item.num ∧
      item.goods ∈ db.inventory.map (·.goods) := fun item hitem =>
    recorded.items hreserved item (sortByGoods_mem.mp hitem)
  have hlocked : ∀ row ∈ db.inventory, units row.goods (sortByGoods order.detail) ≤ row.locked := by
    intro row hrow
    rw [units_sortByGoods]
    exact (units_le_held books.orders horder hreserved row.goods).trans
      (books.rows row hrow).locked
  obtain ⟨htrim, hne⟩ := recorded.number hreserved
  refine settle_run hne htrim (recorded.nonempty hreserved) hstatus
    (moveAll_total law books.oneRow ?_ ?_ ?_ ?_) ?_
  · exact fun item hitem => ⟨(hitems item hitem).1.ne', (hitems item hitem).2.1⟩
  · exact fun item hitem => (hitems item hitem).2.2
  · exact fun row hrow _ => hlocked row hrow
  · exact fun row hrow num hnum hle => hfits row hrow num hnum (hle.trans (hlocked row hrow))
  · exact ⟨order, horder, rfl, hreserved ▸ hother⟩

theorem Backed.stored_return {row : InventoryDO} {num : Int} (backed : Backed orders row)
    (hnum : 0 ≤ num) (hle : num ≤ row.locked) : Stored (returnUnits num row) := by
  obtain ⟨hstocks, havailable, hsold, -, hfits⟩ := backed
  simp only [Stored, returnUnits, Sql.FitsInt]
  omega

theorem Backed.stored_sell {row : InventoryDO} {num : Int} (backed : Backed orders row)
    (hnum : 0 ≤ num) (hle : num ≤ row.locked) : Stored (sellUnits num row) := by
  obtain ⟨hstocks, havailable, hsold, -, hfits⟩ := backed
  simp only [Stored, sellUnits, Sql.FitsInt]
  omega

theorem Books.get (books : Books db) (horder : order ∈ db.stockSellDetail)
    (hreserved : order.status = stockSellStatusReserved) :
    getSellDetail db order.orderSn = .ok order := by
  obtain ⟨htrim, hne⟩ := (books.orders order horder).number hreserved
  exact getSellDetail_known hne htrim (Table.find_of_mem books.unique horder)

theorem Books.sellStatus_settled {status : Int} (books : Books db)
    (horder : order ∈ db.stockSellDetail)
    (hdetails : db'.stockSellDetail = setStatus order.orderSn status db.stockSellDetail) :
    sellStatus db' order.orderSn = some status := by
  rw [sellStatus_setStatus hdetails, if_pos rfl, sellStatus,
    Table.find_of_mem books.unique horder]
  rfl

theorem Books.confirm_ok {details : List GoodsDetail} (books : Books db)
    (horder : order ∈ db.stockSellDetail) (hreserved : order.status = stockSellStatusReserved)
    (hvalid : validateStockOperation order.orderSn details = .ok ()) :
    confirm order.orderSn details db =
      (.ok (), ⟨shiftAll sellUnits (sortByGoods order.detail) db.inventory,
        setStatus order.orderSn stockSellStatusConfirmed db.stockSellDetail⟩) := by
  have hbody : confirmBody order.orderSn db =
      .ok ((), ⟨shiftAll sellUnits (sortByGoods order.detail) db.inventory,
        setStatus order.orderSn stockSellStatusConfirmed db.stockSellDetail⟩) := by
    simp only [confirmBody, Txn.read_bind, books.get horder hreserved, hreserved,
      if_neg reserved_ne_released, if_neg reserved_ne_confirmed]
    exact books.settle_total horder hreserved lawful_sellUnits
      (fun row hrow num => (books.rows row hrow).stored_sell) (by decide) reserved_ne_confirmed
  simp only [confirm, stockOperation, hvalid, Txn.commit_of_ok hbody]

theorem Books.release_ok {details : List GoodsDetail} (books : Books db)
    (horder : order ∈ db.stockSellDetail) (hreserved : order.status = stockSellStatusReserved)
    (hvalid : validateStockOperation order.orderSn details = .ok ()) :
    release order.orderSn details db =
      (.ok (), ⟨shiftAll returnUnits (sortByGoods order.detail) db.inventory,
        setStatus order.orderSn stockSellStatusReleased db.stockSellDetail⟩) := by
  have hbody : rebackBody order.orderSn details db =
      .ok ((), ⟨shiftAll returnUnits (sortByGoods order.detail) db.inventory,
        setStatus order.orderSn stockSellStatusReleased db.stockSellDetail⟩) := by
    simp only [rebackBody, Txn.read_bind, books.get horder hreserved, hreserved,
      if_neg reserved_ne_released, if_neg reserved_ne_confirmed]
    exact books.settle_total horder hreserved lawful_returnUnits
      (fun row hrow num => (books.rows row hrow).stored_return) (by decide) reserved_ne_released
  simp only [release, reback, stockOperation, hvalid, Txn.commit_of_ok hbody]

theorem Books.settleable (books : Books db) : Settleable db where
  locked := fun row hrow => (books.rows row hrow).locked
  confirmed := by
    intro order horder hreserved details hvalid
    rw [books.confirm_ok horder hreserved hvalid]
    exact ⟨rfl, books.sellStatus_settled horder rfl⟩
  released := by
    intro order horder hreserved details hvalid
    rw [books.release_ok horder hreserved hvalid]
    exact ⟨rfl, books.sellStatus_settled horder rfl⟩

end Settle

section Orders

variable {db db' : InventoryDB} {ordersn : String} {details : List GoodsDetail}

theorem shiftAll_ids {shift : Int → InventoryDO → InventoryDO}
    (hid : ∀ num row, (shift num row).id = row.id) (detail : List GoodsDetail)
    (rows : List InventoryDO) : (shiftAll shift detail rows).map (·.id) = rows.map (·.id) := by
  simp [shiftAll, hid, Function.comp_def]

theorem Books.reservation (books : Books db)
    (hvalid : validateStockOperation ordersn details = .ok ())
    (htrim : trimSpace ordersn = ordersn)
    (reservation : Reservation ordersn (sortByGoods details) db db') : Books db' := by
  obtain ⟨hne, hnonempty, hitems⟩ := validateStockOperation_ok hvalid
  obtain ⟨-, hfresh, hholds, hknown, -, rfl⟩ := reservation
  have hid : ∀ num row, (reserveUnits num row).id = row.id := fun _ _ => rfl
  refine ⟨shiftAll_oneRow lawful_reserveUnits _ books.oneRow, ?_, ?_,
    Table.nodup_snoc books.unique hfresh, ?_⟩
  · rw [shiftAll_ids hid]
    exact books.ids
  · intro row hrow
    obtain ⟨before, hbefore, rfl⟩ := List.mem_map.mp hrow
    obtain ⟨hstocks, havailable, hsold, hlocked, hfits⟩ := books.rows before hbefore
    obtain ⟨hnonneg, henough⟩ := hholds before hbefore
    have htaken : units before.goods (sortByGoods details) ≤ before.available :=
      henough havailable
    refine ⟨?_, ?_, ?_, ?_, ?_⟩ <;>
      simp only [reserveUnits, held_snoc, if_true] <;> omega
  · intro order horder
    rw [shiftAll_goods lawful_reserveUnits]
    rcases List.mem_append.mp horder with hold | hnew
    · exact books.orders order hold
    · rw [List.mem_singleton.mp hnew]
      refine ⟨.inl rfl, fun _ => ⟨htrim, htrim ▸ hne⟩, fun _ => sortByGoods_ne_nil hnonempty,
        fun _ item hitem => ?_⟩
      obtain ⟨hgoods, hnum⟩ := hitems item (sortByGoods_mem.mp hitem)
      exact ⟨hgoods, hnum, hknown item hitem⟩

theorem Books.settled {shift : Int → InventoryDO → InventoryDO} {status : Int}
    {order : StockSellDetailDO} (books : Books db) (law : LawfulShift (·.locked) shift)
    (hid : ∀ num row, (shift num row).id = row.id)
    (hbacked : ∀ orders orders' num row, Backed orders row → 0 ≤ num →
      held stockSellStatusReserved row.goods orders' =
        held stockSellStatusReserved row.goods orders - num → Backed orders' (shift num row))
    (hstatus : knownStatus status) (hother : status ≠ stockSellStatusReserved)
    (hget : getSellDetail db ordersn = .ok order)
    (hreserved : order.status = stockSellStatusReserved) :
    Books ⟨shiftAll shift order.detail db.inventory,
      setStatus (trimSpace ordersn) status db.stockSellDetail⟩ := by
  have hfind := getSellDetail_ok hget
  have recorded := books.orders order (List.mem_of_find?_eq_some hfind)
  refine ⟨shiftAll_oneRow law _ books.oneRow, ?_, ?_, ?_, ?_⟩
  · rw [shiftAll_ids hid]
    exact books.ids
  · intro row hrow
    obtain ⟨before, hbefore, rfl⟩ := List.mem_map.mp hrow
    refine hbacked _ _ _ _ (books.rows before hbefore)
      (recorded.units_nonneg hreserved before.goods) ?_
    rw [held_setStatus _ _ _ books.unique hfind, if_pos hreserved, if_neg hother, add_zero]
  · rw [setStatus_orderSn]
    exact books.unique
  · rw [shiftAll_goods law]
    refine Table.modify_forall books.orders fun row _ _ _ => ?_
    exact ⟨hstatus, fun h => absurd h hother, fun h => absurd h hother,
      fun h => absurd h hother⟩

theorem Backed.returned (orders orders' : List StockSellDetailDO) (num : Int)
    (row : InventoryDO) (backed : Backed orders row) (hnum : 0 ≤ num)
    (hheld : held stockSellStatusReserved row.goods orders' =
      held stockSellStatusReserved row.goods orders - num) :
    Backed orders' (returnUnits num row) := by
  obtain ⟨hstocks, havailable, hsold, hlocked, hfits⟩ := backed
  refine ⟨?_, ?_, ?_, ?_, ?_⟩ <;> simp only [returnUnits] <;> omega

theorem Backed.confirmed (orders orders' : List StockSellDetailDO) (num : Int)
    (row : InventoryDO) (backed : Backed orders row) (hnum : 0 ≤ num)
    (hheld : held stockSellStatusReserved row.goods orders' =
      held stockSellStatusReserved row.goods orders - num) :
    Backed orders' (sellUnits num row) := by
  obtain ⟨hstocks, havailable, hsold, hlocked, hfits⟩ := backed
  refine ⟨?_, ?_, ?_, ?_, ?_⟩ <;> simp only [sellUnits] <;> omega

theorem Books.marked (books : Books db)
    (hfresh : ∀ other ∈ db.stockSellDetail, other.orderSn ≠ ordersn) :
    Books { db with stockSellDetail := db.stockSellDetail ++
      [⟨ordersn, stockSellStatusReleased, details⟩] } := by
  have hother : stockSellStatusReleased ≠ stockSellStatusReserved := reserved_ne_released.symm
  refine ⟨books.oneRow, books.ids, fun row hrow => ?_, Table.nodup_snoc books.unique hfresh, ?_⟩
  · obtain ⟨hstocks, havailable, hsold, hlocked, hfits⟩ := books.rows row hrow
    refine ⟨hstocks, havailable, hsold, ?_, hfits⟩
    rw [held_snoc, if_neg hother, add_zero]
    exact hlocked
  · intro order horder
    rcases List.mem_append.mp horder with hold | hnew
    · exact books.orders order hold
    · rw [List.mem_singleton.mp hnew]
      exact ⟨.inr (.inl rfl), fun h => absurd h hother, fun h => absurd h hother,
        fun h => absurd h hother⟩

theorem Books.reserved (books : Books db) {order : StockSellDetailDO}
    (hget : getSellDetail db ordersn = .ok order)
    (hreleased : order.status ≠ stockSellStatusReleased)
    (hconfirmed : order.status ≠ stockSellStatusConfirmed) :
    order.status = stockSellStatusReserved := by
  have horder := List.mem_of_find?_eq_some (getSellDetail_ok hget)
  rcases (books.orders order horder).known with h | h | h
  · exact h
  · exact absurd h hreleased
  · exact absurd h hconfirmed

theorem Books.confirm (books : Books db) : Books (confirm ordersn details db).2 := by
  unfold Model.confirm
  rcases stockOperation_cases (confirmBody ordersn) ordersn details db with
    ⟨err, h⟩ | ⟨db', -, hrun, h⟩
  · rw [h]
    exact books
  · rw [h]
    rcases confirmBody_ok books.oneRow hrun with
      ⟨order, -, -, rfl⟩ | ⟨order, hget, hreleased, hconfirmed, -, rfl⟩
    · exact books
    · exact books.settled lawful_sellUnits (fun _ _ => rfl) Backed.confirmed (.inr (.inr rfl))
        reserved_ne_confirmed.symm hget (books.reserved hget hreleased hconfirmed)

theorem Books.reback (books : Books db) : Books (reback ordersn details db).2 := by
  unfold Model.reback
  rcases stockOperation_cases (rebackBody ordersn details) ordersn details db with
    ⟨err, h⟩ | ⟨db', -, hrun, h⟩
  · rw [h]
    exact books
  · rw [h]
    rcases rebackBody_ok books.oneRow hrun with
      ⟨order, -, -, rfl⟩ | ⟨order, hget, hreleased, hconfirmed, -, rfl⟩ |
      ⟨-, ⟨-, rfl⟩ | ⟨hfresh, rfl⟩⟩
    · exact books
    · exact books.settled lawful_returnUnits (fun _ _ => rfl) Backed.returned (.inr (.inl rfl))
        reserved_ne_released.symm hget (books.reserved hget hreleased hconfirmed)
    · exact books
    · exact books.marked hfresh

theorem Books.sellBody_recorded {order : StockSellDetailDO} (books : Books db)
    (hget : getSellDetail db ordersn = .ok order)
    (hrun : sellBody ordersn details db = .ok ((), db')) : db' = db := by
  have horder := List.mem_of_find?_eq_some (getSellDetail_ok hget)
  simp only [sellBody, Txn.read_bind, hget] at hrun
  split at hrun
  · cases Txn.pure_ok.mp hrun
    rfl
  · rename_i hreserved
    rw [if_pos ((books.orders order horder).known.resolve_left hreserved)] at hrun
    cases Txn.pure_ok.mp hrun
    rfl

theorem Books.sell (books : Books db)
    (hnumber : (sell ordersn details db).1 = .ok () →
      (∀ row ∈ db.stockSellDetail, row.orderSn ≠ trimSpace ordersn) →
        trimSpace ordersn = ordersn) : Books (sell ordersn details db).2 := by
  unfold Model.sell at hnumber ⊢
  rcases stockOperation_cases (sellBody ordersn (sortByGoods details)) ordersn details db with
    ⟨err, h⟩ | ⟨db', hvalid, hrun, h⟩
  · rw [h]
    exact books
  · rw [h] at hnumber ⊢
    obtain ⟨hne, -, -⟩ := validateStockOperation_ok hvalid
    by_cases hmissing : ∀ row ∈ db.stockSellDetail, row.orderSn ≠ trimSpace ordersn
    · rcases sellBody_ok books.oneRow hrun with ⟨order, -, rfl⟩ | reservation
      · exact books
      · exact books.reservation hvalid (hnumber rfl hmissing) reservation
    · simp only [not_forall, not_not] at hmissing
      obtain ⟨order, horder, hsn⟩ := hmissing
      have hfind := Table.find_of_mem books.unique horder
      rw [hsn] at hfind
      have hget : getSellDetail db ordersn = .ok order := by
        simp only [getSellDetail, if_neg hne, hfind]
      rw [books.sellBody_recorded hget hrun]
      exact books

end Orders

section Records

variable {db : StockDB} {info : GoodsInvInfo} {inv inv' : InventoryDTO}

theorem normalizeInventory_locked (h : normalizeInventory inv = .ok inv') :
    inv'.locked = inv.locked := by
  obtain ⟨-, hnegative, -, rfl⟩ := normalizeInventory_ok.mp h
  obtain ⟨-, -, havailable, hlocked, hsold⟩ := not_negative_iff.mp hnegative
  rcases completed_cases hnegative with ⟨-, hzero, hc⟩ | ⟨-, -, hc⟩ | ⟨-, hc⟩
  · rw [hc]
    unfold demand at hzero
    exact (eq_zero_of_toInt (by omega)).symm
  · rw [hc]
  · rw [hc]

theorem Sound.counters (sound : Sound inv) :
    0 ≤ inv.available.toInt ∧ 0 ≤ inv.locked.toInt ∧ 0 ≤ inv.sold.toInt ∧
      inv.available.toInt + inv.locked.toInt + inv.sold.toInt ≤ 2147483647 := by
  have htotal := inv.total.toInt_lt
  have hcovered := sound.covered
  unfold demand at hcovered
  refine ⟨(nonneg_iff _).mp sound.available, (nonneg_iff _).mp sound.locked,
    (nonneg_iff _).mp sound.sold, ?_⟩
  omega

theorem Books.inserted (books : Books db.stock) (sound : Sound inv)
    (hfresh : ∀ row ∈ db.stock.inventory, row.goods ≠ inv.goods.toInt) :
    Books { db.stock with inventory := insertRow inv db.stock.inventory } := by
  obtain ⟨havailable, hlocked, hsold, hfits⟩ := Sound.counters sound
  have hunknown : inv.goods.toInt ∉ db.stock.inventory.map (·.goods) := by
    simpa using hfresh
  refine ⟨?_, ?_, ?_, books.unique, ?_⟩
  · exact @Table.nodup_snoc InventoryDO Int (·.goods) _ books.oneRow (inventoryRow _ inv) hfresh
  · refine @Table.nodup_snoc InventoryDO Int (·.id) _ books.ids (inventoryRow _ inv)
      fun row hrow => ?_
    exact (Sql.lt_nextId (List.mem_map_of_mem hrow)).ne
  · intro row hrow
    rcases List.mem_append.mp hrow with hold | hnew
    · exact books.rows row hold
    · rw [List.mem_singleton.mp hnew]
      refine ⟨congrArg Int32.toInt sound.stocks, havailable, hsold, ?_, hfits⟩
      exact (held_unknown books.orders hunknown).trans_le hlocked
  · intro order horder
    obtain ⟨hknown, hnumber, hnonempty, hitems⟩ := books.orders order horder
    refine ⟨hknown, hnumber, hnonempty, fun hreserved item hitem => ?_⟩
    obtain ⟨hgoods, hnum, hmem⟩ := hitems hreserved item hitem
    exact ⟨hgoods, hnum, by simp [insertRow, hmem]⟩

/-- The step lemma for an adjustment: it may write any counters that leave the reserved
units locked. -/
theorem Books.adjusted (books : Books db.stock) (sound : Sound inv)
    (hreserved : reservedUnits inv.goods.toInt db.stock ≤ inv.locked.toInt) :
    Books { db.stock with inventory := adjusted inv db.stock.inventory } := by
  unfold StockRecords.adjusted
  cases hfind : db.stock.inventory.find? (·.goods = inv.goods.toInt) with
  | none => exact books.inserted sound (by simpa using hfind)
  | some current =>
    have hcurrent := List.mem_of_find?_eq_some hfind
    have hgoods : current.goods = inv.goods.toInt := by simpa using List.find?_some hfind
    obtain ⟨havailable, hlocked, hsold, hfits⟩ := Sound.counters sound
    refine ⟨?_, ?_, ?_, books.unique, ?_⟩
    · unfold OneRowPerGoods
      rw [modify_writeCounters_goods]
      exact books.oneRow
    · have hid : ∀ row, (writeCounters inv row).id = row.id := fun _ => rfl
      have hids := @Table.modify_keys _ _ _ _ current.id _ db.stock.inventory hid
      exact hids ▸ books.ids
    · refine Table.modify_forall books.rows fun row hrow hid _ => ?_
      have hsame := List.inj_on_of_nodup_map books.ids hrow hcurrent hid
      subst hsame
      exact ⟨rfl, havailable, hsold, hgoods ▸ hreserved, hfits⟩
    · rw [modify_writeCounters_goods]
      exact books.orders

end Records

theorem exec_stock (db : StockDB) (call : StockCall) :
    (exec db (.stock call)).stock = (call.operation db.stock).2 := rfl

theorem Books.exec {db : StockDB} (books : Books db.stock) (call : Call)
    (careful : Careful db call) : Books (exec db call).stock := by
  cases call with
  | stock call =>
    rw [exec_stock]
    cases call with
    | sell ordersn details => exact books.sell careful
    | confirm ordersn details => exact books.confirm
    | reback ordersn details | release ordersn details =>
      rw [StockCall.operation]
      exact books.reback
  | record request =>
    cases request with
    | setInv info =>
      simp only [Settleability.exec, StockRecords.exec]
      rcases setInv_cases info db with ⟨err, h⟩ | ⟨inv, hinv, h⟩
      · rw [h]
        exact books
      · obtain ⟨hfresh, hfits⟩ := careful (by rw [h])
        rw [h]
        apply books.inserted (sound_of_fits hinv hfits)
        rw [normalizeInventory_goods hinv]
        exact hfresh
    | setStock info =>
      simp only [Settleability.exec, StockRecords.exec]
      rcases setStock_cases info db with ⟨err, h⟩ | ⟨inv, hinv, hok, h⟩
      · rw [h]
        exact books
      · obtain ⟨hreserved, hfits⟩ := careful hok
        rw [h]
        apply books.adjusted (sound_of_fits hinv hfits)
        rw [normalizeInventory_goods hinv, normalizeInventory_locked hinv]
        exact hreserved

/-- In every run that is careful, every reserved order can be confirmed and can be
released, in every state. -/
theorem reservations_settleable {start : StockDB} (hempty : start.stock = ⟨[], []⟩)
    (calls : List Call) (careful : Along exec Careful start calls) :
    ∀ done, done <+: calls → Settleable (run exec start done).stock := by
  rintro done ⟨rest, rfl⟩
  have hstart : Books start.stock := by
    rw [hempty]
    exact ⟨by simp [OneRowPerGoods], by simp, by simp, by simp, by simp⟩
  have hbooks : Books (run exec start done).stock :=
    @Along.invariant _ _ exec Careful start (fun db => Books db.stock) done
      (fun db call books hcareful => books.exec call hcareful) hstart (along_append.mp careful).1
  exact hbooks.settleable

def adjustedToNine : GoodsInvInfo where
  goodsId := 7
  num := 9
  actorUserId := 1
  correlationId := "c1"
  reason := "count"

/-- The adjustment is accepted, and order A can be neither confirmed nor released. -/
theorem adjustment_strands_reservation :
    let db := run exec noRecords
      [.record (.setInv { goodsId := 7, num := 5 }), .stock (.sell "A" [⟨7, 3⟩])]
    let after := (exec db (.record (.setStock adjustedToNine))).stock
    (setStock adjustedToNine db).1 = .ok () ∧ reservedUnits 7 after = 3 ∧
      after.inventory.map (·.locked) = [0] ∧
      (confirm "A" [⟨7, 3⟩] after).1 = .error (newCode .errInventoryNotFound "inventory not found") ∧
      (release "A" [⟨7, 3⟩] after).1 =
        .error (newCode .errInventoryNotFound "inventory not found") := by
  decide +kernel

/-- With the three units locked in the request, the order stays settleable. -/
theorem reservations_settleable_adjusted :
    let calls : List Call :=
      [.record (.setInv { goodsId := 7, num := 5 }), .stock (.sell "A" [⟨7, 3⟩]),
        .record (.setStock { adjustedToNine with available := 6, locked := 3 })]
    (run exec noRecords calls).stock.inventory.map (fun row => (row.available, row.locked)) =
        [(6, 3)] ∧
      ∀ done, done <+: calls → Settleable (run exec noRecords done).stock :=
  ⟨by decide +kernel, reservations_settleable rfl _ (by decide +kernel)⟩

end Goshop.Inventory.Settleability
