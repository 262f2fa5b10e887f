import Goshop.Inventory.Steps
import Goshop.Lib.Run

/-! The inventory table is a ledger: at any time each row is its opening row
with the stock of the open and of the confirmed orders booked on it. Every run
of the four operations keeps the table in that form. -/
namespace Goshop.Inventory.Ledger

open Goshop.Errors Goshop.Lib Goshop.Lib.Transaction Goshop.Lib.Run
open Goshop.Inventory.Model Goshop.Inventory.Steps

def held (status goods : Int) (rows : List StockSellDetailDO) : Int :=
  ((rows.filter (·.status = status)).map fun row => units goods row.detail).sum

@[simp] theorem held_nil (status goods : Int) : held status goods [] = 0 := rfl

theorem held_cons (status goods : Int) (row : StockSellDetailDO) (rest : List StockSellDetailDO) :
    held status goods (row :: rest) =
      (if row.status = status then units goods row.detail else 0) + held status goods rest := by
  by_cases h : row.status = status <;> simp [held, h]

theorem held_snoc (status goods : Int) (rows : List StockSellDetailDO) (row : StockSellDetailDO) :
    held status goods (rows ++ [row]) =
      held status goods rows + if row.status = status then units goods row.detail else 0 := by
  by_cases h : row.status = status <;> simp [held, h]

theorem held_eq_sum (status goods : Int) (rows : List StockSellDetailDO) :
    held status goods rows =
      (rows.map fun row => if row.status = status then units goods row.detail else 0).sum := by
  induction rows with
  | nil => rfl
  | cons row rest ih => rw [held_cons, ih, List.map_cons, List.sum_cons]

theorem held_setStatus {ordersn : String} {rows : List StockSellDetailDO}
    {order : StockSellDetailDO} (newStatus status goods : Int)
    (hunique : (rows.map (·.orderSn)).Nodup)
    (hfind : rows.find? (·.orderSn = ordersn) = some order) :
    held status goods (setStatus ordersn newStatus rows) =
      held status goods rows - (if order.status = status then units goods order.detail else 0) +
        if newStatus = status then units goods order.detail else 0 := by
  have hsn : order.orderSn = ordersn := by simpa using List.find?_some hfind
  subst hsn
  rw [held_eq_sum, held_eq_sum]
  exact Table.sum_modify _ _ hunique (List.mem_of_find?_eq_some hfind)

def booked (rows : List StockSellDetailDO) (opening : InventoryDO) : InventoryDO :=
  let reserved := held stockSellStatusReserved opening.goods rows
  let confirmed := held stockSellStatusConfirmed opening.goods rows
  { opening with
    stocks := opening.stocks - reserved - confirmed
    available := opening.available - reserved - confirmed
    locked := opening.locked + reserved
    sold := opening.sold + confirmed }

def Covered (row : InventoryDO) : Prop :=
  0 ≤ row.available ∧ 0 ≤ row.locked ∧ 0 ≤ row.sold

instance (row : InventoryDO) : Decidable (Covered row) :=
  inferInstanceAs (Decidable (_ ∧ _))

/-- A table to open the books with: one row per goods, nothing negative, nothing
recorded for any order. -/
structure Opening (start : InventoryDB) : Prop where
  oneRow : OneRowPerGoods start
  stocks : ∀ row ∈ start.inventory, row.stocks = row.available
  covered : ∀ row ∈ start.inventory, Covered row
  noOrders : start.stockSellDetail = []

def knownStatus (status : Int) : Prop :=
  status = stockSellStatusReserved ∨ status = stockSellStatusReleased ∨
    status = stockSellStatusConfirmed

structure Kept (start db : InventoryDB) : Prop where
  inventory : db.inventory = start.inventory.map (booked db.stockSellDetail)
  covered : ∀ row ∈ db.inventory, Covered row
  unique : (db.stockSellDetail.map (·.orderSn)).Nodup
  known : ∀ row ∈ db.stockSellDetail, knownStatus row.status

section Bookings

variable {rows rows' : List StockSellDetailDO} {detail : List GoodsDetail} {goods : Int}

theorem reserveUnits_booked {opening : InventoryDO} {num : Int}
    (hreserved : held stockSellStatusReserved opening.goods rows' =
      held stockSellStatusReserved opening.goods rows + num)
    (hconfirmed : held stockSellStatusConfirmed opening.goods rows' =
      held stockSellStatusConfirmed opening.goods rows) :
    reserveUnits num (booked rows opening) = booked rows' opening := by
  simp only [reserveUnits, booked, hreserved, hconfirmed, InventoryDO.mk.injEq, true_and, and_true]
  omega

theorem returnUnits_booked {opening : InventoryDO} {num : Int}
    (hreserved : held stockSellStatusReserved opening.goods rows' =
      held stockSellStatusReserved opening.goods rows - num)
    (hconfirmed : held stockSellStatusConfirmed opening.goods rows' =
      held stockSellStatusConfirmed opening.goods rows) :
    returnUnits num (booked rows opening) = booked rows' opening := by
  simp only [returnUnits, booked, hreserved, hconfirmed, InventoryDO.mk.injEq, true_and, and_true]
  omega

theorem sellUnits_booked {opening : InventoryDO} {num : Int}
    (hreserved : held stockSellStatusReserved opening.goods rows' =
      held stockSellStatusReserved opening.goods rows - num)
    (hconfirmed : held stockSellStatusConfirmed opening.goods rows' =
      held stockSellStatusConfirmed opening.goods rows + num) :
    sellUnits num (booked rows opening) = booked rows' opening := by
  simp only [sellUnits, booked, hreserved, hconfirmed, InventoryDO.mk.injEq, true_and]
  omega

theorem shiftAll_booked {shift : Int → InventoryDO → InventoryDO} {start : List InventoryDO}
    (h : ∀ opening, shift (units opening.goods detail) (booked rows opening) =
      booked rows' opening) :
    shiftAll shift detail (start.map (booked rows)) = start.map (booked rows') := by
  unfold shiftAll
  rw [List.map_map]
  exact List.map_congr_left fun opening _ => h opening

theorem covered_shiftAll {source : InventoryDO → Int} {shift : Int → InventoryDO → InventoryDO}
    {start : List InventoryDO}
    (hshift : ∀ num row, 0 ≤ num → (0 ≤ source row → num ≤ source row) → Covered row →
      Covered (shift num row))
    (hholds : Holds source detail start) (hcovered : ∀ row ∈ start, Covered row) :
    ∀ row ∈ shiftAll shift detail start, Covered row := by
  intro row hrow
  obtain ⟨before, hbefore, rfl⟩ := List.mem_map.mp hrow
  obtain ⟨hnonneg, henough⟩ := hholds before hbefore
  exact hshift _ before hnonneg henough (hcovered before hbefore)

end Bookings

section Operations

variable {start db db' : InventoryDB} {ordersn : String} {details : List GoodsDetail}

theorem setStatus_orderSn (status : Int) (rows : List StockSellDetailDO) :
    (setStatus ordersn status rows).map (·.orderSn) = rows.map (·.orderSn) :=
  Table.modify_keys fun _ => rfl

theorem setStatus_known {status : Int} {rows : List StockSellDetailDO}
    (hstatus : knownStatus status) (h : ∀ row ∈ rows, knownStatus row.status) :
    ∀ row ∈ setStatus ordersn status rows, knownStatus row.status :=
  Table.modify_forall h fun _ _ _ _ => hstatus

theorem Kept.reserved (kept : Kept start db) {row : StockSellDetailDO}
    (hrow : getSellDetail db ordersn = .ok row) (hreleased : row.status ≠ stockSellStatusReleased)
    (hconfirmed : row.status ≠ stockSellStatusConfirmed) :
    row.status = stockSellStatusReserved := by
  rcases kept.known row (List.mem_of_find?_eq_some (getSellDetail_ok hrow)) with h | h | h
  · exact h
  · exact absurd h hreleased
  · exact absurd h hconfirmed

theorem known_snoc {rows : List StockSellDetailDO} {row : StockSellDetailDO}
    (h : ∀ other ∈ rows, knownStatus other.status) (hrow : knownStatus row.status) :
    ∀ other ∈ rows ++ [row], knownStatus other.status := by
  intro other hother
  rcases List.mem_append.mp hother with hother | hother
  · exact h other hother
  · rw [List.mem_singleton.mp hother]
    exact hrow

theorem Kept.oneRow (opening : Opening start) (kept : Kept start db) : OneRowPerGoods db := by
  have hgoods : db.inventory.map (·.goods) = start.inventory.map (·.goods) := by
    rw [kept.inventory, List.map_map]
    rfl
  unfold OneRowPerGoods
  rw [hgoods]
  exact opening.oneRow

theorem Opening.kept (opening : Opening start) : Kept start start where
  inventory := by
    have hsame : ∀ row ∈ start.inventory, booked start.stockSellDetail row = row := by
      intro row _
      simp [booked, opening.noOrders]
    rw [List.map_congr_left hsame, List.map_id']
  covered := opening.covered
  unique := by simp [opening.noOrders]
  known := by simp [opening.noOrders]

theorem Kept.sellBody (opening : Opening start) (kept : Kept start db)
    (h : sellBody ordersn (sortByGoods details) db = .ok ((), db')) : Kept start db' := by
  rcases sellBody_ok (kept.oneRow opening) h with
    ⟨row, -, rfl⟩ | ⟨-, hfresh, hholds, -, -, rfl⟩
  · exact kept
  · refine ⟨?_, ?_, Table.nodup_snoc kept.unique hfresh, known_snoc kept.known (.inl rfl)⟩
    · rw [kept.inventory]
      apply shiftAll_booked
      intro row
      apply reserveUnits_booked
      · rw [held_snoc, if_pos rfl]
      · rw [held_snoc, if_neg reserved_ne_confirmed, add_zero]
    · refine covered_shiftAll ?_ hholds kept.covered
      intro num row hnum henough hcovered
      simp only [Covered, reserveUnits] at hcovered ⊢
      have := henough hcovered.1
      omega

theorem Kept.rebackBody (opening : Opening start) (kept : Kept start db)
    (h : rebackBody ordersn details db = .ok ((), db')) : Kept start db' := by
  rcases rebackBody_ok (kept.oneRow opening) h with
    ⟨row, -, -, rfl⟩ | ⟨row, hrow, hreleased, hconfirmed, hholds, rfl⟩ |
    ⟨-, ⟨-, rfl⟩ | ⟨hfresh, rfl⟩⟩
  · exact kept
  · have hreserved := kept.reserved hrow hreleased hconfirmed
    have hfind := getSellDetail_ok hrow
    refine ⟨?_, ?_, by rw [setStatus_orderSn]; exact kept.unique,
      setStatus_known (.inr (.inl rfl)) kept.known⟩
    · rw [kept.inventory]
      apply shiftAll_booked
      intro opening
      apply returnUnits_booked
      · rw [held_setStatus _ _ _ kept.unique hfind, if_pos hreserved,
          if_neg reserved_ne_released.symm, add_zero]
      · rw [held_setStatus _ _ _ kept.unique hfind, if_neg hconfirmed,
          if_neg released_ne_confirmed, add_zero, sub_zero]
    · refine covered_shiftAll ?_ hholds kept.covered
      intro num row hnum henough hcovered
      simp only [Covered, returnUnits] at hcovered ⊢
      have := henough hcovered.2.1
      omega
  · exact kept
  · refine ⟨?_, kept.covered, Table.nodup_snoc kept.unique hfresh,
      known_snoc kept.known (.inr (.inl rfl))⟩
    have hsame : booked (db.stockSellDetail ++
        [⟨ordersn, stockSellStatusReleased, sortByGoods details⟩]) =
          booked db.stockSellDetail := by
      funext row
      unfold booked
      rw [held_snoc, held_snoc, if_neg reserved_ne_released.symm, if_neg released_ne_confirmed,
        add_zero, add_zero]
    rw [hsame]
    exact kept.inventory

theorem Kept.confirmBody (opening : Opening start) (kept : Kept start db)
    (h : confirmBody ordersn db = .ok ((), db')) : Kept start db' := by
  rcases confirmBody_ok (kept.oneRow opening) h with
    ⟨row, -, -, rfl⟩ | ⟨row, hrow, hreleased, hconfirmed, hholds, rfl⟩
  · exact kept
  · have hreserved := kept.reserved hrow hreleased hconfirmed
    have hfind := getSellDetail_ok hrow
    refine ⟨?_, ?_, by rw [setStatus_orderSn]; exact kept.unique,
      setStatus_known (.inr (.inr rfl)) kept.known⟩
    · rw [kept.inventory]
      apply shiftAll_booked
      intro opening
      apply sellUnits_booked
      · rw [held_setStatus _ _ _ kept.unique hfind, if_pos hreserved,
          if_neg reserved_ne_confirmed.symm, add_zero]
      · rw [held_setStatus _ _ _ kept.unique hfind, if_neg hconfirmed, if_pos rfl, sub_zero]
    · refine covered_shiftAll ?_ hholds kept.covered
      intro num row hnum henough hcovered
      simp only [Covered, sellUnits] at hcovered ⊢
      have := henough hcovered.2.1
      omega

theorem Kept.stockOperation {body : StockTxn Unit} (kept : Kept start db)
    (hbody : ∀ db', body db = .ok ((), db') → Kept start db') :
    Kept start (stockOperation body ordersn details db).2 := by
  rcases stockOperation_cases body ordersn details db with ⟨err, h⟩ | ⟨db', -, hrun, h⟩
  · rw [h]
    exact kept
  · rw [h]
    exact hbody db' hrun

theorem Kept.sell (opening : Opening start) (kept : Kept start db) :
    Kept start (sell ordersn details db).2 := by
  unfold Model.sell
  exact kept.stockOperation fun db' h => kept.sellBody opening h

theorem Kept.reback (opening : Opening start) (kept : Kept start db) :
    Kept start (reback ordersn details db).2 := by
  unfold Model.reback
  exact kept.stockOperation fun db' h => kept.rebackBody opening h

theorem Kept.confirm (opening : Opening start) (kept : Kept start db) :
    Kept start (confirm ordersn details db).2 := by
  unfold Model.confirm
  exact kept.stockOperation fun db' h => kept.confirmBody opening h

end Operations

inductive StockCall where
  | sell (ordersn : String) (details : List GoodsDetail)
  | confirm (ordersn : String) (details : List GoodsDetail)
  | reback (ordersn : String) (details : List GoodsDetail)
  | release (ordersn : String) (details : List GoodsDetail)
deriving DecidableEq, Repr

def StockCall.operation : StockCall → InventoryDB → Except AppError Unit × InventoryDB
  | .sell ordersn details => Model.sell ordersn details
  | .confirm ordersn details => Model.confirm ordersn details
  | .reback ordersn details => Model.reback ordersn details
  | .release ordersn details => Model.release ordersn details

/-- One call with what the network and the database make of it: a transaction
that is rolled back ends like a call that fails before its effect. -/
def serve (db : InventoryDB) (label : StockCall × Outcome) : InventoryDB :=
  (call (newCode .errServiceUnavailable "inventory service unavailable") label.2
    label.1.operation db).2

theorem Kept.serve {start db : InventoryDB} (opening : Opening start) (kept : Kept start db)
    (label : StockCall × Outcome) : Kept start (serve db label) := by
  apply call_preserves _ _ kept
  cases label.1 with
  | sell ordersn details => exact kept.sell opening
  | confirm ordersn details => exact kept.confirm opening
  | reback ordersn details => exact kept.reback opening
  | release ordersn details =>
    rw [StockCall.operation, release]
    exact kept.reback opening

/-- What the ledger says about a row, given its opening row and the orders. -/
structure Balanced (orders : List StockSellDetailDO) (opening row : InventoryDO) : Prop where
  goods : row.goods = opening.goods
  conserved : row.available + row.locked + row.sold =
    opening.available + opening.locked + opening.sold
  stocks : row.stocks = row.available
  locked : row.locked = opening.locked + held stockSellStatusReserved row.goods orders
  sold : row.sold = opening.sold + held stockSellStatusConfirmed row.goods orders
  covered : 0 ≤ row.stocks ∧ 0 ≤ row.available ∧ 0 ≤ row.locked ∧ 0 ≤ row.sold

theorem Kept.balanced {start db : InventoryDB} (opening : Opening start) (kept : Kept start db) :
    List.Forall₂ (Balanced db.stockSellDetail) start.inventory db.inventory := by
  have hcovered := kept.covered
  rw [kept.inventory] at hcovered ⊢
  rw [List.forall₂_map_right_iff, List.forall₂_same]
  intro row hrow
  have hstocks := opening.stocks row hrow
  have hrowCovered := hcovered _ (List.mem_map_of_mem hrow)
  simp only [Covered, booked] at hrowCovered
  refine ⟨rfl, ?_, ?_, rfl, rfl, ?_⟩ <;> simp only [booked] <;> omega

/-- The inventory ledger: after any run of calls, however they fail, every row
balances against its opening row and the recorded orders. -/
theorem ledger_balanced {start : InventoryDB} (opening : Opening start)
    (calls : List (StockCall × Outcome)) :
    List.Forall₂ (Balanced (run serve start calls).stockSellDetail) start.inventory
      (run serve start calls).inventory := by
  have hkept : Kept start (run serve start calls) :=
    run_invariant calls (fun _ label kept => kept.serve opening label) opening.kept
  exact hkept.balanced opening

theorem ledger_balanced_two_goods :
    let start : InventoryDB := ⟨[⟨1, 7, 5, 5, 5, 0, 0⟩, ⟨2, 8, 3, 3, 3, 0, 0⟩], []⟩
    let final := run serve start
      [(.sell "A" [⟨8, 1⟩, ⟨7, 2⟩, ⟨7, 1⟩], .ok), (.confirm "A" [⟨7, 3⟩], .failAfter),
        (.reback "A" [⟨7, 3⟩], .ok), (.release "B" [⟨8, 2⟩], .ok),
        (.sell "B" [⟨8, 2⟩], .ok), (.sell "C" [⟨7, 3⟩], .ok)]
    List.Forall₂ (Balanced final.stockSellDetail) start.inventory final.inventory ∧
      final.inventory = [⟨1, 7, 2, 5, 2, 0, 3⟩, ⟨2, 8, 2, 3, 2, 0, 1⟩] :=
  ⟨ledger_balanced ⟨by decide, by decide, by decide, rfl⟩ _, by decide +kernel⟩

end Goshop.Inventory.Ledger
