import Goshop.Inventory.StockRecords
import Goshop.Inventory.Compensation

/-! The order number as the key of a sell detail. `Sell` records it as it is given and
every lookup trims it first, so that an order whose number has blanks around it is
recorded under a number that is never looked up. -/
namespace Goshop.Inventory.OrderKey

open Goshop.Errors Goshop.Lib Goshop.Lib.Transaction
open Goshop.Inventory.Model Goshop.Inventory.Steps Goshop.Inventory.StockRecords
open Goshop.Inventory.Compensation
open Goshop.Lib.GoText (trimSpace)

section Increase

variable {items : List GoodsDetail} {db db' : InventoryDB} {goodsID num : Int}

theorem availableOf_returnUnits (goods num : Int) (row : InventoryDO) :
    (if (returnUnits num row).goods = goods then (returnUnits num row).available else 0) =
      (if row.goods = goods then row.available else 0) + if row.goods = goods then num else 0 := by
  by_cases h : row.goods = goods <;> simp [returnUnits, h]

theorem increase_available (h : increase goodsID num db = .ok ((), db')) (goods : Int) :
    availableOf goods db + (if goodsID = goods then num else 0) ≤ availableOf goods db' := by
  obtain ⟨hnum, ⟨row, hrow, hgoods, hlocked⟩, rfl⟩ := moveStock_ok h
  have hmoved : row.goods = goodsID ∧ num ≤ row.locked := ⟨hgoods, hlocked⟩
  rw [availableOf_eq_sum, availableOf_eq_sum, List.map_map]
  refine Table.sum_map_add_le ⟨row, hrow, ?_⟩ ?_
  · simp only [Function.comp_apply, if_pos hmoved, availableOf_returnUnits]
    rw [hgoods]
  · intro other _
    simp only [Function.comp_apply]
    by_cases hother : other.goods = goodsID ∧ num ≤ other.locked
    · simp only [if_pos hother, availableOf_returnUnits]
      split <;> omega
    · simp only [if_neg hother, le_refl]

theorem increaseAll_available
    (h : (forM items fun item => increase item.goods item.num : StockTxn Unit) db =
      .ok ((), db')) (goods : Int) :
    availableOf goods db + units goods items ≤ availableOf goods db' := by
  refine Txn.forM_ok
    (fun done mid => availableOf goods db + units goods done ≤ availableOf goods mid) ?_ ?_ h
  · rw [units_nil, add_zero]
  · intro done item mid mid' _ hdone hitem
    have hstep := increase_available hitem goods
    rw [units_append, units_singleton]
    omega

end Increase

section Sales

variable {start sold : InventoryDB} {ordersn : String} {details : List GoodsDetail}

theorem reserve_recorded {detail : List GoodsDetail}
    (h : reserve ordersn detail start = .ok ((), sold)) :
    sold.stockSellDetail =
      start.stockSellDetail ++ [⟨ordersn, stockSellStatusReserved, detail⟩] := by
  rw [reserve, Txn.bind_ok] at h
  obtain ⟨⟨⟩, mid, hloop, hcreate⟩ := h
  obtain ⟨-, -, rfl⟩ := createStockSellDetail_ok hcreate
  rw [← moveAll_details hloop]

theorem getSellDetail_missing (hne : trimSpace ordersn ≠ "")
    (hunknown : ∀ row ∈ start.stockSellDetail, row.orderSn ≠ trimSpace ordersn) :
    getSellDetail start ordersn =
      .error (newCode .errInvSellDetailNotFound "record not found") := by
  have hfind : start.stockSellDetail.find? (·.orderSn = trimSpace ordersn) = none := by
    simpa using hunknown
  simp only [getSellDetail, if_neg hne, hfind]

theorem sellBody_missing {detail : List GoodsDetail} (hne : trimSpace ordersn ≠ "")
    (hunknown : ∀ row ∈ start.stockSellDetail, row.orderSn ≠ trimSpace ordersn) :
    sellBody ordersn detail start = reserve ordersn detail start := by
  rw [sellBody, Txn.read_bind, getSellDetail_missing hne hunknown]
  rfl

theorem sell_first
    (hunknown : ∀ row ∈ start.stockSellDetail, row.orderSn ≠ trimSpace ordersn)
    (h : sell ordersn details start = (.ok (), sold)) :
    validateStockOperation ordersn details = .ok () ∧
      reserve ordersn (sortByGoods details) start = .ok ((), sold) := by
  rcases stockOperation_cases (sellBody ordersn (sortByGoods details)) ordersn details start with
    ⟨err, hsell⟩ | ⟨db', hvalid, hrun, hsell⟩
  · rw [sell, hsell] at h
    cases h
  · rw [sell, hsell] at h
    cases h
    rw [sellBody_missing (validateStockOperation_ok hvalid).1 hunknown] at hrun
    exact ⟨hvalid, hrun⟩

/-- A number that trimming changes cannot be sold again: the lookup misses its record
and the unique index does not. -/
theorem resell_refused (htrim : trimSpace ordersn ≠ ordersn)
    (hunknown : ∀ row ∈ start.stockSellDetail, row.orderSn ≠ trimSpace ordersn)
    (h : sell ordersn details start = (.ok (), sold)) :
    (sell ordersn details sold).1 ≠ .ok () := by
  obtain ⟨-, hreserve⟩ := sell_first hunknown h
  have hrecorded := reserve_recorded hreserve
  have hmissing : ∀ row ∈ sold.stockSellDetail, row.orderSn ≠ trimSpace ordersn := by
    rw [hrecorded]
    intro row hrow
    rcases List.mem_append.mp hrow with hrow | hrow
    · exact hunknown row hrow
    · rw [List.mem_singleton.mp hrow]
      exact htrim.symm
  intro hok
  have hresold : sell ordersn details sold = (.ok (), (sell ordersn details sold).2) :=
    Prod.ext hok rfl
  obtain ⟨-, hagain⟩ := sell_first hmissing hresold
  rw [reserve, Txn.bind_ok] at hagain
  obtain ⟨⟨⟩, mid, hloop, hcreate⟩ := hagain
  obtain ⟨-, hfresh, -⟩ := createStockSellDetail_ok hcreate
  rw [moveAll_details hloop, hrecorded] at hfresh
  exact hfresh _ (List.mem_append_right _ (List.mem_singleton_self _)) rfl

end Sales

/-- What `Sell` and `Reback` promise each other about an order that has been sold. -/
structure KeyAgrees (ordersn : String) (details : List GoodsDetail) (start sold : InventoryDB) :
    Prop where
  repeated : sell ordersn details sold = (.ok (), sold)
  returned : ∀ back, reback ordersn details sold = (.ok (), back) →
    (∀ goods, availableOf goods sold + units goods details ≤ availableOf goods back) ∧
      (OneRowPerGoods start → back.inventory = start.inventory) ∧
      (∃ row ∈ back.stockSellDetail, row.orderSn = ordersn) ∧
      ∀ row ∈ back.stockSellDetail, row.orderSn = ordersn → row.status = stockSellStatusReleased

section Trimmed

variable {start sold : InventoryDB} {ordersn : String} {details : List GoodsDetail}

theorem sold_lookup (htrim : trimSpace ordersn = ordersn)
    (hunknown : ∀ row ∈ start.stockSellDetail, row.orderSn ≠ ordersn)
    (hvalid : validateStockOperation ordersn details = .ok ())
    (hreserve : reserve ordersn (sortByGoods details) start = .ok ((), sold)) :
    getSellDetail sold ordersn = .ok ⟨ordersn, stockSellStatusReserved, sortByGoods details⟩ := by
  have hne := (validateStockOperation_ok hvalid).1
  rw [htrim] at hne
  apply getSellDetail_known hne htrim
  rw [reserve_recorded hreserve, List.find?_append]
  have hfind : start.stockSellDetail.find? (·.orderSn = ordersn) = none := by
    simpa using hunknown
  simp [hfind]

theorem resell_ignored (htrim : trimSpace ordersn = ordersn)
    (hunknown : ∀ row ∈ start.stockSellDetail, row.orderSn ≠ ordersn)
    (hvalid : validateStockOperation ordersn details = .ok ())
    (hreserve : reserve ordersn (sortByGoods details) start = .ok ((), sold)) :
    sell ordersn details sold = (.ok (), sold) := by
  have hget := sold_lookup htrim hunknown hvalid hreserve
  have hbody : sellBody ordersn (sortByGoods details) sold = .ok ((), sold) := by
    rw [sellBody, Txn.read_bind, hget]
    rfl
  simp only [sell, stockOperation, hvalid, Txn.commit_of_ok hbody]

theorem reback_settles {back : InventoryDB} (htrim : trimSpace ordersn = ordersn)
    (hunknown : ∀ row ∈ start.stockSellDetail, row.orderSn ≠ ordersn)
    (hvalid : validateStockOperation ordersn details = .ok ())
    (hreserve : reserve ordersn (sortByGoods details) start = .ok ((), sold))
    (h : reback ordersn details sold = (.ok (), back)) :
    settle increase stockSellStatusReleased ordersn
      ⟨ordersn, stockSellStatusReserved, sortByGoods details⟩ sold = .ok ((), back) := by
  have hget := sold_lookup htrim hunknown hvalid hreserve
  rcases stockOperation_cases (rebackBody ordersn details) ordersn details sold with
    ⟨err, hreback⟩ | ⟨db', -, hrun, hreback⟩
  · rw [reback, hreback] at h
    cases h
  · rw [reback, hreback] at h
    cases h
    simpa only [rebackBody, Txn.read_bind, hget, if_neg reserved_ne_released,
      if_neg reserved_ne_confirmed] using hrun

end Trimmed

/-- After its first sale an order can be sold again and given back by its number, if and
only if trimming the number leaves it as it is. -/
theorem order_key_agrees_iff {start sold : InventoryDB} {ordersn : String}
    {details : List GoodsDetail}
    (hunknown : ∀ row ∈ start.stockSellDetail, row.orderSn ≠ trimSpace ordersn)
    (h : sell ordersn details start = (.ok (), sold)) :
    KeyAgrees ordersn details start sold ↔ trimSpace ordersn = ordersn := by
  constructor
  · intro agrees
    by_contra htrim
    apply resell_refused htrim hunknown h
    rw [agrees.repeated]
  · intro htrim
    obtain ⟨hvalid, hreserve⟩ := sell_first hunknown h
    rw [htrim] at hunknown
    refine ⟨resell_ignored htrim hunknown hvalid hreserve, ?_⟩
    intro back hback
    have hsettle := reback_settles htrim hunknown hvalid hreserve hback
    refine ⟨?_, ?_, ?_⟩
    · rw [settle, Txn.guard_bind_ok, Txn.bind_ok] at hsettle
      obtain ⟨-, ⟨⟩, mid, hloop, hupdate⟩ := hsettle
      rw [updateStockSellDetailStatus_ok hupdate]
      intro goods
      have hreturned := increaseAll_available hloop goods
      rw [units_sortByGoods, units_sortByGoods] at hreturned
      exact hreturned
    · intro hone
      obtain ⟨-, -, -, -, -, hsold⟩ := reserve_ok hone hreserve
      have hone' : OneRowPerGoods sold := by
        rw [hsold]
        exact shiftAll_oneRow lawful_reserveUnits (sortByGoods details) hone
      obtain ⟨-, rfl⟩ := settle_ok lawful_returnUnits hone' hsettle
      rw [hsold]
      exact shiftAll_return_reserve _ _
    · rw [settle, Txn.guard_bind_ok, Txn.bind_ok] at hsettle
      obtain ⟨-, ⟨⟩, mid, hloop, hupdate⟩ := hsettle
      rw [updateStockSellDetailStatus_ok hupdate, htrim, moveAll_details hloop,
        reserve_recorded hreserve]
      have hreleased : setStatus ordersn stockSellStatusReleased (start.stockSellDetail ++
          [⟨ordersn, stockSellStatusReserved, sortByGoods details⟩]) = start.stockSellDetail ++
            [⟨ordersn, stockSellStatusReleased, sortByGoods details⟩] :=
        Table.modify_last rfl hunknown
      rw [hreleased]
      refine ⟨⟨_, List.mem_append_right _ (List.mem_singleton_self _), rfl⟩, ?_⟩
      intro row hrow hsame
      rcases List.mem_append.mp hrow with hrow | hrow
      · exact absurd hsame (hunknown row hrow)
      · rw [List.mem_singleton.mp hrow]

def fiveOnStock : InventoryDB where
  inventory := [⟨1, 7, 5, 5, 5, 0, 0⟩]
  stockSellDetail := []

/-- An order with a blank behind its number is sold. Selling it again fails, and giving it
back succeeds without returning anything. -/
theorem padded_number_keeps_stock :
    let sold := (sell "A " [⟨7, 2⟩] fiveOnStock).2
    (sell "A " [⟨7, 2⟩] fiveOnStock).1 = .ok () ∧
      (sell "A " [⟨7, 2⟩] sold).1 = .error (wrapDatabase "create inventory sell detail") ∧
      reback "A " [⟨7, 2⟩] sold = (.ok (), sold) ∧ availableOf 7 sold = 3 := by
  decide +kernel

theorem order_key_agrees_plain_number :
    let sold := (sell "A" [⟨7, 2⟩] fiveOnStock).2
    sell "A" [⟨7, 2⟩] fiveOnStock = (.ok (), sold) ∧
      KeyAgrees "A" [⟨7, 2⟩] fiveOnStock sold :=
  ⟨by decide +kernel, (order_key_agrees_iff (by decide) (by decide +kernel)).mpr (by decide +kernel)⟩

end Goshop.Inventory.OrderKey
