import Goshop.Inventory.Steps

/-! The status of an order's stock under `Confirm` and `Release`, whatever the
counters are. A settled order keeps its status: the first of the two operations
decides, and both are idempotent. -/
namespace Goshop.Inventory.SellStatus

open Goshop.Errors Goshop.Lib Goshop.Lib.Transaction
open Goshop.Inventory.Model Goshop.Inventory.Steps
open Goshop.Lib.GoText (trimSpace)

def sellStatus (db : InventoryDB) (orderSn : String) : Option Int :=
  (db.stockSellDetail.find? (·.orderSn = orderSn)).map (·.status)

section Details

variable {db db' : InventoryDB} {ordersn : String} {status : Int}
  {operation : String} {source : InventoryDO → Int}
  {shift : Int → InventoryDO → InventoryDO} {missing : AppError}

theorem settle_details {row : StockSellDetailDO}
    (h : settle (moveStock operation source shift missing) status ordersn row db =
      .ok ((), db')) :
    db'.stockSellDetail = setStatus (trimSpace ordersn) status db.stockSellDetail := by
  rw [settle, Txn.guard_bind_ok, Txn.bind_ok] at h
  obtain ⟨-, _, mid, hmove, hstatus⟩ := h
  rw [updateStockSellDetailStatus_ok hstatus, ← moveAll_details hmove]

theorem sellStatus_setStatus
    (h : db'.stockSellDetail = setStatus ordersn status db.stockSellDetail) (other : String) :
    sellStatus db' other =
      if other = ordersn then (sellStatus db ordersn).map fun _ => status
      else sellStatus db other := by
  unfold sellStatus
  rw [h, setStatus, Table.find_modify]
  swap
  · exact fun _ => rfl
  cases hfind : db.stockSellDetail.find? (·.orderSn = other) with
  | none =>
    split
    · rename_i hother
      rw [← hother, hfind]
      rfl
    · rfl
  | some row =>
    have hrow : row.orderSn = other := by simpa using List.find?_some hfind
    split
    · rename_i hother
      rw [← hother, hfind]
      simp [hrow]
    · rename_i hother
      simp [hrow, hother]

theorem sellStatus_of_get {row : StockSellDetailDO} (h : getSellDetail db ordersn = .ok row) :
    sellStatus db (trimSpace ordersn) = some row.status := by
  rw [sellStatus, getSellDetail_ok h]
  rfl

theorem get_of_sellStatus (hne : trimSpace ordersn ≠ "")
    (h : sellStatus db (trimSpace ordersn) = some status) :
    ∃ row, getSellDetail db ordersn = .ok row ∧ row.status = status := by
  obtain ⟨row, hfind, hstatus⟩ := Option.map_eq_some_iff.mp h
  refine ⟨row, ?_, hstatus⟩
  simp only [getSellDetail, if_neg hne, hfind]

end Details

/-- Settling the stock of an order: the status `wins` stays, any other status
becomes `target`, and no other order is touched. -/
structure Settling (wins target : Int) (orderSn : String) (db db' : InventoryDB) : Prop where
  known : sellStatus db orderSn ≠ none
  own : sellStatus db' orderSn =
    if sellStatus db orderSn = some wins then some wins else some target
  others : ∀ other, other ≠ orderSn → sellStatus db' other = sellStatus db other

theorem Settling.target {wins target : Int} {orderSn : String} {db db' : InventoryDB}
    (settling : Settling wins target orderSn db db') (h : sellStatus db orderSn ≠ some wins) :
    sellStatus db' orderSn = some target := by
  rw [settling.own, if_neg h]

section Operations

variable {db db' : InventoryDB} {ordersn : String} {details : List GoodsDetail}

theorem settling_of_settle {operation : String} {source : InventoryDO → Int}
    {shift : Int → InventoryDO → InventoryDO} {missing : AppError} {wins target : Int}
    {row : StockSellDetailDO} (hget : getSellDetail db ordersn = .ok row)
    (hrow : row.status ≠ wins)
    (h : settle (moveStock operation source shift missing) target ordersn row db =
      .ok ((), db')) : Settling wins target (trimSpace ordersn) db db' where
  known := by
    rw [sellStatus_of_get hget]
    simp
  own := by
    rw [sellStatus_setStatus (settle_details h), if_pos rfl, sellStatus_of_get hget]
    simp [hrow]
  others other hother := by
    rw [sellStatus_setStatus (settle_details h), if_neg hother]

theorem settling_of_settled {wins target : Int} {row : StockSellDetailDO}
    (hget : getSellDetail db ordersn = .ok row) (hrow : row.status = wins ∨ row.status = target) :
    Settling wins target (trimSpace ordersn) db db where
  known := by
    rw [sellStatus_of_get hget]
    simp
  own := by
    rw [sellStatus_of_get hget]
    rcases hrow with hrow | hrow <;> simp [hrow]
  others _ _ := rfl

theorem confirmBody_settling (h : confirmBody ordersn db = .ok ((), db')) :
    Settling stockSellStatusReleased stockSellStatusConfirmed (trimSpace ordersn) db db' := by
  rw [confirmBody, Txn.read_bind] at h
  cases hget : getSellDetail db ordersn with
  | ok row =>
    simp only [hget] at h
    split at h
    · rename_i hreleased
      cases Txn.pure_ok.mp h
      exact settling_of_settled hget (.inl hreleased)
    · rename_i hnotReleased
      split at h
      · rename_i hconfirmed
        cases Txn.pure_ok.mp h
        exact settling_of_settled hget (.inr hconfirmed)
      · exact settling_of_settle hget hnotReleased h
  | error err =>
    simp only [hget] at h
    cases Txn.fail_ok.mp h

theorem rebackBody_settling (hne : trimSpace ordersn ≠ "")
    (hknown : sellStatus db (trimSpace ordersn) ≠ none)
    (h : rebackBody ordersn details db = .ok ((), db')) :
    Settling stockSellStatusConfirmed stockSellStatusReleased (trimSpace ordersn) db db' := by
  obtain ⟨status, hstatus⟩ := Option.ne_none_iff_exists'.mp hknown
  obtain ⟨row, hget, -⟩ := get_of_sellStatus hne hstatus
  rw [rebackBody, Txn.read_bind] at h
  simp only [hget] at h
  split at h
  · rename_i hreleased
    cases Txn.pure_ok.mp h
    exact settling_of_settled hget (.inr hreleased)
  · split at h
    · rename_i hconfirmed
      cases Txn.pure_ok.mp h
      exact settling_of_settled hget (.inl hconfirmed)
    · rename_i hnotConfirmed
      exact settling_of_settle hget hnotConfirmed h

theorem rebackBody_others (h : rebackBody ordersn details db = .ok ((), db')) {other : String}
    (hother : other ≠ trimSpace ordersn) (htrimmed : trimSpace other = other) :
    sellStatus db' other = sellStatus db other := by
  rw [rebackBody, Txn.read_bind] at h
  cases hget : getSellDetail db ordersn with
  | ok row =>
    simp only [hget] at h
    split at h
    · cases Txn.pure_ok.mp h
      rfl
    · split at h
      · cases Txn.pure_ok.mp h
        rfl
      · rw [sellStatus_setStatus (settle_details h), if_neg hother]
  | error err =>
    simp only [hget] at h
    split at h
    · simp only [Txn.bind_ok, Txn.pure_ok] at h
      obtain ⟨created, mid, hcreate, hend⟩ := h
      cases hend
      rcases createStockSellDetailIfAbsent_ok hcreate with ⟨-, rfl⟩ | ⟨-, rfl⟩
      · rfl
      · have hne : ordersn ≠ other := by
          rintro rfl
          exact hother htrimmed.symm
        simp [sellStatus, List.find?_append, hne]
    · cases Txn.fail_ok.mp h

theorem confirm_cases (ordersn : String) (details : List GoodsDetail) (db : InventoryDB) :
    (∃ err, confirm ordersn details db = (.error err, db)) ∨
      ∃ db', confirm ordersn details db = (.ok (), db') ∧
        Settling stockSellStatusReleased stockSellStatusConfirmed (trimSpace ordersn)
          db db' := by
  rcases stockOperation_cases (confirmBody ordersn) ordersn details db with h | ⟨db', -, hrun, h⟩
  · exact .inl h
  · exact .inr ⟨db', h, confirmBody_settling hrun⟩

/-- `Release` is refused and changes nothing, or it settles the order, which it
may have to record first. -/
theorem release_cases (ordersn : String) (details : List GoodsDetail) (db : InventoryDB) :
    (∃ err, release ordersn details db = (.error err, db)) ∨
      ∃ db', release ordersn details db = (.ok (), db') ∧
        (sellStatus db (trimSpace ordersn) ≠ none →
          Settling stockSellStatusConfirmed stockSellStatusReleased (trimSpace ordersn)
            db db') ∧
        ∀ other, other ≠ trimSpace ordersn → trimSpace other = other →
          sellStatus db' other = sellStatus db other := by
  rcases stockOperation_cases (rebackBody ordersn details) ordersn details db with
    h | ⟨db', hvalid, hrun, h⟩
  · exact .inl h
  · refine .inr ⟨db', h, fun hknown => ?_, fun other => rebackBody_others hrun⟩
    exact rebackBody_settling (validateStockOperation_ok hvalid).1 hknown hrun

theorem confirmBody_again (hne : trimSpace ordersn ≠ "")
    (h : confirmBody ordersn db = .ok ((), db')) : confirmBody ordersn db' = .ok ((), db') := by
  have hsettled := (confirmBody_settling h).own
  rw [confirmBody, Txn.read_bind]
  split at hsettled
  · obtain ⟨row, hget, hstatus⟩ := get_of_sellStatus hne hsettled
    simp only [hget, hstatus, if_true]
    rfl
  · obtain ⟨row, hget, hstatus⟩ := get_of_sellStatus hne hsettled
    simp only [hget, hstatus, if_true, ite_self]
    rfl

end Operations

end Goshop.Inventory.SellStatus
