import Goshop.Inventory.Steps

/-! One order between `Sell` and `Reback`. However often and in whatever order
the two are delivered, the order is unknown, reserved or released; a `Reback`
leaves it released, or it is an order that no `Sell` can record. -/
namespace Goshop.Inventory.Compensation

open Goshop.Errors Goshop.Lib Goshop.Lib.Transaction
open Goshop.Inventory.Model Goshop.Inventory.Steps

/-- The tables before anything of the order reaches them. -/
structure Before (ordersn : String) (start : InventoryDB) : Prop where
  trimmed : GoText.trimSpace ordersn = ordersn
  unknown : ∀ row ∈ start.stockSellDetail, row.orderSn ≠ ordersn
  oneRow : OneRowPerGoods start
  locked : ∀ row ∈ start.inventory, 0 ≤ row.locked
  stored : ∀ row ∈ start.inventory, Stored row

structure Untouched (ordersn : String) (start : InventoryDB) : Prop where
  trimmed : GoText.trimSpace ordersn = ordersn
  unknown : ∀ row ∈ start.stockSellDetail, row.orderSn ≠ ordersn
  oneRow : OneRowPerGoods start
  stored : ∀ row ∈ start.inventory, Stored row

theorem Before.untouched {ordersn : String} {start : InventoryDB} (before : Before ordersn start) :
    Untouched ordersn start :=
  ⟨before.trimmed, before.unknown, before.oneRow, before.stored⟩

/-- The goods of the list have no negative locked counter, so that what a sale
adds to them can be taken back. -/
def Returnable (details : List GoodsDetail) (start : InventoryDB) : Prop :=
  ∀ row ∈ start.inventory, row.goods ∈ details.map (·.goods) → 0 ≤ row.locked

instance (details : List GoodsDetail) (start : InventoryDB) :
    Decidable (Returnable details start) :=
  inferInstanceAs (Decidable (∀ row ∈ start.inventory, _ → _))

theorem Before.returnable {ordersn : String} {start : InventoryDB} (before : Before ordersn start)
    (details : List GoodsDetail) : Returnable details start :=
  fun row hrow _ => before.locked row hrow

def Storable (ordersn : String) (details : List GoodsDetail) : Prop :=
  validateStockOperation ordersn details = .ok () ∧
    fitsSellDetail ⟨ordersn, stockSellStatusReserved, sortByGoods details⟩ = true

def releasedTables (start : InventoryDB) (ordersn : String) (details : List GoodsDetail) :
    InventoryDB :=
  { start with stockSellDetail := start.stockSellDetail ++
    [⟨ordersn, stockSellStatusReleased, sortByGoods details⟩] }

/-- How far the order has come. -/
inductive Phase (start : InventoryDB) (ordersn : String) (details : List GoodsDetail) :
    InventoryDB → Prop
  | fresh : Phase start ordersn details start
  | reserved {db : InventoryDB} (valid : validateStockOperation ordersn details = .ok ())
    (reservation : Reservation ordersn (sortByGoods details) start db) :
    Phase start ordersn details db
  | released (valid : validateStockOperation ordersn details = .ok ()) :
    Phase start ordersn details (releasedTables start ordersn details)

def Settled (start : InventoryDB) (ordersn : String) (details : List GoodsDetail)
    (db : InventoryDB) : Prop :=
  (validateStockOperation ordersn details = .ok () ∧ db = releasedTables start ordersn details) ∨
    ¬Storable ordersn details ∧ db = start

section Rows

variable {start db : InventoryDB} {ordersn : String} {details : List GoodsDetail}

theorem returnUnits_reserveUnits (num : Int) (row : InventoryDO) :
    returnUnits num (reserveUnits num row) = row := by
  simp [returnUnits, reserveUnits]

theorem shiftAll_return_reserve (detail : List GoodsDetail) (rows : List InventoryDO) :
    shiftAll returnUnits detail (shiftAll reserveUnits detail rows) = rows := by
  unfold shiftAll
  rw [List.map_map]
  have hsame : ∀ row ∈ rows, ((fun row => returnUnits (units row.goods detail) row) ∘
      fun row => reserveUnits (units row.goods detail) row) row = row := by
    intro row _
    exact returnUnits_reserveUnits (units row.goods detail) row
  rw [List.map_congr_left hsame, List.map_id']

theorem stored_between {row : InventoryDO} {num total : Int} (hrow : Stored row)
    (hreserved : Stored (reserveUnits total row)) (hnum : 0 ≤ num) (hle : num ≤ total) :
    Stored (returnUnits num (reserveUnits total row)) := by
  simp only [Stored, Sql.FitsInt, reserveUnits, returnUnits] at hrow hreserved ⊢
  omega

end Rows

section Operations

variable {start db : InventoryDB} {ordersn : String} {details : List GoodsDetail}

theorem reservation_find (untouched : Untouched ordersn start)
    (reservation : Reservation ordersn (sortByGoods details) start db) :
    db.stockSellDetail.find? (·.orderSn = ordersn) =
      some ⟨ordersn, stockSellStatusReserved, sortByGoods details⟩ := by
  rw [reservation.result]
  exact Table.find_last rfl untouched.unknown

theorem releasedTables_find (untouched : Untouched ordersn start) (details : List GoodsDetail) :
    (releasedTables start ordersn details).stockSellDetail.find? (·.orderSn = ordersn) =
      some ⟨ordersn, stockSellStatusReleased, sortByGoods details⟩ :=
  Table.find_last rfl untouched.unknown

theorem releasedTables_oneRow (untouched : Untouched ordersn start) :
    OneRowPerGoods (releasedTables start ordersn details) :=
  untouched.oneRow

theorem reservation_oneRow (untouched : Untouched ordersn start)
    (reservation : Reservation ordersn (sortByGoods details) start db) : OneRowPerGoods db := by
  rw [reservation.result]
  exact shiftAll_oneRow lawful_reserveUnits (sortByGoods details) untouched.oneRow

theorem sell_known {row : StockSellDetailDO} (hone : OneRowPerGoods db)
    (hfind : db.stockSellDetail.find? (·.orderSn = ordersn) = some row) :
    (sell ordersn details db).2 = db := by
  have hknown : ∃ other ∈ db.stockSellDetail, other.orderSn = ordersn :=
    ⟨row, List.mem_of_find?_eq_some hfind, by simpa using List.find?_some hfind⟩
  apply stockOperation_keeps
  intro db' _ hrun
  rcases sellBody_ok hone hrun with ⟨_, -, hsame⟩ | reservation
  · exact hsame
  · obtain ⟨other, hother, hsn⟩ := hknown
    exact absurd hsn (reservation.fresh other hother)

theorem sell_untouched (untouched : Untouched ordersn start) (details : List GoodsDetail) :
    ((sell ordersn details start).1 = .ok () ∧ validateStockOperation ordersn details = .ok () ∧
        Reservation ordersn (sortByGoods details) start (sell ordersn details start).2) ∨
      (sell ordersn details start).1 ≠ .ok () ∧ (sell ordersn details start).2 = start := by
  rcases stockOperation_cases (sellBody ordersn (sortByGoods details)) ordersn details start with
    ⟨err, h⟩ | ⟨db', hvalid, hrun, h⟩
  · rw [sell, h]
    exact .inr ⟨by simp, rfl⟩
  · rw [sell, h]
    rcases sellBody_ok untouched.oneRow hrun with ⟨row, hget, -⟩ | reservation
    · obtain ⟨err, hunknown, -⟩ := getSellDetail_unknown untouched.trimmed untouched.unknown
      rw [hunknown] at hget
      cases hget
    · exact .inl ⟨rfl, hvalid, reservation⟩

theorem sell_fresh (untouched : Untouched ordersn start) (details : List GoodsDetail) :
    (sell ordersn details start).2 = start ∨ validateStockOperation ordersn details = .ok () ∧
      Reservation ordersn (sortByGoods details) start (sell ordersn details start).2 := by
  rcases sell_untouched untouched details with ⟨-, htaken⟩ | ⟨-, hsame⟩
  · exact .inr htaken
  · exact .inl hsame

theorem Phase.sell (before : Before ordersn start) (phase : Phase start ordersn details db) :
    Phase start ordersn details (sell ordersn details db).2 := by
  cases phase with
  | fresh =>
    rcases sell_fresh before.untouched details with h | ⟨hvalid, reservation⟩
    · rw [h]
      exact .fresh
    · exact .reserved hvalid reservation
  | reserved valid reservation =>
    rw [sell_known (reservation_oneRow before.untouched reservation)
      (reservation_find before.untouched reservation)]
    exact .reserved valid reservation
  | released valid =>
    rw [sell_known (releasedTables_oneRow before.untouched)
      (releasedTables_find before.untouched details)]
    exact .released valid

theorem Settled.sell (before : Before ordersn start) (settled : Settled start ordersn details db) :
    Settled start ordersn details (sell ordersn details db).2 := by
  rcases settled with ⟨hvalid, rfl⟩ | ⟨hstorable, rfl⟩
  · rw [sell_known (releasedTables_oneRow before.untouched)
      (releasedTables_find before.untouched details)]
    exact .inl ⟨hvalid, rfl⟩
  · rcases sell_fresh before.untouched details with h | ⟨hvalid, reservation⟩
    · rw [h]
      exact .inr ⟨hstorable, rfl⟩
    · exact absurd ⟨hvalid, reservation.fits⟩ hstorable

theorem sortByGoods_mem {item : GoodsDetail} {detail : List GoodsDetail} :
    item ∈ sortByGoods detail ↔ item ∈ detail :=
  (List.perm_insertionSort _ detail).mem_iff

theorem sortByGoods_ne_nil {detail : List GoodsDetail} (h : detail ≠ []) :
    sortByGoods detail ≠ [] := by
  obtain ⟨item, hitem⟩ := List.exists_mem_of_ne_nil detail h
  exact List.ne_nil_of_mem (sortByGoods_mem.mpr hitem)

theorem validateStockSellDetail_run {status : Int} (hstatus : 0 < status)
    (hvalid : validateStockOperation ordersn details = .ok ()) :
    validateStockSellDetail ⟨ordersn, status, sortByGoods details⟩ = .ok () := by
  obtain ⟨hne, -, hitems⟩ := validateStockOperation_ok hvalid
  have hany : ((sortByGoods details).any fun item => item.goods ≤ 0 ∨ item.num ≤ 0) = false := by
    simp only [List.any_eq_false, decide_eq_true_eq, sortByGoods_mem, not_or, not_le]
    exact hitems
  simp only [validateStockSellDetail, if_neg hne, if_neg (not_le.mpr hstatus), hany,
    Bool.false_eq_true, if_false]

theorem reback_of_ok {db' : InventoryDB} (hvalid : validateStockOperation ordersn details = .ok ())
    (h : rebackBody ordersn details db = .ok ((), db')) : (reback ordersn details db).2 = db' := by
  simp only [reback, stockOperation, hvalid, Txn.commit_of_ok h]

theorem reback_untouched (untouched : Untouched ordersn start)
    (hvalid : validateStockOperation ordersn details = .ok ()) :
    (reback ordersn details start).2 =
      if fitsSellDetail ⟨ordersn, stockSellStatusReleased, sortByGoods details⟩ = true then
        releasedTables start ordersn details
      else start := by
  obtain ⟨err, hget, hcode⟩ := getSellDetail_unknown untouched.trimmed untouched.unknown
  have hbody : rebackBody ordersn details start =
      (createStockSellDetailIfAbsent
        ⟨ordersn, stockSellStatusReleased, sortByGoods details⟩ >>= fun _ => pure ()) start := by
    simp only [rebackBody, Txn.read_bind, hget, if_pos hcode]
  split
  · rename_i hfits
    have hrun := createStockSellDetailIfAbsent_run
      (validateStockSellDetail_run (by decide) hvalid) hfits untouched.unknown
    rw [Txn.bind_of_ok hrun] at hbody
    exact reback_of_ok hvalid hbody
  · rename_i hfits
    obtain ⟨err, herr⟩ := createStockSellDetailIfAbsent_unfit (Bool.eq_false_iff.mpr hfits) start
    rw [Txn.bind_of_error herr] at hbody
    simp only [reback, stockOperation, hvalid, Txn.commit_of_error hbody]

theorem reback_fresh (untouched : Untouched ordersn start) (details : List GoodsDetail) :
    Settled start ordersn details (reback ordersn details start).2 := by
  cases hvalid : validateStockOperation ordersn details with
  | error err =>
    refine .inr ⟨fun hstorable => ?_, ?_⟩
    · rw [hstorable.1] at hvalid
      cases hvalid
    · simp only [reback, stockOperation, hvalid]
  | ok _ =>
    rw [reback_untouched untouched hvalid]
    split
    · exact .inl ⟨hvalid, rfl⟩
    · rename_i hfits
      exact .inr ⟨fun hstorable => hfits hstorable.2, rfl⟩

theorem increase_reserved (untouched : Untouched ordersn start)
    (returnable : Returnable details start)
    (hvalid : validateStockOperation ordersn details = .ok ())
    (reservation : Reservation ordersn (sortByGoods details) start db) :
    (forM (sortByGoods (sortByGoods details)) fun item => increase item.goods item.num :
      StockTxn Unit) db = .ok ((), { db with inventory := start.inventory }) := by
  obtain ⟨-, -, hitems⟩ := validateStockOperation_ok hvalid
  have hunits : ∀ goods, units goods (sortByGoods (sortByGoods details)) =
      units goods (sortByGoods details) := fun goods => units_sortByGoods goods _
  have hrows : db.inventory = shiftAll reserveUnits (sortByGoods details) start.inventory := by
    rw [reservation.result]
  have hreturned : shiftAll returnUnits (sortByGoods (sortByGoods details)) db.inventory =
      start.inventory := by
    rw [hrows]
    unfold shiftAll
    simp only [hunits]
    exact shiftAll_return_reserve (sortByGoods details) start.inventory
  rw [← hreturned]
  apply moveAll_total lawful_returnUnits (reservation_oneRow untouched reservation)
  · intro item hitem
    obtain ⟨hgoods, hnum⟩ := hitems item (sortByGoods_mem.mp (sortByGoods_mem.mp hitem))
    exact ⟨hgoods.ne', hnum⟩
  · intro item hitem
    rw [hrows, shiftAll_goods lawful_reserveUnits]
    exact reservation.known item (sortByGoods_mem.mp hitem)
  · intro row hrow hgoods
    rw [hrows] at hrow
    obtain ⟨opening, hopening, rfl⟩ := List.mem_map.mp hrow
    have hlocked := returnable opening hopening
      (sortByGoods_goods.mp (sortByGoods_goods.mp hgoods))
    simp only [hunits, reserveUnits]
    omega
  · intro row hrow num hnum hle
    have hrowStored := reservation.stored untouched.stored row hrow
    rw [hrows] at hrow
    obtain ⟨opening, hopening, rfl⟩ := List.mem_map.mp hrow
    rw [hunits] at hle
    exact stored_between (untouched.stored opening hopening) hrowStored hnum hle

/-- `Reback` after `Sell` puts the tables back, with the list that the `Sell`
has recorded and not with its own. -/
theorem reback_reserved {called : List GoodsDetail} (untouched : Untouched ordersn start)
    (returnable : Returnable details start)
    (hcalled : validateStockOperation ordersn called = .ok ())
    (hvalid : validateStockOperation ordersn details = .ok ())
    (reservation : Reservation ordersn (sortByGoods details) start db) :
    (reback ordersn called db).2 = releasedTables start ordersn details := by
  obtain ⟨hne, hdetails, -⟩ := validateStockOperation_ok hvalid
  rw [untouched.trimmed] at hne
  have hfind := reservation_find untouched reservation
  have hget := getSellDetail_known hne untouched.trimmed hfind
  have hsettle := @settle_run db ordersn increase stockSellStatusReleased
    ⟨ordersn, stockSellStatusReserved, sortByGoods details⟩
    { db with inventory := start.inventory } hne untouched.trimmed
    (sortByGoods_ne_nil hdetails) (by decide)
    (increase_reserved untouched returnable hvalid reservation)
    ⟨_, List.mem_of_find?_eq_some hfind, rfl, reserved_ne_released⟩
  have hbody : rebackBody ordersn called db = .ok ((), releasedTables start ordersn details) := by
    simp only [rebackBody, Txn.read_bind, hget, if_neg reserved_ne_released,
      if_neg reserved_ne_confirmed]
    rw [hsettle]
    have hlast : setStatus ordersn stockSellStatusReleased db.stockSellDetail =
        (releasedTables start ordersn details).stockSellDetail := by
      rw [reservation.result]
      exact Table.modify_last rfl untouched.unknown
    rw [hlast]
    rfl
  exact reback_of_ok hcalled hbody

/-- What a negative locked counter is part of is never given back. -/
theorem reback_unreturnable (untouched : Untouched ordersn start)
    (hreturnable : ¬Returnable details start)
    (reservation : Reservation ordersn (sortByGoods details) start db)
    (called : List GoodsDetail) : (reback ordersn called db).2 = db := by
  apply stockOperation_keeps
  intro db' hcalled hrun
  obtain ⟨hne, -, -⟩ := validateStockOperation_ok hcalled
  rw [untouched.trimmed] at hne
  have hget := getSellDetail_known hne untouched.trimmed (reservation_find untouched reservation)
  simp only [rebackBody, Txn.read_bind, hget, if_neg reserved_ne_released,
    if_neg reserved_ne_confirmed] at hrun
  have hheld := settle_held lawful_returnUnits (reservation_oneRow untouched reservation) hrun
  refine absurd (fun row hrow hgoods => ?_) hreturnable
  have htaken := hheld (reserveUnits (units row.goods (sortByGoods details)) row)
    (by rw [reservation.result]; exact List.mem_map_of_mem hrow)
    (sortByGoods_goods.mpr hgoods)
  simp only [reserveUnits] at htaken
  omega

theorem released_get {called : List GoodsDetail} (untouched : Untouched ordersn start)
    (hcalled : validateStockOperation ordersn called = .ok ()) :
    getSellDetail (releasedTables start ordersn details) ordersn =
      .ok ⟨ordersn, stockSellStatusReleased, sortByGoods details⟩ := by
  obtain ⟨hne, -, -⟩ := validateStockOperation_ok hcalled
  rw [untouched.trimmed] at hne
  exact getSellDetail_known hne untouched.trimmed (releasedTables_find untouched details)

theorem reback_released (untouched : Untouched ordersn start) (called details : List GoodsDetail) :
    (reback ordersn called (releasedTables start ordersn details)).2 =
      releasedTables start ordersn details := by
  apply stockOperation_keeps
  intro db' hcalled hrun
  simp only [rebackBody, Txn.read_bind, released_get untouched hcalled, if_true,
    Txn.pure_ok] at hrun
  cases hrun
  rfl

/-- The step lemma of `Reback`: whatever has happened before, it settles the
order. -/
theorem Phase.reback (before : Before ordersn start) (phase : Phase start ordersn details db) :
    Settled start ordersn details (reback ordersn details db).2 := by
  cases phase with
  | fresh => exact reback_fresh before.untouched details
  | reserved valid reservation =>
    exact .inl ⟨valid, reback_reserved before.untouched (before.returnable details) valid valid
      reservation⟩
  | released valid => exact .inl ⟨valid, reback_released before.untouched details details⟩

theorem Settled.phase (settled : Settled start ordersn details db) :
    Phase start ordersn details db := by
  rcases settled with ⟨hvalid, rfl⟩ | ⟨-, rfl⟩
  · exact .released hvalid
  · exact .fresh

theorem Settled.not_reserved (before : Before ordersn start)
    (settled : Settled start ordersn details db) :
    ∀ row ∈ db.stockSellDetail, row.orderSn = ordersn → row.status ≠ stockSellStatusReserved := by
  intro row hrow hsn
  rcases settled with ⟨-, rfl⟩ | ⟨-, rfl⟩
  · rcases List.mem_append.mp hrow with hold | hnew
    · exact absurd hsn (before.unknown row hold)
    · rw [List.mem_singleton.mp hnew]
      exact reserved_ne_released.symm
  · exact absurd hsn (before.unknown row hrow)

end Operations

end Goshop.Inventory.Compensation
