import Goshop.Inventory.Model
import Goshop.Lib.Table
import Mathlib.Algebra.Order.BigOperators.Group.List
import Mathlib.Algebra.Ring.Int.Defs

/-! What each operation of the inventory service can do to the tables, said
once: the old tables, or one of a few closed forms of the new ones. -/
namespace Goshop.Inventory.Steps

open Goshop.Errors Goshop.Lib Goshop.Lib.Transaction Goshop.Inventory.Model
open Goshop.Lib.GoText (trimSpace)

theorem reserved_ne_released : stockSellStatusReserved ≠ stockSellStatusReleased := by decide

theorem reserved_ne_confirmed : stockSellStatusReserved ≠ stockSellStatusConfirmed := by decide

theorem released_ne_confirmed : stockSellStatusReleased ≠ stockSellStatusConfirmed := by decide

def units (goods : Int) (detail : List GoodsDetail) : Int :=
  ((detail.filter (·.goods = goods)).map (·.num)).sum

@[simp] theorem units_nil (goods : Int) : units goods [] = 0 := rfl

theorem units_append (goods : Int) (first second : List GoodsDetail) :
    units goods (first ++ second) = units goods first + units goods second := by
  simp [units]

theorem units_cons (goods : Int) (item : GoodsDetail) (rest : List GoodsDetail) :
    units goods (item :: rest) =
      (if item.goods = goods then item.num else 0) + units goods rest := by
  by_cases h : item.goods = goods <;> simp [units, h]

theorem units_singleton (goods : Int) (item : GoodsDetail) :
    units goods [item] = if item.goods = goods then item.num else 0 := by
  by_cases h : item.goods = goods <;> simp [units, h]

theorem units_nonneg {detail : List GoodsDetail} (goods : Int)
    (h : ∀ item ∈ detail, 0 < item.num) : 0 ≤ units goods detail := by
  unfold units
  apply List.sum_nonneg
  intro num hnum
  obtain ⟨item, hitem, rfl⟩ := List.mem_map.mp hnum
  exact (h item (List.mem_filter.mp hitem).1).le

theorem units_eq_zero {goods : Int} {items : List GoodsDetail}
    (h : ∀ item ∈ items, item.goods ≠ goods) : units goods items = 0 := by
  have hfilter : items.filter (·.goods = goods) = [] := by simpa using h
  rw [units, hfilter]
  rfl

theorem units_sortByGoods (goods : Int) (detail : List GoodsDetail) :
    units goods (sortByGoods detail) = units goods detail := by
  unfold units sortByGoods
  exact (((List.perm_insertionSort _ detail).filter _).map _).sum_eq

theorem sortByGoods_goods {goods : Int} {detail : List GoodsDetail} :
    goods ∈ (sortByGoods detail).map (·.goods) ↔ goods ∈ detail.map (·.goods) :=
  ((List.perm_insertionSort _ detail).map _).mem_iff

structure LawfulShift (source : InventoryDO → Int) (shift : Int → InventoryDO → InventoryDO) :
    Prop where
  goods : ∀ num row, (shift num row).goods = row.goods
  source : ∀ num row, source (shift num row) = source row - num
  zero : ∀ row, shift 0 row = row
  add : ∀ first second row, shift second (shift first row) = shift (first + second) row

theorem lawful_reserveUnits : LawfulShift (·.available) reserveUnits where
  goods _ _ := rfl
  source _ _ := rfl
  zero row := by simp [reserveUnits]
  add first second row := by
    simp only [reserveUnits, InventoryDO.mk.injEq, true_and, and_true]
    omega

theorem lawful_returnUnits : LawfulShift (·.locked) returnUnits where
  goods _ _ := rfl
  source _ _ := rfl
  zero row := by simp [returnUnits]
  add first second row := by
    simp only [returnUnits, InventoryDO.mk.injEq, true_and, and_true]
    omega

theorem lawful_sellUnits : LawfulShift (·.locked) sellUnits where
  goods _ _ := rfl
  source _ _ := rfl
  zero row := by simp [sellUnits]
  add first second row := by
    simp only [sellUnits, InventoryDO.mk.injEq, true_and]
    omega

def OneRowPerGoods (db : InventoryDB) : Prop :=
  (db.inventory.map (·.goods)).Nodup

instance (db : InventoryDB) : Decidable (OneRowPerGoods db) :=
  inferInstanceAs (Decidable (List.Nodup _))

def Stored (row : InventoryDO) : Prop :=
  Sql.FitsInt row.stocks ∧ Sql.FitsInt row.available ∧ Sql.FitsInt row.locked ∧
    Sql.FitsInt row.sold

instance (row : InventoryDO) : Decidable (Stored row) :=
  inferInstanceAs (Decidable (_ ∧ _))

section Move

variable {operation : String} {source : InventoryDO → Int}
  {shift : Int → InventoryDO → InventoryDO} {missing : AppError} {goodsID num : Int}
  {db db' : InventoryDB}

theorem storeInventory_ok {row row' : InventoryDO} (h : storeInventory operation row = .ok row') :
    row' = row ∧ Stored row' := by
  unfold storeInventory at h
  split at h
  · rename_i hfits
    cases h
    exact ⟨rfl, hfits⟩
  · cases h

theorem storeInventory_stored {row : InventoryDO} (h : Stored row) :
    storeInventory operation row = .ok row :=
  if_pos h

theorem moveStock_ok
    (h : moveStock operation source shift missing goodsID num db = .ok ((), db')) :
    0 < num ∧ (∃ row ∈ db.inventory, row.goods = goodsID ∧ num ≤ source row) ∧
      db' = { db with inventory := db.inventory.map fun row =>
        if row.goods = goodsID ∧ num ≤ source row then shift num row else row } := by
  simp only [moveStock, Txn.guard_bind_ok, Txn.read_bind, Txn.lift_bind_ok, Txn.write_bind,
    Txn.guard_ok] at h
  obtain ⟨-, hnum, rows, hrows, haffected, hend⟩ := h
  cases hend
  have hmap := Sql.update_eq_map (fun row row' hrow => (storeInventory_ok hrow).1) hrows
  simp only [decide_eq_true_eq] at hmap hnum haffected
  refine ⟨hnum, ?_, by rw [hmap]⟩
  rw [hmap, Sql.affected_map_ne_zero] at haffected
  obtain ⟨row, hrow, hchanged⟩ := haffected
  by_cases hsel : row.goods = goodsID ∧ num ≤ source row
  · exact ⟨row, hrow, hsel⟩
  · simp [hsel] at hchanged

theorem moveStock_stored (hstored : ∀ row ∈ db.inventory, Stored row)
    (h : moveStock operation source shift missing goodsID num db = .ok ((), db')) :
    ∀ row ∈ db'.inventory, Stored row := by
  simp only [moveStock, Txn.guard_bind_ok, Txn.read_bind, Txn.lift_bind_ok, Txn.write_bind,
    Txn.guard_ok] at h
  obtain ⟨-, -, rows, hrows, -, hend⟩ := h
  cases hend
  exact Sql.update_forall hstored (fun row row' hrow => (storeInventory_ok hrow).2) hrows

/-- A move succeeds when some row holds the units and every row that it reaches
still fits. -/
theorem moveStock_total (law : LawfulShift source shift) (hgoods : goodsID ≠ 0) (hnum : 0 < num)
    (hheld : ∃ row ∈ db.inventory, row.goods = goodsID ∧ num ≤ source row)
    (hfits : ∀ row ∈ db.inventory, row.goods = goodsID → Stored (shift num row)) :
    ∃ db', moveStock operation source shift missing goodsID num db = .ok ((), db') := by
  obtain ⟨rows, hrows⟩ : ∃ rows, Sql.update (fun row => row.goods = goodsID ∧ num ≤ source row)
      (fun row => storeInventory operation (shift num row)) db.inventory = .ok rows := by
    apply Sql.update_total
    intro row hrow hselected
    have hrowGoods : row.goods = goodsID := by
      simp only [decide_eq_true_eq] at hselected
      exact hselected.1
    exact ⟨_, storeInventory_stored (hfits row hrow hrowGoods)⟩
  have hmap := Sql.update_eq_map (fun row row' hrow => (storeInventory_ok hrow).1) hrows
  have haffected : Sql.affected db.inventory rows ≠ 0 := by
    rw [hmap, Sql.affected_map_ne_zero]
    obtain ⟨row, hrow, hselected⟩ := hheld
    refine ⟨row, hrow, fun hsame => ?_⟩
    rw [if_pos (decide_eq_true hselected)] at hsame
    have hsource := law.source num row
    rw [hsame] at hsource
    omega
  refine ⟨{ db with inventory := rows }, ?_⟩
  simp only [moveStock, Txn.guard_bind_ok, Txn.read_bind, Txn.lift_bind_ok, Txn.write_bind,
    Txn.guard_ok]
  exact ⟨by simpa using hgoods, by simpa using hnum, rows, hrows, by simpa using haffected, rfl⟩

/-- The statement fails because no row holds the units, or because one that does would
leave the range of its columns. -/
theorem moveStock_error {err : AppError} (law : LawfulShift source shift) (hgoods : goodsID ≠ 0)
    (hnum : 0 < num) (h : moveStock operation source shift missing goodsID num db = .error err) :
    (err = missing ∧ ∀ row ∈ db.inventory, row.goods = goodsID → source row < num) ∨
      err = wrapDatabase operation ∧ ∃ row ∈ db.inventory, row.goods = goodsID ∧
        num ≤ source row ∧ ¬Stored (shift num row) := by
  simp only [moveStock, decide_eq_true hgoods, decide_eq_true hnum, Txn.guard_true_bind,
    Txn.read_bind] at h
  cases hrows : Sql.update (fun row => decide (row.goods = goodsID ∧ num ≤ source row))
      (fun row => storeInventory operation (shift num row)) db.inventory with
  | error err' =>
    rw [hrows, Txn.lift_error_bind] at h
    cases h
    obtain ⟨row, hrow, hselected, hstore⟩ := Sql.update_error hrows
    obtain ⟨hrowGoods, henough⟩ := of_decide_eq_true hselected
    rw [storeInventory] at hstore
    split at hstore
    · cases hstore
    · rename_i hunfit
      cases hstore
      exact .inr ⟨rfl, row, hrow, hrowGoods, henough, hunfit⟩
  | ok rows =>
    rw [hrows, Txn.lift_ok_bind, Txn.write_bind] at h
    have hmap := Sql.update_eq_map (fun row row' hrow => (storeInventory_ok hrow).1) hrows
    by_cases haffected : Sql.affected db.inventory rows ≠ 0
    · rw [decide_eq_true haffected] at h
      cases h
    · rw [decide_eq_false haffected] at h
      cases h
      refine .inl ⟨rfl, fun row hrow hrowGoods => ?_⟩
      by_contra henough
      apply haffected
      rw [hmap, Sql.affected_map_ne_zero]
      refine ⟨row, hrow, fun hsame => ?_⟩
      rw [if_pos (decide_eq_true ⟨hrowGoods, Int.not_lt.mp henough⟩)] at hsame
      have hsource := law.source num row
      rw [hsame] at hsource
      omega

theorem moveStock_whole (hone : OneRowPerGoods db)
    (h : moveStock operation source shift missing goodsID num db = .ok ((), db')) :
    0 < num ∧ (∀ row ∈ db.inventory, row.goods = goodsID → num ≤ source row) ∧
      db' = { db with inventory := db.inventory.map fun row =>
        if row.goods = goodsID then shift num row else row } := by
  obtain ⟨hnum, ⟨held, hheld, hgoods, henough⟩, hdb'⟩ := moveStock_ok h
  have hall : ∀ row ∈ db.inventory, row.goods = goodsID → num ≤ source row := by
    intro row hrow hrowGoods
    have hsame : row = held :=
      List.inj_on_of_nodup_map hone hrow hheld (hrowGoods.trans hgoods.symm)
    rw [hsame]
    exact henough
  refine ⟨hnum, hall, ?_⟩
  rw [hdb']
  congr 1
  apply List.map_congr_left
  intro row hrow
  by_cases hrowGoods : row.goods = goodsID
  · simp [hrowGoods, hall row hrow hrowGoods]
  · simp [hrowGoods]

end Move

def shiftAll (shift : Int → InventoryDO → InventoryDO) (detail : List GoodsDetail)
    (rows : List InventoryDO) : List InventoryDO :=
  rows.map fun row => shift (units row.goods detail) row

theorem shiftAll_nil {source : InventoryDO → Int} {shift : Int → InventoryDO → InventoryDO}
    (law : LawfulShift source shift) (rows : List InventoryDO) :
    shiftAll shift [] rows = rows := by
  simp [shiftAll, law.zero]

theorem shiftAll_goods {source : InventoryDO → Int} {shift : Int → InventoryDO → InventoryDO}
    (law : LawfulShift source shift) (detail : List GoodsDetail) (rows : List InventoryDO) :
    (shiftAll shift detail rows).map (·.goods) = rows.map (·.goods) := by
  simp [shiftAll, law.goods, Function.comp_def]

theorem shiftAll_oneRow {source : InventoryDO → Int} {shift : Int → InventoryDO → InventoryDO}
    (law : LawfulShift source shift) (detail : List GoodsDetail) {db : InventoryDB}
    (hone : OneRowPerGoods db) :
    OneRowPerGoods { db with inventory := shiftAll shift detail db.inventory } := by
  unfold OneRowPerGoods
  rw [shiftAll_goods law]
  exact hone

theorem shiftAll_snoc {source : InventoryDO → Int} {shift : Int → InventoryDO → InventoryDO}
    (law : LawfulShift source shift) (detail : List GoodsDetail) (item : GoodsDetail)
    (rows : List InventoryDO) :
    ((shiftAll shift detail rows).map fun row =>
      if row.goods = item.goods then shift item.num row else row) =
      shiftAll shift (detail ++ [item]) rows := by
  unfold shiftAll
  rw [List.map_map]
  apply List.map_congr_left
  intro row _
  rw [Function.comp_apply, law.goods, units_append, units_singleton]
  by_cases hgoods : row.goods = item.goods
  · rw [if_pos hgoods, if_pos hgoods.symm, law.add]
  · rw [if_neg hgoods, if_neg (Ne.symm hgoods), add_zero]

def Holds (source : InventoryDO → Int) (detail : List GoodsDetail) (rows : List InventoryDO) :
    Prop :=
  ∀ row ∈ rows, 0 ≤ units row.goods detail ∧
    (0 ≤ source row → units row.goods detail ≤ source row)

/-- A loop of moves that runs to its end has moved all items. A counter holds
what is taken from it, unless it was negative and nothing is taken. -/
theorem moveAll_moved {operation : String} {source : InventoryDO → Int}
    {shift : Int → InventoryDO → InventoryDO} {missing : AppError} {items : List GoodsDetail}
    {db db' : InventoryDB} (law : LawfulShift source shift) (hone : OneRowPerGoods db)
    (h : (forM items fun item => moveStock operation source shift missing item.goods item.num :
      StockTxn Unit) db = .ok ((), db')) :
    (∀ item ∈ items, 0 < item.num) ∧
      db' = { db with inventory := shiftAll shift items db.inventory } ∧
      ∀ row ∈ db.inventory, 0 ≤ source row ∨ row.goods ∈ items.map (·.goods) →
        units row.goods items ≤ source row := by
  refine Txn.forM_ok (fun done mid => (∀ item ∈ done, 0 < item.num) ∧
    mid = { db with inventory := shiftAll shift done db.inventory } ∧
      ∀ row ∈ db.inventory, 0 ≤ source row ∨ row.goods ∈ done.map (·.goods) →
        units row.goods done ≤ source row) ?_ ?_ h
  · exact ⟨by simp, by rw [shiftAll_nil law], fun row _ hrow => by simpa using hrow⟩
  · rintro done item mid mid' - ⟨hpositive, rfl, hdone⟩ hitem
    obtain ⟨hnum, henough, rfl⟩ := moveStock_whole (shiftAll_oneRow law done hone) hitem
    refine ⟨?_, by simp only [shiftAll_snoc law], fun row hrow hsource => ?_⟩
    · intro other hother
      rcases List.mem_append.mp hother with hother | hother
      · exact hpositive other hother
      · rw [List.mem_singleton.mp hother]
        exact hnum
    · rw [units_append, units_singleton]
      by_cases hgoods : item.goods = row.goods
      · have hmoved := henough (shift (units row.goods done) row)
          (List.mem_map_of_mem hrow) (by rw [law.goods, hgoods])
        rw [law.source] at hmoved
        rw [if_pos hgoods]
        omega
      · rw [if_neg hgoods, add_zero]
        apply hdone row hrow
        simpa [Ne.symm hgoods] using hsource

theorem moveAll_ok {operation : String} {source : InventoryDO → Int}
    {shift : Int → InventoryDO → InventoryDO} {missing : AppError} {items : List GoodsDetail}
    {db db' : InventoryDB} (law : LawfulShift source shift) (hone : OneRowPerGoods db)
    (h : (forM items fun item => moveStock operation source shift missing item.goods item.num :
      StockTxn Unit) db = .ok ((), db')) :
    db' = { db with inventory := shiftAll shift items db.inventory } ∧
      Holds source items db.inventory := by
  obtain ⟨hpositive, hdb', henough⟩ := moveAll_moved law hone h
  refine ⟨hdb', fun row hrow => ⟨units_nonneg row.goods hpositive, fun hsource => ?_⟩⟩
  exact henough row hrow (.inl hsource)

section Loop

variable {operation : String} {source : InventoryDO → Int}
  {shift : Int → InventoryDO → InventoryDO} {missing : AppError} {items : List GoodsDetail}
  {db db' : InventoryDB}

theorem moveAll_stored (hstored : ∀ row ∈ db.inventory, Stored row)
    (h : (forM items fun item => moveStock operation source shift missing item.goods item.num :
      StockTxn Unit) db = .ok ((), db')) : ∀ row ∈ db'.inventory, Stored row := by
  refine Txn.forM_ok (fun _ mid => ∀ row ∈ mid.inventory, Stored row) hstored ?_ h
  intro done item mid mid' _ hmid hitem
  exact moveStock_stored hmid hitem

theorem moveAll_details
    (h : (forM items fun item => moveStock operation source shift missing item.goods item.num :
      StockTxn Unit) db = .ok ((), db')) : db'.stockSellDetail = db.stockSellDetail := by
  refine Txn.forM_ok (fun _ mid => mid.stockSellDetail = db.stockSellDetail) rfl ?_ h
  intro done item mid mid' _ hmid hitem
  obtain ⟨-, -, rfl⟩ := moveStock_ok hitem
  exact hmid

theorem moveStock_goods (law : LawfulShift source shift) {goodsID num : Int}
    (h : moveStock operation source shift missing goodsID num db = .ok ((), db')) :
    goodsID ∈ db.inventory.map (·.goods) ∧
      db'.inventory.map (·.goods) = db.inventory.map (·.goods) := by
  obtain ⟨-, ⟨row, hrow, hgoods, -⟩, rfl⟩ := moveStock_ok h
  refine ⟨List.mem_map.mpr ⟨row, hrow, hgoods⟩, ?_⟩
  rw [List.map_map]
  apply List.map_congr_left
  intro other _
  rw [Function.comp_apply]
  split
  · exact law.goods _ _
  · rfl

theorem moveAll_known (law : LawfulShift source shift)
    (h : (forM items fun item => moveStock operation source shift missing item.goods item.num :
      StockTxn Unit) db = .ok ((), db')) :
    ∀ item ∈ items, item.goods ∈ db.inventory.map (·.goods) := by
  refine (Txn.forM_ok (fun done mid =>
    (∀ item ∈ done, item.goods ∈ db.inventory.map (·.goods)) ∧
      mid.inventory.map (·.goods) = db.inventory.map (·.goods)) ⟨by simp, rfl⟩ ?_ h).1
  rintro done item mid mid' - ⟨hdone, hsame⟩ hitem
  obtain ⟨hknown, hkeeps⟩ := moveStock_goods law hitem
  rw [hsame] at hknown hkeeps
  refine ⟨?_, hkeeps⟩
  intro other hother
  rcases List.mem_append.mp hother with hother | hother
  · exact hdone other hother
  · rw [List.mem_singleton.mp hother]
    exact hknown

theorem shiftAll_held (law : LawfulShift source shift) {rows : List InventoryDO}
    {done : List GoodsDetail} {item : GoodsDetail}
    (hunits : ∀ row ∈ rows, row.goods = item.goods →
      units row.goods done + item.num ≤ units row.goods items)
    (hheld : ∀ row ∈ rows, row.goods = item.goods → units row.goods items ≤ source row)
    (hknown : item.goods ∈ rows.map (·.goods)) :
    ∃ row ∈ shiftAll shift done rows, row.goods = item.goods ∧ item.num ≤ source row := by
  obtain ⟨row, hrow, hgoods⟩ := List.mem_map.mp hknown
  refine ⟨_, List.mem_map_of_mem hrow, by rw [law.goods, hgoods], ?_⟩
  have hpart := hunits row hrow hgoods
  have hall := hheld row hrow hgoods
  rw [law.source]
  omega

theorem shiftAll_fits (law : LawfulShift source shift) {rows : List InventoryDO}
    {done : List GoodsDetail} {item : GoodsDetail}
    (hunits : ∀ row ∈ rows, row.goods = item.goods →
      units row.goods done + item.num ≤ units row.goods items)
    (hfits : ∀ row ∈ rows, ∀ num, 0 ≤ num → num ≤ units row.goods items → Stored (shift num row))
    (hdone : ∀ row : InventoryDO, 0 ≤ units row.goods done) (hnum : 0 < item.num) :
    ∀ row ∈ shiftAll shift done rows, row.goods = item.goods → Stored (shift item.num row) := by
  intro row hrow hgoods
  obtain ⟨before, hbefore, rfl⟩ := List.mem_map.mp hrow
  rw [law.goods] at hgoods
  have hnonneg := hdone before
  rw [law.add]
  exact hfits before hbefore _ (by omega) (hunits before hbefore hgoods)

theorem moveAll_total (law : LawfulShift source shift) (hone : OneRowPerGoods db)
    (hitems : ∀ item ∈ items, item.goods ≠ 0 ∧ 0 < item.num)
    (hknown : ∀ item ∈ items, item.goods ∈ db.inventory.map (·.goods))
    (hheld : ∀ row ∈ db.inventory, row.goods ∈ items.map (·.goods) →
      units row.goods items ≤ source row)
    (hfits : ∀ row ∈ db.inventory, ∀ num, 0 ≤ num → num ≤ units row.goods items →
      Stored (shift num row)) :
    (forM items fun item => moveStock operation source shift missing item.goods item.num :
      StockTxn Unit) db = .ok ((), { db with inventory := shiftAll shift items db.inventory }) := by
  have hloop : ∃ db', (forM items fun item =>
      moveStock operation source shift missing item.goods item.num : StockTxn Unit) db =
        .ok ((), db') ∧ db' = { db with inventory := shiftAll shift items db.inventory } := by
    refine Txn.forM_total (fun (done : List GoodsDetail) (mid : InventoryDB) =>
      mid = { db with inventory := shiftAll shift done db.inventory })
      (by rw [shiftAll_nil law]) ?_
    rintro done item rest mid hsplit rfl
    subst hsplit
    obtain ⟨hgoods, hnum⟩ := hitems item (by simp)
    have hdone : ∀ row : InventoryDO, 0 ≤ units row.goods done := fun row =>
      units_nonneg row.goods fun other hother => (hitems other (by simp [hother])).2
    have hunits : ∀ row ∈ db.inventory, row.goods = item.goods →
        units row.goods done + item.num ≤ units row.goods (done ++ item :: rest) := by
      intro row _ hrowGoods
      have hrest : 0 ≤ units row.goods rest :=
        units_nonneg row.goods fun other hother => (hitems other (by simp [hother])).2
      rw [units_append, units_cons, if_pos hrowGoods.symm]
      omega
    have hmove : ∃ db', moveStock operation source shift missing item.goods item.num
        { db with inventory := shiftAll shift done db.inventory } = .ok ((), db') := by
      apply moveStock_total law hgoods hnum
      · refine shiftAll_held law hunits (fun row hrow hrowGoods => ?_) (hknown item (by simp))
        exact hheld row hrow (by simp [hrowGoods])
      · exact shiftAll_fits law hunits hfits hdone hnum
    obtain ⟨db', hmove⟩ := hmove
    obtain ⟨-, -, rfl⟩ := moveStock_whole (shiftAll_oneRow law done hone) hmove
    exact ⟨_, hmove, by simp only [shiftAll_snoc law]⟩
  obtain ⟨db', hrun, rfl⟩ := hloop
  exact hrun

end Loop

section Orders

variable {db db' : InventoryDB} {ordersn : String} {details : List GoodsDetail}

def setStatus (ordersn : String) (status : Int) (rows : List StockSellDetailDO) :
    List StockSellDetailDO :=
  Table.modify (·.orderSn) ordersn (fun row => { row with status := status }) rows

theorem getSellDetail_ok {row : StockSellDetailDO} (h : getSellDetail db ordersn = .ok row) :
    db.stockSellDetail.find? (·.orderSn = trimSpace ordersn) = some row := by
  simp only [getSellDetail] at h
  split at h
  · cases h
  · split at h
    · rename_i found hfound
      cases h
      exact hfound
    · cases h

theorem getSellDetail_known {row : StockSellDetailDO} (hne : ordersn ≠ "")
    (hsn : trimSpace ordersn = ordersn)
    (hfind : db.stockSellDetail.find? (·.orderSn = ordersn) = some row) :
    getSellDetail db ordersn = .ok row := by
  simp only [getSellDetail, hsn, if_neg hne, hfind]

theorem getSellDetail_unknown (hsn : trimSpace ordersn = ordersn)
    (hunknown : ∀ row ∈ db.stockSellDetail, row.orderSn ≠ ordersn) :
    ∃ err, getSellDetail db ordersn = .error err ∧ err.code = .errInvSellDetailNotFound := by
  have hfind : db.stockSellDetail.find? (·.orderSn = ordersn) = none := by
    simpa using hunknown
  simp only [getSellDetail, hsn, hfind]
  split <;> exact ⟨_, rfl, rfl⟩

theorem updateStockSellDetailStatus_run {status : Int} (hne : ordersn ≠ "")
    (hsn : trimSpace ordersn = ordersn) (hstatus : 0 < status)
    (hchanged : ∃ row ∈ db.stockSellDetail, row.orderSn = ordersn ∧ row.status ≠ status) :
    updateStockSellDetailStatus ordersn status db =
      .ok ((), { db with stockSellDetail := setStatus ordersn status db.stockSellDetail }) := by
  have haffected : Sql.affected db.stockSellDetail
      (setStatus ordersn status db.stockSellDetail) ≠ 0 := by
    unfold setStatus Table.modify
    rw [Sql.affected_map_ne_zero]
    obtain ⟨row, hrow, hrowSn, hrowStatus⟩ := hchanged
    refine ⟨row, hrow, fun hsame => hrowStatus ?_⟩
    rw [if_pos hrowSn] at hsame
    exact (congrArg StockSellDetailDO.status hsame).symm
  simp only [updateStockSellDetailStatus, hsn, Txn.guard_bind_ok, Txn.read_bind, Txn.write_bind,
    Txn.guard_ok]
  exact ⟨by simpa using hne, by simpa using hstatus, decide_eq_true haffected, rfl⟩

theorem updateStockSellDetailStatus_ok {status : Int}
    (h : updateStockSellDetailStatus ordersn status db = .ok ((), db')) :
    db' = { db with
      stockSellDetail := setStatus (trimSpace ordersn) status db.stockSellDetail } := by
  simp only [updateStockSellDetailStatus, Txn.guard_bind_ok, Txn.read_bind, Txn.write_bind,
    Txn.guard_ok] at h
  obtain ⟨-, -, -, hend⟩ := h
  cases hend
  rfl

theorem createStockSellDetail_ok {row : StockSellDetailDO}
    (h : createStockSellDetail row db = .ok ((), db')) :
    fitsSellDetail row = true ∧ (∀ other ∈ db.stockSellDetail, other.orderSn ≠ row.orderSn) ∧
      db' = { db with stockSellDetail := db.stockSellDetail ++ [row] } := by
  simp only [createStockSellDetail, Txn.lift_bind_ok, Txn.read_bind, Txn.guard_bind_ok,
    Txn.write_ok] at h
  obtain ⟨_, -, hfresh, hwrite⟩ := h
  cases hwrite
  simp only [Bool.and_eq_true, Bool.not_eq_true', List.any_eq_false, decide_eq_true_eq] at hfresh
  exact ⟨hfresh.1, hfresh.2, rfl⟩

theorem createStockSellDetailIfAbsent_ok {row : StockSellDetailDO} {created : Bool}
    (h : createStockSellDetailIfAbsent row db = .ok (created, db')) :
    ((∃ other ∈ db.stockSellDetail, other.orderSn = row.orderSn) ∧ db' = db) ∨
      (∀ other ∈ db.stockSellDetail, other.orderSn ≠ row.orderSn) ∧
      db' = { db with stockSellDetail := db.stockSellDetail ++ [row] } := by
  simp only [createStockSellDetailIfAbsent, Txn.lift_bind_ok, Txn.read_bind,
    Txn.guard_bind_ok] at h
  obtain ⟨_, -, -, hbranch⟩ := h
  split at hbranch
  · rename_i hknown
    rw [Txn.pure_ok] at hbranch
    cases hbranch
    exact .inl ⟨by simpa using hknown, rfl⟩
  · rename_i hfresh
    rw [Txn.write_bind, Txn.pure_ok] at hbranch
    cases hbranch
    simp only [List.any_eq_true, decide_eq_true_eq, not_exists, not_and] at hfresh
    exact .inr ⟨hfresh, rfl⟩

theorem createStockSellDetailIfAbsent_run {row : StockSellDetailDO}
    (hvalid : validateStockSellDetail row = .ok ()) (hfits : fitsSellDetail row = true)
    (hfresh : ∀ other ∈ db.stockSellDetail, other.orderSn ≠ row.orderSn) :
    createStockSellDetailIfAbsent row db =
      .ok (true, { db with stockSellDetail := db.stockSellDetail ++ [row] }) := by
  have hany : db.stockSellDetail.any (·.orderSn = row.orderSn) = false := by
    simpa using hfresh
  simp only [createStockSellDetailIfAbsent, hvalid, hfits, Txn.lift_ok_bind, Txn.read_bind,
    Txn.guard_true_bind, hany, Bool.false_eq_true, if_false]
  rfl

theorem createStockSellDetailIfAbsent_unfit {row : StockSellDetailDO}
    (hfits : fitsSellDetail row = false) (db : InventoryDB) :
    ∃ err, createStockSellDetailIfAbsent row db = .error err := by
  cases hvalid : validateStockSellDetail row with
  | error err =>
    exact ⟨err, by simp only [createStockSellDetailIfAbsent, hvalid, Txn.lift_error_bind]⟩
  | ok _ =>
    refine ⟨wrapDatabase "create inventory sell detail if absent", ?_⟩
    simp only [createStockSellDetailIfAbsent, hvalid, hfits, Txn.lift_ok_bind, Txn.read_bind,
      Txn.guard_false_bind]

/-- What taking the stock of an order amounts to. -/
structure Reservation (ordersn : String) (detail : List GoodsDetail) (db db' : InventoryDB) :
    Prop where
  fits : fitsSellDetail ⟨ordersn, stockSellStatusReserved, detail⟩ = true
  fresh : ∀ other ∈ db.stockSellDetail, other.orderSn ≠ ordersn
  holds : Holds (·.available) detail db.inventory
  known : ∀ item ∈ detail, item.goods ∈ db.inventory.map (·.goods)
  stored : (∀ row ∈ db.inventory, Stored row) → ∀ row ∈ db'.inventory, Stored row
  result : db' = ⟨shiftAll reserveUnits detail db.inventory,
    db.stockSellDetail ++ [⟨ordersn, stockSellStatusReserved, detail⟩]⟩

theorem reserve_ok {detail : List GoodsDetail} (hone : OneRowPerGoods db)
    (h : reserve ordersn detail db = .ok ((), db')) : Reservation ordersn detail db db' := by
  rw [reserve, Txn.bind_ok] at h
  obtain ⟨_, mid, hmove, hcreate⟩ := h
  have hknown := moveAll_known lawful_reserveUnits hmove
  have hstored := fun hdb => moveAll_stored hdb hmove
  obtain ⟨rfl, hholds⟩ := moveAll_ok lawful_reserveUnits hone hmove
  obtain ⟨hfits, hfresh, rfl⟩ := createStockSellDetail_ok hcreate
  exact ⟨hfits, hfresh, hholds, hknown, hstored, rfl⟩

theorem settle_ok {operation : String} {source : InventoryDO → Int}
    {shift : Int → InventoryDO → InventoryDO} {missing : AppError} {status : Int}
    {row : StockSellDetailDO} (law : LawfulShift source shift) (hone : OneRowPerGoods db)
    (h : settle (moveStock operation source shift missing) status ordersn row db =
      .ok ((), db')) :
    Holds source row.detail db.inventory ∧
      db' = ⟨shiftAll shift row.detail db.inventory,
        setStatus (trimSpace ordersn) status db.stockSellDetail⟩ := by
  rw [settle, Txn.guard_bind_ok, Txn.bind_ok] at h
  obtain ⟨-, _, mid, hmove, hstatus⟩ := h
  obtain ⟨rfl, henough⟩ := moveAll_ok law hone hmove
  rw [updateStockSellDetailStatus_ok hstatus]
  simp only [Holds, units_sortByGoods] at henough
  refine ⟨henough, ?_⟩
  simp only [shiftAll, units_sortByGoods]

theorem settle_held {operation : String} {source : InventoryDO → Int}
    {shift : Int → InventoryDO → InventoryDO} {missing : AppError} {status : Int}
    {row : StockSellDetailDO} (law : LawfulShift source shift) (hone : OneRowPerGoods db)
    (h : settle (moveStock operation source shift missing) status ordersn row db =
      .ok ((), db')) :
    ∀ stock ∈ db.inventory, stock.goods ∈ row.detail.map (·.goods) →
      units stock.goods row.detail ≤ source stock := by
  rw [settle, Txn.guard_bind_ok, Txn.bind_ok] at h
  obtain ⟨-, _, mid, hmove, -⟩ := h
  obtain ⟨-, -, henough⟩ := moveAll_moved law hone hmove
  intro stock hstock hgoods
  rw [← units_sortByGoods]
  exact henough stock hstock (.inr (sortByGoods_goods.mpr hgoods))

theorem settle_run {move : Int → Int → StockTxn Unit} {status : Int} {row : StockSellDetailDO}
    {mid : InventoryDB} (hne : ordersn ≠ "") (hsn : trimSpace ordersn = ordersn)
    (hdetail : row.detail ≠ []) (hstatus : 0 < status)
    (hloop : (forM (sortByGoods row.detail) fun item => move item.goods item.num :
      StockTxn Unit) db = .ok ((), mid))
    (hchanged : ∃ other ∈ mid.stockSellDetail, other.orderSn = ordersn ∧ other.status ≠ status) :
    settle move status ordersn row db =
      .ok ((), { mid with stockSellDetail := setStatus ordersn status mid.stockSellDetail }) := by
  rw [settle, decide_eq_true hdetail, Txn.guard_true_bind, Txn.bind_of_ok hloop]
  exact updateStockSellDetailStatus_run hne hsn hstatus hchanged

theorem sellBody_ok {detail : List GoodsDetail} (hone : OneRowPerGoods db)
    (h : sellBody ordersn detail db = .ok ((), db')) :
    (∃ row, getSellDetail db ordersn = .ok row ∧ db' = db) ∨
      Reservation ordersn detail db db' := by
  rw [sellBody, Txn.read_bind] at h
  cases hrow : getSellDetail db ordersn with
  | ok row =>
    simp only [hrow] at h
    split at h
    · cases Txn.pure_ok.mp h
      exact .inl ⟨row, rfl, rfl⟩
    · split at h
      · cases Txn.pure_ok.mp h
        exact .inl ⟨row, rfl, rfl⟩
      · exact .inr (reserve_ok hone h)
  | error err =>
    simp only [hrow] at h
    split at h
    · exact .inr (reserve_ok hone h)
    · cases Txn.fail_ok.mp h

/-- `Reback` ignores a settled order, releases a reserved one, and leaves a mark
for an order it does not know. -/
theorem rebackBody_ok (hone : OneRowPerGoods db)
    (h : rebackBody ordersn details db = .ok ((), db')) :
    (∃ row, getSellDetail db ordersn = .ok row ∧
        (row.status = stockSellStatusReleased ∨ row.status = stockSellStatusConfirmed) ∧
        db' = db) ∨
      (∃ row, getSellDetail db ordersn = .ok row ∧ row.status ≠ stockSellStatusReleased ∧
        row.status ≠ stockSellStatusConfirmed ∧
        Holds (·.locked) row.detail db.inventory ∧
        db' = ⟨shiftAll returnUnits row.detail db.inventory, setStatus (trimSpace ordersn)
          stockSellStatusReleased db.stockSellDetail⟩) ∨
      (∃ err, getSellDetail db ordersn = .error err) ∧
        (((∃ other ∈ db.stockSellDetail, other.orderSn = ordersn) ∧ db' = db) ∨
          (∀ other ∈ db.stockSellDetail, other.orderSn ≠ ordersn) ∧
          db' = { db with stockSellDetail := db.stockSellDetail ++
            [⟨ordersn, stockSellStatusReleased, sortByGoods details⟩] }) := by
  rw [rebackBody, Txn.read_bind] at h
  cases hrow : getSellDetail db ordersn with
  | ok row =>
    simp only [hrow] at h
    split at h
    · rename_i hstatus
      cases Txn.pure_ok.mp h
      exact .inl ⟨row, rfl, .inl hstatus, rfl⟩
    · rename_i hnotReleased
      split at h
      · rename_i hstatus
        cases Txn.pure_ok.mp h
        exact .inl ⟨row, rfl, .inr hstatus, rfl⟩
      · rename_i hnotConfirmed
        obtain ⟨henough, hdb'⟩ := settle_ok lawful_returnUnits hone h
        exact .inr (.inl ⟨row, rfl, hnotReleased, hnotConfirmed, henough, hdb'⟩)
  | error err =>
    simp only [hrow] at h
    split at h
    · simp only [Txn.bind_ok, Txn.pure_ok] at h
      obtain ⟨created, mid, hcreate, hend⟩ := h
      cases hend
      exact .inr (.inr ⟨⟨err, rfl⟩, createStockSellDetailIfAbsent_ok hcreate⟩)
    · cases Txn.fail_ok.mp h

theorem confirmBody_ok (hone : OneRowPerGoods db) (h : confirmBody ordersn db = .ok ((), db')) :
    (∃ row, getSellDetail db ordersn = .ok row ∧
        (row.status = stockSellStatusReleased ∨ row.status = stockSellStatusConfirmed) ∧
        db' = db) ∨
      (∃ row, getSellDetail db ordersn = .ok row ∧ row.status ≠ stockSellStatusReleased ∧
        row.status ≠ stockSellStatusConfirmed ∧
        Holds (·.locked) row.detail db.inventory ∧
        db' = ⟨shiftAll sellUnits row.detail db.inventory, setStatus (trimSpace ordersn)
          stockSellStatusConfirmed db.stockSellDetail⟩) := by
  rw [confirmBody, Txn.read_bind] at h
  cases hrow : getSellDetail db ordersn with
  | ok row =>
    simp only [hrow] at h
    split at h
    · rename_i hstatus
      cases Txn.pure_ok.mp h
      exact .inl ⟨row, rfl, .inl hstatus, rfl⟩
    · rename_i hnotReleased
      split at h
      · rename_i hstatus
        cases Txn.pure_ok.mp h
        exact .inl ⟨row, rfl, .inr hstatus, rfl⟩
      · rename_i hnotConfirmed
        obtain ⟨henough, hdb'⟩ := settle_ok lawful_sellUnits hone h
        exact .inr ⟨row, rfl, hnotReleased, hnotConfirmed, henough, hdb'⟩
  | error err =>
    simp only [hrow] at h
    cases Txn.fail_ok.mp h

theorem validateStockOperation_ok (h : validateStockOperation ordersn details = .ok ()) :
    trimSpace ordersn ≠ "" ∧ details ≠ [] ∧
      ∀ item ∈ details, 0 < item.goods ∧ 0 < item.num := by
  unfold validateStockOperation at h
  split at h
  · cases h
  · rename_i hsn
    split at h
    · cases h
    · rename_i hdetails
      split at h
      · cases h
      · rename_i hitems
        simp only [List.any_eq_true, decide_eq_true_eq, not_exists, not_and, not_or,
          not_le] at hitems
        exact ⟨hsn, hdetails, hitems⟩

theorem stockOperation_cases (body : StockTxn Unit) (ordersn : String)
    (details : List GoodsDetail) (db : InventoryDB) :
    (∃ err, stockOperation body ordersn details db = (.error err, db)) ∨
      ∃ db', validateStockOperation ordersn details = .ok () ∧ body db = .ok ((), db') ∧
        stockOperation body ordersn details db = (.ok (), db') := by
  unfold stockOperation
  split
  · rename_i err _
    exact .inl ⟨err, rfl⟩
  · rename_i hvalid
    rcases Txn.commit_cases body db with ⟨_, db', hrun, hcommit⟩ | ⟨err, -, hcommit⟩
    · exact .inr ⟨db', hvalid, hrun, hcommit⟩
    · exact .inl ⟨err, hcommit⟩

theorem stockOperation_keeps {body : StockTxn Unit} {ordersn : String}
    {details : List GoodsDetail} {db : InventoryDB}
    (h : ∀ db', validateStockOperation ordersn details = .ok () → body db = .ok ((), db') →
      db' = db) :
    (stockOperation body ordersn details db).2 = db := by
  rcases stockOperation_cases body ordersn details db with ⟨err, hend⟩ | ⟨db', hvalid, hrun, hend⟩
  · rw [hend]
  · rw [hend]
    exact h db' hvalid hrun

end Orders

end Goshop.Inventory.Steps
