import Goshop.Inventory.OrderKey
import Mathlib.Algebra.GroupWithZero.Nat

/-! When `Sell` succeeds. It takes the lines of a list one after the other, sorted by
goods; the stock suffices for all of them exactly if it covers the sum of each goods. What
else can go wrong is the width of a column: the `INT` counters, and the text of the list. -/
namespace Goshop.Inventory.Sufficiency

open Goshop.Errors Goshop.Lib Goshop.Lib.Transaction
open Goshop.Inventory.Model Goshop.Inventory.Steps Goshop.Inventory.StockRecords
open Goshop.Inventory.Compensation Goshop.Inventory.OrderKey
open Goshop.Lib.GoText (trimSpace)

def notEnough : AppError := newCode .errInvNotEnough "库存不足"

/-- The available stock covers what the list asks of each of its goods. -/
def Suffices (details : List GoodsDetail) (db : InventoryDB) : Prop :=
  ∀ item ∈ details, units item.goods details ≤ availableOf item.goods db

instance (details : List GoodsDetail) (db : InventoryDB) : Decidable (Suffices details db) :=
  inferInstanceAs (Decidable (∀ item ∈ details, _))

/-- Up to the first goods that is short, the lines that the stock covers leave the
counters within their columns, whichever of them come first. -/
def Room (details : List GoodsDetail) (db : InventoryDB) : Prop :=
  ∀ item ∈ details,
    (∀ other ∈ details, other.goods < item.goods →
      units other.goods details ≤ availableOf other.goods db) →
    ∀ part, part.Subperm (details.filter (·.goods = item.goods)) →
      units item.goods part ≤ availableOf item.goods db →
      ∀ row ∈ db.inventory, row.goods = item.goods →
        Stored (reserveUnits (units item.goods part) row)

section Units

variable {details other : List GoodsDetail} {goods : Int}

theorem units_perm (h : details.Perm other) (goods : Int) :
    units goods details = units goods other := by
  unfold units
  exact ((h.filter _).map _).sum_eq

theorem units_filter (goods : Int) (details : List GoodsDetail) :
    units goods (details.filter (·.goods = goods)) = units goods details := by
  unfold units
  rw [List.filter_filter]
  simp

theorem units_le_of_sublist (hsub : details.Sublist other) (hother : ∀ item ∈ other, 0 < item.num)
    (goods : Int) : units goods details ≤ units goods other := by
  induction hsub with
  | slnil => exact le_rfl
  | cons item _ ih =>
    rw [units_cons]
    have hrest := ih fun other hother' => hother other (List.mem_cons_of_mem _ hother')
    have hitem := hother item List.mem_cons_self
    split <;> omega
  | cons_cons item _ ih =>
    rw [units_cons, units_cons]
    have hrest := ih fun other hother' => hother other (List.mem_cons_of_mem _ hother')
    omega

theorem sortByGoods_perm (details : List GoodsDetail) : (sortByGoods details).Perm details :=
  List.perm_insertionSort _ _

theorem sortByGoods_sorted (details : List GoodsDetail) :
    (sortByGoods details).Pairwise fun first second => first.goods ≤ second.goods := by
  have : IsTrans GoodsDetail fun first second => first.goods ≤ second.goods :=
    ⟨fun _ _ _ => le_trans⟩
  have : Std.Total fun first second : GoodsDetail => first.goods ≤ second.goods :=
    ⟨fun first second => le_total first.goods second.goods⟩
  exact List.pairwise_insertionSort _ _

theorem sortByGoods_filter (goods : Int) (details : List GoodsDetail) :
    (sortByGoods details).filter (·.goods = goods) = details.filter (·.goods = goods) := by
  have : IsTrans GoodsDetail fun first second => first.goods ≤ second.goods :=
    ⟨fun _ _ _ => le_trans⟩
  have : Std.Total fun first second : GoodsDetail => first.goods ≤ second.goods :=
    ⟨fun first second => le_total first.goods second.goods⟩
  have hequal : (details.filter (·.goods = goods)).Pairwise
      fun first second => first.goods ≤ second.goods := by
    rw [List.pairwise_iff_forall_sublist]
    intro first second hpair
    have hfirst := hpair.subset (List.mem_cons_self)
    have hsecond := hpair.subset (List.mem_cons_of_mem _ List.mem_cons_self)
    simp only [List.mem_filter, decide_eq_true_eq] at hfirst hsecond
    rw [hfirst.2, hsecond.2]
  have hsub : (details.filter (·.goods = goods)).Sublist (sortByGoods details) :=
    List.sublist_insertionSort hequal List.filter_sublist
  have hfiltered := hsub.filter (fun item => decide (item.goods = goods))
  rw [List.filter_filter] at hfiltered
  simp only [Bool.and_self] at hfiltered
  exact (hfiltered.eq_of_length ((sortByGoods_perm details).filter _).length_eq.symm).symm

end Units

section Stock

variable {db : InventoryDB}

theorem availableOf_row {row : InventoryDO} (hone : OneRowPerGoods db) (hrow : row ∈ db.inventory) :
    availableOf row.goods db = row.available := by
  have hsum := Table.sum_modify
    (fun other : InventoryDO => if other.goods = row.goods then other.available else 0)
    (fun other => { other with available := 0 }) hone hrow
  have hzero : ((Table.modify InventoryDO.goods row.goods
      (fun other => { other with available := 0 })
      db.inventory).map fun other => if other.goods = row.goods then other.available else 0).sum =
        0 := by
    apply List.sum_eq_zero
    intro value hvalue
    simp only [Table.modify, List.map_map, List.mem_map, Function.comp_apply] at hvalue
    obtain ⟨other, -, rfl⟩ := hvalue
    by_cases h : other.goods = row.goods <;> simp [h]
  rw [hzero] at hsum
  rw [availableOf_eq_sum]
  simp only [if_true] at hsum
  omega

theorem availableOf_unknown {goods : Int} (h : goods ∉ db.inventory.map (·.goods)) :
    availableOf goods db = 0 := by
  have hfilter : db.inventory.filter (·.goods = goods) = [] := by
    rw [List.filter_eq_nil_iff]
    intro row hrow hgoods
    exact h (List.mem_map.mpr ⟨row, hrow, of_decide_eq_true hgoods⟩)
  rw [availableOf, hfilter]
  rfl

theorem exists_row_of_available {goods num : Int} (hone : OneRowPerGoods db) (hnum : 0 < num)
    (h : num ≤ availableOf goods db) :
    ∃ row ∈ db.inventory, row.goods = goods ∧ num ≤ row.available := by
  by_cases hknown : goods ∈ db.inventory.map (·.goods)
  · obtain ⟨row, hrow, rfl⟩ := List.mem_map.mp hknown
    rw [availableOf_row hone hrow] at h
    exact ⟨row, hrow, rfl, h⟩
  · rw [availableOf_unknown hknown] at h
    omega

end Stock

section Loop

variable {db db' : InventoryDB} {items done rest : List GoodsDetail} {item : GoodsDetail}

def reduceAll (items : List GoodsDetail) : StockTxn Unit :=
  forM items fun item => reduce item.goods item.num

theorem reduceAll_covered (hone : OneRowPerGoods db) (h : reduceAll items db = .ok ((), db')) :
    ∀ item ∈ items, units item.goods items ≤ availableOf item.goods db := by
  intro item hitem
  obtain ⟨-, -, henough⟩ := moveAll_moved lawful_reserveUnits hone h
  obtain ⟨row, hrow, hgoods⟩ := List.mem_map.mp (moveAll_known lawful_reserveUnits h item hitem)
  have hrowEnough := henough row hrow (.inr (hgoods ▸ List.mem_map_of_mem hitem))
  rw [← hgoods, availableOf_row hone hrow]
  exact hrowEnough

/-- The line at which the loop stops, and why. -/
inductive Stop (db : InventoryDB) (done : List GoodsDetail) (item : GoodsDetail) : AppError → Prop
  | short (h : ∀ row ∈ db.inventory, row.goods = item.goods →
      row.available < units item.goods (done ++ [item])) : Stop db done item notEnough
  | full (row : InventoryDO) (hrow : row ∈ db.inventory) (hgoods : row.goods = item.goods)
      (hcovered : units item.goods (done ++ [item]) ≤ row.available)
      (hunfit : ¬Stored (reserveUnits (units item.goods (done ++ [item])) row)) :
      Stop db done item (wrapDatabase "reduce inventory")

theorem units_snoc (done : List GoodsDetail) (item : GoodsDetail) :
    units item.goods (done ++ [item]) = units item.goods done + item.num := by
  rw [units_append, units_singleton, if_pos rfl]

theorem reduceAll_cases (hone : OneRowPerGoods db)
    (hitems : ∀ item ∈ items, 0 < item.goods ∧ 0 < item.num) :
    (∃ db', reduceAll items db = .ok ((), db')) ∨
      ∃ done item rest err, items = done ++ item :: rest ∧
        (∃ mid, reduceAll done db = .ok ((), mid)) ∧ Stop db done item err ∧
        reduceAll items db = .error err := by
  rcases Txn.forM_cases (fun item => reduce item.goods item.num) items db with
    h | ⟨done, item, rest, mid, err, hsplit, hdone, herr, h⟩
  · exact .inl h
  · refine .inr ⟨done, item, rest, err, hsplit, ⟨mid, hdone⟩, ?_, h⟩
    obtain ⟨hgoods, hnum⟩ := hitems item (by simp [hsplit])
    obtain ⟨-, rfl, -⟩ := moveAll_moved lawful_reserveUnits hone hdone
    rcases moveStock_error lawful_reserveUnits hgoods.ne' hnum herr with
      ⟨rfl, hshort⟩ | ⟨rfl, moved, hmoved, hmovedGoods, henough, hunfit⟩
    · refine .short fun row hrow hrowGoods => ?_
      have hrowShort := hshort _ (List.mem_map_of_mem hrow) hrowGoods
      simp only [reserveUnits, hrowGoods] at hrowShort
      rw [units_snoc]
      omega
    · obtain ⟨row, hrow, rfl⟩ := List.mem_map.mp hmoved
      have hrowGoods : row.goods = item.goods := hmovedGoods
      refine .full row hrow hrowGoods ?_ ?_
      · simp only [reserveUnits, hrowGoods] at henough
        rw [units_snoc]
        omega
      · rw [lawful_reserveUnits.add, hrowGoods, ← units_snoc] at hunfit
        exact hunfit

theorem Stop.of_covered {err : AppError} (hone : OneRowPerGoods db) (stop : Stop db done item err)
    (hpositive : 0 < units item.goods (done ++ [item]))
    (hcovered : units item.goods (done ++ [item]) ≤ availableOf item.goods db) :
    err = wrapDatabase "reduce inventory" := by
  cases stop with
  | short h =>
    obtain ⟨row, hrow, hgoods, henough⟩ := exists_row_of_available hone hpositive hcovered
    have := h row hrow hgoods
    omega
  | full => rfl

end Loop

section Order

variable {db : InventoryDB} {details other done rest : List GoodsDetail} {item : GoodsDetail}

theorem units_smaller {goods : Int}
    (hsorted : (done ++ item :: rest).Pairwise fun first second => first.goods ≤ second.goods)
    (hless : goods < item.goods) : units goods (done ++ item :: rest) = units goods done := by
  have hlater : ∀ later ∈ item :: rest, later.goods ≠ goods := by
    intro later hlater
    rcases List.mem_cons.mp hlater with rfl | hrest
    · exact hless.ne'
    · have := (List.pairwise_cons.mp (List.pairwise_append.mp hsorted).2.1).1 later hrest
      omega
  rw [units_append, units_eq_zero hlater, add_zero]

theorem units_front_le (hitems : ∀ line ∈ done ++ item :: rest, 0 < line.num) :
    units item.goods (done ++ [item]) ≤ units item.goods (done ++ item :: rest) := by
  apply units_le_of_sublist _ hitems
  exact List.Sublist.append_left (List.singleton_sublist.mpr List.mem_cons_self) done

theorem units_front_pos (hitems : ∀ line ∈ done ++ item :: rest, 0 < line.num) :
    0 < units item.goods (done ++ [item]) := by
  have hdone : 0 ≤ units item.goods done :=
    units_nonneg _ fun line hline => hitems line (List.mem_append_left _ hline)
  have hitem := hitems item (List.mem_append_right _ List.mem_cons_self)
  rw [units_snoc]
  omega

theorem reduceAll_room (hone : OneRowPerGoods db)
    (hitems : ∀ item ∈ details, 0 < item.goods ∧ 0 < item.num) (room : Room details db)
    (hperm : other.Perm details) :
    (∃ db', reduceAll (sortByGoods other) db = .ok ((), db')) ∨
      reduceAll (sortByGoods other) db = .error notEnough ∧ ¬Suffices details db := by
  have hsort : (sortByGoods other).Perm details := (sortByGoods_perm other).trans hperm
  have hsorted := sortByGoods_sorted other
  rcases reduceAll_cases hone fun line hline => hitems line (hsort.mem_iff.mp hline) with
    hok | ⟨done, item, rest, err, hsplit, ⟨mid, hdone⟩, stop, herr⟩
  · exact .inl hok
  · rw [hsplit] at hsort hsorted
    have hnums : ∀ line ∈ done ++ item :: rest, 0 < line.num := fun line hline =>
      (hitems line (hsort.mem_iff.mp hline)).2
    have hmem : item ∈ details := hsort.mem_iff.mp (by simp)
    have hfront := units_front_le hnums
    rw [units_perm hsort] at hfront
    cases stop with
    | short hshort =>
      refine .inr ⟨herr, fun suffices_ => ?_⟩
      obtain ⟨row, hrow, hgoods, henough⟩ := exists_row_of_available hone
        (units_front_pos hnums) (hfront.trans (suffices_ item hmem))
      have := hshort row hrow hgoods
      omega
    | full row hrow hgoods hcovered hunfit =>
      -- The smaller goods have all been taken, and the lines up to the stop are a part.
      have hsmaller : ∀ line ∈ details, line.goods < item.goods →
          units line.goods details ≤ availableOf line.goods db := by
        intro line hline hless
        have hunits := units_smaller hsorted hless
        rw [units_perm hsort] at hunits
        have hlineDone : line ∈ done := by
          have hlineIn := hsort.mem_iff.mpr hline
          rcases List.mem_append.mp hlineIn with h | h
          · exact h
          · rcases List.mem_cons.mp h with rfl | h
            · exact absurd hless (lt_irrefl _)
            · have := (List.pairwise_cons.mp (List.pairwise_append.mp hsorted).2.1).1 line h
              omega
        rw [hunits]
        exact reduceAll_covered hone hdone line hlineDone
      have hpart : ((done ++ [item]).filter (·.goods = item.goods)).Subperm
          (details.filter (·.goods = item.goods)) := by
        have hsub : (done ++ [item]).Sublist (done ++ item :: rest) :=
          List.Sublist.append_left (List.singleton_sublist.mpr List.mem_cons_self) done
        exact (hsub.filter _).subperm.trans (hsort.filter _).subperm
      have hstored := room item hmem hsmaller _ hpart
      rw [units_filter, ← hgoods, availableOf_row hone hrow, hgoods] at hstored
      exact absurd (hstored hcovered row hrow hgoods) hunfit

theorem reduceAll_front_stored {db' : InventoryDB} {row : InventoryDO} (hone : OneRowPerGoods db)
    (hstored : ∀ row ∈ db.inventory, Stored row)
    (h : reduceAll (done ++ rest) db = .ok ((), db')) (hrow : row ∈ db.inventory) :
    Stored (reserveUnits (units row.goods done) row) := by
  obtain ⟨mid, hmid⟩ := Txn.forM_front_ok h
  obtain ⟨-, rfl, -⟩ := moveAll_moved lawful_reserveUnits hone hmid
  exact moveAll_stored hstored hmid _ (List.mem_map_of_mem hrow)

theorem stored_between {row : InventoryDO} {part whole : Int} (hrow : Stored row)
    (hwhole : Stored (reserveUnits whole row)) (hpos : 0 ≤ part) (hle : part ≤ whole) :
    Stored (reserveUnits part row) := by
  obtain ⟨hstocks, havailable, hlocked, hsold⟩ := hrow
  obtain ⟨hstocks', havailable', hlocked', -⟩ := hwhole
  simp only [Stored, reserveUnits, Sql.FitsInt] at *
  omega

/-- The loop comes to its end when there is enough of every goods and the counters
still fit in the end. -/
theorem reduceAll_ok_iff {items : List GoodsDetail} (hone : OneRowPerGoods db)
    (hstored : ∀ row ∈ db.inventory, Stored row)
    (hitems : ∀ item ∈ items, 0 < item.goods ∧ 0 < item.num) :
    (∃ db', reduceAll items db = .ok ((), db')) ↔
      Suffices items db ∧
        ∀ row ∈ db.inventory, Stored (reserveUnits (units row.goods items) row) := by
  constructor
  · rintro ⟨db', hrun⟩
    refine ⟨reduceAll_covered hone hrun, fun row hrow => ?_⟩
    rw [← List.append_nil items] at hrun
    exact reduceAll_front_stored hone hstored hrun hrow
  · rintro ⟨hcovered, hfits⟩
    rcases reduceAll_cases hone hitems with hok | ⟨done, item, rest, err, rfl, -, stop, -⟩
    · exact hok
    have hnums : ∀ line ∈ done ++ item :: rest, 0 < line.num := fun line hline =>
      (hitems line hline).2
    have hfront := units_front_le hnums
    cases stop with
    | short hshort =>
      obtain ⟨row, hrow, hgoods, henough⟩ := exists_row_of_available hone
        (units_front_pos hnums) (hfront.trans (hcovered item (by simp)))
      have := hshort row hrow hgoods
      omega
    | full row hrow hgoods henough hunfit =>
      have hend := hfits row hrow
      rw [hgoods] at hend
      exact absurd (stored_between (hstored row hrow) hend (units_front_pos hnums).le hfront) hunfit

theorem exists_perm_front {goods : Int} {part : List GoodsDetail}
    (hpart : part.Subperm (details.filter (·.goods = goods))) :
    ∃ other rest : List GoodsDetail, other.Perm details ∧
      other.filter (·.goods = goods) = part ++ rest := by
  obtain ⟨chosen, hchosen, hsub⟩ := hpart
  obtain ⟨rest, hrest⟩ := hsub.exists_perm_append
  have hlines : (part ++ rest).Perm (details.filter (·.goods = goods)) :=
    (hchosen.symm.append_right rest).trans hrest.symm
  have hall : (part ++ rest).filter (·.goods = goods) = part ++ rest := by
    rw [List.filter_eq_self]
    intro line hline
    exact (List.mem_filter.mp (hlines.mem_iff.mp hline)).2
  refine ⟨part ++ rest ++ details.filter fun line => !decide (line.goods = goods), rest, ?_, ?_⟩
  · exact (hlines.append_right _).trans (List.filter_append_perm _ details)
  · rw [List.filter_append, hall, List.filter_filter]
    simp

theorem exists_split_at {goods : Int} {items front : List GoodsDetail} {last : GoodsDetail}
    (h : items.filter (·.goods = goods) = front ++ last :: rest) :
    ∃ before behind, items = before ++ last :: behind ∧ last.goods = goods ∧
      before.filter (·.goods = goods) = front := by
  obtain ⟨first, second, hitems, hfirst, hsecond⟩ := List.filter_eq_append_iff.mp h
  obtain ⟨between, behind, hsplit, hbetween, hlast, -⟩ := List.filter_eq_cons_iff.mp hsecond
  have hnone : between.filter (·.goods = goods) = [] := by
    rw [List.filter_eq_nil_iff]
    exact hbetween
  refine ⟨first ++ between, behind, ?_, of_decide_eq_true hlast, ?_⟩
  · rw [hitems, hsplit, List.append_assoc]
  · rw [List.filter_append, hfirst, hnone, List.append_nil]

/-- The loop runs out of room no later than at a line behind which a counter would not
fit any more, if the stock covers all lines up to there. -/
theorem reduceAll_full {behind : List GoodsDetail} {last : GoodsDetail} {row : InventoryDO}
    (hone : OneRowPerGoods db) (hstored : ∀ row ∈ db.inventory, Stored row)
    (hpositive : ∀ line ∈ done ++ last :: behind, 0 < line.goods ∧ 0 < line.num)
    (hcovered : ∀ line ∈ done ++ [last],
      units line.goods (done ++ [last]) ≤ availableOf line.goods db)
    (hrow : row ∈ db.inventory)
    (hunfit : ¬Stored (reserveUnits (units row.goods (done ++ [last])) row)) :
    reduceAll (done ++ last :: behind) db = .error (wrapDatabase "reduce inventory") := by
  have hnot : ∀ more db', reduceAll (done ++ [last] ++ more) db ≠ .ok ((), db') := by
    intro more db' hrun
    exact hunfit (reduceAll_front_stored hone hstored hrun hrow)
  rcases reduceAll_cases hone hpositive with
    ⟨db', hok⟩ | ⟨before, stopped, rest, err, hstop, ⟨mid, hbefore⟩, stop, herr⟩
  · rw [← List.singleton_append, ← List.append_assoc] at hok
    exact absurd hok (hnot behind db')
  rw [herr]
  have hprefix : before ++ [stopped] <+: done ++ last :: behind := ⟨rest, by simp [hstop]⟩
  have hearly : before ++ [stopped] <+: done ++ [last] := by
    rcases List.prefix_or_prefix_of_prefix (⟨behind, by simp⟩ : done ++ [last] <+: _) hprefix with
      h | h
    · rcases List.prefix_concat_iff.mp h with h | ⟨more, h⟩
      · exact h ▸ List.prefix_refl _
      · rw [← h] at hbefore
        exact absurd hbefore (hnot more mid)
    · exact h
  have hnums : ∀ line ∈ before ++ stopped :: rest, 0 < line.num := fun line hline =>
    (hpositive line (hstop ▸ hline)).2
  have hfront : ∀ line ∈ done ++ [last], 0 < line.num := fun line hline =>
    (hpositive line (by simp only [List.mem_append, List.mem_cons] at hline ⊢; tauto)).2
  rw [stop.of_covered hone (units_front_pos hnums)]
  refine (units_le_of_sublist hearly.sublist hfront _).trans (hcovered stopped ?_)
  exact hearly.subset (by simp)

/-- Without room in the columns, some order of the lines runs out of it. -/
theorem exists_full (hone : OneRowPerGoods db) (hstored : ∀ row ∈ db.inventory, Stored row)
    (hitems : ∀ item ∈ details, 0 < item.goods ∧ 0 < item.num) (hroom : ¬Room details db) :
    ∃ other, other.Perm details ∧
      reduceAll (sortByGoods other) db = .error (wrapDatabase "reduce inventory") := by
  simp only [Room, not_forall] at hroom
  obtain ⟨item, hitem, hsmaller, part, hpart, hcovered, row, hrow, hgoods, hunfit⟩ := hroom
  obtain ⟨other, rest, hperm, hfilter⟩ := exists_perm_front hpart
  refine ⟨other, hperm, ?_⟩
  rcases List.eq_nil_or_concat' part with rfl | ⟨init, last, rfl⟩
  · rw [units_nil, lawful_reserveUnits.zero] at hunfit
    exact absurd (hstored row hrow) hunfit
  rw [← sortByGoods_filter, List.append_assoc, List.singleton_append] at hfilter
  obtain ⟨front, behind, hsplit, hlast, hfront⟩ := exists_split_at hfilter
  have hsort : (sortByGoods other).Perm details := (sortByGoods_perm other).trans hperm
  have hsorted := sortByGoods_sorted other
  rw [hsplit] at hsort hsorted ⊢
  have hunits : units item.goods (front ++ [last]) = units item.goods (init ++ [last]) := by
    rw [units_append, ← units_filter _ front, hfront, ← units_append]
  have hpositive : ∀ line ∈ front ++ last :: behind, 0 < line.goods ∧ 0 < line.num :=
    fun line hline => hitems line (hsort.mem_iff.mp hline)
  refine reduceAll_full hone hstored hpositive ?_ hrow (by rw [hgoods, hunits]; exact hunfit)
  -- A line up to `last` is one of the selection, or of a smaller goods.
  intro line hline
  have hle : line.goods ≤ item.goods := by
    rcases List.mem_append.mp hline with h | h
    · rw [← hlast]
      exact (List.pairwise_append.mp hsorted).2.2 line h last List.mem_cons_self
    · rw [List.mem_singleton.mp h, hlast]
  rcases hle.lt_or_eq with hless | hsame
  · refine le_trans ?_ (hsmaller line (hsort.mem_iff.mp ?_) hless)
    · rw [← units_perm hsort]
      refine units_le_of_sublist ?_ (fun other hother => (hpositive other hother).2) _
      exact List.Sublist.append_left (List.singleton_sublist.mpr List.mem_cons_self) front
    · simp only [List.mem_append, List.mem_cons, List.not_mem_nil, or_false] at hline ⊢
      tauto
  · rw [hsame, hunits]
    exact hcovered

end Order

section Record

variable {details other : List GoodsDetail}

theorem intercalate_length {texts : List String} (h : texts ≠ []) :
    (",".intercalate texts).length + 1 = (texts.map fun text => text.length + 1).sum := by
  induction texts with
  | nil => exact absurd rfl h
  | cons text rest ih =>
    cases rest with
    | nil => simp
    | cons next rest =>
      have hrest := ih (by simp)
      have hcomma : ",".length = 1 := rfl
      rw [String.intercalate_cons_cons, String.length_append, String.length_append, List.map_cons,
        List.sum_cons, ← hrest, hcomma]
      omega

theorem goodsDetailValue_length (h : other.Perm details) :
    (goodsDetailValue other).length = (goodsDetailValue details).length := by
  have hjoined : ∀ texts texts' : List String, texts.Perm texts' →
      (",".intercalate texts).length = (",".intercalate texts').length := by
    intro texts texts' hperm
    by_cases hempty : texts = []
    · rw [hempty] at hperm ⊢
      rw [hperm.nil_eq]
    · have hempty' : texts' ≠ [] := fun h' => hempty (List.perm_nil.mp (h' ▸ hperm))
      have hlength := intercalate_length hempty
      rw [(hperm.map _).sum_eq, ← intercalate_length hempty'] at hlength
      omega
  simp only [goodsDetailValue, String.length_append, hjoined _ _ (h.map _)]

theorem fitsSellDetail_perm (ordersn : String) (status : Int) (h : other.Perm details) :
    fitsSellDetail ⟨ordersn, status, other⟩ = fitsSellDetail ⟨ordersn, status, details⟩ := by
  simp only [fitsSellDetail, Sql.fitsVarchar, goodsDetailValue_length h]

end Record

/-- There is enough of every goods, and what a sale of the list writes fits its columns. -/
def Served (ordersn : String) (details : List GoodsDetail) (db : InventoryDB) : Prop :=
  Suffices details db ∧
    (∀ row ∈ db.inventory, Stored (reserveUnits (units row.goods details) row)) ∧
    fitsSellDetail ⟨ordersn, stockSellStatusReserved, details⟩ = true

instance (ordersn : String) (details : List GoodsDetail) (db : InventoryDB) :
    Decidable (Served ordersn details db) :=
  inferInstanceAs (Decidable (_ ∧ _ ∧ _))

/-- `Sell` takes the stock of the list when there is enough of every goods, and otherwise
leaves everything as it is; the order of the list does not matter. -/
structure SellsExactly (ordersn : String) (details : List GoodsDetail) (db : InventoryDB) :
    Prop where
  succeeds : (sell ordersn details db).1 = .ok () ↔ Suffices details db
  refused : ¬Suffices details db → sell ordersn details db = (.error notEnough, db)
  unordered : ∀ other : List GoodsDetail, other.Perm details →
    (sell ordersn other db).1 = (sell ordersn details db).1 ∧
      (sell ordersn other db).2.inventory = (sell ordersn details db).2.inventory

structure FirstSale (ordersn : String) (details : List GoodsDetail) (db : InventoryDB) :
    Prop where
  oneRow : OneRowPerGoods db
  stored : ∀ row ∈ db.inventory, Stored row
  unknown : ∀ row ∈ db.stockSellDetail,
    row.orderSn ≠ ordersn ∧ row.orderSn ≠ trimSpace ordersn
  nonempty : details ≠ []
  positive : ∀ item ∈ details, 0 < item.goods ∧ 0 < item.num

section Sale

variable {ordersn : String} {details other : List GoodsDetail} {db : InventoryDB}

theorem FirstSale.perm (sale : FirstSale ordersn details db) (h : other.Perm details) :
    FirstSale ordersn other db where
  oneRow := sale.oneRow
  stored := sale.stored
  unknown := sale.unknown
  nonempty := fun hnil => sale.nonempty (List.nil_perm.mp (hnil ▸ h))
  positive := fun item hitem => sale.positive item (h.mem_iff.mp hitem)

theorem FirstSale.valid (sale : FirstSale ordersn details db)
    (hne : trimSpace ordersn ≠ "") : validateStockOperation ordersn details = .ok () := by
  have hitems : (details.any fun item => decide (item.goods ≤ 0 ∨ item.num ≤ 0)) = false := by
    rw [List.any_eq_false]
    intro item hitem
    have := sale.positive item hitem
    simp only [decide_eq_true_eq]
    omega
  simp only [validateStockOperation, if_neg hne, if_neg sale.nonempty, hitems]
  rfl

theorem reserve_eq (ordersn : String) (detail : List GoodsDetail) :
    reserve ordersn detail = (reduceAll detail >>= fun _ =>
      createStockSellDetail ⟨ordersn, stockSellStatusReserved, detail⟩) := rfl

theorem FirstSale.sell_of_error {err : AppError} (sale : FirstSale ordersn details db)
    (hne : trimSpace ordersn ≠ "")
    (h : reduceAll (sortByGoods details) db = .error err) :
    sell ordersn details db = (.error err, db) := by
  have hbody : sellBody ordersn (sortByGoods details) db = .error err := by
    rw [sellBody_missing hne fun row hrow => (sale.unknown row hrow).2, reserve_eq,
      Txn.bind_of_error h]
  simp only [sell, stockOperation, sale.valid hne, Txn.commit_of_error hbody]

theorem createStockSellDetail_eq (row : StockSellDetailDO) (db : InventoryDB)
    (hvalid : validateStockSellDetail row = .ok ())
    (hfresh : ∀ other ∈ db.stockSellDetail, other.orderSn ≠ row.orderSn) :
    createStockSellDetail row db =
      if fitsSellDetail row then
        .ok ((), { db with stockSellDetail := db.stockSellDetail ++ [row] })
      else .error (wrapDatabase "create inventory sell detail") := by
  have hany : (db.stockSellDetail.any fun other =>
      decide (other.orderSn = row.orderSn)) = false := by
    simpa using hfresh
  rw [createStockSellDetail, hvalid, Txn.lift_ok_bind, Txn.read_bind, hany, Bool.not_false,
    Bool.and_true]
  cases fitsSellDetail row <;> rfl

theorem FirstSale.sell_of_ok {mid : InventoryDB} (sale : FirstSale ordersn details db)
    (hne : trimSpace ordersn ≠ "")
    (h : reduceAll (sortByGoods details) db = .ok ((), mid)) :
    sell ordersn details db =
      if fitsSellDetail ⟨ordersn, stockSellStatusReserved, sortByGoods details⟩ then
        (.ok (), ⟨shiftAll reserveUnits (sortByGoods details) db.inventory, db.stockSellDetail ++
          [⟨ordersn, stockSellStatusReserved, sortByGoods details⟩]⟩)
      else (.error (wrapDatabase "create inventory sell detail"), db) := by
  have hvalid := sale.valid hne
  have hbody : sellBody ordersn (sortByGoods details) db =
      createStockSellDetail ⟨ordersn, stockSellStatusReserved, sortByGoods details⟩ mid := by
    rw [sellBody_missing hne fun row hrow => (sale.unknown row hrow).2, reserve_eq,
      Txn.bind_of_ok h]
  obtain ⟨-, rfl, -⟩ := moveAll_moved lawful_reserveUnits sale.oneRow h
  have hcreate := createStockSellDetail_eq
    ⟨ordersn, stockSellStatusReserved, sortByGoods details⟩
    ⟨shiftAll reserveUnits (sortByGoods details) db.inventory, db.stockSellDetail⟩
    (validateStockSellDetail_run (by decide) hvalid)
    fun other hother => (sale.unknown other hother).1
  rw [hcreate] at hbody
  simp only [sell, stockOperation, hvalid]
  split at hbody
  · rename_i hfits
    rw [Txn.commit_of_ok hbody, if_pos hfits]
  · rename_i hfits
    rw [Txn.commit_of_error hbody, if_neg hfits]

theorem suffices_perm (h : other.Perm details) : Suffices other db ↔ Suffices details db := by
  simp only [Suffices, h.mem_iff, units_perm h]

theorem shiftAll_perm (shift : Int → InventoryDO → InventoryDO) (h : other.Perm details)
    (rows : List InventoryDO) : shiftAll shift other rows = shiftAll shift details rows := by
  simp only [shiftAll, units_perm h]

theorem FirstSale.sell_ok_iff (sale : FirstSale ordersn details db)
    (hne : trimSpace ordersn ≠ "") :
    (sell ordersn details db).1 = .ok () ↔ Served ordersn details db := by
  have hsort := sortByGoods_perm details
  have hloop := reduceAll_ok_iff sale.oneRow sale.stored fun item hitem =>
    sale.positive item (hsort.mem_iff.mp hitem)
  simp only [suffices_perm hsort, units_perm hsort] at hloop
  rw [Served, ← and_assoc, ← hloop, ← fitsSellDetail_perm _ _ hsort]
  rcases hrun : reduceAll (sortByGoods details) db with err | ⟨_, mid⟩
  · simp [sale.sell_of_error hne hrun]
  · rw [sale.sell_of_ok hne hrun]
    split <;> simp [*]

theorem FirstSale.sell_eq (sale : FirstSale ordersn details db)
    (hne : trimSpace ordersn ≠ "") (room : Room details db)
    (hfits : Suffices details db →
      fitsSellDetail ⟨ordersn, stockSellStatusReserved, details⟩ = true)
    (hperm : other.Perm details) :
    (Suffices details db ∧ (sell ordersn other db).1 = .ok () ∧
        (sell ordersn other db).2.inventory = shiftAll reserveUnits details db.inventory) ∨
      ¬Suffices details db ∧ sell ordersn other db = (.error notEnough, db) := by
  have sale' := sale.perm hperm
  have hsort : (sortByGoods other).Perm details := (sortByGoods_perm other).trans hperm
  rcases reduceAll_room sale.oneRow sale.positive room hperm with ⟨mid, hok⟩ | ⟨herr, hshort⟩
  · have hcovered : Suffices (sortByGoods other) db := reduceAll_covered sale.oneRow hok
    rw [suffices_perm hsort] at hcovered
    have hfits' := hfits hcovered
    rw [← fitsSellDetail_perm _ _ hsort] at hfits'
    rw [sale'.sell_of_ok hne hok, if_pos hfits']
    exact .inl ⟨hcovered, rfl, shiftAll_perm _ hsort _⟩
  · exact .inr ⟨hshort, sale'.sell_of_error hne herr⟩

theorem FirstSale.sellsExactly (sale : FirstSale ordersn details db)
    (hne : trimSpace ordersn ≠ "") (room : Room details db)
    (hfits : Suffices details db →
      fitsSellDetail ⟨ordersn, stockSellStatusReserved, details⟩ = true) :
    SellsExactly ordersn details db := by
  have houtcome := fun (other : List GoodsDetail) (hperm : other.Perm details) =>
    sale.sell_eq hne room hfits hperm
  rcases houtcome details (.refl _) with ⟨hcovered, hok, hrows⟩ | ⟨hshort, hsell⟩
  · refine ⟨iff_of_true hok hcovered, fun h => absurd hcovered h, fun other hperm => ?_⟩
    obtain ⟨-, hok', hrows'⟩ := (houtcome other hperm).resolve_right fun h => h.1 hcovered
    exact ⟨hok'.trans hok.symm, hrows'.trans hrows.symm⟩
  · have herr : (sell ordersn details db).1 ≠ .ok () := by
      rw [hsell]
      intro h
      cases h
    refine ⟨iff_of_false herr hshort, fun _ => hsell, fun other hperm => ?_⟩
    obtain ⟨-, hsell'⟩ := (houtcome other hperm).resolve_left fun h => hshort h.1
    rw [hsell, hsell']
    exact ⟨rfl, rfl⟩

theorem SellsExactly.not_error {err : AppError} (exactly : SellsExactly ordersn details db)
    (hperm : other.Perm details) (herr : err ≠ notEnough) :
    (sell ordersn other db).1 ≠ .error err := by
  rw [(exactly.unordered other hperm).1]
  by_cases hcovered : Suffices details db
  · rw [exactly.succeeds.mpr hcovered]
    intro h
    cases h
  · rw [exactly.refused hcovered]
    exact fun h => herr (Except.error.inj h).symm

theorem SellsExactly.not_blank (exactly : SellsExactly ordersn details db) :
    trimSpace ordersn ≠ "" := by
  intro hblank
  refine exactly.not_error (.refl _)
    (show newCode .errValidation "order_sn不能为空" ≠ notEnough by decide) ?_
  simp only [sell, stockOperation, validateStockOperation, if_pos hblank]

theorem SellsExactly.room (exactly : SellsExactly ordersn details db)
    (sale : FirstSale ordersn details db) : Room details db := by
  by_contra hroom
  obtain ⟨other, hperm, hfull⟩ := exists_full sale.oneRow sale.stored sale.positive hroom
  refine exactly.not_error hperm
    (show wrapDatabase "reduce inventory" ≠ notEnough by decide) ?_
  rw [(sale.perm hperm).sell_of_error exactly.not_blank hfull]

theorem SellsExactly.fits (exactly : SellsExactly ordersn details db)
    (sale : FirstSale ordersn details db) (hcovered : Suffices details db) :
    fitsSellDetail ⟨ordersn, stockSellStatusReserved, details⟩ = true := by
  have hne := exactly.not_blank
  have hsell := exactly.succeeds.mpr hcovered
  rcases hloop : reduceAll (sortByGoods details) db with err | ⟨_, mid⟩
  · rw [sale.sell_of_error hne hloop] at hsell
    cases hsell
  · rw [sale.sell_of_ok hne hloop] at hsell
    rw [← fitsSellDetail_perm _ _ (sortByGoods_perm details)]
    by_contra hfits
    rw [if_neg hfits] at hsell
    cases hsell

theorem room_of_bounded (hone : OneRowPerGoods db) (hitems : ∀ item ∈ details, 0 < item.num)
    (hrows : ∀ row ∈ db.inventory, Stored row ∧ row.available ≤ row.stocks ∧
      0 ≤ row.available ∧ row.locked + row.available ≤ 2147483647) : Room details db := by
  intro item _ _ part hpart hcovered row hrow hgoods
  obtain ⟨⟨hstocks, havailable, hlocked, hsold⟩, hle, hpos, hsum⟩ := hrows row hrow
  have hnonneg : 0 ≤ units item.goods part := units_nonneg _ fun line hline =>
    hitems line (List.mem_of_mem_filter (hpart.subset hline))
  rw [← hgoods, availableOf_row hone hrow] at hcovered
  rw [← hgoods] at hnonneg ⊢
  simp only [Stored, reserveUnits, Sql.FitsInt] at hstocks havailable hlocked hsold ⊢
  omega

end Sale

/-- `Sell` is exact if and only if the order number is not blank, no counter leaves its
column before the stock is short, and a list for which the stock suffices fits the column
that records it. -/
theorem sell_exact_iff {ordersn : String} {details : List GoodsDetail} {db : InventoryDB}
    (sale : FirstSale ordersn details db) :
    SellsExactly ordersn details db ↔
      trimSpace ordersn ≠ "" ∧ Room details db ∧ (Suffices details db →
        fitsSellDetail ⟨ordersn, stockSellStatusReserved, details⟩ = true) := by
  constructor
  · intro exactly
    exact ⟨exactly.not_blank, exactly.room sale, exactly.fits sale⟩
  · rintro ⟨hne, room, hfits⟩
    exact sale.sellsExactly hne room hfits

def twentyOnStock : InventoryDB := ⟨[⟨1, 7, 20, 20, 20, 0, 0⟩], []⟩

/-- Ten lines of one unit are refused with a database error, with twenty units on stock:
their text is one character longer than the `varchar(200)` of `detail`. -/
theorem ten_lines_not_recorded :
    FirstSale "A" (List.replicate 10 ⟨7, 1⟩) twentyOnStock ∧
      Suffices (List.replicate 10 ⟨7, 1⟩) twentyOnStock ∧
      sell "A" (List.replicate 10 ⟨7, 1⟩) twentyOnStock =
        (.error (wrapDatabase "create inventory sell detail"), twentyOnStock) := by
  refine ⟨⟨by decide, by decide, by decide, by decide, by decide⟩, by decide, by decide +kernel⟩

/-- Goods 7 asked for in two lines, of the five units that are there. -/
theorem sell_exact_two_lines :
    FirstSale "A" [⟨7, 2⟩, ⟨7, 3⟩] fiveOnStock ∧
      SellsExactly "A" [⟨7, 2⟩, ⟨7, 3⟩] fiveOnStock := by
  have sale : FirstSale "A" [⟨7, 2⟩, ⟨7, 3⟩] fiveOnStock :=
    ⟨by decide, by decide, by decide, by decide, by decide⟩
  refine ⟨sale, (sell_exact_iff sale).mpr ⟨by decide, ?_, by decide +kernel⟩⟩
  exact room_of_bounded sale.oneRow (by decide) (by decide)

end Goshop.Inventory.Sufficiency
