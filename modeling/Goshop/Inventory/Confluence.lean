import Goshop.Inventory.Compensation
import Goshop.Inventory.SellStatus
import Goshop.Inventory.Sufficiency
import Goshop.Lib.Run

/-! Any sequence of `Sell`, `Reback` and `Release` calls for one order, each with
a detail list of its own. The order is unknown until a sale takes its stock or a
compensation leaves its mark; a mark whose list is too long for the column is not
left, and the sale that comes after it is never undone. -/
namespace Goshop.Inventory.Confluence

open Goshop.Errors Goshop.Lib Goshop.Lib.Transaction Goshop.Lib.Run
open Goshop.Inventory.Model Goshop.Inventory.Steps Goshop.Inventory.Compensation
open Goshop.Inventory.SellStatus Goshop.Inventory.Sufficiency

inductive Operation
  | sell
  | reback
  | release
  | confirm
deriving DecidableEq, Repr

structure OrderCall where
  operation : Operation
  details : List GoodsDetail
deriving DecidableEq, Repr

def OrderCall.Compensates (call : OrderCall) : Prop :=
  call.operation = .reback ∨ call.operation = .release

instance (call : OrderCall) : Decidable call.Compensates :=
  inferInstanceAs (Decidable (_ ∨ _))

def exec (ordersn : String) (db : InventoryDB) (call : OrderCall) : InventoryDB :=
  match call.operation with
  | .sell => (sell ordersn call.details db).2
  | .reback => (reback ordersn call.details db).2
  | .release => (release ordersn call.details db).2
  | .confirm => (confirm ordersn call.details db).2

def Marks (ordersn : String) (call : OrderCall) : Prop :=
  call.Compensates ∧
    fitsSellDetail ⟨ordersn, stockSellStatusReleased, sortByGoods call.details⟩ = true

instance (ordersn : String) (call : OrderCall) : Decidable (Marks ordersn call) :=
  inferInstanceAs (Decidable (_ ∧ _))

def Takes (ordersn : String) (start : InventoryDB) (call : OrderCall) : Prop :=
  call.operation = .sell ∧ Served ordersn call.details start

instance (ordersn : String) (start : InventoryDB) (call : OrderCall) :
    Decidable (Takes ordersn start call) :=
  inferInstanceAs (Decidable (_ ∧ _))

/-- The first call that has any effect leaves its mark, or it is a sale that can
be taken back and a compensation follows. -/
def Compensated (ordersn : String) (start : InventoryDB) : List OrderCall → Prop
  | [] => False
  | call :: rest =>
    Marks ordersn call ∨
      if Takes ordersn start call then
        Returnable call.details start ∧ ∃ other ∈ rest, other.Compensates
      else Compensated ordersn start rest

instance decidableCompensated (ordersn : String) (start : InventoryDB) :
    (calls : List OrderCall) → Decidable (Compensated ordersn start calls)
  | [] => .isFalse id
  | call :: rest =>
      have : Decidable (Compensated ordersn start rest) :=
        decidableCompensated ordersn start rest
      inferInstanceAs (Decidable (Marks ordersn call ∨
        if Takes ordersn start call then
          Returnable call.details start ∧ ∃ other ∈ rest, other.Compensates
        else Compensated ordersn start rest))

section Calls

variable {start db : InventoryDB} {ordersn : String} {details : List GoodsDetail}

theorem exec_compensation {call : OrderCall} (h : call.Compensates) (db : InventoryDB) :
    exec ordersn db call = (reback ordersn call.details db).2 := by
  rcases h with h | h <;> simp only [exec, h, release]

theorem exec_sale {call : OrderCall} (hconfirm : call.operation ≠ .confirm)
    (h : ¬call.Compensates) (db : InventoryDB) :
    call.operation = .sell ∧ exec ordersn db call = (sell ordersn call.details db).2 := by
  obtain ⟨operation, details⟩ := call
  cases operation with
  | sell => exact ⟨rfl, rfl⟩
  | reback => exact absurd (.inl rfl) h
  | release => exact absurd (.inr rfl) h
  | confirm => exact absurd rfl hconfirm

theorem compensated_compensation {call : OrderCall} {rest : List OrderCall}
    (h : call.Compensates) :
    Compensated ordersn start (call :: rest) ↔
      fitsSellDetail ⟨ordersn, stockSellStatusReleased, sortByGoods call.details⟩ = true ∨
        Compensated ordersn start rest := by
  have htakes : ¬Takes ordersn start call := by
    rintro ⟨hsell, -⟩
    simp [OrderCall.Compensates, hsell] at h
  rw [Compensated, if_neg htakes, Marks, and_iff_right h]

theorem compensated_sale {call : OrderCall} {rest : List OrderCall} (h : call.operation = .sell) :
    Compensated ordersn start (call :: rest) ↔
      if Served ordersn call.details start then
        Returnable call.details start ∧ ∃ other ∈ rest, other.Compensates
      else Compensated ordersn start rest := by
  have hmarks : ¬Marks ordersn call := by
    rintro ⟨hcompensates, -⟩
    simp [OrderCall.Compensates, h] at hcompensates
  rw [Compensated, or_iff_right hmarks]
  simp only [Takes, h, true_and]

theorem sell_served (untouched : Untouched ordersn start)
    (hvalid : validateStockOperation ordersn details = .ok ()) :
    (sell ordersn details start).1 = .ok () ↔ Served ordersn details start := by
  obtain ⟨hne, hnonempty, hpositive⟩ := validateStockOperation_ok hvalid
  have sale : FirstSale ordersn details start :=
    { oneRow := untouched.oneRow
      stored := untouched.stored
      unknown := fun row hrow => by simpa [untouched.trimmed] using untouched.unknown row hrow
      nonempty := hnonempty
      positive := hpositive }
  exact sale.sell_ok_iff hne

theorem confirm_released (untouched : Untouched ordersn start) (called details : List GoodsDetail) :
    (confirm ordersn called (releasedTables start ordersn details)).2 =
      releasedTables start ordersn details := by
  apply stockOperation_keeps
  intro db' hcalled hrun
  simp only [confirmBody, Txn.read_bind, released_get untouched hcalled, if_true,
    Txn.pure_ok] at hrun
  cases hrun
  rfl

theorem exec_released (untouched : Untouched ordersn start) (details : List GoodsDetail)
    (call : OrderCall) :
    exec ordersn (releasedTables start ordersn details) call =
      releasedTables start ordersn details := by
  obtain ⟨operation, called⟩ := call
  cases operation with
  | sell =>
    exact sell_known (releasedTables_oneRow untouched) (releasedTables_find untouched details)
  | reback => exact reback_released untouched called details
  | release => exact reback_released untouched called details
  | confirm => exact confirm_released untouched called details

theorem run_released (untouched : Untouched ordersn start) (details : List GoodsDetail)
    (calls : List OrderCall) :
    run (exec ordersn) (releasedTables start ordersn details) calls =
      releasedTables start ordersn details := by
  induction calls with
  | nil => rfl
  | cons call rest ih => rw [run_cons, exec_released untouched details call, ih]

theorem exec_reserved {call : OrderCall} (untouched : Untouched ordersn start)
    (hvalid : validateStockOperation ordersn details = .ok ())
    (reservation : Reservation ordersn (sortByGoods details) start db)
    (hconfirm : call.operation ≠ .confirm)
    (hcall : validateStockOperation ordersn call.details = .ok ()) :
    exec ordersn db call =
      if Returnable details start ∧ call.Compensates then releasedTables start ordersn details
      else db := by
  by_cases hcompensates : call.Compensates
  · rw [exec_compensation hcompensates]
    by_cases hreturnable : Returnable details start
    · rw [if_pos ⟨hreturnable, hcompensates⟩]
      exact reback_reserved untouched hreturnable hcall hvalid reservation
    · rw [if_neg fun h => hreturnable h.1]
      exact reback_unreturnable untouched hreturnable reservation call.details
  · rw [if_neg fun h => hcompensates h.2, (exec_sale hconfirm hcompensates db).2]
    exact sell_known (reservation_oneRow untouched reservation)
      (reservation_find untouched reservation)

theorem run_reserved {calls : List OrderCall} (untouched : Untouched ordersn start)
    (hvalid : validateStockOperation ordersn details = .ok ())
    (reservation : Reservation ordersn (sortByGoods details) start db)
    (hconfirm : ∀ call ∈ calls, call.operation ≠ .confirm)
    (hcalls : ∀ call ∈ calls, validateStockOperation ordersn call.details = .ok ()) :
    run (exec ordersn) db calls =
      if Returnable details start ∧ ∃ call ∈ calls, call.Compensates then
        releasedTables start ordersn details
      else db := by
  induction calls with
  | nil => simp
  | cons call rest ih =>
    simp only [List.forall_mem_cons] at hconfirm hcalls
    rw [run_cons, exec_reserved untouched hvalid reservation hconfirm.1 hcalls.1]
    by_cases hfirst : Returnable details start ∧ call.Compensates
    · rw [if_pos hfirst, if_pos ⟨hfirst.1, call, List.mem_cons_self, hfirst.2⟩]
      exact run_released untouched details rest
    · rw [if_neg hfirst, ih hconfirm.2 hcalls.2]
      have hlater : (Returnable details start ∧ ∃ other ∈ call :: rest, other.Compensates) ↔
          Returnable details start ∧ ∃ other ∈ rest, other.Compensates := by
        simp only [List.exists_mem_cons_iff, and_or_left, hfirst, false_or]
      simp only [hlater]

theorem run_untouched {calls : List OrderCall} (untouched : Untouched ordersn start)
    (hconfirm : ∀ call ∈ calls, call.operation ≠ .confirm)
    (hcalls : ∀ call ∈ calls, validateStockOperation ordersn call.details = .ok ()) :
    (Compensated ordersn start calls ∧ ∃ details,
        run (exec ordersn) start calls = releasedTables start ordersn details) ∨
      ¬Compensated ordersn start calls ∧
        sellStatus (run (exec ordersn) start calls) ordersn ≠ some stockSellStatusReleased := by
  induction calls with
  | nil =>
    refine .inr ⟨id, ?_⟩
    have hfind : start.stockSellDetail.find? (·.orderSn = ordersn) = none := by
      simpa using untouched.unknown
    simp [sellStatus, hfind]
  | cons call rest ih =>
    simp only [List.forall_mem_cons] at hconfirm hcalls
    rw [run_cons]
    by_cases hcompensates : call.Compensates
    · rw [exec_compensation hcompensates, reback_untouched untouched hcalls.1,
        compensated_compensation hcompensates]
      by_cases hfits : fitsSellDetail
          ⟨ordersn, stockSellStatusReleased, sortByGoods call.details⟩ = true
      · rw [if_pos hfits, run_released untouched call.details rest]
        exact .inl ⟨.inl hfits, call.details, rfl⟩
      · rw [if_neg hfits, or_iff_right hfits]
        exact ih hconfirm.2 hcalls.2
    · obtain ⟨hsell, hexec⟩ := exec_sale hconfirm.1 hcompensates start
      have hserved := sell_served untouched hcalls.1
      rw [hexec, compensated_sale hsell]
      rcases sell_untouched untouched call.details with
        ⟨htaken, hvalid, reservation⟩ | ⟨hfails, hsame⟩
      · rw [run_reserved untouched hvalid reservation hconfirm.2 hcalls.2,
          if_pos (hserved.mp htaken)]
        split
        · rename_i h
          exact .inl ⟨h, call.details, rfl⟩
        · rename_i h
          refine .inr ⟨h, ?_⟩
          rw [sellStatus, reservation_find untouched reservation]
          exact fun hstatus => reserved_ne_released (Option.some.inj hstatus)
      · rw [hsame, if_neg (mt hserved.mpr hfails)]
        exact ih hconfirm.2 hcalls.2

/-- After any sequence of sales and compensations the tables are back, the order
is released and nothing can move its stock any more, if and only if the first
call with an effect is a compensation whose mark fits, or a sale that a later
compensation can take back. -/
theorem compensation_confluent (untouched : Untouched ordersn start) (calls : List OrderCall)
    (hconfirm : ∀ call ∈ calls, call.operation ≠ .confirm)
    (hcalls : ∀ call ∈ calls, validateStockOperation ordersn call.details = .ok ()) :
    ((run (exec ordersn) start calls).inventory = start.inventory ∧
        sellStatus (run (exec ordersn) start calls) ordersn = some stockSellStatusReleased ∧
        ∀ later : List OrderCall,
          (run (exec ordersn) (run (exec ordersn) start calls) later).inventory =
            start.inventory) ↔
      Compensated ordersn start calls := by
  rcases run_untouched untouched hconfirm hcalls with ⟨h, details, hrun⟩ | ⟨h, hstatus⟩
  · rw [hrun]
    refine ⟨fun _ => h, fun _ => ⟨rfl, ?_, fun later => ?_⟩⟩
    · rw [sellStatus, releasedTables_find untouched details]
      rfl
    · rw [run_released untouched details later]
      rfl
  · exact ⟨fun hall => absurd hall.2.1 hstatus, fun hall => absurd hall h⟩

end Calls

def fiveUnits : InventoryDB where
  inventory := [⟨1, 7, 5, 5, 5, 0, 0⟩]
  stockSellDetail := []

/-- The list of the early compensation takes 201 characters, one more than its
column, so the compensation fails and the sale behind it keeps its unit. -/
theorem long_compensation_leaves_sale :
    let early : OrderCall := ⟨.reback, List.replicate 10 ⟨7, 1⟩⟩
    let late : OrderCall := ⟨.sell, [⟨7, 1⟩]⟩
    let final := run (exec "S1") fiveUnits [early, late]
    Untouched "S1" fiveUnits ∧
      validateStockOperation "S1" early.details = .ok () ∧
      validateStockOperation "S1" late.details = .ok () ∧
      final.inventory ≠ fiveUnits.inventory ∧
      sellStatus final "S1" = some stockSellStatusReserved := by
  refine ⟨⟨?_, ?_, ?_, ?_⟩, ?_⟩ <;> decide +kernel

theorem compensation_confluent_two_lists :
    let calls : List OrderCall := [⟨.sell, [⟨7, 2⟩]⟩, ⟨.release, [⟨7, 1⟩]⟩, ⟨.sell, [⟨7, 3⟩]⟩]
    (run (exec "S1") fiveUnits calls).inventory = fiveUnits.inventory ∧
      sellStatus (run (exec "S1") fiveUnits calls) "S1" = some stockSellStatusReleased ∧
      ∀ later : List OrderCall,
        (run (exec "S1") (run (exec "S1") fiveUnits calls) later).inventory =
          fiveUnits.inventory := by
  refine (compensation_confluent ⟨?_, ?_, ?_, ?_⟩ _ ?_ ?_).mpr ?_ <;> decide +kernel

end Goshop.Inventory.Confluence
