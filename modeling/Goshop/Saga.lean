import Goshop.Inventory.Compensation
import Goshop.Order.Pricing
import Goshop.System

/-! The saga behind `Submit`: two actions and their compensations, delivered by
the coordinator in any order and any number of times. The inventory side is
closed under all deliveries; the order side is not, because `CreateCom` leaves
no mark for a `Create` that comes later: any late `Create` that gets a usable
answer from the goods service stores the order again. -/
namespace Goshop.Saga

open Goshop.Errors Goshop.Lib Goshop.Lib.Transaction Goshop.Lib.Run
open Goshop.Inventory.Model (GoodsDetail InventoryDB sell reback stockSellStatusReserved)
open Goshop.Inventory.Compensation
open Goshop.Order.Model Goshop.Order.Data Goshop.Order.Service Goshop.Order.Steps
open Goshop.Order.Pricing Goshop.System
open Goshop.Lib.GoText (trimSpace)

/-- One delivery. The answer of the goods service belongs to the delivery that
asks for it. -/
inductive Branch where
  | sell
  | reback
  | createOrder (goods : Except AppError (List GoodsInfo)) (now : Int)
  | createOrderCom (now : Int)

def Branch.isCreateOrderCom : Branch → Bool
  | .createOrderCom _ => true
  | _ => false

def sellInfo (request : OrderDTO) : List GoodsDetail :=
  request.orderGoods.map fun item => ⟨item.goods, item.nums⟩

def serve (request : OrderDTO) (world : World) : Branch → World
  | .sell => (onInventory (sell request.orderSn (sellInfo request)) world).2
  | .reback => (onInventory (reback request.orderSn (sellInfo request)) world).2
  | .createOrder goods now => (onOrders (Txn.commit (createBody goods request now)) world).2
  | .createOrderCom now => (onOrders (Txn.commit (createComBody request.orderSn now)) world).2

section Fields

variable (request : OrderDTO) (world : World)

@[simp] theorem serve_sell_inventory : (serve request world .sell).inventory =
    (sell request.orderSn (sellInfo request) world.inventory).2 := by
  simp only [serve, onInventory]

@[simp] theorem serve_reback_inventory : (serve request world .reback).inventory =
    (reback request.orderSn (sellInfo request) world.inventory).2 := by
  simp only [serve, onInventory]

@[simp] theorem serve_createOrder_inventory (goods : Except AppError (List GoodsInfo))
    (now : Int) : (serve request world (.createOrder goods now)).inventory = world.inventory := by
  simp only [serve, onOrders]

@[simp] theorem serve_createOrderCom_inventory (now : Int) :
    (serve request world (.createOrderCom now)).inventory = world.inventory := by
  simp only [serve, onOrders]

@[simp] theorem serve_sell_orders : (serve request world .sell).orders = world.orders := by
  simp only [serve, onInventory]

@[simp] theorem serve_reback_orders : (serve request world .reback).orders = world.orders := by
  simp only [serve, onInventory]

end Fields

/-- Nothing is left of the order: no visible row and no reserved stock. -/
def Clean (orderSn : String) (world : World) : Prop :=
  findOrder world.orders orderSn = none ∧ ∀ row ∈ world.inventory.stockSellDetail,
    row.orderSn = orderSn → row.status ≠ stockSellStatusReserved

/-- No delivery of `CreateOrder` gets an answer from the goods service that the
order can be stored with. -/
def NoUsableAnswer (request : OrderDTO) (calls : List Branch) : Prop :=
  ∀ answer now, .createOrder (.ok answer) now ∈ calls → ¬Orderable request answer

instance (orderSn : String) (world : World) : Decidable (Clean orderSn world) := by
  unfold Clean
  infer_instance

theorem submit_ok {order request : OrderDTO} {db : OrderDB} (h : submit order db = .ok request) :
    request.orderSn ≠ "" ∧ trimSpace request.orderSn = request.orderSn := by
  simp only [submit] at h
  split at h
  · cases h
  · rename_i hvalid
    split at h
    · cases h
    · cases h
      exact ⟨fun hblank => hvalid (.inr hblank), by simp⟩

section Stock

variable {request : OrderDTO} {start : InventoryDB} {world : World}

theorem serve_phase (before : Before request.orderSn start)
    (phase : Phase start request.orderSn (sellInfo request) world.inventory) (branch : Branch) :
    Phase start request.orderSn (sellInfo request) (serve request world branch).inventory := by
  cases branch with
  | sell =>
    rw [serve_sell_inventory]
    exact phase.sell before
  | reback =>
    rw [serve_reback_inventory]
    exact (phase.reback before).phase
  | createOrder goods now =>
    rw [serve_createOrder_inventory]
    exact phase
  | createOrderCom now =>
    rw [serve_createOrderCom_inventory]
    exact phase

theorem serve_settled (before : Before request.orderSn start)
    (settled : Settled start request.orderSn (sellInfo request) world.inventory)
    (branch : Branch) :
    Settled start request.orderSn (sellInfo request) (serve request world branch).inventory := by
  cases branch with
  | sell =>
    rw [serve_sell_inventory]
    exact settled.sell before
  | reback =>
    rw [serve_reback_inventory]
    exact settled.phase.reback before
  | createOrder goods now =>
    rw [serve_createOrder_inventory]
    exact settled
  | createOrderCom now =>
    rw [serve_createOrderCom_inventory]
    exact settled

theorem run_settled (before : Before request.orderSn start)
    (settled : Settled start request.orderSn (sellInfo request) world.inventory)
    (calls : List Branch) :
    Settled start request.orderSn (sellInfo request)
      (run (serve request) world calls).inventory := by
  induction calls generalizing world with
  | nil => exact settled
  | cons branch rest ih =>
    rw [run_cons]
    exact ih (serve_settled before settled branch)

theorem run_reback (before : Before request.orderSn start)
    (phase : Phase start request.orderSn (sellInfo request) world.inventory)
    {calls : List Branch} (hreback : .reback ∈ calls) :
    Settled start request.orderSn (sellInfo request)
      (run (serve request) world calls).inventory := by
  induction calls generalizing world with
  | nil => simp at hreback
  | cons branch rest ih =>
    rw [run_cons]
    rcases List.mem_cons.mp hreback with rfl | hrest
    · apply run_settled before
      rw [serve_reback_inventory]
      exact phase.reback before
    · exact ih (serve_phase before phase branch) hrest

end Stock

section Order

variable {request : OrderDTO} {world : World}

def VisibleOnce (orderSn : String) (db : OrderDB) : Prop :=
  (db.orders.filter (hasSn orderSn)).length ≤ 1

theorem visible_eq_nil {orderSn : String} {db : OrderDB} (h : findOrder db orderSn = none) :
    db.orders.filter (hasSn orderSn) = [] :=
  List.filter_eq_nil_iff.mpr (List.find?_eq_none.mp h)

theorem VisibleOnce.eq {orderSn : String} {db : OrderDB} (once : VisibleOnce orderSn db)
    {row other : OrderInfoDO} (hrow : row ∈ db.orders) (hother : other ∈ db.orders)
    (hrowSn : hasSn orderSn row) (hotherSn : hasSn orderSn other) : row = other := by
  have hmem := List.mem_filter.mpr ⟨hrow, hrowSn⟩
  have hmem' := List.mem_filter.mpr ⟨hother, hotherSn⟩
  unfold VisibleOnce at once
  cases hrows : db.orders.filter (hasSn orderSn) with
  | nil => simp [hrows] at hmem
  | cons only rest =>
    have hrest : rest = [] := by
      rw [hrows, List.length_cons] at once
      exact List.eq_nil_of_length_eq_zero (by omega)
    rw [hrows, hrest, List.mem_singleton] at hmem hmem'
    rw [hmem, hmem']

theorem hideFound_none {orderSn : String} {db : OrderDB} (once : VisibleOnce orderSn db)
    (carts : List ShoppingCartDO) :
    findOrder { db with carts := carts, orders := hideFound orderSn db } orderSn = none := by
  unfold hideFound
  cases hfind : findOrder db orderSn with
  | none => exact hfind
  | some order =>
    have horder := List.find?_some hfind
    apply List.find?_eq_none.mpr
    intro row hrow
    obtain ⟨before, hbefore, rfl⟩ := List.mem_map.mp hrow
    split
    · simp [hasSn]
    · rename_i hkept
      intro hsn
      apply hkept
      rw [once.eq hbefore (List.mem_of_find?_eq_some hfind) hsn horder]
      simp only [hasSn, Bool.and_eq_true] at horder
      exact ⟨horder.1, rfl⟩

theorem serve_createOrder (goods : Except AppError (List GoodsInfo)) (now : Int)
    (hsn : trimSpace request.orderSn = request.orderSn) :
    (serve request world (.createOrder goods now)).orders.orders = world.orders.orders ∨
      findOrder world.orders request.orderSn = none ∧ ∃ row, hasSn request.orderSn row ∧
        (serve request world (.createOrder goods now)).orders.orders =
          world.orders.orders ++ [row] := by
  simp only [serve, onOrders]
  rcases Txn.commit_cases (createBody goods request now) world.orders with
    ⟨_, db', hrun, hcommit⟩ | ⟨err, -, hcommit⟩
  · rw [hcommit]
    rcases createBody_ok hrun with ⟨-, rfl⟩ | ⟨hnone, row, carts, logs, hrow, rfl⟩
    · exact .inl rfl
    · rw [hsn] at hnone hrow
      exact .inr ⟨hnone, row, hrow, rfl⟩
  · rw [hcommit]
    exact .inl rfl

theorem serve_createOrderCom (hne : request.orderSn ≠ "")
    (hsn : trimSpace request.orderSn = request.orderSn) (now : Int) :
    ∃ carts, (serve request world (.createOrderCom now)).orders =
      { world.orders with carts := carts, orders := hideFound request.orderSn world.orders } := by
  have hrun := createComBody_run (hsn ▸ hne) now world.orders
  rw [hsn] at hrun
  exact ⟨restoredFound request.orderSn now world.orders, by
    simp only [serve, onOrders, Txn.commit_of_ok hrun]⟩

theorem serve_hidden (hne : request.orderSn ≠ "")
    (hsn : trimSpace request.orderSn = request.orderSn)
    (once : VisibleOnce request.orderSn world.orders) (now : Int) :
    findOrder (serve request world (.createOrderCom now)).orders request.orderSn = none := by
  obtain ⟨carts, hcom⟩ : ∃ carts, (serve request world (.createOrderCom now)).orders = _ :=
    serve_createOrderCom hne hsn now
  rw [hcom]
  exact hideFound_none once carts

theorem serve_visibleOnce (hne : request.orderSn ≠ "")
    (hsn : trimSpace request.orderSn = request.orderSn)
    (once : VisibleOnce request.orderSn world.orders) (branch : Branch) :
    VisibleOnce request.orderSn (serve request world branch).orders := by
  cases branch with
  | sell =>
    rw [serve_sell_orders]
    exact once
  | reback =>
    rw [serve_reback_orders]
    exact once
  | createOrder goods now =>
    unfold VisibleOnce at once ⊢
    rcases serve_createOrder goods now hsn with hsame | ⟨hnone, row, -, hrows⟩
    · rw [hsame]
      exact once
    · rw [hrows, List.filter_append, visible_eq_nil hnone, List.nil_append]
      exact List.length_filter_le _ [row]
  | createOrderCom now =>
    simp [VisibleOnce, visible_eq_nil (serve_hidden hne hsn once now)]

theorem serve_visible (hsn : trimSpace request.orderSn = request.orderSn)
    {branch : Branch} (hbranch : branch.isCreateOrderCom = false)
    (h : findOrder world.orders request.orderSn ≠ none) :
    findOrder (serve request world branch).orders request.orderSn ≠ none := by
  cases branch with
  | sell =>
    rw [serve_sell_orders]
    exact h
  | reback =>
    rw [serve_reback_orders]
    exact h
  | createOrder goods now =>
    rcases serve_createOrder goods now hsn with hsame | ⟨hnone, -⟩
    · unfold findOrder at h ⊢
      rw [hsame]
      exact h
    · exact absurd hnone h
  | createOrderCom now => cases hbranch

theorem run_visible (hsn : trimSpace request.orderSn = request.orderSn)
    {calls : List Branch} (hcalls : ∀ branch ∈ calls, branch.isCreateOrderCom = false)
    (h : findOrder world.orders request.orderSn ≠ none) :
    findOrder (run (serve request) world calls).orders request.orderSn ≠ none := by
  induction calls generalizing world with
  | nil => exact h
  | cons branch rest ih =>
    rw [run_cons]
    exact ih (fun other hother => hcalls other (by simp [hother]))
      (serve_visible hsn (hcalls branch (by simp)) h)

theorem run_visibleOnce (hne : request.orderSn ≠ "")
    (hsn : trimSpace request.orderSn = request.orderSn)
    (once : VisibleOnce request.orderSn world.orders) (calls : List Branch) :
    VisibleOnce request.orderSn (run (serve request) world calls).orders := by
  induction calls generalizing world with
  | nil => exact once
  | cons branch rest ih =>
    rw [run_cons]
    exact ih (serve_visibleOnce hne hsn once branch)

/-- `CreateOrder` of an order that is not visible stores it exactly when the goods
service has given a usable answer. -/
theorem serve_hidden_iff (hsn : trimSpace request.orderSn = request.orderSn)
    (h : findOrder world.orders request.orderSn = none) {branch : Branch}
    (hbranch : branch.isCreateOrderCom = false) :
    findOrder (serve request world branch).orders request.orderSn = none ↔
      NoUsableAnswer request [branch] := by
  cases branch with
  | sell => simp [NoUsableAnswer, h]
  | reback => simp [NoUsableAnswer, h]
  | createOrderCom now => cases hbranch
  | createOrder goods now =>
    have hruns : (∃ db', createBody goods request now world.orders = .ok ((), db')) ↔ _ :=
      createBody_runs_iff (by rw [hsn]; exact h)
    have husable : NoUsableAnswer request [.createOrder goods now] ↔
        ¬∃ answer, goods = .ok answer ∧ Orderable request answer := by
      simp [NoUsableAnswer, eq_comm]
    rw [husable, ← hruns]
    simp only [serve, onOrders]
    rcases Txn.commit_cases (createBody goods request now) world.orders with
      ⟨_, db', hrun, hcommit⟩ | ⟨err, hrun, hcommit⟩
    · rw [hcommit]
      rcases createBody_ok hrun with ⟨hsome, -⟩ | ⟨-, row, carts, logs, hrow, rfl⟩
      · rw [hsn] at hsome
        exact absurd h hsome
      · rw [hsn] at hrow
        apply iff_of_false
        · intro hnone
          exact List.find?_eq_none.mp hnone row (by simp) hrow
        · exact not_not_intro ⟨_, hrun⟩
    · rw [hcommit]
      apply iff_of_true h
      rintro ⟨db', hok⟩
      simp [hrun] at hok

theorem run_hidden_iff (hsn : trimSpace request.orderSn = request.orderSn)
    {calls : List Branch} (hcalls : ∀ branch ∈ calls, branch.isCreateOrderCom = false)
    (h : findOrder world.orders request.orderSn = none) :
    findOrder (run (serve request) world calls).orders request.orderSn = none ↔
      NoUsableAnswer request calls := by
  induction calls generalizing world with
  | nil => simp [NoUsableAnswer, h]
  | cons branch rest ih =>
    have hrest : ∀ other ∈ rest, other.isCreateOrderCom = false :=
      fun other hother => hcalls other (by simp [hother])
    have hfirst := serve_hidden_iff hsn h (hcalls branch (by simp))
    have hsplit : NoUsableAnswer request (branch :: rest) ↔
        NoUsableAnswer request [branch] ∧ NoUsableAnswer request rest := by
      simp only [NoUsableAnswer, List.mem_cons, List.not_mem_nil, or_false, or_imp, forall_and]
    rw [run_cons, hsplit, ← hfirst]
    by_cases hnext : findOrder (serve request world branch).orders request.orderSn = none
    · rw [ih hrest hnext, and_iff_right hnext]
    · have hvisible := run_visible hsn hrest hnext
      simp [hnext, hvisible]

end Order

/-- Any deliveries around the last `CreateOrderCom`, with a `Reback` somewhere:
nothing of the order is left behind exactly when no `CreateOrder` that comes after
that compensation gets an answer that the order can be stored with. -/
theorem compensation_clean_iff (order request : OrderDTO) (start : World)
    (earlier later : List Branch) (now : Int)
    (submitted : submit order start.orders = .ok request)
    (unused : findOrder start.orders request.orderSn = none)
    (before : Before request.orderSn start.inventory)
    (last : ∀ branch ∈ later, branch.isCreateOrderCom = false)
    (returned : .reback ∈ earlier ++ .createOrderCom now :: later) :
    Clean request.orderSn
        (run (serve request) start (earlier ++ .createOrderCom now :: later)) ↔
      NoUsableAnswer request later := by
  obtain ⟨hne, hsn⟩ := submit_ok submitted
  have hstock := (run_reback before .fresh returned).not_reserved before
  have honce : VisibleOnce request.orderSn (run (serve request) start earlier).orders :=
    run_visibleOnce hne hsn (by simp [VisibleOnce, visible_eq_nil unused]) earlier
  have hhidden := run_hidden_iff hsn last (serve_hidden hne hsn honce now)
  unfold Clean
  rw [and_iff_left hstock, run_append, run_cons]
  exact hhidden

def cartWorld : World where
  inventory := ⟨[⟨1, 7, 5, 5, 5, 0, 0⟩], []⟩
  orders := ⟨[], [⟨1, 9, 7, 2, true, 0, false⟩], [], [], [], []⟩

def cartRequest : OrderDTO :=
  { user := 9, orderSn := "S1", orderGoods := [{ goods := 7, nums := 2 }] }

def cartGoods : Except AppError (List GoodsInfo) := .ok [⟨7, "goods", 50, "image", "store"⟩]

/-- The compensation overtakes its action. -/
theorem late_create_survives_compensation :
    let calls : List Branch := [.sell, .reback, .createOrderCom 1, .createOrder cartGoods 2]
    submit cartRequest cartWorld.orders = .ok cartRequest ∧
      ¬Clean "S1" (run (serve cartRequest) cartWorld calls) := by
  decide +kernel

theorem compensation_clean_after_duplicates :
    let earlier : List Branch := [.reback, .createOrder cartGoods 1, .sell]
    let later : List Branch := [.sell, .createOrder (.ok []) 3, .reback]
    Clean "S1" (run (serve cartRequest) cartWorld (earlier ++ .createOrderCom 2 :: later)) := by
  apply (compensation_clean_iff cartRequest cartRequest cartWorld _ _ _ (by decide +kernel) rfl
    ⟨by decide, by decide, by decide, by decide, by decide⟩ (by simp [Branch.isCreateOrderCom])
    (by simp)).mpr
  rintro answer now hcall orderable
  obtain ⟨rfl, -⟩ : answer = [] ∧ now = 3 := by simpa using hcall
  cases orderable.count

end Goshop.Saga
