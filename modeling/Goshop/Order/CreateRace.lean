import Goshop.Order.Steps
import Goshop.System

/-! The order number is unique only through the lookup that `Create` makes
before its transaction; the index on `order_sn` is not a unique one. Two
executions that both look first and insert afterwards leave two rows. -/
namespace Goshop.Order.CreateRace

open Goshop.Lib Goshop.Lib.Transaction Goshop.Lib.Process Goshop.Lib.Run
open Goshop.Order.Model Goshop.Order.Data Goshop.Order.Service Goshop.Order.Steps Goshop.System
open Goshop.Lib.GoText (CaseTable trimSpace)

def rowsOf (orderSn : String) (world : World) : List OrderInfoDO :=
  world.orders.orders.filter (·.orderSn = orderSn)

def CreateCall (orderSn : String) : Call → Prop
  | .ordersGet _ => True
  | .batchGetGoods _ => True
  | .createTxn order => trimSpace order.orderSn = orderSn
  | _ => False

/-- At its insert the number is still unused, as its lookup has found it. -/
def StillAbsent : Call → Choice → World → Prop
  | .createTxn order, _, world => findOrder world.orders (trimSpace order.orderSn) = none
  | _, _, _ => True

instance (request : Call) (choice : Choice) (world : World) :
    Decidable (StillAbsent request choice world) :=
  match request with
  | .createTxn order => inferInstanceAs
      (Decidable (findOrder world.orders (trimSpace order.orderSn) = none))
  | .ordersGet _ | .updateTxn _ _ | .batchGetGoods _ | .beginPaymentEvent _
  | .completePaymentEvent _ _ _ | .getOrderBySn _ | .confirm _ _ | .release _ _
  | .listCloseCandidates _ _ _ => inferInstanceAs (Decidable True)

theorem orderCreate_issues (order : OrderDTO) :
    (orderCreate order).Issues (CreateCall (trimSpace order.orderSn)) := by
  apply Proc.Issues.attempt
  intro prepared hprepared
  obtain ⟨-, -, rfl⟩ := prepareCreate_ok hprepared
  refine .call trivial fun found => ?_
  cases found with
  | ok existing => exact .ret _
  | error err =>
    by_cases hcode : err.code = .errOrderNotFound
    · change Proc.Issues _ (if err.code = .errOrderNotFound then _ else _)
      rw [if_pos hcode]
      refine .call trivial fun goods => ?_
      apply Proc.Issues.attempt
      intro answer _
      apply Proc.Issues.attempt
      intro priced hpriced
      obtain ⟨-, total, -, rfl⟩ := priceOrder_ok hpriced
      exact .call (GoText.trimSpace_trimSpace _) fun _ => .ret _
    · change Proc.Issues _ (if err.code = .errOrderNotFound then _ else _)
      rw [if_neg hcode]
      exact .ret _

def AtMostOne (orderSn : String) (world : World) : Prop :=
  (rowsOf orderSn world).length ≤ 1 ∧ ∀ row ∈ rowsOf orderSn world, row.deleted = false

theorem rowsOf_eq_nil {orderSn : String} {world : World} (hone : AtMostOne orderSn world)
    (habsent : findOrder world.orders orderSn = none) : rowsOf orderSn world = [] := by
  rw [List.eq_nil_iff_forall_not_mem]
  intro row hrow
  have hvisible := hone.2 row hrow
  obtain ⟨hmem, hsn⟩ := List.mem_filter.mp hrow
  have hmiss := List.find?_eq_none.mp habsent row hmem
  simp only [hasSn, hvisible] at hmiss
  simp_all

/-- The step lemma: an insert that finds the number unused keeps it unique. -/
theorem exec_atMostOne [CaseTable] (lookup : OrderLookup) {orderSn : String} {request : Call}
    {choice : Choice} {world : World} (hcall : CreateCall orderSn request)
    (hone : AtMostOne orderSn world) (habsent : StillAbsent request choice world) :
    AtMostOne orderSn (exec lookup request choice world).2 := by
  apply call_preserves _ _ hone
  cases request with
  | ordersGet _ => exact hone
  | batchGetGoods _ => exact hone
  | createTxn order =>
    apply onOrders_commit hone
    rintro _ db' hrun
    obtain ⟨-, rfl⟩ := createTxn_ok hrun
    have hnone := rowsOf_eq_nil hone (hcall ▸ habsent)
    have hrows (carts : List ShoppingCartDO) (logs : List OrderStatusLogDO) :
        rowsOf orderSn { world with orders := { world.orders with
          orders := world.orders.orders ++ [newOrder (Sql.nextId (world.orders.orders.map (·.id)))
            { order with orderSn := trimSpace order.orderSn } choice.now]
          carts := carts
          statusLogs := logs } } =
        [newOrder (Sql.nextId (world.orders.orders.map (·.id)))
          { order with orderSn := trimSpace order.orderSn } choice.now] := by
      unfold rowsOf at hnone ⊢
      simp only [List.filter_append, hnone, List.nil_append]
      simp [newOrder, show trimSpace order.orderSn = orderSn from hcall]
    unfold AtMostOne
    rw [hrows]
    simp [newOrder]
  | _ => exact hcall.elim

/-- Any number of concurrent `Create` executions with one order number: if every
insert still finds the number unused, there is never a second row. -/
theorem created_at_most_once [CaseTable] {ι : Type} [DecidableEq ι] (lookup : OrderLookup)
    (requests : ι → OrderDTO) (orderSn : String) (start : World) (labels : List (ι × Choice))
    (same : ∀ thread, trimSpace (requests thread).orderSn = orderSn)
    (unused : rowsOf orderSn start = [])
    (absent : Along (move (exec lookup)) (Admitted fun _ => StillAbsent)
      ⟨start, fun thread => orderCreate (requests thread)⟩ labels) :
    (rowsOf orderSn (run (move (exec lookup))
      ⟨start, fun thread => orderCreate (requests thread)⟩ labels).shared).length ≤ 1 := by
  have hstart : Confined (AtMostOne orderSn) (fun _ => CreateCall orderSn)
      ⟨start, fun thread => orderCreate (requests thread)⟩ :=
    .start (by simp [AtMostOne, unused]) fun thread =>
      same thread ▸ orderCreate_issues (requests thread)
  refine (hstart.invariant ?_ absent).1
  intro _ request choice world hcall hone habsent
  exact exec_atMostOne lookup hcall hone habsent

local instance letters : CaseTable := GoText.asciiTable

/-- Two deliveries of one request: both lookups come before the first insert. -/
theorem concurrent_creates_insert_twice :
    let request : OrderDTO := { user := 9, orderSn := "S1", orderGoods := [⟨7, 2, "", "", 0⟩] }
    let goods : Choice := { goods := [⟨7, "goods", 50, "image", "store"⟩] }
    let start : Config Bool Unit :=
      ⟨⟨⟨[], []⟩, ⟨[], [], [], [], [], []⟩⟩, fun _ => orderCreate request⟩
    (rowsOf "S1" (run (move (exec .unimplemented)) start [(false, {}), (true, {}), (false, goods),
      (true, goods), (false, {}), (true, {})]).shared).length = 2 := by
  decide +kernel

theorem created_at_most_once_two_creates :
    let request : OrderDTO := { user := 9, orderSn := "S1", orderGoods := [⟨7, 2, "", "", 0⟩] }
    let goods : Choice := { goods := [⟨7, "goods", 50, "image", "store"⟩] }
    let start : Config Bool Unit :=
      ⟨⟨⟨[], []⟩, ⟨[], [], [], [], [], []⟩⟩, fun _ => orderCreate request⟩
    (rowsOf "S1" (run (move (exec .unimplemented)) start [(false, {}), (false, goods), (false, {}),
      (true, {})]).shared).length ≤ 1 :=
  created_at_most_once .unimplemented _ "S1" _ _ (by decide) rfl (by decide +kernel)

end Goshop.Order.CreateRace
