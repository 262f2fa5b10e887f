import Goshop.Order.Steps
import Goshop.System

/-! The stored status of an order moves along the edges of the state machine as
long as no `Update` writes over a status that it has not seen. The lookup that
`Update` checks against is outside its transaction, so a write in between is
enough to leave the path. -/
namespace Goshop.Order.StatusPath

open Goshop.Lib Goshop.Lib.Transaction Goshop.Lib.Process Goshop.Lib.Run
open Goshop.Order.Model Goshop.Order.Data Goshop.Order.Service Goshop.Order.Steps Goshop.System

/-- Every stored status is followed by one that the state machine allows. -/
def StoredMoves (before after : World) : Prop :=
  List.Forall₂ (fun row row' => canTransitionOrderStatus row.status row'.status = true)
    before.orders.orders after.orders.orders

instance (before after : World) : Decidable (StoredMoves before after) :=
  inferInstanceAs (Decidable (List.Forall₂ _ _ _))

/-- The rows that the transaction is about to write still have the status that
its lookup has read. -/
def Fresh : Call → Choice → World → Prop
  | .updateTxn existing order, _, world =>
    ∀ row ∈ world.orders.orders, addressed order row → row.status = existing.status
  | _, _, _ => True

instance (request : Call) (choice : Choice) (world : World) :
    Decidable (Fresh request choice world) :=
  match request with
  | .updateTxn existing order => inferInstanceAs (Decidable
      (∀ row ∈ world.orders.orders, addressed order row → row.status = existing.status))
  | .ordersGet _ | .batchGetGoods _ | .createTxn _ | .beginPaymentEvent _
  | .completePaymentEvent _ _ _ | .getOrderBySn _ | .confirm _ _ | .release _ _
  | .listCloseCandidates _ _ _ => inferInstanceAs (Decidable True)

theorem storedMoves_refl (world : World) : StoredMoves world world := by
  unfold StoredMoves
  rw [List.forall₂_same]
  exact fun row _ => canTransitionOrderStatus_self row.status

/-- The step lemma: a fresh transaction moves every row it writes along an edge. -/
theorem exec_moves [GoText.CaseTable] (lookup : OrderLookup) {order : OrderDTO} {request : Call}
    {choice : Choice}
    {world : World} (hcall : UpdateCall order request) (hfresh : Fresh request choice world) :
    StoredMoves world (exec lookup request choice world).2 := by
  apply call_preserves _ _ (storedMoves_refl world)
  cases request with
  | ordersGet orderSn => exact storedMoves_refl world
  | updateTxn existing prepared =>
    obtain ⟨rfl, -, hcheck⟩ := hcall
    apply onOrders_commit (storedMoves_refl world)
    rintro _ db' hrun
    obtain ⟨-, rfl⟩ := updateTxn_ok hrun
    apply rewriteOrders_forall₂ fun row => canTransitionOrderStatus_self row.status
    intro row hrow haddressed
    rw [addressed_withPayTime, OrderDTO.trimmed_trimmed] at haddressed
    rw [written_status, withPayTime_trimmed_target, OrderDTO.trimmed_trimmed,
      hfresh row hrow haddressed]
    exact checkUpdate_transition hcheck
  | _ => exact hcall.elim

/-- Any number of concurrent `Update` executions, interleaved in any way: if
every transaction writes over the status its lookup has read, the stored
statuses only make moves of the state machine. -/
theorem status_moves_allowed [GoText.CaseTable] {ι : Type} [DecidableEq ι] (lookup : OrderLookup)
    (requests : ι → OrderDTO) (start : World) (labels : List (ι × Choice))
    (fresh : Along (move (exec lookup)) (Admitted fun _ => Fresh)
      ⟨start, fun thread => orderUpdate (requests thread)⟩ labels) :
    Along (move (exec lookup))
      (fun config label => StoredMoves config.shared (move (exec lookup) config label).shared)
      ⟨start, fun thread => orderUpdate (requests thread)⟩ labels := by
  have hstart : Confined (fun _ => True) (fun thread => UpdateCall (requests thread))
      ⟨start, fun thread => orderUpdate (requests thread)⟩ :=
    .start trivial fun thread => orderUpdate_issues (requests thread)
  refine hstart.along ?_ storedMoves_refl ?_ fresh
  · intro _ _ _ _ _ _ _
    trivial
  · intro _ request choice world hcall _ hfresh
    exact exec_moves lookup hcall hfresh

local instance letters : GoText.CaseTable := GoText.asciiTable

/-- The payment is written first; the closing transaction was checked against
the unpaid order. -/
theorem stale_close_overwrites_payment :
    let requests : Bool → OrderDTO := fun closing =>
      if closing then { orderSn := "S1", status := "TRADE_CLOSED" }
      else { orderSn := "S1", status := "TRADE_SUCCESS", tradeNo := "T1" }
    let start : Config Bool Unit :=
      ⟨unpaidWorld "S1", fun thread => orderUpdate (requests thread)⟩
    let paid := run (move (exec .unimplemented)) start [(false, {}), (true, {}), (false, {})]
    let closed := move (exec .unimplemented) paid (true, {})
    paid.shared.orders.orders.map (·.status) = [.tradeSuccess] ∧
      closed.shared.orders.orders.map (·.status) = [.tradeClosed] ∧
      ¬StoredMoves paid.shared closed.shared := by
  decide +kernel

theorem status_moves_allowed_two_updates :
    let requests : Bool → OrderDTO := fun finishing =>
      if finishing then { orderSn := "S1", status := "TRADE_FINISHED" }
      else { orderSn := "S1", status := "TRADE_SUCCESS", tradeNo := "T1" }
    let start : Config Bool Unit :=
      ⟨unpaidWorld "S1", fun thread => orderUpdate (requests thread)⟩
    let labels : List (Bool × Choice) :=
      [(false, {}), (false, { now := 1 }), (true, {}), (true, { now := 2 })]
    Along (move (exec .unimplemented)) (fun config label =>
        StoredMoves config.shared (move (exec .unimplemented) config label).shared) start labels ∧
      (run (move (exec .unimplemented)) start labels).shared.orders.orders.map (·.status) =
        [.tradeFinished] :=
  ⟨status_moves_allowed .unimplemented _ _ _ (by decide +kernel), by decide +kernel⟩

end Goshop.Order.StatusPath
