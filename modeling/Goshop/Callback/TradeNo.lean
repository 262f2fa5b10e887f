import Goshop.Callback.Calls

/-! The trade number of a paid order. The state machine allows the transition from
`TRADE_SUCCESS` to itself, and it writes the trade number of the request, so two
callbacks that both pass the gateway's look at the status would replace one
payment by another. The look is a call of `GetOrderBySn`, which the order server
does not implement: no callback comes to its update. -/
namespace Goshop.Callback.TradeNo

open Goshop.Lib Goshop.Lib.Transaction Goshop.Lib.Process Goshop.Lib.Run
open Goshop.Order.Model Goshop.Order.Data Goshop.Order.Service Goshop.Order.Payment
open Goshop.Order.Steps Goshop.Order.PaymentSteps Goshop.System Goshop.Gateway
open Goshop.Callback.Calls

def PaymentKept (before after : World) : Prop :=
  List.Forall₂ (fun row row' => row.status = .tradeSuccess →
    row'.status = .tradeSuccess ∧ row'.tradeNo = row.tradeNo)
    before.orders.orders after.orders.orders

theorem paymentKept_refl (world : World) : PaymentKept world world := by
  unfold PaymentKept
  rw [List.forall₂_same]
  exact fun _ _ hpaid => ⟨hpaid, rfl⟩

theorem paymentKept_of_orders {before after : World}
    (h : after.orders.orders = before.orders.orders) : PaymentKept before after := by
  unfold PaymentKept
  rw [h]
  exact paymentKept_refl before

theorem paymentKept_trans (first second third : World) (h : PaymentKept first second)
    (h' : PaymentKept second third) : PaymentKept first third := by
  apply Table.forall₂_trans _ h h'
  intro row row' row'' hkept hkept' hpaid
  obtain ⟨hpaid', htrade⟩ := hkept hpaid
  obtain ⟨hpaid'', htrade'⟩ := hkept' hpaid'
  exact ⟨hpaid'', htrade'.trans htrade⟩

/-- No order that the transaction is about to write is paid already. -/
def StillUnpaid : Call → Choice → World → Prop
  | .updateTxn _ order, _, world =>
    ∀ row ∈ world.orders.orders, addressed order.trimmed row → row.status ≠ .tradeSuccess
  | _, _, _ => True

instance (request : Call) (choice : Choice) (world : World) :
    Decidable (StillUnpaid request choice world) :=
  match request with
  | .updateTxn _ order => inferInstanceAs (Decidable
      (∀ row ∈ world.orders.orders, addressed order.trimmed row → row.status ≠ .tradeSuccess))
  | .ordersGet _ | .batchGetGoods _ | .createTxn _ | .beginPaymentEvent _
  | .completePaymentEvent _ _ _ | .getOrderBySn _ | .confirm _ _ | .release _ _
  | .listCloseCandidates _ _ _ => inferInstanceAs (Decidable True)

/-- The step lemma: a write over unpaid orders leaves the paid ones alone. -/
theorem exec_paymentKept [GoText.CaseTable] (lookup : OrderLookup) {req : CallbackRequest}
    {request : Call}
    {choice : Choice} {world : World} (hcall : CallbackCall req request)
    (hunpaid : StillUnpaid request choice world) :
    PaymentKept world (exec lookup request choice world).2 := by
  apply call_preserves _ _ (paymentKept_refl world)
  cases request with
  | ordersGet orderSn => exact paymentKept_refl world
  | getOrderBySn orderSn => exact paymentKept_refl world
  | confirm orderSn details => exact paymentKept_of_orders rfl
  | release orderSn details => exact paymentKept_of_orders rfl
  | beginPaymentEvent event =>
    apply onOrders_commit (paymentKept_refl world)
    intro response db' hrun
    obtain ⟨events, rfl⟩ := beginBody_frame hrun
    exact paymentKept_of_orders rfl
  | completePaymentEvent id success detail =>
    apply onOrders_commit (paymentKept_refl world)
    intro _ db' hrun
    obtain ⟨event, -, rfl⟩ := completeBody_ok hrun
    exact paymentKept_of_orders rfl
  | updateTxn existing order =>
    apply onOrders_commit (paymentKept_refl world)
    intro _ db' hrun
    obtain ⟨-, rfl⟩ := updateTxn_ok hrun
    apply rewriteOrders_forall₂ fun row hpaid => ⟨hpaid, rfl⟩
    intro row hrow haddressed hpaid
    rw [addressed_withPayTime] at haddressed
    exact absurd hpaid (hunpaid row hrow haddressed)
  | _ => exact hcall.elim

def deliveries {ι : Type} (requests : ι → CallbackRequest) (clock : ι → Int) (world : World) :
    Config ι Bool :=
  ⟨world, fun thread => processPayCallback (requests thread) (clock thread)⟩

/-- Any number of callbacks, interleaved in any way: if no update finds its
order paid already, an order that is paid keeps its trade number ever after. -/
theorem payment_never_replaced [GoText.CaseTable] {ι : Type} [DecidableEq ι] (lookup : OrderLookup)
    (requests : ι → CallbackRequest) (clock : ι → Int) (world : World)
    (earlier later : List (ι × Choice))
    (unpaid : Along (move (exec lookup)) (Admitted fun _ => StillUnpaid)
      (deliveries requests clock world) (earlier ++ later)) :
    PaymentKept
      (run (move (exec lookup)) (deliveries requests clock world) earlier).shared
      (run (move (exec lookup)) (deliveries requests clock world) (earlier ++ later)).shared := by
  have hstart : Confined (fun _ => True) (fun thread => CallbackCall (requests thread))
      (deliveries requests clock world) :=
    .start trivial fun thread => processPayCallback_issues (requests thread) (clock thread)
  refine hstart.ordered ?_ paymentKept_refl paymentKept_trans ?_ unpaid
  · intros
    trivial
  · intro _ request choice world hcall _ hunpaid
    exact exec_paymentKept lookup hcall hunpaid

/-- Any number of callbacks against the order server as it is, interleaved in any
way: an order that is paid keeps its trade number ever after. -/
theorem trade_no_kept [GoText.CaseTable] {ι : Type} [DecidableEq ι] (requests : ι → CallbackRequest)
    (clock : ι → Int) (world : World) (earlier later : List (ι × Choice)) :
    PaymentKept
      (run (move (exec .unimplemented)) (deliveries requests clock world) earlier).shared
      (run (move (exec .unimplemented)) (deliveries requests clock world)
        (earlier ++ later)).shared := by
  apply payment_never_replaced
  have hinv : ∀ (_ : ι) request (choice : Choice) world, EventCall request → True →
      (fun _ => True) (exec .unimplemented request choice world).2 := by
    intros
    trivial
  refine Sending.admitted hinv ?_ ⟨trivial, fun thread =>
    processPayCallback_unanswered (requests thread) (clock thread)⟩ (earlier ++ later)
  intro _ request choice world hcall _
  cases request <;> trivial

local instance letters : GoText.CaseTable := GoText.asciiTable

-- With an order server that answers, both callbacks look at the unpaid order before
-- the first one pays it, and the second one replaces the payment.
example :
    let start := deliveries
      (fun second => payment (if second then "E2" else "E1") "S1"
        (if second then "T2" else "T1") 100)
      (fun _ => 0) (unpaidWorld "S1")
    let labels := [true, true, false, false, false, false, false, false]
    let tradeNos := fun labels : List Bool =>
      (run (move (exec .stored)) start (labels.map (·, {}))).shared.orders.orders.map (·.tradeNo)
    tradeNos labels = ["T1"] ∧ tradeNos (labels ++ [true, true, true, true]) = ["T2"] := by
  decide +kernel

end Goshop.Callback.TradeNo
