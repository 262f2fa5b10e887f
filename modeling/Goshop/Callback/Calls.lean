import Goshop.Gateway
import Goshop.Order.PaymentSteps

/-! What a payment callback can send, and what its calls do to the order tables. -/
namespace Goshop.Callback.Calls

open Goshop.Errors Goshop.Lib Goshop.Lib.Transaction Goshop.Lib.Process
open Goshop.Inventory.Model (GoodsDetail)
open Goshop.Order.Model Goshop.Order.Data Goshop.Order.Service Goshop.Order.Payment
open Goshop.Order.Steps Goshop.Order.PaymentSteps Goshop.System Goshop.Gateway
open Goshop.Lib.GoText (CaseTable trimSpace)

def eventOf [CaseTable] (req : CallbackRequest) : PaymentEventRequest :=
  normalizeEvent (paymentEventRequest req)

def isEventOf [CaseTable] (req : CallbackRequest) (event : PaymentEventDO) : Bool :=
  event.provider = (eventOf req).provider ∧ event.eventID = (eventOf req).eventID

theorem checkAmount_ok {req : CallbackRequest} {begun : PaymentEventResponse}
    (h : checkAmount req begun = .ok ()) (htype : req.type = .paymentSucceeded) :
    req.amountFen = begun.orderAmountFen := by
  unfold checkAmount at h
  split at h
  · cases h
  · rename_i hpassed
    simp only [CallbackRequest.isRefund, htype, reduceCtorEq, or_self, decide_false] at hpassed
    simpa using hpassed

/-- What a callback sends once its event is open. Only a successful payment
confirms stock and asks for `TRADE_SUCCESS`. -/
def SettleCall (req : CallbackRequest) : Call → Prop
  | .completePaymentEvent _ _ _ => True
  | .getOrderBySn orderSn => orderSn = req.orderSN
  | .confirm orderSn _ => orderSn = req.orderSN ∧ req.type = .paymentSucceeded
  | .release orderSn _ => orderSn = req.orderSN ∧ req.type = .paymentFailed
  | .ordersGet orderSn => orderSn = trimSpace req.orderSN
  | .updateTxn _ order => order.trimmed = order ∧ order.id = 0 ∧
      order.orderSn = trimSpace req.orderSN ∧
      (order.target = .tradeSuccess → req.type = .paymentSucceeded)
  | _ => False

def CallbackCall (req : CallbackRequest) : Call → Prop
  | .beginPaymentEvent event => event = paymentEventRequest req
  | request => SettleCall req request

theorem SettleCall.callbackCall {req : CallbackRequest} {request : Call}
    (h : SettleCall req request) : CallbackCall req request := by
  cases request <;> first | exact h.elim | exact h

variable (req : CallbackRequest) (clock : Int)

theorem settleStock_issues (items : List GoodsDetail) :
    (settleStock req items).Issues (SettleCall req) := by
  unfold settleStock
  split
  · rename_i htype
    exact .call ⟨rfl, htype⟩ fun _ => .ret _
  · rename_i htype
    exact .call ⟨rfl, htype⟩ fun _ => .ret _
  all_goals exact .ret _

/-- The statuses that a callback asks for; only a payment leads to
`TRADE_SUCCESS`. -/
theorem settleStock_yields (items : List GoodsDetail) :
    (settleStock req items).Yields fun settled => ∀ target, settled = .ok target →
      isValidOrderStatus target ∧ (target = .tradeSuccess → req.type = .paymentSucceeded) := by
  unfold settleStock
  split
  · rename_i htype
    refine .call fun reply => .ret ?_
    cases reply <;> simp [failWith, Except.mapError, Except.map, htype, isValidOrderStatus]
  · refine .call fun reply => .ret ?_
    cases reply <;> simp [failWith, Except.mapError, Except.map, isValidOrderStatus]
  all_goals exact .ret (by simp [isValidOrderStatus])

theorem callbackUpdate_target {target : OrderStatus} (hvalid : isValidOrderStatus target) :
    (callbackUpdate req clock target).trimmed.target = target :=
  OrderStatus.trim_valid hvalid

theorem callbackUpdate_issues {target : OrderStatus} (hvalid : isValidOrderStatus target)
    (hpays : target = .tradeSuccess → req.type = .paymentSucceeded) :
    (orderUpdate (callbackUpdate req clock target)).Issues (SettleCall req) := by
  apply (orderUpdate_issues _).mono
  intro request hrequest
  cases request with
  | ordersGet orderSn => exact hrequest
  | updateTxn existing order =>
    obtain ⟨rfl, -, -⟩ := hrequest
    refine ⟨OrderDTO.trimmed_trimmed _, rfl, rfl, ?_⟩
    intro htarget
    exact hpays ((callbackUpdate_target req clock hvalid).symm.trans htarget)
  | _ => exact hrequest.elim

theorem settle_issues (loaded : Reply (.getOrderBySn req.orderSN)) :
    (Proc.attempt (failWith "load order failed" loaded) fun order =>
      Proc.attempt (checkOrder req order) fun items => do
        Proc.attempt (← settleStock req items) fun target => do
          let updated ← orderUpdate (callbackUpdate req clock target)
          pure (failWith "update order status failed" updated)).Issues (SettleCall req) := by
  apply Proc.Issues.attempt
  intro order _
  apply Proc.Issues.attempt
  intro items _
  apply (settleStock_issues req items).bind_yields (settleStock_yields req items)
  intro settled hsettled
  apply Proc.Issues.attempt
  intro target htarget
  obtain ⟨hvalid, hpays⟩ := hsettled target htarget
  exact (callbackUpdate_issues req clock hvalid hpays).bind fun _ => .ret _

theorem processEvent_issues (begun : PaymentEventResponse) :
    (processEvent req clock begun).Issues (SettleCall req) := by
  apply Proc.Issues.attempt
  intro _ _
  exact .call rfl fun loaded => settle_issues req clock loaded

theorem finishEvent_issues (id : Int) (outcome : Except Failure Unit) :
    (finishEvent id outcome).Issues (SettleCall req) := by
  cases outcome with
  | ok _ => exact .call trivial fun _ => .ret _
  | error failure => exact .call trivial fun _ => .ret _

theorem processPayCallback_issues :
    (processPayCallback req clock).Issues (CallbackCall req) := by
  unfold processPayCallback
  split
  · refine .call rfl fun begin => ?_
    apply Proc.Issues.attempt
    intro begun _
    split
    · apply Proc.Issues.mono _ fun request => SettleCall.callbackCall
      exact (processEvent_issues req clock begun).bind (finishEvent_issues req begun.id)
    · split <;> exact .ret _
  · exact .ret _

/-- What is left of a callback without an answer from `GetOrderBySn`: it opens its
event and closes it as failed. -/
def EventCall : Call → Prop
  | .beginPaymentEvent _ => True
  | .getOrderBySn _ => True
  | .completePaymentEvent _ success _ => success = false
  | _ => False

theorem processEvent_unanswered [CaseTable] (begun : PaymentEventResponse) :
    (processEvent req clock begun >>= finishEvent begun.id).Sends (exec .unimplemented)
      EventCall fun _ => True := by
  have hrefused : ∀ failure : Failure,
      (finishEvent begun.id (.error failure)).Sends (exec .unimplemented) EventCall fun _ => True :=
    fun failure => .call rfl fun _ _ => .ret trivial
  unfold processEvent
  cases checkAmount req begun with
  | error failure => exact hrefused failure
  | ok _ =>
    refine .call trivial fun choice world => ?_
    obtain ⟨err, herr⟩ := exec_getOrderBySn req.orderSN choice world
    rw [herr]
    exact hrefused _

theorem processPayCallback_unanswered [CaseTable] :
    (processPayCallback req clock).Sends (exec .unimplemented) EventCall fun _ => True := by
  simp only [processPayCallback, Proc.send_bind]
  split
  · refine .call trivial fun choice world => ?_
    cases (exec .unimplemented (.beginPaymentEvent (paymentEventRequest req)) choice world).1 with
    | error err => exact .ret trivial
    | ok begun =>
      simp only [Proc.attempt_ok]
      split
      · exact processEvent_unanswered req clock begun
      · split <;> exact .ret trivial
  · exact .ret trivial

def SameRows (before after : World) : Prop :=
  after.orders.orders = before.orders.orders ∧ after.inventory = before.inventory

theorem exec_event [CaseTable] (lookup : OrderLookup) {request : Call}
    (hcall : EventCall request)
    (choice : Choice) (world : World) : SameRows world (exec lookup request choice world).2 := by
  have hrefl : SameRows world world := ⟨rfl, rfl⟩
  apply call_preserves _ _ hrefl
  cases request with
  | getOrderBySn _ => exact hrefl
  | beginPaymentEvent event =>
    apply onOrders_commit hrefl
    intro _ db' hrun
    obtain ⟨events, rfl⟩ := beginBody_frame hrun
    exact ⟨rfl, rfl⟩
  | completePaymentEvent id success detail =>
    apply onOrders_commit hrefl
    intro _ db' hrun
    obtain ⟨event, -, rfl⟩ := completeBody_ok hrun
    exact ⟨rfl, rfl⟩
  | _ => exact hcall.elim

/-- A whole delivery to the order server changes no order and no stock. -/
theorem deliver_unanswered [CaseTable] (world : World) (delivery : Delivery) :
    SameRows world (deliver .unimplemented world delivery) := by
  apply (processPayCallback_unanswered delivery.req delivery.clock).runAlone _ ⟨rfl, rfl⟩
  intro request choice state hcall hsame
  obtain ⟨horders, hstock⟩ := exec_event .unimplemented hcall choice state
  exact ⟨horders.trans hsame.1, hstock.trans hsame.2⟩

def payment (eventID orderSN tradeNo : String) (amountFen : Int) : CallbackRequest :=
  ⟨"mock", eventID, "payment_succeeded", orderSN, tradeNo, amountFen⟩

end Goshop.Callback.Calls
