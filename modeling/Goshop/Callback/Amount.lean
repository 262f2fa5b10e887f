import Goshop.Callback.Calls

/-! The amount of a payment against the amount of the order that it settles. The
gateway compares the callback's amount with the amount of the order that its
event was recorded for, and would then settle the order that the callback names;
the two are the same order only when nobody sends an event id again for another
order. It looks the order up with `GetOrderBySn` in between, which the order
server does not implement, so no callback settles an order at all. -/
namespace Goshop.Callback.Amount

open Goshop.Errors Goshop.Lib Goshop.Lib.Transaction Goshop.Lib.Process Goshop.Lib.Run
open Goshop.Order.Model Goshop.Order.Data Goshop.Order.Service Goshop.Order.Payment
open Goshop.Order.Steps Goshop.Order.PaymentSteps Goshop.System Goshop.Gateway
open Goshop.Callback.Calls
open Goshop.Lib.GoText (CaseTable trimSpace)

def Costs (orderSn : String) (amount : Int) (rows : List OrderInfoDO) : Prop :=
  ∀ row ∈ rows, hasSn orderSn row → row.orderMountFen = amount

instance (orderSn : String) (amount : Int) (rows : List OrderInfoDO) :
    Decidable (Costs orderSn amount rows) := by
  unfold Costs
  infer_instance

/-- An order number has one amount, and every event was recorded with it. -/
structure Agreed (db : OrderDB) : Prop where
  orders : ∀ row ∈ db.orders, row.deleted = false →
    Costs row.orderSn row.orderMountFen db.orders
  events : ∀ event ∈ db.events, Costs event.orderSN event.orderAmountFen db.orders

/-- The callback's event is new, or was recorded for the callback's order. -/
def OwnEvent [CaseTable] (req : CallbackRequest) (db : OrderDB) : Prop :=
  ∀ event ∈ db.events, isEventOf req event → event.orderSN = trimSpace req.orderSN

instance [CaseTable] (req : CallbackRequest) (db : OrderDB) : Decidable
    (OwnEvent req db) := by
  unfold OwnEvent
  infer_instance

/-- An order that becomes paid has the amount of the callback, and the callback's
event is an event of this order. -/
def PaysOrder [CaseTable] (req : CallbackRequest) (before after : World) : Prop :=
  List.Forall₂ (fun row row' => row.status ≠ .tradeSuccess → row'.status = .tradeSuccess →
    row'.orderMountFen = req.amountFen ∧
      ∀ event ∈ after.orders.events, isEventOf req event → event.orderSN = row'.orderSn)
    before.orders.orders after.orders.orders

instance [CaseTable] (req : CallbackRequest) (before after : World) :
    Decidable (PaysOrder req before after) := by
  unfold PaysOrder
  infer_instance

section Rows

structure RowSettled (req : CallbackRequest) (row row' : OrderInfoDO) : Prop where
  deleted : row'.deleted = row.deleted
  orderSn : row'.orderSn = row.orderSn
  amount : row'.orderMountFen = row.orderMountFen
  paid : row.status ≠ .tradeSuccess → row'.status = .tradeSuccess →
    row.orderSn = trimSpace req.orderSN ∧ row.orderMountFen = req.amountFen

variable (req : CallbackRequest)

theorem RowSettled.refl (row : OrderInfoDO) : RowSettled req row row where
  deleted := rfl
  orderSn := rfl
  amount := rfl
  paid hunpaid hpaid := absurd hpaid hunpaid

theorem RowSettled.trans (first second third : OrderInfoDO) (h : RowSettled req first second)
    (h' : RowSettled req second third) : RowSettled req first third where
  deleted := h'.deleted.trans h.deleted
  orderSn := h'.orderSn.trans h.orderSn
  amount := h'.amount.trans h.amount
  paid hunpaid hpaid := by
    by_cases hsecond : second.status = .tradeSuccess
    · exact h.paid hunpaid hsecond
    · rw [← h.orderSn, ← h.amount]
      exact h'.paid hsecond hpaid

variable {req} {rows rows' : List OrderInfoDO}

theorem costs_settled {orderSn : String} {amount : Int} (h : Costs orderSn amount rows)
    (hrows : List.Forall₂ (RowSettled req) rows rows') : Costs orderSn amount rows' := by
  intro row' hrow' hsn
  obtain ⟨row, hrow, hsettled⟩ := Table.exists_of_forall₂ hrows hrow'
  rw [hsettled.amount]
  rw [hasSn, hsettled.deleted, hsettled.orderSn] at hsn
  exact h row hrow hsn

end Rows

section Events

structure SameOrder (event event' : PaymentEventDO) : Prop where
  provider : event'.provider = event.provider
  eventID : event'.eventID = event.eventID
  orderSN : event'.orderSN = event.orderSN
  amount : event'.orderAmountFen = event.orderAmountFen

theorem changeEvent_sameOrder {id : Int} {change : PaymentEventDO → PaymentEventDO}
    (hchange : ∀ event, SameOrder event (change event)) {events : List PaymentEventDO}
    {event' : PaymentEventDO} (h : event' ∈ changeEvent id change events) :
    ∃ event ∈ events, SameOrder event event' := by
  obtain ⟨event, hevent, rfl⟩ := List.mem_map.mp h
  refine ⟨event, hevent, ?_⟩
  split
  · exact hchange event
  · exact ⟨rfl, rfl, rfl, rfl⟩

theorem closedEvent_sameOrder (success : Bool) (detail : String) (now : Int)
    (event : PaymentEventDO) : SameOrder event (closedEvent success detail now event) := by
  cases success <;> exact ⟨rfl, rfl, rfl, rfl⟩

theorem reopenEvent_sameOrder (event : PaymentEventDO) : SameOrder event (reopenEvent event) :=
  ⟨rfl, rfl, rfl, rfl⟩

end Events

section Steps

variable [CaseTable]

structure Ready (req : CallbackRequest) (db : OrderDB) : Prop extends Agreed db where
  own : OwnEvent req db

variable {req : CallbackRequest} {db db' : OrderDB}

theorem Ready.settled (h : Ready req db)
    (hrows : List.Forall₂ (RowSettled req) db.orders db'.orders)
    (hevents : ∀ event' ∈ db'.events, ∃ event ∈ db.events, SameOrder event event') :
    Ready req db' where
  orders := by
    intro row' hrow' hvisible
    obtain ⟨row, hrow, hsettled⟩ := Table.exists_of_forall₂ hrows hrow'
    rw [hsettled.orderSn, hsettled.amount]
    rw [hsettled.deleted] at hvisible
    exact costs_settled (h.orders row hrow hvisible) hrows
  events := by
    intro event' hevent'
    obtain ⟨event, hevent, hsame⟩ := hevents event' hevent'
    rw [hsame.orderSN, hsame.amount]
    exact costs_settled (h.events event hevent) hrows
  own := by
    intro event' hevent' hown
    obtain ⟨event, hevent, hsame⟩ := hevents event' hevent'
    rw [isEventOf, hsame.provider, hsame.eventID] at hown
    rw [hsame.orderSN]
    exact h.own event hevent hown

structure Settles (req : CallbackRequest) (before after : World) : Prop where
  rows : List.Forall₂ (RowSettled req) before.orders.orders after.orders.orders
  ready : Ready req before.orders → Ready req after.orders

theorem Settles.refl (world : World) : Settles req world world where
  rows := List.forall₂_same.mpr fun row _ => .refl req row
  ready := id

theorem Settles.trans (first second third : World) (h : Settles req first second)
    (h' : Settles req second third) : Settles req first third where
  rows := Table.forall₂_trans (RowSettled.trans req) h.rows h'.rows
  ready := h'.ready ∘ h.ready

theorem Settles.of_events {before after : World}
    (horders : after.orders.orders = before.orders.orders)
    (hevents : ∀ event' ∈ after.orders.events, ∃ event ∈ before.orders.events,
      SameOrder event event') : Settles req before after := by
  have hrows : List.Forall₂ (RowSettled req) before.orders.orders after.orders.orders := by
    rw [horders]
    exact List.forall₂_same.mpr fun row _ => .refl req row
  exact ⟨hrows, fun hready => hready.settled hrows hevents⟩

theorem Settles.of_orders {before after : World} (h : after.orders = before.orders) :
    Settles req before after := by
  apply Settles.of_events (by rw [h])
  rw [h]
  exact fun event hevent => ⟨event, hevent, rfl, rfl, rfl, rfl⟩

/-- The state of a callback behind the check of its amount. -/
structure Checked (req : CallbackRequest) (world : World) : Prop where
  ready : Ready req world.orders
  costs : req.type = .paymentSucceeded →
    Costs (trimSpace req.orderSN) req.amountFen world.orders.orders

theorem Checked.settled {before after : World} (h : Checked req before)
    (hsettles : Settles req before after) : Checked req after where
  ready := hsettles.ready h.ready
  costs htype := costs_settled (h.costs htype) hsettles.rows

theorem exec_complete (lookup : OrderLookup) (id : Int) (success : Bool) (detail : String)
    (choice : Choice) (world : World) :
    Settles req world (exec lookup (.completePaymentEvent id success detail) choice world).2 := by
  apply call_preserves _ _ (.refl world)
  apply onOrders_commit (.refl world)
  intro _ db' hrun
  obtain ⟨event, -, rfl⟩ := completeBody_ok hrun
  exact .of_events rfl fun event' hevent' =>
    changeEvent_sameOrder (closedEvent_sameOrder success detail choice.now) hevent'

theorem exec_settles (lookup : OrderLookup) {request : Call} {choice : Choice} {world : World}
    (hcall : SettleCall req request) (hworld : Checked req world) :
    Settles req world (exec lookup request choice world).2 := by
  cases request with
  | ordersGet orderSn => exact call_preserves _ _ (.refl world) (.refl world)
  | getOrderBySn orderSn => exact call_preserves _ _ (.refl world) (.refl world)
  | confirm orderSn details =>
    exact call_preserves _ _ (.refl world) (.of_orders (onInventory_orders _ world))
  | release orderSn details =>
    exact call_preserves _ _ (.refl world) (.of_orders (onInventory_orders _ world))
  | completePaymentEvent id success detail =>
    exact exec_complete lookup id success detail choice world
  | updateTxn existing order =>
    obtain ⟨htrimmed, hid, hsn, hpays⟩ := hcall
    apply call_preserves _ _ (.refl world)
    apply onOrders_commit (.refl world)
    intro _ db' hrun
    obtain ⟨-, rfl⟩ := updateTxn_ok hrun
    have hrows : List.Forall₂ (RowSettled req) world.orders.orders
        (rewriteOrders (withPayTime order choice.now).trimmed choice.now world.orders.orders) := by
      apply rewriteOrders_forall₂ (.refl req)
      intro row hrow haddressed
      rw [addressed_withPayTime, htrimmed, addressed_eq_hasSn hid, hsn] at haddressed
      refine ⟨rfl, rfl, rfl, fun _ hpaid => ?_⟩
      rw [written_status, withPayTime_trimmed_target, htrimmed] at hpaid
      have hnumber : row.orderSn = trimSpace req.orderSN := by
        simpa [hasSn] using (Bool.and_eq_true_iff.mp haddressed).2
      exact ⟨hnumber, hworld.costs (hpays hpaid) row hrow haddressed⟩
    exact ⟨hrows, fun hready => hready.settled hrows fun event hevent =>
      ⟨event, hevent, rfl, rfl, rfl, rfl⟩⟩
  | _ => exact hcall.elim

theorem findEvent_some {existing : PaymentEventDO}
    (h : findEvent db (eventOf req).provider (eventOf req).eventID = some existing) :
    existing ∈ db.events ∧ isEventOf req existing :=
  ⟨List.mem_of_find?_eq_some h, List.find?_some h⟩

/-- Opening an event tells the callback the amount of the order it was recorded
for, which is the callback's own order. -/
theorem begin_settles {world : World} {now : Int} {response : PaymentEventResponse}
    (hready : Ready req world.orders)
    (hrun : beginBody (eventOf req) now world.orders = .ok (response, db')) :
    Settles req world { world with orders := db' } ∧
      Costs (trimSpace req.orderSN) response.orderAmountFen db'.orders := by
  rcases beginBody_ok hrun with ⟨existing, hfind, hresume⟩ | ⟨-, hrecord⟩
  · obtain ⟨hmem, hkey⟩ := findEvent_some hfind
    obtain ⟨-, -, hamount, hdb⟩ := resumeEvent_ok hresume
    have hcosts := hready.events existing hmem
    rw [hready.own existing hmem hkey, ← hamount] at hcosts
    split at hdb
    · obtain ⟨-, rfl⟩ := hdb
      exact ⟨.of_events rfl fun event' hevent' =>
        changeEvent_sameOrder reopenEvent_sameOrder hevent', hcosts⟩
    · obtain ⟨-, -, rfl⟩ := hdb
      exact ⟨.refl world, hcosts⟩
  · obtain ⟨order, horder, rfl, rfl⟩ := recordEvent_ok hrecord
    obtain ⟨hmem, hvisible, hnumber⟩ := findOrder_some horder
    have hcosts := hready.orders order hmem hvisible
    rw [hnumber] at hcosts
    refine ⟨⟨List.forall₂_same.mpr fun row _ => .refl req row, fun _ => ?_⟩, hcosts⟩
    refine ⟨⟨hready.orders, ?_⟩, ?_⟩
    · intro event hevent
      rcases List.mem_append.mp hevent with hold | hnew
      · exact hready.events event hold
      · rw [List.mem_singleton.mp hnew]
        exact hcosts
    · intro event hevent hkey
      rcases List.mem_append.mp hevent with hold | hnew
      · exact hready.own event hold hkey
      · rw [List.mem_singleton.mp hnew]
        rfl

structure Opened (req : CallbackRequest) (before : World)
    (reply : Except AppError PaymentEventResponse) (after : World) : Prop where
  settles : Settles req before after
  costs : ∀ begun, reply = .ok begun →
    Costs (trimSpace req.orderSN) begun.orderAmountFen after.orders.orders

theorem exec_begin (lookup : OrderLookup) (choice : Choice) {world : World}
    (hready : Ready req world.orders) :
    Opened req world
      (exec lookup (.beginPaymentEvent (paymentEventRequest req)) choice world).1
      (exec lookup (.beginPaymentEvent (paymentEventRequest req)) choice world).2 := by
  apply call_onOrders (Opened req world) choice.outcome
  · intro err
    exact ⟨.refl world, by simp⟩
  · intro response db' hrun
    obtain ⟨hsettles, hcosts⟩ := begin_settles hready hrun
    refine ⟨⟨hsettles, ?_⟩, hsettles, by simp⟩
    rintro _ ⟨⟩
    exact hcosts

end Steps

section Run

variable [CaseTable] (lookup : OrderLookup) (req : CallbackRequest) (clock : Int)

theorem settle_safe {α : Type} {program : Proc Call Reply α}
    (h : program.Issues (SettleCall req)) :
    Safe (exec lookup) (fun _ _ _ => True) Eq (Settles req) (fun _ => Checked req) (Checked req)
      program := by
  apply h.safe (stable_eq _)
  intro request choice world hcall hchecked _
  have hsettles : Settles req world (exec lookup request choice world).2 :=
    exec_settles lookup hcall hchecked
  exact ⟨hsettles, hchecked.settled hsettles⟩

theorem refuse_safe (id : Int) (failure : Failure) :
    Safe (exec lookup) (fun _ _ _ => True) Eq (Settles req)
      (fun _ world => Ready req world.orders) (fun world => Ready req world.orders)
      (finishEvent id (.error failure)) := by
  refine .call (fun _ world => Ready req world.orders) (stable_eq _) ?_ fun _ =>
    .ret (stable_eq _) fun _ hready => hready
  intro world choice hready _
  have hsettles : Settles req world
      (exec lookup (.completePaymentEvent id false failure.1) choice world).2 :=
    exec_complete lookup id false failure.1 choice world
  exact ⟨hsettles, hsettles.ready hready⟩

theorem processEvent_safe (begun : PaymentEventResponse) :
    Safe (exec lookup) (fun _ _ _ => True) Eq (Settles req)
      (fun _ world => Ready req world.orders)
      (fun world => Ready req world.orders ∧
        Costs (trimSpace req.orderSN) begun.orderAmountFen world.orders.orders)
      (processEvent req clock begun >>= finishEvent begun.id) := by
  cases hcheck : checkAmount req begun with
  | error failure =>
    rw [processEvent, hcheck]
    exact (refuse_safe lookup req begun.id failure).weaken (stable_eq _) fun _ h => h.1
  | ok _ =>
    have hissues := (processEvent_issues req clock begun).bind (finishEvent_issues req begun.id)
    refine ((settle_safe lookup req hissues).mono ?_).weaken (stable_eq _) ?_
    · intro _ world hchecked
      exact hchecked.ready
    · intro world hworld
      refine ⟨hworld.1, fun htype => ?_⟩
      rw [checkAmount_ok hcheck htype]
      exact hworld.2

theorem processPayCallback_safe :
    Safe (exec lookup) (fun _ _ _ => True) Eq (Settles req)
      (fun _ world => Ready req world.orders) (fun world => Ready req world.orders)
      (processPayCallback req clock) := by
  simp only [processPayCallback, Proc.send_bind]
  split
  · refine .call (fun reply world => Ready req world.orders ∧ ∀ begun, reply = .ok begun →
      Costs (trimSpace req.orderSN) begun.orderAmountFen world.orders.orders)
      (stable_eq _) ?_ ?_
    · intro world choice hready _
      have hopened := exec_begin lookup choice hready
      exact ⟨hopened.settles, hopened.settles.ready hready, hopened.costs⟩
    · intro reply
      cases reply with
      | error err => exact .ret (stable_eq _) fun _ h => h.1
      | ok begun =>
        rw [Proc.attempt_ok]
        split
        · apply (processEvent_safe lookup req clock begun).weaken (stable_eq _)
          intro world hworld
          exact ⟨hworld.1, hworld.2 begun rfl⟩
        · split <;> exact .ret (stable_eq _) fun _ h => h.1
  · exact .ret (stable_eq _) fun _ hready => hready

theorem deliver_settles (world : World) (delivery : Delivery)
    (hready : Ready delivery.req world.orders) :
    Settles delivery.req world (deliver lookup world delivery) :=
  ((processPayCallback_safe lookup delivery.req delivery.clock).alone Settles.refl Settles.trans
    hready (admittedAlone_of_forall (fun _ _ _ => trivial) _ _ _)).1

theorem Settles.paysOrder {req : CallbackRequest} {before after : World}
    (h : Settles req before after) (hready : Ready req before.orders) :
    PaysOrder req before after := by
  apply h.rows.imp
  intro row row' hrow hunpaid hpaid
  obtain ⟨hnumber, hamount⟩ := hrow.paid hunpaid hpaid
  refine ⟨hrow.amount.trans hamount, ?_⟩
  intro event hevent hkey
  rw [hrow.orderSn, hnumber]
  exact (h.ready hready).own event hevent hkey

end Run

/-- Any sequence of deliveries, each cut off anywhere and with any of its calls
failing: as long as no callback carries the event id of another order, an order
is only ever paid with its own amount, by an event of its own. -/
theorem payments_pay_their_order [CaseTable] (lookup : OrderLookup) (start : World)
    (deliveries : List Delivery) (agreed : Agreed start.orders)
    (own : Along (deliver lookup) (fun world delivery => OwnEvent delivery.req world.orders)
      start deliveries) :
    Along (deliver lookup) (fun world delivery =>
      PaysOrder delivery.req world (deliver lookup world delivery)) start deliveries := by
  refine @Along.strengthen _ _ _ _ start (fun world => Agreed world.orders) _ _ ?_ ?_ agreed own
  · intro world delivery hagreed hown
    exact ((deliver_settles lookup world delivery ⟨hagreed, hown⟩).ready ⟨hagreed, hown⟩).toAgreed
  · intro world delivery hagreed hown
    exact (deliver_settles lookup world delivery ⟨hagreed, hown⟩).paysOrder ⟨hagreed, hown⟩

/-- Any sequence of deliveries to the order server as it is, each cut off anywhere
and with any of its calls failing: no delivery pays an order with another amount
or by an event of another order, for none changes an order. -/
theorem delivery_pays_its_order [CaseTable] (start : World) (deliveries : List Delivery) :
    Along (deliver .unimplemented) (fun world delivery =>
      PaysOrder delivery.req world (deliver .unimplemented world delivery) ∧
        (deliver .unimplemented world delivery).orders.orders = world.orders.orders)
      start deliveries := by
  apply along_of_forall
  intro world delivery
  have horders := (deliver_unanswered world delivery).1
  refine ⟨?_, horders⟩
  unfold PaysOrder
  rw [horders]
  exact List.forall₂_same.mpr fun row _ hunpaid hpaid => absurd hpaid hunpaid

local instance letters : CaseTable := GoText.asciiTable

-- With an order server that answers, an event that failed for the order of 100 fen
-- and is sent again for the one of 300 fen pays the latter with 100 fen.
example :
    let orders := [unpaidOrder "A", { unpaidOrder "B" with id := 2, orderMountFen := 300 }]
    let start : World := ⟨⟨[⟨1, 7, 1, 5, 1, 4, 0⟩], [⟨"A", 1, [⟨7, 2⟩]⟩, ⟨"B", 1, [⟨7, 2⟩]⟩]⟩,
      ⟨orders, [], [], [], [], []⟩⟩
    let failed := payment "E1" "A" "T1" 1
    let reused := payment "E1" "B" "T1" 100
    let before := deliver .stored start { req := failed, choices := List.replicate 6 {} }
    let after := deliver .stored before { req := reused, choices := List.replicate 6 {} }
    after.orders.orders.map (·.status) = [.waitBuyerPay, .tradeSuccess] ∧
      ¬PaysOrder reused before after := by
  decide +kernel

end Goshop.Callback.Amount
