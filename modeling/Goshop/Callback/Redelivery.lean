import Goshop.Callback.Calls
import Goshop.Inventory.SellStatus

/-! Redelivery of a payment. A callback opens its event, settles the order and
closes the event again. When it dies in between, the event stays `processing`
and every later delivery is turned away; when the answer to the update is lost,
the event fails on an order that is paid already. In every other case one clean
delivery would finish the work, if the order server had the `GetOrderBySn` that
the callback calls. As it does not, every delivery leaves the order unpaid. -/
namespace Goshop.Callback.Redelivery

open Goshop.Errors Goshop.Lib Goshop.Lib.Transaction Goshop.Lib.Process Goshop.Lib.Run
open Goshop.Inventory.Model (GoodsDetail InventoryDB confirm confirmBody validateStockOperation)
open Goshop.Inventory.Steps Goshop.Inventory.SellStatus
open Goshop.Order.Model Goshop.Order.Data Goshop.Order.Service Goshop.Order.Payment
open Goshop.Order.Steps Goshop.Order.PaymentSteps Goshop.System Goshop.Gateway
open Goshop.Callback.Calls
open Goshop.Lib.GoText (CaseTable trimSpace)

def orderPaid (req : CallbackRequest) (db : OrderDB) : Bool :=
  (findOrder db (trimSpace req.orderSN)).any fun row => row.status = .tradeSuccess

def eventStatus [CaseTable] (req : CallbackRequest) (db : OrderDB) : Option EventStatus :=
  (findEvent db (eventOf req).provider (eventOf req).eventID).map (·.status)

def Converged [CaseTable] (req : CallbackRequest) (world : World) : Prop :=
  orderPaid req world.orders = true ∧ eventStatus req world.orders = some .completed

/-- A state that no delivery of the event can leave for the better. -/
def Stuck [CaseTable] (req : CallbackRequest) (world : World) : Prop :=
  eventStatus req world.orders = some .processing ∨
    eventStatus req world.orders = some .failed ∧ orderPaid req world.orders = true

instance [CaseTable] (req : CallbackRequest) (world : World) : Decidable
    (Converged req world) := by
  unfold Converged
  infer_instance

instance [CaseTable] (req : CallbackRequest) (world : World) : Decidable
    (Stuck req world) := by
  unfold Stuck
  infer_instance

/-- A successful payment, with the right amount, of an unpaid order whose stock
can be confirmed, not delivered before. -/
structure Payable [CaseTable] (req : CallbackRequest) (order : OrderInfoDO)
    (items : List GoodsDetail) (start : World) : Prop where
  valid : req.valid = true
  type : req.type = .paymentSucceeded
  event : validEvent (eventOf req) = true
  eventColumns : fitsEvent (eventOf req) = true
  fresh : ∀ event ∈ start.orders.events, isEventOf req event = false
  found : findOrder start.orders (trimSpace req.orderSN) = some order
  unpaid : paymentEventAllowed .paymentSucceeded order.status.trim = true
  amount : order.orderMountFen = req.amountFen
  goods : sellInfoFromOrder order.orderGoods = .ok items
  stock : (confirm req.orderSN items start.inventory).1 = .ok ()
  tradeNo : trimSpace req.tradeNo ≠ ""
  orderColumns : (Sql.fitsVarchar 20 req.provider && Sql.fitsVarchar 100 req.tradeNo) = true
  logColumns : fitsStatusLog (buildStatusLog order { status := "TRADE_SUCCESS" }) = true

def redeliver [CaseTable] (lookup : OrderLookup) (req : CallbackRequest) (world : World)
    (attempt : Int × List Choice) : World :=
  deliver lookup world ⟨req, attempt.1, attempt.2⟩

section Reached

variable [CaseTable]

structure Recorded (req : CallbackRequest) (start : World) (event : PaymentEventDO) : Prop where
  id : event.id = Sql.nextId (start.orders.events.map (·.id))
  key : isEventOf req event = true
  orderSN : event.orderSN = trimSpace req.orderSN
  amount : event.orderAmountFen = req.amountFen

/-- The event is recorded; it is completed only on a paid order. -/
structure Seen (req : CallbackRequest) (start world : World) (event : PaymentEventDO) : Prop where
  events : world.orders.events = start.orders.events ++ [event]
  recorded : Recorded req start event
  orders : world.orders.orders = start.orders.orders ∨ orderPaid req world.orders = true
  completed : event.status = .completed → orderPaid req world.orders = true

/-- Every state between two calls of the attempts. -/
structure Reached (req : CallbackRequest) (start world : World) : Prop where
  stock : ∃ db, confirmBody req.orderSN world.inventory = .ok ((), db)
  tables : (world.orders.orders = start.orders.orders ∧
    world.orders.events = start.orders.events) ∨ ∃ event, Seen req start world event

variable {lookup : OrderLookup} {req : CallbackRequest} {order : OrderInfoDO}
  {items : List GoodsDetail} {start world : World} {db' : OrderDB} {now : Int}

theorem Payable.orderSn_ne (payable : Payable req order items start) :
    trimSpace req.orderSN ≠ "" := by
  have hevent := payable.event
  simp only [validEvent, decide_eq_true_eq] at hevent
  exact hevent.2.2.1

theorem Payable.status_ne (payable : Payable req order items start) :
    order.status ≠ .tradeSuccess := by
  intro hstatus
  have hunpaid := payable.unpaid
  rw [hstatus, OrderStatus.trim_valid rfl] at hunpaid
  cases hunpaid

theorem Payable.reached (payable : Payable req order items start) :
    Reached req start start where
  stock := by
    rcases stockOperation_cases (confirmBody req.orderSN) req.orderSN items start.inventory with
      ⟨err, herr⟩ | ⟨db, -, hrun, -⟩
    · have hstock := payable.stock
      rw [confirm, herr] at hstock
      cases hstock
    · exact ⟨db, hrun⟩
  tables := .inl ⟨rfl, rfl⟩

omit [CaseTable] in
theorem nextId_fresh {events : List PaymentEventDO} :
    ∀ event ∈ events, event.id ≠ Sql.nextId (events.map (·.id)) := by
  intro event hevent
  exact (Sql.lt_nextId (List.mem_map_of_mem hevent)).ne

theorem Seen.change {event : PaymentEventDO} (seen : Seen req start world event)
    (change : PaymentEventDO → PaymentEventDO) :
    changeEvent event.id change world.orders.events = start.orders.events ++ [change event] := by
  rw [seen.events]
  apply Table.modify_last rfl
  rw [seen.recorded.id]
  exact nextId_fresh

theorem Payable.find_none (payable : Payable req order items start)
    (hevents : world.orders.events = start.orders.events) :
    findEvent world.orders (eventOf req).provider (eventOf req).eventID = none := by
  unfold findEvent
  rw [hevents, List.find?_eq_none]
  intro event hevent hkey
  exact Bool.false_ne_true ((payable.fresh event hevent).symm.trans hkey)

theorem Payable.find_seen (payable : Payable req order items start)
    {event : PaymentEventDO} (seen : Seen req start world event) :
    findEvent world.orders (eventOf req).provider (eventOf req).eventID = some event := by
  have hnone : findEvent start.orders (eventOf req).provider (eventOf req).eventID = none :=
    payable.find_none rfl
  unfold findEvent at hnone ⊢
  rw [seen.events, List.find?_append, hnone, Option.none_or]
  exact List.find?_cons_of_pos seen.recorded.key

theorem Payable.order_found (payable : Payable req order items start)
    (h : world.orders.orders = start.orders.orders ∨ orderPaid req world.orders = true) :
    ∃ row, findOrder world.orders (trimSpace req.orderSN) = some row ∧
      (orderPaid req world.orders = true → row.status = .tradeSuccess) := by
  rcases h with horders | hpaid
  · have hfound := payable.found
    unfold orderPaid
    simp only [findOrder, horders] at hfound ⊢
    exact ⟨order, hfound, by simp [hfound]⟩
  · unfold orderPaid at hpaid
    obtain ⟨row, hrow, hstatus⟩ := (Option.any_eq_true _ _).mp hpaid
    exact ⟨row, hrow, fun _ => by simpa using hstatus⟩

theorem begin_reached (payable : Payable req order items start)
    (reached : Reached req start world) {response : PaymentEventResponse}
    (hrun : beginBody (eventOf req) now world.orders = .ok (response, db')) :
    Reached req start { world with orders := db' } ∧ (response.accepted = true →
      response.id = Sql.nextId (start.orders.events.map (·.id)) ∧
        response.orderAmountFen = req.amountFen ∧
        ∃ event, Seen req start { world with orders := db' } event ∧
          event.status = .processing) := by
  rcases reached.tables with ⟨horders, hevents⟩ | ⟨event, seen⟩
  · rcases beginBody_ok hrun with ⟨existing, hfind, -⟩ | ⟨-, hrecord⟩
    · rw [payable.find_none hevents] at hfind
      cases hfind
    · obtain ⟨found, hfound, rfl, rfl⟩ := recordEvent_ok hrecord
      have hsame : found = order := by
        have hstart := payable.found
        unfold findOrder at hfound hstart
        rw [horders] at hfound
        exact Option.some.inj (hfound.symm.trans hstart)
      have hseen : Seen req start { world with orders := { world.orders with
          events := world.orders.events ++ [newEvent
            (Sql.nextId (world.orders.events.map (·.id))) (eventOf req) found now] } }
          (newEvent (Sql.nextId (world.orders.events.map (·.id))) (eventOf req) found now) := by
        refine ⟨by rw [hevents], ⟨by rw [hevents]; rfl, by simp [isEventOf, newEvent], rfl, ?_⟩,
          .inl horders, by simp [newEvent]⟩
        rw [hsame]
        exact payable.amount
      exact ⟨⟨reached.stock, .inr ⟨_, hseen⟩⟩, fun _ =>
        ⟨by rw [hevents], hsame ▸ payable.amount, _, hseen, rfl⟩⟩
  · rcases beginBody_ok hrun with ⟨existing, hfind, hresume⟩ | ⟨hfind, -⟩
    · rw [payable.find_seen seen] at hfind
      cases hfind
      obtain ⟨-, hid, hamount, hdb⟩ := resumeEvent_ok hresume
      split at hdb
      · obtain ⟨-, rfl⟩ := hdb
        have hseen : Seen req start { world with orders := { world.orders with
            events := changeEvent event.id reopenEvent world.orders.events } }
            (reopenEvent event) := by
          refine ⟨seen.change reopenEvent, ?_, seen.orders, by simp [reopenEvent]⟩
          exact ⟨seen.recorded.id, seen.recorded.key, seen.recorded.orderSN,
            seen.recorded.amount⟩
        exact ⟨⟨reached.stock, .inr ⟨_, hseen⟩⟩, fun _ =>
          ⟨hid.trans seen.recorded.id, hamount.trans seen.recorded.amount, _, hseen, rfl⟩⟩
      · obtain ⟨hrefused, -, rfl⟩ := hdb
        exact ⟨reached, by simp [hrefused]⟩
    · rw [payable.find_seen seen] at hfind
      cases hfind

/-- The end of the event; it is only reported as a success once the order is
paid. -/
theorem complete_seen {event : PaymentEventDO} (seen : Seen req start world event)
    {success : Bool} {detail : String} (hpaid : success = true → orderPaid req world.orders = true)
    (hrun : completeBody (Sql.nextId (start.orders.events.map (·.id))) success detail now
      world.orders = .ok ((), db')) :
    Seen req start { world with orders := db' } (closedEvent success detail now event) := by
  obtain ⟨found, hfind, rfl⟩ := completeBody_ok hrun
  have hfound : found = event := by
    have hid := List.find?_some hfind
    have hmem := List.mem_of_find?_eq_some hfind
    rw [seen.events] at hmem
    simp only [decide_eq_true_eq] at hid
    rcases List.mem_append.mp hmem with hold | hnew
    · exact absurd hid.1 (nextId_fresh found hold)
    · exact List.mem_singleton.mp hnew
  subst hfound
  refine ⟨seen.change _, ?_, seen.orders, ?_⟩
  · cases success <;>
      exact ⟨seen.recorded.id, seen.recorded.key, seen.recorded.orderSN, seen.recorded.amount⟩
  · cases success with
    | true => exact fun _ => hpaid rfl
    | false => simp [closedEvent, failedEvent]

end Reached

section Attempts

variable [CaseTable]

structure Open (req : CallbackRequest) (start world : World) : Prop where
  stock : ∃ db, confirmBody req.orderSN world.inventory = .ok ((), db)
  seen : ∃ event, Seen req start world event

variable {lookup : OrderLookup} {req : CallbackRequest} {order : OrderInfoDO}
  {items : List GoodsDetail} {start world : World}

theorem Open.reached (h : Open req start world) : Reached req start world :=
  ⟨h.stock, .inr h.seen⟩

theorem Open.confirm (hsn : trimSpace req.orderSN ≠ "") (h : Open req start world)
    (details : List GoodsDetail) :
    Open req start { world with inventory := (confirm req.orderSN details world.inventory).2 } := by
  refine ⟨?_, ?_⟩
  · rcases stockOperation_cases (confirmBody req.orderSN) req.orderSN details world.inventory with
      ⟨err, herr⟩ | ⟨db, -, hrun, hok⟩
    · simp only [Inventory.Model.confirm, herr]
      exact h.stock
    · simp only [Inventory.Model.confirm, hok]
      exact ⟨db, confirmBody_again hsn hrun⟩
  · obtain ⟨event, seen⟩ := h.seen
    exact ⟨event, seen.events, seen.recorded, seen.orders, seen.completed⟩

omit [CaseTable] in
theorem find_rewritten (req : CallbackRequest) (clock now : Int) (db : OrderDB) :
    (rewriteOrders (withPayTime (callbackUpdate req clock .tradeSuccess).trimmed now).trimmed now
      db.orders).find? (hasSn (trimSpace req.orderSN)) =
      (db.orders.find? (hasSn (trimSpace req.orderSN))).map
        (written (withPayTime (callbackUpdate req clock .tradeSuccess).trimmed now).trimmed now) := by
  have hid : (withPayTime (callbackUpdate req clock .tradeSuccess).trimmed now).trimmed.id = 0 := by
    rw [withPayTime_eq]
    rfl
  have hsn : (withPayTime (callbackUpdate req clock .tradeSuccess).trimmed now).trimmed.orderSn =
      trimSpace req.orderSN := by
    rw [withPayTime_eq]
    exact GoText.trimSpace_trimSpace req.orderSN
  rw [← hsn]
  exact find_rewriteOrders hid db.orders

omit [CaseTable] in
theorem orderPaid_updated {existing : OrderInfoDO} {db db' : OrderDB} {clock now : Int}
    (hrun : updateTxn existing (callbackUpdate req clock .tradeSuccess).trimmed now db =
      .ok ((), db')) : orderPaid req db' = true := by
  obtain ⟨⟨row, hrow, haddressed⟩, rfl⟩ := updateTxn_ok hrun
  rw [OrderDTO.trimmed_trimmed, addressed_eq_hasSn rfl] at haddressed
  obtain ⟨found, hfound⟩ : ∃ found,
      db.orders.find? (hasSn (trimSpace req.orderSN)) = some found :=
    Option.isSome_iff_exists.mp (List.find?_isSome.mpr ⟨row, hrow, haddressed⟩)
  simp only [orderPaid, findOrder, find_rewritten req clock now db, hfound, Option.map_some,
    Option.any_some, decide_eq_true_eq]
  rw [written_status, withPayTime_trimmed_target, OrderDTO.trimmed_trimmed]
  exact callbackUpdate_target req clock rfl

theorem Seen.update {event : PaymentEventDO} (seen : Seen req start world event)
    {existing : OrderInfoDO} {db' : OrderDB} {clock now : Int}
    (hrun : updateTxn existing (callbackUpdate req clock .tradeSuccess).trimmed now world.orders =
      .ok ((), db')) (stock : InventoryDB) : Seen req start ⟨stock, db'⟩ event := by
  have hpaid := orderPaid_updated hrun
  obtain ⟨-, rfl⟩ := updateTxn_ok hrun
  exact ⟨seen.events, seen.recorded, .inr hpaid, fun _ => hpaid⟩

theorem Open.update (h : Open req start world) {existing : OrderInfoDO} {db' : OrderDB}
    {clock now : Int}
    (hrun : updateTxn existing (callbackUpdate req clock .tradeSuccess).trimmed now world.orders =
      .ok ((), db')) : Open req start { world with orders := db' } := by
  obtain ⟨event, seen⟩ := h.seen
  exact ⟨h.stock, event, seen.update hrun _⟩

structure Worked (req : CallbackRequest) (start : World) {ε : Type} (outcome : Except ε Unit)
    (world : World) : Prop where
  open' : Open req start world
  paid : outcome = .ok () → orderPaid req world.orders = true

theorem Open.refused {ε : Type} (h : Open req start world) (err : ε) :
    Worked req start (.error err) world :=
  ⟨h, by simp⟩

def Keeps (req : CallbackRequest) (start before after : World) : Prop :=
  Reached req start before → Reached req start after

theorem exec_confirm (lookup : OrderLookup) (hsn : trimSpace req.orderSN ≠ "")
    (details : List GoodsDetail) (choice : Choice) (h : Open req start world) :
    Open req start (exec lookup (.confirm req.orderSN details) choice world).2 :=
  call_preserves _ _ h (h.confirm hsn details)

theorem exec_update (lookup : OrderLookup) (clock : Int) (existing : OrderInfoDO) (choice : Choice)
    (h : Open req start world) :
    Worked req start
      (exec lookup (.updateTxn existing (callbackUpdate req clock .tradeSuccess).trimmed)
        choice world).1
      (exec lookup (.updateTxn existing (callbackUpdate req clock .tradeSuccess).trimmed)
        choice world).2 := by
  apply call_onOrders (fun outcome world => Worked req start outcome world) choice.outcome
  · intro err
    exact h.refused err
  · intro _ db' hrun
    exact ⟨⟨h.update hrun, fun _ => orderPaid_updated hrun⟩, (h.update hrun).refused _⟩

theorem settle_safe (payable : Payable req order items start) (clock : Int)
    (details : List GoodsDetail) :
    Safe (exec lookup) (fun _ _ _ => True) Eq (Keeps req start) (Worked req start)
      (Open req start) (do
        Proc.attempt (← settleStock req details) fun target => do
          let updated ← orderUpdate (callbackUpdate req clock target)
          pure (failWith "update order status failed" updated)) := by
  simp only [settleStock, payable.type, Proc.send_bind, Proc.call_bind]
  refine .call (fun _ => Open req start) (stable_eq _) ?_ fun confirmed => ?_
  · intro world choice hopen _
    have hafter : Open req start (exec lookup (.confirm req.orderSN details) choice world).2 :=
      exec_confirm lookup payable.orderSn_ne details choice hopen
    exact ⟨fun _ => hafter.reached, hafter⟩
  · apply Safe.attempt (stable_eq _) fun err world hopen => hopen.refused err
    intro target htarget
    have hsuccess : target = .tradeSuccess := by
      cases confirmed with
      | ok _ => exact (Except.ok.inj htarget).symm
      | error err => cases htarget
    subst hsuccess
    have hupdate : Safe (exec lookup) (fun _ _ _ => True) Eq (Keeps req start) (Worked req start)
        (Open req start) (orderUpdate (callbackUpdate req clock .tradeSuccess)) := by
      apply orderUpdate_safe _ (fun _ => id) (stable_eq _) (fun _ => stable_eq _)
      · intro err world hopen
        exact hopen.refused err
      · intro existing choice world hopen _ _ _
        have hworked := exec_update lookup clock existing choice hopen
        exact ⟨fun _ => hworked.open'.reached, hworked⟩
    apply hupdate.bind
    intro updated
    refine .ret (stable_eq _) fun world hworked => ⟨hworked.open', fun hok => hworked.paid ?_⟩
    cases updated with
    | ok _ => rfl
    | error err => cases hok

theorem processEvent_safe (payable : Payable req order items start) (clock : Int)
    (begun : PaymentEventResponse) :
    Safe (exec lookup) (fun _ _ _ => True) Eq (Keeps req start) (Worked req start)
      (Open req start) (processEvent req clock begun) := by
  have hrefused : ∀ (err : Failure) world, Open req start world →
      Worked req start (.error err : Except Failure Unit) world :=
    fun err world hopen => hopen.refused err
  apply Safe.attempt (stable_eq _) hrefused
  intro _ _
  refine .call (fun _ => Open req start) (stable_eq _) ?_ fun loaded => ?_
  · intro world choice hopen _
    have hafter : Open req start (exec lookup (.getOrderBySn req.orderSN) choice world).2 :=
      call_preserves _ _ hopen hopen
    exact ⟨fun _ => hafter.reached, hafter⟩
  · apply Safe.attempt (stable_eq _) hrefused
    intro loaded _
    apply Safe.attempt (stable_eq _) hrefused
    intro details _
    exact settle_safe payable clock details

theorem exec_complete (lookup : OrderLookup) (success : Bool) (detail : String) (choice : Choice)
    (h : Open req start world) (hpaid : success = true → orderPaid req world.orders = true) :
    Reached req start (exec lookup (.completePaymentEvent
      (Sql.nextId (start.orders.events.map (·.id))) success detail) choice world).2 := by
  apply call_preserves _ _ h.reached
  apply onOrders_commit h.reached
  intro _ db' hrun
  obtain ⟨event, seen⟩ := h.seen
  exact ⟨h.stock, .inr ⟨_, complete_seen seen hpaid hrun⟩⟩

theorem finishEvent_safe (outcome : Except Failure Unit) :
    Safe (exec lookup) (fun _ _ _ => True) Eq (Keeps req start) (fun _ => Reached req start)
      (Worked req start outcome)
      (finishEvent (Sql.nextId (start.orders.events.map (·.id))) outcome) := by
  cases outcome with
  | ok _ =>
    refine .call (fun _ => Reached req start) (stable_eq _) ?_ fun _ =>
      .ret (stable_eq _) fun _ h => h
    intro world choice hworked _
    have hafter : Reached req start (exec lookup (.completePaymentEvent
        (Sql.nextId (start.orders.events.map (·.id))) true "") choice world).2 :=
      exec_complete lookup true "" choice hworked.open' fun _ => hworked.paid rfl
    exact ⟨fun _ => hafter, hafter⟩
  | error failure =>
    refine .call (fun _ => Reached req start) (stable_eq _) ?_ fun _ =>
      .ret (stable_eq _) fun _ h => h
    intro world choice hworked _
    have hafter : Reached req start (exec lookup (.completePaymentEvent
        (Sql.nextId (start.orders.events.map (·.id))) false failure.1) choice world).2 :=
      exec_complete lookup false failure.1 choice hworked.open' (by simp)
    exact ⟨fun _ => hafter, hafter⟩

structure Begun (req : CallbackRequest) (start : World)
    (reply : Except AppError PaymentEventResponse) (world : World) : Prop where
  reached : Reached req start world
  accepted : ∀ begun, reply = .ok begun → begun.accepted = true →
    begun.id = Sql.nextId (start.orders.events.map (·.id)) ∧ Open req start world

theorem exec_begin (lookup : OrderLookup) (payable : Payable req order items start)
    (choice : Choice)
    (reached : Reached req start world) :
    Begun req start
      (exec lookup (.beginPaymentEvent (paymentEventRequest req)) choice world).1
      (exec lookup (.beginPaymentEvent (paymentEventRequest req)) choice world).2 := by
  apply call_onOrders (Begun req start) choice.outcome
  · intro err
    exact ⟨reached, by simp⟩
  · intro response db' hrun
    obtain ⟨hreached, haccepted⟩ := begin_reached payable reached hrun
    refine ⟨⟨hreached, ?_⟩, hreached, by simp⟩
    rintro _ ⟨⟩ htrue
    obtain ⟨hid, -, event, hseen, -⟩ := haccepted htrue
    exact ⟨hid, reached.stock, event, hseen⟩

theorem processPayCallback_safe (payable : Payable req order items start) (clock : Int) :
    Safe (exec lookup) (fun _ _ _ => True) Eq (Keeps req start) (fun _ => Reached req start)
      (Reached req start) (processPayCallback req clock) := by
  simp only [processPayCallback, Proc.send_bind]
  split
  · refine .call (Begun req start) (stable_eq _) ?_ fun reply => ?_
    · intro world choice hreached _
      have hbegun := exec_begin lookup payable choice hreached
      exact ⟨fun _ => hbegun.reached, hbegun⟩
    · cases reply with
      | error err => exact .ret (stable_eq _) fun _ h => h.reached
      | ok begun =>
        rw [Proc.attempt_ok]
        split
        · rename_i haccepted
          apply Safe.given fun world (h : Begun req start (.ok begun) world) =>
            (h.accepted begun rfl haccepted).1
          intro hid
          rw [hid]
          apply ((processEvent_safe payable clock begun).weaken (stable_eq _) ?_).bind
          · exact finishEvent_safe
          · intro world h
            exact (h.accepted begun rfl haccepted).2
        · split <;> exact .ret (stable_eq _) fun _ h => h.reached
  · exact .ret (stable_eq _) fun _ h => h

theorem redeliver_reached (lookup : OrderLookup) (payable : Payable req order items start)
    (attempts : List (Int × List Choice)) :
    Reached req start (run (redeliver lookup req) start attempts) := by
  apply run_invariant attempts _ payable.reached
  intro world attempt hreached
  exact ((processPayCallback_safe payable attempt.1).alone (fun _ => id)
    (fun _ _ _ hfirst hsecond => hsecond ∘ hfirst) hreached
    (admittedAlone_of_forall (fun _ _ _ => trivial) _ _ _)).1 hreached

end Attempts

section Clean

variable [CaseTable] {req : CallbackRequest} {order : OrderInfoDO}
  {items : List GoodsDetail} {start world : World} {clock : Int}

theorem exec_begin_clean {choice : Choice} (hclean : choice.outcome = .ok)
    {response : PaymentEventResponse} {db' : OrderDB}
    (hbegin : beginBody (eventOf req) choice.now world.orders = .ok (response, db')) :
    exec .stored (.beginPaymentEvent (paymentEventRequest req)) choice world =
      (.ok response, { world with orders := db' }) := by
  rw [exec_clean _ _ hclean]
  simp only [serve, onOrders, beginPaymentEvent]
  rw [show normalizeEvent (paymentEventRequest req) = eventOf req from rfl,
    Txn.commit_of_ok hbegin]

theorem deliver_accepted (payable : Payable req order items start) {choice : Choice}
    {rest : List Choice} (hclean : choice.outcome = .ok) {response : PaymentEventResponse}
    {db' : OrderDB} (haccepted : response.accepted = true)
    (hbegin : beginBody (eventOf req) choice.now world.orders = .ok (response, db')) :
    deliver .stored world ⟨req, clock, choice :: rest⟩ =
      (runAlone (exec .stored) (processEvent req clock response >>= finishEvent response.id) rest
        { world with orders := db' }).2 := by
  simp only [deliver, processPayCallback, payable.valid, if_true, Proc.send_bind, runAlone_call,
    exec_begin_clean hclean hbegin, Proc.attempt_ok, haccepted]

theorem deliver_refused (payable : Payable req order items start) {choice : Choice}
    {rest : List Choice} (hclean : choice.outcome = .ok) {response : PaymentEventResponse}
    (hrefused : response.accepted = false)
    (hbegin : beginBody (eventOf req) choice.now world.orders = .ok (response, world.orders)) :
    deliver .stored world ⟨req, clock, choice :: rest⟩ = world := by
  simp only [deliver, processPayCallback, payable.valid, if_true, Proc.send_bind, runAlone_call,
    exec_begin_clean hclean hbegin, Proc.attempt_ok, hrefused, Bool.false_eq_true, if_false]
  split <;> rw [Proc.pure_eq, runAlone_ret]

theorem begin_opens (payable : Payable req order items start)
    (reached : Reached req start world)
    (hstatus : eventStatus req world.orders = none ∨
      eventStatus req world.orders = some .failed) (now : Int) :
    ∃ response db', beginBody (eventOf req) now world.orders = .ok (response, db') ∧
      response.accepted = true ∧ db'.orders = world.orders.orders := by
  rcases reached.tables with ⟨horders, hevents⟩ | ⟨event, seen⟩
  · obtain ⟨row, hrow, -⟩ := payable.order_found (.inl horders)
    have hrun : beginBody (eventOf req) now world.orders = _ :=
      (beginBody_record payable.event (payable.find_none hevents)).trans
        (recordEvent_run hrow payable.eventColumns)
    exact ⟨_, _, hrun, rfl, rfl⟩
  · obtain ⟨row, hrow, -⟩ := payable.order_found seen.orders
    have hfailed : event.status = .failed := by
      simpa [eventStatus, payable.find_seen seen] using hstatus
    rw [← seen.recorded.orderSN] at hrow
    have hrun : beginBody (eventOf req) now world.orders = _ :=
      (beginBody_resume payable.event (payable.find_seen seen)).trans
        (resumeEvent_failed hrow hfailed)
    exact ⟨_, _, hrun, rfl, rfl⟩

theorem checkAmount_clean (payable : Payable req order items start)
    {begun : PaymentEventResponse} (hamount : begun.orderAmountFen = req.amountFen) :
    checkAmount req begun = .ok () := by
  simp [checkAmount, CallbackRequest.isRefund, payable.type, hamount]

theorem loadOrder_clean (payable : Payable req order items start)
    {db : OrderDB} {row : OrderInfoDO}
    (hrow : findOrder db (trimSpace req.orderSN) = some row) :
    OrderLookup.stored.answer db req.orderSN = .ok row := by
  simp only [OrderLookup.stored, ordersGet, if_neg payable.orderSn_ne, hrow]

theorem checkOrder_clean (payable : Payable req order items start) :
    checkOrder req order = .ok items := by
  simp [checkOrder, payable.type, payable.unpaid, payable.goods, failWith, Except.mapError]

theorem confirm_clean (payable : Payable req order items start)
    (hstock : ∃ db, confirmBody req.orderSN world.inventory = .ok ((), db)) :
    ∃ db, confirm req.orderSN items world.inventory = (.ok (), db) := by
  have hvalid : validateStockOperation req.orderSN items = .ok () := by
    rcases stockOperation_cases (confirmBody req.orderSN) req.orderSN items start.inventory with
      ⟨err, herr⟩ | ⟨db, hvalid, -, -⟩
    · have hok := payable.stock
      rw [confirm, herr] at hok
      cases hok
    · exact hvalid
  obtain ⟨db, hrun⟩ := hstock
  refine ⟨db, ?_⟩
  simp only [confirm, Inventory.Model.stockOperation, hvalid, Txn.commit_of_ok hrun]

omit [CaseTable] in
theorem paidUpdate_target (req : CallbackRequest) (clock : Int) :
    (callbackUpdate req clock .tradeSuccess).trimmed.target = .tradeSuccess :=
  callbackUpdate_target req clock rfl

theorem paidUpdate_orderSn (payable : Payable req order items start) (clock : Int) :
    (callbackUpdate req clock .tradeSuccess).trimmed.orderSn ≠ "" :=
  payable.orderSn_ne

theorem prepareUpdate_clean (payable : Payable req order items start) (clock : Int) :
    prepareUpdate (callbackUpdate req clock .tradeSuccess) =
      .ok (callbackUpdate req clock .tradeSuccess).trimmed := by
  have hstatus : (callbackUpdate req clock .tradeSuccess).trimmed.status ≠ "" := by
    change trimSpace OrderStatus.tradeSuccess.text ≠ ""
    decide
  apply prepareUpdate_run (paidUpdate_orderSn payable clock) hstatus
  rw [paidUpdate_target]
  rfl

theorem checkUpdate_clean (payable : Payable req order items start) (clock : Int) :
    checkUpdate order (callbackUpdate req clock .tradeSuccess).trimmed = .ok () := by
  have hunpaid := payable.unpaid
  have htrade : trimSpace (callbackUpdate req clock .tradeSuccess).trimmed.tradeNo ≠ "" :=
    payable.tradeNo
  have hallowed : canTransitionOrderStatus order.status .tradeSuccess = true := by
    simp only [paymentEventAllowed, decide_eq_true_eq] at hunpaid
    rw [canTransitionOrderStatus]
    rcases hunpaid with hstatus | hstatus <;> rw [hstatus] <;> decide
  simp [checkUpdate, paidUpdate_target, hallowed, htrade]

theorem updateTxn_clean (payable : Payable req order items start)
    (horders : world.orders.orders = start.orders.orders) (clock now : Int) :
    ∃ db', updateTxn order (callbackUpdate req clock .tradeSuccess).trimmed now world.orders =
      .ok ((), db') := by
  obtain ⟨hmem, -, hsn⟩ := findOrder_some payable.found
  have hsame : buildStatusLog order (callbackUpdate req clock .tradeSuccess).trimmed =
      buildStatusLog order { status := "TRADE_SUCCESS" } := by
    simp only [buildStatusLog, paidUpdate_target]
    rfl
  have hlog : fitsStatusLog
      (buildStatusLog order (callbackUpdate req clock .tradeSuccess).trimmed) = true := by
    rw [hsame]
    exact payable.logColumns
  have hchanged : ∃ row ∈ world.orders.orders,
      addressed (callbackUpdate req clock .tradeSuccess).trimmed row ∧
        row.status ≠ (callbackUpdate req clock .tradeSuccess).trimmed.target := by
    rw [horders, paidUpdate_target, addressed_eq_hasSn rfl]
    exact ⟨order, hmem, List.find?_some payable.found, payable.status_ne⟩
  obtain ⟨logs, hrun⟩ := updateTxn_run (paidUpdate_orderSn payable clock)
    (OrderDTO.trimmed_trimmed _) (by rw [paidUpdate_target]; rfl)
    (by rw [paidUpdate_target]; simp) payable.orderColumns hchanged
    (by rw [hsn, GoText.trimSpace_trimSpace]; exact payable.orderSn_ne) hlog
  exact ⟨_, hrun⟩

theorem process_clean (payable : Payable req order items start) (clock : Int)
    (world : World) (hstock : ∃ db, confirmBody req.orderSN world.inventory = .ok ((), db))
    (horders : world.orders.orders = start.orders.orders) {begun : PaymentEventResponse}
    (hamount : begun.orderAmountFen = req.amountFen)
    {loading confirming reading writing : Choice} (rest : List Choice)
    (hloading : loading.outcome = .ok) (hconfirming : confirming.outcome = .ok)
    (hreading : reading.outcome = .ok) (hwriting : writing.outcome = .ok)
    (next : Except Failure Unit → Proc Call Reply (Except AppError Bool)) :
    ∃ db orders', updateTxn order (callbackUpdate req clock .tradeSuccess).trimmed writing.now
        world.orders = .ok ((), orders') ∧
      runAlone (exec .stored) (processEvent req clock begun >>= next)
        (loading :: confirming :: reading :: writing :: rest) world =
      runAlone (exec .stored) (next (.ok ())) rest ⟨db, orders'⟩ := by
  obtain ⟨db, hconfirm⟩ := confirm_clean payable hstock
  obtain ⟨orders', hupdate⟩ := updateTxn_clean payable horders clock writing.now
  have hfound : findOrder world.orders (trimSpace req.orderSN) = some order := by
    unfold findOrder
    rw [horders]
    exact payable.found
  have hget : ordersGet (⟨db, world.orders⟩ : World).orders
      (callbackUpdate req clock .tradeSuccess).trimmed.orderSn = .ok order := by
    change ordersGet world.orders (trimSpace req.orderSN) = .ok order
    simp only [ordersGet, GoText.trimSpace_trimSpace, if_neg payable.orderSn_ne, hfound]
  have hwrite : exec .stored (.updateTxn order (callbackUpdate req clock .tradeSuccess).trimmed)
      writing ⟨db, world.orders⟩ = (.ok (), ⟨db, orders'⟩) := by
    rw [exec_clean _ _ hwriting]
    simp only [serve, onOrders, Txn.commit_of_ok hupdate]
  refine ⟨db, orders', hupdate, ?_⟩
  simp only [processEvent, checkAmount_clean payable hamount, Proc.attempt_ok, Proc.send_bind,
    Proc.call_bind, Proc.pure_eq, Proc.ret_bind, runAlone_call, exec_clean _ _ hloading, serve,
    loadOrder_clean payable hfound, failWith, Except.mapError, checkOrder_clean payable,
    settleStock, payable.type, exec_clean _ _ hconfirming, onInventory, hconfirm, Except.map,
    Proc.bind_assoc]
  rw [runAlone_orderUpdate_bind hreading (prepareUpdate_clean payable clock) hget
    (checkUpdate_clean payable clock), hwrite]

theorem eventStatus_seen (payable : Payable req order items start)
    {event : PaymentEventDO} (seen : Seen req start world event) :
    eventStatus req world.orders = some event.status := by
  rw [eventStatus, payable.find_seen seen]
  rfl

theorem complete_clean {event : PaymentEventDO}
    (seen : Seen req start world event) (hprocessing : event.status = .processing)
    (success : Bool) (detail : String) (hpaid : success = true → orderPaid req world.orders = true)
    (hfits : (success || Sql.fitsVarchar 255 (trimSpace detail)) = true) {choice : Choice}
    (hclean : choice.outcome = .ok) :
    ∃ reply db', exec .stored (.completePaymentEvent
        (Sql.nextId (start.orders.events.map (·.id))) success detail) choice world =
        (reply, { world with orders := db' }) ∧
      Seen req start { world with orders := db' }
        (closedEvent success detail choice.now event) := by
  have hfind : (world.orders.events.find? fun row =>
      row.id = Sql.nextId (start.orders.events.map (·.id)) ∧ row.status = .processing) =
        some event := by
    rw [seen.events, List.find?_append, List.find?_eq_none.mpr, Option.none_or]
    · exact List.find?_cons_of_pos (by simp [seen.recorded.id, hprocessing])
    · intro row hrow hmatch
      simp only [decide_eq_true_eq] at hmatch
      exact nextId_fresh row hrow hmatch.1
  obtain ⟨refunds, hrun⟩ := completeBody_run hfind hfits
  refine ⟨.ok (), _, ?_, complete_seen seen hpaid hrun⟩
  rw [exec_clean _ _ hclean]
  simp only [serve, onOrders, completePaymentEvent, Txn.commit_of_ok hrun]

variable {first second third fourth fifth sixth : Choice} {rest : List Choice}

theorem clean_converges (payable : Payable req order items start)
    (reached : Reached req start world)
    (hstatus : eventStatus req world.orders = none ∨ eventStatus req world.orders = some .failed)
    (horders : world.orders.orders = start.orders.orders)
    (hfirst : first.outcome = .ok) (hsecond : second.outcome = .ok)
    (hthird : third.outcome = .ok) (hfourth : fourth.outcome = .ok)
    (hfifth : fifth.outcome = .ok) (hsixth : sixth.outcome = .ok) :
    Converged req (deliver .stored world
      ⟨req, clock, first :: second :: third :: fourth :: fifth :: sixth :: rest⟩) := by
  obtain ⟨response, db', hbegin, haccepted, hkept⟩ := begin_opens payable reached hstatus first.now
  obtain ⟨hid, hamount, event, seen, hprocessing⟩ :=
    (begin_reached payable reached hbegin).2 haccepted
  obtain ⟨stock, orders', hupdate, hrun⟩ := process_clean payable clock
    { world with orders := db' } reached.stock (hkept.trans horders) hamount (sixth :: rest)
    hsecond hthird hfourth hfifth (finishEvent response.id)
  rw [deliver_accepted payable hfirst haccepted hbegin, hrun, hid]
  obtain ⟨reply, closed, hclose, hdone⟩ := complete_clean (seen.update hupdate stock)
    hprocessing true "" (fun _ => orderPaid_updated hupdate) rfl hsixth
  simp only [finishEvent, Proc.send_bind, runAlone_call, hclose, Proc.pure_eq, runAlone_ret]
  exact ⟨hdone.completed rfl, eventStatus_seen payable hdone⟩

/-- A clean delivery of an event that failed on a paid order fails again. -/
theorem clean_fails (payable : Payable req order items start)
    (reached : Reached req start world) (hstatus : eventStatus req world.orders = some .failed)
    (hpaid : orderPaid req world.orders = true)
    (hfirst : first.outcome = .ok) (hsecond : second.outcome = .ok)
    (hthird : third.outcome = .ok) :
    eventStatus req (deliver .stored world
      ⟨req, clock, first :: second :: third :: rest⟩).orders = some .failed := by
  obtain ⟨response, db', hbegin, haccepted, hkept⟩ :=
    begin_opens payable reached (.inr hstatus) first.now
  obtain ⟨hid, hamount, event, seen, hprocessing⟩ :=
    (begin_reached payable reached hbegin).2 haccepted
  have hpaid' : orderPaid req db' = true := by
    unfold orderPaid findOrder at hpaid ⊢
    rw [hkept]
    exact hpaid
  obtain ⟨row, hrow, hstatus'⟩ := payable.order_found seen.orders
  have hrefused : checkOrder req row = .error (invalid "payment event is out of order") := by
    have htrim : OrderStatus.tradeSuccess.trim = .tradeSuccess := OrderStatus.trim_valid rfl
    simp [checkOrder, hstatus' hpaid', htrim, payable.type, paymentEventAllowed]
  obtain ⟨reply, closed, hclose, hdone⟩ := complete_clean seen
    hprocessing false "payment event is out of order" (by simp) (by decide) hthird
  rw [deliver_accepted payable hfirst haccepted hbegin, hid]
  simp only [processEvent, checkAmount_clean payable hamount, Proc.attempt_ok, Proc.send_bind,
    Proc.call_bind, runAlone_call, exec_clean _ _ hsecond, serve, loadOrder_clean payable hrow,
    failWith, Except.mapError, hrefused, Proc.attempt_error, Proc.ret_bind, invalid, finishEvent,
    hclose, Proc.pure_eq, runAlone_ret]
  exact eventStatus_seen payable hdone

theorem clean_refused (payable : Payable req order items start)
    {event : PaymentEventDO} (seen : Seen req start world event)
    (hstatus : event.status ≠ .failed) (hclean : first.outcome = .ok) :
    deliver .stored world ⟨req, clock, first :: rest⟩ = world := by
  obtain ⟨row, hrow, -⟩ := payable.order_found seen.orders
  rw [← seen.recorded.orderSN] at hrow
  have hrun : beginBody (eventOf req) first.now world.orders = _ :=
    (beginBody_resume payable.event (payable.find_seen seen)).trans
      (resumeEvent_other hrow hstatus)
  exact deliver_refused payable hclean rfl hrun

end Clean

/-- With an order server that answers: any number of attempts, each cut off anywhere
and with any of its calls failing, and then a delivery that nothing disturbs. It
leaves the order paid and the event completed exactly when the attempts have not
left the event open, nor failed on a paid order. -/
theorem redelivery_converges_iff [CaseTable] {req : CallbackRequest} {order : OrderInfoDO}
    {items : List GoodsDetail} {start : World}
    (payable : Payable req order items start) (attempts : List (Int × List Choice))
    (clock : Int) (choices : List Choice) (enough : 6 ≤ choices.length)
    (clean : ∀ choice ∈ choices, choice.outcome = .ok) :
    Converged req
        (redeliver .stored req (run (redeliver .stored req) start attempts) (clock, choices)) ↔
      ¬Stuck req (run (redeliver .stored req) start attempts) := by
  have reached := redeliver_reached .stored payable attempts
  generalize run (redeliver .stored req) start attempts = world at reached ⊢
  obtain ⟨first, second, third, fourth, fifth, sixth, rest, rfl⟩ : ∃ first second third fourth
      fifth sixth rest, choices = first :: second :: third :: fourth :: fifth :: sixth :: rest := by
    match choices, enough with
    | first :: second :: third :: fourth :: fifth :: sixth :: rest, _ =>
      exact ⟨first, second, third, fourth, fifth, sixth, rest, rfl⟩
  simp only [List.mem_cons, forall_eq_or_imp] at clean
  obtain ⟨hfirst, hsecond, hthird, hfourth, hfifth, hsixth, -⟩ := clean
  unfold redeliver
  rcases reached.tables with ⟨horders, hevents⟩ | ⟨event, seen⟩
  · have hnone : eventStatus req world.orders = none := by
      rw [eventStatus, payable.find_none hevents]
      rfl
    apply iff_of_true
    · exact clean_converges payable reached (.inl hnone) horders hfirst hsecond hthird hfourth
        hfifth hsixth
    · simp [Stuck, hnone]
  · have hstatus := eventStatus_seen payable seen
    cases hevent : event.status with
    | processing =>
      rw [clean_refused payable seen (by simp [hevent]) hfirst]
      exact iff_of_false (by simp [Converged, hstatus, hevent]) (by simp [Stuck, hstatus, hevent])
    | completed =>
      rw [clean_refused payable seen (by simp [hevent]) hfirst]
      exact iff_of_true ⟨seen.completed hevent, by rw [hstatus, hevent]⟩
        (by simp [Stuck, hstatus, hevent])
    | failed =>
      rw [hevent] at hstatus
      cases hpaid : orderPaid req world.orders with
      | true =>
        apply iff_of_false
        · intro hconverged
          have hcompleted := hconverged.2
          rw [clean_fails payable reached hstatus hpaid hfirst hsecond hthird] at hcompleted
          cases hcompleted
        · simp [Stuck, hstatus, hpaid]
      | false =>
        apply iff_of_true
        · have horders := seen.orders.resolve_right (by simp [hpaid])
          exact clean_converges payable reached (.inr hstatus) horders hfirst hsecond hthird
            hfourth hfifth hsixth
        · simp [Stuck, hstatus, hpaid]

section Unanswered

variable [CaseTable] {req : CallbackRequest} {order : OrderInfoDO}
    {items : List GoodsDetail} {start : World}

theorem redeliver_unanswered (req : CallbackRequest) (start : World)
    (attempts : List (Int × List Choice)) :
    (run (redeliver .unimplemented req) start attempts).orders.orders = start.orders.orders := by
  have hstep : ∀ world attempt, world.orders.orders = start.orders.orders →
      (redeliver .unimplemented req world attempt).orders.orders = start.orders.orders :=
    fun world attempt hsame => (deliver_unanswered world _).1.trans hsame
  exact run_invariant attempts hstep rfl

theorem Payable.not_paid (payable : Payable req order items start) {world : World}
    (horders : world.orders.orders = start.orders.orders) :
    orderPaid req world.orders = false := by
  have hfound := payable.found
  unfold findOrder at hfound
  simp [orderPaid, findOrder, horders, hfound, payable.status_ne]

/-- Against the order server as it is, no number of attempts and no delivery after
them, disturbed or not, pays the order or completes the event. -/
theorem redelivery_never_converges (payable : Payable req order items start)
    (attempts : List (Int × List Choice)) (last : Int × List Choice) :
    let redelivered := redeliver .unimplemented req
      (run (redeliver .unimplemented req) start attempts) last
    orderPaid req redelivered.orders = false ∧
      eventStatus req redelivered.orders ≠ some .completed := by
  intro redelivered
  have hlast : redelivered = run (redeliver .unimplemented req) start (attempts ++ [last]) := by
    rw [run_append]
    rfl
  have hunpaid : orderPaid req redelivered.orders = false := by
    rw [hlast]
    exact payable.not_paid (redeliver_unanswered req start _)
  have hreached : Reached req start redelivered := by
    rw [hlast]
    exact redeliver_reached .unimplemented payable _
  refine ⟨hunpaid, fun hcompleted => ?_⟩
  rcases hreached.tables with ⟨-, hevents⟩ | ⟨event, seen⟩
  · rw [eventStatus, payable.find_none hevents] at hcompleted
    cases hcompleted
  · rw [eventStatus_seen payable seen] at hcompleted
    have hpaid := seen.completed (Option.some.inj hcompleted)
    rw [hunpaid] at hpaid
    cases hpaid

end Unanswered

def firstPayment : CallbackRequest := payment "E1" "S1" "T1" 100

local instance letters : CaseTable := GoText.asciiTable

theorem firstPayment_payable :
    Payable firstPayment (unpaidOrder "S1") [⟨7, 2⟩] (unpaidWorld "S1") where
  valid := by decide
  type := by decide
  event := by decide
  eventColumns := by decide
  fresh := by decide
  found := by decide
  unpaid := by decide
  amount := rfl
  goods := by decide
  stock := by decide +kernel
  tradeNo := by decide
  orderColumns := by decide
  logColumns := by decide

/-- The first delivery, with no call failing: the order stays unpaid and the event
fails. -/
theorem redelivery_never_converges_first_delivery :
    eventStatus firstPayment (redeliver .unimplemented firstPayment (unpaidWorld "S1")
        (0, List.replicate 6 {})).orders = some .failed ∧
      orderPaid firstPayment (redeliver .unimplemented firstPayment (unpaidWorld "S1")
        (0, List.replicate 6 {})).orders = false :=
  ⟨by decide +kernel,
    (redelivery_never_converges firstPayment_payable [] (0, List.replicate 6 {})).1⟩

/-- The gateway dies after it has opened the event: the next delivery is not let in. -/
theorem crash_after_begin_blocks_payment :
    let crashed := redeliver .unimplemented firstPayment (unpaidWorld "S1") (0, [{}])
    let redelivered := redeliver .unimplemented firstPayment crashed (0, List.replicate 6 {})
    redelivered.orders.orders.map (·.status) = [.waitBuyerPay] ∧
      redelivered.orders.events.map (·.status) = [.processing] ∧
      ¬Converged firstPayment redelivered := by
  decide +kernel

-- With an order server that answers, two attempts that fail at the inventory service
-- do no harm.
example :
    let attempts : List (Int × List Choice) :=
      [(0, [{}, {}, { outcome := .failBefore }, {}]), (0, [{}, {}, { outcome := .failAfter }, {}]),
        (0, List.replicate 6 {})]
    Converged firstPayment (run (redeliver .stored firstPayment) (unpaidWorld "S1") attempts) := by
  decide +kernel

end Goshop.Callback.Redelivery
