import Goshop.Callback.Calls
import Goshop.Inventory.SellStatus

/-! The status of an order against the status of its stock. Payment callbacks,
cancellations and the sweep over expired orders settle the stock first and then
write the status of the order, each in its own transaction; the close button of
the admin console only writes the status. `Confirm` and `Release` answer with
success when the stock was settled the other way, so the two services agree as
long as nobody asks for the opposite of what was done. Callbacks and the close
button go through `GetOrderBySn`, which the order server does not implement, so
today nobody does. -/
namespace Goshop.Settlement

open Goshop.Errors Goshop.Lib Goshop.Lib.Transaction Goshop.Lib.Process Goshop.Lib.Run
open Goshop.Inventory.Model (GoodsDetail stockSellStatusReserved
  stockSellStatusConfirmed stockSellStatusReleased)
open Goshop.Inventory.SellStatus
open Goshop.Order.Model Goshop.Order.Data Goshop.Order.Service Goshop.Order.Payment
open Goshop.Order.Steps Goshop.Order.PaymentSteps Goshop.System Goshop.Gateway
open Goshop.Callback.Calls
open Goshop.Lib.GoText (CaseTable trimSpace)

inductive Execution where
  | callback (req : CallbackRequest) (clock : Int)
  | cancel (userID : Int) (orderSN : String)
  | sweep (timeoutCloseAfter batchSize : Int)
  | close (authorize : OrderInfoDO → Except AppError Unit) (orderSN : String)

def Execution.program : Execution → Proc Call Reply (Except AppError Unit)
  | .callback req clock => do
    let answer ← processPayCallback req clock
    pure (answer.map fun _ => ())
  | .cancel userID orderSN => cancelOrder userID orderSN
  | .sweep timeoutCloseAfter batchSize => processExpiredOrdersOnce timeoutCloseAfter batchSize
  | .close authorize orderSN => closeOrder authorize orderSN

def Confirmed (orderSn : String) (world : World) : Prop :=
  sellStatus world.inventory orderSn = some stockSellStatusConfirmed

def Released (orderSn : String) (world : World) : Prop :=
  sellStatus world.inventory orderSn = some stockSellStatusReleased

def Matches (orderSn : String) (status : OrderStatus) (world : World) : Prop :=
  (status = .tradeSuccess ∨ status = .tradeFinished → Confirmed orderSn world) ∧
    (status = .tradeClosed → Released orderSn world)

/-- A paid order has its stock sold and a closed one has it given back. -/
def Agrees (orderSn : String) (world : World) : Prop :=
  ∀ row ∈ world.orders.orders, hasSn orderSn row → Matches orderSn row.status world

/-- The call does not ask for the opposite of what was done with the stock; the
close button is only pressed when the stock is back. -/
def Consistent (orderSn : String) (execution : Execution) : Call → Choice → World → Prop
  | .confirm number _, _, world =>
    trimSpace number = orderSn → ¬Released orderSn world
  | .release number _, _, world =>
    trimSpace number = orderSn → ¬Confirmed orderSn world
  | .updateTxn _ order, _, world =>
    match execution with
    | .close _ _ => order.orderSn = orderSn → Released orderSn world
    | _ => True
  | _, _, _ => True

instance (orderSn : String) (world : World) : Decidable (Confirmed orderSn world) :=
  inferInstanceAs (Decidable (_ = _))

instance (orderSn : String) (world : World) : Decidable (Released orderSn world) :=
  inferInstanceAs (Decidable (_ = _))

instance (orderSn : String) (status : OrderStatus) (world : World) :
    Decidable (Matches orderSn status world) :=
  inferInstanceAs (Decidable (_ ∧ _))

instance (orderSn : String) (world : World) : Decidable (Agrees orderSn world) :=
  inferInstanceAs (Decidable (∀ row ∈ world.orders.orders, _ → _))

instance (orderSn : String) (execution : Execution) (request : Call) (choice : Choice)
    (world : World) : Decidable (Consistent orderSn execution request choice world) :=
  match request with
  | .confirm number _ => inferInstanceAs
      (Decidable (trimSpace number = orderSn → ¬Released orderSn world))
  | .release number _ => inferInstanceAs
      (Decidable (trimSpace number = orderSn → ¬Confirmed orderSn world))
  | .updateTxn _ order =>
    match execution with
    | .close _ _ => inferInstanceAs (Decidable (order.orderSn = orderSn → Released orderSn world))
    | .callback _ _ | .cancel _ _ | .sweep _ _ => inferInstanceAs (Decidable True)
  | .ordersGet _ | .batchGetGoods _ | .createTxn _ | .beginPaymentEvent _
  | .completePaymentEvent _ _ _ | .getOrderBySn _
  | .listCloseCandidates _ _ _ => inferInstanceAs (Decidable True)

section Steps

/-- What holds of an order that the saga has created, in every state. -/
structure Kept (orderSn : String) (world : World) : Prop where
  known : sellStatus world.inventory orderSn ≠ none
  agrees : Agrees orderSn world
  goods : ∀ row ∈ world.orders.orders, trimSpace row.orderSn = orderSn →
    releaseItems row ≠ []

/-- What every step guarantees to the other executions. -/
structure Forward (orderSn : String) (before after : World) : Prop where
  kept : Kept orderSn before → Kept orderSn after
  confirmed : Confirmed orderSn before → Confirmed orderSn after
  released : Released orderSn before → Released orderSn after

variable {orderSn number : String} {before after world : World}

theorem Forward.refl (world : World) : Forward orderSn world world := ⟨id, id, id⟩

theorem Forward.trans (first second third : World) (h : Forward orderSn first second)
    (h' : Forward orderSn second third) : Forward orderSn first third :=
  ⟨h'.kept ∘ h.kept, h'.confirmed ∘ h.confirmed, h'.released ∘ h.released⟩

theorem Forward.with_kept (hkept : Kept orderSn before) (h : Forward orderSn before after) :
    Forward orderSn before after ∧ Kept orderSn after :=
  ⟨h, h.kept hkept⟩

theorem Forward.matches {status : OrderStatus} (h : Forward orderSn before after)
    (hmatches : Matches orderSn status before) : Matches orderSn status after :=
  ⟨h.confirmed ∘ hmatches.1, h.released ∘ hmatches.2⟩

theorem Forward.of_stock (horders : after.orders.orders = before.orders.orders)
    (hknown : sellStatus before.inventory orderSn ≠ none →
      sellStatus after.inventory orderSn ≠ none)
    (hconfirmed : Confirmed orderSn before → Confirmed orderSn after)
    (hreleased : Released orderSn before → Released orderSn after) :
    Forward orderSn before after where
  kept hkept := by
    refine ⟨hknown hkept.known, ?_, by rw [horders]; exact hkept.goods⟩
    rw [Agrees, horders]
    intro row hrow hsn
    obtain ⟨hpaid, hclosed⟩ := hkept.agrees row hrow hsn
    exact ⟨hconfirmed ∘ hpaid, hreleased ∘ hclosed⟩
  confirmed := hconfirmed
  released := hreleased

theorem Forward.of_same (horders : after.orders.orders = before.orders.orders)
    (hstatus : sellStatus after.inventory orderSn = sellStatus before.inventory orderSn) :
    Forward orderSn before after := by
  apply Forward.of_stock horders
  · rw [hstatus]
    exact id
  · rw [Confirmed, Confirmed, hstatus]
    exact id
  · rw [Released, Released, hstatus]
    exact id

theorem Forward.of_confirmed (horders : after.orders.orders = before.orders.orders)
    (hbefore : ¬Released orderSn before) (hafter : Confirmed orderSn after) :
    Forward orderSn before after :=
  .of_stock horders (fun _ => by rw [hafter]; simp) (fun _ => hafter)
    fun hreleased => absurd hreleased hbefore

theorem Forward.of_released (horders : after.orders.orders = before.orders.orders)
    (hbefore : ¬Confirmed orderSn before) (hafter : Released orderSn after) :
    Forward orderSn before after :=
  .of_stock horders (fun _ => by rw [hafter]; simp) (fun hconfirmed => absurd hconfirmed hbefore)
    fun _ => hafter

structure Settles (orderSn number : String) (goal : String → World → Prop) (before : World)
    (reply : Except AppError Unit) (after : World) : Prop where
  forward : Forward orderSn before after
  settled : reply = .ok () → trimSpace number = orderSn → goal orderSn after

theorem Settles.refused (goal : String → World → Prop) (world : World) (err : AppError) :
    Settles orderSn number goal world (.error err) world :=
  ⟨.refl world, by simp⟩

theorem Settles.done {goal : String → World → Prop}
    (own : trimSpace number = orderSn → goal orderSn after ∧ Forward orderSn before after)
    (other : trimSpace number ≠ orderSn → Forward orderSn before after) :
    Settles orderSn number goal before (.ok ()) after ∧
      Settles orderSn number goal before (.error callFailed) after := by
  have hforward : Forward orderSn before after := by
    by_cases hnumber : trimSpace number = orderSn
    · exact (own hnumber).2
    · exact other hnumber
  exact ⟨⟨hforward, fun _ hnumber => (own hnumber).1⟩, hforward, by simp⟩

theorem exec_confirm [CaseTable] (lookup : OrderLookup) (number : String)
    (details : List GoodsDetail)
    (choice : Choice)
    (hconsistent : trimSpace number = orderSn → ¬Released orderSn world) :
    Settles orderSn number Confirmed world
      (exec lookup (.confirm number details) choice world).1
      (exec lookup (.confirm number details) choice world).2 := by
  apply call_onInventory (Settles orderSn number Confirmed world) choice.outcome
    (confirm_cases number details world.inventory) (Settles.refused Confirmed world)
  intro db' settling
  apply Settles.done
  · rintro rfl
    have hafter : Confirmed (trimSpace number) { world with inventory := db' } :=
      settling.target (hconsistent rfl)
    exact ⟨hafter, .of_confirmed rfl (hconsistent rfl) hafter⟩
  · intro hnumber
    exact .of_same rfl (settling.others orderSn (Ne.symm hnumber))

theorem exec_release [CaseTable] (lookup : OrderLookup)
    (htrimmed : trimSpace orderSn = orderSn)
    (hkept : Kept orderSn world) (number : String) (details : List GoodsDetail) (choice : Choice)
    (hconsistent : trimSpace number = orderSn → ¬Confirmed orderSn world) :
    Settles orderSn number Released world
      (exec lookup (.release number details) choice world).1
      (exec lookup (.release number details) choice world).2 := by
  apply call_onInventory (Settles orderSn number Released world) choice.outcome
    (release_cases number details world.inventory) (Settles.refused Released world)
  rintro db' ⟨settling, others⟩
  apply Settles.done
  · rintro rfl
    have hafter : Released (trimSpace number) { world with inventory := db' } :=
      (settling hkept.known).target (hconsistent rfl)
    exact ⟨hafter, .of_released rfl (hconsistent rfl) hafter⟩
  · intro hnumber
    exact .of_same rfl (others orderSn (Ne.symm hnumber) htrimmed)

structure RowUpdated (order : OrderDTO) (row row' : OrderInfoDO) : Prop where
  deleted : row'.deleted = row.deleted
  orderSn : row'.orderSn = row.orderSn
  goods : row'.orderGoods = row.orderGoods
  status : row'.status = row.status ∨ hasSn order.orderSn row = true ∧ row'.status = order.target

theorem RowUpdated.refl {order : OrderDTO} (row : OrderInfoDO) : RowUpdated order row row :=
  ⟨rfl, rfl, rfl, .inl rfl⟩

theorem exec_update [CaseTable] (lookup : OrderLookup) {existing : OrderInfoDO}
    {order : OrderDTO}
    (choice : Choice) (htrimmed : order.trimmed = order) (hid : order.id = 0)
    (hmatches : order.orderSn = orderSn → Matches orderSn order.target world) :
    Forward orderSn world (exec lookup (.updateTxn existing order) choice world).2 := by
  apply call_preserves _ _ (.refl world)
  apply onOrders_commit (.refl world)
  intro _ db' hrun
  obtain ⟨-, rfl⟩ := updateTxn_ok hrun
  have hrows : List.Forall₂ (RowUpdated order) world.orders.orders
      (rewriteOrders (withPayTime order choice.now).trimmed choice.now world.orders.orders) := by
    apply rewriteOrders_forall₂ RowUpdated.refl
    intro row _ haddressed
    rw [addressed_withPayTime, htrimmed, addressed_eq_hasSn hid] at haddressed
    refine ⟨rfl, rfl, rfl, .inr ⟨haddressed, ?_⟩⟩
    rw [written_status, withPayTime_trimmed_target, htrimmed]
  refine ⟨fun hkept => ⟨hkept.known, ?_, ?_⟩, id, id⟩
  · intro row' hrow' hsn
    obtain ⟨row, hrow, hupdated⟩ := Table.exists_of_forall₂ hrows hrow'
    rw [hasSn, hupdated.deleted, hupdated.orderSn] at hsn
    rcases hupdated.status with hsame | ⟨hnumber, htarget⟩
    · rw [hsame]
      exact hkept.agrees row hrow hsn
    · rw [htarget]
      apply hmatches
      simp only [hasSn, Bool.and_eq_true, decide_eq_true_eq] at hsn hnumber
      exact hnumber.2.symm.trans hsn.2
  · intro row' hrow' hsn
    obtain ⟨row, hrow, hupdated⟩ := Table.exists_of_forall₂ hrows hrow'
    rw [hupdated.orderSn] at hsn
    rw [releaseItems, hupdated.goods]
    exact hkept.goods row hrow hsn

def QuietCall : Call → Prop
  | .ordersGet _ => True
  | .getOrderBySn _ => True
  | .listCloseCandidates _ _ _ => True
  | .beginPaymentEvent _ => True
  | .completePaymentEvent _ _ _ => True
  | _ => False

theorem exec_quiet [CaseTable] (lookup : OrderLookup) {request : Call}
    (hquiet : QuietCall request)
    (choice : Choice) (world : World) :
    Forward orderSn world (exec lookup request choice world).2 := by
  apply call_preserves _ _ (.refl world)
  cases request with
  | ordersGet _ => exact .refl world
  | getOrderBySn _ => exact .refl world
  | listCloseCandidates _ _ _ => exact .refl world
  | beginPaymentEvent event =>
    apply onOrders_commit (.refl world)
    intro _ db' hrun
    obtain ⟨events, rfl⟩ := beginBody_frame hrun
    exact .of_same rfl rfl
  | completePaymentEvent id success detail =>
    apply onOrders_commit (.refl world)
    intro _ db' hrun
    obtain ⟨event, -, rfl⟩ := completeBody_ok hrun
    exact .of_same rfl rfl
  | _ => exact hquiet.elim

end Steps

section Programs

variable (lookup : OrderLookup) {orderSn : String} (execution : Execution)

abbrev SafeFor [CaseTable] (lookup : OrderLookup) (orderSn : String) (execution : Execution)
    {α : Type}
    (post : α → World → Prop) (pre : World → Prop) (program : Proc Call Reply α) : Prop :=
  Safe (exec lookup) (Consistent orderSn execution) (Forward orderSn) (Forward orderSn) post pre
    program

theorem kept_stable : Stable (Forward orderSn) (Kept orderSn) :=
  fun _ _ hkept hforward => hforward.kept hkept

structure Backed (orderSn : String) (order : OrderDTO) (world : World) : Prop where
  kept : Kept orderSn world
  matched : order.trimmed.orderSn = orderSn → Matches orderSn order.trimmed.target world

theorem backed_stable (order : OrderDTO) : Stable (Forward orderSn) (Backed orderSn order) := by
  intro before after hbacked hforward
  refine ⟨hforward.kept hbacked.kept, fun hsn => ?_⟩
  exact hforward.matches (hbacked.matched hsn)

theorem update_safe [CaseTable] {order : OrderDTO} (hid : order.id = 0) :
    SafeFor lookup orderSn execution (fun _ => Kept orderSn) (Backed orderSn order)
      (orderUpdate order) := by
  apply orderUpdate_safe order Forward.refl (backed_stable order) (fun _ => kept_stable)
  · intro _ world hbacked
    exact hbacked.kept
  · intro existing choice world hbacked _ _ _
    have hkeyless : order.trimmed.id = 0 := (OrderDTO.trimmed_id order).trans hid
    apply Forward.with_kept hbacked.kept
    exact exec_update lookup choice (OrderDTO.trimmed_trimmed order) hkeyless hbacked.matched

theorem quiet_call [CaseTable] {α : Type} {post : α → World → Prop} (request : Call)
    {next : Reply request → Proc Call Reply α} (hquiet : QuietCall request)
    (rest : ∀ reply, SafeFor lookup orderSn execution post (Kept orderSn) (next reply)) :
    SafeFor lookup orderSn execution post (Kept orderSn) (.call request next) := by
  refine .call (fun _ => Kept orderSn) kept_stable ?_ rest
  intro world choice hkept _
  exact (exec_quiet lookup hquiet choice world).with_kept hkept

theorem quiet_safe [CaseTable] {α : Type} {program : Proc Call Reply α}
    (h : program.Issues QuietCall) :
    SafeFor lookup orderSn execution (fun _ => Kept orderSn) (Kept orderSn) program := by
  apply h.safe kept_stable
  intro request choice world hquiet hkept _
  exact (exec_quiet lookup hquiet choice world).with_kept hkept

structure Answered (orderSn number : String) (goal : String → World → Prop)
    (reply : Except AppError Unit) (world : World) : Prop where
  kept : Kept orderSn world
  settled : reply = .ok () → trimSpace number = orderSn → goal orderSn world

theorem answered_stable {goal : String → World → Prop}
    (hgoal : Stable (Forward orderSn) (goal orderSn)) (number : String)
    (reply : Except AppError Unit) :
    Stable (Forward orderSn) (Answered orderSn number goal reply) := by
  intro before after hanswered hforward
  refine ⟨hforward.kept hanswered.kept, fun hok hsn => ?_⟩
  exact hgoal _ _ (hanswered.settled hok hsn) hforward

theorem confirmed_stable : Stable (Forward orderSn) (Confirmed orderSn) :=
  fun _ _ hconfirmed hforward => hforward.confirmed hconfirmed

theorem released_stable : Stable (Forward orderSn) (Released orderSn) :=
  fun _ _ hreleased hforward => hforward.released hreleased

theorem confirm_safe [CaseTable] {α : Type} {post : α → World → Prop} {number : String}
    {details : List GoodsDetail}
    {next : Reply (.confirm number details) → Proc Call Reply α}
    (rest : ∀ reply, SafeFor lookup orderSn execution post
      (Answered orderSn number Confirmed reply) (next reply)) :
    SafeFor lookup orderSn execution post (Kept orderSn)
      (.call (.confirm number details) next) := by
  refine .call (Answered orderSn number Confirmed) kept_stable ?_ rest
  intro world choice hkept hconsistent
  have hsettles := exec_confirm lookup number details choice hconsistent
  exact ⟨hsettles.forward, hsettles.forward.kept hkept, hsettles.settled⟩

theorem release_safe [CaseTable] (htrimmed : trimSpace orderSn = orderSn) {α : Type}
    {post : α → World → Prop} {number : String} {details : List GoodsDetail}
    {next : Reply (.release number details) → Proc Call Reply α}
    (rest : ∀ reply, SafeFor lookup orderSn execution post
      (Answered orderSn number Released reply) (next reply)) :
    SafeFor lookup orderSn execution post (Kept orderSn)
      (.call (.release number details) next) := by
  refine .call (Answered orderSn number Released) kept_stable ?_ rest
  intro world choice hkept hconsistent
  have hsettles := exec_release lookup htrimmed hkept number details choice hconsistent
  exact ⟨hsettles.forward, hsettles.forward.kept hkept, hsettles.settled⟩

theorem close_safe [CaseTable] {order : OrderDTO} {number : String} (hid : order.id = 0)
    (hnumber : order.orderSn = number) (hclosing : order.status = OrderStatus.tradeClosed.text) :
    SafeFor lookup orderSn execution (fun _ => Kept orderSn)
      (Answered orderSn number Released (.ok ())) (orderUpdate order) := by
  subst hnumber
  apply (update_safe lookup execution hid).weaken (answered_stable released_stable _ _)
  intro world hanswered
  refine ⟨hanswered.kept, fun hsn => ?_⟩
  rw [closing_target hclosing]
  exact ⟨by simp, fun _ => hanswered.settled rfl hsn⟩

end Programs

section Callback

variable (lookup : OrderLookup) {orderSn : String} (execution : Execution)
  (req : CallbackRequest) (clock : Int)

structure StockSettled (orderSn number : String) (settled : Except Failure OrderStatus)
    (world : World) : Prop where
  kept : Kept orderSn world
  valid : ∀ target, settled = .ok target → isValidOrderStatus target
  matched : ∀ target, settled = .ok target → trimSpace number = orderSn →
    Matches orderSn target world

theorem stockSettled_stable (number : String) (settled : Except Failure OrderStatus) :
    Stable (Forward orderSn) (StockSettled orderSn number settled) := by
  intro before after hsettled hforward
  refine ⟨hforward.kept hsettled.kept, hsettled.valid, fun target htarget hsn => ?_⟩
  exact hforward.matches (hsettled.matched target htarget hsn)

theorem StockSettled.refused {number : String} {world : World} (failure : Failure)
    (hkept : Kept orderSn world) : StockSettled orderSn number (.error failure) world :=
  ⟨hkept, by simp, by simp⟩

theorem StockSettled.of_matches {number : String} {world : World} {target : OrderStatus}
    (hvalid : isValidOrderStatus target) (hkept : Kept orderSn world)
    (hmatches : trimSpace number = orderSn → Matches orderSn target world) :
    StockSettled orderSn number (.ok target) world := by
  refine ⟨hkept, ?_, ?_⟩
  · rintro _ ⟨⟩
    exact hvalid
  · rintro _ ⟨⟩
    exact hmatches

theorem settleStock_safe [CaseTable] (htrimmed : trimSpace orderSn = orderSn)
    (items : List GoodsDetail) :
    SafeFor lookup orderSn execution (StockSettled orderSn req.orderSN) (Kept orderSn)
      (settleStock req items) := by
  unfold settleStock
  split
  · apply confirm_safe
    intro reply
    refine .ret (answered_stable confirmed_stable req.orderSN reply) fun world hanswered => ?_
    cases reply with
    | error err => exact .refused _ hanswered.kept
    | ok _ => exact .of_matches rfl hanswered.kept fun hsn =>
        ⟨fun _ => hanswered.settled rfl hsn, by simp⟩
  · apply release_safe lookup execution htrimmed
    intro reply
    refine .ret (answered_stable released_stable req.orderSN reply) fun world hanswered => ?_
    cases reply with
    | error err => exact .refused _ hanswered.kept
    | ok _ => exact .of_matches rfl hanswered.kept fun hsn =>
        ⟨by simp, fun _ => hanswered.settled rfl hsn⟩
  · exact .ret kept_stable fun _ hkept => .of_matches rfl hkept fun _ => ⟨by simp, by simp⟩
  · exact .ret kept_stable fun _ hkept => .of_matches rfl hkept fun _ => ⟨by simp, by simp⟩
  · exact .ret kept_stable fun _ hkept => .refused _ hkept

theorem callbackUpdate_safe [CaseTable] (target : OrderStatus) :
    SafeFor lookup orderSn execution (fun _ => Kept orderSn)
      (StockSettled orderSn req.orderSN (.ok target))
      (orderUpdate (callbackUpdate req clock target)) := by
  apply (update_safe lookup execution rfl).weaken (stockSettled_stable _ _)
  intro world hsettled
  refine ⟨hsettled.kept, fun hsn => ?_⟩
  rw [callbackUpdate_target req clock (hsettled.valid target rfl)]
  exact hsettled.matched target rfl hsn

theorem finishEvent_safe [CaseTable] (id : Int) (outcome : Except Failure Unit) :
    SafeFor lookup orderSn execution (fun _ => Kept orderSn) (Kept orderSn)
      (finishEvent id outcome) := by
  apply quiet_safe
  cases outcome with
  | ok _ => exact .call trivial fun _ => .ret _
  | error failure => exact .call trivial fun _ => .ret _

theorem processEvent_safe [CaseTable] (htrimmed : trimSpace orderSn = orderSn)
    (begun : PaymentEventResponse) :
    SafeFor lookup orderSn execution (fun _ => Kept orderSn) (Kept orderSn)
      (processEvent req clock begun) := by
  apply Safe.attempt kept_stable fun _ _ => id
  intro _ _
  apply quiet_call lookup execution (.getOrderBySn req.orderSN) trivial
  intro loaded
  apply Safe.attempt kept_stable fun _ _ => id
  intro order _
  apply Safe.attempt kept_stable fun _ _ => id
  intro items _
  apply (settleStock_safe lookup execution req htrimmed items).bind
  intro settled
  apply Safe.attempt (stockSettled_stable _ _) fun _ _ => StockSettled.kept
  rintro target rfl
  apply (callbackUpdate_safe lookup execution req clock target).bind
  intro _
  exact .ret kept_stable fun _ hkept => hkept

theorem processPayCallback_safe [CaseTable] (htrimmed : trimSpace orderSn = orderSn) :
    SafeFor lookup orderSn execution (fun _ => Kept orderSn) (Kept orderSn)
      (processPayCallback req clock) := by
  unfold processPayCallback
  split
  · apply quiet_call lookup execution (.beginPaymentEvent (paymentEventRequest req)) trivial
    intro begin
    apply Safe.attempt kept_stable fun _ _ => id
    intro begun _
    split
    · apply (processEvent_safe lookup execution req clock htrimmed begun).bind
      exact finishEvent_safe lookup execution begun.id
    · split <;> exact .ret kept_stable fun _ hkept => hkept
  · exact .ret kept_stable fun _ hkept => hkept

end Callback

section Close

variable (lookup : OrderLookup) {orderSn : String} (execution : Execution)

theorem orderDetail_quiet (userID : Int) (number : String) :
    (orderDetail userID number).Issues QuietCall := by
  unfold orderDetail
  simp only
  split
  · exact .ret _
  · refine .call trivial fun loaded => ?_
    apply Proc.Issues.attempt
    intro order _
    split <;> exact .ret _

theorem cancelOrder_safe [CaseTable] (htrimmed : trimSpace orderSn = orderSn)
    (userID : Int)
    (number : String) :
    SafeFor lookup orderSn execution (fun _ => Kept orderSn) (Kept orderSn)
      (cancelOrder userID number) := by
  apply (quiet_safe lookup execution (orderDetail_quiet userID number)).bind
  intro loaded
  apply Safe.attempt kept_stable fun _ _ => id
  intro order _
  simp only
  split
  · exact .ret kept_stable fun _ hkept => hkept
  · apply Safe.attempt kept_stable fun _ _ => id
    intro items _
    apply release_safe lookup execution htrimmed
    intro reply
    apply Safe.attempt (answered_stable released_stable number reply) fun _ _ => Answered.kept
    rintro ⟨⟩ rfl
    apply close_safe <;> rfl

def HasItems (orderSn : String) (order : OrderInfoDO) : Prop :=
  trimSpace order.orderSn = orderSn → releaseItems order ≠ []

theorem releaseOrderInventory_safe [CaseTable]
    (htrimmed : trimSpace orderSn = orderSn)
    {order : OrderInfoDO} (hitems : HasItems orderSn order) :
    SafeFor lookup orderSn execution (Answered orderSn order.orderSn Released) (Kept orderSn)
      (releaseOrderInventory order) := by
  unfold releaseOrderInventory
  simp only
  split
  · rename_i hnone
    exact .ret kept_stable fun _ hkept => ⟨hkept, fun _ hsn => absurd hnone (hitems hsn)⟩
  · apply release_safe lookup execution htrimmed
    intro reply
    refine .ret (answered_stable released_stable _ reply) fun _ hanswered => ?_
    refine ⟨hanswered.kept, fun hok hsn => hanswered.settled hok ?_⟩
    rw [GoText.trimSpace_trimSpace, hsn]

theorem closeExpired_safe [CaseTable] (htrimmed : trimSpace orderSn = orderSn)
    {order : OrderInfoDO} (hitems : HasItems orderSn order) :
    SafeFor lookup orderSn execution (fun _ => Kept orderSn) (Kept orderSn)
      (closeExpired order) := by
  apply (releaseOrderInventory_safe lookup execution htrimmed hitems).bind
  intro reply
  apply Safe.attempt (answered_stable released_stable _ reply) fun _ _ => Answered.kept
  rintro ⟨⟩ rfl
  apply close_safe <;> rfl

theorem closeAllExpired_safe [CaseTable] (htrimmed : trimSpace orderSn = orderSn)
    {orders : List OrderInfoDO} (hitems : ∀ order ∈ orders, HasItems orderSn order) :
    SafeFor lookup orderSn execution (fun _ => Kept orderSn) (Kept orderSn)
      (closeAllExpired orders) := by
  induction orders with
  | nil => exact .ret kept_stable fun _ hkept => hkept
  | cons order rest ih =>
    apply (closeExpired_safe lookup execution htrimmed (hitems order List.mem_cons_self)).bind
    intro _
    exact ih fun other hother => hitems other (List.mem_cons_of_mem _ hother)

theorem listCloseCandidates_mem {db : OrderDB} {statuses : List OrderStatus}
    {createdBefore limit : Int} {order : OrderInfoDO}
    (h : order ∈ listCloseCandidates db statuses createdBefore limit) : order ∈ db.orders := by
  have hsorted := List.mem_of_mem_take h
  rw [List.mem_insertionSort] at hsorted
  exact List.mem_of_mem_filter hsorted

structure Listed (orderSn : String) (reply : Except AppError (List OrderInfoDO))
    (world : World) : Prop where
  kept : Kept orderSn world
  items : ∀ orders, reply = .ok orders → ∀ order ∈ orders, HasItems orderSn order

theorem exec_listCloseCandidates [CaseTable] {world : World} (hkept : Kept orderSn world)
    (statuses : List OrderStatus) (age limit : Int) (choice : Choice) :
    Listed orderSn (exec lookup (.listCloseCandidates statuses age limit) choice world).1
      (exec lookup (.listCloseCandidates statuses age limit) choice world).2 := by
  unfold exec
  cases choice.outcome with
  | ok =>
    refine ⟨hkept, ?_⟩
    rintro orders ⟨⟩ order horder
    exact hkept.goods order (listCloseCandidates_mem horder)
  | failBefore => exact ⟨hkept, by simp [call]⟩
  | failAfter => exact ⟨hkept, by simp [call]⟩

theorem processExpiredOrdersOnce_safe [CaseTable]
    (htrimmed : trimSpace orderSn = orderSn)
    (timeoutCloseAfter batchSize : Int) :
    SafeFor lookup orderSn execution (fun _ => Kept orderSn) (Kept orderSn)
      (processExpiredOrdersOnce timeoutCloseAfter batchSize) := by
  refine .call (Listed orderSn) kept_stable ?_ fun reply => ?_
  · intro world choice hkept _
    refine ⟨exec_quiet lookup ?_ choice world,
      exec_listCloseCandidates lookup hkept _ _ _ choice⟩
    trivial
  · have hstable : Stable (Forward orderSn) (Listed orderSn reply) :=
      fun _ _ hlisted hforward => ⟨hforward.kept hlisted.kept, hlisted.items⟩
    apply Safe.attempt hstable fun _ _ => Listed.kept
    intro orders horders
    apply Safe.given fun _ hlisted => hlisted.items orders horders
    intro hitems
    exact (closeAllExpired_safe lookup execution htrimmed hitems).weaken hstable
      fun _ => Listed.kept

/-- The close button does not touch the stock; that it is back is what the run
has to provide. -/
theorem closeOrder_safe [CaseTable] (authorize : OrderInfoDO → Except AppError Unit)
    (number : String) :
    SafeFor lookup orderSn (.close authorize number) (fun _ => Kept orderSn) (Kept orderSn)
      (closeOrder authorize number) := by
  apply quiet_call lookup _ (.getOrderBySn (trimSpace number)) trivial
  intro loaded
  apply Safe.attempt kept_stable fun _ _ => id
  intro order _
  apply Safe.attempt kept_stable fun _ _ => id
  intro _ _
  apply orderUpdate_safe _ Forward.refl kept_stable (fun _ => kept_stable) fun _ _ => id
  intro existing choice world hkept _ _ hreleased
  apply Forward.with_kept hkept
  apply exec_update lookup choice (OrderDTO.trimmed_trimmed _) rfl
  intro hsn
  rw [closing_target rfl]
  exact ⟨by simp, fun _ => hreleased hsn⟩

end Close

section Runs

structure Created (orderSn : String) (world : World) : Prop where
  reserved : sellStatus world.inventory orderSn = some stockSellStatusReserved
  unpaid : ∀ row ∈ world.orders.orders, hasSn orderSn row → row.status = .waitBuyerPay
  items : ∀ row ∈ world.orders.orders, trimSpace row.orderSn = orderSn →
    releaseItems row ≠ []

instance (orderSn : String) (world : World) : Decidable (Created orderSn world) :=
  decidable_of_iff
    (sellStatus world.inventory orderSn = some stockSellStatusReserved ∧
      (∀ row ∈ world.orders.orders, hasSn orderSn row → row.status = .waitBuyerPay) ∧
      ∀ row ∈ world.orders.orders, trimSpace row.orderSn = orderSn →
        releaseItems row ≠ [])
    ⟨fun ⟨reserved, unpaid, items⟩ => ⟨reserved, unpaid, items⟩,
      fun ⟨reserved, unpaid, items⟩ => ⟨reserved, unpaid, items⟩⟩

theorem Created.kept {orderSn : String} {world : World} (h : Created orderSn world) :
    Kept orderSn world := by
  refine ⟨by rw [h.reserved]; simp, fun row hrow hsn => ?_, h.items⟩
  rw [h.unpaid row hrow hsn]
  exact ⟨by simp, by simp⟩

theorem program_safe [CaseTable] (lookup : OrderLookup) {orderSn : String}
    (htrimmed : trimSpace orderSn = orderSn) (execution : Execution) :
    SafeFor lookup orderSn execution (fun _ => Kept orderSn) (Kept orderSn)
      execution.program := by
  cases execution with
  | callback req clock =>
    apply (processPayCallback_safe lookup _ req clock htrimmed).bind
    intro _
    exact .ret kept_stable fun _ hkept => hkept
  | cancel userID number => exact cancelOrder_safe lookup _ htrimmed userID number
  | sweep timeoutCloseAfter batchSize =>
    exact processExpiredOrdersOnce_safe lookup _ htrimmed timeoutCloseAfter batchSize
  | close authorize number => exact closeOrder_safe lookup authorize number

def executing {ι : Type} (executions : ι → Execution) (world : World) : Config ι Unit :=
  ⟨world, fun thread => (executions thread).program⟩

/-- Any number of executions, interleaved and cut off in any way: if no call asks
for the opposite of what was done with the stock and the close button waits for
the stock to be back, the order and its stock agree in every state. -/
theorem order_and_stock_agree [CaseTable] {ι : Type} [DecidableEq ι] (lookup : OrderLookup)
    (executions : ι → Execution) (orderSn : String) (world : World) (labels : List (ι × Choice))
    (htrimmed : trimSpace orderSn = orderSn) (hcreated : Created orderSn world)
    (hconsistent : Along (move (exec lookup))
      (Admitted fun thread => Consistent orderSn (executions thread))
      (executing executions world) labels) :
    Agrees orderSn (run (move (exec lookup)) (executing executions world) labels).shared := by
  have hsafe : AllSafe (exec lookup) (fun thread => Consistent orderSn (executions thread))
      (Forward orderSn) (executing executions world) :=
    fun thread => ⟨_, _, hcreated.kept, program_safe lookup htrimmed (executions thread)⟩
  have hforward := hsafe.run Forward.refl Forward.trans hconsistent
  exact (hforward.kept hcreated.kept).agrees

/-- What is left to send without an answer from `GetOrderBySn`: nobody confirms
stock, and the close button writes nothing. -/
def Unanswered (execution : Execution) : Call → Prop
  | .confirm _ _ => False
  | .updateTxn _ _ =>
    match execution with
    | .close _ _ => False
    | _ => True
  | _ => True

theorem orderUpdate_unanswered {execution : Execution}
    (hopen : ∀ authorize number, execution ≠ .close authorize number) (order : OrderDTO) :
    (orderUpdate order).Issues (Unanswered execution) := by
  apply (orderUpdate_issues order).mono
  intro request hrequest
  cases request with
  | ordersGet _ => trivial
  | updateTxn _ _ =>
    cases execution with
    | close authorize number => exact absurd rfl (hopen authorize number)
    | _ => trivial
  | _ => exact hrequest.elim

theorem cancelOrder_unanswered [CaseTable] (userID : Int) (number : String) :
    (cancelOrder userID number).Issues (Unanswered (.cancel userID number)) := by
  refine Proc.Issues.bind ?_ fun loaded => ?_
  · apply (orderDetail_quiet userID number).mono
    intro request hquiet
    cases request <;> trivial
  · apply Proc.Issues.attempt
    intro order _
    simp only
    split
    · exact .ret _
    · apply Proc.Issues.attempt
      intro items _
      refine .call trivial fun reply => ?_
      apply Proc.Issues.attempt
      intro _ _
      exact orderUpdate_unanswered (by simp) _

theorem closeExpired_unanswered (age limit : Int) (order : OrderInfoDO) :
    (closeExpired order).Issues (Unanswered (.sweep age limit)) := by
  refine Proc.Issues.bind ?_ fun released => ?_
  · unfold releaseOrderInventory
    simp only
    split
    · exact .ret _
    · exact .call trivial fun _ => .ret _
  · apply Proc.Issues.attempt
    intro _ _
    exact orderUpdate_unanswered (by simp) _

theorem closeAllExpired_unanswered (age limit : Int) (orders : List OrderInfoDO) :
    (closeAllExpired orders).Issues (Unanswered (.sweep age limit)) := by
  induction orders with
  | nil => exact .ret _
  | cons order rest ih => exact (closeExpired_unanswered age limit order).bind fun _ => ih

theorem program_unanswered [CaseTable] (execution : Execution) :
    execution.program.Sends (exec .unimplemented) (Unanswered execution) fun _ => True := by
  cases execution with
  | callback req clock =>
    apply Proc.Sends.bind
    · apply (processPayCallback_unanswered req clock).mono
      intro request hevent
      cases request <;> trivial
    · exact fun _ _ => .ret trivial
  | cancel userID number =>
    exact (cancelOrder_unanswered userID number).sends fun _ => trivial
  | sweep age limit =>
    refine .call trivial fun choice world => ?_
    refine Proc.Issues.sends ?_ fun _ => trivial
    apply Proc.Issues.attempt
    exact fun orders _ => closeAllExpired_unanswered age limit orders
  | close authorize number =>
    refine .call trivial fun choice world => ?_
    obtain ⟨err, herr⟩ := exec_getOrderBySn (trimSpace number) choice world
    rw [herr]
    exact .ret trivial

def Unsold (orderSn : String) (world : World) : Prop :=
  sellStatus world.inventory orderSn ≠ none ∧ ¬Confirmed orderSn world

theorem exec_unsold [CaseTable] {orderSn : String}
    (htrimmed : trimSpace orderSn = orderSn)
    (execution : Execution) {request : Call} (hcall : Unanswered execution request)
    (choice : Choice) {world : World} (h : Unsold orderSn world) :
    Unsold orderSn (exec .unimplemented request choice world).2 := by
  apply call_preserves _ _ h
  cases request with
  | confirm _ _ => exact hcall.elim
  | release number details =>
    rcases release_cases number details world.inventory with
      ⟨err, herr⟩ | ⟨db', hok, hsettling, hothers⟩
    · simpa only [serve, onInventory, herr] using h
    · simp only [serve, onInventory, hok]
      by_cases hnumber : trimSpace number = orderSn
      · subst hnumber
        have hreleased := (hsettling h.1).target h.2
        exact ⟨by simp [hreleased], by rw [Confirmed, hreleased]; decide⟩
      · have hsame := hothers orderSn (Ne.symm hnumber) htrimmed
        rw [Unsold, Confirmed, hsame]
        exact h
  | _ =>
    simp only [Unsold, Confirmed, serve, onOrders_inventory]
    exact h

/-- The executions against the order server as it is. No callback gets past
`GetOrderBySn`, so no stock is ever sold and the close button closes nothing: in
every state of every interleaving a paid order has its stock sold and a closed
one has it given back. -/
theorem order_follows_stock [CaseTable] {ι : Type} [DecidableEq ι]
    (executions : ι → Execution)
    (orderSn : String) (world : World) (labels : List (ι × Choice))
    (htrimmed : trimSpace orderSn = orderSn) (hcreated : Created orderSn world) :
    Agrees orderSn
      (run (move (exec .unimplemented)) (executing executions world) labels).shared := by
  apply order_and_stock_agree .unimplemented executions orderSn world labels htrimmed hcreated
  have hunsold : Unsold orderSn world :=
    ⟨hcreated.kept.known, by rw [Confirmed, hcreated.reserved]; decide⟩
  refine Sending.admitted ?_ ?_
    ⟨hunsold, fun thread => program_unanswered (executions thread)⟩ labels
  · intro thread request choice world hcall hstock
    exact exec_unsold htrimmed (executions thread) hcall choice hstock
  · intro thread request choice world hcall hstock
    cases request with
    | confirm _ _ => exact hcall.elim
    | release _ _ => exact fun _ => hstock.2
    | updateTxn _ order =>
      cases hexecution : executions thread with
      | close _ _ =>
        rw [hexecution] at hcall
        exact hcall.elim
      | _ => trivial
    | _ => trivial

def statuses (orderSn : String) (world : World) : List OrderStatus × Option Int :=
  (world.orders.orders.map (·.status), sellStatus world.inventory orderSn)

def closeButton : Execution := .close (fun _ => .ok ()) "S1"

def fourSettlers : Fin 4 → Execution
  | 0 => .cancel 9 "S1"
  | 1 => .sweep 0 20
  | 2 => .callback (payment "E1" "S1" "T1" 100) 0
  | 3 => closeButton

local instance letters : CaseTable := GoText.asciiTable

/-- A payment and the close button are turned away, a cancellation stops after
its `Release`, and the sweep finishes its work. -/
theorem order_follows_stock_four_settlers :
    let labels : List (Fin 4 × Choice) := [(2, {}), (2, {}), (2, {}), (0, {}), (0, {}), (3, {}),
      (1, {}), (1, {}), (1, {}), (1, {})]
    let last := run (move (exec .unimplemented)) (executing fourSettlers (unpaidWorld "S1")) labels
    statuses "S1" last.shared = ([.tradeClosed], some stockSellStatusReleased) ∧
      Agrees "S1" last.shared :=
  ⟨by decide +kernel, order_follows_stock fourSettlers "S1" (unpaidWorld "S1") _
    (by decide +kernel) (by decide +kernel)⟩

-- With an order server that answers, the close button alone closes an order whose
-- stock stays reserved.
example :
    let button := run (move (exec .stored))
      (executing (fun _ : Unit => closeButton) (unpaidWorld "S1")) [((), {}), ((), {}), ((), {})]
    statuses "S1" button.shared = ([.tradeClosed], some stockSellStatusReserved) := by
  decide +kernel

end Runs

end Goshop.Settlement
