import Goshop.Gateway
import Goshop.Lib.Batches

/-! The sweep over expired orders, run again and again while the release of some
of them keeps failing. A sweep takes the oldest candidates, and an order that it
cannot close is among the oldest again at the next one. So the sweeps work off
the backlog like a queue served in batches, where what stays at the front makes
the batches smaller. -/
namespace Goshop.Order.AutoClose

open Goshop.Errors Goshop.Lib Goshop.Lib.Run Goshop.Lib.Transaction Goshop.Lib.Process
open Goshop.Lib.Batches
open Goshop.Inventory.Model (GoodsDetail InventoryDB)
open Goshop.Order.Model Goshop.Order.Data Goshop.Order.Service Goshop.Order.Payment
open Goshop.Order.Steps Goshop.System Goshop.Gateway
open Goshop.Lib.GoText (CaseTable trimSpace)

section Model

variable [CaseTable]

/-- How the release calls of the sweeps are answered, and what each of them does
to the inventory. -/
structure Releases where
  answer : String → List GoodsDetail → Except AppError Unit
  effect : String → List GoodsDetail → InventoryDB → InventoryDB

/-- The release of the order always fails. An order without items to give back
needs no call. -/
def Releases.stuck (releases : Releases) (order : OrderInfoDO) : Bool :=
  releaseItems order ≠ [] &&
    !(releases.answer (trimSpace order.orderSn) (releaseItems order)).isOk

def calls (releases : Releases) (now : Int) : (request : Call) → World → Reply request × World
  | .release orderSn details, world =>
    (releases.answer orderSn details,
      { world with inventory := releases.effect orderSn details world.inventory })
  | request, world => serve .unimplemented request { now := now } world

def close (releases : Releases) (now : Int) (world : World) (order : OrderInfoDO) :
    Except AppError Unit × World :=
  eval (calls releases now) (closeExpired order) world

def closeNext (releases : Releases) (now : Int) (world : World) (order : OrderInfoDO) : World :=
  (close releases now world order).2

def sweep (releases : Releases) (timeoutCloseAfter batchSize : Int) (world : World) (now : Int) :
    World :=
  (eval (calls releases now) (processExpiredOrdersOnce timeoutCloseAfter batchSize) world).2

def isExpired (createdBefore : Int) (row : OrderInfoDO) : Bool :=
  !row.deleted ∧ row.status ∈ [OrderStatus.waitBuyerPay, .paying] ∧ row.addTime ≤ createdBefore

def expiredOrders (db : OrderDB) (createdBefore : Int) : List OrderInfoDO :=
  (db.orders.filter (isExpired createdBefore)).insertionSort fun first second =>
    first.addTime ≤ second.addTime

def Closes (releases : Releases) (now : Int) (world : World) (order : OrderInfoDO) : Prop :=
  releases.stuck order ∨ (close releases now world order).1.isOk

def Succeeds (releases : Releases) (timeoutCloseAfter batchSize : Int) (world : World)
    (now : Int) : Prop :=
  Along (closeNext releases now) (Closes releases now) world
    (listCloseCandidates world.orders [.waitBuyerPay, .paying] (now - timeoutCloseAfter) batchSize)

instance (releases : Releases) (now : Int) (world : World) (order : OrderInfoDO) :
    Decidable (Closes releases now world order) :=
  inferInstanceAs (Decidable (_ ∨ _))

instance (releases : Releases) (timeoutCloseAfter batchSize : Int) (world : World) (now : Int) :
    Decidable (Succeeds releases timeoutCloseAfter batchSize world now) :=
  decidableAlong _ _ _ _

/-- The first order is closed by the sweep, and the second one with it, because
an order is closed by its number. -/
def Releases.clears (releases : Releases) (order row : OrderInfoDO) : Bool :=
  !releases.stuck order && hasSn (trimSpace order.orderSn) row

end Model

section Close

variable [CaseTable] {releases : Releases} {now : Int} {world : World}

def closeRequest (order : OrderInfoDO) : OrderDTO :=
  { orderSn := order.orderSn
    status := OrderStatus.tradeClosed.text
    statusReason := "order timeout auto close"
    statusSource := "order.timeout_worker"
    statusOperator := "system" }

theorem eval_orderUpdate (order : OrderDTO) :
    eval (calls releases now) (orderUpdate order) world =
      onOrders (Txn.commit (updateBody order now)) world := by
  simp only [orderUpdate, onOrders, Txn.commit, updateBody]
  cases hprepare : prepareUpdate order with
  | error err => simp only [Proc.attempt_error, eval_ret, Txn.lift_error_bind]
  | ok prepared =>
    simp only [Proc.attempt_ok, Proc.send_bind, eval_call, Txn.lift_ok_bind, Txn.read_bind,
      calls, serve]
    cases hget : ordersGet world.orders prepared.orderSn with
    | error err => simp only [Proc.attempt_error, eval_ret, Txn.lift_error_bind]
    | ok existing =>
      simp only [Proc.attempt_ok, Txn.lift_ok_bind]
      cases hcheck : checkUpdate existing prepared with
      | error err => simp only [Proc.attempt_error, eval_ret, Txn.lift_error_bind]
      | ok _ =>
        simp only [Proc.attempt_ok, Txn.lift_ok_bind, eval_send, calls, serve, Txn.commit,
          onOrders]

inductive Swept (releases : Releases) (worked : List OrderInfoDO) (before after : OrderInfoDO) :
    Prop
  | kept (spared : cleared releases.clears worked before = false) (same : after = before)
  | closed (hit : cleared releases.clears worked before = true)
    (status : after.status = .tradeClosed) (deleted : after.deleted = before.deleted)
    (orderSn : after.orderSn = before.orderSn)

omit [CaseTable] in
theorem rewriteOrder_swept (update : OrderDTO) (order row : OrderInfoDO)
    (htarget : update.target = .tradeClosed) (hid : update.id = 0)
    (hsn : update.orderSn = trimSpace order.orderSn) (hfree : releases.stuck order = false) :
    Swept releases [order] row (rewriteOrder update now row) := by
  have hclears : cleared releases.clears [order] row = addressed update row := by
    simp [cleared, Releases.clears, hfree, addressed_eq_hasSn hid, hsn]
  by_cases haddressed : addressed update row
  · refine .closed (hclears.trans haddressed) ?_ (rewriteOrder_deleted _ _ _)
      (rewriteOrder_orderSn _ _ _)
    rw [rewriteOrder_status, if_pos haddressed, htarget]
  · refine .kept (hclears.trans (by simpa using haddressed)) ?_
    rw [rewriteOrder, if_neg haddressed]

omit [CaseTable] in
theorem updateBody_swept {order : OrderInfoDO} {db db' : OrderDB}
    (hfree : releases.stuck order = false)
    (h : updateBody (closeRequest order) now db = .ok ((), db')) :
    List.Forall₂ (Swept releases [order]) db.orders db'.orders := by
  obtain ⟨existing, -, -, -, hrun⟩ := updateBody_ok h
  obtain ⟨-, rfl⟩ := updateTxn_ok hrun
  rw [rewriteOrders_eq_map, List.forall₂_map_right_iff, List.forall₂_same]
  intro row _
  refine rewriteOrder_swept _ order row ?_ ?_ ?_ hfree
  · rw [withPayTime_trimmed_target, OrderDTO.trimmed_trimmed, closing_target rfl]
  · rw [withPayTime_eq]
    rfl
  · rw [withPayTime_eq]
    exact GoText.trimSpace_trimSpace _

theorem eval_releaseOrderInventory (releases : Releases) (now : Int) (order : OrderInfoDO)
    (world : World) :
    (eval (calls releases now) (releaseOrderInventory order) world).1.isOk =
        !releases.stuck order ∧
      (eval (calls releases now) (releaseOrderInventory order) world).2.orders = world.orders := by
  by_cases hitems : releaseItems order = []
  · simp [releaseOrderInventory, Releases.stuck, hitems, Except.isOk, Except.toBool]
  · simp [releaseOrderInventory, Releases.stuck, hitems, calls]

omit [CaseTable] in
theorem swept_stuck {order : OrderInfoDO} (h : releases.stuck order = true)
    (rows : List OrderInfoDO) : List.Forall₂ (Swept releases [order]) rows rows := by
  rw [List.forall₂_same]
  intro row _
  exact .kept (by simp [cleared, Releases.clears, h]) rfl

theorem closeNext_swept {order : OrderInfoDO} (h : Closes releases now world order) :
    List.Forall₂ (Swept releases [order]) world.orders.orders
      (closeNext releases now world order).orders.orders := by
  obtain ⟨hanswer, horders⟩ := eval_releaseOrderInventory releases now order world
  unfold Closes close closeExpired at h
  unfold closeNext close closeExpired
  rw [eval_bind] at h ⊢
  generalize eval (calls releases now) (releaseOrderInventory order) world = released
    at hanswer horders h
  obtain ⟨answer, mid⟩ := released
  cases answer with
  | error err =>
    have hstuck : releases.stuck order = true := by simpa [Except.isOk, Except.toBool] using hanswer
    simp only [Proc.attempt_error, eval_ret]
    rw [show mid.orders = world.orders from horders]
    exact swept_stuck hstuck _
  | ok _ =>
    have hfree : releases.stuck order = false := by
      simpa [Except.isOk, Except.toBool] using hanswer
    simp only [Proc.attempt_ok] at h ⊢
    rw [eval_orderUpdate] at h ⊢
    rcases Txn.commit_cases (updateBody (closeRequest order) now) mid.orders with
      ⟨_, db', hrun, hcommit⟩ | ⟨err, -, hcommit⟩
    · simp only [onOrders, closeRequest] at hcommit ⊢
      rw [hcommit]
      rw [show mid.orders = world.orders from horders] at hrun
      exact updateBody_swept hfree hrun
    · simp only [onOrders, closeRequest] at hcommit h
      rw [hcommit] at h
      simp [hfree, Except.isOk, Except.toBool] at h

end Close

section Sweeps

variable {releases : Releases} {now timeout batch : Int} {world : World}

theorem Swept.trans {first second : List OrderInfoDO} {before mid after : OrderInfoDO}
    (h : Swept releases first before mid) (h' : Swept releases second mid after) :
    Swept releases (first ++ second) before after := by
  have hsame (hdeleted : mid.deleted = before.deleted) (hsn : mid.orderSn = before.orderSn) :
      cleared releases.clears second mid = cleared releases.clears second before := by
    simp [cleared, Releases.clears, hasSn, hdeleted, hsn]
  cases h with
  | kept spared same =>
    subst same
    cases h' with
    | kept spared' same' => exact .kept (by rw [cleared_append, spared, spared']; rfl) same'
    | closed hit status deleted orderSn =>
      exact .closed (by rw [cleared_append, hit, Bool.or_true]) status deleted orderSn
  | closed hit status deleted orderSn =>
    have hhit : cleared releases.clears (first ++ second) before = true := by
      rw [cleared_append, hit, Bool.true_or]
    cases h' with
    | kept _ same' => exact same' ▸ .closed hhit status deleted orderSn
    | closed _ status' deleted' orderSn' =>
      exact .closed hhit status' (deleted'.trans deleted) (orderSn'.trans orderSn)

theorem swept_append {first second : List OrderInfoDO} {before mid after : List OrderInfoDO}
    (h : List.Forall₂ (Swept releases first) before mid)
    (h' : List.Forall₂ (Swept releases second) mid after) :
    List.Forall₂ (Swept releases (first ++ second)) before after := by
  induction h generalizing after with
  | nil =>
    cases h'
    exact .nil
  | cons hrow _ ih =>
    cases h' with
    | cons hrow' hrest' => exact .cons (hrow.trans hrow') (ih hrest')

theorem swept_nil (rows : List OrderInfoDO) : List.Forall₂ (Swept releases []) rows rows := by
  rw [List.forall₂_same]
  intro row _
  exact .kept rfl rfl

theorem closeAll_swept [CaseTable] {orders : List OrderInfoDO}
    (h : Along (closeNext releases now) (Closes releases now) world orders) :
    List.Forall₂ (Swept releases orders) world.orders.orders
      (run (closeNext releases now) world orders).orders.orders := by
  induction orders generalizing world with
  | nil => exact swept_nil _
  | cons order rest ih =>
    obtain ⟨hfirst, hrest⟩ := h
    exact swept_append (closeNext_swept hfirst) (ih hrest)

theorem eval_closeAllExpired [CaseTable] (orders : List OrderInfoDO) :
    (eval (calls releases now) (closeAllExpired orders) world).2 =
      run (closeNext releases now) world orders := by
  induction orders generalizing world with
  | nil => rfl
  | cons order rest ih =>
    rw [closeAllExpired, eval_bind]
    exact ih

theorem listCloseCandidates_eq (db : OrderDB) (createdBefore : Int) (batch : Nat)
    (hbatch : 1 ≤ batch) :
    listCloseCandidates db [.waitBuyerPay, .paying] createdBefore batch =
      (expiredOrders db createdBefore).take batch := by
  have hlimit : (positiveOr batch 20).toNat = batch := by
    rw [positiveOr]
    split <;> omega
  rw [listCloseCandidates, hlimit]
  rfl

theorem sweep_eq [CaseTable] : sweep releases timeout batch world now =
    run (closeNext releases now) world
      (listCloseCandidates world.orders [.waitBuyerPay, .paying] (now - timeout) batch) := by
  rw [← eval_closeAllExpired]
  rfl

theorem filter_swept {worked rows rows' : List OrderInfoDO}
    (h : List.Forall₂ (Swept releases worked) rows rows') (createdBefore : Int) :
    rows'.filter (isExpired createdBefore) =
      (rows.filter (isExpired createdBefore)).filter fun row =>
        !cleared releases.clears worked row := by
  induction h with
  | nil => rfl
  | @cons before after _ _ hrow _ ih =>
    rw [List.filter_cons, List.filter_cons, ih]
    cases hrow with
    | kept spared same =>
      subst same
      split
      · rw [List.filter_cons, spared]
        rfl
      · rfl
    | closed hit status _ _ =>
      rw [if_neg (by simp [isExpired, status])]
      split
      · rw [List.filter_cons, hit]
        rfl
      · rfl

theorem expiredOrders_swept {worked : List OrderInfoDO} {db db' : OrderDB}
    (h : List.Forall₂ (Swept releases worked) db.orders db'.orders) (createdBefore : Int) :
    expiredOrders db' createdBefore =
      (expiredOrders db createdBefore).filter fun row => !cleared releases.clears worked row := by
  have : IsTrans OrderInfoDO fun first second => first.addTime ≤ second.addTime :=
    ⟨fun _ _ _ => le_trans⟩
  have : Std.Total fun first second : OrderInfoDO => first.addTime ≤ second.addTime :=
    ⟨fun first second => le_total first.addTime second.addTime⟩
  rw [expiredOrders, filter_swept h, expiredOrders, filter_insertionSort]

theorem clears_trans (first second third : OrderInfoDO) (h : releases.clears first second)
    (h' : releases.clears second third) : releases.clears first third := by
  simp only [Releases.clears, hasSn, Bool.and_eq_true, Bool.not_eq_true', decide_eq_true_eq]
    at h h' ⊢
  refine ⟨h.1, h'.2.1, ?_⟩
  rw [h'.2.2, h.2.2, GoText.trimSpace_trimSpace]

theorem Swept.congr {worked worked' : List OrderInfoDO} {before after : OrderInfoDO}
    (h : Swept releases worked before after)
    (same : cleared releases.clears worked = cleared releases.clears worked') :
    Swept releases worked' before after := by
  cases h with
  | kept spared hrow => exact .kept (same ▸ spared) hrow
  | closed hit status deleted orderSn => exact .closed (same ▸ hit) status deleted orderSn

/-- After some sweeps, closed are the orders that the sweeps have come past, and
those of their numbers. -/
theorem sweeps_swept [CaseTable] {batch : Nat} (hbatch : 1 ≤ batch)
    {expired : List OrderInfoDO}
    {times : List Int}
    (steady : ∀ now ∈ times, expiredOrders world.orders (now - timeout) = expired)
    (h : Along (sweep releases timeout batch) (Succeeds releases timeout batch) world times) :
    List.Forall₂
      (Swept releases (expired.take (reach releases.clears batch expired times.length)))
      world.orders.orders (run (sweep releases timeout batch) world times).orders.orders := by
  induction times using List.reverseRecOn with
  | nil => exact swept_nil _
  | append_singleton done now ih =>
    rw [along_append] at h
    have hdone := ih (fun earlier hearlier => steady earlier (by simp [hearlier])) h.1
    have hleft := expiredOrders_swept hdone (now - timeout)
    rw [steady now (by simp)] at hleft
    have hsweep := closeAll_swept h.2.1
    rw [listCloseCandidates_eq _ _ batch hbatch, hleft] at hsweep
    rw [run_append, run_cons, run_nil, sweep_eq, listCloseCandidates_eq _ _ batch hbatch, hleft,
      List.length_append]
    refine (swept_append hdone hsweep).imp fun before after hrow => hrow.congr ?_
    funext row
    exact (cleared_append _ _ _ _).trans
      (cleared_reach_succ clears_trans batch expired done.length row).symm

def AllClosed (releases : Releases) (createdBefore : Int) (db db' : OrderDB) : Prop :=
  List.Forall₂ (fun before after => isExpired createdBefore before → ¬releases.stuck before →
    after.status = .tradeClosed) db.orders db'.orders

theorem isExpired_not_closed {createdBefore : Int} {row : OrderInfoDO}
    (h : isExpired createdBefore row) : row.status ≠ .tradeClosed := by
  intro hclosed
  simp [isExpired, hclosed] at h

theorem closed_iff_cleared {createdBefore : Int} {worked rows rows' : List OrderInfoDO}
    (h : List.Forall₂ (Swept releases worked) rows rows') :
    List.Forall₂ (fun before after => isExpired createdBefore before → ¬releases.stuck before →
        after.status = .tradeClosed) rows rows' ↔
      ∀ row ∈ rows, isExpired createdBefore row → ¬releases.stuck row →
        cleared releases.clears worked row := by
  induction h with
  | nil => simp
  | cons hrow _ ih =>
    rw [List.forall₂_cons, List.forall_mem_cons, ih]
    refine and_congr ?_ Iff.rfl
    cases hrow with
    | kept spared same =>
      subst same
      constructor
      · intro hclosed hexpired hfree
        exact absurd (hclosed hexpired hfree) (isExpired_not_closed hexpired)
      · intro hcleared hexpired hfree
        exact absurd (hcleared hexpired hfree) (by simp [spared])
    | closed hit status _ _ => exact ⟨fun _ _ _ => hit, fun _ _ _ => status⟩

theorem mem_expiredOrders {db : OrderDB} {createdBefore : Int} {row : OrderInfoDO} :
    row ∈ expiredOrders db createdBefore ↔ row ∈ db.orders ∧ isExpired createdBefore row := by
  rw [expiredOrders, List.mem_insertionSort, List.mem_filter]

/-- As many sweeps as the backlog has batches close every order outside the
stuck ones exactly when the batches come past an order of the number of each. -/
theorem expired_closed_iff [CaseTable] (releases : Releases) (timeout : Int) (batch : Nat)
    (hbatch : 1 ≤ batch) (world : World) (createdBefore : Int) (times : List Int)
    (steady : ∀ now ∈ times,
      expiredOrders world.orders (now - timeout) = expiredOrders world.orders createdBefore)
    (succeed : Along (sweep releases timeout batch) (Succeeds releases timeout batch) world times)
    (hrounds : times.length =
      ((expiredOrders world.orders createdBefore).length + batch - 1) / batch) :
    let expired := expiredOrders world.orders createdBefore
    AllClosed releases createdBefore world.orders
        (run (sweep releases timeout batch) world times).orders ↔
      ∀ order ∈ expired, ¬releases.stuck order → cleared releases.clears
        (expired.take (reach releases.clears batch expired
          ((expired.length + batch - 1) / batch))) order := by
  intro expired
  have hswept := sweeps_swept hbatch steady succeed
  rw [hrounds] at hswept
  simp only [expired, mem_expiredOrders, and_imp]
  exact closed_iff_cleared hswept

def twoUnpaid : World where
  inventory := ⟨[], []⟩
  orders := { noOrders with orders := [{ unpaidOrder "A" with addTime := 10 },
    { unpaidOrder "B" with id := 2, addTime := 20 }] }

def refusing (orderSn : String) : Releases where
  answer number _ := if number = orderSn then .error callFailed else .ok ()
  effect _ _ inventory := inventory

local instance letters : CaseTable := GoText.asciiTable

theorem expired_closed_beside_stuck :
    (expiredOrders twoUnpaid.orders 30).length = 2 ∧
      AllClosed (refusing "A") 30 twoUnpaid.orders
        (run (sweep (refusing "A") 100 2) twoUnpaid [130]).orders :=
  ⟨by decide +kernel,
    (expired_closed_iff (refusing "A") 100 2 (by decide) twoUnpaid 30 [130] (by decide +kernel)
      (by decide +kernel) (by decide +kernel)).mpr (by decide +kernel)⟩

/-- With batches of one, the stuck order is the whole batch of every sweep. -/
theorem expired_starved_behind_stuck :
    (expiredOrders twoUnpaid.orders 30).map (·.orderSn) = ["A", "B"] ∧
      (expiredOrders twoUnpaid.orders 30).map (refusing "A").stuck = [true, false] ∧
      (∀ now ∈ [130, 140], expiredOrders twoUnpaid.orders (now - 100) =
        expiredOrders twoUnpaid.orders 30) ∧
      Along (sweep (refusing "A") 100 1) (Succeeds (refusing "A") 100 1) twoUnpaid [130, 140] ∧
      (run (sweep (refusing "A") 100 1) twoUnpaid [130, 140]).orders.orders.map (·.status) =
        [.waitBuyerPay, .waitBuyerPay] := by
  decide +kernel

end Sweeps

end Goshop.Order.AutoClose
