import Goshop.Lib.Journal
import Goshop.Lib.Run
import Goshop.Order.PaymentSteps

/-! The calls that write orders, one after the other, and the audit trail that they
leave: the status log of an order replays how it came to its stored status. -/
namespace Goshop.Order.History

open Goshop.Errors Goshop.Lib Goshop.Lib.Transaction Goshop.Lib.Run
open Goshop.Order.Model Goshop.Order.Data Goshop.Order.Service Goshop.Order.Payment
open Goshop.Order.Steps Goshop.Order.PaymentSteps
open Goshop.Lib.GoText (CaseTable trimSpace)

section Calls

/-- A call of the order service, with the answer of the goods service where it asks
for one. -/
inductive Call where
  | create (goods : Except AppError (List GoodsInfo)) (order : OrderDTO)
  | createCom (orderSn : String)
  | update (order : OrderDTO)
  | completeRefundJob (id : Int) (result : RefundResult) (maxAttempts : Int)
  | retryDeadRefundJob (id : Int)

def exec [CaseTable] (db : OrderDB) (label : Call × Int) : OrderDB :=
  match label.1 with
  | .create goods order => ((createBody goods order label.2).commit db).2
  | .createCom orderSn => ((createComBody orderSn label.2).commit db).2
  | .update order => ((updateBody order label.2).commit db).2
  | .completeRefundJob id result maxAttempts =>
    (completeRefundJob id result maxAttempts label.2 db).2
  | .retryDeadRefundJob id => (retryDeadRefundJob id label.2 db).2

/-- An `Update` names its order by number and not by key. -/
def ByNumber : Call → Prop
  | .update order => order.id = 0
  | _ => True

end Calls

section Trail

def states (rows : List OrderInfoDO) : List (Int × OrderStatus) :=
  rows.map fun row => (row.id, row.status)

def trail (db : OrderDB) (id : Int) : List OrderStatusLogDO :=
  Journal.history (·.orderID) id db.statusLogs

/-- The entries start with no status, each goes on where the one before has ended, each
is a move of the state machine, and the last one ends at the status. -/
def Replays (entries : List OrderStatusLogDO) (status : OrderStatus) : Prop :=
  Journal.Tells (·.fromStatus) (·.toStatus) (canTransitionOrderStatus · ·) .blank entries status

structure Consistent (db : OrderDB) : Prop where
  faithful : Journal.Faithful (·.orderID) (·.fromStatus) (·.toStatus)
    (canTransitionOrderStatus · ·) .blank db.statusLogs (states db.orders)
  single : ∀ row ∈ db.orders, ∀ other ∈ db.orders, row.deleted = false → other.deleted = false →
    row.orderSn = other.orderSn → row.id = other.id
  trimmed : ∀ row ∈ db.orders, row.status.trim = row.status

variable {db db' : OrderDB}

theorem Consistent.keys (h : Consistent db) : (db.orders.map (·.id)).Nodup := by
  have hkeys := h.faithful.keys
  rwa [states, List.map_map] at hkeys

theorem Consistent.found {orderSn : String} {order row : OrderInfoDO} (h : Consistent db)
    (hfind : findOrder db orderSn = some order) (hrow : row ∈ db.orders) :
    row.id = order.id ↔ hasSn orderSn row := by
  obtain ⟨horder, hvisible, hsn⟩ := findOrder_some hfind
  constructor
  · intro hid
    rw [List.inj_on_of_nodup_map h.keys hrow horder hid]
    exact List.find?_some hfind
  · intro hhas
    simp only [hasSn, Bool.and_eq_true, Bool.not_eq_true', decide_eq_true_eq] at hhas
    exact h.single row hrow order horder hhas.1 hvisible (hhas.2.trans hsn.symm)

theorem Consistent.found_eq {orderSn : String} {order row : OrderInfoDO} (h : Consistent db)
    (hfind : findOrder db orderSn = some order) (hrow : row ∈ db.orders)
    (hhas : hasSn orderSn row) : row = order :=
  List.inj_on_of_nodup_map h.keys hrow (findOrder_some hfind).1 ((h.found hfind hrow).mpr hhas)

theorem Consistent.rewrite {f : OrderInfoDO → OrderInfoDO} (h : Consistent db)
    (horders : db'.orders = db.orders.map f) (hid : ∀ row, (f row).id = row.id)
    (hsn : ∀ row, (f row).orderSn = row.orderSn)
    (hdeleted : ∀ row, (f row).deleted = false → row.deleted = false)
    (htrim : ∀ row ∈ db.orders, (f row).status.trim = (f row).status)
    (hfaithful : Journal.Faithful (·.orderID) (·.fromStatus) (·.toStatus)
      (canTransitionOrderStatus · ·) .blank db'.statusLogs (states (db.orders.map f))) :
    Consistent db' := by
  constructor
  case faithful => rwa [horders]
  case single =>
    rw [horders]
    intro row hrow other hother hrowVisible hotherVisible hsame
    obtain ⟨first, hfirst, rfl⟩ := List.mem_map.mp hrow
    obtain ⟨second, hsecond, rfl⟩ := List.mem_map.mp hother
    rw [hsn, hsn] at hsame
    rw [hid, hid]
    exact h.single first hfirst second hsecond (hdeleted first hrowVisible)
      (hdeleted second hotherVisible) hsame
  case trimmed =>
    rw [horders]
    intro row hrow
    obtain ⟨before, hbefore, rfl⟩ := List.mem_map.mp hrow
    exact htrim before hbefore

theorem Consistent.keep {f : OrderInfoDO → OrderInfoDO} (h : Consistent db)
    (horders : db'.orders = db.orders.map f) (hlogs : db'.statusLogs = db.statusLogs)
    (hid : ∀ row, (f row).id = row.id) (hsn : ∀ row, (f row).orderSn = row.orderSn)
    (hdeleted : ∀ row, (f row).deleted = false → row.deleted = false)
    (hstatus : ∀ row ∈ db.orders, (f row).status = row.status) : Consistent db' := by
  apply h.rewrite horders hid hsn hdeleted
  · intro row hrow
    rw [hstatus row hrow, h.trimmed row hrow]
  · have hstates : states (db.orders.map f) = states db.orders := by
      unfold states
      rw [List.map_map]
      apply List.map_congr_left
      intro row hrow
      simp [hid, hstatus row hrow]
    rw [hlogs, hstates]
    exact h.faithful

theorem Consistent.move {f : OrderInfoDO → OrderInfoDO} {entry : OrderStatusLogDO}
    {order : OrderInfoDO} {orderSn : String} (h : Consistent db)
    (hfind : findOrder db orderSn = some order)
    (horders : db'.orders = db.orders.map f) (hlogs : db'.statusLogs = db.statusLogs ++ [entry])
    (hid : ∀ row, (f row).id = row.id) (hsn : ∀ row, (f row).orderSn = row.orderSn)
    (hdeleted : ∀ row, (f row).deleted = false → row.deleted = false)
    (hmoved : ∀ row ∈ db.orders, hasSn orderSn row → (f row).status = entry.toStatus)
    (hkept : ∀ row ∈ db.orders, ¬hasSn orderSn row → (f row).status = row.status)
    (howner : entry.orderID = order.id) (hsource : entry.fromStatus = order.status)
    (htrim : entry.toStatus.trim = entry.toStatus)
    (hallowed : canTransitionOrderStatus entry.fromStatus entry.toStatus = true) :
    Consistent db' := by
  have hstatus (row : OrderInfoDO) (hrow : row ∈ db.orders) :
      (f row).status = if row.id = entry.orderID then entry.toStatus else row.status := by
    rw [howner]
    split
    next hsame => exact hmoved row hrow ((h.found hfind hrow).mp hsame)
    next hother => exact hkept row hrow fun hhas => hother ((h.found hfind hrow).mpr hhas)
  apply h.rewrite horders hid hsn hdeleted
  · intro row hrow
    rw [hstatus row hrow]
    split
    · exact htrim
    · exact h.trimmed row hrow
  · have hstates : states (db.orders.map f) = (states db.orders).map fun object =>
        if object.1 = entry.orderID then (object.1, entry.toStatus) else object := by
      unfold states
      rw [List.map_map, List.map_map]
      apply List.map_congr_left
      intro row hrow
      simp only [Function.comp_apply, hid, hstatus row hrow]
      split <;> rfl
    rw [hlogs, hstates]
    apply h.faithful.move _ hallowed
    rw [howner, hsource]
    exact List.mem_map_of_mem (findOrder_some hfind).1

end Trail

section Steps

variable {db db' : OrderDB} {now : Int}

theorem trim_normalizeInitialOrderStatus (status : String) :
    (OrderStatus.ofText (normalizeInitialOrderStatus status)).trim =
      .ofText (normalizeInitialOrderStatus status) := by
  have htrim : trimSpace (normalizeInitialOrderStatus status) =
      normalizeInitialOrderStatus status := by
    unfold normalizeInitialOrderStatus
    split
    · decide +kernel
    · exact GoText.trimSpace_trimSpace status
  simp only [OrderStatus.trim, OrderStatus.text_ofText, htrim]

theorem states_append (rows : List OrderInfoDO) (row : OrderInfoDO) :
    states (rows ++ [row]) = states rows ++ [(row.id, row.status)] :=
  List.map_append

theorem Consistent.enter {row : OrderInfoDO} {entry : OrderStatusLogDO} (h : Consistent db)
    (horders : db'.orders = db.orders ++ [row])
    (hlogs : db'.statusLogs = db.statusLogs ++ [entry])
    (hnone : findOrder db row.orderSn = none) (hkey : row.id ∉ db.orders.map (·.id))
    (hstatus : row.status.trim = row.status) (howner : entry.orderID = row.id)
    (hsource : entry.fromStatus = .blank) (htarget : entry.toStatus = row.status) :
    Consistent db' := by
  have habsent (other : OrderInfoDO) (hother : other ∈ db.orders)
      (hvisible : other.deleted = false) :
      other.orderSn ≠ row.orderSn := by
    intro hsame
    have hmiss := List.find?_eq_none.mp hnone other hother
    simp [hasSn, hvisible, hsame] at hmiss
  constructor
  case faithful =>
    rw [horders, hlogs, states_append, ← howner, ← htarget]
    apply h.faithful.enter _ hsource
    · rw [hsource]
      simp [canTransitionOrderStatus, show OrderStatus.blank.trim = .blank from rfl]
    · rwa [howner, states, List.map_map]
  case single =>
    rw [horders]
    intro first hfirst second hsecond hfirstVisible hsecondVisible hsame
    rw [List.mem_append, List.mem_singleton] at hfirst hsecond
    obtain hfirst | rfl := hfirst <;> obtain hsecond | rfl := hsecond
    · exact h.single first hfirst second hsecond hfirstVisible hsecondVisible hsame
    · exact absurd hsame (habsent first hfirst hfirstVisible)
    · exact absurd hsame.symm (habsent second hsecond hsecondVisible)
    · rfl
  case trimmed =>
    rw [horders]
    intro other hother
    rw [List.mem_append, List.mem_singleton] at hother
    obtain hother | rfl := hother
    · exact h.trimmed other hother
    · exact hstatus

theorem createBody_consistent {goods : Except AppError (List GoodsInfo)} {order : OrderDTO}
    (h : Consistent db) (hrun : createBody goods order now db = .ok ((), db')) :
    Consistent db' := by
  obtain ⟨prepared, hprepared, ⟨existing, -, -, rfl⟩ | ⟨hnone, answer, priced, -, hpriced, hrun⟩⟩ :=
    createBody_cases hrun
  · exact h
  obtain ⟨-, -, rfl⟩ := prepareCreate_ok hprepared
  obtain ⟨-, final, -, rfl⟩ := priceOrder_ok hpriced
  obtain ⟨-, rfl⟩ := createTxn_ok hrun
  refine h.enter rfl rfl ?_ ?_ ?_ ?_ ?_ ?_
  · simp only [newOrder, GoText.trimSpace_trimSpace]
    exact hnone
  · simp only [newOrder]
    intro hmem
    exact Int.lt_irrefl _ (Sql.lt_nextId hmem)
  · simp only [newOrder, OrderDTO.target, trim_normalizeInitialOrderStatus]
  · simp only [createdLog, newStatusLog, newOrder]
  · simp only [createdLog, newStatusLog]
  · simp only [createdLog, newStatusLog, newOrder, OrderDTO.target]

theorem transitionLogs_cases (existing : OrderInfoDO) (order : OrderDTO) (now : Int)
    (db : OrderDB) :
    (existing.status.trim = order.target.trim ∧ transitionLogs existing order now db = []) ∨
      ∃ entry, transitionLogs existing order now db = [entry] ∧ entry.orderID = existing.id ∧
        entry.fromStatus = existing.status ∧ entry.toStatus = order.target := by
  unfold transitionLogs
  split
  · exact .inr ⟨_, rfl, rfl, rfl, rfl⟩
  next hsame => exact .inl ⟨by simpa using hsame, rfl⟩

theorem Consistent.written {f : OrderInfoDO → OrderInfoDO} {orderSn : String}
    {existing : OrderInfoDO} {target : OrderStatus} {logs : List OrderStatusLogDO}
    (h : Consistent db) (hfind : findOrder db orderSn = some existing)
    (hid : ∀ row, (f row).id = row.id) (hsn : ∀ row, (f row).orderSn = row.orderSn)
    (hdeleted : ∀ row, (f row).deleted = row.deleted)
    (hstatus : ∀ row ∈ db.orders,
      (f row).status = if hasSn orderSn row then target else row.status)
    (htrim : target.trim = target)
    (hallowed : canTransitionOrderStatus existing.status target = true)
    (hlogs : (existing.status.trim = target.trim ∧ logs = []) ∨
      ∃ entry, logs = [entry] ∧ entry.orderID = existing.id ∧
        entry.fromStatus = existing.status ∧ entry.toStatus = target)
    (horders : db'.orders = db.orders.map f) (hlog : db'.statusLogs = db.statusLogs ++ logs) :
    Consistent db' := by
  obtain ⟨hsame, rfl⟩ | ⟨entry, rfl, howner, hsource, rfl⟩ := hlogs
  · rw [List.append_nil] at hlog
    apply h.keep horders hlog hid hsn fun row => by rw [hdeleted]; exact fun hrow => hrow
    intro row hrow
    rw [hstatus row hrow]
    split
    next hhas =>
      obtain rfl := h.found_eq hfind hrow hhas
      rw [← htrim, ← hsame, h.trimmed row hrow]
    next => rfl
  · apply h.move hfind horders hlog hid hsn (fun row => by rw [hdeleted]; exact fun hrow => hrow)
      _ _ howner hsource htrim (hsource ▸ hallowed)
    · intro row hrow hhas
      rw [hstatus row hrow, if_pos hhas]
    · intro row hrow hhas
      rw [hstatus row hrow, if_neg hhas]

theorem updateBody_consistent {order : OrderDTO} (h : Consistent db) (hid : order.id = 0)
    (hrun : updateBody order now db = .ok ((), db')) : Consistent db' := by
  obtain ⟨existing, hget, hvalid, hcheck, hrun⟩ := updateBody_ok hrun
  obtain ⟨-, rfl⟩ := updateTxn_ok hrun
  have hfind := ordersGet_ok hget
  rw [show trimSpace order.trimmed.orderSn = order.trimmed.orderSn from
    GoText.trimSpace_trimSpace _] at hfind
  have haddressed : addressed (withPayTime order.trimmed now).trimmed =
      hasSn order.trimmed.orderSn := by
    rw [addressed_withPayTime, OrderDTO.trimmed_trimmed]
    exact addressed_eq_hasSn hid
  have htarget := withPayTime_trimmed_target order.trimmed now
  rw [OrderDTO.trimmed_trimmed] at htarget
  refine h.written hfind (rewriteOrder_id _ now) (rewriteOrder_orderSn _ now)
    (rewriteOrder_deleted _ now) ?_ (OrderStatus.trim_valid hvalid) (checkUpdate_transition hcheck)
    (transitionLogs_cases existing order.trimmed now db) (rewriteOrders_eq_map _ now db.orders) rfl
  intro row _
  rw [rewriteOrder_status, haddressed, htarget]

theorem createComBody_consistent {orderSn : String} (h : Consistent db)
    (hrun : createComBody orderSn now db = .ok ((), db')) : Consistent db' := by
  by_cases hblank : trimSpace orderSn = ""
  · rw [createComBody_blank hblank] at hrun
    cases hrun
    exact h
  rw [createComBody_run hblank] at hrun
  cases hrun
  cases hfind : findOrder db (trimSpace orderSn) with
  | none =>
    refine h.keep ?_ rfl (fun _ => rfl) (fun _ => rfl) (fun _ hvisible => hvisible) (fun _ _ => rfl)
    simp only [hideFound, hfind]
    exact (List.map_id _).symm
  | some order =>
    refine h.keep (by simp only [hideFound, hfind]; rfl) rfl ?_ ?_ ?_ ?_
    · intro row
      split <;> rfl
    · intro row
      split <;> rfl
    · intro row
      split
      · simp
      · exact fun hvisible => hvisible
    · intro row _
      split <;> rfl

theorem refundMove_consistent {orders : List OrderInfoDO} {logs : List OrderStatusLogDO}
    (h : Consistent db) (hmove : RefundMove db orders logs) (horders : db'.orders = orders)
    (hlogs : db'.statusLogs = logs) : Consistent db' := by
  cases hmove with
  | stay =>
    refine h.keep ?_ hlogs (fun _ => rfl) (fun _ => rfl) (fun _ hvisible => hvisible)
      (fun _ _ => rfl)
    rw [horders]
    exact (List.map_id _).symm
  | @move order target id now reason hfind hvalid hallowed =>
    refine h.written hfind ?_ ?_ ?_ ?_ (OrderStatus.trim_valid hvalid) hallowed
      (.inr ⟨_, rfl, rfl, rfl, rfl⟩) horders hlogs
    · intro row
      split <;> rfl
    · intro row
      split <;> rfl
    · intro row
      split <;> rfl
    · intro row hrow
      have hsame := h.found hfind hrow
      by_cases hhas : hasSn order.orderSn row
      · have hvisible : !row.deleted := by
          simp only [hasSn, Bool.and_eq_true] at hhas
          exact hhas.1
        rw [if_pos hhas, if_pos ⟨hvisible, hsame.mpr hhas⟩]
      · rw [if_neg hhas, if_neg fun hboth => hhas (hsame.mp hboth.2)]

/-- The step lemma: every call keeps the tables consistent. -/
theorem exec_consistent [CaseTable] {label : Call × Int} (hnumber : ByNumber label.1)
    (h : Consistent db) :
    Consistent (exec db label) := by
  obtain ⟨call, now⟩ := label
  cases call with
  | create goods order =>
    exact Txn.commit_preserves h fun _ _ hrun => createBody_consistent h hrun
  | createCom orderSn =>
    exact Txn.commit_preserves h fun _ _ hrun => createComBody_consistent h hrun
  | update order =>
    exact Txn.commit_preserves h fun _ _ hrun => updateBody_consistent h hnumber hrun
  | completeRefundJob id result maxAttempts =>
    refine Txn.commit_preserves h fun _ db' hrun => ?_
    obtain ⟨job, detail, orders, logs, outbox, -, hmove, -, rfl⟩ := completeRefundBody_ok hrun
    exact refundMove_consistent h hmove rfl rfl
  | retryDeadRefundJob id =>
    refine Txn.commit_preserves h fun _ db' hrun => ?_
    obtain ⟨dead, refund, orders, logs, outbox, -, -, hmove, rfl⟩ := retryDeadBody_ok hrun
    exact refundMove_consistent h hmove rfl rfl

end Steps

/-- After any calls that do not overlap, the log of every order replays how it came to
its stored status. -/
theorem audit_trail_replays [CaseTable] (start : OrderDB) (calls : List (Call × Int))
    (consistent : Consistent start) (byNumber : ∀ label ∈ calls, ByNumber label.1) :
    ∀ row ∈ (run exec start calls).orders,
      Replays (trail (run exec start calls) row.id) row.status := by
  have hend : Consistent (run exec start calls) := by
    apply run_invariant_of_mem _ consistent
    intro db label hlabel hdb
    exact exec_consistent (byNumber label hlabel) hdb
  intro row hrow
  exact hend.faithful.tells (row.id, row.status) (List.mem_map_of_mem hrow)

def sampleCalls : List (Call × Int) :=
  [(.create (.ok [{ id := 1, shopPriceFen := 500, storeID := "north" }])
      { user := 7, orderSn := "sn", orderGoods := [{ goods := 1, nums := 2 }] }, 0),
    (.update { orderSn := "sn", status := "TRADE_SUCCESS", tradeNo := "t" }, 1),
    (.update { orderSn := "sn", status := "TRADE_SUCCESS", tradeNo := "t2" }, 2),
    (.update
      { orderSn := "sn", status := "REFUND_PENDING", actorUserID := 7, refundAmountFen := 10
        statusReason := "broken", correlationID := "c" }, 3)]

local instance letters : CaseTable := GoText.asciiTable

theorem audit_trail_replays_sample :
    (run exec noOrders sampleCalls).statusLogs.map (fun log => (log.fromStatus, log.toStatus)) =
      [(.blank, .waitBuyerPay), (.waitBuyerPay, .tradeSuccess), (.tradeSuccess, .refundPending)] ∧
    ∀ row ∈ (run exec noOrders sampleCalls).orders,
      Replays (trail (run exec noOrders sampleCalls) row.id) row.status := by
  refine ⟨by decide +kernel, audit_trail_replays noOrders sampleCalls ?_ ?_⟩
  · exact ⟨⟨List.nodup_nil, by simp [noOrders], by simp [noOrders, states]⟩, by simp [noOrders],
      by simp [noOrders]⟩
  · simp [sampleCalls, ByNumber]

end Goshop.Order.History
