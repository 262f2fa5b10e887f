import Goshop.Order.Steps
import Mathlib.Data.List.Nodup

/-! What `UpdateOrderStatus` touches. The order is looked up, checked and logged by its
number; the statement that writes the row goes by the key of the request when there is
one. The two need not name the same row. Numbers are compared by their characters, so
what follows is about numbers that the collation of the table tells apart. -/
namespace Goshop.Order.UpdateFrame

open Goshop.Errors Goshop.Lib Goshop.Lib.Transaction
open Goshop.Order.Model Goshop.Order.Data Goshop.Order.Service Goshop.Order.Steps

/-- The message of the order service. The payment time is in seconds. -/
structure OrderStatusInfo where
  id : Int := 0
  orderSn : String
  status : String
  payType : String := ""
  tradeNo : String := ""
  payTime : Int := 0
  actorUserId : Int := 0
  refundAmountFen : Int := 0
  reason : String := ""
  correlationId : String := ""
deriving DecidableEq, Repr

def OrderStatusInfo.dto (info : OrderStatusInfo) : OrderDTO where
  orderSn := info.orderSn
  status := info.status
  payType := info.payType
  tradeNo := info.tradeNo
  statusReason := info.reason
  actorUserID := info.actorUserId
  refundAmountFen := info.refundAmountFen
  correlationID := info.correlationId
  id := if 0 < info.id then info.id else 0
  payTime := if 0 < info.payTime then some (1000 * info.payTime) else none

def updateOrderStatus (info : OrderStatusInfo) (now : Int) :
    OrderDB → Except AppError Unit × OrderDB :=
  Txn.commit (updateBody info.dto now)

/-- Only this order is written, with a status that may follow its own, and only it is
logged. -/
structure TouchesOnly (order : OrderInfoDO) (db db' : OrderDB) : Prop where
  rows : List.Forall₂ (fun row row' => row' = row ∨
    row = order ∧ canTransitionOrderStatus row.status row'.status = true) db.orders db'.orders
  logs : ∀ log ∈ db'.statusLogs, log ∈ db.statusLogs ∨
    log.orderID = order.id ∧ log.orderSn = order.orderSn ∧ log.fromStatus = order.status

def submitted (info : OrderStatusInfo) (now : Int) : OrderDTO :=
  (withPayTime info.dto.trimmed now).trimmed

/-- A key in the request is that of the order. Without one, no other visible row has the
order's number, or holds anything else than what is written. -/
def KeyNames (info : OrderStatusInfo) (now : Int) (order : OrderInfoDO) (db : OrderDB) : Prop :=
  (0 < info.id → info.id = order.id) ∧ (info.id ≤ 0 → ∀ row ∈ db.orders,
    hasSn order.orderSn row → row = order ∨ written (submitted info now) now row = row)

section Update

variable {info : OrderStatusInfo} {now : Int} {db db' : OrderDB}

theorem submitted_target (info : OrderStatusInfo) (now : Int) :
    (submitted info now).target = info.dto.trimmed.target := by
  rw [submitted, withPayTime_trimmed_target, OrderDTO.trimmed_trimmed]

theorem submitted_addressed (info : OrderStatusInfo) (now : Int) (row : OrderInfoDO) :
    addressed (submitted info now) row ↔ row.deleted = false ∧
      if 0 < info.id then row.id = info.id else row.orderSn = GoText.trimSpace info.orderSn := by
  rw [submitted, addressed_withPayTime, OrderDTO.trimmed_trimmed]
  by_cases hid : 0 < info.id <;> simp [addressed, OrderDTO.trimmed, OrderStatusInfo.dto, hid]

theorem ordersUpdate_changed {order : OrderDTO} (h : ordersUpdate order now db = .ok ((), db')) :
    ∃ row ∈ db.orders, rewriteOrder order.trimmed now row ≠ row := by
  obtain ⟨-, rfl⟩ := ordersUpdate_ok h
  simp only [ordersUpdate, Txn.guard_bind_ok, Txn.read_bind, Txn.lift_bind_ok, Txn.write_bind,
    Txn.guard_ok] at h
  obtain ⟨-, -, rows, hrows, haffected, -⟩ := h
  simp only [decide_eq_true_eq, Sql.update_eq_map (fun row row' hrow => storeWritten_ok hrow) hrows,
    Sql.affected_map_ne_zero] at haffected
  exact haffected

structure Updated (info : OrderStatusInfo) (now : Int) (order : OrderInfoDO) (db db' : OrderDB) :
    Prop where
  found : findOrder db (GoText.trimSpace info.orderSn) = some order
  allowed : canTransitionOrderStatus order.status (submitted info now).target = true
  changed : ∃ row ∈ db.orders, rewriteOrder (submitted info now) now row ≠ row
  orders : db'.orders = db.orders.map (rewriteOrder (submitted info now) now)
  logs : db'.statusLogs = db.statusLogs ++ transitionLogs order info.dto.trimmed now db

theorem updateOrderStatus_ok (h : updateOrderStatus info now db = (.ok (), db')) :
    ∃ order, Updated info now order db db' := by
  rcases Txn.commit_cases (updateBody info.dto now) db with
    ⟨⟨⟩, after, hrun, hcommit⟩ | ⟨err, -, hcommit⟩
  · rw [updateOrderStatus, hcommit] at h
    cases h
    obtain ⟨order, hget, -, hcheck, htxn⟩ := updateBody_ok hrun
    have hfound := ordersGet_ok hget
    have hchanged : ∃ row ∈ db.orders, rewriteOrder (submitted info now) now row ≠ row := by
      rw [updateTxn, Txn.bind_ok] at htxn
      obtain ⟨⟨⟩, updated, hupdate, -⟩ := htxn
      exact ordersUpdate_changed hupdate
    obtain ⟨-, rfl⟩ := updateTxn_ok htxn
    refine ⟨order, ?_, ?_, hchanged, rfl, rfl⟩
    · simpa [OrderDTO.trimmed, OrderStatusInfo.dto] using hfound
    · rw [submitted_target]
      exact checkUpdate_transition hcheck
  · rw [updateOrderStatus, hcommit] at h
    cases h

theorem Updated.logged {order : OrderInfoDO} (updated : Updated info now order db db') :
    ∀ log ∈ db'.statusLogs, log ∈ db.statusLogs ∨
      log.orderID = order.id ∧ log.orderSn = order.orderSn ∧ log.fromStatus = order.status := by
  intro log hlog
  rw [updated.logs] at hlog
  rcases List.mem_append.mp hlog with hold | hnew
  · exact .inl hold
  · unfold transitionLogs at hnew
    split at hnew
    · rw [List.mem_singleton.mp hnew]
      exact .inr ⟨rfl, rfl, rfl⟩
    · simp at hnew

theorem Updated.touchesOnly_iff {order : OrderInfoDO} (updated : Updated info now order db db') :
    TouchesOnly order db db' ↔
      ∀ row ∈ db.orders, rewriteOrder (submitted info now) now row ≠ row → row = order := by
  constructor
  · intro touches row hrow hchanged
    have hrows := touches.rows
    rw [updated.orders, List.forall₂_map_right_iff, List.forall₂_same] at hrows
    exact ((hrows row hrow).resolve_left hchanged).1
  · intro only
    refine ⟨?_, updated.logged⟩
    rw [updated.orders, List.forall₂_map_right_iff, List.forall₂_same]
    intro row hrow
    by_cases hchanged : rewriteOrder (submitted info now) now row = row
    · exact .inl hchanged
    · have hsame := only row hrow hchanged
      have haddressed : addressed (submitted info now) row = true := by
        by_contra hnot
        exact hchanged (if_neg hnot)
      refine .inr ⟨hsame, ?_⟩
      rw [rewriteOrder_status, if_pos haddressed, hsame]
      exact updated.allowed

theorem rewriteOrder_changed {order : OrderDTO} {row : OrderInfoDO} :
    rewriteOrder order now row ≠ row ↔
      addressed order row = true ∧ written order now row ≠ row := by
  unfold rewriteOrder
  split
  · rename_i haddressed
    simp [haddressed]
  · rename_i hnot
    simp [hnot]

end Update

/-- A successful `UpdateOrderStatus` touches the order of its number and nothing else, if
and only if its key, or the lack of one, names that order. -/
theorem update_touches_named_iff {info : OrderStatusInfo} {now : Int} {db db' : OrderDB}
    (hkeys : (db.orders.map (·.id)).Nodup)
    (h : updateOrderStatus info now db = (.ok (), db')) :
    ∃ order, findOrder db (GoText.trimSpace info.orderSn) = some order ∧
      (TouchesOnly order db db' ↔ KeyNames info now order db) := by
  obtain ⟨order, updated⟩ := updateOrderStatus_ok h
  obtain ⟨horder, hvisible, hsn⟩ := findOrder_some updated.found
  refine ⟨order, updated.found, updated.touchesOnly_iff.trans ?_⟩
  simp only [rewriteOrder_changed, submitted_addressed]
  by_cases hid : 0 < info.id
  · simp only [KeyNames, hid, if_true, Int.not_le.mpr hid, true_implies, false_implies, and_true]
    constructor
    · intro only
      obtain ⟨row, hrow, hchanged⟩ := updated.changed
      rw [rewriteOrder_changed, submitted_addressed, if_pos hid] at hchanged
      rw [← only row hrow hchanged, hchanged.1.2]
    · rintro hsame row hrow ⟨⟨-, hrowId⟩, -⟩
      exact List.inj_on_of_nodup_map hkeys hrow horder (hrowId.trans hsame)
  · have hid' := Int.not_lt.mp hid
    simp only [KeyNames, hid, hid', if_false, false_implies, true_implies, true_and, ← hsn]
    refine forall₂_congr fun row hrow => ?_
    simp only [hasSn, Bool.and_eq_true, Bool.not_eq_true', decide_eq_true_eq]
    rw [and_imp, or_iff_not_imp_right]

def twoOrders : OrderDB :=
  { noOrders with orders :=
    [⟨1, 5, "A", "", .waitBuyerPay, "", 100, "", none, "", "", "", "", [], 0, 0, false⟩,
      ⟨2, 5, "B", "", .tradeClosed, "", 100, "", none, "", "", "", "", [], 0, 0, false⟩] }

/-- The payment of order A, sent with the key of order B, marks the closed order B as
paid and logs it for A. -/
theorem foreign_key_pays_closed_order :
    let result := updateOrderStatus
      { id := 2, orderSn := "A", status := "TRADE_SUCCESS", tradeNo := "T1" } 10 twoOrders
    result.1 = .ok () ∧
      result.2.orders.map (fun row => (row.orderSn, row.status)) =
        [("A", .waitBuyerPay), ("B", .tradeSuccess)] ∧
      canTransitionOrderStatus .tradeClosed .tradeSuccess = false ∧
      result.2.statusLogs.map (fun log => (log.orderID, log.orderSn, log.toStatus)) =
        [(1, "A", .tradeSuccess)] := by
  decide +kernel

/-- The same payment without a key. -/
theorem update_touches_named_by_number :
    let info : OrderStatusInfo := { orderSn := " A ", status := "TRADE_SUCCESS", tradeNo := "T1" }
    let result := updateOrderStatus info 10 twoOrders
    result.1 = .ok () ∧ ∃ order, findOrder twoOrders "A" = some order ∧
      TouchesOnly order twoOrders result.2 := by
  have hok : (updateOrderStatus { orderSn := " A ", status := "TRADE_SUCCESS", tradeNo := "T1" } 10
      twoOrders).1 = .ok () := by decide +kernel
  obtain ⟨order, hfound, hiff⟩ := update_touches_named_iff (by decide) (Prod.ext hok rfl)
  refine ⟨hok, order, hfound, hiff.mpr ?_⟩
  have horder : order = ⟨1, 5, "A", "", .waitBuyerPay, "", 100, "", none, "", "", "", "", [], 0, 0,
      false⟩ := Option.some.inj (hfound.symm.trans (by decide +kernel))
  rw [horder]
  unfold KeyNames
  decide +kernel

end Goshop.Order.UpdateFrame
