import Goshop.Order.Service

/-! What the statements and the transactions of the order service do to its
tables when they succeed. -/
namespace Goshop.Order.Steps

open Goshop.Errors Goshop.Lib Goshop.Lib.Transaction
open Goshop.Order.Model Goshop.Order.Data Goshop.Order.Service
open Goshop.Lib.GoText (trimSpace)

section Status

private theorem ite_text {text known rest : String} (h : rest = text) :
    (if text = known then known else rest) = text := by
  split
  · rename_i hknown
    exact hknown.symm
  · exact h

@[simp] theorem OrderStatus.text_ofText (text : String) : (OrderStatus.ofText text).text = text := by
  simp only [OrderStatus.ofText, apply_ite OrderStatus.text]
  iterate 8 apply ite_text
  rfl

theorem OrderStatus.trim_valid {status : OrderStatus} (h : isValidOrderStatus status) :
    status.trim = status := by
  cases status with
  | other text => simp [isValidOrderStatus] at h
  | _ => rfl

@[simp] theorem canTransitionOrderStatus_self (status : OrderStatus) :
    canTransitionOrderStatus status status = true := by
  simp [canTransitionOrderStatus]

end Status

section Lookup

variable {db : OrderDB} {orderSn : String}

theorem ordersGet_ok {order : OrderInfoDO} (h : ordersGet db orderSn = .ok order) :
    findOrder db (trimSpace orderSn) = some order := by
  simp only [ordersGet] at h
  split at h
  · cases h
  · split at h
    · rename_i found hfound
      cases h
      exact hfound
    · cases h

theorem ordersGet_error {err : AppError} (h : ordersGet db orderSn = .error err)
    (hsn : trimSpace orderSn ≠ "") :
    err.code = .errOrderNotFound ∧ findOrder db (trimSpace orderSn) = none := by
  simp only [ordersGet, if_neg hsn] at h
  split at h
  · cases h
  · rename_i hnone
    cases h
    exact ⟨rfl, hnone⟩

theorem findOrder_some {order : OrderInfoDO} (h : findOrder db orderSn = some order) :
    order ∈ db.orders ∧ order.deleted = false ∧ order.orderSn = orderSn := by
  have hmatch := List.find?_some h
  simp only [hasSn, Bool.and_eq_true, Bool.not_eq_true', decide_eq_true_eq] at hmatch
  exact ⟨List.mem_of_find?_eq_some h, hmatch⟩

end Lookup

section Statements

variable {order : OrderDTO} {now : Int} {db db' : OrderDB}

theorem OrderDTO.trimmed_id (order : OrderDTO) : order.trimmed.id = order.id := by
  simp only [OrderDTO.trimmed]

theorem OrderDTO.trimmed_refundAmountFen (order : OrderDTO) :
    order.trimmed.refundAmountFen = order.refundAmountFen := by
  simp only [OrderDTO.trimmed]

@[simp] theorem OrderDTO.trimmed_trimmed (order : OrderDTO) :
    order.trimmed.trimmed = order.trimmed := by
  simp [OrderDTO.trimmed]

theorem closing_target {order : OrderDTO} (h : order.status = OrderStatus.tradeClosed.text) :
    order.trimmed.target = .tradeClosed := by
  rw [OrderDTO.target, OrderDTO.trimmed, h]
  exact OrderStatus.trim_valid rfl

theorem storeWritten_run (row : OrderInfoDO)
    (h : (Sql.fitsVarchar 20 order.payType && Sql.fitsVarchar 100 order.tradeNo) = true) :
    storeWritten order now row = .ok (written order now row) :=
  if_pos h

theorem storeWritten_ok {row row' : OrderInfoDO} (h : storeWritten order now row = .ok row') :
    row' = written order now row := by
  unfold storeWritten at h
  split at h
  · cases h
    rfl
  · cases h

theorem written_status (order : OrderDTO) (now : Int) (row : OrderInfoDO) :
    (written order now row).status = order.target := rfl

def rewriteOrder (order : OrderDTO) (now : Int) (row : OrderInfoDO) : OrderInfoDO :=
  if addressed order row then written order now row else row

@[simp] theorem rewriteOrder_id (order : OrderDTO) (now : Int) (row : OrderInfoDO) :
    (rewriteOrder order now row).id = row.id := by
  unfold rewriteOrder
  split <;> rfl

@[simp] theorem rewriteOrder_orderSn (order : OrderDTO) (now : Int) (row : OrderInfoDO) :
    (rewriteOrder order now row).orderSn = row.orderSn := by
  unfold rewriteOrder
  split <;> rfl

@[simp] theorem rewriteOrder_deleted (order : OrderDTO) (now : Int) (row : OrderInfoDO) :
    (rewriteOrder order now row).deleted = row.deleted := by
  unfold rewriteOrder
  split <;> rfl

theorem rewriteOrder_status (order : OrderDTO) (now : Int) (row : OrderInfoDO) :
    (rewriteOrder order now row).status =
      if addressed order row then order.target else row.status := by
  unfold rewriteOrder
  split <;> rfl

def rewriteOrders (order : OrderDTO) (now : Int) (rows : List OrderInfoDO) : List OrderInfoDO :=
  rows.map fun row => if addressed order row then written order now row else row

theorem rewriteOrders_eq_map (order : OrderDTO) (now : Int) (rows : List OrderInfoDO) :
    rewriteOrders order now rows = rows.map (rewriteOrder order now) := rfl

theorem addressed_eq_hasSn (hid : order.id = 0) : addressed order = hasSn order.orderSn := by
  funext row
  simp [addressed, hasSn, hid]

/-- A relation between old and new rows needs to be checked on the rows that are
written only. -/
theorem rewriteOrders_forall₂ {related : OrderInfoDO → OrderInfoDO → Prop}
    {rows : List OrderInfoDO} (reflexive : ∀ row, related row row)
    (hwritten : ∀ row ∈ rows, addressed order row → related row (written order now row)) :
    List.Forall₂ related rows (rewriteOrders order now rows) := by
  unfold rewriteOrders
  rw [List.forall₂_map_right_iff, List.forall₂_same]
  intro row hrow
  by_cases haddressed : addressed order row
  · rw [if_pos haddressed]
    exact hwritten row hrow haddressed
  · rw [if_neg haddressed]
    exact reflexive row

theorem ordersUpdate_ok (h : ordersUpdate order now db = .ok ((), db')) :
    (∃ row ∈ db.orders, addressed order.trimmed row) ∧
      db' = { db with orders := rewriteOrders order.trimmed now db.orders } := by
  simp only [ordersUpdate, Txn.guard_bind_ok, Txn.read_bind, Txn.lift_bind_ok, Txn.write_bind,
    Txn.guard_ok] at h
  obtain ⟨-, -, rows, hrows, haffected, hend⟩ := h
  cases hend
  have hmap := Sql.update_eq_map (fun row row' hrow => storeWritten_ok hrow) hrows
  simp only [decide_eq_true_eq] at haffected
  refine ⟨?_, by rw [hmap]; rfl⟩
  rw [hmap, Sql.affected_map_ne_zero] at haffected
  obtain ⟨row, hrow, hchanged⟩ := haffected
  by_cases hsel : addressed order.trimmed row
  · exact ⟨row, hrow, hsel⟩
  · simp [hsel] at hchanged

theorem find_rewriteOrders (hid : order.id = 0) (rows : List OrderInfoDO) :
    (rewriteOrders order now rows).find? (hasSn order.orderSn) =
      (rows.find? (hasSn order.orderSn)).map (written order now) := by
  have hkeeps : hasSn order.orderSn ∘
      (fun row => if addressed order row then written order now row else row) =
        hasSn order.orderSn := by
    funext row
    by_cases haddressed : addressed order row
    · simp [haddressed, hasSn, written]
    · simp [haddressed]
  unfold rewriteOrders
  rw [List.find?_map, hkeeps]
  cases hfind : rows.find? (hasSn order.orderSn) with
  | none => rfl
  | some row =>
    have hrow : addressed order row := by
      rw [addressed_eq_hasSn hid]
      exact List.find?_some hfind
    simp [hrow]

theorem ordersUpdate_run (hsn : order.trimmed.orderSn ≠ "") (hstatus : order.trimmed.status ≠ "")
    (hfits : (Sql.fitsVarchar 20 order.payType && Sql.fitsVarchar 100 order.tradeNo) = true)
    (hchanged : ∃ row ∈ db.orders, addressed order.trimmed row ∧
      row.status ≠ order.trimmed.target) :
    ordersUpdate order now db =
      .ok ((), { db with orders := rewriteOrders order.trimmed now db.orders }) := by
  obtain ⟨rows, hrows⟩ : ∃ rows, Sql.update (addressed order.trimmed)
      (storeWritten order.trimmed now) db.orders = .ok rows := by
    apply Sql.update_total
    intro row _ _
    exact ⟨_, storeWritten_run row (by simpa only [OrderDTO.trimmed] using hfits)⟩
  have hmap := Sql.update_eq_map (fun row row' hrow => storeWritten_ok hrow) hrows
  have haffected : Sql.affected db.orders rows ≠ 0 := by
    rw [hmap, Sql.affected_map_ne_zero]
    obtain ⟨row, hrow, haddressed, hstatus⟩ := hchanged
    refine ⟨row, hrow, fun hsame => hstatus ?_⟩
    rw [if_pos haddressed] at hsame
    rw [← written_status order.trimmed now row, hsame]
  have hrewrite : rows = rewriteOrders order.trimmed now db.orders := hmap
  subst hrewrite
  simp only [ordersUpdate, Txn.guard_bind_ok, Txn.read_bind, Txn.lift_bind_ok, Txn.write_bind,
    Txn.guard_ok]
  exact ⟨by simp [hsn], by simpa using hstatus, _, hrows, by simpa using haffected, rfl⟩

theorem insertStatusLog_ok {entry : StatusLogEntry}
    (h : insertStatusLog entry now db = .ok ((), db')) :
    db' = { db with statusLogs := db.statusLogs ++
      [newStatusLog (Sql.nextId (db.statusLogs.map (·.id))) entry now] } := by
  simp only [insertStatusLog, Txn.read_bind, Txn.guard_bind_ok, Txn.write_ok] at h
  cases h.2
  rfl

theorem statusLogsCreate_ok {entry : StatusLogEntry}
    (h : statusLogsCreate entry now db = .ok ((), db')) :
    db' = { db with statusLogs := db.statusLogs ++
      [newStatusLog (Sql.nextId (db.statusLogs.map (·.id))) entry now] } := by
  rw [statusLogsCreate, Txn.guard_bind_ok] at h
  exact insertStatusLog_ok h.2

theorem statusLogsCreate_run (entry : StatusLogEntry) (hsn : trimSpace entry.orderSn ≠ "")
    (hstatus : trimSpace entry.toStatus.text ≠ "") (hfits : fitsStatusLog entry = true) :
    ∃ logs, statusLogsCreate entry now db = .ok ((), { db with statusLogs := logs }) := by
  refine ⟨db.statusLogs ++ [newStatusLog (Sql.nextId (db.statusLogs.map (·.id))) entry now], ?_⟩
  simp only [statusLogsCreate, insertStatusLog, Txn.guard_bind_ok, Txn.read_bind, Txn.write_ok]
  exact ⟨by simp [hsn, hstatus], hfits, trivial⟩

theorem createRefundRequest_ok {entry : RefundEntry}
    (h : createRefundRequest entry now db = .ok ((), db')) :
    db' = { db with
      refunds := db.refunds ++
        [newRefundRequest (Sql.nextId (db.refunds.map (·.id))) entry now]
      outbox := db.outbox ++ [newRefundOutbox (Sql.nextId (db.outbox.map (·.id)))
        (Sql.nextId (db.refunds.map (·.id))) now] } := by
  simp only [createRefundRequest, Txn.read_bind, Txn.guard_bind_ok, Txn.write_ok] at h
  cases h.2.2.2
  rfl

theorem ordersCreate_ok {id : Int} (h : ordersCreate order now db = .ok (id, db')) :
    0 < order.user ∧ id = Sql.nextId (db.orders.map (·.id)) ∧
      db' = { db with orders := db.orders ++
        [newOrder id { order with orderSn := trimSpace order.orderSn } now] } := by
  simp only [ordersCreate, Txn.guard_bind_ok, Txn.read_bind, Txn.write_bind, Txn.pure_ok,
    decide_eq_true_eq] at h
  obtain ⟨⟨huser, -⟩, -, hend⟩ := h
  cases hend
  exact ⟨huser, rfl, rfl⟩

def hideCarts (userID : Int) (goodsIDs : List Int) (rows : List ShoppingCartDO) :
    List ShoppingCartDO :=
  rows.map fun row =>
    if !row.deleted ∧ row.user = userID ∧ row.goods ∈ goodsIDs then { row with deleted := true }
    else row

theorem cartsDeleteByGoodsIDs_ok {userID : Int} {goodsIDs : List Int} (huser : userID ≠ 0)
    (h : cartsDeleteByGoodsIDs userID goodsIDs db = .ok ((), db')) :
    db' = { db with carts := hideCarts userID goodsIDs db.carts } := by
  rw [cartsDeleteByGoodsIDs, Txn.when_ok] at h
  split at h
  · rw [Txn.read_bind, Txn.write_ok] at h
    cases h
    rfl
  next hnone =>
    have hempty : goodsIDs = [] := by simpa [huser] using hnone
    cases h
    simp [hempty, hideCarts]

def refreshedCarts (userID now : Int) (item : OrderGoods) (rows : List ShoppingCartDO) :
    List ShoppingCartDO :=
  rows.map fun row =>
    if !row.deleted ∧ row.user = userID ∧ row.goods = item.goods then
      { row with nums := max row.nums item.nums, checked := true, updateTime := now }
    else row

def restoredItem (userID now : Int) (item : OrderGoods) (rows : List ShoppingCartDO) :
    List ShoppingCartDO :=
  if 0 < item.goods ∧ 0 < item.nums then
    if Sql.affected rows (refreshedCarts userID now item rows) ≠ 0 then
      refreshedCarts userID now item rows
    else rows ++ [⟨Sql.nextId (rows.map (·.id)), userID, item.goods, item.nums, true, now, false⟩]
  else rows

theorem restoreCheckedItem_run (userID now : Int) (item : OrderGoods) (db : OrderDB) :
    restoreCheckedItem userID now item db =
      .ok ((), { db with carts := restoredItem userID now item db.carts }) := by
  unfold restoreCheckedItem restoredItem
  by_cases hvalid : 0 < item.goods ∧ 0 < item.nums
  · rw [decide_eq_true hvalid, Txn.when_true, Txn.read_bind, if_pos hvalid]
    change (if Sql.affected db.carts (refreshedCarts userID now item db.carts) ≠ 0 then _
      else _ : OrderTxn Unit) db = _
    split <;> rfl
  · rw [decide_eq_false hvalid, if_neg hvalid]
    rfl

def restoredCarts (userID : Int) (items : List OrderGoods) (now : Int)
    (rows : List ShoppingCartDO) : List ShoppingCartDO :=
  if userID ≠ 0 then items.foldl (fun rows item => restoredItem userID now item rows) rows
  else rows

theorem cartsRestoreCheckedItems_run (userID now : Int) (items : List OrderGoods) (db : OrderDB) :
    cartsRestoreCheckedItems userID items now db =
      .ok ((), { db with carts := restoredCarts userID items now db.carts }) := by
  have hloop (rows : List ShoppingCartDO) :
      (forM items (restoreCheckedItem userID now) : OrderTxn Unit) { db with carts := rows } =
        .ok ((), { db with
          carts := items.foldl (fun rows item => restoredItem userID now item rows) rows }) := by
    induction items generalizing rows with
    | nil => rfl
    | cons item rest ih =>
      rw [List.forM_cons, Txn.bind_of_ok (restoreCheckedItem_run userID now item _)]
      exact ih _
  unfold cartsRestoreCheckedItems restoredCarts
  by_cases huser : userID ≠ 0
  · rw [decide_eq_true huser, Txn.when_true, if_pos huser]
    exact hloop db.carts
  · rw [decide_eq_false huser, if_neg huser]
    rfl

def hideFound (orderSn : String) (db : OrderDB) : List OrderInfoDO :=
  match findOrder db orderSn with
  | none => db.orders
  | some order => hideOrder order db.orders

def restoredFound (orderSn : String) (now : Int) (db : OrderDB) : List ShoppingCartDO :=
  match findOrder db orderSn with
  | none => db.carts
  | some order => restoredCarts order.user order.orderGoods now db.carts

theorem ordersDeleteByOrderSn_run {orderSn : String} (hne : orderSn ≠ "")
    (hsn : trimSpace orderSn = orderSn) (db : OrderDB) :
    ordersDeleteByOrderSn orderSn db = .ok ((), { db with orders := hideFound orderSn db }) := by
  simp only [ordersDeleteByOrderSn, hsn, hne, ne_eq, not_false_eq_true, decide_true,
    Txn.when_true, Txn.read_bind, hideFound]
  cases findOrder db orderSn <;> rfl

end Statements

section Transactions

variable {existing : OrderInfoDO} {order : OrderDTO} {now : Int} {db db' : OrderDB}

def transitionLogs (existing : OrderInfoDO) (order : OrderDTO) (now : Int) (db : OrderDB) :
    List OrderStatusLogDO :=
  if existing.status.trim ≠ order.target.trim then
    [newStatusLog (Sql.nextId (db.statusLogs.map (·.id))) (buildStatusLog existing order) now]
  else []

def openedRefunds (order : OrderDTO) (now : Int) (db : OrderDB) : List RefundRequestDO :=
  if order.target = .refundPending then
    [newRefundRequest (Sql.nextId (db.refunds.map (·.id))) (refundEntry order) now]
  else []

def openedJobs (order : OrderDTO) (now : Int) (db : OrderDB) : List RefundOutboxDO :=
  if order.target = .refundPending then
    [newRefundOutbox (Sql.nextId (db.outbox.map (·.id))) (Sql.nextId (db.refunds.map (·.id))) now]
  else []

theorem addressed_withPayTime (order : OrderDTO) (now : Int) :
    addressed (withPayTime order now).trimmed = addressed order.trimmed := by
  unfold withPayTime
  split <;> rfl

theorem withPayTime_trimmed_target (order : OrderDTO) (now : Int) :
    (withPayTime order now).trimmed.target = order.trimmed.target := by
  unfold withPayTime
  split <;> rfl

theorem updateTxn_ok (h : updateTxn existing order now db = .ok ((), db')) :
    (∃ row ∈ db.orders, addressed order.trimmed row) ∧
      db' = { db with
        orders := rewriteOrders (withPayTime order now).trimmed now db.orders
        statusLogs := db.statusLogs ++ transitionLogs existing order now db
        refunds := db.refunds ++ openedRefunds order now db
        outbox := db.outbox ++ openedJobs order now db } := by
  simp only [updateTxn, Txn.bind_ok] at h
  obtain ⟨_, updated, hupdate, _, logged, hlog, hrefund⟩ := h
  obtain ⟨haddressed, rfl⟩ := ordersUpdate_ok hupdate
  rw [addressed_withPayTime] at haddressed
  refine ⟨haddressed, ?_⟩
  have hlogged : logged = { db with
      orders := rewriteOrders (withPayTime order now).trimmed now db.orders
      statusLogs := db.statusLogs ++ transitionLogs existing order now db } := by
    rw [Txn.when_ok, Txn.mapError_ok] at hlog
    unfold transitionLogs
    split at hlog
    · rename_i hchanged
      rw [if_pos (by simpa using hchanged)]
      exact statusLogsCreate_ok hlog
    · rename_i hsame
      rw [if_neg (by simpa using hsame), List.append_nil]
      cases hlog
      rfl
  subst hlogged
  rw [Txn.when_ok] at hrefund
  unfold openedRefunds openedJobs
  split at hrefund
  · rename_i hpending
    rw [if_pos (by simpa using hpending), if_pos (by simpa using hpending)]
    exact createRefundRequest_ok hrefund
  · rename_i hother
    rw [if_neg (by simpa using hother), if_neg (by simpa using hother), List.append_nil,
      List.append_nil]
    cases hrefund
    rfl

theorem withPayTime_eq (order : OrderDTO) (now : Int) :
    withPayTime order now = { order with payTime := (withPayTime order now).payTime } := by
  unfold withPayTime
  split <;> rfl

theorem ordersUpdate_withPayTime (now : Int) (hsn : order.orderSn ≠ "")
    (hstatus : order.status ≠ "") (htrimmed : order.trimmed = order)
    (hfits : (Sql.fitsVarchar 20 order.payType && Sql.fitsVarchar 100 order.tradeNo) = true)
    (hchanged : ∃ row ∈ db.orders, addressed order row ∧ row.status ≠ order.target) :
    ordersUpdate (withPayTime order now) now db = .ok ((), { db with
      orders := rewriteOrders (withPayTime order now).trimmed now db.orders }) := by
  have hsn' : trimSpace order.orderSn ≠ "" := by
    rw [← htrimmed] at hsn
    exact hsn
  have hstatus' : trimSpace order.status ≠ "" := by
    rw [← htrimmed] at hstatus
    exact hstatus
  apply ordersUpdate_run
  · rw [withPayTime_eq]
    exact hsn'
  · rw [withPayTime_eq]
    exact hstatus'
  · rw [withPayTime_eq]
    exact hfits
  · rw [addressed_withPayTime, withPayTime_trimmed_target, htrimmed]
    exact hchanged

theorem updateTxn_run (hsn : order.orderSn ≠ "") (htrimmed : order.trimmed = order)
    (hvalid : isValidOrderStatus order.target) (hrefund : order.target ≠ .refundPending)
    (hfits : (Sql.fitsVarchar 20 order.payType && Sql.fitsVarchar 100 order.tradeNo) = true)
    (hchanged : ∃ row ∈ db.orders, addressed order row ∧ row.status ≠ order.target)
    (hexisting : trimSpace existing.orderSn ≠ "")
    (hlog : fitsStatusLog (buildStatusLog existing order) = true) :
    ∃ logs, updateTxn existing order now db = .ok ((), { db with
      orders := rewriteOrders (withPayTime order now).trimmed now db.orders
      statusLogs := logs }) := by
  have htext : trimSpace order.target.text ≠ "" := by
    intro hblank
    have htrim := OrderStatus.trim_valid hvalid
    rw [OrderStatus.trim, hblank] at htrim
    rw [← htrim] at hvalid
    exact absurd hvalid (by decide)
  have hstatus : order.status ≠ "" := by
    intro hblank
    apply htext
    simp [OrderDTO.target, hblank]
  have hupdate := ordersUpdate_withPayTime now hsn hstatus htrimmed hfits hchanged
  rw [updateTxn, Txn.bind_of_ok hupdate, decide_eq_false hrefund]
  cases hsame : decide (existing.status.trim ≠ order.target.trim) with
  | false => exact ⟨db.statusLogs, rfl⟩
  | true =>
    obtain ⟨logs, hlogs⟩ := statusLogsCreate_run (buildStatusLog existing order) hexisting htext
      hlog
    refine ⟨logs, ?_⟩
    rw [Txn.when_true, Txn.bind_of_ok (Txn.mapError_of_ok hlogs)]
    rfl

theorem prepareUpdate_ok {order prepared : OrderDTO} (h : prepareUpdate order = .ok prepared) :
    prepared = order.trimmed ∧ isValidOrderStatus prepared.target := by
  simp only [prepareUpdate] at h
  split at h
  · cases h
  · split at h
    · cases h
    · rename_i hvalid
      cases h
      exact ⟨rfl, by simpa using hvalid⟩

theorem prepareUpdate_run (hsn : order.trimmed.orderSn ≠ "") (hstatus : order.trimmed.status ≠ "")
    (hvalid : isValidOrderStatus order.trimmed.target) :
    prepareUpdate order = .ok order.trimmed := by
  simp [prepareUpdate, hsn, hstatus, hvalid]

theorem checkUpdate_transition {existing : OrderInfoDO} {order : OrderDTO}
    (h : checkUpdate existing order = .ok ()) :
    canTransitionOrderStatus existing.status order.target = true := by
  unfold checkUpdate at h
  split at h
  · cases h
  · rename_i hallowed
    simpa using hallowed

theorem updateBody_ok (h : updateBody order now db = .ok ((), db')) :
    ∃ existing, ordersGet db order.trimmed.orderSn = .ok existing ∧
      isValidOrderStatus order.trimmed.target ∧ checkUpdate existing order.trimmed = .ok () ∧
      updateTxn existing order.trimmed now db = .ok ((), db') := by
  simp only [updateBody, Txn.lift_bind_ok, Txn.read_bind] at h
  obtain ⟨prepared, hprepared, existing, hget, _, hcheck, hrun⟩ := h
  obtain ⟨rfl, hvalid⟩ := prepareUpdate_ok hprepared
  exact ⟨existing, hget, hvalid, hcheck, hrun⟩

def createdLog (order : OrderDTO) (now : Int) (db : OrderDB) : OrderStatusLogDO :=
  newStatusLog (Sql.nextId (db.statusLogs.map (·.id)))
    { orderID := Sql.nextId (db.orders.map (·.id))
      orderSn := order.orderSn
      fromStatus := .blank
      toStatus := order.target
      reason := "order created"
      source := "order.create"
      operator := "user:" ++ toString order.user } now

/-- The transaction of `Create` adds one order row, with the trimmed number, and its
first log entry, and takes the ordered goods out of the cart. -/
theorem createTxn_ok (h : createTxn order now db = .ok ((), db')) :
    0 < order.user ∧ db' = { db with
      orders := db.orders ++ [newOrder (Sql.nextId (db.orders.map (·.id)))
        { order with orderSn := trimSpace order.orderSn } now]
      carts := hideCarts order.user (order.orderGoods.map (·.goods)) db.carts
      statusLogs := db.statusLogs ++ [createdLog order now db] } := by
  simp only [createTxn, Txn.bind_ok, Txn.mapError_ok] at h
  obtain ⟨id, created, hcreate, _, cleared, hclear, hlog⟩ := h
  obtain ⟨huser, rfl, rfl⟩ := ordersCreate_ok hcreate
  have hcleared := cartsDeleteByGoodsIDs_ok (Int.ne_of_gt huser) hclear
  subst hcleared
  exact ⟨huser, statusLogsCreate_ok hlog⟩

theorem prepareCreate_ok {order prepared : OrderDTO} (h : prepareCreate order = .ok prepared) :
    trimSpace order.orderSn ≠ "" ∧ hasOrderGoods order.orderGoods ∧
      prepared = { order with
        orderSn := trimSpace order.orderSn
        status := normalizeInitialOrderStatus order.status } := by
  simp only [prepareCreate] at h
  split at h
  · cases h
  next hne =>
    split at h
    · cases h
    next hgoods =>
      cases h
      exact ⟨hne, by simpa using hgoods, rfl⟩

theorem priceOrder_ok {goods : List GoodsInfo} {order priced : OrderDTO}
    (h : priceOrder goods order = .ok priced) :
    (goods.map (·.id)).dedup.length = order.orderGoods.length ∧
      ∃ total, order.orderGoods.foldlM (priceItem goods) {} = .ok total ∧
        priced = { order with
          orderMountFen := total.amountFen
          storeID := total.storeID
          orderGoods := total.items } := by
  unfold priceOrder at h
  split at h
  · cases h
  next hcount =>
    obtain ⟨total, htotal, hpriced⟩ := except_bind_ok.mp h
    cases hpriced
    exact ⟨by simpa using hcount, total, htotal, rfl⟩

theorem createBody_cases {goods : Except AppError (List GoodsInfo)}
    (h : createBody goods order now db = .ok ((), db')) :
    ∃ prepared, prepareCreate order = .ok prepared ∧
      ((∃ existing, findOrder db (trimSpace order.orderSn) = some existing ∧
          answerExisting existing prepared = .ok () ∧ db' = db) ∨
        findOrder db (trimSpace order.orderSn) = none ∧ ∃ answer priced,
          goods = .ok answer ∧ priceOrder answer prepared = .ok priced ∧
            createTxn priced now db = .ok ((), db')) := by
  rw [createBody, Txn.lift_bind_ok] at h
  obtain ⟨prepared, hprepared, h⟩ := h
  obtain ⟨hne, -, hrequest⟩ := prepareCreate_ok hprepared
  have hsn : trimSpace prepared.orderSn = trimSpace order.orderSn := by
    rw [hrequest, GoText.trimSpace_trimSpace]
  refine ⟨prepared, hprepared, ?_⟩
  rw [Txn.read_bind] at h
  cases hget : ordersGet db prepared.orderSn with
  | ok existing =>
    simp only [hget, Txn.lift_ok] at h
    have hfind := ordersGet_ok hget
    rw [hsn] at hfind
    exact .inl ⟨existing, hfind, h.1, h.2.symm⟩
  | error err =>
    obtain ⟨hcode, hnone⟩ := ordersGet_error hget (by rw [hsn]; exact hne)
    rw [hsn] at hnone
    simp only [hget, if_pos hcode, Txn.lift_bind_ok] at h
    obtain ⟨answer, hanswer, priced, hpriced, hrun⟩ := h
    exact .inr ⟨hnone, answer, priced, hanswer, hpriced, hrun⟩

theorem createBody_ok {goods : Except AppError (List GoodsInfo)}
    (h : createBody goods order now db = .ok ((), db')) :
    (findOrder db (trimSpace order.orderSn) ≠ none ∧ db' = db) ∨
      findOrder db (trimSpace order.orderSn) = none ∧ ∃ row carts logs,
        hasSn (trimSpace order.orderSn) row ∧ db' = { db with
          orders := db.orders ++ [row]
          carts := carts
          statusLogs := db.statusLogs ++ logs } := by
  obtain ⟨prepared, hprepared, ⟨existing, hfind, -, rfl⟩ | ⟨hnone, answer, priced, -, hpriced, hrun⟩⟩ :=
    createBody_cases h
  · exact .inl ⟨by simp [hfind], rfl⟩
  · obtain ⟨-, -, rfl⟩ := prepareCreate_ok hprepared
    obtain ⟨-, total, -, rfl⟩ := priceOrder_ok hpriced
    obtain ⟨-, rfl⟩ := createTxn_ok hrun
    exact .inr ⟨hnone, _, _, _, by simp [hasSn, newOrder], rfl⟩

/-- `CreateCom` always succeeds: it puts the goods of the order it finds back into the
cart and hides the order. -/
theorem createComBody_run {orderSn : String} (hne : trimSpace orderSn ≠ "") (now : Int)
    (db : OrderDB) :
    createComBody orderSn now db = .ok ((), { db with
      carts := restoredFound (trimSpace orderSn) now db
      orders := hideFound (trimSpace orderSn) db }) := by
  simp only [createComBody, hne, ne_eq, not_false_eq_true, decide_true, Txn.when_true,
    Txn.read_bind]
  cases hget : ordersGet db orderSn with
  | error err =>
    obtain ⟨hcode, hnone⟩ := ordersGet_error hget hne
    simp only [hcode, if_true, hideFound, restoredFound, hnone]
    rfl
  | ok existing =>
    have hfind := ordersGet_ok hget
    have hexisting : existing.orderSn = trimSpace orderSn := (findOrder_some hfind).2.2
    have hrestore := cartsRestoreCheckedItems_run existing.user now existing.orderGoods db
    have hdelete := ordersDeleteByOrderSn_run hne (GoText.trimSpace_trimSpace orderSn)
      { db with carts := restoredFound (trimSpace orderSn) now db }
    simp only [createComTxn, hexisting]
    rw [Txn.bind_of_ok (Txn.mapError_of_ok hrestore)]
    simp only [restoredFound, hfind] at hdelete ⊢
    exact Txn.mapError_of_ok hdelete

theorem createComBody_blank {orderSn : String} (hblank : trimSpace orderSn = "") (now : Int)
    (db : OrderDB) : createComBody orderSn now db = .ok ((), db) := by
  simp only [createComBody, hblank, ne_eq, not_true_eq_false, decide_false]
  rfl

end Transactions

end Goshop.Order.Steps
