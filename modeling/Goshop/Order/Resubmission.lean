import Goshop.Order.History
import Goshop.Order.Pricing

/-! `Create` with a number that is taken. The request is answered as done exactly if it
asks for the stored order, however its lines are ordered, split or merged; it never
changes anything. -/
namespace Goshop.Order.Resubmission

open Goshop.Errors Goshop.Lib Goshop.Lib.Transaction Goshop.Lib.Run
open Goshop.Order.Model Goshop.Order.Data Goshop.Order.Service Goshop.Order.Steps
open Goshop.Order.PaymentSteps Goshop.Order.Pricing Goshop.Order.History
open Goshop.Lib.GoText (CaseTable trimSpace)

section Quantities

variable {left right : List OrderGoods}

theorem hasOrderGoods_iff {items : List OrderGoods} :
    hasOrderGoods items ↔ items ≠ [] ∧ ∀ item ∈ items, 0 < item.goods ∧ 0 < item.nums := by
  simp [hasOrderGoods]

theorem aggregated_nil (goods : Int) : aggregated goods [] = 0 := rfl

theorem aggregated_cons (goods : Int) (item : OrderGoods) (rest : List OrderGoods) :
    aggregated goods (item :: rest) =
      (if item.goods = goods then item.nums else 0) + aggregated goods rest := by
  unfold aggregated
  by_cases hgoods : item.goods = goods <;> simp [hgoods]

theorem aggregated_nonneg {items : List OrderGoods} (h : ∀ item ∈ items, 0 < item.nums)
    (goods : Int) : 0 ≤ aggregated goods items := by
  induction items with
  | nil => exact Int.le_refl 0
  | cons item rest ih =>
    have hitem := h item List.mem_cons_self
    have hrest := ih fun other hother => h other (List.mem_cons_of_mem item hother)
    rw [aggregated_cons]
    split <;> omega

theorem aggregated_pos {items : List OrderGoods} (h : ∀ item ∈ items, 0 < item.nums)
    (goods : Int) : 0 < aggregated goods items ↔ goods ∈ items.map (·.goods) := by
  induction items with
  | nil => simp [aggregated_nil]
  | cons item rest ih =>
    have hitem := h item List.mem_cons_self
    have hpositive (other : OrderGoods) (hother : other ∈ rest) : 0 < other.nums :=
      h other (List.mem_cons_of_mem item hother)
    have hrest := aggregated_nonneg hpositive goods
    rw [aggregated_cons, List.map_cons, List.mem_cons, ← ih hpositive]
    by_cases hsame : item.goods = goods
    · rw [if_pos hsame]
      exact ⟨fun _ => .inl hsame.symm, fun _ => by omega⟩
    · rw [if_neg hsame, Int.zero_add]
      exact ⟨.inr, fun hor => hor.resolve_left fun hgoods => hsame hgoods.symm⟩

/-- Comparing the totals of the goods on one side is comparing all totals, because the
sides have the same number of goods. -/
theorem sameOrderGoods_iff (hleft : hasOrderGoods left) (hright : hasOrderGoods right) :
    sameOrderGoods left right ↔ ∀ goods, aggregated goods right = aggregated goods left := by
  have hleftPos (item : OrderGoods) (hitem : item ∈ left) : 0 < item.nums :=
    ((hasOrderGoods_iff.mp hleft).2 item hitem).2
  have hrightPos (item : OrderGoods) (hitem : item ∈ right) : 0 < item.nums :=
    ((hasOrderGoods_iff.mp hright).2 item hitem).2
  have hunfold : sameOrderGoods left right ↔
      (left.map (·.goods)).dedup.length = (right.map (·.goods)).dedup.length ∧
        ∀ goods ∈ left.map (·.goods), aggregated goods right = aggregated goods left := by
    simp only [sameOrderGoods, hleft, hright, Bool.true_and, Bool.and_eq_true, decide_eq_true_eq,
      List.all_eq_true, List.mem_dedup]
  rw [hunfold]
  constructor
  · rintro ⟨hlength, htotals⟩ goods
    by_cases hgoods : goods ∈ left.map (·.goods)
    · exact htotals goods hgoods
    · have hsubset : (left.map (·.goods)).dedup ⊆ (right.map (·.goods)).dedup := by
        intro other hother
        rw [List.mem_dedup] at hother ⊢
        rw [← aggregated_pos hrightPos, htotals other hother, aggregated_pos hleftPos]
        exact hother
      have hperm := (List.subperm_of_subset (List.nodup_dedup _) hsubset).perm_of_length_le
        (Nat.le_of_eq hlength.symm)
      have hright' : goods ∉ right.map (·.goods) := by
        rwa [← List.mem_dedup, ← hperm.mem_iff, List.mem_dedup]
      rw [← aggregated_pos hleftPos] at hgoods
      rw [← aggregated_pos hrightPos] at hright'
      have := aggregated_nonneg hleftPos goods
      have := aggregated_nonneg hrightPos goods
      omega
  · intro htotals
    refine ⟨List.Perm.length_eq ?_, fun goods _ => htotals goods⟩
    rw [List.perm_ext_iff_of_nodup (List.nodup_dedup _) (List.nodup_dedup _)]
    intro goods
    rw [List.mem_dedup, List.mem_dedup, ← aggregated_pos hleftPos, ← aggregated_pos hrightPos,
      htotals]

end Quantities

section Answers

structure SameOrder (order : OrderInfoDO) (request : OrderDTO) : Prop where
  user : order.user = request.user
  address : trimSpace order.address = trimSpace request.address
  signerName : trimSpace order.signerName = trimSpace request.signerName
  singerMobile : trimSpace order.singerMobile = trimSpace request.singerMobile
  post : trimSpace order.post = trimSpace request.post
  store : trimSpace order.storeID = "" ∨ trimSpace request.storeID = "" ∨
    trimSpace order.storeID = trimSpace request.storeID
  quantities : ∀ goods, aggregated goods request.orderGoods = aggregated goods order.orderGoods

theorem sameCreateOrder_iff {order : OrderInfoDO} {request : OrderDTO}
    (horder : hasOrderGoods order.orderGoods) (hrequest : hasOrderGoods request.orderGoods)
    (hsn : trimSpace order.orderSn = trimSpace request.orderSn) :
    sameCreateOrder order request ↔ SameOrder order request := by
  simp only [sameCreateOrder, sameText, Bool.and_eq_true, Bool.or_eq_true, decide_eq_true_eq,
    sameOrderGoods_iff horder hrequest]
  constructor
  · rintro ⟨⟨⟨⟨⟨⟨⟨huser, -⟩, haddress⟩, hname⟩, hmobile⟩, hpost⟩, hstore⟩, hquantities⟩
    exact ⟨huser, haddress, hname, hmobile, hpost, by rwa [or_assoc] at hstore, hquantities⟩
  · intro h
    exact ⟨⟨⟨⟨⟨⟨⟨h.user, hsn⟩, h.address⟩, h.signerName⟩, h.singerMobile⟩, h.post⟩,
      by rw [or_assoc]; exact h.store⟩, h.quantities⟩

end Answers

section Stored

variable {orderSn : String} {order : OrderInfoDO} {db db' : OrderDB} {now : Int}

/-- What no call changes in a row as long as the order is visible. -/
def content (row : OrderInfoDO) : OrderInfoDO :=
  { row with status := .blank, payType := "", tradeNo := "", payTime := none, updateTime := 0 }

theorem content_rewriteOrder (request : OrderDTO) (now : Int) (row : OrderInfoDO) :
    content (rewriteOrder request now row) = content row := by
  unfold rewriteOrder
  split <;> rfl

structure Held (orderSn : String) (order : OrderInfoDO) (db : OrderDB) : Prop where
  keys : (db.orders.map (·.id)).Nodup
  row : ∃ row, db.orders.filter (hasSn orderSn) = [row] ∧ content row = content order

def Compensates (orderSn : String) : Call → Prop
  | .createCom other => trimSpace other = orderSn
  | _ => False

theorem Held.find (h : Held orderSn order db) :
    ∃ row, findOrder db orderSn = some row ∧ content row = content order := by
  obtain ⟨row, hrow, hcontent⟩ := h.row
  refine ⟨row, ?_, hcontent⟩
  rw [findOrder, ← List.head?_filter, hrow]
  rfl

theorem Held.rewrite {f : OrderInfoDO → OrderInfoDO} (h : Held orderSn order db)
    (horders : db'.orders = db.orders.map f) (hid : ∀ row, (f row).id = row.id)
    (hhas : ∀ row ∈ db.orders, hasSn orderSn (f row) = hasSn orderSn row)
    (hcontent : ∀ row ∈ db.orders, hasSn orderSn row → content (f row) = content row) :
    Held orderSn order db' := by
  obtain ⟨row, hrow, hsame⟩ := h.row
  have hmem : row ∈ db.orders.filter (hasSn orderSn) := hrow ▸ List.mem_singleton_self row
  obtain ⟨hmem, hsn⟩ := List.mem_filter.mp hmem
  constructor
  case keys =>
    rw [horders, List.map_map, show (fun row : OrderInfoDO => row.id) ∘ f = (·.id) from funext hid]
    exact h.keys
  case row =>
    have hfilter : db.orders.filter (hasSn orderSn ∘ f) = db.orders.filter (hasSn orderSn) :=
      List.filter_congr hhas
    refine ⟨f row, ?_, (hcontent row hmem hsn).trans hsame⟩
    rw [horders, List.filter_map, hfilter, hrow]
    rfl

theorem Held.append {row : OrderInfoDO} (h : Held orderSn order db)
    (horders : db'.orders = db.orders ++ [row]) (hkey : row.id ∉ db.orders.map (·.id))
    (hother : row.orderSn ≠ orderSn) : Held orderSn order db' := by
  obtain ⟨held, hheld, hsame⟩ := h.row
  constructor
  case keys =>
    rw [horders]
    apply Table.nodup_snoc h.keys
    intro other hother hsame
    rw [← hsame] at hkey
    exact hkey (List.mem_map_of_mem hother)
  case row =>
    refine ⟨held, ?_, hsame⟩
    rw [horders, List.filter_append, hheld]
    simp [hasSn, hother]

theorem createBody_held {goods : Except AppError (List GoodsInfo)} {request : OrderDTO}
    (h : Held orderSn order db) (hrun : createBody goods request now db = .ok ((), db')) :
    Held orderSn order db' := by
  obtain ⟨prepared, hprepared, ⟨existing, -, -, rfl⟩ | ⟨hnone, answer, priced, -, hpriced, hrun⟩⟩ :=
    createBody_cases hrun
  · exact h
  obtain ⟨-, -, rfl⟩ := prepareCreate_ok hprepared
  obtain ⟨-, final, -, rfl⟩ := priceOrder_ok hpriced
  obtain ⟨-, rfl⟩ := createTxn_ok hrun
  apply h.append rfl
  · intro hmem
    exact Int.lt_irrefl _ (Sql.lt_nextId hmem)
  · obtain ⟨row, hrow, -⟩ := h.find
    simp only [newOrder, GoText.trimSpace_trimSpace]
    rintro rfl
    rw [hnone] at hrow
    cases hrow

theorem updateBody_held {request : OrderDTO} (h : Held orderSn order db)
    (hrun : updateBody request now db = .ok ((), db')) : Held orderSn order db' := by
  obtain ⟨existing, -, -, -, hrun⟩ := updateBody_ok hrun
  obtain ⟨-, rfl⟩ := updateTxn_ok hrun
  apply h.rewrite (rewriteOrders_eq_map _ now db.orders) (rewriteOrder_id _ now)
  · intro row _
    simp only [hasSn, rewriteOrder_orderSn, rewriteOrder_deleted]
  · intro row _ _
    exact content_rewriteOrder _ now row

theorem refundMove_held {orders : List OrderInfoDO} {logs : List OrderStatusLogDO}
    (h : Held orderSn order db) (hmove : RefundMove db orders logs)
    (horders : db'.orders = orders) : Held orderSn order db' := by
  cases hmove with
  | stay => exact ⟨horders ▸ h.keys, horders ▸ h.row⟩
  | move id now reason hfind hvalid hallowed =>
    apply h.rewrite horders
    · intro row
      split <;> rfl
    · intro row _
      split <;> rfl
    · intro row _ _
      split <;> rfl

theorem createComBody_held {other : String} (h : Held orderSn order db)
    (hother : trimSpace other ≠ orderSn)
    (hrun : createComBody other now db = .ok ((), db')) : Held orderSn order db' := by
  by_cases hblank : trimSpace other = ""
  · rw [createComBody_blank hblank] at hrun
    cases hrun
    exact h
  rw [createComBody_run hblank] at hrun
  cases hrun
  cases hfind : findOrder db (trimSpace other) with
  | none =>
    exact ⟨by simpa [hideFound, hfind] using h.keys, by simpa [hideFound, hfind] using h.row⟩
  | some hidden =>
    obtain ⟨hmem, -, hsn⟩ := findOrder_some hfind
    -- a row with the hidden key is the hidden row, which has another number
    have hnumber (row : OrderInfoDO) (hrow : row ∈ db.orders) (hid : row.id = hidden.id) :
        hasSn orderSn row = false := by
      obtain rfl := List.inj_on_of_nodup_map h.keys hrow hmem hid
      simp [hasSn, hsn, hother]
    refine h.rewrite (by simp only [hideFound, hfind]; rfl) ?_ ?_ ?_
    · intro row
      split <;> rfl
    · intro row hrow
      split
      next hboth =>
        rw [hnumber row hrow hboth.2]
        simp [hasSn]
      next => rfl
    · intro row hrow hhas
      split
      next hboth =>
        rw [hnumber row hrow hboth.2] at hhas
        cases hhas
      next => rfl

theorem exec_held [CaseTable] {label : Call × Int} (h : Held orderSn order db)
    (hcall : ¬Compensates orderSn label.1) : Held orderSn order (exec db label) := by
  obtain ⟨call, now⟩ := label
  cases call with
  | create goods request => exact Txn.commit_preserves h fun _ _ hrun => createBody_held h hrun
  | createCom other => exact Txn.commit_preserves h fun _ _ hrun => createComBody_held h hcall hrun
  | update request => exact Txn.commit_preserves h fun _ _ hrun => updateBody_held h hrun
  | completeRefundJob id result maxAttempts =>
    refine Txn.commit_preserves h fun _ db' hrun => ?_
    obtain ⟨job, detail, orders, logs, outbox, -, hmove, -, rfl⟩ := completeRefundBody_ok hrun
    exact refundMove_held h hmove rfl
  | retryDeadRefundJob id =>
    refine Txn.commit_preserves h fun _ db' hrun => ?_
    obtain ⟨dead, refund, orders, logs, outbox, -, -, hmove, rfl⟩ := retryDeadBody_ok hrun
    exact refundMove_held h hmove rfl

theorem filter_eq_nil_of_findOrder (h : findOrder db orderSn = none) :
    db.orders.filter (hasSn orderSn) = [] := by
  rw [List.filter_eq_nil_iff]
  exact List.find?_eq_none.mp h

theorem hasOrderGoods_pricedLine {answer : List GoodsInfo} {items : List OrderGoods}
    (h : hasOrderGoods items) : hasOrderGoods (items.map (pricedLine answer)) := by
  rw [hasOrderGoods_iff] at h ⊢
  refine ⟨fun hnil => h.1 (List.map_eq_nil_iff.mp hnil), ?_⟩
  intro line hline
  obtain ⟨item, hitem, rfl⟩ := List.mem_map.mp hline
  exact h.2 item hitem

theorem createBody_stored {goods : Except AppError (List GoodsInfo)} {request : OrderDTO}
    (keys : (db.orders.map (·.id)).Nodup)
    (fresh : findOrder db (trimSpace request.orderSn) = none)
    (hrun : createBody goods request now db = .ok ((), db')) :
    ∃ row, db'.orders = db.orders ++ [row] ∧ trimSpace request.orderSn ≠ "" ∧
      row.orderSn = trimSpace request.orderSn ∧ hasOrderGoods row.orderGoods ∧
      Held (trimSpace request.orderSn) row db' := by
  obtain ⟨prepared, hprepared, ⟨existing, hfind, -⟩ | ⟨-, answer, priced, -, hpriced, hrun⟩⟩ :=
    createBody_cases hrun
  · rw [fresh] at hfind
    cases hfind
  obtain ⟨hne, hgoods, rfl⟩ := prepareCreate_ok hprepared
  have hlines := (priceOrder_pricedBy hpriced).2.lines
  obtain ⟨-, final, -, rfl⟩ := priceOrder_ok hpriced
  obtain ⟨-, rfl⟩ := createTxn_ok hrun
  refine ⟨_, rfl, hne, GoText.trimSpace_trimSpace _, ?_, ?_, ?_⟩
  · exact hlines ▸ hasOrderGoods_pricedLine hgoods
  · apply Table.nodup_snoc keys
    intro other hother
    exact (Sql.lt_nextId (List.mem_map_of_mem hother)).ne
  · refine ⟨_, ?_, rfl⟩
    rw [List.filter_append, filter_eq_nil_of_findOrder fresh]
    simp [hasSn, newOrder]

end Stored

section Requests

variable {row : OrderInfoDO} {request : OrderDTO}

/-- The comparison does not depend on what an order may change. -/
theorem sameCreateOrder_content {stored : OrderInfoDO} (h : content row = content stored) :
    sameCreateOrder row request = sameCreateOrder stored request := by
  change sameCreateOrder (content row) request = sameCreateOrder (content stored) request
  rw [h]

theorem createBody_existing {db : OrderDB} (goods : Except AppError (List GoodsInfo)) (now : Int)
    (hne : trimSpace request.orderSn ≠ "") (hgoods : hasOrderGoods request.orderGoods)
    (hfind : findOrder db (trimSpace request.orderSn) = some row) :
    (createBody goods request now).commit db = (if sameCreateOrder row request then .ok ()
      else .error (newCode .errOrderConflict "order_sn already exists with different order data"),
      db) := by
  have hprepared : prepareCreate request = .ok { request with
      orderSn := trimSpace request.orderSn
      status := normalizeInitialOrderStatus request.status } := by
    simp [prepareCreate, hne, hgoods]
  have hget : ordersGet db (trimSpace request.orderSn) = .ok row := by
    simp [ordersGet, hne, hfind]
  have hsame : sameCreateOrder row { request with
      orderSn := trimSpace request.orderSn
      status := normalizeInitialOrderStatus request.status } = sameCreateOrder row request := by
    simp only [sameCreateOrder, sameText, GoText.trimSpace_trimSpace]
  cases hequal : sameCreateOrder row request with
  | true =>
    apply Txn.commit_of_ok
    rw [hequal] at hsame
    unfold createBody
    rw [hprepared, Txn.lift_ok_bind, Txn.read_bind]
    simp only [hget, answerExisting, hsame]
    rfl
  | false =>
    apply Txn.commit_of_error
    rw [hequal] at hsame
    unfold createBody
    rw [hprepared, Txn.lift_ok_bind, Txn.read_bind]
    simp only [hget, answerExisting, hsame]
    rfl

end Requests

/-- A later request with the number of a stored order is answered as done if it asks for
that order, and as a conflict otherwise; it never changes anything. -/
theorem create_answers_existing [CaseTable] (goods : Except AppError (List GoodsInfo))
    (order : OrderDTO)
    (now : Int) (db created : OrderDB) (keys : (db.orders.map (·.id)).Nodup)
    (fresh : findOrder db (trimSpace order.orderSn) = none)
    (success : (createBody goods order now).commit db = (.ok (), created))
    (calls : List (Call × Int))
    (kept : ∀ label ∈ calls, ¬Compensates (trimSpace order.orderSn) label.1)
    (answer : Except AppError (List GoodsInfo)) (request : OrderDTO) (later : Int)
    (sameSn : trimSpace request.orderSn = trimSpace order.orderSn)
    (valid : hasOrderGoods request.orderGoods) :
    ∃ stored, created.orders = db.orders ++ [stored] ∧
      (SameOrder stored request →
        (createBody answer request later).commit (run exec created calls) =
          (.ok (), run exec created calls)) ∧
      (¬SameOrder stored request →
        (createBody answer request later).commit (run exec created calls) =
          (.error (newCode .errOrderConflict "order_sn already exists with different order data"),
            run exec created calls)) := by
  obtain ⟨_, db', hrun, hcommit⟩ | ⟨err, -, hcommit⟩ :=
    Txn.commit_cases (createBody goods order now) db
  · rw [hcommit] at success
    cases success
    obtain ⟨stored, hrows, hne, hsn, hgoods, hheld⟩ := createBody_stored keys fresh hrun
    have hend : Held (trimSpace order.orderSn) stored (run exec created calls) := by
      apply run_invariant_of_mem _ hheld
      intro state label hlabel hstate
      exact exec_held hstate (kept label hlabel)
    obtain ⟨row, hfind, hcontent⟩ := hend.find
    rw [← sameSn] at hne hfind
    have hanswer := createBody_existing answer later hne valid hfind
    have hsame : sameCreateOrder stored request ↔ SameOrder stored request :=
      sameCreateOrder_iff hgoods valid (by rw [hsn, GoText.trimSpace_trimSpace, sameSn])
    rw [sameCreateOrder_content hcontent] at hanswer
    refine ⟨stored, hrows, ?_, ?_⟩
    · intro hequal
      rw [hanswer, if_pos (hsame.mpr hequal)]
    · intro hdifferent
      rw [hanswer, if_neg fun hequal => hdifferent (hsame.mp hequal)]
  · rw [hcommit] at success
    cases success

def splitOrder : OrderDTO :=
  { user := 7, orderSn := "sn", orderGoods := [⟨2, 1, "", "", 0⟩, ⟨1, 1, "", "", 0⟩,
    ⟨1, 2, "", "", 0⟩] }

def sampleCreated : OrderDB :=
  ((createBody (.ok sampleGoods) (sampleOrder 1) 0).commit noOrders).2

local instance letters : CaseTable := GoText.asciiTable

theorem create_answers_existing_split :
    let paying : List (Call × Int) := [(.update { orderSn := "sn", status := "PAYING" }, 1)]
    (createBody (.ok []) splitOrder 2).commit (run exec sampleCreated paying) =
      (.ok (), run exec sampleCreated paying) := by
  intro paying
  obtain ⟨stored, hrows, hsame, -⟩ := create_answers_existing (.ok sampleGoods) (sampleOrder 1) 0
    noOrders sampleCreated List.nodup_nil rfl (by decide +kernel) paying
      (by simp [paying, Compensates])
    (.ok []) splitOrder 2 (by decide +kernel) (by decide)
  have hstored : sampleCreated.orders.all fun row =>
      sameCreateOrder row splitOrder && hasOrderGoods row.orderGoods && row.orderSn = "sn" := by
    decide +kernel
  simp only [hrows, noOrders, List.nil_append, List.all_cons, List.all_nil, Bool.and_eq_true,
    decide_eq_true_eq] at hstored
  obtain ⟨⟨⟨hequal, hgoods⟩, hsn⟩, -⟩ := hstored
  exact hsame ((sameCreateOrder_iff hgoods (by decide) (by rw [hsn]; rfl)).mp hequal)

end Goshop.Order.Resubmission
