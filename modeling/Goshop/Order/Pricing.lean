import Goshop.Money.Fen
import Goshop.Order.Steps

/-! The total of an order. `Create` prices the lines one after the other with checked
arithmetic; what it stores is the exact sum, and a request that it cannot price leaves
no trace. -/
namespace Goshop.Order.Pricing

open Goshop.Errors Goshop.Lib Goshop.Lib.Transaction Goshop.Money.Fen
open Goshop.Order.Model Goshop.Order.Data Goshop.Order.Service Goshop.Order.Steps
open Goshop.Lib.GoText (trimSpace)

section Arithmetic

theorem toInt_ofInt {number : Int} (h : FitsInt64 number) : (Int64.ofInt number).toInt = number := by
  unfold FitsInt64 at h
  exact Int64.toInt_ofInt_of_le (by omega) (by omega)

theorem onAmounts_eq {operation : Int64 → Int64 → Except String Int64} {number : Int → Int → Int}
    (exact : ∀ left right, ExactOrRefused (operation left right) (number left.toInt right.toInt))
    (message : String) {left right : Int} (hleft : FitsInt64 left) (hright : FitsInt64 right) :
    onAmounts operation message left right = if FitsInt64 (number left right) then
      .ok (number left right) else .error (newCode .errUnknown message) := by
  have hexact := exact (.ofInt left) (.ofInt right)
  rw [toInt_ofInt hleft, toInt_ofInt hright] at hexact
  unfold onAmounts
  rw [if_pos ⟨hleft, hright⟩]
  by_cases hfits : FitsInt64 (number left right)
  · obtain ⟨result, hresult⟩ := hexact.exists_ok hfits
    rw [if_pos hfits, hresult, ← hexact.2 result hresult]
  · obtain ⟨refusal, hrefusal⟩ := hexact.1.mpr hfits
    rw [if_neg hfits, hrefusal]

theorem onAmounts_fits {operation : Int64 → Int64 → Except String Int64} {message : String}
    {left right amount : Int} (h : onAmounts operation message left right = .ok amount) :
    FitsInt64 left ∧ FitsInt64 right := by
  unfold onAmounts at h
  split at h
  next hfits => exact hfits
  · cases h

theorem fenMultiply_ok_iff {price quantity amount : Int} :
    fenMultiply price quantity = .ok amount ↔ FitsInt64 price ∧ FitsInt64 quantity ∧
      FitsInt64 (price * quantity) ∧ amount = price * quantity := by
  constructor
  · intro h
    obtain ⟨hprice, hquantity⟩ := onAmounts_fits h
    rw [fenMultiply, onAmounts_eq multiply_exact _ hprice hquantity] at h
    split at h
    next hfits =>
      cases h
      exact ⟨hprice, hquantity, hfits, rfl⟩
    · cases h
  · rintro ⟨hprice, hquantity, hfits, rfl⟩
    rw [fenMultiply, onAmounts_eq multiply_exact _ hprice hquantity, if_pos hfits]

theorem fenAdd_ok_iff {left right amount : Int} :
    fenAdd left right = .ok amount ↔ FitsInt64 left ∧ FitsInt64 right ∧
      FitsInt64 (left + right) ∧ amount = left + right := by
  constructor
  · intro h
    obtain ⟨hleft, hright⟩ := onAmounts_fits h
    rw [fenAdd, onAmounts_eq add_exact _ hleft hright] at h
    split at h
    next hfits =>
      cases h
      exact ⟨hleft, hright, hfits, rfl⟩
    · cases h
  · rintro ⟨hleft, hright, hfits, rfl⟩
    rw [fenAdd, onAmounts_eq add_exact _ hleft hright, if_pos hfits]

end Arithmetic

section Lines

def storeOf (goods : List GoodsInfo) (item : OrderGoods) : String :=
  trimSpace (goodsInfo goods item.goods).storeID

def lineAmount (goods : List GoodsInfo) (item : OrderGoods) : Int :=
  (goodsInfo goods item.goods).shopPriceFen * item.nums

def pricedLine (goods : List GoodsInfo) (item : OrderGoods) : OrderGoods :=
  { item with
    goodsName := (goodsInfo goods item.goods).name
    goodsPriceFen := (goodsInfo goods item.goods).shopPriceFen
    goodsImage := (goodsInfo goods item.goods).goodsFrontImage }

structure LineFits (goods : List GoodsInfo) (item : OrderGoods) : Prop where
  price : FitsInt64 (goodsInfo goods item.goods).shopPriceFen
  nums : FitsInt64 item.nums
  amount : FitsInt64 (lineAmount goods item)

variable {goods : List GoodsInfo}

theorem priceItem_ok_iff {priced priced' : Priced} {item : OrderGoods}
    (hfits : FitsInt64 priced.amountFen) :
    priceItem goods priced item = .ok priced' ↔
      storeOf goods item ≠ "" ∧ (priced.storeID = "" ∨ priced.storeID = storeOf goods item) ∧
        LineFits goods item ∧ FitsInt64 (priced.amountFen + lineAmount goods item) ∧
        priced' =
          { amountFen := priced.amountFen + lineAmount goods item
            storeID := storeOf goods item
            items := priced.items ++ [pricedLine goods item] } := by
  constructor
  · intro h
    simp only [priceItem] at h
    split at h
    · cases h
    next hstore =>
      split at h
      · cases h
      next hsame =>
        obtain ⟨line, hline, h⟩ := except_bind_ok.mp h
        obtain ⟨amount, hamount, h⟩ := except_bind_ok.mp h
        cases h
        obtain ⟨hprice, hnums, hproduct, rfl⟩ := fenMultiply_ok_iff.mp hline
        obtain ⟨-, -, hsum, rfl⟩ := fenAdd_ok_iff.mp hamount
        refine ⟨hstore, ?_, ⟨hprice, hnums, hproduct⟩, hsum, rfl⟩
        simp only [not_and, ne_eq, Decidable.not_not] at hsame
        by_cases hblank : priced.storeID = ""
        · exact .inl hblank
        · exact .inr (hsame hblank)
  · rintro ⟨hstore, hkept, hline, hsum, rfl⟩
    have hproduct := fenMultiply_ok_iff.mpr ⟨hline.price, hline.nums, hline.amount, rfl⟩
    have hamount := fenAdd_ok_iff.mpr ⟨hfits, hline.amount, hsum, rfl⟩
    have hsame : ¬(priced.storeID ≠ "" ∧ priced.storeID ≠ storeOf goods item) := by
      rintro ⟨hblank, hother⟩
      exact hkept.elim hblank hother
    unfold storeOf at hstore hsame
    unfold lineAmount at hamount
    simp only [priceItem, if_neg hstore, if_neg hsame, hproduct, bind, Except.bind, hamount]
    rfl

def total (goods : List GoodsInfo) (items : List OrderGoods) : Int :=
  (items.map (lineAmount goods)).sum

/-- The loop has priced the lines: all are of one store, no product and no running sum
has left the range, and the result is exact. -/
structure PricedBy (goods : List GoodsInfo) (items : List OrderGoods) (start final : Priced) :
    Prop where
  store : ∀ item ∈ items, storeOf goods item ≠ "" ∧ storeOf goods item = final.storeID
  kept : start.storeID = "" ∨ start.storeID = final.storeID
  line : ∀ item ∈ items, LineFits goods item
  running : ∀ done, done <+: items → FitsInt64 (start.amountFen + total goods done)
  amount : final.amountFen = start.amountFen + total goods items
  lines : final.items = start.items ++ items.map (pricedLine goods)

theorem foldlM_priceItem_ok {items : List OrderGoods} {start final : Priced}
    (hfits : FitsInt64 start.amountFen)
    (h : items.foldlM (priceItem goods) start = .ok final) : PricedBy goods items start final := by
  induction items generalizing start with
  | nil =>
    cases h
    exact
      { store := by simp
        kept := .inr rfl
        line := by simp
        running := by simpa [total] using hfits
        amount := by simp [total]
        lines := by simp }
  | cons item rest ih =>
    rw [List.foldlM_cons] at h
    obtain ⟨mid, hitem, hrest⟩ := except_bind_ok.mp h
    obtain ⟨hstore, hkept, hline, hsum, rfl⟩ := (priceItem_ok_iff hfits).mp hitem
    have hpriced := ih hsum hrest
    have hfinal : storeOf goods item = final.storeID := hpriced.kept.resolve_left hstore
    constructor
    case store =>
      intro other hother
      obtain rfl | hother := List.mem_cons.mp hother
      · exact ⟨hstore, hfinal⟩
      · exact hpriced.store other hother
    case kept => rwa [← hfinal]
    case line =>
      intro other hother
      obtain rfl | hother := List.mem_cons.mp hother
      · exact hline
      · exact hpriced.line other hother
    case running =>
      intro done hdone
      cases done with
      | nil => simpa [total] using hfits
      | cons first others =>
        obtain ⟨rfl, hothers⟩ := List.cons_prefix_cons.mp hdone
        have := hpriced.running others hothers
        simpa [total, Int.add_assoc] using this
    case amount => simp [hpriced.amount, total, Int.add_assoc]
    case lines => simp [hpriced.lines]

theorem foldlM_priceItem_run {items : List OrderGoods} {start : Priced} {store : String}
    (hne : store ≠ "") (hkept : start.storeID = "" ∨ start.storeID = store)
    (hstore : ∀ item ∈ items, storeOf goods item = store)
    (hline : ∀ item ∈ items, LineFits goods item)
    (hrunning : ∀ done, done <+: items → FitsInt64 (start.amountFen + total goods done)) :
    ∃ final, items.foldlM (priceItem goods) start = .ok final := by
  induction items generalizing start with
  | nil => exact ⟨start, rfl⟩
  | cons item rest ih =>
    have hfits : FitsInt64 start.amountFen := by simpa [total] using hrunning [] List.nil_prefix
    have hsum : FitsInt64 (start.amountFen + lineAmount goods item) := by
      simpa [total] using hrunning [item] (by simp)
    have hitem := hstore item List.mem_cons_self
    have hprice := (priceItem_ok_iff hfits).mpr ⟨hitem ▸ hne, hitem ▸ hkept,
      hline item List.mem_cons_self, hsum, rfl⟩
    simp only [List.foldlM_cons, hprice, bind, Except.bind]
    apply ih
    · exact .inr hitem
    · exact fun other hother => hstore other (List.mem_cons_of_mem _ hother)
    · exact fun other hother => hline other (List.mem_cons_of_mem _ hother)
    · intro done hdone
      have := hrunning (item :: done) (List.cons_prefix_cons.mpr ⟨rfl, hdone⟩)
      simpa [total, Int.add_assoc] using this

end Lines

section Creation

variable {goods : Except AppError (List GoodsInfo)} {order : OrderDTO} {now : Int}
  {db db' : OrderDB}

/-- The stored order: its lines with the prices that were used, their exact sum, and
the one store that all goods have. -/
structure StoredExactly (answer : List GoodsInfo) (order : OrderDTO) (row : OrderInfoDO) :
    Prop where
  number : hasSn (trimSpace order.orderSn) row
  lines : row.orderGoods = order.orderGoods.map (pricedLine answer)
  amount : row.orderMountFen =
    (row.orderGoods.map fun line => line.goodsPriceFen * line.nums).sum
  store : row.storeID ≠ ""
  shared : ∀ item ∈ order.orderGoods, storeOf answer item = row.storeID

/-- Why a request cannot be priced with an answer of the goods service. The service
looks up the goods one by one as they were asked for, so an answer names no others. -/
inductive Unpayable (answer : List GoodsInfo) (items : List OrderGoods) : Prop where
  | line {item : OrderGoods} (hitem : item ∈ items) (hrange : ¬FitsInt64 (lineAmount answer item))
  | sum {done : List OrderGoods} (hdone : done <+: items) (hrange : ¬FitsInt64 (total answer done))
  | missing {item : OrderGoods} (hitem : item ∈ items)
      (hmissing : ∀ info ∈ answer, info.id ≠ item.goods)
  | duplicated (hasked : ∀ info ∈ answer, info.id ∈ items.map (·.goods))
      (hduplicated : ¬(items.map (·.goods)).Nodup)
  | noStore {item : OrderGoods} (hitem : item ∈ items) (hstore : storeOf answer item = "")
  | otherStore {item other : OrderGoods} (hitem : item ∈ items) (hother : other ∈ items)
      (hstore : storeOf answer item ≠ storeOf answer other)

theorem hasOrderGoods_ne_nil {items : List OrderGoods} (h : hasOrderGoods items) : items ≠ [] := by
  simp only [hasOrderGoods, decide_eq_true_eq] at h
  exact h.1

theorem storeOf_missing {answer : List GoodsInfo} {item : OrderGoods}
    (h : ∀ info ∈ answer, info.id ≠ item.goods) : storeOf answer item = "" := by
  have hnone : answer.reverse.find? (·.id = item.goods) = none := by
    rw [List.find?_eq_none]
    intro info hinfo
    simpa using h info (List.mem_reverse.mp hinfo)
  simp [storeOf, goodsInfo, hnone]

/-- An answer with as many goods as there are lines leaves no room for a goods that is
ordered twice. -/
theorem nodup_of_length {answer : List GoodsInfo} {items : List OrderGoods}
    (hasked : ∀ info ∈ answer, info.id ∈ items.map (·.goods))
    (hcount : (answer.map (·.id)).dedup.length = items.length) : (items.map (·.goods)).Nodup := by
  have hsubset : (answer.map (·.id)).dedup ⊆ (items.map (·.goods)).dedup := by
    intro id hid
    obtain ⟨info, hinfo, rfl⟩ := List.mem_map.mp (List.mem_dedup.mp hid)
    exact List.mem_dedup.mpr (hasked info hinfo)
  have hle := (List.nodup_dedup _).length_le_of_subset hsubset
  have hsublist := List.dedup_sublist (items.map (·.goods))
  rw [← List.dedup_eq_self]
  apply hsublist.eq_of_length_le
  rw [hcount] at hle
  simpa using hle

theorem priceOrder_pricedBy {answer : List GoodsInfo} {priced : OrderDTO}
    (h : priceOrder answer order = .ok priced) :
    (answer.map (·.id)).dedup.length = order.orderGoods.length ∧
      PricedBy answer order.orderGoods {}
        ⟨priced.orderMountFen, priced.storeID, priced.orderGoods⟩ := by
  obtain ⟨hcount, final, hfold, rfl⟩ := priceOrder_ok h
  exact ⟨hcount, foldlM_priceItem_ok (by decide) hfold⟩

theorem not_unpayable {answer : List GoodsInfo} {items : List OrderGoods} {final : Priced}
    (hcount : (answer.map (·.id)).dedup.length = items.length)
    (h : PricedBy answer items {} final) : ¬Unpayable answer items := by
  rintro (⟨hitem, hrange⟩ | ⟨hdone, hrange⟩ | ⟨hitem, hmissing⟩ | ⟨hasked, hduplicated⟩ |
    ⟨hitem, hstore⟩ | ⟨hitem, hother, hstore⟩)
  · exact hrange (h.line _ hitem).amount
  · have hsum := h.running _ hdone
    rw [Int.zero_add] at hsum
    exact hrange hsum
  · exact (h.store _ hitem).1 (storeOf_missing hmissing)
  · exact hduplicated (nodup_of_length hasked hcount)
  · exact (h.store _ hitem).1 hstore
  · exact hstore ((h.store _ hitem).2.trans (h.store _ hother).2.symm)

theorem createBody_exact (fresh : findOrder db (trimSpace order.orderSn) = none)
    (h : createBody goods order now db = .ok ((), db')) :
    ∃ answer row, goods = .ok answer ∧ db'.orders = db.orders ++ [row] ∧
      StoredExactly answer order row ∧ ¬Unpayable answer order.orderGoods := by
  obtain ⟨prepared, hprepared, ⟨existing, hfind, -⟩ | ⟨-, answer, priced, hanswer, hpriced, hrun⟩⟩ :=
    createBody_cases h
  · rw [fresh] at hfind
    cases hfind
  obtain ⟨-, hgoods, rfl⟩ := prepareCreate_ok hprepared
  obtain ⟨hcount, hby⟩ := priceOrder_pricedBy hpriced
  obtain ⟨-, final, -, rfl⟩ := priceOrder_ok hpriced
  obtain ⟨-, rfl⟩ := createTxn_ok hrun
  have hlines : final.items = order.orderGoods.map (pricedLine answer) := by
    simpa using hby.lines
  refine ⟨answer, _, hanswer, rfl, ?_, not_unpayable hcount hby⟩
  constructor
  case number => simp [hasSn, newOrder]
  case lines => exact hlines
  case amount =>
    change final.amountFen = (final.items.map fun line => line.goodsPriceFen * line.nums).sum
    rw [hlines, List.map_map]
    exact hby.amount.trans (Int.zero_add _)
  case store =>
    obtain ⟨item, hitem⟩ := List.exists_mem_of_ne_nil _ (hasOrderGoods_ne_nil hgoods)
    obtain ⟨hne, hstore⟩ := hby.store item hitem
    exact hstore ▸ hne
  case shared =>
    intro item hitem
    exact (hby.store item hitem).2

def OrderFits (order : OrderDTO) : Prop :=
  Sql.fitsVarchar 30 (trimSpace order.orderSn) ∧ Sql.fitsVarchar 20 order.payType ∧
    Sql.fitsVarchar 20 (normalizeInitialOrderStatus order.status) ∧
    Sql.fitsVarchar 100 order.tradeNo ∧ Sql.fitsVarchar 100 order.address ∧
    Sql.fitsVarchar 20 order.signerName ∧ Sql.fitsVarchar 11 order.singerMobile ∧
    Sql.fitsVarchar 20 order.post ∧ Sql.fitsVarchar 64 ("user:" ++ toString order.user)

def LineTextsFit (answer : List GoodsInfo) (item : OrderGoods) : Prop :=
  Sql.fitsVarchar 100 (goodsInfo answer item.goods).name ∧
    Sql.fitsVarchar 200 (goodsInfo answer item.goods).goodsFrontImage

/-- What the request and the answer of the goods service must be for the order to be
stored: goods of one store at prices that stay in range, and texts that fit. -/
structure Orderable (order : OrderDTO) (answer : List GoodsInfo) : Prop where
  user : 0 < order.user
  number : trimSpace order.orderSn ≠ ""
  goods : hasOrderGoods order.orderGoods
  count : (answer.map (·.id)).dedup.length = order.orderGoods.length
  store : ∃ store, store ≠ "" ∧ Sql.fitsVarchar 64 store ∧
    ∀ item ∈ order.orderGoods, storeOf answer item = store
  line : ∀ item ∈ order.orderGoods, LineFits answer item
  running : ∀ done, done <+: order.orderGoods → FitsInt64 (total answer done)
  texts : OrderFits order
  lineTexts : ∀ item ∈ order.orderGoods, LineTextsFit answer item

theorem normalizeInitialOrderStatus_ne (status : String) :
    trimSpace (normalizeInitialOrderStatus status) ≠ "" := by
  unfold normalizeInitialOrderStatus
  split
  · decide
  next hne =>
    rw [GoText.trimSpace_trimSpace]
    exact hne

theorem createTxn_runs_iff :
    (∃ db', createTxn order now db = .ok ((), db')) ↔
      0 < order.user ∧ trimSpace order.orderSn ≠ "" ∧
        trimSpace order.target.text ≠ "" ∧
        fitsOrder (newOrder 0 { order with orderSn := trimSpace order.orderSn } 0) = true ∧
        fitsStatusLog ⟨0, order.orderSn, .blank, order.target, "order created", "order.create",
          "user:" ++ toString order.user⟩ = true := by
  constructor
  · rintro ⟨db', h⟩
    simp only [createTxn, Txn.bind_ok, Txn.mapError_ok] at h
    obtain ⟨id, created, hcreate, _, cleared, -, hlog⟩ := h
    simp only [ordersCreate, Txn.guard_bind_ok, decide_eq_true_eq, Txn.read_bind] at hcreate
    simp only [statusLogsCreate, insertStatusLog, Txn.guard_bind_ok, decide_eq_true_eq,
      Txn.read_bind] at hlog
    exact ⟨hcreate.1.1, hcreate.1.2, hlog.1.2, hcreate.2.1, hlog.2.1⟩
  · rintro ⟨huser, hsn, hstatus, hfits, hlog⟩
    have hcreate : ∃ created, ordersCreate order now db = .ok created := by
      simp only [ordersCreate, Txn.guard_bind_ok, decide_eq_true_eq, Txn.read_bind,
        Txn.write_bind, Txn.pure_ok]
      exact ⟨_, ⟨huser, hsn⟩, hfits, rfl⟩
    have hclear : ∀ created, ∃ cleared,
        cartsDeleteByGoodsIDs order.user (order.orderGoods.map (·.goods)) created =
          .ok ((), cleared) := by
      intro created
      simp only [cartsDeleteByGoodsIDs, Txn.when_ok, Txn.read_bind, Txn.write_ok]
      split <;> exact ⟨_, rfl⟩
    obtain ⟨⟨id, created⟩, hcreate⟩ := hcreate
    obtain ⟨cleared, hclear⟩ := hclear created
    let entry : StatusLogEntry := ⟨id, order.orderSn, .blank, order.target, "order created",
      "order.create", "user:" ++ toString order.user⟩
    obtain ⟨logs, hrun⟩ : ∃ logs, statusLogsCreate entry now cleared =
        .ok ((), { cleared with statusLogs := logs }) :=
      statusLogsCreate_run entry hsn hstatus hlog
    refine ⟨{ cleared with statusLogs := logs }, ?_⟩
    rw [createTxn, Txn.bind_of_ok (Txn.mapError_of_ok hcreate),
      Txn.bind_of_ok (Txn.mapError_of_ok hclear), Txn.mapError_of_ok hrun]

theorem createBody_runs {answer : List GoodsInfo} {prepared priced : OrderDTO}
    (fresh : findOrder db (trimSpace order.orderSn) = none)
    (hprepared : prepareCreate order = .ok prepared)
    (hpriced : priceOrder answer prepared = .ok priced)
    (hrun : createTxn priced now db = .ok ((), db')) :
    createBody (.ok answer) order now db = .ok ((), db') := by
  obtain ⟨hne, -, hsame⟩ := prepareCreate_ok hprepared
  have hget : ordersGet db prepared.orderSn =
      .error (newCode .errOrderNotFound "record not found") := by
    simp only [hsame, ordersGet, GoText.trimSpace_trimSpace, if_neg hne, fresh]
  have hcode : (newCode .errOrderNotFound "record not found").code = .errOrderNotFound := rfl
  rw [createBody, hprepared, Txn.lift_ok_bind, Txn.read_bind]
  simp only [hget, if_pos hcode, Txn.lift_ok_bind, hpriced, hrun]

def pricedOrder (order : OrderDTO) (answer : List GoodsInfo) (store : String) : OrderDTO :=
  { order with
    orderSn := trimSpace order.orderSn
    status := normalizeInitialOrderStatus order.status
    orderMountFen := total answer order.orderGoods
    storeID := store
    orderGoods := order.orderGoods.map (pricedLine answer) }

theorem priceOrder_run {answer : List GoodsInfo} (orderable : Orderable order answer) :
    ∃ prepared store, prepareCreate order = .ok prepared ∧ Sql.fitsVarchar 64 store ∧
      priceOrder answer prepared = .ok (pricedOrder order answer store) := by
  obtain ⟨store, hne, hstore, hshared⟩ := orderable.store
  have hstart : FitsInt64 ({} : Priced).amountFen := by decide
  have hrunning : ∀ done, done <+: order.orderGoods →
      FitsInt64 (({} : Priced).amountFen + total answer done) := by
    simpa using orderable.running
  obtain ⟨final, hfold⟩ :=
    foldlM_priceItem_run hne (.inl rfl) hshared orderable.line hrunning
  have hby := foldlM_priceItem_ok hstart hfold
  obtain ⟨item, hitem⟩ := List.exists_mem_of_ne_nil _ (hasOrderGoods_ne_nil orderable.goods)
  have hfinal : final.storeID = store := (hby.store item hitem).2.symm.trans (hshared item hitem)
  have hprepared : prepareCreate order = .ok { order with
      orderSn := trimSpace order.orderSn
      status := normalizeInitialOrderStatus order.status } := by
    simp only [prepareCreate, if_neg orderable.number, orderable.goods, not_true_eq_false, if_false]
  refine ⟨_, store, hprepared, hstore, ?_⟩
  have hamount := hby.amount
  have hlines := hby.lines
  simp only [Int.zero_add, List.nil_append] at hamount hlines
  simp only [priceOrder, orderable.count, ne_eq, not_true_eq_false, if_false, hfold, bind,
    Except.bind, hamount, hlines, hfinal]
  rfl

theorem pricedOrder_runs_iff {answer : List GoodsInfo} {store : String} :
    (∃ db', createTxn (pricedOrder order answer store) now db = .ok ((), db')) ↔
      0 < order.user ∧ trimSpace order.orderSn ≠ "" ∧ OrderFits order ∧
        Sql.fitsVarchar 64 store ∧ ∀ item ∈ order.orderGoods, LineTextsFit answer item := by
  have hblank : fitsStatusLog
      ⟨0, "", .blank, .blank, "order created", "order.create", ""⟩ = true := by
    decide
  rw [createTxn_runs_iff]
  simp only [pricedOrder, GoText.trimSpace_trimSpace, fitsOrder, newOrder, OrderDTO.target,
    OrderStatus.text_ofText, fitsStatusLog, OrderFits, LineTextsFit, pricedLine,
    List.all_map, Bool.and_eq_true,
    List.all_eq_true, Function.comp_apply, normalizeInitialOrderStatus_ne, ne_eq, not_false_eq_true,
    true_and] at hblank ⊢
  grind

/-- `Create` of an unused number succeeds exactly when the goods service answers with
goods that the order can be stored with. -/
theorem createBody_runs_iff (fresh : findOrder db (trimSpace order.orderSn) = none) :
    (∃ db', createBody goods order now db = .ok ((), db')) ↔
      ∃ answer, goods = .ok answer ∧ Orderable order answer := by
  constructor
  · rintro ⟨db', h⟩
    obtain ⟨prepared, hprepared, ⟨existing, hfind, -⟩ | ⟨-, answer, priced, hanswer, hpriced, hrun⟩⟩ :=
      createBody_cases h
    · rw [fresh] at hfind
      cases hfind
    obtain ⟨hne, hgoods, rfl⟩ := prepareCreate_ok hprepared
    obtain ⟨hcount, hby⟩ := priceOrder_pricedBy hpriced
    obtain ⟨-, final, -, rfl⟩ := priceOrder_ok hpriced
    have hamount := hby.amount
    have hlines := hby.lines
    simp only [Int.zero_add, List.nil_append] at hamount hlines
    simp only [hamount, hlines] at hrun
    have hruns : ∃ db', createTxn (pricedOrder order answer final.storeID) now db = .ok ((), db') :=
      ⟨db', hrun⟩
    obtain ⟨huser, -, hfits, hstore, htexts⟩ := pricedOrder_runs_iff.mp hruns
    obtain ⟨item, hitem⟩ := List.exists_mem_of_ne_nil _ (hasOrderGoods_ne_nil hgoods)
    obtain ⟨hstoreNe, hitemStore⟩ := hby.store item hitem
    exact ⟨answer, hanswer,
      { user := huser
        number := hne
        goods := hgoods
        count := hcount
        store := ⟨final.storeID, hitemStore ▸ hstoreNe, hstore,
          fun other hother => (hby.store other hother).2⟩
        line := hby.line
        running := by simpa using hby.running
        texts := hfits
        lineTexts := htexts }⟩
  · rintro ⟨answer, rfl, orderable⟩
    obtain ⟨prepared, store, hprepared, hstore, hpriced⟩ := priceOrder_run orderable
    obtain ⟨db', hrun⟩ := pricedOrder_runs_iff.mpr ⟨orderable.user, orderable.number,
      orderable.texts, hstore, orderable.lineTexts⟩
    exact ⟨db', createBody_runs fresh hprepared hpriced hrun⟩

/-- The total of a created order is exact, and a request that cannot be priced changes
nothing. -/
theorem create_total_exact (goods : Except AppError (List GoodsInfo)) (order : OrderDTO)
    (now : Int) (db : OrderDB) (fresh : findOrder db (trimSpace order.orderSn) = none) :
    (∀ db', (createBody goods order now).commit db = (.ok (), db') → ∃ answer row,
      goods = .ok answer ∧ db'.orders = db.orders ++ [row] ∧ StoredExactly answer order row) ∧
    ∀ answer, goods = .ok answer → Unpayable answer order.orderGoods →
      ∃ err, (createBody goods order now).commit db = (.error err, db) := by
  obtain ⟨_, db', hrun, hcommit⟩ | ⟨err, hrun, hcommit⟩ :=
    Txn.commit_cases (createBody goods order now) db
  · obtain ⟨answer, row, hanswer, hrows, hstored, hpayable⟩ := createBody_exact fresh hrun
    rw [hcommit]
    constructor
    · intro final hfinal
      cases hfinal
      exact ⟨answer, row, hanswer, hrows, hstored⟩
    · intro other hother hunpayable
      rw [hanswer] at hother
      cases hother
      exact absurd hunpayable hpayable
  · rw [hcommit]
    constructor
    · intro final hfinal
      cases hfinal
    · intro _ _ _
      exact ⟨err, rfl⟩

def sampleGoods : List GoodsInfo :=
  [{ id := 1, shopPriceFen := 999, storeID := "north" },
    { id := 2, shopPriceFen := 4611686018427387904, storeID := " north" }]

def sampleOrder (nums : Int) : OrderDTO :=
  { user := 7, orderSn := " sn", orderGoods := [⟨1, 3, "", "", 0⟩, ⟨2, nums, "", "", 0⟩] }

theorem create_total_exact_sample :
    (∃ answer row, (.ok sampleGoods : Except AppError _) = .ok answer ∧
      ((createBody (.ok sampleGoods) (sampleOrder 1) 0).commit noOrders).2.orders = [] ++ [row] ∧
      StoredExactly answer (sampleOrder 1) row) ∧
    ∃ err, (createBody (.ok sampleGoods) (sampleOrder 2) 0).commit noOrders =
      (.error err, noOrders) :=
  ⟨(create_total_exact (.ok sampleGoods) (sampleOrder 1) 0 noOrders rfl).1 _ (by decide +kernel),
    (create_total_exact (.ok sampleGoods) (sampleOrder 2) 0 noOrders rfl).2 sampleGoods rfl
      (@Unpayable.line _ _ ⟨2, 2, "", "", 0⟩ (by decide) (by decide +kernel))⟩

end Creation

end Goshop.Order.Pricing
