import Goshop.Lib.Run
import Goshop.Order.Pricing

/-! `CreateCom` undoes `Create`: the order is hidden again and the cart shows what it
showed before, however often the compensation is repeated. -/
namespace Goshop.Order.CartRestore

open Goshop.Errors Goshop.Lib Goshop.Lib.Transaction Goshop.Lib.Run
open Goshop.Order.Model Goshop.Order.Data Goshop.Order.Service Goshop.Order.Steps
open Goshop.Order.Pricing
open Goshop.Lib.GoText (trimSpace)

section Carts

structure CartItem where
  user : Int
  goods : Int
  nums : Int
  checked : Bool
deriving DecidableEq, Repr

def cartItem (row : ShoppingCartDO) : CartItem :=
  ⟨row.user, row.goods, row.nums, row.checked⟩

def Shows (rows : List ShoppingCartDO) (item : CartItem) : Prop :=
  ∃ row ∈ rows, row.deleted = false ∧ cartItem row = item

def others (userID : Int) (rows : List ShoppingCartDO) : List ShoppingCartDO :=
  rows.filter (·.user ≠ userID)

variable {userID now : Int} {rows : List ShoppingCartDO}

theorem others_map {f : ShoppingCartDO → ShoppingCartDO} (hkeep : ∀ row, (f row).user = row.user)
    (hother : ∀ row, row.user ≠ userID → f row = row) :
    others userID (rows.map f) = others userID rows := by
  unfold others
  induction rows with
  | nil => rfl
  | cons row rest ih =>
    rw [List.map_cons, List.filter_cons, List.filter_cons, ih, hkeep]
    split
    next huser => rw [hother row (of_decide_eq_true huser)]
    next => rfl

theorem others_hideCarts (goodsIDs : List Int) :
    others userID (hideCarts userID goodsIDs rows) = others userID rows := by
  apply others_map
  · intro row
    split <;> rfl
  · intro row huser
    rw [if_neg fun hrow => huser hrow.2.1]

theorem others_restoredItem (item : OrderGoods) :
    others userID (restoredItem userID now item rows) = others userID rows := by
  have hrefreshed : others userID (refreshedCarts userID now item rows) = others userID rows := by
    apply others_map
    · intro row
      split <;> rfl
    · intro row huser
      rw [if_neg fun hrow => huser hrow.2.1]
  unfold restoredItem
  split
  · split
    · exact hrefreshed
    · simp [others]
  · rfl

theorem others_restoredCarts (items : List OrderGoods) :
    others userID (restoredCarts userID items now rows) = others userID rows := by
  have hfold : others userID (items.foldl
      (fun rows item => restoredItem userID now item rows) rows) =
      others userID rows := by
    induction items generalizing rows with
    | nil => rfl
    | cons item rest ih => rw [List.foldl_cons, ih, others_restoredItem]
  unfold restoredCarts
  split
  · exact hfold
  · rfl

theorem shows_append {row : ShoppingCartDO} {item : CartItem} :
    Shows (rows ++ [row]) item ↔ Shows rows item ∨ row.deleted = false ∧ cartItem row = item := by
  simp [Shows, or_and_right, exists_or]

theorem shows_hideCarts {goodsIDs : List Int} {item : CartItem} :
    Shows (hideCarts userID goodsIDs rows) item ↔
      Shows rows item ∧ ¬(item.user = userID ∧ item.goods ∈ goodsIDs) := by
  unfold Shows hideCarts
  constructor
  · rintro ⟨row, hrow, hvisible, rfl⟩
    obtain ⟨before, hbefore, rfl⟩ := List.mem_map.mp hrow
    split at hvisible
    · cases hvisible
    next hkept =>
      rw [if_neg hkept]
      refine ⟨⟨before, hbefore, hvisible, rfl⟩, ?_⟩
      rintro ⟨huser, hgoods⟩
      exact hkept ⟨by simp [hvisible], huser, hgoods⟩
  · rintro ⟨⟨row, hrow, hvisible, rfl⟩, hkept⟩
    refine ⟨row, List.mem_map.mpr ⟨row, hrow, ?_⟩, hvisible, rfl⟩
    rw [if_neg fun hhidden => hkept hhidden.2]

def lineItem (userID : Int) (line : OrderGoods) : CartItem :=
  ⟨userID, line.goods, line.nums, true⟩

/-- What the cart shows of the goods of a line is the line. -/
def Agrees (userID : Int) (line : OrderGoods) (rows : List ShoppingCartDO) : Prop :=
  ∀ item, Shows rows item → item.user = userID → item.goods = line.goods →
    item = lineItem userID line

theorem shows_refreshedCarts {line : OrderGoods} (hagrees : Agrees userID line rows)
    (item : CartItem) : Shows (refreshedCarts userID now line rows) item ↔ Shows rows item := by
  have hsame (row : ShoppingCartDO) (hrow : row ∈ rows) (hvisible : row.deleted = false) :
      cartItem (if !row.deleted ∧ row.user = userID ∧ row.goods = line.goods then
        { row with nums := max row.nums line.nums, checked := true, updateTime := now }
        else row) = cartItem row := by
    split
    next hmatch =>
      have hitem := hagrees (cartItem row) ⟨row, hrow, hvisible, rfl⟩ hmatch.2.1 hmatch.2.2
      simp only [cartItem, lineItem, CartItem.mk.injEq] at hitem
      obtain ⟨-, -, hnums, hchecked⟩ := hitem
      simp [cartItem, hnums, hchecked]
    next => rfl
  have hvisible (row : ShoppingCartDO) :
      (if !row.deleted ∧ row.user = userID ∧ row.goods = line.goods then
        { row with nums := max row.nums line.nums, checked := true, updateTime := now }
        else row).deleted = row.deleted := by
    split <;> rfl
  unfold Shows refreshedCarts
  constructor
  · rintro ⟨row, hrow, hshown, rfl⟩
    obtain ⟨before, hbefore, rfl⟩ := List.mem_map.mp hrow
    rw [hvisible] at hshown
    exact ⟨before, hbefore, hshown, (hsame before hbefore hshown).symm⟩
  · rintro ⟨row, hrow, hshown, rfl⟩
    exact ⟨_, List.mem_map_of_mem hrow, by rw [hvisible, hshown], hsame row hrow hshown⟩

theorem shows_restoredItem (now : Int) {line : OrderGoods} (hvalid : 0 < line.goods ∧ 0 < line.nums)
    (hagrees : Agrees userID line rows) (item : CartItem) :
    Shows (restoredItem userID now line rows) item ↔
      Shows rows item ∨ item = lineItem userID line := by
  unfold restoredItem
  rw [if_pos hvalid]
  split
  next haffected =>
    rw [shows_refreshedCarts hagrees]
    -- a row that has changed was a visible row of the goods, so the item is there
    obtain ⟨row, hrow, hchanged⟩ := Sql.affected_map_ne_zero.mp haffected
    constructor
    · exact .inl
    · rintro (hshown | rfl)
      · exact hshown
      · split at hchanged
        next hmatch =>
          have hvisible : row.deleted = false := by simpa using hmatch.1
          rw [← hagrees (cartItem row) ⟨row, hrow, hvisible, rfl⟩ hmatch.2.1 hmatch.2.2]
          exact ⟨row, hrow, hvisible, rfl⟩
        next => exact absurd rfl hchanged
  next =>
    rw [shows_append]
    constructor
    · rintro (hshown | ⟨-, rfl⟩)
      · exact .inl hshown
      · exact .inr rfl
    · rintro (hshown | rfl)
      · exact .inl hshown
      · exact .inr ⟨rfl, rfl⟩

/-- The loop of the compensation puts back all lines that agree with the cart and with
each other. -/
theorem shows_restoredCarts {lines : List OrderGoods} (huser : userID ≠ 0)
    (hvalid : ∀ line ∈ lines, 0 < line.goods ∧ 0 < line.nums)
    (hlines : ∀ line ∈ lines, ∀ other ∈ lines, line.goods = other.goods → line.nums = other.nums)
    (hagrees : ∀ line ∈ lines, Agrees userID line rows) (item : CartItem) :
    Shows (restoredCarts userID lines now rows) item ↔
      Shows rows item ∨ ∃ line ∈ lines, item = lineItem userID line := by
  unfold restoredCarts
  rw [if_pos huser]
  induction lines generalizing rows with
  | nil => simp
  | cons line rest ih =>
    have hline := shows_restoredItem now (hvalid line List.mem_cons_self)
      (hagrees line List.mem_cons_self)
    rw [List.foldl_cons, ih, hline]
    · simp only [List.mem_cons, exists_eq_or_imp, or_assoc]
    · exact fun other hother => hvalid other (List.mem_cons_of_mem line hother)
    · intro first hfirst second hsecond
      exact hlines first (List.mem_cons_of_mem line hfirst) second
        (List.mem_cons_of_mem line hsecond)
    · intro other hother shown hshown hshownUser hshownGoods
      obtain hshown | rfl := (hline shown).mp hshown
      · exact hagrees other (List.mem_cons_of_mem line hother) shown hshown hshownUser hshownGoods
      · have hnums := hlines line List.mem_cons_self other (List.mem_cons_of_mem line hother)
          hshownGoods
        simp only [lineItem] at hshownGoods ⊢
        rw [hshownGoods, hnums]

/-- The goods of a line are in exactly one row of the user's cart, checked and with the
ordered quantity. -/
def InCart (userID : Int) (rows : List ShoppingCartDO) (line : OrderGoods) : Prop :=
  ∃ row, (rows.filter fun row => !row.deleted ∧ row.user = userID ∧ row.goods = line.goods) = [row] ∧
    row.checked = true ∧ row.nums = line.nums

theorem InCart.shows_iff {line : OrderGoods} (h : InCart userID rows line) (item : CartItem) :
    Shows rows item ∧ item.user = userID ∧ item.goods = line.goods ↔
      item = lineItem userID line := by
  obtain ⟨row, hfilter, hchecked, hnums⟩ := h
  have hmem (other : ShoppingCartDO) : other ∈ rows ∧ other.deleted = false ∧
      other.user = userID ∧ other.goods = line.goods ↔ other = row := by
    rw [← List.mem_singleton (a := other), ← hfilter, List.mem_filter]
    simp
  obtain ⟨hrow, hvisible, huser, hgoods⟩ := (hmem row).mpr rfl
  have hrowItem : cartItem row = lineItem userID line := by
    simp only [cartItem, lineItem, huser, hgoods, hnums, hchecked]
  constructor
  · rintro ⟨⟨other, hother, hshown, rfl⟩, hsameUser, hsameGoods⟩
    rw [(hmem other).mp ⟨hother, hshown, hsameUser, hsameGoods⟩]
    exact hrowItem
  · rintro rfl
    exact ⟨⟨row, hrow, hvisible, hrowItem⟩, rfl, rfl⟩

theorem shows_restored {lines : List OrderGoods} (huser : userID ≠ 0)
    (hvalid : ∀ line ∈ lines, 0 < line.goods ∧ 0 < line.nums)
    (hcart : ∀ line ∈ lines, InCart userID rows line) (item : CartItem) :
    Shows (restoredCarts userID lines now (hideCarts userID (lines.map (·.goods)) rows)) item ↔
      Shows rows item := by
  rw [shows_restoredCarts huser hvalid, shows_hideCarts]
  · constructor
    · rintro (⟨hshown, -⟩ | ⟨line, hline, rfl⟩)
      · exact hshown
      · exact (((hcart line hline).shows_iff _).mpr rfl).1
    · intro hshown
      by_cases htaken : item.user = userID ∧ item.goods ∈ lines.map (·.goods)
      · obtain ⟨hsameUser, hgoods⟩ := htaken
        obtain ⟨line, hline, hsameGoods⟩ := List.mem_map.mp hgoods
        exact .inr ⟨line, hline,
          ((hcart line hline).shows_iff item).mp ⟨hshown, hsameUser, hsameGoods.symm⟩⟩
      · exact .inl ⟨hshown, htaken⟩
  · intro line hline other hother hgoods
    have hshown := ((hcart other hother).shows_iff _).mpr rfl
    have hsame := ((hcart line hline).shows_iff _).mp ⟨hshown.1, rfl, hgoods.symm⟩
    exact (congrArg CartItem.nums hsame).symm
  · intro line hline shown hshown hsameUser hsameGoods
    refine absurd ⟨hsameUser, ?_⟩ (shows_hideCarts.mp hshown).2
    rw [hsameGoods]
    exact List.mem_map_of_mem hline

end Carts

section Orders

variable {db : OrderDB} {orderSn : String}

/-- The orders, with their goods, that a query can see. -/
def visibleOrders (db : OrderDB) : List OrderInfoDO :=
  db.orders.filter (!·.deleted)

theorem findOrder_eq (db : OrderDB) (orderSn : String) :
    findOrder db orderSn = (visibleOrders db).find? (·.orderSn = orderSn) := by
  rw [visibleOrders, List.find?_filter, findOrder]
  congr 1
  funext row
  simp [hasSn]

theorem hideOrder_new {row : OrderInfoDO} (hvisible : row.deleted = false)
    (hkey : row.id ∉ db.orders.map (·.id)) :
    hideOrder row (db.orders ++ [row]) = db.orders ++ [{ row with deleted := true }] := by
  have hold : hideOrder row db.orders = db.orders := by
    refine (List.map_congr_left ?_).trans (List.map_id _)
    intro other hother
    have hother : other.id ≠ row.id := fun hid => hkey (hid ▸ List.mem_map_of_mem hother)
    simp [hother]
  unfold hideOrder at hold ⊢
  rw [List.map_append, hold]
  simp [hvisible]

theorem createComBody_absent {text : String} (now : Int)
    (h : findOrder db (trimSpace text) = none) :
    (createComBody text now).commit db = (.ok (), db) := by
  apply Txn.commit_of_ok
  by_cases hblank : trimSpace text = ""
  · exact createComBody_blank hblank now db
  · rw [createComBody_run hblank]
    simp only [hideFound, restoredFound, h]

structure Undone (userID : Int) (db state : OrderDB) : Prop where
  orders : visibleOrders state = visibleOrders db
  carts : ∀ item, Shows state.carts item ↔ Shows db.carts item
  others : others userID state.carts = others userID db.carts

def compensate (db : OrderDB) (call : String × Int) : OrderDB :=
  ((createComBody call.1 call.2).commit db).2

structure Created (order : OrderDTO) (row : OrderInfoDO) (db created : OrderDB) : Prop where
  orders : created.orders = db.orders ++ [row]
  carts : created.carts = hideCarts order.user (order.orderGoods.map (·.goods)) db.carts
  number : row.orderSn = trimSpace order.orderSn
  named : trimSpace order.orderSn ≠ ""
  visible : row.deleted = false
  key : row.id ∉ db.orders.map (·.id)
  user : row.user = order.user
  positive : 0 < order.user
  goods : row.orderGoods.map (·.goods) = order.orderGoods.map (·.goods)
  valid : ∀ line ∈ row.orderGoods, 0 < line.goods ∧ 0 < line.nums
  lines : ∀ line ∈ row.orderGoods, ∃ item ∈ order.orderGoods,
    line.goods = item.goods ∧ line.nums = item.nums

theorem createBody_created {goods : Except AppError (List GoodsInfo)} {order : OrderDTO}
    {now : Int} {created : OrderDB} (fresh : findOrder db (trimSpace order.orderSn) = none)
    (h : createBody goods order now db = .ok ((), created)) :
    ∃ row, Created order row db created := by
  obtain ⟨prepared, hprepared, ⟨existing, hfind, -⟩ | ⟨-, answer, priced, -, hpriced, hrun⟩⟩ :=
    createBody_cases h
  · rw [fresh] at hfind
    cases hfind
  obtain ⟨hnamed, hgoods, rfl⟩ := prepareCreate_ok hprepared
  have hlines : priced.orderGoods = order.orderGoods.map (pricedLine answer) :=
    (priceOrder_pricedBy hpriced).2.lines
  obtain ⟨-, final, -, rfl⟩ := priceOrder_ok hpriced
  obtain ⟨huser, rfl⟩ := createTxn_ok hrun
  have hsame : final.items.map (·.goods) = order.orderGoods.map (·.goods) := by
    rw [show final.items = _ from hlines, List.map_map]
    rfl
  have hline (line : OrderGoods) (hmem : line ∈ final.items) : ∃ item ∈ order.orderGoods,
      line.goods = item.goods ∧ line.nums = item.nums := by
    rw [show final.items = _ from hlines] at hmem
    obtain ⟨item, hitem, rfl⟩ := List.mem_map.mp hmem
    exact ⟨item, hitem, rfl, rfl⟩
  refine ⟨_, rfl, ?_, GoText.trimSpace_trimSpace _, hnamed, rfl, ?_, rfl, huser, hsame, ?_, hline⟩
  · rw [← hsame]
  · intro hmem
    exact Int.lt_irrefl _ (Sql.lt_nextId hmem)
  · intro line hmem
    obtain ⟨item, hitem, hgoodsEq, hnumsEq⟩ := hline line hmem
    rw [hgoodsEq, hnumsEq]
    simp only [hasOrderGoods, decide_eq_true_eq, List.all_eq_true] at hgoods
    exact hgoods.2 item hitem

variable {order : OrderDTO} {row : OrderInfoDO} {created : OrderDB}

theorem Created.undone (h : Created order row db created)
    (fresh : findOrder db (trimSpace order.orderSn) = none)
    (hcart : ∀ item ∈ order.orderGoods, InCart order.user db.carts item) {call : String × Int}
    (hcall : trimSpace call.1 = trimSpace order.orderSn) :
    Undone order.user db (compensate created call) := by
  have hfind : findOrder created (trimSpace order.orderSn) = some row := by
    have hrow : hasSn (trimSpace order.orderSn) row := by simp [hasSn, h.visible, h.number]
    rw [findOrder, h.orders, List.find?_append, show db.orders.find? _ = none from fresh]
    simp [hrow]
  have hstate : compensate created call = { created with
      carts := restoredCarts row.user row.orderGoods call.2 created.carts
      orders := hideOrder row created.orders } := by
    unfold compensate
    rw [Txn.commit_of_ok (createComBody_run (hcall ▸ h.named) call.2 created)]
    simp only [hcall, restoredFound, hideFound, hfind]
  rw [hstate]
  constructor
  case orders =>
    simp only [visibleOrders, h.orders, hideOrder_new h.visible h.key, List.filter_append]
    simp
  case carts =>
    intro item
    simp only [h.carts, h.user, ← h.goods]
    apply shows_restored (Int.ne_of_gt h.positive) h.valid
    intro line hline
    obtain ⟨item, hitem, hgoods, hnums⟩ := h.lines line hline
    have := hcart item hitem
    unfold InCart at this ⊢
    rwa [hgoods, hnums]
  case others =>
    simp only [h.carts, h.user]
    rw [others_restoredCarts, others_hideCarts]

theorem Undone.again {userID : Int} {state : OrderDB} (h : Undone userID db state)
    {call : String × Int} (fresh : findOrder db (trimSpace call.1) = none) :
    compensate state call = state := by
  have hnone : findOrder state (trimSpace call.1) = none := by
    rw [findOrder_eq, h.orders, ← findOrder_eq]
    exact fresh
  unfold compensate
  rw [createComBody_absent call.2 hnone]

end Orders

/-- A created order that is compensated once or more often leaves no trace in what the
tables show, the carts of all other users stay as they are throughout, and compensating
an absent order does nothing. -/
theorem compensation_restores_cart (goods : Except AppError (List GoodsInfo)) (order : OrderDTO)
    (now : Int) (db created : OrderDB)
    (fresh : findOrder db (trimSpace order.orderSn) = none)
    (inCart : ∀ item ∈ order.orderGoods, InCart order.user db.carts item)
    (success : (createBody goods order now).commit db = (.ok (), created))
    (calls : List (String × Int)) (repeated : calls ≠ [])
    (same : ∀ call ∈ calls, trimSpace call.1 = trimSpace order.orderSn) :
    visibleOrders (run compensate created calls) = visibleOrders db ∧
      (∀ item, Shows (run compensate created calls).carts item ↔ Shows db.carts item) ∧
      (∀ done, done <+: calls →
        others order.user (run compensate created done).carts = others order.user db.carts) ∧
      ∀ absent text time, findOrder absent (trimSpace text) = none →
        (createComBody text time).commit absent = (.ok (), absent) := by
  obtain ⟨row, hcreated⟩ : ∃ row, Created order row db created := by
    obtain ⟨_, db', hrun, hcommit⟩ | ⟨err, -, hcommit⟩ :=
      Txn.commit_cases (createBody goods order now) db
    · rw [hcommit] at success
      cases success
      exact createBody_created fresh hrun
    · rw [hcommit] at success
      cases success
  have hundone (first : String × Int) (rest : List (String × Int))
      (hcalls : first :: rest <+: calls) :
      Undone order.user db (run compensate created (first :: rest)) := by
    have hsame (call : String × Int) (hcall : call ∈ first :: rest) :
        trimSpace call.1 = trimSpace order.orderSn :=
      same call (hcalls.subset hcall)
    rw [run_cons]
    apply run_invariant_of_mem _ (hcreated.undone fresh inCart (hsame first List.mem_cons_self))
    intro state call hcall hstate
    rw [hstate.again (hsame call (List.mem_cons_of_mem first hcall) ▸ fresh)]
    exact hstate
  obtain ⟨first, rest, rfl⟩ := List.exists_cons_of_ne_nil repeated
  have hend := hundone first rest (List.prefix_refl _)
  refine ⟨hend.orders, hend.carts, ?_, fun _ _ time => createComBody_absent time⟩
  intro done hdone
  cases done with
  | nil => rw [run_nil, hcreated.carts, others_hideCarts]
  | cons call others => exact (hundone call others hdone).others

def sampleCarts : OrderDB :=
  { noOrders with carts := [⟨1, 7, 1, 3, true, 0, false⟩, ⟨2, 8, 1, 5, true, 0, false⟩,
      ⟨3, 7, 2, 1, true, 0, false⟩, ⟨4, 7, 3, 9, false, 0, false⟩] }

theorem compensation_restores_cart_sample :
    let created := ((createBody (.ok sampleGoods) (sampleOrder 1) 0).commit sampleCarts).2
    (created.carts.filter (!·.deleted)).map (·.id) = [2, 4] ∧
      ∀ item, Shows (run compensate created [("sn", 1), (" sn", 2)]).carts item ↔
        Shows sampleCarts.carts item := by
  intro created
  refine ⟨by decide +kernel, (compensation_restores_cart (.ok sampleGoods) (sampleOrder 1) 0
    sampleCarts created rfl ?_ (by decide +kernel) [("sn", 1), (" sn", 2)] (by simp)
    (by decide +kernel)).2.1⟩
  intro item hitem
  simp only [sampleOrder, List.mem_cons, List.not_mem_nil, or_false] at hitem
  obtain rfl | rfl := hitem
  · exact ⟨⟨1, 7, 1, 3, true, 0, false⟩, by decide, rfl, rfl⟩
  · exact ⟨⟨3, 7, 2, 1, true, 0, false⟩, by decide, rfl, rfl⟩

end Goshop.Order.CartRestore
