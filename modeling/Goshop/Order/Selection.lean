import Goshop.Order.Service

/-! What `Submit` orders. It reads the checked rows of a cart through the list query
of the cart page, without a page size, and so gets the first ten of them. -/
namespace Goshop.Order.Selection

open Goshop.Errors Goshop.Lib.Transaction
open Goshop.Order.Model Goshop.Order.Data Goshop.Order.Service

structure ListMeta where
  page : Int := 0
  pageSize : Int := 0
deriving DecidableEq, Repr

structure ShoppingCartDOList where
  totalCount : Nat
  items : List ShoppingCartDO
deriving DecidableEq, Repr

def cartRows (db : OrderDB) (userID : Int) (checked : Bool) : List ShoppingCartDO :=
  db.carts.filter fun row => !row.deleted ∧ row.user = userID ∧ (checked → row.checked)

/-- `OFFSET` and `LIMIT`; a negative limit is none. -/
def page (offset limit : Int) (rows : List ShoppingCartDO) : List ShoppingCartDO :=
  let rest := rows.drop offset.toNat
  if limit < 0 then rest else rest.take limit.toNat

/-- `List` of the cart table. No caller asks for an order of the rows, and they come in
the order of their keys. -/
def shopCartsList (db : OrderDB) (userID : Int) (checked : Bool) (listMeta : ListMeta) :
    ShoppingCartDOList :=
  let limit := if listMeta.pageSize = 0 then 10 else listMeta.pageSize
  let offset := if 0 < listMeta.page then (listMeta.page - 1) * limit else 0
  let rows := cartRows db userID checked
  if userID = 0 then ⟨0, []⟩ else ⟨rows.length, page offset limit rows⟩

structure GoodsInvInfo where
  goodsId : Int
  num : Int
deriving DecidableEq, Repr

structure SellInfo where
  goodsInfo : List GoodsInvInfo
  orderSn : String
deriving DecidableEq, Repr

structure OrderItemResponse where
  goodsId : Int
  nums : Int
deriving DecidableEq, Repr

structure OrderRequest where
  orderSn : String
  userId : Int
  address : String
  name : String
  mobile : String
  post : String
  orderItems : List OrderItemResponse
deriving DecidableEq, Repr

def sellRequest (order : OrderDTO) : SellInfo where
  goodsInfo := order.orderGoods.map fun item => ⟨item.goods, item.nums⟩
  orderSn := order.orderSn

def orderRequest (order : OrderDTO) : OrderRequest where
  orderSn := order.orderSn
  userId := order.user
  address := order.address
  name := order.signerName
  mobile := order.singerMobile
  post := order.post
  orderItems := order.orderGoods.map fun item => ⟨item.goods, item.nums⟩

def submitSaga (order : OrderDTO) (db : OrderDB) : Except AppError (SellInfo × OrderRequest) :=
  (submit order db).map fun order => (sellRequest order, orderRequest order)

def selection (db : OrderDB) (userID : Int) : List (Int × Int) :=
  (cartRows db userID true).map fun row => (row.goods, row.nums)

def SellInfo.lines (info : SellInfo) : List (Int × Int) :=
  info.goodsInfo.map fun item => (item.goodsId, item.num)

def OrderRequest.lines (request : OrderRequest) : List (Int × Int) :=
  request.orderItems.map fun item => (item.goodsId, item.nums)

theorem checkedItems_eq_list (db : OrderDB) {userID : Int} (huser : userID ≠ 0) :
    checkedItems db userID = (shopCartsList db userID true {}).items := by
  simp [checkedItems, shopCartsList, page, cartRows, huser]

theorem submit_ok {order request : OrderDTO} {db : OrderDB} (h : submit order db = .ok request) :
    0 < order.user ∧
      request.orderGoods = (shopCartsList db order.user true {}).items.map fun item =>
        { goods := item.goods, nums := item.nums } := by
  simp only [submit] at h
  split at h
  · cases h
  · rename_i hvalid
    have huser : 0 < order.user := by omega
    split at h
    · cases h
    · cases h
      rw [checkedItems_eq_list db huser.ne']
      exact ⟨huser, rfl⟩

theorem submitSaga_lines {order : OrderDTO} {db : OrderDB} {sell : SellInfo}
    {create : OrderRequest} (h : submitSaga order db = .ok (sell, create)) :
    sell.lines = (selection db order.user).take 10 ∧
      create.lines = (selection db order.user).take 10 := by
  obtain ⟨request, hsubmit, hpayloads⟩ := except_map_ok h
  obtain ⟨huser, hgoods⟩ := submit_ok hsubmit
  cases hpayloads
  simp [SellInfo.lines, OrderRequest.lines, sellRequest, orderRequest, hgoods, shopCartsList,
    huser.ne', page, selection, List.map_take, Function.comp_def]

theorem take_perm_iff {α : Type} (limit : Nat) (items : List α) :
    (items.take limit).Perm items ↔ items.length ≤ limit := by
  constructor
  · intro h
    have hlength := h.length_eq
    rw [List.length_take] at hlength
    omega
  · intro h
    rw [List.take_of_length_le h]

/-- A saga carries exactly the selected goods, in both of its payloads, if and only if
at most ten rows are selected. -/
theorem submit_orders_selection {order : OrderDTO} {db : OrderDB} {sell : SellInfo}
    {create : OrderRequest} (h : submitSaga order db = .ok (sell, create)) :
    sell.lines.Perm (selection db order.user) ∧ create.lines.Perm (selection db order.user) ↔
      (cartRows db order.user true).length ≤ 10 := by
  obtain ⟨hsell, hcreate⟩ := submitSaga_lines h
  rw [hsell, hcreate, and_self_iff, take_perm_iff, selection, List.length_map]

def fullCart (count : Nat) : OrderDB :=
  { noOrders with carts := (List.range count).map fun index =>
    ⟨index + 1, 5, index + 1, 1, true, 0, false⟩ }

/-- The eleventh goods of the selection is in neither payload. -/
theorem eleventh_item_left_out :
    ∃ saga, submitSaga { user := 5, orderSn := "S1" } (fullCart 11) = .ok saga ∧
      (11, 1) ∈ selection (fullCart 11) 5 ∧ (11, 1) ∉ saga.1.lines ∧ (11, 1) ∉ saga.2.lines :=
  ⟨(sellRequest { orderSn := "S1", orderGoods := (fullCart 10).carts.map fun row =>
      { goods := row.goods, nums := row.nums } },
    orderRequest { orderSn := "S1", user := 5, orderGoods := (fullCart 10).carts.map fun row =>
      { goods := row.goods, nums := row.nums } }), by decide +kernel⟩

theorem submit_orders_selection_two_items :
    let sell : SellInfo := ⟨[⟨1, 1⟩, ⟨2, 1⟩], "S1"⟩
    let create : OrderRequest := ⟨"S1", 5, "", "", "", "", [⟨1, 1⟩, ⟨2, 1⟩]⟩
    submitSaga { user := 5, orderSn := " S1 " } (fullCart 2) = .ok (sell, create) ∧
      sell.lines.Perm (selection (fullCart 2) 5) ∧
      create.lines.Perm (selection (fullCart 2) 5) := by
  have hsaga : submitSaga { user := 5, orderSn := " S1 " } (fullCart 2) =
      .ok (⟨[⟨1, 1⟩, ⟨2, 1⟩], "S1"⟩, ⟨"S1", 5, "", "", "", "", [⟨1, 1⟩, ⟨2, 1⟩]⟩) := by
    decide +kernel
  exact ⟨hsaga, (submit_orders_selection hsaga).mpr (by decide +kernel)⟩

end Goshop.Order.Selection
