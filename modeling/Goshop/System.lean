import Goshop.Inventory.Model
import Goshop.Lib.Process
import Goshop.Order.Payment
import Goshop.Order.Steps

/-! The shop as a system: the databases of the order and the inventory service,
the calls that reach them, and the functions that make several calls one after
the other. Each call is atomic; between two calls of a function anything may
happen. -/
namespace Goshop.System

open Goshop.Errors Goshop.Lib Goshop.Lib.Transaction Goshop.Lib.Process
open Goshop.Inventory.Model (GoodsDetail InventoryDB)
open Goshop.Order.Model Goshop.Order.Data Goshop.Order.Service Goshop.Order.Payment
open Goshop.Order.Steps
open Goshop.Lib.GoText (CaseTable)

structure World where
  inventory : InventoryDB
  orders : OrderDB
deriving DecidableEq, Repr

/-- What the environment decides about one call: how it ends, the time, and the
answer of the goods service, which is outside the model. -/
structure Choice where
  outcome : Outcome := .ok
  now : Int := 0
  goods : List GoodsInfo := []
deriving DecidableEq, Repr

/-- A server of `GetOrderBySn`: it may refuse, and an order it returns is the
stored one. -/
structure OrderLookup where
  answer : OrderDB → String → Except AppError OrderInfoDO
  sound : ∀ db orderSn order, answer db orderSn = .ok order → ordersGet db orderSn = .ok order

/-- `UnimplementedOrderServer.GetOrderBySn`. The order server embeds the generated
stub and has no such method of its own, so this is what every caller gets. -/
def OrderLookup.unimplemented : OrderLookup where
  answer _ _ := .error (newCode .errUnknown "method GetOrderBySn not implemented")
  sound := by simp

/-- The lookup that the interface describes, for what an order server that had it
would do. -/
def OrderLookup.stored : OrderLookup where
  answer := ordersGet
  sound _ _ _ h := h

inductive Call where
  | ordersGet (orderSn : String)
  | updateTxn (existing : OrderInfoDO) (order : OrderDTO)
  | batchGetGoods (goodsIDs : List Int)
  | createTxn (order : OrderDTO)
  | beginPaymentEvent (event : PaymentEventRequest)
  | completePaymentEvent (id : Int) (success : Bool) (detail : String)
  | getOrderBySn (orderSn : String)
  | confirm (orderSn : String) (details : List GoodsDetail)
  | release (orderSn : String) (details : List GoodsDetail)
  | listCloseCandidates (statuses : List OrderStatus) (age : Int) (limit : Int)
deriving DecidableEq, Repr

abbrev Answer : Call → Type
  | .ordersGet _ => OrderInfoDO
  | .updateTxn _ _ => Unit
  | .batchGetGoods _ => List GoodsInfo
  | .createTxn _ => Unit
  | .beginPaymentEvent _ => PaymentEventResponse
  | .completePaymentEvent _ _ _ => Unit
  | .getOrderBySn _ => OrderInfoDO
  | .confirm _ _ => Unit
  | .release _ _ => Unit
  | .listCloseCandidates _ _ _ => List OrderInfoDO

abbrev Reply (request : Call) : Type := Except AppError (Answer request)

/-- The visible orders of one of the statuses that are old enough, oldest first. -/
def listCloseCandidates (db : OrderDB) (statuses : List OrderStatus) (createdBefore limit : Int) :
    List OrderInfoDO :=
  let due := db.orders.filter fun row =>
    !row.deleted ∧ row.status ∈ statuses ∧ row.addTime ≤ createdBefore
  (due.insertionSort fun first second => first.addTime ≤ second.addTime).take
    (positiveOr limit 20).toNat

def onOrders {α : Type} (operation : OrderDB → Except AppError α × OrderDB) (world : World) :
    Except AppError α × World :=
  let result := operation world.orders
  (result.1, { world with orders := result.2 })

def onInventory {α : Type} (operation : InventoryDB → Except AppError α × InventoryDB)
    (world : World) : Except AppError α × World :=
  let result := operation world.inventory
  (result.1, { world with inventory := result.2 })

theorem onInventory_orders {α : Type}
    (operation : InventoryDB → Except AppError α × InventoryDB) (world : World) :
    (onInventory operation world).2.orders = world.orders := rfl

theorem onOrders_inventory {α : Type} (operation : OrderDB → Except AppError α × OrderDB)
    (world : World) : (onOrders operation world).2.inventory = world.inventory := rfl

theorem onOrders_commit {α : Type} {inv : World → Prop} {body : OrderTxn α} {world : World}
    (initial : inv world)
    (keeps : ∀ value db', body world.orders = .ok (value, db') →
      inv { world with orders := db' }) : inv (onOrders (Txn.commit body) world).2 := by
  rcases Txn.commit_cases body world.orders with ⟨value, db', hrun, hcommit⟩ | ⟨err, -, hcommit⟩
  · simp only [onOrders, hcommit]
    exact keeps value db' hrun
  · simp only [onOrders, hcommit]
    exact initial

def serve [CaseTable] (lookup : OrderLookup) :
    (request : Call) → Choice → World → Reply request × World
  | .ordersGet orderSn, _, world => (ordersGet world.orders orderSn, world)
  | .updateTxn existing order, choice, world =>
    onOrders (Txn.commit (updateTxn existing order choice.now)) world
  | .batchGetGoods _, choice, world => (.ok choice.goods, world)
  | .createTxn order, choice, world => onOrders (Txn.commit (createTxn order choice.now)) world
  | .beginPaymentEvent event, choice, world =>
    onOrders (beginPaymentEvent event choice.now) world
  | .completePaymentEvent id success detail, choice, world =>
    onOrders (completePaymentEvent id success detail choice.now) world
  | .getOrderBySn orderSn, _, world => (lookup.answer world.orders orderSn, world)
  | .confirm orderSn details, _, world =>
    onInventory (Inventory.Model.confirm orderSn details) world
  | .release orderSn details, _, world =>
    onInventory (Inventory.Model.release orderSn details) world
  | .listCloseCandidates statuses age limit, choice, world =>
    (.ok (listCloseCandidates world.orders statuses (choice.now - age) limit), world)

def callFailed : AppError := newCode .errServiceUnavailable "call failed"

def exec [CaseTable] (lookup : OrderLookup) (request : Call) (choice : Choice)
    (world : World) :
    Reply request × World :=
  call callFailed choice.outcome (serve lookup request choice) world

/-- How a transaction of the order service can end for its caller: refused,
done, or done with its answer lost. -/
theorem call_onOrders {α : Type} (post : Except AppError α → World → Prop) {body : OrderTxn α}
    {world : World} (outcome : Outcome) (refused : ∀ err, post (.error err) world)
    (done : ∀ value db', body world.orders = .ok (value, db') →
      post (.ok value) { world with orders := db' } ∧
        post (.error callFailed) { world with orders := db' }) :
    post (call callFailed outcome (onOrders (Txn.commit body)) world).1
      (call callFailed outcome (onOrders (Txn.commit body)) world).2 := by
  rcases Txn.commit_cases body world.orders with ⟨value, db', hrun, hcommit⟩ | ⟨err, -, hcommit⟩
  · obtain ⟨hdone, hlost⟩ := done value db' hrun
    cases outcome with
    | ok => simpa only [call_okay, onOrders, hcommit] using hdone
    | failBefore => exact refused callFailed
    | failAfter => simpa only [call_failAfter, onOrders, hcommit] using hlost
  · cases outcome with
    | ok => simpa only [call_okay, onOrders, hcommit] using refused err
    | failBefore => exact refused callFailed
    | failAfter => simpa only [call_failAfter, onOrders, hcommit] using refused callFailed

theorem call_onInventory (post : Except AppError Unit → World → Prop)
    {operation : InventoryDB → Except AppError Unit × InventoryDB} {effect : InventoryDB → Prop}
    {world : World} (outcome : Outcome)
    (ends : (∃ err, operation world.inventory = (.error err, world.inventory)) ∨
      ∃ db', operation world.inventory = (.ok (), db') ∧ effect db')
    (refused : ∀ err, post (.error err) world)
    (done : ∀ db', effect db' → post (.ok ()) { world with inventory := db' } ∧
      post (.error callFailed) { world with inventory := db' }) :
    post (call callFailed outcome (onInventory operation) world).1
      (call callFailed outcome (onInventory operation) world).2 := by
  rcases ends with ⟨err, herr⟩ | ⟨db', hok, heffect⟩
  · cases outcome with
    | ok => simpa only [call_okay, onInventory, herr] using refused err
    | failBefore => exact refused callFailed
    | failAfter => simpa only [call_failAfter, onInventory, herr] using refused callFailed
  · obtain ⟨hdone, hlost⟩ := done db' heffect
    cases outcome with
    | ok => simpa only [call_okay, onInventory, hok] using hdone
    | failBefore => exact refused callFailed
    | failAfter => simpa only [call_failAfter, onInventory, hok] using hlost

theorem exec_clean [CaseTable] (lookup : OrderLookup) (request : Call) {choice : Choice}
    (h : choice.outcome = .ok) (world : World) :
    exec lookup request choice world = serve lookup request choice world := by
  rw [exec, h, call_okay]

theorem exec_ordersGet [CaseTable] (lookup : OrderLookup) (orderSn : String) (now : Int)
    (world : World) :
    exec lookup (.ordersGet orderSn) { now := now } world =
      (ordersGet world.orders orderSn, world) := rfl

theorem exec_updateTxn [CaseTable] (lookup : OrderLookup) (existing : OrderInfoDO)
    (order : OrderDTO)
    (now : Int) (world : World) :
    exec lookup (.updateTxn existing order) { now := now } world =
      onOrders (Txn.commit (updateTxn existing order now)) world := rfl

theorem exec_batchGetGoods [CaseTable] (lookup : OrderLookup) (goodsIDs : List Int)
    (goods : List GoodsInfo)
    (world : World) :
    exec lookup (.batchGetGoods goodsIDs) { goods := goods } world = (.ok goods, world) := rfl

theorem exec_createTxn [CaseTable] (lookup : OrderLookup) (order : OrderDTO) (now : Int)
    (world : World) :
    exec lookup (.createTxn order) { now := now } world =
      onOrders (Txn.commit (createTxn order now)) world := rfl

theorem exec_getOrderBySn [CaseTable] (orderSn : String) (choice : Choice) (world : World) :
    ∃ err, (exec .unimplemented (.getOrderBySn orderSn) choice world).1 = .error err := by
  unfold exec
  cases choice.outcome <;> exact ⟨_, rfl⟩

abbrev Program (α : Type) := Proc Call Reply (Except AppError α)

abbrev Config (ι α : Type) := Process.Config World ι Call Reply (Except AppError α)

/-- `Update` of the order service: a lookup outside the transaction, the checks
against its answer, and the transaction. -/
def orderUpdate (order : OrderDTO) : Program Unit :=
  Proc.attempt (prepareUpdate order) fun order => do
    Proc.attempt (← Proc.send (.ordersGet order.orderSn)) fun existing =>
      Proc.attempt (checkUpdate existing order) fun _ =>
        Proc.send (Call.updateTxn existing order)

theorem runAlone_orderUpdate [CaseTable] (lookup : OrderLookup) (order : OrderDTO)
    (now : Int)
    (world : World) :
    runAlone (exec lookup) (orderUpdate order) [{}, { now := now }] world =
      (some (Txn.commit (updateBody order now) world.orders).1,
        { world with orders := (Txn.commit (updateBody order now) world.orders).2 }) := by
  simp only [orderUpdate, Txn.commit, updateBody]
  cases hprepare : prepareUpdate order with
  | error err => simp only [Proc.attempt_error, runAlone_ret, Txn.lift_error_bind]
  | ok prepared =>
    simp only [Proc.attempt_ok, Proc.send_bind, runAlone_call, Txn.lift_ok_bind, Txn.read_bind,
      exec_ordersGet]
    cases hget : ordersGet world.orders prepared.orderSn with
    | error err => simp only [Proc.attempt_error, runAlone_ret, Txn.lift_error_bind]
    | ok existing =>
      simp only [Proc.attempt_ok, Txn.lift_ok_bind]
      cases hcheck : checkUpdate existing prepared with
      | error err => simp only [Proc.attempt_error, runAlone_ret, Txn.lift_error_bind]
      | ok _ =>
        simp only [Proc.attempt_ok, Txn.lift_ok_bind, runAlone_send, exec_updateTxn, Txn.commit,
          onOrders]

theorem runAlone_orderUpdate_bind [CaseTable] {α : Type} {lookup : OrderLookup}
    {order prepared : OrderDTO}
    {existing : OrderInfoDO} {reading writing : Choice} {rest : List Choice} {world : World}
    (hreading : reading.outcome = .ok) (hprepare : prepareUpdate order = .ok prepared)
    (hget : ordersGet world.orders prepared.orderSn = .ok existing)
    (hcheck : checkUpdate existing prepared = .ok ())
    (next : Except AppError Unit → Proc Call Reply α) :
    runAlone (exec lookup) (orderUpdate order >>= next) (reading :: writing :: rest) world =
      runAlone (exec lookup) (next (exec lookup (.updateTxn existing prepared) writing world).1)
        rest (exec lookup (.updateTxn existing prepared) writing world).2 := by
  simp only [orderUpdate, hprepare, Proc.attempt_ok, Proc.send_bind, Proc.call_bind,
    runAlone_call, exec_clean _ _ hreading, serve, hget, hcheck]

def orderCreate (order : OrderDTO) : Program Unit :=
  Proc.attempt (prepareCreate order) fun order => do
    match ← Proc.send (.ordersGet order.orderSn) with
    | .ok existing => pure (answerExisting existing order)
    | .error err =>
      if err.code = .errOrderNotFound then do
        Proc.attempt (← Proc.send (.batchGetGoods (order.orderGoods.map (·.goods)))) fun goods =>
          Proc.attempt (priceOrder goods order) fun order =>
            Proc.send (Call.createTxn order)
      else pure (.error err)

theorem runAlone_orderCreate [CaseTable] (lookup : OrderLookup) (order : OrderDTO)
    (goods : List GoodsInfo)
    (now : Int) (world : World) :
    runAlone (exec lookup) (orderCreate order) [{}, { goods := goods }, { now := now }] world =
      (some (Txn.commit (createBody (.ok goods) order now) world.orders).1,
        { world with orders := (Txn.commit (createBody (.ok goods)
            order now) world.orders).2 }) := by
  simp only [orderCreate, Txn.commit, createBody]
  cases hprepare : prepareCreate order with
  | error err => simp only [Proc.attempt_error, runAlone_ret, Txn.lift_error_bind]
  | ok prepared =>
    simp only [Proc.attempt_ok, Proc.send_bind, runAlone_call, Txn.lift_ok_bind, Txn.read_bind,
      exec_ordersGet]
    cases hget : ordersGet world.orders prepared.orderSn with
    | ok existing =>
      simp only [Proc.pure_eq, runAlone_ret]
      cases answerExisting existing prepared <;> rfl
    | error err =>
      by_cases hcode : err.code = .errOrderNotFound
      · simp only [if_pos hcode, runAlone_call, exec_batchGetGoods, Proc.attempt_ok,
          Txn.lift_ok_bind]
        cases hprice : priceOrder goods prepared with
        | error err => simp only [Proc.attempt_error, runAlone_ret, Txn.lift_error_bind]
        | ok priced =>
          simp only [Proc.attempt_ok, Txn.lift_ok_bind, runAlone_send, exec_createTxn, Txn.commit,
            onOrders]
      · simp only [if_neg hcode, Proc.pure_eq, runAlone_ret, Txn.fail]

def unpaidOrder (orderSn : String) : OrderInfoDO where
  id := 1
  user := 9
  orderSn := orderSn
  payType := ""
  status := .waitBuyerPay
  tradeNo := ""
  orderMountFen := 100
  storeID := "store"
  payTime := none
  address := ""
  signerName := ""
  singerMobile := ""
  post := ""
  orderGoods := [⟨7, 2, "goods", "image", 50⟩]
  addTime := 0
  updateTime := 0
  deleted := false

def unpaidWorld (orderSn : String) : World where
  inventory := ⟨[⟨1, 7, 3, 5, 3, 2, 0⟩], [⟨orderSn, 1, [⟨7, 2⟩]⟩]⟩
  orders := ⟨[unpaidOrder orderSn], [], [], [], [], []⟩

def UpdateCall (order : OrderDTO) : Call → Prop
  | .ordersGet orderSn => orderSn = order.trimmed.orderSn
  | .updateTxn existing prepared =>
    prepared = order.trimmed ∧ isValidOrderStatus prepared.target ∧
      checkUpdate existing prepared = .ok ()
  | _ => False

theorem orderUpdate_issues (order : OrderDTO) : (orderUpdate order).Issues (UpdateCall order) := by
  apply Proc.Issues.attempt
  intro prepared hprepared
  obtain ⟨rfl, hvalid⟩ := prepareUpdate_ok hprepared
  refine .call rfl fun found => ?_
  apply Proc.Issues.attempt
  intro existing _
  apply Proc.Issues.attempt
  intro _ hcheck
  exact .call ⟨rfl, hvalid, hcheck⟩ fun _ => .ret _

theorem exec_ordersGet_world [CaseTable] (lookup : OrderLookup) (orderSn : String)
    (choice : Choice)
    (world : World) : (exec lookup (.ordersGet orderSn) choice world).2 = world := by
  unfold exec
  cases choice.outcome <;> rfl

/-- `Update` among other threads: only its transaction can change anything. -/
theorem orderUpdate_safe [CaseTable] {lookup : OrderLookup}
    {admits : Call → Choice → World → Prop}
    {rely guarantee : World → World → Prop} {inv : World → Prop}
    {post : Except AppError Unit → World → Prop} (order : OrderDTO)
    (reflexive : ∀ world, guarantee world world) (stable : Stable rely inv)
    (stable' : ∀ result, Stable rely (post result))
    (refused : ∀ err world, inv world → post (.error err) world)
    (update : ∀ existing choice world, inv world → isValidOrderStatus order.trimmed.target →
      checkUpdate existing order.trimmed = .ok () →
      admits (.updateTxn existing order.trimmed) choice world →
      guarantee world (exec lookup (.updateTxn existing order.trimmed) choice world).2 ∧
        post (exec lookup (.updateTxn existing order.trimmed) choice world).1
          (exec lookup (.updateTxn existing order.trimmed) choice world).2) :
    Safe (exec lookup) admits rely guarantee post inv (orderUpdate order) := by
  apply Safe.attempt stable refused
  intro prepared hprepared
  obtain ⟨rfl, hvalid⟩ := prepareUpdate_ok hprepared
  refine .call (fun _ => inv) stable ?_ fun found => ?_
  · intro world choice hinv _
    rw [exec_ordersGet_world]
    exact ⟨reflexive world, hinv⟩
  · apply Safe.attempt stable refused
    intro existing _
    apply Safe.attempt stable refused
    intro _ hcheck
    refine .call post stable ?_ fun result => .ret (stable' result) fun _ hpost => hpost
    intro world choice hinv hadmits
    exact update existing choice world hinv hvalid hcheck hadmits

end Goshop.System
