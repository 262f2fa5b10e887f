import Goshop.Lib.Process
import Goshop.Order.History
import Goshop.Review.Moderation
import Goshop.Review.Ratings
import Goshop.System

/-! Reviews and what they are about. The review service asks the order service
whether the goods were bought before it stores a review; the order service has no
implementation of the lookup that it asks with, so it never stores one. The threads
of the review service run among each other and among the calls of the shop. -/
namespace Goshop.Review.Purchases

open Goshop.Lib Goshop.Lib.GoText Goshop.Lib.Transaction Goshop.Lib.Process Goshop.Lib.Run
open Goshop.Order.Model Goshop.Order.Data Goshop.Order.Service Goshop.Order.Payment
open Goshop.Order.Steps Goshop.Order.PaymentSteps
open Goshop.Review.Model Goshop.Review.Service
open Goshop.Order.History (trail)
open Goshop.Review.Moderation (ReviewReply getReview_ok)
open Goshop.Review.Ratings (inTx_db)
open Goshop.System (OrderLookup)

section Store

structure ReviewAppend where
  id : Int := 0
  reviewID : Int
  content : String
deriving DecidableEq, Repr

structure Tables where
  reviews : ReviewDB
  appends : List ReviewAppend
  replies : List ReviewReply

abbrev TablesTxn := Txn ReviewError Tables

def append (userID reviewID : Int) (content : String) : TablesTxn Unit := do
  let tables ← Txn.read
  let review ← Txn.lift (getReview tables.reviews reviewID)
  Txn.guard (review.userID = userID) .notFound
  Txn.guard (Sql.fitsVarchar 2000 content) .storage
  Txn.guard (!tables.appends.any (·.reviewID = reviewID)) .conflict
  Txn.write { tables with appends := tables.appends ++
    [{ id := Sql.nextId (tables.appends.map (·.id)), reviewID := reviewID, content := content }] }

/-- Of the audit row only the width of the text matters. -/
def reply (reviewID actor : Int) (content requestID : String) : TablesTxn Unit := do
  let tables ← Txn.read
  let review ← Txn.lift (getReview tables.reviews reviewID)
  Txn.guard (review.status = .approved) .invalidState
  Txn.guard (Sql.fitsVarchar 2000 content) .storage
  Txn.guard (!tables.replies.any (·.reviewID = reviewID)) .conflict
  Txn.write { tables with replies := tables.replies ++
    [{ id := Sql.nextId (tables.replies.map (·.id)), reviewID := reviewID, actorUserID := actor
       content := content }] }
  Txn.guard (Sql.fitsVarchar 128 requestID) .storage

end Store

section System

structure World where
  shop : System.World
  service : Service.World
  appends : List ReviewAppend
  replies : List ReviewReply

def World.reviews (world : World) : List ReviewDO :=
  world.service.db.reviews

def World.orders (world : World) : OrderDB :=
  world.shop.orders

/-- The transactions of the order service that no program of the shop makes. -/
inductive OrderCall where
  | createCom (orderSn : String)
  | completeRefundJob (id : Int) (result : RefundResult) (maxAttempts : Int)
  | retryDeadRefundJob (id : Int)

/-- The calls of the review service that the other modules have, its two other
transactions, and the calls of the shop. -/
inductive Call where
  | service (request : Service.Call)
  | append (userID reviewID : Int) (content : String)
  | reply (reviewID actor : Int) (content requestID : String)
  | shop (request : System.Call)
  | order (request : OrderCall)

abbrev Reply : Call → Type
  | .service request => Service.Reply request
  | .shop request => System.Reply request
  | _ => Except ReviewError Unit

structure Choice extends Service.Choice where
  goods : List GoodsInfo := []

abbrev Program := Proc Call Reply

def verifyCompleted (lookup : OrderLookup) (orders : OrderDB) (userID : Int) (orderSN : String)
    (goodsID : Int) : Bool :=
  match lookup.answer orders orderSN with
  | .error _ => false
  | .ok detail =>
    detail.user = userID && detail.status = .tradeFinished &&
      detail.orderGoods.any (·.goods = goodsID)

def onTables (operation : Tables → Except ReviewError Unit × Tables) (world : World) :
    Except ReviewError Unit × World :=
  let result := operation ⟨world.service.db, world.appends, world.replies⟩
  (result.1, { world with
    service := { world.service with db := result.2.reviews }
    appends := result.2.appends
    replies := result.2.replies })

variable [CaseTable]

def serveOrder (request : OrderCall) (now : Int) (orders : OrderDB) : OrderDB :=
  match request with
  | .createCom orderSn => (Txn.commit (createComBody orderSn now) orders).2
  | .completeRefundJob id result maxAttempts =>
    (completeRefundJob id result maxAttempts now orders).2
  | .retryDeadRefundJob id => (retryDeadRefundJob id now orders).2

def exec (lookup : OrderLookup) (isolation : Isolation) :
    (request : Call) → Choice → World → Reply request × World
  | .service request, choice, world =>
    let purchased := match request with
      | .verifyCompleted userID orderSN goodsID =>
        verifyCompleted lookup world.orders userID orderSN goodsID
      | _ => choice.purchased
    let choice := { choice.toChoice with purchased := purchased }
    let result := Service.exec isolation request choice world.service
    (result.1, { world with service := result.2 })
  | .append userID reviewID content, choice, world =>
    call .storage choice.outcome (onTables (Txn.commit (append userID reviewID content))) world
  | .reply reviewID actor content requestID, choice, world =>
    call .storage choice.outcome (onTables (Txn.commit (reply reviewID actor content requestID)))
      world
  | .shop request, choice, world =>
    let result := System.exec lookup request ⟨choice.outcome, choice.now, choice.goods⟩ world.shop
    (result.1, { world with shop := result.2 })
  | .order request, choice, world =>
    (.ok (), { world with
      shop := { world.shop with orders := serveOrder request choice.now world.orders } })

def readBack (id : Int) : Program (Result Unit) := do
  let review ← Proc.send (Call.service (.getReview id))
  .ret (review.map fun _ => ())

def appendReview (userID id : Int) (content : String) : Program (Result Unit) :=
  let content := trimSpace content
  if userID ≤ 0 ∨ id = 0 ∨ content = "" ∨ 2000 < content.utf8ByteSize then .ret (.error .invalid)
  else do
    let appended ← Proc.send (Call.append userID id content)
    Proc.attempt appended fun _ => readBack id

def replyReview (id actor : Int) (content requestID : String) : Program (Result Unit) :=
  let content := trimSpace content
  if id = 0 ∨ actor ≤ 0 ∨ content = "" ∨ 2000 < content.utf8ByteSize ∨
      trimSpace requestID = "" then .ret (.error .invalid)
  else do
    let replied ← Proc.send (Call.reply id actor content requestID)
    Proc.attempt replied fun _ => readBack id

/-- What one thread does; the shop may run any program of its calls, such as `Create`
and `Update` of the order service. -/
inductive Task where
  | service (task : Service.Task)
  | append (userID id : Int) (content : String)
  | reply (id actor : Int) (content requestID : String)
  | shop (program : System.Program Unit)
  | order (request : OrderCall)

def Task.program : Task → Program (Result Unit)
  | .service task => task.program.relabel Call.service fun _ => id
  | .append userID id content => appendReview userID id content
  | .reply id actor content requestID => replyReview id actor content requestID
  | .shop program => do
    let _ ← program.relabel Call.shop fun _ => id
    .ret (.ok ())
  | .order request => Proc.send (Call.order request)

def started {ι : Type} (tasks : ι → Task) (world : World) :
    Config World ι Call Reply (Result Unit) :=
  ⟨world, fun thread => (tasks thread).program⟩

end System

section Orders

variable {orders orders' : OrderDB}

structure SamePurchase (order order' : OrderInfoDO) : Prop where
  id : order'.id = order.id
  user : order'.user = order.user
  orderSn : order'.orderSn = order.orderSn
  orderGoods : order'.orderGoods = order.orderGoods

structure Grows (orders orders' : OrderDB) : Prop where
  rows : ∀ order ∈ orders.orders, ∃ order' ∈ orders'.orders, SamePurchase order order'
  logs : orders.statusLogs ⊆ orders'.statusLogs

theorem SamePurchase.refl (order : OrderInfoDO) : SamePurchase order order :=
  ⟨rfl, rfl, rfl, rfl⟩

theorem Grows.refl (orders : OrderDB) : Grows orders orders :=
  ⟨fun order horder => ⟨order, horder, .refl order⟩, List.Subset.refl _⟩

theorem Grows.rewrite {f : OrderInfoDO → OrderInfoDO}
    (horders : orders'.orders = orders.orders.map f)
    (hlogs : orders.statusLogs ⊆ orders'.statusLogs)
    (hsame : ∀ order, SamePurchase order (f order)) : Grows orders orders' :=
  ⟨fun order horder => ⟨f order, horders ▸ List.mem_map_of_mem horder, hsame order⟩, hlogs⟩

theorem same_ite {condition : Prop} [Decidable condition] {order order' : OrderInfoDO}
    (h : SamePurchase order order') : SamePurchase order (if condition then order' else order) := by
  split
  · exact h
  · exact .refl order

theorem Grows.of_orders (horders : orders'.orders = orders.orders)
    (hlogs : orders'.statusLogs = orders.statusLogs) : Grows orders orders' :=
  ⟨fun order horder => ⟨order, horders ▸ horder, .refl order⟩, hlogs ▸ List.Subset.refl _⟩

theorem createComBody_grows {orderSn : String} {now : Int}
    (h : createComBody orderSn now orders = .ok ((), orders')) : Grows orders orders' := by
  by_cases hblank : trimSpace orderSn = ""
  · rw [createComBody_blank hblank] at h
    cases h
    exact .refl orders
  · rw [createComBody_run hblank] at h
    cases h
    cases hfind : findOrder orders (trimSpace orderSn) with
    | none =>
      refine ⟨fun row hrow => ⟨row, ?_, .refl row⟩, List.Subset.refl _⟩
      simpa only [hideFound, hfind] using hrow
    | some order =>
      refine .rewrite (by simp only [hideFound, hfind]; rfl) (List.Subset.refl _) fun row => ?_
      exact same_ite ⟨rfl, rfl, rfl, rfl⟩

theorem refundMove_grows {rows : List OrderInfoDO} {logs : List OrderStatusLogDO}
    (h : RefundMove orders rows logs) (horders : orders'.orders = rows)
    (hlogs : orders'.statusLogs = logs) : Grows orders orders' := by
  cases h with
  | stay => exact ⟨fun row hrow => ⟨row, horders ▸ hrow, .refl row⟩, by rw [hlogs]; exact .refl _⟩
  | move id now reason hfind hvalid hallowed =>
    refine .rewrite horders (by rw [hlogs]; exact List.subset_append_left _ _) fun row => ?_
    exact same_ite ⟨rfl, rfl, rfl, rfl⟩

theorem updateTxn_grows {existing : OrderInfoDO} {order : OrderDTO} {now : Int}
    {updated : Unit} (hrun : updateTxn existing order now orders = .ok (updated, orders')) :
    Grows orders orders' := by
  obtain ⟨-, rfl⟩ := updateTxn_ok hrun
  exact .rewrite (rewriteOrders_eq_map _ _ _) (List.subset_append_left _ _)
    (fun row => same_ite ⟨rfl, rfl, rfl, rfl⟩)

theorem createTxn_grows {order : OrderDTO} {now : Int} {created : Unit}
    (hrun : createTxn order now orders = .ok (created, orders')) : Grows orders orders' := by
  obtain ⟨-, rfl⟩ := createTxn_ok hrun
  exact ⟨fun row hrow => ⟨row, List.mem_append_left _ hrow, .refl row⟩,
    List.subset_append_left _ _⟩

theorem onOrders_grows {α : Type} {body : OrderTxn α} (shop : System.World)
    (hbody : ∀ value after, body shop.orders = .ok (value, after) → Grows shop.orders after) :
    Grows shop.orders (System.onOrders (Txn.commit body) shop).2.orders :=
  Txn.commit_preserves (.refl shop.orders) hbody

theorem serve_grows [CaseTable] (lookup : OrderLookup) (request : System.Call)
    (choice : System.Choice) (shop : System.World) :
    Grows shop.orders (System.serve lookup request choice shop).2.orders := by
  cases request with
  | updateTxn existing order =>
    exact onOrders_grows shop fun _ _ hrun => updateTxn_grows hrun
  | createTxn order =>
    exact onOrders_grows shop fun _ _ hrun => createTxn_grows hrun
  | beginPaymentEvent event =>
    refine onOrders_grows shop fun _ orders' hrun => ?_
    obtain ⟨events, rfl⟩ := beginBody_frame hrun
    exact .of_orders rfl rfl
  | completePaymentEvent id success detail =>
    refine onOrders_grows shop fun _ orders' hrun => ?_
    obtain ⟨event, -, rfl⟩ := completeBody_ok hrun
    exact .of_orders rfl rfl
  | confirm orderSn details =>
    rw [System.serve, System.onInventory_orders]
    exact .refl shop.orders
  | release orderSn details =>
    rw [System.serve, System.onInventory_orders]
    exact .refl shop.orders
  | _ => exact .refl shop.orders

theorem shop_grows [CaseTable] (lookup : OrderLookup) (request : System.Call)
    (choice : System.Choice) (shop : System.World) :
    Grows shop.orders (System.exec lookup request choice shop).2.orders := by
  unfold System.exec
  rcases call_state System.callFailed choice.outcome (System.serve lookup request choice) shop
    with hstate | hstate <;> rw [hstate]
  · exact .refl _
  · exact serve_grows lookup request choice shop

theorem order_grows [CaseTable] (request : OrderCall) (now : Int) (orders : OrderDB) :
    Grows orders (serveOrder request now orders) := by
  cases request with
  | createCom orderSn =>
    exact Txn.commit_preserves (.refl orders) fun _ _ hrun => createComBody_grows hrun
  | completeRefundJob id result maxAttempts =>
    refine Txn.commit_preserves (.refl orders) fun _ orders' hrun => ?_
    obtain ⟨job, detail, rows, logs, outbox, -, hmove, -, rfl⟩ := completeRefundBody_ok hrun
    exact refundMove_grows hmove rfl rfl
  | retryDeadRefundJob id =>
    refine Txn.commit_preserves (.refl orders) fun _ orders' hrun => ?_
    obtain ⟨dead, refund, rows, logs, outbox, -, -, hmove, rfl⟩ := retryDeadBody_ok hrun
    exact refundMove_grows hmove rfl rfl

/-- The user has bought the goods under the number, and the order has once been
finished. -/
def Purchased (orders : OrderDB) (userID : Int) (orderSN : String) (goodsID : Int) : Prop :=
  ∃ order ∈ orders.orders, order.user = userID ∧ order.orderSn = orderSN ∧
    (∃ item ∈ order.orderGoods, item.goods = goodsID) ∧
    ∃ entry ∈ trail orders order.id, entry.toStatus = .tradeFinished

theorem Purchased.grows {userID goodsID : Int} {orderSN : String}
    (h : Purchased orders userID orderSN goodsID) (hgrows : Grows orders orders') :
    Purchased orders' userID orderSN goodsID := by
  obtain ⟨order, horder, huser, hsn, hgoods, entry, hentry, hfinished⟩ := h
  obtain ⟨order', horder', hsame⟩ := hgrows.rows order horder
  refine ⟨order', horder', hsame.user.trans huser, hsame.orderSn.trans hsn, ?_, entry, ?_,
    hfinished⟩
  · rwa [hsame.orderGoods]
  · rw [hsame.id]
    obtain ⟨hmem, hkey⟩ := List.mem_filter.mp hentry
    exact List.mem_filter.mpr ⟨hgrows.logs hmem, hkey⟩

end Orders

section Steps

variable {world : World}

def purchase (review : ReviewDO) : Int × String × Int :=
  (review.userID, review.orderSN, review.goodsID)

def unmoderated (review : ReviewDO) : ReviewDO :=
  { review with status := .pending }

/-- Every review is about a purchase, of which there is no other, and has at most one
addition and one reply, the reply only if it is approved. -/
structure Backed (world : World) : Prop where
  bought : ∀ review ∈ world.reviews,
    Purchased world.orders review.userID review.orderSN review.goodsID
  keys : (world.reviews.map (·.id)).Nodup
  single : (world.reviews.map purchase).Nodup
  appended : ∀ entry ∈ world.appends, ∃ review ∈ world.reviews, review.id = entry.reviewID
  appendedOnce : (world.appends.map (·.reviewID)).Nodup
  replied : ∀ entry ∈ world.replies,
    ∃ review ∈ world.reviews, review.id = entry.reviewID ∧ review.status = .approved
  repliedOnce : (world.replies.map (·.reviewID)).Nodup

structure Keeps (world world' : World) : Prop where
  backed : Backed world'
  same : world'.reviews.map unmoderated = world.reviews.map unmoderated

theorem Keeps.refl (h : Backed world) : Keeps world world :=
  ⟨h, rfl⟩

/-- A call of the review service other than the insert leaves the reviews alone, or
gives a pending one its status. -/
inductive ReviewStep (reviews : List ReviewDO) : List ReviewDO → Prop where
  | stay : ReviewStep reviews reviews
  | moderate (review : ReviewDO) (decision : ReviewStatus) (hreview : review ∈ reviews)
      (hpending : review.status = .pending) :
      ReviewStep reviews (reviews.map (setStatus review.id decision))

def Stores : Service.Call → Prop
  | .createReview _ => False
  | _ => True

theorem moderate_step (id : Int) (decision : ReviewStatus) (requestID reason : String)
    (db : ReviewDB) :
    ReviewStep db.reviews (Txn.commit (moderate id decision requestID reason) db).2.reviews := by
  rcases Txn.commit_cases (moderate id decision requestID reason) db with
    ⟨⟨⟩, db', hrun, hcommit⟩ | ⟨err, -, hcommit⟩
  · rw [hcommit]
    simp only [moderate, Txn.read_bind, Txn.lift_bind_ok, Txn.guard_bind_ok, Txn.write_ok,
      decide_eq_true_eq] at hrun
    obtain ⟨review, hreview, hpending, -, -, hrun⟩ := hrun
    cases hrun
    obtain ⟨hfind, rfl⟩ := getReview_ok hreview
    exact .moderate review decision (List.mem_of_find?_eq_some hfind) hpending
  · rw [hcommit]
    exact .stay

theorem serve_step (isolation : Isolation) {request : Service.Call} (hstores : Stores request)
    (choice : Service.Choice) (service : Service.World) :
    ReviewStep service.db.reviews (serve isolation request choice service).2.db.reviews := by
  have hend (tx : Int) (db : ReviewDB) (hsame : db.reviews = service.db.reviews) :
      (endTx tx db service).2.db.reviews = service.db.reviews := by
    unfold endTx
    split
    · exact hsame
    · rfl
  have hstay {reviews : List ReviewDO} (hsame : reviews = service.db.reviews) :
      ReviewStep service.db.reviews reviews := hsame ▸ .stay
  cases request with
  | createReview review => exact hstores.elim
  | moderate id decision requestID reason =>
    exact moderate_step id decision requestID reason service.db
  | aggregate tx goodsID =>
    cases tx with
    | none => exact .stay
    | some tx => exact hstay (by rw [serve, inTx_db])
  | upsertRating tx rating =>
    apply hstay
    cases tx with
    | none =>
      rw [serve]
      split <;> rfl
    | some tx =>
      rw [serve]
      split
      · rfl
      · rw [inTx_db]
  | claim tx limit => exact hstay (by rw [serve, inTx_db])
  | completeEvent tx eventID => exact hstay (by rw [serve, inTx_db])
  | commit tx completions => exact hstay (hend tx (publish completions service.db) rfl)
  | rollback tx => exact hstay (hend tx service.db rfl)
  | verifyCompleted userID orderSN goodsID => exact .stay
  | getReview id => exact .stay
  | createAudit requestID reason => exact .stay
  | countByStatus status => exact .stay
  | beginTx => exact .stay

theorem setStatus_same (id : Int) (decision : ReviewStatus) (review : ReviewDO) :
    unmoderated (setStatus id decision review) = unmoderated review := by
  unfold setStatus
  split <;> rfl

theorem Backed.moderate {service : Service.World} {review : ReviewDO} {decision : ReviewStatus}
    (h : Backed world)
    (hreviews : service.db.reviews = world.reviews.map (setStatus review.id decision))
    (hreview : review ∈ world.reviews) (hpending : review.status = .pending) :
    Backed { world with service := service } := by
  have hid (entry : ReviewDO) : (setStatus review.id decision entry).id = entry.id :=
    congrArg (·.id) (setStatus_same review.id decision entry)
  have hpurchase (entry : ReviewDO) :
      purchase (setStatus review.id decision entry) = purchase entry :=
    congrArg (fun row => (row.userID, row.orderSN, row.goodsID))
      (setStatus_same review.id decision entry)
  constructor
  case bought =>
    rw [World.reviews, hreviews]
    intro entry hentry
    obtain ⟨before, hbefore, rfl⟩ := List.mem_map.mp hentry
    have hsame := hpurchase before
    simp only [purchase, Prod.mk.injEq] at hsame
    rw [hsame.1, hsame.2.1, hsame.2.2]
    exact h.bought before hbefore
  case keys =>
    simpa only [World.reviews, hreviews, List.map_map, Function.comp_def, hid] using h.keys
  case single =>
    simpa only [World.reviews, hreviews, List.map_map, Function.comp_def, hpurchase] using h.single
  case appended =>
    intro entry hentry
    obtain ⟨found, hfound, hsame⟩ := h.appended entry hentry
    rw [World.reviews, hreviews]
    exact ⟨_, List.mem_map_of_mem hfound, (hid found).trans hsame⟩
  case appendedOnce => exact h.appendedOnce
  case replied =>
    -- a review with a reply is approved, and the moderated one was not
    intro entry hentry
    obtain ⟨found, hfound, hsame, happroved⟩ := h.replied entry hentry
    have hother : found.id ≠ review.id := by
      intro hsameID
      obtain rfl := List.inj_on_of_nodup_map h.keys hfound hreview hsameID
      rw [hpending] at happroved
      cases happroved
    rw [World.reviews, hreviews]
    refine ⟨_, List.mem_map_of_mem hfound, (hid found).trans hsame, ?_⟩
    simpa [setStatus, hother] using happroved
  case repliedOnce => exact h.repliedOnce

theorem ReviewStep.keeps {service : Service.World} (h : Backed world)
    (hstep : ReviewStep world.reviews service.db.reviews) :
    Keeps world { world with service := service } := by
  generalize hafter : service.db.reviews = reviews at hstep
  cases hstep with
  | stay =>
    have hsame : World.reviews { world with service := service } = world.reviews := hafter
    exact ⟨⟨hsame ▸ h.bought, hsame ▸ h.keys, hsame ▸ h.single, hsame ▸ h.appended,
      h.appendedOnce, hsame ▸ h.replied, h.repliedOnce⟩, by rw [hsame]⟩
  | moderate review decision hreview hpending =>
    refine ⟨h.moderate hafter hreview hpending, ?_⟩
    rw [World.reviews, hafter, List.map_map]
    exact List.map_congr_left fun entry _ => setStatus_same review.id decision entry

theorem onTables_keeps {body : TablesTxn Unit} (h : Backed world)
    (hbody : ∀ tables, body ⟨world.service.db, world.appends, world.replies⟩ = .ok ((), tables) →
      Keeps world ⟨world.shop, { world.service with db := tables.reviews }, tables.appends,
        tables.replies⟩) :
    Keeps world (onTables (Txn.commit body) world).2 := by
  unfold onTables
  rcases Txn.commit_cases body ⟨world.service.db, world.appends, world.replies⟩ with
    ⟨⟨⟩, tables, hrun, hcommit⟩ | ⟨err, -, hcommit⟩ <;> rw [hcommit]
  · exact hbody tables hrun
  · exact .refl h

theorem append_keeps (userID reviewID : Int) (content : String) (h : Backed world) :
    Keeps world (onTables (Txn.commit (append userID reviewID content)) world).2 := by
  apply onTables_keeps h
  intro tables hrun
  simp only [append, Txn.read_bind, Txn.lift_bind_ok, Txn.guard_bind_ok, Txn.write_ok] at hrun
  obtain ⟨review, hreview, -, -, hfree, hrun⟩ := hrun
  cases hrun
  obtain ⟨hfind, hid⟩ := getReview_ok hreview
  refine ⟨{ h with appended := ?_, appendedOnce := ?_ }, rfl⟩
  · intro entry hentry
    rcases List.mem_append.mp hentry with hold | hnew
    · exact h.appended entry hold
    · rw [List.mem_singleton.mp hnew]
      exact ⟨review, List.mem_of_find?_eq_some hfind, hid⟩
  · refine Table.nodup_snoc h.appendedOnce fun entry hentry hsame => ?_
    simp only [Bool.not_eq_true', List.any_eq_false, decide_eq_true_eq] at hfree
    exact hfree entry hentry hsame

theorem reply_keeps (reviewID actor : Int) (content requestID : String) (h : Backed world) :
    Keeps world (onTables (Txn.commit (reply reviewID actor content requestID)) world).2 := by
  apply onTables_keeps h
  intro tables hrun
  simp only [reply, Txn.read_bind, Txn.lift_bind_ok, Txn.guard_bind_ok, Txn.write_bind,
    Txn.guard_ok, decide_eq_true_eq] at hrun
  obtain ⟨review, hreview, happroved, -, hfree, -, hrun⟩ := hrun
  cases hrun
  obtain ⟨hfind, hid⟩ := getReview_ok hreview
  refine ⟨{ h with replied := ?_, repliedOnce := ?_ }, rfl⟩
  · intro entry hentry
    rcases List.mem_append.mp hentry with hold | hnew
    · exact h.replied entry hold
    · rw [List.mem_singleton.mp hnew]
      exact ⟨review, List.mem_of_find?_eq_some hfind, hid, happroved⟩
  · refine Table.nodup_snoc h.repliedOnce fun entry hentry hsame => ?_
    simp only [Bool.not_eq_true', List.any_eq_false, decide_eq_true_eq] at hfree
    exact hfree entry hentry hsame

theorem grows_keeps (h : Backed world) {shop : System.World}
    (hgrows : Grows world.orders shop.orders) : Keeps world { world with shop := shop } :=
  ⟨{ h with bought := fun review hreview => (h.bought review hreview).grows hgrows }, rfl⟩

def Plain : Call → Prop
  | .service request => Stores request
  | _ => True

variable [CaseTable] (lookup : OrderLookup) (isolation : Isolation)

theorem exec_keeps {request : Call} (hplain : Plain request) (choice : Choice) (h : Backed world) :
    Keeps world (exec lookup isolation request choice world).2 := by
  cases request with
  | service request =>
    refine ReviewStep.keeps h ?_
    rcases call_state ReviewError.storage choice.outcome (serve isolation request _) world.service
      with hstate | hstate
    · exact (congrArg (fun service : Service.World => service.db.reviews) hstate).symm ▸ .stay
    · exact (congrArg (fun service : Service.World => service.db.reviews) hstate).symm ▸
        serve_step isolation hplain _ world.service
  | append userID reviewID content =>
    exact call_preserves _ choice.outcome (.refl h) (append_keeps userID reviewID content h)
  | reply reviewID actor content requestID =>
    exact call_preserves _ choice.outcome (.refl h)
      (reply_keeps reviewID actor content requestID h)
  | shop request => exact grows_keeps h (shop_grows lookup request _ world.shop)
  | order request => exact grows_keeps h (order_grows request choice.now world.orders)

end Steps

section Threads

theorem observe_issues (statuses : List Review.Model.EventStatus) :
    (observeReviewOutboxBacklog statuses).Issues Stores := by
  induction statuses with
  | nil => exact .ret _
  | cons status rest ih => exact .call trivial fun count => .attempt fun _ _ => ih

theorem rateEvents_issues (tx : Int) (done : Completions) (events : List OutboxEvent) :
    (rateEvents tx done events).Issues Stores := by
  induction events generalizing done with
  | nil => exact .ret _
  | cons event rest ih =>
    refine .call trivial fun total => .attempt fun total _ => ?_
    refine .call trivial fun stored => .attempt fun _ _ => ?_
    exact .call trivial fun marked => .attempt fun _ _ => ih _

theorem processOutbox_issues (limit : Int) : (processOutbox limit).Issues Stores := by
  refine (observe_issues _).bind fun observed => .attempt fun _ _ => ?_
  refine Proc.Issues.bind ?_ fun processed => .attempt fun _ _ => observe_issues _
  refine .call trivial fun begun => .attempt fun tx _ => ?_
  refine Proc.Issues.bind ?_ fun rated => ?_
  · exact .call trivial fun events => .attempt fun events _ => rateEvents_issues tx [] events
  · cases rated with
    | ok completions => exact .call trivial fun _ => .ret _
    | error err => exact .call trivial fun _ => .ret _

theorem moderateReview_issues (id : Int) (decision : String) (actor : Int)
    (requestID reason : String) :
    (moderateReview id decision actor requestID reason).Issues Stores := by
  unfold moderateReview
  split
  · exact .ret _
  · split
    · exact .ret _
    · exact .call trivial fun moderated => .attempt fun _ _ => .call trivial fun _ => .ret _

theorem rebuildRating_issues (goodsID actor : Int) (requestID : String) :
    (rebuildRating goodsID actor requestID).Issues Stores := by
  unfold rebuildRating
  split
  · exact .ret _
  · refine .call trivial fun total => .attempt fun total _ => ?_
    refine .call trivial fun stored => .attempt fun _ _ => ?_
    exact .call trivial fun audited => .attempt fun _ _ => .ret _

def Task.Returns : Task → Result Unit → Prop
  | .service (.create _ _ _ _ _), result => ∃ err, result = .error err
  | _, _ => True

variable [CaseTable] (isolation : Isolation)

theorem relabel_sends {program : Proc Service.Call Service.Reply (Result Unit)}
    (h : program.Issues Stores) :
    (program.relabel Call.service fun _ => id : Program (Result Unit)).Sends
      (exec .unimplemented isolation) Plain fun _ => True := by
  apply Proc.Issues.sends _ fun _ => trivial
  apply h.relabel
  intro request hstores
  exact hstores

theorem exec_verifyCompleted (userID : Int) (orderSN : String) (goodsID : Int) (choice : Choice)
    (world : World) :
    ∃ err, (exec .unimplemented isolation (.service (.verifyCompleted userID orderSN goodsID))
      choice world).1 = .error err := by
  simp only [exec, Service.exec]
  cases choice.outcome <;> exact ⟨_, rfl⟩

/-- No request for a review gets past the verifier. -/
theorem create_sends (userID : Int) (orderSN : String) (goodsID rating : Int) (content : String) :
    (Task.service (.create userID orderSN goodsID rating content)).program.Sends
      (exec .unimplemented isolation) Plain fun result => ∃ err, result = .error err := by
  simp only [Task.program, Service.Task.program, Service.create]
  split
  case isFalse => exact .ret ⟨_, rfl⟩
  case isTrue hrating =>
  split
  case isTrue => exact .ret ⟨_, rfl⟩
  case isFalse =>
  refine .call trivial fun choice world => ?_
  obtain ⟨err, herr⟩ :=
    exec_verifyCompleted isolation userID (trimSpace orderSN) goodsID choice world
  rw [herr]
  exact .ret ⟨_, rfl⟩

theorem task_sends (task : Task) :
    task.program.Sends (exec .unimplemented isolation) Plain task.Returns := by
  cases task with
  | service task =>
    cases task with
    | create userID orderSN goodsID rating content =>
      exact create_sends isolation userID orderSN goodsID rating content
    | moderate id decision actor requestID reason =>
      exact relabel_sends isolation
        ((moderateReview_issues id decision actor requestID reason).bind fun _ => .ret _)
    | rebuildRating goodsID actor requestID =>
      exact relabel_sends isolation
        ((rebuildRating_issues goodsID actor requestID).bind fun _ => .ret _)
    | processOutbox limit => exact relabel_sends isolation (processOutbox_issues limit)
  | append userID id content =>
    refine Proc.Issues.sends ?_ fun _ => trivial
    unfold Task.program appendReview
    dsimp only
    split
    · exact .ret _
    · exact .call trivial fun appended => .attempt fun _ _ => .call trivial fun _ => .ret _
  | reply id actor content requestID =>
    refine Proc.Issues.sends ?_ fun _ => trivial
    unfold Task.program replyReview
    dsimp only
    split
    · exact .ret _
    · exact .call trivial fun replied => .attempt fun _ _ => .call trivial fun _ => .ret _
  | shop program =>
    refine Proc.Issues.sends (Proc.Issues.bind ?_ fun _ => .ret _) fun _ => trivial
    exact (Proc.issues_true program).relabel fun _ _ => trivial
  | order request => exact .call trivial fun _ _ => .ret trivial

variable {ι : Type} [DecidableEq ι]

/-- The review service with the order service as it is, from tables with any reviews.
However requests, moderators, rating workers and the calls of the shop interleave:
every request for a review is refused, the reviews stay what they are but for their
status, each of them about goods that its user has bought in an order which was
finished at some time, no two about one purchase, and each with at most one addition
and one reply, the reply only to an approved one. -/
theorem reviews_stay_backed (tasks : ι → Task) (start : World) (labels : List (ι × Choice))
    (hstart : Backed start) :
    let last := run (move (exec .unimplemented isolation)) (started tasks start) labels
    Backed last.shared ∧
      last.shared.reviews.map unmoderated = start.reviews.map unmoderated ∧
      ∀ thread userID orderSN goodsID rating content,
        tasks thread = .service (.create userID orderSN goodsID rating content) →
          ∀ result, last.threads thread = .ret result → ∃ err, result = .error err := by
  intro last
  have hsending : Sending (exec .unimplemented isolation) (Keeps start) (fun _ => Plain)
      (fun thread => (tasks thread).Returns) (started tasks start) :=
    ⟨.refl hstart, fun thread => task_sends isolation (tasks thread)⟩
  obtain ⟨hkeeps, hreturns⟩ := hsending.invariant (fun _ request choice world hplain hworld => by
    have hstep := exec_keeps .unimplemented isolation hplain choice hworld.backed
    exact ⟨hstep.backed, hstep.same.trans hworld.same⟩) labels
  refine ⟨hkeeps.backed, hkeeps.same, ?_⟩
  intro thread userID orderSN goodsID rating content htask result hresult
  have := hreturns thread result hresult
  rwa [htask] at this

end Threads

section Sample

local instance letters : CaseTable := asciiTable

def sampleWorld : World where
  shop := ⟨⟨[], []⟩, { noOrders with
    orders := [{ System.unpaidOrder "sn" with status := .tradeFinished }]
    statusLogs := [⟨1, 1, "sn", .tradeSuccess, .tradeFinished, "", "", "", 0⟩] }⟩
  service := { db := ⟨[{ id := 1, userID := 9, orderSN := "sn", goodsID := 7
                         rating := fiveStars, content := "good" }], [], fun _ => none⟩ }
  appends := []
  replies := []

def sampleTasks : Fin 4 → Task
  | 0 => .service (.create 9 "sn" 7 1 "bad")
  | 1 => .service (.moderate 1 "approved" 2 "req-1" "")
  | 2 => .reply 1 2 "thank you" "req-2"
  | 3 => .shop (System.orderUpdate { orderSn := "sn", status := "TRADE_CLOSED" })

theorem reviews_stay_backed_sample :
    let last := run (move (exec .unimplemented .readCommitted)) (started sampleTasks sampleWorld)
      ([3, 0, 1, 1, 3, 2, 2].map fun thread => (thread, {}))
    last.shared.reviews.map (fun review => (review.content, review.status)) =
        [("good", .approved)] ∧
      last.shared.replies.map (·.reviewID) = [1] ∧
      last.threads 0 = .ret (.error .purchaseRequired) ∧ Backed last.shared := by
  refine ⟨by decide +kernel, by decide +kernel, rfl, ?_⟩
  refine (reviews_stay_backed .readCommitted sampleTasks sampleWorld _ ?_).1
  constructor
  case bought =>
    intro review hreview
    obtain rfl := List.mem_singleton.mp hreview
    exact ⟨_, List.mem_singleton_self _, by decide +kernel⟩
  all_goals decide +kernel

end Sample

end Goshop.Review.Purchases
