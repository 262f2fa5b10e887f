import Goshop.Lib.Process
import Goshop.Review.Model

/-! The functions of the review service as programs. A statement outside of a
transaction takes effect at once. Inside of one it takes locks, and what it writes
is seen by others only after the commit, which therefore carries all the writes. -/
namespace Goshop.Review.Service

open Goshop.Lib Goshop.Lib.GoText Goshop.Lib.Transaction Goshop.Lib.Process Goshop.Review.Model

/-- The isolation level of the database, which the service does not choose. -/
inductive Isolation where
  | readCommitted
  | repeatableRead
deriving DecidableEq, Repr

/-- An open transaction: the rows it has locked, and the reviews as its first plain
read saw them. -/
structure Transaction where
  id : Int
  events : List Int := []
  ratings : List Int := []
  view : Option (List ReviewDO) := none
deriving DecidableEq, Repr

structure World where
  db : ReviewDB
  transactions : List Transaction := []

structure Choice where
  outcome : Outcome := .ok
  now : Int := 0
  purchased : Bool := true

/-- A statement with `none` for its transaction runs outside of any. -/
inductive Call where
  | verifyCompleted (userID : Int) (orderSN : String) (goodsID : Int)
  | createReview (review : ReviewDO)
  | getReview (id : Int)
  | moderate (id : Int) (decision : ReviewStatus) (requestID reason : String)
  | aggregate (tx : Option Int) (goodsID : Int)
  | upsertRating (tx : Option Int) (rating : Rating)
  | createAudit (requestID reason : String)
  | countByStatus (status : EventStatus)
  | beginTx
  | claim (tx limit : Int)
  | completeEvent (tx eventID : Int)
  | commit (tx : Int) (completions : Completions)
  | rollback (tx : Int)
deriving DecidableEq, Repr

abbrev Answer : Call → Type
  | .createReview _ => Int
  | .getReview _ => ReviewDO
  | .aggregate _ _ => Total
  | .countByStatus _ => Int
  | .beginTx => Int
  | .claim _ _ => List OutboxEvent
  | _ => Unit

abbrev Reply (request : Call) : Type := Except ReviewError (Answer request)

abbrev Result (α : Type) := Except ReviewError α

abbrev Program := Proc Call Reply

section Serve

def onDB {α : Type} (operation : ReviewDB → Except ReviewError α × ReviewDB) (world : World) :
    Except ReviewError α × World :=
  let result := operation world.db
  (result.1, { world with db := result.2 })

def inTx {α : Type} (tx : Int) (statement : Transaction → Except ReviewError α × Transaction)
    (world : World) : Except ReviewError α × World :=
  match world.transactions.find? (·.id = tx) with
  | none => (.error .storage, world)
  | some transaction =>
    let result := statement transaction
    let replace (other : Transaction) := if other.id = tx then result.2 else other
    (result.1, { world with transactions := world.transactions.map replace })

/-- A rating row that an open transaction other than `tx` has written is locked. A
statement that waits for it is one that has not been executed yet, or that fails. -/
def ratingLocked (tx : Option Int) (goodsID : Int) (world : World) : Bool :=
  world.transactions.any fun other => some other.id ≠ tx ∧ goodsID ∈ other.ratings

def lockedEvents (tx : Int) (world : World) : List Int :=
  (world.transactions.filter (·.id ≠ tx)).flatMap (·.events)

def readTotal (isolation : Isolation) (goodsID : Int) (reviews : List ReviewDO)
    (tx : Transaction) : Except ReviewError Total × Transaction :=
  let seen := match isolation with
    | .readCommitted => reviews
    | .repeatableRead => tx.view.getD reviews
  (.ok (aggregate goodsID seen), { tx with view := some seen })

def endTx (tx : Int) (db : ReviewDB) (world : World) : Except ReviewError Unit × World :=
  if world.transactions.any (·.id = tx) then
    (.ok (), { db := db, transactions := world.transactions.filter (·.id ≠ tx) })
  else (.error .storage, world)

def serve (isolation : Isolation) :
    (request : Call) → Choice → World → Reply request × World
  | .verifyCompleted _ _ _, choice, world =>
    (if choice.purchased then .ok () else .error .purchaseRequired, world)
  | .createReview review, _, world => onDB (Txn.commit (createReview review)) world
  | .getReview id, _, world => (getReview world.db id, world)
  | .moderate id decision requestID reason, _, world =>
    onDB (Txn.commit (moderate id decision requestID reason)) world
  | .aggregate none goodsID, _, world => (.ok (aggregate goodsID world.db.reviews), world)
  | .aggregate (some tx) goodsID, _, world =>
    inTx tx (readTotal isolation goodsID world.db.reviews) world
  | .upsertRating none rating, _, world =>
    if ratingLocked none rating.goodsID world then (.error .storage, world)
    else (.ok (), { world with db := storeRating rating world.db })
  | .upsertRating (some tx) rating, _, world =>
    if ratingLocked (some tx) rating.goodsID world then (.error .storage, world)
    else inTx tx (fun transaction =>
      (.ok (), { transaction with ratings := rating.goodsID :: transaction.ratings })) world
  | .createAudit requestID reason, _, world =>
    (if Sql.fitsVarchar 128 requestID && Sql.fitsVarchar 255 reason then .ok ()
      else .error .storage, world)
  | .countByStatus status, _, world =>
    (.ok (world.db.outbox.countP fun event => event.status = status), world)
  | .beginTx, _, world =>
    let id := Sql.nextId (world.transactions.map (·.id))
    (.ok id, { world with transactions := world.transactions ++ [{ id := id }] })
  | .claim tx limit, choice, world =>
    let events := dueEvents limit choice.now (lockedEvents tx world) world.db.outbox
    inTx tx (fun transaction =>
      (.ok events, { transaction with events := events.map (·.id) })) world
  | .completeEvent tx _, _, world => inTx tx (fun transaction => (.ok (), transaction)) world
  | .commit tx completions, _, world => endTx tx (publish completions world.db) world
  | .rollback tx, _, world => endTx tx world.db world

def exec (isolation : Isolation) (request : Call) (choice : Choice) (world : World) :
    Reply request × World :=
  call .storage choice.outcome (serve isolation request choice) world

end Serve

section Requests

def create (userID : Int) (orderSN : String) (goodsID rating : Int) (content : String) :
    Program (Result ReviewDO) :=
  let orderSN := trimSpace orderSN
  let content := trimSpace content
  if h : 1 ≤ rating ∧ rating ≤ 5 then
    if userID ≤ 0 ∨ goodsID ≤ 0 ∨ orderSN = "" ∨ content = "" ∨ 2000 < content.utf8ByteSize then
      .ret (.error .invalid)
    else do
      let verified ← Proc.send (Call.verifyCompleted userID orderSN goodsID)
      match verified with
      | .error _ => .ret (.error .purchaseRequired)
      | .ok _ => do
        let created ← Proc.send (Call.createReview
          { userID := userID, orderSN := orderSN, goodsID := goodsID
            rating := ⟨rating, h⟩, content := content })
        Proc.attempt created fun id => Proc.send (Call.getReview id)
  else .ret (.error .invalid)

/-- `strings.ToUpper`; no other letters than the ASCII ones have an upper case
among those of the two decisions. -/
def parseDecision (text : String) : Option ReviewStatus :=
  let upper := (trimSpace text).toList.map Char.toUpper
  if upper = "APPROVED".toList then some .approved
  else if upper = "REJECTED".toList then some .rejected
  else none

def moderateReview (id : Int) (decision : String) (actor : Int) (requestID reason : String) :
    Program (Result ReviewDO) :=
  match parseDecision decision with
  | none => .ret (.error .invalid)
  | some decision =>
    if id = 0 ∨ actor ≤ 0 ∨ trimSpace requestID = "" then .ret (.error .invalid)
    else do
      let moderated ← Proc.send (Call.moderate id decision requestID reason)
      Proc.attempt moderated fun _ => Proc.send (Call.getReview id)

def rebuildRating (goodsID actor : Int) (requestID : String) : Program (Result Rating) :=
  if goodsID ≤ 0 ∨ actor ≤ 0 ∨ trimSpace requestID = "" then .ret (.error .invalid)
  else do
    let total ← Proc.send (Call.aggregate none goodsID)
    Proc.attempt total fun total => do
      let rating := newRating goodsID total
      let stored ← Proc.send (Call.upsertRating none rating)
      Proc.attempt stored fun _ => do
        let audited ← Proc.send (Call.createAudit requestID ("goods:" ++ toString goodsID))
        Proc.attempt audited fun _ => .ret (.ok rating)

end Requests

section Outbox

def observeReviewOutboxBacklog : List EventStatus → Program (Result Unit)
  | [] => .ret (.ok ())
  | status :: rest => do
    let count ← Proc.send (Call.countByStatus status)
    Proc.attempt count fun _ => observeReviewOutboxBacklog rest

def rateEvents (tx : Int) (done : Completions) : List OutboxEvent → Program (Result Completions)
  | [] => .ret (.ok done)
  | event :: rest => do
    let total ← Proc.send (Call.aggregate (some tx) event.goodsID)
    Proc.attempt total fun total => do
      let rating := newRating event.goodsID total
      let stored ← Proc.send (Call.upsertRating (some tx) rating)
      Proc.attempt stored fun _ => do
        let marked ← Proc.send (Call.completeEvent tx event.id)
        Proc.attempt marked fun _ => rateEvents tx (done ++ [(event, rating)]) rest

def outboxBody (tx limit : Int) : Program (Result Completions) := do
  let events ← Proc.send (Call.claim tx limit)
  Proc.attempt events fun events => rateEvents tx [] events

/-- `Transaction` of gorm: an error of the body is returned after the rollback. -/
def outboxTransaction (limit : Int) : Program (Result Unit) := do
  let begun ← Proc.send Call.beginTx
  Proc.attempt begun fun tx => do
    match ← outboxBody tx limit with
    | .ok completions => Proc.send (Call.commit tx completions)
    | .error err => do
      let _ ← Proc.send (Call.rollback tx)
      .ret (.error err)

def processOutbox (limit : Int) : Program (Result Unit) := do
  let limit := if limit ≤ 0 then 50 else limit
  let observed ← observeReviewOutboxBacklog [.pending, .done]
  Proc.attempt observed fun _ => do
    let processed ← outboxTransaction limit
    Proc.attempt processed fun _ => observeReviewOutboxBacklog [.pending, .done]

end Outbox

inductive Task where
  | create (userID : Int) (orderSN : String) (goodsID rating : Int) (content : String)
  | moderate (id : Int) (decision : String) (actor : Int) (requestID reason : String)
  | rebuildRating (goodsID actor : Int) (requestID : String)
  | processOutbox (limit : Int)

def Task.program : Task → Program (Result Unit)
  | .create userID orderSN goodsID rating content =>
    Service.create userID orderSN goodsID rating content >>= fun result =>
      .ret (result.map fun _ => ())
  | .moderate id decision actor requestID reason =>
    moderateReview id decision actor requestID reason >>= fun result =>
      .ret (result.map fun _ => ())
  | .rebuildRating goodsID actor requestID =>
    Service.rebuildRating goodsID actor requestID >>= fun result => .ret (result.map fun _ => ())
  | .processOutbox limit => Service.processOutbox limit

end Goshop.Review.Service
