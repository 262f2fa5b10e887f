import Goshop.Lib.GoText
import Goshop.Lib.Sql
import Goshop.Lib.Transaction
import Mathlib.Algebra.Ring.Int.Defs
import Mathlib.Data.List.Sort

/-! The tables of the review service and its statements on them: the reviews, the
ratings of goods, and the outbox that asks for a rating to be computed again. -/
namespace Goshop.Review.Model

open Goshop.Lib Goshop.Lib.GoText Goshop.Lib.Transaction

inductive ReviewStatus where
  | pending
  | approved
  | rejected
deriving DecidableEq, Repr

structure Stars where
  value : Int
  inRange : 1 ≤ value ∧ value ≤ 5
deriving DecidableEq, Repr

def fiveStars : Stars := ⟨5, by decide⟩

structure ReviewDO where
  id : Int := 0
  userID : Int
  orderSN : String
  goodsID : Int
  rating : Stars
  content : String
  status : ReviewStatus := .pending
deriving DecidableEq, Repr

inductive EventStatus where
  | pending
  | done
deriving DecidableEq, Repr

/-- The event key is `review:<reviewID>:moderate:<decision>`. -/
structure OutboxEvent where
  id : Int := 0
  reviewID : Int
  decision : ReviewStatus
  goodsID : Int
  status : EventStatus := .pending
  nextAttemptAt : Int := 0
deriving DecidableEq, Repr

structure Rating where
  goodsID : Int
  approvedCount : Int
  ratingSum : Int
  averageMilli : Int
deriving DecidableEq, Repr

structure ReviewDB where
  reviews : List ReviewDO
  outbox : List OutboxEvent
  ratings : Int → Option Rating

inductive ReviewError where
  | invalid
  | purchaseRequired
  | conflict
  | notFound
  | invalidState
  | storage
deriving DecidableEq, Repr

abbrev ReviewTxn := Txn ReviewError ReviewDB

section Reviews

def createReview (review : ReviewDO) : ReviewTxn Int := do
  let db ← Txn.read
  Txn.guard (Sql.fitsVarchar 64 review.orderSN && Sql.fitsVarchar 2000 review.content) .storage
  Txn.guard (!db.reviews.any fun row =>
    row.userID = review.userID ∧ row.orderSN = review.orderSN ∧ row.goodsID = review.goodsID)
    .conflict
  let id := Sql.nextId (db.reviews.map (·.id))
  Txn.write { db with reviews := db.reviews ++ [{ review with id := id, status := .pending }] }
  return id

def getReview (db : ReviewDB) (id : Int) : Except ReviewError ReviewDO :=
  match db.reviews.find? (·.id = id) with
  | some row => .ok row
  | none => .error .notFound

def setStatus (id : Int) (decision : ReviewStatus) (row : ReviewDO) : ReviewDO :=
  if row.id = id then { row with status := decision } else row

def appendEvent (event : OutboxEvent) (outbox : List OutboxEvent) : List OutboxEvent :=
  outbox ++ [{ event with id := Sql.nextId (outbox.map (·.id)) }]

/-- The transaction of `Moderate`; of its audit row only the width of the texts
matters. -/
def moderate (id : Int) (decision : ReviewStatus) (requestID reason : String) :
    ReviewTxn Unit := do
  let db ← Txn.read
  let review ← Txn.lift (getReview db id)
  Txn.guard (review.status = .pending) .invalidState
  Txn.guard (Sql.fitsVarchar 128 requestID && Sql.fitsVarchar 255 reason) .storage
  Txn.guard (!db.outbox.any fun event => event.reviewID = id ∧ event.decision = decision) .storage
  Txn.write { db with
    reviews := db.reviews.map (setStatus id decision)
    outbox := appendEvent { reviewID := id, decision := decision, goodsID := review.goodsID }
      db.outbox }

end Reviews

section Ratings

def approved (goodsID : Int) (reviews : List ReviewDO) : List ReviewDO :=
  reviews.filter fun row => row.goodsID = goodsID ∧ row.status = .approved

structure Total where
  count : Int
  sum : Int
deriving DecidableEq, Repr

def aggregate (goodsID : Int) (reviews : List ReviewDO) : Total where
  count := (approved goodsID reviews).length
  sum := ((approved goodsID reviews).map (·.rating.value)).sum

def newRating (goodsID : Int) (total : Total) : Rating where
  goodsID := goodsID
  approvedCount := total.count
  ratingSum := total.sum
  averageMilli := if 0 < total.count then (total.sum * 1000).tdiv total.count else 0

/-- The writes of an outbox transaction: events that are done, each with the rating
that was stored for it. -/
abbrev Completions := List (OutboxEvent × Rating)

def lastRating (completions : Completions) (goodsID : Int) : Option Rating :=
  (completions.reverse.find? (·.2.goodsID = goodsID)).map (·.2)

def completed (completions : Completions) : List Int :=
  completions.map (·.1.id)

def markDone (done : List Int) (event : OutboxEvent) : OutboxEvent :=
  if event.id ∈ done then { event with status := .done } else event

def publish (completions : Completions) (db : ReviewDB) : ReviewDB :=
  { db with
    ratings := fun goodsID => (lastRating completions goodsID).or (db.ratings goodsID)
    outbox := db.outbox.map (markDone (completed completions)) }

def storeRating (rating : Rating) (db : ReviewDB) : ReviewDB :=
  { db with ratings := Function.update db.ratings rating.goodsID (some rating) }

def dueEvents (limit now : Int) (locked : List Int) (outbox : List OutboxEvent) :
    List OutboxEvent :=
  let rows := outbox.filter fun event =>
    event.status = .pending ∧ event.nextAttemptAt ≤ now ∧ event.id ∉ locked
  (rows.insertionSort fun first second => first.id ≤ second.id).take limit.toNat

end Ratings

end Goshop.Review.Model
