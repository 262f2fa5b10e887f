import Goshop.Lib.Process
import Goshop.Order.Payment

/-! The refund worker of the gateway. A batch claims jobs of the outbox of the order
service, asks the provider for each refund, and reports the result. Every call has
the deadline of its context; times are in nanoseconds, on one clock, and time may
pass before every step. -/
namespace Goshop.Refund.Worker

open Goshop.Errors Goshop.Lib Goshop.Lib.Transaction Goshop.Lib.Process
open Goshop.Order.Model Goshop.Order.Payment

section Options

structure PaymentOptions where
  provider : String := "mock"
  requestTimeout : Int := 10 * second
  workerBatchTimeout : Int := 120 * second
  workerBatchSize : Int := 20
  maxAttempts : Int := 8
deriving DecidableEq, Repr

def defaultWorkerBatchTimeout : Int := 120 * second

def refundJobCompletionTimeout : Int := 15 * second

variable (opts : PaymentOptions)

def workerBatchTimeout : Int :=
  if opts.workerBatchTimeout ≤ 0 then defaultWorkerBatchTimeout else opts.workerBatchTimeout

def refundJobLockTimeout : Int :=
  workerBatchTimeout opts + refundJobCompletionTimeout

/-- The lock timeout travels in whole seconds. -/
def lockTimeoutSeconds : Int :=
  (refundJobLockTimeout opts).tdiv second

end Options

section Server

/-- `ClaimRefundJobs` where other transactions have locked some rows, which it skips. -/
def claimUnlocked (locked : List Int) (limit maxAttempts lockTimeout now : Int) :
    OrderTxn (List RefundJob) := do
  let db ← Txn.read
  let due := db.outbox.filter fun job =>
    claimable maxAttempts lockTimeout now job && job.id ∉ locked
  claimJobs (Sql.datetime3 now) (due.take limit.toNat)

theorem claimUnlocked_nil (limit maxAttempts lockTimeout now : Int) :
    claimUnlocked [] limit maxAttempts lockTimeout now =
      claimBody limit maxAttempts lockTimeout now := by
  simp [claimUnlocked, claimBody]

def lockTimeout (opts : PaymentOptions) : Int :=
  positiveOr (lockTimeoutSeconds opts * second) (120 * second)

def claimFor (opts : PaymentOptions) (locked : List Int) (now : Int) :
    OrderDB → Except AppError (List RefundJob) × OrderDB :=
  Txn.commit (claimUnlocked locked (positiveOr opts.workerBatchSize 20)
    (positiveOr opts.maxAttempts 8) (lockTimeout opts) now)

end Server

section World

structure Batch where
  number : Nat
  started : Int
deriving DecidableEq, Repr

variable (ι : Type)

structure Hold where
  worker : ι
  batch : Batch
  job : Int
deriving DecidableEq, Repr

/-- A call that has failed for its caller and may still take effect. -/
inductive Late where
  | claim (worker : ι) (batch : Batch)
  | complete (job : Int) (result : RefundResult) (started : Int)

/-- The outbox, the batches of the workers, their jobs and open calls of the
provider. `doubleClaims` has each job that was claimed while it was held, and
`doubleRefunds` each one whose refund was asked for while it was being asked for. -/
structure World where
  clock : Int
  db : OrderDB
  batches : ι → Option Batch := fun _ => none
  batchCount : Nat := 0
  holds : List (Hold ι) := []
  refunding : List (ι × Int) := []
  late : List (Late ι) := []
  doubleClaims : List Int := []
  doubleRefunds : List Int := []

/-- What becomes of a call: it may fail before or after its effect, and the effect
may come later than the failure. -/
inductive Fate where
  | ok
  | failBefore
  | failAfter
  | failLater
deriving DecidableEq, Repr

structure RefundResponse where
  providerRefundID : String := ""
  status : String := ""
deriving DecidableEq, Repr

structure Choice where
  elapsed : Nat := 0
  fate : Fate := .ok
  serverNow : Int := 0
  locked : List Int := []
  expired : Bool := false
  refund : Except String RefundResponse := .ok {}
  index : Nat := 0

inductive Call where
  | openBatch (worker : ι)
  | claimRefundJobs (worker : ι) (batch : Batch)
  | batchErr (batch : Batch)
  | openRequest (batch : Batch)
  | startRefund (worker : ι) (job : RefundJob)
  | endRefund (worker : ι) (deadline : Int)
  | openCompletion (batch : Batch)
  | completeRefundJob (worker : ι) (job : Int) (result : RefundResult) (started : Int)
  | leaveBatch (worker : ι)
  | deliver

variable {ι}

abbrev Reply : Call ι → Type
  | .openBatch _ => Batch
  | .claimRefundJobs _ _ => Except AppError (List RefundJob)
  | .batchErr _ => Bool
  | .openRequest _ => Int
  | .endRefund _ _ => Except String RefundResponse
  | .openCompletion _ => Int
  | .completeRefundJob _ _ _ _ => Except AppError Unit
  | _ => Unit

abbrev Program (ι : Type) := Proc (Call ι) Reply

abbrev Result (α : Type) := Except AppError α

end World

section Serve

variable {ι : Type} [DecidableEq ι] [GoText.CaseTable] (opts : PaymentOptions)

def callFailed : AppError := newCode .errUnknown "call failed"

def batchDeadline (batch : Batch) : Int :=
  batch.started + workerBatchTimeout opts

def completionDeadline (started : Int) : Int :=
  started + refundJobCompletionTimeout

/-- The server reads the clock at some moment of the call. -/
def serverTime (choice : Choice) (started now : Int) : Int :=
  min now (max started choice.serverNow)

def isHeld (holds : List (Hold ι)) (job : Int) : Bool :=
  holds.any (·.job = job)

def giveJobs (worker : ι) (batch : Batch) (jobs : List Int) (world : World ι) : World ι :=
  { world with
    holds := if world.batches worker = some batch then
        world.holds ++ jobs.map fun job => ⟨worker, batch, job⟩
      else world.holds
    doubleClaims := world.doubleClaims ++ jobs.filter (isHeld world.holds) }

def claim (worker : ι) (batch : Batch) (choice : Choice) (world : World ι) :
    Except AppError (List RefundJob) × World ι :=
  let now := serverTime choice batch.started world.clock
  match claimFor opts choice.locked now world.db with
  | (.error err, db) => (.error err, { world with db := db })
  | (.ok jobs, db) =>
    (.ok jobs, giveJobs worker batch (jobs.map (·.outboxID)) { world with db := db })

def complete (job : Int) (result : RefundResult) (started : Int) (choice : Choice)
    (world : World ι) : Except AppError Unit × World ι :=
  let now := serverTime choice started world.clock
  let answer := completeRefundJob job result opts.maxAttempts (Sql.datetime3 now) world.db
  (answer.1, { world with db := answer.2 })

def dropJob (worker : ι) (job : Int) (world : World ι) : World ι :=
  { world with holds := world.holds.filter fun hold => hold.worker ≠ worker ∨ hold.job ≠ job }

def addLate (message : Late ι) (world : World ι) : World ι :=
  { world with late := world.late ++ [message] }

def callRemote {α : Type} (fate : Fate) (message : Late ι)
    (operation : World ι → Except AppError α × World ι) (world : World ι) :
    Except AppError α × World ι :=
  match fate with
  | .ok => operation world
  | .failBefore => (.error callFailed, world)
  | .failAfter => (.error callFailed, (operation world).2)
  | .failLater => (.error callFailed, addLate message world)

/-- Whoever has waited for the call is gone; nothing happens after its deadline. -/
def applyLate (message : Late ι) (choice : Choice) (world : World ι) : World ι :=
  match message with
  | .claim worker batch =>
    if world.clock ≤ batchDeadline opts batch then (claim opts worker batch choice world).2
    else world
  | .complete job result started =>
    if world.clock ≤ completionDeadline started then
      (complete opts job result started choice world).2
    else world

def deliver (choice : Choice) (world : World ι) : World ι :=
  match world.late[choice.index]? with
  | none => world
  | some message =>
    applyLate opts message choice { world with late := world.late.eraseIdx choice.index }

def startRefund (worker : ι) (job : Int) (world : World ι) : World ι :=
  { world with
    refunding := world.refunding ++ [(worker, job)]
    doubleRefunds := world.doubleRefunds ++
      if world.refunding.any (·.2 = job) then [job] else [] }

/-- `Err` of a context answers what its timer and its parent have done by then. -/
def serve : (request : Call ι) → Choice → World ι → Reply request × World ι
  | .openBatch worker, _, world =>
    let batch := ⟨world.batchCount, world.clock⟩
    (batch, { world with
      batches := Function.update world.batches worker (some batch)
      batchCount := world.batchCount + 1 })
  | .claimRefundJobs worker batch, choice, world =>
    callRemote choice.fate (.claim worker batch) (claim opts worker batch choice) world
  | .batchErr _, choice, world => (choice.expired, world)
  | .openRequest batch, _, world =>
    (min (batchDeadline opts batch) (world.clock + opts.requestTimeout), world)
  | .startRefund worker job, _, world => ((), startRefund worker job.outboxID world)
  | .endRefund worker _, choice, world =>
    (choice.refund, { world with refunding := world.refunding.filter (·.1 ≠ worker) })
  | .openCompletion _, _, world => (world.clock, world)
  | .completeRefundJob worker job result started, choice, world =>
    let answer := callRemote choice.fate (.complete job result started)
      (complete opts job result started choice) world
    (answer.1, dropJob worker job answer.2)
  | .leaveBatch worker, _, world =>
    ((), { world with
      batches := Function.update world.batches worker none
      holds := world.holds.filter (·.worker ≠ worker) })
  | .deliver, choice, world => ((), deliver opts choice world)

def stepTime (choice : Choice) (world : World ι) : Int :=
  world.clock + choice.elapsed

def exec (request : Call ι) (choice : Choice) (world : World ι) : Reply request × World ι :=
  serve opts request choice { world with clock := stepTime choice world }

end Serve

section Programs

variable {ι : Type} (opts : PaymentOptions) (worker : ι)

def refundResult (refund : Except String RefundResponse) : RefundResult :=
  match refund with
  | .ok response =>
    { success := true, provider := opts.provider
      providerRefundID := response.providerRefundID, providerStatus := response.status }
  | .error detail => { success := false, provider := opts.provider, detail := detail }

def batchExpired : AppError := newCode .errUnknown "context deadline exceeded"

def leave (result : Result Unit) : Program ι (Result Unit) := do
  Proc.send (Call.leaveBatch worker)
  .ret result

def processJobs (batch : Batch) : List RefundJob → Program ι (Result Unit)
  | [] => leave worker (.ok ())
  | job :: rest => do
    let expired ← Proc.send (Call.batchErr batch)
    if expired then leave worker (.error batchExpired)
    else do
      let deadline ← Proc.send (Call.openRequest batch)
      Proc.send (Call.startRefund worker job)
      let refund ← Proc.send (Call.endRefund worker deadline)
      let started ← Proc.send (Call.openCompletion batch)
      let completed ← Proc.send
        (Call.completeRefundJob worker job.outboxID (refundResult opts refund) started)
      match completed with
      | .error err =>
        leave worker (.error (err.wrap ("complete refund job " ++ toString job.outboxID)))
      | .ok _ => processJobs batch rest

def processRefundBatch : Program ι (Result Unit) := do
  let batch ← Proc.send (Call.openBatch worker)
  let claimed ← Proc.send (Call.claimRefundJobs worker batch)
  match claimed with
  | .error err => leave worker (.error (err.wrap "claim refund jobs"))
  | .ok jobs => processJobs opts worker batch jobs

def runRefunds : (batches : Nat) → Program ι Unit
  | 0 => .ret ()
  | batches + 1 => do
    let _ ← processRefundBatch opts worker
    runRefunds batches

/-- The network and the servers, as far as they finish what callers have given up. -/
def deliverLate : (messages : Nat) → Program ι Unit
  | 0 => .ret ()
  | messages + 1 => do
    Proc.send Call.deliver
    deliverLate messages

inductive Task where
  | worker (batches : Nat)
  | network (messages : Nat)

def Task.program : Task → Program ι Unit
  | .worker batches => runRefunds opts worker batches
  | .network messages => deliverLate messages

end Programs

end Goshop.Refund.Worker
