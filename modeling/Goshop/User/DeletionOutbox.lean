import Goshop.Lib.Ensures
import Goshop.User.Accounts
import Goshop.User.Session

/-! Requests to delete an account. The transaction that takes the account out of
service also writes an event for the services that decide about the deletion; a
worker publishes the events to the bus, and publishes them again until it has been
able to store that it has. Times are in milliseconds. -/
namespace Goshop.User.DeletionOutbox

open Goshop.Errors Goshop.Lib Goshop.Lib.GoText Goshop.Lib.Transaction Goshop.Lib.Process
open Goshop.Authz.Principal Goshop.User.Accounts
open Goshop.User.Session (UserSessionDO revokeRows)

structure Uuid where
  text : String
  named : trimSpace text ≠ ""
  fits : Sql.fitsVarchar 36 text

def subjectRequested : String := "goshop.account.deletion.requested"

structure Requested where
  eventID : String
  userID : Int
  requestedAt : Int
deriving DecidableEq, Repr

inductive EventStatus where
  | pending
  | processing
  | published
deriving DecidableEq, Repr

/-- The `json` column keeps the document and not its text, so the payload is the
record itself. -/
structure AccountDeletionOutboxEventDO where
  id : String
  eventType : String
  userID : Int
  payload : Requested
  status : EventStatus
  retryCount : Int := 0
  availableAt : Int
  lockedAt : Option Int := none
  publishedAt : Option Int := none
  lastError : String := ""
  createdAt : Int
deriving DecidableEq, Repr

structure Tables where
  accounts : UserDB
  sessions : List UserSessionDO
  outbox : List AccountDeletionOutboxEventDO
deriving DecidableEq, Repr

abbrev TablesTxn := Txn AppError Tables

section Request

def deletionEvent (user : UserDO) (id : Int) (eventID : String) (time : Int) :
    AccountDeletionOutboxEventDO where
  id := eventID
  eventType := subjectRequested
  userID := user.id
  payload := ⟨eventID, id, time⟩
  status := .pending
  availableAt := time
  createdAt := time

def deletionAuditLog (user : UserDO) : UserAuditLogDO where
  userID := user.id
  actorUserID := user.id
  actorPrincipalType := "customer"
  action := "account_deletion_requested"
  fromStatus := user.status
  toStatus := "deletion_pending"

/-- `appendAuditLogTx`, for an entry that has an actor. -/
def appendAuditLog (log : UserAuditLogDO) (logs : List UserAuditLogDO) : List UserAuditLogDO :=
  if log.userID ≤ 0 then logs else logs ++ [log]

def pendingTables (user : UserDO) (id : Int) (eventID : String) (time : Int) (tables : Tables) :
    Tables where
  accounts := { tables.accounts with
    users := setStatus id "deletion_pending" tables.accounts.users
    auditLogs := appendAuditLog (deletionAuditLog user) tables.accounts.auditLogs }
  sessions := revokeRows (·.userID = id) time tables.sessions
  outbox := tables.outbox ++ [deletionEvent user id eventID time]

def lockedUser (id : Int) (users : List UserDO) : Option UserDO :=
  users.find? fun row => row.id = id ∧ 0 < id ∧ !row.deleted

def requestAccountDeletion (id : Int) (eventID : Uuid) (time : Int) : TablesTxn Unit := do
  Txn.guard (id ≠ 0) (newCode .errUserNotFound "user not found")
  let tables ← Txn.read
  match lockedUser id tables.accounts.users with
  | none => Txn.fail (newCode .errUserNotFound "user not found")
  | some user =>
    -- a request that repeats another one changes nothing
    if user.status = "deletion_pending" then pure ()
    else do
      Txn.guard (normalizeAccountStatus user.status = .active)
        (newCode .errUserAccountInactive "account is not active")
      Txn.guard (!tables.outbox.any (·.id = eventID.text)) databaseError
      Txn.write (pendingTables user id eventID.text time tables)

def storeStatus (id : Int) (user : UserDO) (status : String) (actor : AuditActor) :
    TablesTxn Unit := do
  let tables ← Txn.read
  let users := setStatus id status tables.accounts.users
  let log := statusAuditLog user.id actor user.status status
  Txn.guard (Sql.affected tables.accounts.users users ≠ 0)
    (newCode .errUserNotFound "user not found")
  Txn.guard (Sql.fitsVarchar 32 log.actorPrincipalType) databaseError
  Txn.write { tables with accounts := { tables.accounts with
    users := users, auditLogs := appendAuditLog log tables.accounts.auditLogs } }

end Request

section Store

def updateEvents (selected : AccountDeletionOutboxEventDO → Bool)
    (change : AccountDeletionOutboxEventDO → AccountDeletionOutboxEventDO) (tables : Tables) :
    Tables :=
  { tables with
    outbox := tables.outbox.map fun event => if selected event then change event else event }

def isDue (now : Int) (event : AccountDeletionOutboxEventDO) : Bool :=
  event.status = .pending ∧ event.availableAt ≤ now

def earlier (first second : AccountDeletionOutboxEventDO) : Prop :=
  first.availableAt < second.availableAt ∨
    first.availableAt = second.availableAt ∧ first.createdAt ≤ second.createdAt

instance : DecidableRel earlier := fun first second =>
  inferInstanceAs (Decidable (first.availableAt < second.availableAt ∨
    first.availableAt = second.availableAt ∧ first.createdAt ≤ second.createdAt))

/-- The events that a claim reads; rows that another transaction has locked at that
moment are skipped. -/
def claimedEvents (limit now : Int) (locked : List String) (tables : Tables) :
    List AccountDeletionOutboxEventDO :=
  let limit := if limit ≤ 0 then 50 else limit
  let rows := tables.outbox.filter fun event => isDue now event && event.id ∉ locked
  (rows.insertionSort earlier).take limit.toNat

/-- The events are returned as they were read, before the claim is written. -/
def claimPendingDeletionEvents (limit now : Int) (locked : List String) (tables : Tables) :
    List AccountDeletionOutboxEventDO × Tables :=
  let events := claimedEvents limit now locked tables
  (events, updateEvents (fun event => event.id ∈ events.map (·.id) ∧ event.status = .pending)
    (fun event => { event with status := .processing, lockedAt := some now }) tables)

def updateEvent (eventID : String)
    (change : AccountDeletionOutboxEventDO → AccountDeletionOutboxEventDO) (tables : Tables) :
    Except AppError Unit × Tables :=
  if trimSpace eventID = "" then
    (.error (newCode .errValidation "account deletion event id is required"), tables)
  else (.ok (), updateEvents (·.id = eventID) change tables)

def markDeletionEventPublished (eventID : String) (time : Int) :
    Tables → Except AppError Unit × Tables :=
  updateEvent eventID fun event =>
    { event with status := .published, publishedAt := some time, lockedAt := none, lastError := "" }

def trimDeletionOutboxError (value : String) : ByteArray :=
  let value := (trimSpace value).toUTF8
  if 500 < value.size then value.extract 0 500 else value

/-- A text that was cut inside a character is none that the column takes. -/
def retryDeletionEvent (eventID : String) (retryCount availableAt : Int) (lastError : String)
    (tables : Tables) : Except AppError Unit × Tables :=
  match String.fromUTF8? (trimDeletionOutboxError lastError) with
  | some lastError =>
    updateEvent eventID (fun event =>
      { event with
        status := .pending, retryCount := retryCount, availableAt := availableAt
        lockedAt := none, lastError := lastError }) tables
  | none =>
    if trimSpace eventID = "" then
      (.error (newCode .errValidation "account deletion event id is required"), tables)
    else (.error databaseError, tables)

def isStale (before : Int) (event : AccountDeletionOutboxEventDO) : Bool :=
  event.status = .processing ∧ event.lockedAt.any (· ≤ before)

def requeueStaleDeletionEvents (before : Int) : Tables → Tables :=
  updateEvents (isStale before) fun event => { event with status := .pending, lockedAt := none }

end Store

section Bus

structure Event where
  id : String
  subject : String
  occurredAt : Int
  payload : Requested
  correlationID : String
deriving DecidableEq, Repr

structure Message where
  msgID : String
  subject : String
  data : Requested
  correlationID : String
  occurredAt : Int
deriving DecidableEq, Repr

def Event.validate (event : Event) : Except AppError Unit :=
  if trimSpace event.id = "" then .error (newCode .errUnknown "event id is required")
  else if trimSpace event.subject = "" then
    .error (newCode .errUnknown "event subject is required")
  else .ok ()

def Event.message (event : Event) : Message :=
  ⟨event.id, event.subject, event.payload, event.correlationID, event.occurredAt⟩

def busEvent (event : AccountDeletionOutboxEventDO) : Event :=
  ⟨event.id, event.eventType, event.createdAt, event.payload, event.id⟩

end Bus

/-- The clock, the database, and the publications that the stream has accepted, of
which it keeps one copy if several with one id come shortly after one another. -/
structure World where
  clock : Int
  tables : Tables
  bus : List Message
deriving DecidableEq, Repr

/-- What the environment decides about one call: how long it takes, how it ends,
whether the sweep's context is over, and which rows others have locked. -/
structure Choice where
  elapsed : Nat := 0
  outcome : Outcome := .ok
  failure : String := "call failed"
  cancelled : Bool := false
  locked : List String := []

inductive Call where
  | now
  | ctxErr
  | getByID (id : Int)
  | storeStatus (id : Int) (user : UserDO) (status : String) (actor : AuditActor)
  | requestAccountDeletion (id : Int) (eventID : Uuid) (time : Int)
  | requeueStale (before : Int)
  | connect (url : String)
  | claimPending (limit now : Int)
  | publish (event : Event)
  | markPublished (eventID : String) (time : Int)
  | retry (eventID : String) (retryCount availableAt : Int) (lastError : String)

abbrev Reply : Call → Type
  | .now => Int
  | .ctxErr => Bool
  | .getByID _ => Except AppError UserDO
  | .claimPending _ _ => Except AppError (List AccountDeletionOutboxEventDO)
  | _ => Except AppError Unit

abbrev Result (α : Type) := Except AppError α

abbrev Program := Proc Call Reply

section Serve

def onTables {α : Type} (operation : Tables → Except AppError α × Tables) (world : World) :
    Except AppError α × World :=
  let result := operation world.tables
  (result.1, { world with tables := result.2 })

def connect (url : String) (world : World) : Except AppError Unit × World :=
  if trimSpace url = "" then (.error (newCode .errUnknown "nats url is required"), world)
  else (.ok (), world)

def publish (event : Event) (world : World) : Except AppError Unit × World :=
  match event.validate with
  | .error err => (.error err, world)
  | .ok _ => (.ok (), { world with bus := world.bus ++ [event.message] })

def serve (choice : Choice) : (request : Call) → World → Reply request × World
  | .now, world => (world.clock, world)
  | .ctxErr, world => (choice.cancelled, world)
  | .getByID id, world => remote (fun world => (getByID world.tables.accounts id, world)) world
  | .storeStatus id user status actor, world =>
    remote (onTables (Txn.commit (storeStatus id user status actor))) world
  | .requestAccountDeletion id eventID time, world =>
    remote (onTables (Txn.commit (requestAccountDeletion id eventID time))) world
  | .requeueStale before, world =>
    remote (onTables fun tables => (.ok (), requeueStaleDeletionEvents before tables)) world
  | .connect url, world => remote (connect url) world
  | .claimPending limit now, world =>
    remote (onTables fun tables =>
      let result := claimPendingDeletionEvents limit now choice.locked tables
      (.ok result.1, result.2)) world
  | .publish event, world => remote (publish event) world
  | .markPublished eventID time, world =>
    remote (onTables (markDeletionEventPublished eventID time)) world
  | .retry eventID retryCount availableAt lastError, world =>
    remote (onTables (retryDeletionEvent eventID retryCount availableAt lastError)) world
where
  remote {α : Type} (operation : World → Except AppError α × World) (world : World) :
      Except AppError α × World :=
    call (newCode .errUnknown choice.failure) choice.outcome operation world

def World.tick (world : World) (elapsed : Nat) : World :=
  { world with clock := world.clock + elapsed }

def exec (request : Call) (choice : Choice) (world : World) : Reply request × World :=
  serve choice request (world.tick choice.elapsed)

end Serve

section Service

def delete (id : Int) (eventID : Uuid) : Program (Result Unit) :=
  if id = 0 then .ret (.error (newCode .errValidation "用户不存在"))
  else do
    let time ← Proc.send Call.now
    Proc.send (Call.requestAccountDeletion id eventID time)

def updateStatus (id : Int) (status : String) (actor : AuditActor) : Program (Result Unit) :=
  if id = 0 then .ret (.error (newCode .errUserNotFound "用户不存在"))
  else
    Proc.attempt (normalizeMutableAccountStatus status) fun status => do
      let user ← Proc.send (Call.getByID id)
      Proc.attempt user fun user =>
        if user.status = status then .ret (.ok ())
        else Proc.send (Call.storeStatus id user status actor)

end Service

section Worker

structure AccountDeletionOutboxConfig where
  natsURL : String
  batchSize : Int
  maxRetries : Int
deriving DecidableEq, Repr

def AccountDeletionOutboxConfig.normalized (cfg : AccountDeletionOutboxConfig) :
    AccountDeletionOutboxConfig :=
  { cfg with
    batchSize := if cfg.batchSize ≤ 0 then 50 else cfg.batchSize
    maxRetries := if cfg.maxRetries ≤ 0 then 20 else cfg.maxRetries }

def claimTimeout : Int := 300000

def hour : Int := 3600000

variable (cfg : AccountDeletionOutboxConfig)

def nextRetry (event : AccountDeletionOutboxEventDO) : Int :=
  min (event.retryCount + 1) cfg.maxRetries

def retryDelay (retry : Int) : Int :=
  if retry = cfg.maxRetries then hour else 2 ^ (min retry 8).toNat * 1000

def publishEvent (event : AccountDeletionOutboxEventDO) : Program (Result Unit) := do
  let published ← Proc.send (Call.publish (busEvent event))
  Proc.attempt published fun _ => do
    let time ← Proc.send Call.now
    Proc.send (Call.markPublished event.id time)

def retryEvent (event : AccountDeletionOutboxEventDO) (err : AppError) : Program Unit := do
  let time ← Proc.send Call.now
  let _ ← Proc.send (Call.retry event.id (nextRetry cfg event)
    (time + retryDelay cfg (nextRetry cfg event)) err.message)

def processEvents : List AccountDeletionOutboxEventDO → Program Unit
  | [] => .ret ()
  | event :: rest => do
    if ← Proc.send Call.ctxErr then .ret ()
    else do
      match ← publishEvent event with
      | .ok _ => processEvents rest
      | .error err => do
        retryEvent cfg event err
        if ← Proc.send Call.ctxErr then .ret () else processEvents rest

def process : Program Unit := do
  let now ← Proc.send Call.now
  match ← Proc.send (Call.requeueStale (now - claimTimeout)) with
  | .error _ => .ret ()
  | .ok _ => do
    match ← Proc.send (Call.connect cfg.natsURL) with
    | .error _ => .ret ()
    | .ok _ => do
      match ← Proc.send (Call.claimPending cfg.batchSize now) with
      | .error _ => .ret ()
      | .ok events => processEvents cfg events

/-- The loop of `Run`, which goes on until the context is over; `ticks` is how often
it gets to sweep before that. -/
def sweeps : Nat → Program Unit
  | 0 => .ret ()
  | ticks + 1 => do
    process cfg
    if ← Proc.send Call.ctxErr then .ret () else sweeps ticks

def runWorker (ticks : Nat) : Program Unit :=
  if cfg.natsURL = "" then .ret () else sweeps cfg.normalized ticks

end Worker

inductive Task where
  | delete (id : Int) (eventID : Uuid)
  | updateStatus (id : Int) (status : String) (actor : AuditActor)
  | work (cfg : AccountDeletionOutboxConfig) (ticks : Nat)

def Task.program : Task → Program (Result Unit)
  | .delete id eventID => DeletionOutbox.delete id eventID
  | .updateStatus id status actor => DeletionOutbox.updateStatus id status actor
  | .work cfg ticks => do
    runWorker cfg ticks
    return .ok ()

end Goshop.User.DeletionOutbox
