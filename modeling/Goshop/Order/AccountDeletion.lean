import Goshop.Lib.OpenRows
import Goshop.Lib.Process
import Goshop.Order.Model
import Mathlib.Algebra.Group.Nat.Defs

/-! The order service's review of account deletions. Each call looks for an
earlier decision with a plain read, decides from the orders and refunds it reads,
and inserts its decision and the event that announces it in one transaction.
Calls for one request may overlap, and the orders may change all the time; the
keys of the two tables make the first decision that is committed the only one. -/
namespace Goshop.Order.AccountDeletion

open Goshop.Errors Goshop.Lib Goshop.Lib.Transaction Goshop.Lib.Process Goshop.Lib.Run
open Goshop.Lib.OpenRows Goshop.Order.Model

section Data

structure Requested where
  eventID : String
  userID : Nat
deriving DecidableEq, Repr

structure Decision where
  eventID : String := ""
  requestID : String
  userID : Nat
  confirmed : Bool
  reason : String
  decidedAt : Int
deriving DecidableEq, Repr

inductive Verdict where
  | confirmed
  | rejected
deriving DecidableEq, Repr

inductive Subject where
  | confirmed
  | rejected
deriving DecidableEq, Repr

structure AccountDeletionInboxDO where
  requestID : String
  userID : Int
  decision : Verdict
  reason : String
  createdAt : Int
deriving DecidableEq, Repr

/-- The payload is the decision as JSON. -/
structure AccountDeletionOutboxDO where
  id : String
  requestID : String
  eventType : Subject
  userID : Int
  payload : Decision
  status : OutboxStatus
  availableAt : Int
  createdAt : Int
  updatedAt : Int
deriving DecidableEq, Repr

def invalidData : AppError := newCode .errUnknown "unsupported data"

def databaseFailed : AppError := newCode .errUnknown "database operation"

def blockedReason : String := "存在未完成订单或退款，暂不能注销"

def orderDone (status : String) : Bool :=
  GoText.toUpper (GoText.trimSpace status) ∈
    ["TRADE_CLOSED", "TRADE_FINISHED", "REFUNDED", "REFUND_FAILED"]

def refundDone (status : String) : Bool :=
  GoText.toUpper (GoText.trimSpace status) ∈ ["REFUNDED", "FAILED", "CLOSED", "CANCELLED"]

def accountDeletionCanProceed (orders refunds : List String) : Bool × String :=
  if orders.all orderDone && refunds.all refundDone then (true, "") else (false, blockedReason)

def refundStatusText : RefundStatus → String
  | .refundPending => "REFUND_PENDING"
  | .processing => "PROCESSING"
  | .refunded => "REFUNDED"
  | .failed => "FAILED"

def orderStatuses (db : OrderDB) (userID : Nat) : List String :=
  (db.orders.filter fun row => row.user = (userID : Int) ∧ !row.deleted).map (·.status.text)

/-- The refunds joined with the user's orders, deleted ones too. -/
def refundStatuses (db : OrderDB) (userID : Nat) : List String :=
  db.refunds.flatMap fun refund =>
    (db.orders.filter fun row => row.orderSn = refund.orderSN ∧ row.user = (userID : Int)).map
      fun _ => refundStatusText refund.status

/-- The conversions between `uint64` and `int32`. -/
def columnID (userID : Nat) : Int := (userID : Int).bmod (2 ^ 32)

def ofColumnID (userID : Int) : Nat := (userID % 2 ^ 64).toNat

def inboxRow (request : Requested) (confirmed : Bool) (reason : String) (now : Int) :
    AccountDeletionInboxDO where
  requestID := request.eventID
  userID := columnID request.userID
  decision := if confirmed then .confirmed else .rejected
  reason := reason
  createdAt := now

def newDecision (request : Requested) (uuid : String) (confirmed : Bool) (reason : String)
    (now : Int) : Decision where
  eventID := uuid
  requestID := request.eventID
  userID := request.userID
  confirmed := confirmed
  reason := reason
  decidedAt := now

def outboxRow (request : Requested) (decision : Decision) (now : Int) :
    AccountDeletionOutboxDO where
  id := decision.eventID
  requestID := request.eventID
  eventType := if decision.confirmed then .confirmed else .rejected
  userID := columnID request.userID
  payload := decision
  status := .pending
  availableAt := now
  createdAt := now
  updatedAt := now

def storedDecision (inbox : AccountDeletionInboxDO) : Decision where
  requestID := inbox.requestID
  userID := ofColumnID inbox.userID
  confirmed := inbox.decision = .confirmed
  reason := inbox.reason
  decidedAt := inbox.createdAt

end Data

section Database

variable {ι : Type}

def InboxKeys (row row' : AccountDeletionInboxDO) : Prop :=
  row.requestID ≠ row'.requestID

def OutboxKeys (event event' : AccountDeletionOutboxDO) : Prop :=
  event.id ≠ event'.id ∧ event.requestID ≠ event'.requestID

instance : DecidableRel InboxKeys := fun row row' =>
  inferInstanceAs (Decidable (row.requestID ≠ row'.requestID))

instance : DecidableRel OutboxKeys := fun event event' =>
  inferInstanceAs (Decidable (event.id ≠ event'.id ∧ event.requestID ≠ event'.requestID))

instance : Std.Symm InboxKeys := ⟨fun _ _ h => Ne.symm h⟩

instance : Std.Symm OutboxKeys := ⟨fun _ _ h => ⟨Ne.symm h.1, Ne.symm h.2⟩⟩

structure World (ι : Type) where
  inbox : Rows ι AccountDeletionInboxDO
  outbox : Rows ι AccountDeletionOutboxDO
deriving DecidableEq, Repr

/-- The statements of a call. Those that belong to its transaction only while it
is open name the transaction. -/
inductive Call (ι : Type)
  | begin
  | findInbox (requestID : String)
  | orderStatuses (userID : Nat)
  | refundStatuses (userID : Nat)
  | createInbox (tx : ι) (row : AccountDeletionInboxDO)
  | createOutbox (tx : ι) (event : AccountDeletionOutboxDO)
  | commit (tx : ι)
  | rollback (tx : ι)

abbrev Answer : Call ι → Type
  | .findInbox _ => Option AccountDeletionInboxDO
  | .orderStatuses _ | .refundStatuses _ => List String
  | .begin | .createInbox _ _ | .createOutbox _ _ | .commit _ | .rollback _ => Unit

abbrev Reply (request : Call ι) : Type := Except AppError (Answer request)

structure Choice where
  outcome : Outcome := .ok
  orders : OrderDB := noOrders

def changed (world : World ι) : Option (World ι) → Except AppError Unit × World ι
  | some world' => (.ok (), world')
  | none => (.error databaseFailed, world)

def createInbox (tx : ι) (row : AccountDeletionInboxDO) (world : World ι) : Option (World ι) :=
  if Sql.fitsVarchar 36 row.requestID ∧ Sql.fitsVarchar 255 row.reason then
    (world.inbox.insert InboxKeys tx row).map fun inbox => { world with inbox := inbox }
  else none

def createOutbox (tx : ι) (event : AccountDeletionOutboxDO) (world : World ι) :
    Option (World ι) :=
  if Sql.fitsVarchar 36 event.id ∧ Sql.fitsVarchar 36 event.requestID then
    (world.outbox.insert OutboxKeys tx event).map fun outbox => { world with outbox := outbox }
  else none

variable [DecidableEq ι]

def serve : (request : Call ι) → Choice → World ι → Reply request × World ι
  | .begin, _, world => (.ok (), world)
  | .findInbox requestID, _, world =>
    (.ok (world.inbox.stored.find? (·.requestID = requestID)), world)
  | .orderStatuses userID, choice, world =>
    (.ok (AccountDeletion.orderStatuses choice.orders userID), world)
  | .refundStatuses userID, choice, world =>
    (.ok (AccountDeletion.refundStatuses choice.orders userID), world)
  | .createInbox tx row, _, world => changed world (AccountDeletion.createInbox tx row world)
  | .createOutbox tx event, _, world => changed world (AccountDeletion.createOutbox tx event world)
  | .commit tx, _, world => (.ok (), ⟨world.inbox.commit tx, world.outbox.commit tx⟩)
  | .rollback tx, _, world => (.ok (), ⟨world.inbox.rollback tx, world.outbox.rollback tx⟩)

def exec (request : Call ι) (choice : Choice) (world : World ι) : Reply request × World ι :=
  call databaseFailed choice.outcome (serve request choice) world

end Database

section Review

variable {ι : Type}

def recordDecision (tx : ι) (request : Requested) (uuid : String) (now : Int) (confirmed : Bool)
    (reason : String) : Proc (Call ι) Reply (Except AppError Decision) := do
  let row := inboxRow request confirmed reason now
  Proc.attempt (← Proc.send (.createInbox tx row)) fun _ => do
    let decision := newDecision request uuid confirmed reason now
    let event := outboxRow request decision now
    Proc.attempt (← Proc.send (.createOutbox tx event)) fun _ => pure (.ok decision)

def reviewOrders (tx : ι) (request : Requested) (uuid : String) (now : Int) :
    Proc (Call ι) Reply (Except AppError Decision) := do
  Proc.attempt (← Proc.send (.orderStatuses request.userID)) fun orders => do
    Proc.attempt (← Proc.send (.refundStatuses request.userID)) fun refunds =>
      let verdict := accountDeletionCanProceed orders refunds
      recordDecision tx request uuid now verdict.1 verdict.2

def review (tx : ι) (request : Requested) (uuid : String) (now : Int) :
    Proc (Call ι) Reply (Except AppError Decision) := do
  Proc.attempt (← Proc.send (.findInbox request.eventID)) fun found =>
    match (found : Option AccountDeletionInboxDO) with
    | some inbox => pure (.ok (storedDecision inbox))
    | none => reviewOrders tx request uuid now

def finish (tx : ι) :
    Except AppError Decision → Proc (Call ι) Reply (Except AppError Decision)
  | .error err => do
    let _ ← Proc.send (.rollback tx)
    pure (.error err)
  | .ok decision => do
    match (← Proc.send (.commit tx)) with
    | .ok _ => pure (.ok decision)
    | .error err =>
      let _ ← Proc.send (.rollback tx)
      pure (.error err)

/-- `ReviewAccountDeletion`. A call that crashes is one whose next statement
fails and whose transaction is rolled back then. -/
def reviewAccountDeletion (tx : ι) (request : Requested) (uuid : String) (now : Int) :
    Proc (Call ι) Reply (Except AppError Decision) :=
  if GoText.trimSpace request.eventID = "" ∨ request.userID = 0 then pure (.error invalidData)
  else do
    Proc.attempt (← Proc.send .begin) fun _ => do
      finish tx (← review tx request uuid now)

end Review

section Invariant

variable {ι : Type}

structure Announces (event : AccountDeletionOutboxDO) (row : AccountDeletionInboxDO) : Prop where
  request : event.requestID = row.requestID
  subject : event.eventType = .confirmed ↔ row.decision = .confirmed
  confirmed : event.payload.confirmed = true ↔ row.decision = .confirmed
  reason : event.payload.reason = row.reason

structure Reports (decision : Decision) (row : AccountDeletionInboxDO) : Prop where
  confirmed : decision.confirmed = true ↔ row.decision = .confirmed
  reason : decision.reason = row.reason

theorem reports_stored (row : AccountDeletionInboxDO) : Reports (storedDecision row) row :=
  ⟨by simp [storedDecision], rfl⟩

theorem reports_new (request : Requested) (uuid : String) (confirmed : Bool) (reason : String)
    (now : Int) :
    Reports (newDecision request uuid confirmed reason now)
      (inboxRow request confirmed reason now) :=
  ⟨by cases confirmed <;> simp [newDecision, inboxRow], rfl⟩

theorem announces_new (request : Requested) (uuid : String) (confirmed : Bool) (reason : String)
    (now : Int) :
    Announces (outboxRow request (newDecision request uuid confirmed reason now) now)
      (inboxRow request confirmed reason now) where
  request := rfl
  subject := by cases confirmed <;> simp [outboxRow, newDecision, inboxRow]
  confirmed := (reports_new request uuid confirmed reason now).confirmed
  reason := rfl

structure Sound (world : World ι) : Prop where
  inbox : world.inbox.Valid InboxKeys
  outbox : world.outbox.Valid OutboxKeys
  announced : ∀ row ∈ world.inbox.stored, ∃ event ∈ world.outbox.stored, Announces event row
  decided : ∀ event ∈ world.outbox.stored, ∃ row ∈ world.inbox.stored, Announces event row

def OnSuccess (holds : Decision → World ι → Prop) (result : Except AppError Decision)
    (world : World ι) : Prop :=
  ∀ decision, result = .ok decision → holds decision world

theorem onSuccess_error {holds : Decision → World ι → Prop} (err : AppError) (world : World ι) :
    OnSuccess holds (.error err) world := by
  intro decision h
  cases h

variable [DecidableEq ι]

def Inserted (tx : ι) (rows : List AccountDeletionInboxDO) (events : List AccountDeletionOutboxDO)
    (world : World ι) : Prop :=
  world.inbox.own tx = rows ∧ world.outbox.own tx = events

structure Guarantee (tx : ι) (world world' : World ι) : Prop where
  sound : Sound world → Sound world'
  inbox : Rows.Apart tx world.inbox world'.inbox
  outbox : Rows.Apart tx world.outbox world'.outbox

structure Rely (tx : ι) (world world' : World ι) : Prop where
  stored : world.inbox.stored ⊆ world'.inbox.stored
  rows : world'.inbox.own tx = world.inbox.own tx
  events : world'.outbox.own tx = world.outbox.own tx

theorem guarantee_refl (tx : ι) (world : World ι) : Guarantee tx world world :=
  ⟨id, .refl tx _, .refl tx _⟩

theorem Guarantee.rely {tx other : ι} {world world' : World ι} (h : Guarantee tx world world')
    (hother : other ≠ tx) : Rely other world world' :=
  ⟨h.inbox.stored, h.inbox.own other hother, h.outbox.own other hother⟩

end Invariant

section Steps

variable {ι : Type} {tx : ι} {row : AccountDeletionInboxDO} {event : AccountDeletionOutboxDO}
  {world world' : World ι}

theorem createInbox_some (h : createInbox tx row world = some world') :
    ∃ inbox, world.inbox.insert InboxKeys tx row = some inbox ∧
      world' = { world with inbox := inbox } := by
  unfold createInbox at h
  split at h
  · obtain ⟨inbox, hinsert, hworld⟩ := Option.map_eq_some_iff.mp h
    exact ⟨inbox, hinsert, hworld.symm⟩
  · cases h

theorem createOutbox_some (h : createOutbox tx event world = some world') :
    ∃ outbox, world.outbox.insert OutboxKeys tx event = some outbox ∧
      world' = { world with outbox := outbox } := by
  unfold createOutbox at h
  split at h
  · obtain ⟨outbox, hinsert, hworld⟩ := Option.map_eq_some_iff.mp h
    exact ⟨outbox, hinsert, hworld.symm⟩
  · cases h

theorem changed_ok {result : Option (World ι)} {value : Unit}
    (h : (changed world result).1 = .ok value) : result = some (changed world result).2 := by
  cases result with
  | none => cases h
  | some world' => rfl

variable [DecidableEq ι]

theorem guarantee_changed {result : Option (World ι)}
    (h : ∀ world', result = some world' → Guarantee tx world world') :
    Guarantee tx world (changed world result).2 := by
  cases result with
  | none => exact guarantee_refl tx world
  | some world' => exact h world' rfl

theorem guarantee_createInbox (h : createInbox tx row world = some world') :
    Guarantee tx world world' := by
  obtain ⟨inbox, hinsert, rfl⟩ := createInbox_some h
  have hstored := Rows.insert_stored hinsert
  refine ⟨fun hsound => ⟨hsound.inbox.insert hinsert, hsound.outbox, ?_, ?_⟩,
    Rows.apart_insert hinsert, .refl tx _⟩
  · rw [hstored]
    exact hsound.announced
  · rw [hstored]
    exact hsound.decided

theorem guarantee_createOutbox (h : createOutbox tx event world = some world') :
    Guarantee tx world world' := by
  obtain ⟨outbox, hinsert, rfl⟩ := createOutbox_some h
  have hstored := Rows.insert_stored hinsert
  refine ⟨fun hsound => ⟨hsound.inbox, hsound.outbox.insert hinsert, ?_, ?_⟩,
    .refl tx _, Rows.apart_insert hinsert⟩
  · rw [hstored]
    exact hsound.announced
  · rw [hstored]
    exact hsound.decided

theorem guarantee_rollback (tx : ι) (world : World ι) :
    Guarantee tx world ⟨world.inbox.rollback tx, world.outbox.rollback tx⟩ where
  sound hsound := ⟨hsound.inbox.rollback tx, hsound.outbox.rollback tx, hsound.announced,
    hsound.decided⟩
  inbox := Rows.apart_rollback tx _
  outbox := Rows.apart_rollback tx _

/-- A transaction may commit when it has inserted a decision with its event, or
nothing. -/
def Complete (tx : ι) (world : World ι) : Prop :=
  Inserted tx [] [] world ∨ ∃ row event, Inserted tx [row] [event] world ∧ Announces event row

theorem guarantee_commit (h : Complete tx world) :
    Guarantee tx world ⟨world.inbox.commit tx, world.outbox.commit tx⟩ := by
  refine ⟨fun hsound => ⟨hsound.inbox.commit tx, hsound.outbox.commit tx, ?_, ?_⟩,
    Rows.apart_commit tx _, Rows.apart_commit tx _⟩
  · intro row hrow
    rw [Rows.commit_stored, List.mem_append] at hrow
    rcases hrow with hrow | hrow
    · obtain ⟨event, hevent, hannounces⟩ := hsound.announced row hrow
      exact ⟨event, List.mem_append_left _ hevent, hannounces⟩
    · rcases h with ⟨hrows, -⟩ | ⟨new, event, ⟨hrows, hevents⟩, hannounces⟩
      · simp [hrows] at hrow
      · rw [hrows, List.mem_singleton] at hrow
        exact ⟨event, List.mem_append_right _ (by simp [hevents]), hrow ▸ hannounces⟩
  · intro event hevent
    rw [Rows.commit_stored, List.mem_append] at hevent
    rcases hevent with hevent | hevent
    · obtain ⟨row, hrow, hannounces⟩ := hsound.decided event hevent
      exact ⟨row, List.mem_append_left _ hrow, hannounces⟩
    · rcases h with ⟨-, hevents⟩ | ⟨row, new, ⟨hrows, hevents⟩, hannounces⟩
      · simp [hevents] at hevent
      · rw [hevents, List.mem_singleton] at hevent
        exact ⟨row, List.mem_append_right _ (by simp [hrows]), hevent ▸ hannounces⟩

end Steps

section Safety

variable {ι : Type} [DecidableEq ι] {tx : ι} {request : Requested}

def Decided (request : Requested) (decision : Decision) (world : World ι) : Prop :=
  ∃ row ∈ world.inbox.stored, row.requestID = request.eventID ∧ Reports decision row

def Prepared (tx : ι) (request : Requested) (decision : Decision) (world : World ι) : Prop :=
  (Inserted tx [] [] world ∧ Decided request decision world) ∨
    ∃ row event, Inserted tx [row] [event] world ∧ Announces event row ∧
      row.requestID = request.eventID ∧ Reports decision row

theorem inserted_stable (rows : List AccountDeletionInboxDO)
    (events : List AccountDeletionOutboxDO) : Stable (Rely tx) (Inserted tx rows events) :=
  fun _ _ h hstep => ⟨hstep.rows.trans h.1, hstep.events.trans h.2⟩

theorem decided_stable (decision : Decision) :
    Stable (Rely tx) (Decided request decision) := by
  rintro world world' ⟨row, hrow, hrequest, hreports⟩ hstep
  exact ⟨row, hstep.stored hrow, hrequest, hreports⟩

theorem prepared_stable (decision : Decision) :
    Stable (Rely tx) (Prepared tx request decision) := by
  rintro world world' (⟨hinserted, hdecided⟩ | ⟨row, event, hinserted, hrest⟩) hstep
  · exact .inl ⟨inserted_stable _ _ _ _ hinserted hstep, decided_stable _ _ _ hdecided hstep⟩
  · exact .inr ⟨row, event, inserted_stable _ _ _ _ hinserted hstep, hrest⟩

theorem Prepared.complete {decision : Decision} {world : World ι}
    (h : Prepared tx request decision world) : Complete tx world := by
  rcases h with ⟨hinserted, -⟩ | ⟨row, event, hinserted, hannounces, -⟩
  · exact .inl hinserted
  · exact .inr ⟨row, event, hinserted, hannounces⟩

theorem Prepared.decided {decision : Decision} {world : World ι}
    (h : Prepared tx request decision world) :
    Decided request decision ⟨world.inbox.commit tx, world.outbox.commit tx⟩ := by
  rcases h with ⟨-, row, hrow, hrest⟩ | ⟨row, event, hinserted, -, hrest⟩
  · exact ⟨row, List.mem_append_left _ hrow, hrest⟩
  · exact ⟨row, List.mem_append_right _ (by simp [hinserted.1]), hrest⟩

abbrev CallSafe (tx : ι) {α : Type} (post : α → World ι → Prop) (pre : World ι → Prop)
    (program : Proc (Call ι) Reply α) : Prop :=
  Safe exec (fun _ _ _ => True) (Rely tx) (Guarantee tx) post pre program

theorem tried_safe {statement : Call ι} {pre : World ι → Prop}
    {post : Except AppError Decision → World ι → Prop}
    {next : Answer statement → Proc (Call ι) Reply (Except AppError Decision)}
    (mid : Answer statement → World ι → Prop) (stable : Stable (Rely tx) pre)
    (stableMid : ∀ value, Stable (Rely tx) (mid value))
    (refused : ∀ err world, post (.error err) world)
    (guarantees : ∀ choice world, pre world → Guarantee tx world (serve statement choice world).2)
    (done : ∀ choice world value, pre world → (serve statement choice world).1 = .ok value →
      mid value (serve statement choice world).2)
    (taken : ∀ value, CallSafe tx post (mid value) (next value)) :
    CallSafe tx post pre (.call statement fun reply => Proc.attempt reply next) := by
  refine .call (fun reply world => ∀ value, reply = .ok value → mid value world) stable ?_ ?_
  · intro world choice hpre _
    refine ⟨call_preserves _ _ (guarantee_refl tx world) (guarantees choice world hpre), ?_⟩
    intro value hvalue
    obtain ⟨houtcome, hserved⟩ := call_value hvalue
    rw [exec, houtcome, call_okay]
    exact done choice world value hpre hserved
  · intro reply
    cases reply with
    | error err =>
      refine .ret (fun _ _ _ _ value h => by cases h) fun world _ => ?_
      exact refused err world
    | ok value =>
      refine (taken value).weaken ?_ fun world h => h value rfl
      intro world world' h hstep other hother
      exact stableMid other _ _ (h other hother) hstep

theorem onSuccess_stable {holds : Decision → World ι → Prop}
    (stable : ∀ decision, Stable (Rely tx) (holds decision)) (result : Except AppError Decision) :
    Stable (Rely tx) (OnSuccess holds result) :=
  fun _ _ h hstep decision hdecision => stable decision _ _ (h decision hdecision) hstep

theorem recordDecision_safe (uuid : String) (now : Int) (confirmed : Bool) (reason : String) :
    CallSafe tx (OnSuccess (Prepared tx request)) (Inserted tx [] [])
      (recordDecision tx request uuid now confirmed reason) := by
  let row := inboxRow request confirmed reason now
  let event := outboxRow request (newDecision request uuid confirmed reason now) now
  refine tried_safe (fun _ => Inserted tx [row] []) (inserted_stable _ _)
    (fun _ => inserted_stable _ _) onSuccess_error
    (fun _ _ _ => guarantee_changed fun _ => guarantee_createInbox) ?_ fun _ => ?_
  · intro _ world _ hinserted hok
    obtain ⟨inbox, hinsert, hworld⟩ := createInbox_some (changed_ok hok)
    rw [serve, hworld]
    exact ⟨by rw [Rows.own_insert hinsert, hinserted.1, if_pos rfl]; rfl, hinserted.2⟩
  refine tried_safe (fun _ => Inserted tx [row] [event]) (inserted_stable _ _)
    (fun _ => inserted_stable _ _) onSuccess_error
    (fun _ _ _ => guarantee_changed fun _ => guarantee_createOutbox) ?_ fun _ => ?_
  · intro _ world _ hinserted hok
    obtain ⟨outbox, hinsert, hworld⟩ := createOutbox_some (changed_ok hok)
    rw [serve, hworld]
    exact ⟨hinserted.1, by rw [Rows.own_insert hinsert, hinserted.2, if_pos rfl]; rfl⟩
  refine .ret (inserted_stable _ _) ?_
  intro world hinserted decision hdecision
  cases hdecision
  exact .inr ⟨row, event, hinserted, announces_new request uuid confirmed reason now, rfl,
    reports_new request uuid confirmed reason now⟩

theorem read_safe {statement : Call ι}
    {next : Answer statement → Proc (Call ι) Reply (Except AppError Decision)}
    {holds : Decision → World ι → Prop}
    (reads : ∀ choice world, (serve statement choice world).2 = world)
    (taken : ∀ value, CallSafe tx (OnSuccess holds) (Inserted tx [] []) (next value)) :
    CallSafe tx (OnSuccess holds) (Inserted tx [] [])
      (.call statement fun reply => Proc.attempt reply next) := by
  refine tried_safe (fun _ => Inserted tx [] []) (inserted_stable _ _)
    (fun _ => inserted_stable _ _) onSuccess_error ?_ ?_ taken
  · intro choice world _
    rw [reads]
    exact guarantee_refl tx world
  · intro choice world _ hinserted _
    rw [reads]
    exact hinserted

theorem reviewOrders_safe (uuid : String) (now : Int) :
    CallSafe tx (OnSuccess (Prepared tx request)) (Inserted tx [] [])
      (reviewOrders tx request uuid now) :=
  read_safe (fun _ _ => rfl) fun _ => read_safe (fun _ _ => rfl) fun _ =>
    recordDecision_safe uuid now _ _

theorem review_safe (uuid : String) (now : Int) :
    CallSafe tx (OnSuccess (Prepared tx request)) (Inserted tx [] [])
      (review tx request uuid now) := by
  refine tried_safe (fun found world => Inserted tx [] [] world ∧
      ∀ row, found = some row → row ∈ world.inbox.stored ∧ row.requestID = request.eventID)
    (inserted_stable _ _) ?_ onSuccess_error
    (fun _ world _ => guarantee_refl tx world) ?_ fun found => ?_
  · intro found world world' h hstep
    refine ⟨inserted_stable _ _ _ _ h.1 hstep, fun row hrow => ?_⟩
    exact ⟨hstep.stored (h.2 row hrow).1, (h.2 row hrow).2⟩
  · intro choice world found hinserted hfound
    refine ⟨hinserted, fun row hrow => ?_⟩
    have hfind : world.inbox.stored.find? (·.requestID = request.eventID) = some row :=
      (Except.ok.inj hfound).trans hrow
    exact ⟨List.mem_of_find?_eq_some hfind, by simpa using List.find?_some hfind⟩
  · cases found with
    | none =>
      refine (reviewOrders_safe uuid now).weaken ?_ fun _ h => h.1
      intro world world' h hstep
      exact ⟨inserted_stable _ _ _ _ h.1 hstep, fun row hrow => by cases hrow⟩
    | some row =>
      refine .ret ?_ ?_
      · intro world world' h hstep
        refine ⟨inserted_stable _ _ _ _ h.1 hstep, fun other hother => ?_⟩
        exact ⟨hstep.stored (h.2 other hother).1, (h.2 other hother).2⟩
      · intro world h decision hdecision
        cases hdecision
        exact .inl ⟨h.1, row, (h.2 row rfl).1, (h.2 row rfl).2, reports_stored row⟩

theorem rollback_safe (err : AppError) :
    CallSafe tx (OnSuccess (Decided request)) (fun _ => True)
      (.call (.rollback tx) fun _ => .ret (.error err)) := by
  refine .call (fun _ _ => True) (fun _ _ _ _ => trivial) ?_ ?_
  · intro world choice _ _
    exact ⟨call_preserves _ _ (guarantee_refl tx world) (guarantee_rollback tx world), trivial⟩
  · intro _
    exact .ret (fun _ _ _ _ => trivial) fun world _ => onSuccess_error err world

theorem finish_safe (result : Except AppError Decision) :
    CallSafe tx (OnSuccess (Decided request)) (OnSuccess (Prepared tx request) result)
      (finish tx result) := by
  have hstable : Stable (Rely tx) (OnSuccess (Prepared tx request) result) :=
    onSuccess_stable prepared_stable result
  cases result with
  | error err => exact (rollback_safe err).weaken hstable fun _ _ => trivial
  | ok decision =>
    -- The reply of the commit decides; a lost one leaves a committed decision behind an error.
    refine .call (fun reply world => OnSuccess (Decided request) (reply.map fun _ => decision)
      world) hstable ?_ ?_
    · intro world choice h _
      have hprepared := h decision rfl
      refine ⟨call_preserves _ _ (guarantee_refl tx world) (guarantee_commit hprepared.complete),
        ?_⟩
      intro other hother
      obtain ⟨value, hvalue, rfl⟩ := except_map_ok hother
      obtain ⟨houtcome, -⟩ := call_value hvalue
      rw [exec, houtcome, call_okay]
      exact hprepared.decided
    · intro reply
      cases reply with
      | error err =>
        exact (rollback_safe err).weaken (onSuccess_stable decided_stable _) fun _ _ => trivial
      | ok value => exact .ret (onSuccess_stable decided_stable _) fun _ h => h

theorem reviewAccountDeletion_safe (tx : ι) (request : Requested) (uuid : String) (now : Int) :
    CallSafe tx (OnSuccess (Decided request)) (Inserted tx [] [])
      (reviewAccountDeletion tx request uuid now) := by
  unfold reviewAccountDeletion
  split
  · exact .ret (inserted_stable _ _) fun world _ => onSuccess_error _ world
  · exact read_safe (fun _ _ => rfl) fun _ => (review_safe uuid now).bind finish_safe

end Safety

section Run

variable {ι : Type}

/-- Every call before its first statement, with both tables empty. The event ids
and the times are whatever the calls will draw. -/
def start (requests : ι → Requested) (uuids : ι → String) (times : ι → Int) :
    Config (World ι) ι (Call ι) Reply (Except AppError Decision) :=
  ⟨⟨.empty, .empty⟩, fun tx => reviewAccountDeletion tx (requests tx) (uuids tx) (times tx)⟩

theorem start_threads (requests : ι → Requested) (uuids : ι → String) (times : ι → Int) (tx : ι) :
    (start requests uuids times).threads tx =
      reviewAccountDeletion tx (requests tx) (uuids tx) (times tx) := by
  simp only [start]

theorem start_sound (requests : ι → Requested) (uuids : ι → String) (times : ι → Int) :
    Sound (start requests uuids times).shared where
  inbox := .nil
  outbox := .nil
  announced _ hrow := absurd hrow List.not_mem_nil
  decided _ hevent := absurd hevent List.not_mem_nil

structure OneDecision (eventID : String) (inbox : List AccountDeletionInboxDO)
    (outbox : List AccountDeletionOutboxDO) : Prop where
  one_row : (inbox.filter (·.requestID = eventID)).length ≤ 1
  one_event : (outbox.filter (·.requestID = eventID)).length ≤ 1
  both_or_neither : (∃ row ∈ inbox, row.requestID = eventID) ↔
    ∃ event ∈ outbox, event.requestID = eventID
  same : ∀ row ∈ inbox, ∀ event ∈ outbox, row.requestID = eventID → event.requestID = eventID →
    Announces event row

theorem Sound.row_eq {world : World ι} (h : Sound world) {row row' : AccountDeletionInboxDO}
    (hrow : row ∈ world.inbox.stored) (hrow' : row' ∈ world.inbox.stored)
    (hsame : row.requestID = row'.requestID) : row = row' :=
  h.inbox.stored_eq hrow hrow' fun hkeys => hkeys hsame

theorem Sound.oneDecision {world : World ι} (h : Sound world) (eventID : String) :
    OneDecision eventID world.inbox.stored world.outbox.stored where
  one_row := h.inbox.stored_filter_length fun row row' hrow hrow' hkeys => by simp_all [InboxKeys]
  one_event := h.outbox.stored_filter_length fun event event' hevent hevent' hkeys => by
    simp_all [OutboxKeys]
  both_or_neither := by
    constructor
    · rintro ⟨row, hrow, hid⟩
      obtain ⟨event, hevent, hannounces⟩ := h.announced row hrow
      exact ⟨event, hevent, hannounces.request.trans hid⟩
    · rintro ⟨event, hevent, hid⟩
      obtain ⟨row, hrow, hannounces⟩ := h.decided event hevent
      exact ⟨row, hrow, hannounces.request.symm.trans hid⟩
  same := by
    intro row hrow event hevent hid hid'
    obtain ⟨decided, hdecided, hannounces⟩ := h.decided event hevent
    have hsame : decided = row :=
      h.row_eq hdecided hrow (hannounces.request.symm.trans (hid'.trans hid.symm))
    exact hsame ▸ hannounces

theorem Reports.unique {decision decision' : Decision} {row : AccountDeletionInboxDO}
    (h : Reports decision row) (h' : Reports decision' row) :
    decision.confirmed = decision'.confirmed ∧ decision.reason = decision'.reason :=
  ⟨Bool.eq_iff_iff.mpr (h.confirmed.trans h'.confirmed.symm), h.reason.trans h'.reason.symm⟩

variable [DecidableEq ι]

theorem run_safe (requests : ι → Requested) (uuids : ι → String) (times : ι → Int)
    (labels : List (ι × Choice)) :
    EachSafe exec (fun _ _ _ _ => True) Rely Guarantee
      (fun tx => OnSuccess (Decided (requests tx)))
      (run (move exec) (start requests uuids times) labels) := by
  have hstart : EachSafe exec (fun _ _ _ _ => True) Rely Guarantee
      (fun tx => OnSuccess (Decided (requests tx))) (start requests uuids times) := by
    intro tx
    refine ⟨Inserted tx [] [], ⟨rfl, rfl⟩, ?_⟩
    rw [start_threads]
    exact reviewAccountDeletion_safe tx (requests tx) (uuids tx) (times tx)
  exact hstart.run guarantee_refl (fun _ _ _ _ hother h => h.rely hother)
    (along_admitted (fun _ _ _ _ => trivial) _ labels)

theorem run_keeps (inv : World ι → Prop) (requests : ι → Requested) (uuids : ι → String)
    (times : ι → Int) (earlier later : List (ι × Choice))
    (keeps : ∀ tx world world', Guarantee tx world world' → inv world → inv world')
    (initial : inv (run (move exec) (start requests uuids times) earlier).shared) :
    inv (run (move exec) (start requests uuids times) (earlier ++ later)).shared := by
  rw [run_append]
  exact (run_safe requests uuids times earlier).invariant guarantee_refl
    (fun _ _ _ _ hother h => h.rely hother) keeps
    (along_admitted (fun _ _ _ _ => trivial) _ later) initial

theorem run_sound (requests : ι → Requested) (uuids : ι → String) (times : ι → Int)
    (labels : List (ι × Choice)) :
    Sound (run (move exec) (start requests uuids times) labels).shared :=
  run_keeps Sound requests uuids times [] labels (fun _ _ _ h => h.sound)
    (start_sound requests uuids times)

theorem run_stored (requests : ι → Requested) (uuids : ι → String) (times : ι → Int)
    (earlier later : List (ι × Choice)) :
    let before := (run (move exec) (start requests uuids times) earlier).shared
    let after := (run (move exec) (start requests uuids times) (earlier ++ later)).shared
    before.inbox.stored ⊆ after.inbox.stored ∧ before.outbox.stored ⊆ after.outbox.stored := by
  intro before
  refine run_keeps (fun world => before.inbox.stored ⊆ world.inbox.stored ∧
    before.outbox.stored ⊆ world.outbox.stored) requests uuids times earlier later ?_ ?_
  · intro tx world world' h hstored
    exact ⟨List.Subset.trans hstored.1 h.inbox.stored,
      List.Subset.trans hstored.2 h.outbox.stored⟩
  · exact ⟨fun _ h => h, fun _ h => h⟩

/-- Any number of overlapping reviews, of any requests, while orders and refunds
change: what is committed about a request is one decision with its event or
nothing, it stays, and every call that returns a decision returns that one. -/
theorem one_decision_per_request (requests : ι → Requested) (uuids : ι → String)
    (times : ι → Int) (earlier later : List (ι × Choice)) (eventID : String) :
    let before := run (move exec) (start requests uuids times) earlier
    let config := run (move exec) (start requests uuids times) (earlier ++ later)
    OneDecision eventID config.shared.inbox.stored config.shared.outbox.stored ∧
      before.shared.inbox.stored ⊆ config.shared.inbox.stored ∧
      before.shared.outbox.stored ⊆ config.shared.outbox.stored ∧
      ∀ first second decision decision', (requests first).eventID = eventID →
        (requests second).eventID = eventID →
        config.threads first = .ret (.ok decision) → config.threads second = .ret (.ok decision') →
        decision.confirmed = decision'.confirmed ∧ decision.reason = decision'.reason := by
  intro before config
  have hsound : Sound config.shared := run_sound requests uuids times (earlier ++ later)
  obtain ⟨hinbox, houtbox⟩ := run_stored requests uuids times earlier later
  refine ⟨hsound.oneDecision eventID, hinbox, houtbox, ?_⟩
  intro first second decision decision' hfirst hsecond hret hret'
  have hsafe := run_safe requests uuids times (earlier ++ later)
  obtain ⟨row, hrow, hid, hreports⟩ := hsafe.returned hret decision rfl
  obtain ⟨row', hrow', hid', hreports'⟩ := hsafe.returned hret' decision' rfl
  have hsame : row' = row :=
    hsound.row_eq hrow' hrow (by rw [hid, hid', hfirst, hsecond])
  exact hreports.unique (hsame ▸ hreports')

-- Two calls find no decision; the slower one fails at its insert, and a third call returns the
-- decision of the faster one.
example :
    let config := run (move exec) (start (fun _ : Fin 3 => ⟨"request-1", 7⟩)
      (fun tx => if tx = 0 then "event-0" else "event-1") (fun _ => 0))
      ([0, 1, 0, 1, 0, 0, 1, 1, 0, 1, 0, 0, 1, 2, 2, 2].map fun tx => (tx, ({} : Choice)))
    config.shared.inbox.stored.map (·.decision) = [.confirmed] ∧
      config.shared.outbox.stored.map (·.id) = ["event-0"] ∧
      (config.threads 0).result.map (·.toOption.map (·.confirmed)) = some (some true) ∧
      (config.threads 1).result.map (·.toOption.isSome) = some false ∧
      (config.threads 2).result.map (·.toOption.map (·.confirmed)) = some (some true) := by
  decide +kernel

end Run

end Goshop.Order.AccountDeletion
