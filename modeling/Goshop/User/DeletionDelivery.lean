import Goshop.Lib.Discipline
import Goshop.Lib.Outbox
import Goshop.User.DeletionOutbox

/-! The deletion events as an outbox. Whatever the threads of the service do, and
wherever they fail, an event stays what its request has made it until the bus has
it; and once the workers are left alone, it gets there. -/
namespace Goshop.User.DeletionDelivery

open Goshop.Errors Goshop.Lib Goshop.Lib.GoText Goshop.Lib.Transaction Goshop.Lib.Process
open Goshop.Lib.Run Goshop.Lib.Process.Discipline
open Goshop.User.Accounts Goshop.User.DeletionOutbox

def messageOf (event : AccountDeletionOutboxEventDO) : Message :=
  (busEvent event).message

def rowOf (event : AccountDeletionOutboxEventDO) : OutboxRow String Message :=
  ⟨event.id, messageOf event, event.status = .published⟩

def ledger (world : World) : Outbox String Message where
  rows := world.tables.outbox.map rowOf
  bus := world.bus.map fun message => (message.msgID, message)

structure WellFormed (clock : Int) (event : AccountDeletionOutboxEventDO) : Prop where
  named : trimSpace event.id ≠ ""
  subject : event.eventType = subjectRequested
  payload : event.payload = ⟨event.id, event.userID, event.createdAt⟩
  counted : 0 ≤ event.retryCount
  available : event.availableAt ≤ clock + hour
  locked : event.status = .processing → ∃ since ∈ event.lockedAt, since ≤ clock

def deletionsOf (id : Int) (logs : List UserAuditLogDO) : Nat :=
  logs.countP fun log => log.userID = id ∧ log.action = "account_deletion_requested"

def eventsOf (id : Int) (events : List AccountDeletionOutboxEventDO) : Nat :=
  events.countP (·.userID = id)

structure Consistent (world : World) : Prop where
  sound : (ledger world).Sound
  formed : ∀ event ∈ world.tables.outbox, WellFormed world.clock event
  recorded : ∀ id, eventsOf id world.tables.outbox =
    deletionsOf id world.tables.accounts.auditLogs

structure Progress (world world' : World) : Prop where
  consistent : Consistent world'
  step : (ledger world).Step (ledger world')
  clock : world.clock ≤ world'.clock

section Ledger

variable {world world' world'' : World} {event : AccountDeletionOutboxEventDO}

theorem Progress.refl (h : Consistent world) : Progress world world :=
  ⟨h, .refl h.sound, Int.le_refl _⟩

theorem Progress.trans (h : Progress world world') (h' : Progress world' world'') :
    Progress world world'' :=
  ⟨h'.consistent, h.step.trans h'.step, Int.le_trans h.clock h'.clock⟩

def Known (event : AccountDeletionOutboxEventDO) (world : World) : Prop :=
  (ledger world).Holds event.id (messageOf event)

theorem known_of_mem (h : event ∈ world.tables.outbox) : Known event world :=
  ⟨rowOf event, List.mem_map_of_mem h, rfl, rfl⟩

theorem holds_iff {id : String} {message : Message} :
    (ledger world).Holds id message ↔
      ∃ event ∈ world.tables.outbox, event.id = id ∧ messageOf event = message := by
  simp [Outbox.Holds, ledger, rowOf]

theorem mem_bus {id : String} {message : Message} :
    (id, message) ∈ (ledger world).bus ↔ message ∈ world.bus ∧ message.msgID = id := by
  simp [ledger, and_comm]

theorem published_sent (h : Consistent world) (hevent : event ∈ world.tables.outbox)
    (hpublished : event.status = .published) : messageOf event ∈ world.bus := by
  have hrow : rowOf event ∈ (ledger world).rows := List.mem_map_of_mem hevent
  exact (mem_bus.mp (h.sound.sent _ hrow (decide_eq_true hpublished))).1

theorem WellFormed.later {clock clock' : Int} (h : WellFormed clock event)
    (hclock : clock ≤ clock') : WellFormed clock' event where
  named := h.named
  subject := h.subject
  payload := h.payload
  counted := h.counted
  available := by
    have := h.available
    omega
  locked hstatus := by
    obtain ⟨since, hsince, hle⟩ := h.locked hstatus
    exact ⟨since, hsince, Int.le_trans hle hclock⟩

theorem elapsed_progress (h : Consistent world) (elapsed : Nat) :
    Progress world (world.tick elapsed) := by
  have hclock : world.clock ≤ world.clock + elapsed := by omega
  exact ⟨⟨h.sound, fun event hevent => (h.formed event hevent).later hclock, h.recorded⟩,
    .refl h.sound, hclock⟩

theorem accounts_progress (h : Consistent world) {accounts : UserDB}
    (hlogs : ∀ id, deletionsOf id accounts.auditLogs =
      deletionsOf id world.tables.accounts.auditLogs) :
    Progress world { world with tables := { world.tables with accounts := accounts } } :=
  ⟨⟨h.sound, h.formed, fun id => (h.recorded id).trans (hlogs id).symm⟩, .refl h.sound,
    Int.le_refl _⟩

section Update

variable {selected : AccountDeletionOutboxEventDO → Bool}
  {change : AccountDeletionOutboxEventDO → AccountDeletionOutboxEventDO}

structure Marks (change : AccountDeletionOutboxEventDO → AccountDeletionOutboxEventDO) : Prop where
  id : ∀ event, (change event).id = event.id
  userID : ∀ event, (change event).userID = event.userID
  message : ∀ event, messageOf (change event) = messageOf event

theorem Marks.select (h : Marks change) (selected : AccountDeletionOutboxEventDO → Bool) :
    Marks fun event => if selected event then change event else event where
  id event := by
    split
    · exact h.id event
    · rfl
  userID event := by
    split
    · exact h.userID event
    · rfl
  message event := by
    split
    · exact h.message event
    · rfl

theorem updated_progress (h : Consistent world) (hmarks : Marks change)
    (hformed : ∀ event ∈ world.tables.outbox, selected event → WellFormed world.clock event →
      WellFormed world.clock (change event))
    (hsent : ∀ event ∈ world.tables.outbox, selected event →
      (change event).status = .published → messageOf event ∈ world.bus) :
    Progress world { world with tables := updateEvents selected change world.tables } := by
  have hall := hmarks.select selected
  have hstep : (ledger world).Step
      (ledger { world with tables := updateEvents selected change world.tables }) := by
    refine .mark h.sound ?_ rfl
    simp only [ledger, updateEvents, List.forall₂_map_left_iff, List.forall₂_map_right_iff,
      List.forall₂_same]
    intro event hevent
    refine ⟨hall.id event, hall.message event, ?_⟩
    intro hdone
    by_cases hselected : selected event
    · simp only [rowOf, hselected, if_true, decide_eq_true_eq] at hdone
      exact .inr (mem_bus.mpr ⟨hsent event hevent hselected hdone, rfl⟩)
    · simp only [hselected] at hdone
      exact .inl hdone
  refine ⟨⟨hstep.sound, ?_, ?_⟩, hstep, Int.le_refl _⟩
  · intro event hevent
    obtain ⟨before, hbefore, rfl⟩ := List.mem_map.mp hevent
    by_cases hselected : selected before
    · rw [if_pos hselected]
      exact hformed before hbefore hselected (h.formed before hbefore)
    · rw [if_neg hselected]
      exact h.formed before hbefore
  · intro id
    refine Eq.trans ?_ (h.recorded id)
    rw [eventsOf, eventsOf, updateEvents, List.countP_map]
    congr 1
    funext event
    exact congrArg (fun userID => decide (userID = id)) (hall.userID event)

theorem updateEvent_progress {eventID : String} (h : Consistent world)
    (hupdated : Progress world
      { world with tables := updateEvents (·.id = eventID) change world.tables }) :
    Progress world { world with tables := (updateEvent eventID change world.tables).2 } := by
  unfold updateEvent
  split
  · exact .refl h
  · exact hupdated

end Update

end Ledger

section Calls

variable {world : World}

/-- What the calls of the worker count on. -/
def Ready : Call → World → Prop
  | .requestAccountDeletion _ _ time, world => time ≤ world.clock
  | .claimPending _ now, world => now ≤ world.clock
  | .publish event, world => (ledger world).Holds event.id event.message
  | .markPublished eventID _, world => ∃ message ∈ world.bus, message.msgID = eventID
  | .retry _ retryCount availableAt _, world =>
    0 ≤ retryCount ∧ availableAt ≤ world.clock + hour
  | _, _ => True

theorem Ready.progress {request : Call} {world' : World} (h : Ready request world)
    (hstep : Progress world world') : Ready request world' := by
  cases request with
  | requestAccountDeletion id eventID time => exact Int.le_trans h hstep.clock
  | claimPending limit now => exact Int.le_trans h hstep.clock
  | publish event => exact hstep.step.keeps _ _ h
  | markPublished eventID time =>
    obtain ⟨message, hmessage, hid⟩ := h
    have hsent := hstep.step.grows.subset (mem_bus.mpr ⟨hmessage, hid⟩)
    exact ⟨message, mem_bus.mp hsent⟩
  | retry eventID retryCount availableAt lastError =>
    have hclock := hstep.clock
    have havailable := h.2
    exact ⟨h.1, by omega⟩
  | _ => trivial

section Request

theorem requestAccountDeletion_cases (id : Int) (eventID : Uuid) (time : Int) (tables : Tables) :
    (Txn.commit (requestAccountDeletion id eventID time) tables).2 = tables ∨
      ∃ user : UserDO, user.id = id ∧ 0 < id ∧ (∀ event ∈ tables.outbox, event.id ≠ eventID.text) ∧
        (Txn.commit (requestAccountDeletion id eventID time) tables).2 =
          pendingTables user id eventID.text time tables := by
  rcases Txn.commit_cases (requestAccountDeletion id eventID time) tables with
    ⟨⟨⟩, tables', hrun, hcommit⟩ | ⟨err, -, hcommit⟩
  · rw [hcommit]
    simp only [requestAccountDeletion, Txn.guard_bind_ok, Txn.read_bind] at hrun
    obtain ⟨-, hrun⟩ := hrun
    cases huser : lockedUser id tables.accounts.users with
    | none => simp [huser] at hrun
    | some user =>
      have hfound := List.find?_some huser
      simp only [decide_eq_true_eq] at hfound
      rw [huser] at hrun
      dsimp only at hrun
      split at hrun
      · cases Txn.pure_ok.mp hrun
        exact .inl rfl
      · simp only [Txn.guard_bind_ok, Txn.write_ok] at hrun
        obtain ⟨-, hfree, htables⟩ := hrun
        cases htables
        exact .inr ⟨user, hfound.1, hfound.2.1, by simpa using hfree, rfl⟩
  · rw [hcommit]
    exact .inl rfl

theorem storeStatus_cases (id : Int) (user : UserDO) (status : String) (actor : AuditActor)
    (tables : Tables) :
    (Txn.commit (storeStatus id user status actor) tables).2 = tables ∨
      (Txn.commit (storeStatus id user status actor) tables).2 =
        { tables with accounts := { tables.accounts with
            users := setStatus id status tables.accounts.users
            auditLogs := appendAuditLog (statusAuditLog user.id actor user.status status)
              tables.accounts.auditLogs } } := by
  rcases Txn.commit_cases (storeStatus id user status actor) tables with
    ⟨⟨⟩, tables', hrun, hcommit⟩ | ⟨err, -, hcommit⟩
  · rw [hcommit]
    simp only [DeletionOutbox.storeStatus, Txn.read_bind, Txn.guard_bind_ok, Txn.write_ok] at hrun
    obtain ⟨-, -, htables⟩ := hrun
    cases htables
    exact .inr rfl
  · rw [hcommit]
    exact .inl rfl

theorem deletionsOf_other {log : UserAuditLogDO} (h : log.action ≠ "account_deletion_requested")
    (id : Int) (logs : List UserAuditLogDO) :
    deletionsOf id (appendAuditLog log logs) = deletionsOf id logs := by
  unfold appendAuditLog
  split
  · rfl
  · simp [deletionsOf, h]

theorem deletionsOf_deletion {user : UserDO} (h : 0 < user.id) (id : Int)
    (logs : List UserAuditLogDO) :
    deletionsOf id (appendAuditLog (deletionAuditLog user) logs) =
      deletionsOf id logs + if user.id = id then 1 else 0 := by
  have hkept : ¬(deletionAuditLog user).userID ≤ 0 := by simpa [deletionAuditLog] using h
  rw [appendAuditLog, if_neg hkept, deletionsOf, List.countP_append, List.countP_singleton]
  by_cases hid : user.id = id
  · simp [deletionAuditLog, hid, deletionsOf]
  · simp [deletionAuditLog, hid, deletionsOf]

theorem eventsOf_deletion (user : UserDO) (eventID : String) (time id : Int)
    (events : List AccountDeletionOutboxEventDO) (key : Int) :
    eventsOf id (events ++ [deletionEvent user key eventID time]) =
      eventsOf id events + if user.id = id then 1 else 0 := by
  rw [eventsOf, List.countP_append, List.countP_singleton]
  by_cases hid : user.id = id
  · simp [deletionEvent, hid, eventsOf]
  · simp [deletionEvent, hid, eventsOf]

theorem requested_progress (h : Consistent world) {user : UserDO} {eventID : Uuid} {time : Int}
    (hpos : 0 < user.id) (htime : time ≤ world.clock)
    (hfree : ∀ event ∈ world.tables.outbox, event.id ≠ eventID.text) :
    Progress world
      { world with tables := pendingTables user user.id eventID.text time world.tables } := by
  have hstep : (ledger world).Step
      (ledger { world with
        tables := pendingTables user user.id eventID.text time world.tables }) := by
    have hopen : (rowOf (deletionEvent user user.id eventID.text time)).done = false := rfl
    refine .add h.sound hopen ?_ ?_ rfl
    · intro other hother
      obtain ⟨event, hevent, rfl⟩ := List.mem_map.mp hother
      exact hfree event hevent
    · simp [ledger, pendingTables]
  refine ⟨⟨hstep.sound, ?_, ?_⟩, hstep, Int.le_refl _⟩
  · intro event hevent
    rcases List.mem_append.mp hevent with hold | hnew
    · exact h.formed event hold
    · rw [List.mem_singleton.mp hnew]
      refine ⟨eventID.named, rfl, rfl, Int.le_refl 0, ?_, ?_⟩
      · change time ≤ world.clock + 3600000
        omega
      · intro hstatus
        cases hstatus
  · intro id
    change eventsOf id (world.tables.outbox ++ [deletionEvent user user.id eventID.text time]) = _
    rw [eventsOf_deletion, h.recorded id]
    exact (deletionsOf_deletion hpos id _).symm

end Request

theorem sent_progress (h : Consistent world) (event : Event)
    (hheld : (ledger world).Holds event.id event.message) :
    Progress world { world with bus := world.bus ++ [event.message] } := by
  have hstep : (ledger world).Step
      (ledger { world with bus := world.bus ++ [event.message] }) := by
    refine .send h.sound hheld rfl ?_
    simp [ledger, Event.message]
  exact ⟨⟨hstep.sound, h.formed, h.recorded⟩, hstep, Int.le_refl _⟩

theorem publish_progress (h : Consistent world) {event : Event}
    (hheld : (ledger world).Holds event.id event.message) :
    Progress world (publish event world).2 := by
  unfold publish
  split
  · exact .refl h
  · exact sent_progress h event hheld

theorem requeue_progress (h : Consistent world) (before : Int) :
    Progress world { world with tables := requeueStaleDeletionEvents before world.tables } := by
  refine updated_progress h ⟨fun _ => rfl, fun _ => rfl, fun _ => rfl⟩ ?_ ?_
  · intro event _ _ hformed
    refine { hformed with locked := ?_ }
    intro hstatus
    cases hstatus
  · intro event _ _ hstatus
    cases hstatus

theorem claim_progress (h : Consistent world) (limit : Int) {now : Int} (hnow : now ≤ world.clock)
    (locked : List String) :
    Progress world
      { world with tables := (claimPendingDeletionEvents limit now locked world.tables).2 } := by
  refine updated_progress h ⟨fun _ => rfl, fun _ => rfl, fun _ => rfl⟩ ?_ ?_
  · intro event _ _ hformed
    exact { hformed with locked := fun _ => ⟨now, rfl, hnow⟩ }
  · intro event _ _ hstatus
    cases hstatus

theorem accepted_of_id (h : Consistent world) {event : AccountDeletionOutboxEventDO}
    (hevent : event ∈ world.tables.outbox)
    (hsent : ∃ message ∈ world.bus, message.msgID = event.id) : messageOf event ∈ world.bus := by
  obtain ⟨message, hmessage, hid⟩ := hsent
  have hheld := h.sound.traced _ (mem_bus.mpr ⟨hmessage, hid⟩)
  rw [h.sound.message_eq (known_of_mem hevent) hheld]
  exact hmessage

theorem markPublished_progress (h : Consistent world) {eventID : String} (time : Int)
    (hsent : ∃ message ∈ world.bus, message.msgID = eventID) :
    Progress world
      { world with tables := (markDeletionEventPublished eventID time world.tables).2 } := by
  refine updateEvent_progress h
    (updated_progress h ⟨fun _ => rfl, fun _ => rfl, fun _ => rfl⟩ ?_ ?_)
  · intro event _ _ hformed
    refine { hformed with locked := ?_ }
    intro hstatus
    cases hstatus
  · intro event hevent hselected _
    obtain rfl : event.id = eventID := of_decide_eq_true hselected
    exact accepted_of_id h hevent hsent

theorem retry_progress (h : Consistent world) (eventID : String) {retryCount availableAt : Int}
    (lastError : String) (hcount : 0 ≤ retryCount) (havailable : availableAt ≤ world.clock + hour) :
    Progress world
      { world with tables :=
        (retryDeletionEvent eventID retryCount availableAt lastError world.tables).2 } := by
  unfold retryDeletionEvent
  split
  · refine updateEvent_progress h
      (updated_progress h ⟨fun _ => rfl, fun _ => rfl, fun _ => rfl⟩ ?_ ?_)
    · intro event _ _ hformed
      refine { hformed with counted := hcount, available := havailable, locked := ?_ }
      intro hstatus
      cases hstatus
    · intro event _ _ hstatus
      cases hstatus
  · split
    · exact .refl h
    · exact .refl h

theorem remote_progress {α : Type} (choice : Choice)
    {operation : World → Except AppError α × World} (h : Consistent world)
    (hstep : Progress world (operation world).2) :
    Progress world (serve.remote choice operation world).2 :=
  call_preserves _ _ (.refl h) hstep

theorem serve_progress (choice : Choice) (request : Call) (h : Consistent world)
    (hready : Ready request world) : Progress world (serve choice request world).2 := by
  cases request with
  | storeStatus id user status actor =>
    refine remote_progress choice h ?_
    rcases storeStatus_cases id user status actor world.tables with hsame | hnext
    · simp only [onTables, hsame]
      exact .refl h
    · simp only [onTables, hnext]
      exact accounts_progress h fun id =>
        deletionsOf_other (by simp [statusAuditLog]) id _
  | requestAccountDeletion id eventID time =>
    refine remote_progress choice h ?_
    rcases requestAccountDeletion_cases id eventID time world.tables with
      hsame | ⟨user, rfl, hpos, hfree, hnext⟩
    · simp only [onTables, hsame]
      exact .refl h
    · simp only [onTables, hnext]
      exact requested_progress h hpos hready hfree
  | requeueStale before => exact remote_progress choice h (requeue_progress h before)
  | claimPending limit now =>
    exact remote_progress choice h (claim_progress h limit hready choice.locked)
  | publish event => exact remote_progress choice h (publish_progress h hready)
  | markPublished eventID time =>
    exact remote_progress choice h (markPublished_progress h time hready)
  | retry eventID retryCount availableAt lastError =>
    exact remote_progress choice h (retry_progress h eventID lastError hready.1 hready.2)
  | connect url =>
    refine remote_progress choice h ?_
    unfold connect
    split
    · exact .refl h
    · exact .refl h
  | getByID id => exact remote_progress choice h (.refl h)
  | now => exact .refl h
  | ctxErr => exact .refl h

theorem exec_progress (request : Call) (choice : Choice) (h : Consistent world)
    (hready : Ready request world) : Progress world (exec request choice world).2 := by
  have htick := elapsed_progress h choice.elapsed
  exact htick.trans (serve_progress choice request htick.consistent (hready.progress htick))

end Calls

section Programs

variable {α : Type} {events : List AccountDeletionOutboxEventDO}
  {event : AccountDeletionOutboxEventDO}

def discipline : Discipline exec where
  consistent := Consistent
  progress := Progress
  admits _ _ _ := True
  ready := Ready
  refl := .refl
  trans := .trans
  keeps := Progress.consistent
  serves request choice _ h hready _ := exec_progress request choice h hready

abbrev SafeTask (post : α → World → Prop) (fact : World → Prop) (program : Program α) : Prop :=
  discipline.SafeTask post fact program

theorem kept_clock (time : Int) : discipline.Kept (time ≤ ·.clock) :=
  fun _ _ hstep htime => Int.le_trans htime hstep.clock

theorem now_safe {next : Int → Program α} {post : α → World → Prop} {fact : World → Prop}
    (hfact : discipline.Kept fact)
    (hrest : ∀ time, SafeTask post (fun world => fact world ∧ time ≤ world.clock)
      (next time)) :
    SafeTask post fact (.call .now next) := by
  refine call_safe (fun time world => fact world ∧ time ≤ world.clock) hfact
    (fun _ _ _ => trivial) ?_ hrest
  intro choice world _ hknown _ hstep
  refine ⟨hfact _ _ hstep hknown, ?_⟩
  exact Int.le_refl (world.clock + choice.elapsed)

section Service

theorem delete_safe (id : Int) (eventID : Uuid) :
    SafeTask (fun _ _ => True) (fun _ => True) (DeletionOutbox.delete id eventID) := by
  unfold DeletionOutbox.delete
  split
  · exact ret_safe kept_true fun _ _ _ => trivial
  · refine now_safe kept_true fun time => ?_
    have hkept : discipline.Kept fun world => True ∧ time ≤ world.clock :=
      kept_true.and (kept_clock time)
    exact plain_safe hkept (fun _ _ hknown => hknown.2)
      fun _ => ret_safe hkept fun _ _ _ => trivial

theorem updateStatus_safe (id : Int) (status : String) (actor : AuditActor) :
    SafeTask (fun _ _ => True) (fun _ => True)
      (DeletionOutbox.updateStatus id status actor) := by
  have hret (value : Result Unit) : SafeTask (fun _ _ => True) (fun _ => True)
      (.ret value : Program (Result Unit)) :=
    ret_safe kept_true fun _ _ _ => trivial
  unfold DeletionOutbox.updateStatus
  split
  · exact hret _
  · refine attempt_safe kept_true (fun _ _ _ => trivial) fun status _ => ?_
    refine plain_safe kept_true (fun _ _ _ => trivial) fun user => ?_
    refine attempt_safe kept_true (fun _ _ _ => trivial) fun user _ => ?_
    split
    · exact hret _
    · exact plain_safe kept_true (fun _ _ _ => trivial) hret

end Service

section Worker

variable {cfg : AccountDeletionOutboxConfig}

/-- The outbox still has the events as the worker has read them. -/
def Holding (events : List AccountDeletionOutboxEventDO) (world : World) : Prop :=
  ∀ event ∈ events, Known event world ∧ 0 ≤ event.retryCount

theorem holding_kept (events : List AccountDeletionOutboxEventDO) :
    discipline.Kept (Holding events) :=
  fun _ _ hstep hheld event hevent =>
    ⟨hstep.step.keeps _ _ (hheld event hevent).1, (hheld event hevent).2⟩

def Accepted (eventID : String) (world : World) : Prop :=
  ∃ message ∈ world.bus, message.msgID = eventID

theorem accepted_kept (eventID : String) : discipline.Kept (Accepted eventID) :=
  fun world _ hstep hsent => by
    have hready : Ready (.markPublished eventID 0) world := hsent
    exact hready.progress hstep

theorem exec_publish_accepted {event : Event} {choice : Choice} {world : World}
    (h : (exec (.publish event) choice world).1 = .ok ()) :
    Accepted event.id (exec (.publish event) choice world).2 := by
  obtain ⟨houtcome, hserve⟩ := call_value h
  refine ⟨event.message, ?_, rfl⟩
  simp only [exec, serve, serve.remote, houtcome, call_okay]
  unfold publish at hserve ⊢
  split at hserve
  · cases hserve
  · exact List.mem_append_right _ (by simp)

theorem publishEvent_safe (hevent : event ∈ events) :
    SafeTask (fun _ => Holding events) (Holding events) (publishEvent event) := by
  have hkept := holding_kept events
  refine call_safe (fun reply world => Holding events world ∧
    (reply = .ok () → Accepted event.id world)) hkept
    (fun _ _ hheld => (hheld event hevent).1) ?_ ?_
  · intro choice world _ hheld _ hstep
    exact ⟨hkept _ _ hstep hheld, exec_publish_accepted⟩
  · intro reply
    have hlearnt : discipline.Kept fun world => Holding events world ∧
        (reply = .ok () → Accepted event.id world) :=
      hkept.and fun world world' hstep hsent hok => accepted_kept _ world world' hstep (hsent hok)
    refine attempt_safe hlearnt (fun _ _ h => h.1) ?_
    rintro ⟨⟩ rfl
    refine plain_safe hlearnt (fun _ _ _ => trivial) fun time => ?_
    refine plain_safe hlearnt (fun _ _ h => h.2 rfl) fun _ => ?_
    exact ret_safe hlearnt fun _ _ h => h.1

theorem retryDelay_le (cfg : AccountDeletionOutboxConfig) (retry : Int) :
    retryDelay cfg retry ≤ hour := by
  unfold retryDelay
  split
  · exact Int.le_refl _
  · have hshift : (min retry 8).toNat ≤ 8 := by omega
    have hpow : 2 ^ (min retry 8).toNat ≤ 2 ^ 8 := Nat.pow_le_pow_right (by decide) hshift
    have hcast : (2 : Int) ^ (min retry 8).toNat ≤ 256 := by exact_mod_cast hpow
    unfold hour
    omega

theorem retryEvent_safe (hretries : 0 < cfg.maxRetries) (hevent : event ∈ events)
    (err : AppError) :
    SafeTask (fun _ => Holding events) (Holding events)
      (retryEvent cfg event err) := by
  refine now_safe (holding_kept events) fun time => ?_
  have hkept := (holding_kept events).and (kept_clock time)
  refine plain_safe hkept ?_ fun _ => ret_safe hkept fun _ _ h => h.1
  rintro world - ⟨hheld, htime⟩
  have hcount := (hheld event hevent).2
  have hdelay := retryDelay_le cfg (nextRetry cfg event)
  refine ⟨?_, by omega⟩
  unfold nextRetry
  omega

theorem ctxErr_safe {post : α → World → Prop} {fact : World → Prop} {stopped going : Program α}
    (hfact : discipline.Kept fact) (hstopped : SafeTask post fact stopped)
    (hgoing : SafeTask post fact going) :
    SafeTask post fact
      (Proc.send Call.ctxErr >>= fun cancelled => if cancelled then stopped else going) := by
  refine plain_safe hfact (fun _ _ _ => trivial) ?_
  intro cancelled
  cases cancelled with
  | true => exact hstopped
  | false => exact hgoing

theorem processEvents_safe (hretries : 0 < cfg.maxRetries)
    {rest : List AccountDeletionOutboxEventDO} (hrest : rest ⊆ events) :
    SafeTask (fun _ => Holding events) (Holding events) (processEvents cfg rest) := by
  have hret : SafeTask (fun _ => Holding events) (Holding events) (.ret () : Program Unit) :=
    ret_safe (holding_kept events) fun _ _ h => h
  induction rest with
  | nil => exact hret
  | cons event rest ih =>
    have hnext := ih fun other hother => hrest (List.mem_cons_of_mem event hother)
    have hevent : event ∈ events := hrest List.mem_cons_self
    refine ctxErr_safe (holding_kept events) hret ((publishEvent_safe hevent).bind ?_)
    intro published
    cases published with
    | ok _ => exact hnext
    | error err =>
      refine (retryEvent_safe hretries hevent err).bind fun _ => ?_
      exact ctxErr_safe (holding_kept events) hret hnext

theorem claimed_mem {limit now : Int} {locked : List String} {tables : Tables}
    (h : event ∈ claimedEvents limit now locked tables) : event ∈ tables.outbox := by
  have hsorted := List.mem_of_mem_take h
  rw [List.mem_insertionSort] at hsorted
  exact (List.mem_filter.mp hsorted).1

theorem exec_claim_holding {limit now : Int} {choice : Choice} {world : World}
    (hworld : Consistent world) (hnow : now ≤ world.clock)
    (h : (exec (.claimPending limit now) choice world).1 = .ok events) :
    Holding events (exec (.claimPending limit now) choice world).2 := by
  have htick := elapsed_progress hworld choice.elapsed
  have hserved := serve_progress choice (.claimPending limit now) htick.consistent
    (Int.le_trans hnow htick.clock)
  obtain ⟨-, hclaimed⟩ := call_value h
  cases hclaimed
  intro event hevent
  have hmem := claimed_mem hevent
  exact ⟨hserved.step.keeps _ _ (known_of_mem hmem), (htick.consistent.formed event hmem).counted⟩

theorem process_safe (hretries : 0 < cfg.maxRetries) :
    SafeTask (fun _ _ => True) (fun _ => True) (DeletionOutbox.process cfg) := by
  refine now_safe kept_true fun now => ?_
  have hkept : discipline.Kept fun world => True ∧ now ≤ world.clock :=
    kept_true.and (kept_clock now)
  have hret : SafeTask (fun _ _ => True) (fun world => True ∧ now ≤ world.clock)
      (.ret () : Program Unit) := ret_safe hkept fun _ _ _ => trivial
  refine plain_safe hkept (fun _ _ _ => trivial) fun requeued => ?_
  cases requeued with
  | error _ => exact hret
  | ok _ =>
    refine plain_safe hkept (fun _ _ _ => trivial) fun connected => ?_
    cases connected with
    | error _ => exact hret
    | ok _ =>
      refine call_safe (fun reply world => ∀ events, reply = .ok events → Holding events world)
        hkept (fun _ _ h => h.2) ?_ ?_
      · intro choice world hworld hknown _ _ events hevents
        exact exec_claim_holding hworld hknown.2 hevents
      · intro claimed
        have hlearnt : discipline.Kept fun world =>
            ∀ events, claimed = .ok events → Holding events world :=
          fun world world' hstep hheld events hevents =>
            holding_kept events world world' hstep (hheld events hevents)
        cases claimed with
        | error _ => exact ret_safe hlearnt fun _ _ _ => trivial
        | ok events =>
          have hloop := processEvents_safe hretries (List.Subset.refl events)
          exact weaken_safe (mono_safe hloop fun _ _ _ => trivial) hlearnt
            fun _ h => h events rfl

theorem sweeps_safe (hretries : 0 < cfg.maxRetries) (ticks : Nat) :
    SafeTask (fun _ _ => True) (fun _ => True) (sweeps cfg ticks) := by
  have hret : SafeTask (fun _ _ => True) (fun _ => True)
      (.ret () : Program Unit) := ret_safe kept_true fun _ _ h => h
  induction ticks with
  | zero => exact hret
  | succ ticks ih =>
    exact (process_safe hretries).bind fun _ => ctxErr_safe kept_true hret ih

theorem normalized_maxRetries (cfg : AccountDeletionOutboxConfig) :
    0 < cfg.normalized.maxRetries := by
  simp only [AccountDeletionOutboxConfig.normalized]
  split <;> omega

theorem runWorker_safe (cfg : AccountDeletionOutboxConfig) (ticks : Nat) :
    SafeTask (fun _ _ => True) (fun _ => True) (runWorker cfg ticks) := by
  unfold runWorker
  split
  · exact ret_safe kept_true fun _ _ h => h
  · exact sweeps_safe (normalized_maxRetries cfg) ticks

end Worker

theorem program_safe (task : Task) :
    SafeTask (fun _ _ => True) (fun _ => True) task.program := by
  cases task with
  | delete id eventID => exact delete_safe id eventID
  | updateStatus id status actor => exact updateStatus_safe id status actor
  | work cfg ticks =>
    exact (runWorker_safe cfg ticks).bind fun _ =>
      ret_safe kept_true fun _ _ _ => trivial

end Programs

section Runs

variable {ι : Type} [DecidableEq ι]

def installed (clock : Int) (accounts : UserDB) (sessions : List Session.UserSessionDO) : World :=
  ⟨clock, ⟨{ accounts with auditLogs := [] }, sessions, []⟩, []⟩

def started (tasks : ι → Task) (start : World) : Config World ι Call Reply (Result Unit) :=
  ⟨start, fun thread => (tasks thread).program⟩

omit [DecidableEq ι] in
theorem started_obeyed (tasks : ι → Task) {start : World} (h : Consistent start) :
    discipline.Obeyed (started tasks start) :=
  fun thread => ⟨_, _, ⟨h, trivial⟩, program_safe (tasks thread)⟩

theorem always_admitted (start : Config World ι Call Reply (Result Unit))
    (labels : List (ι × Choice)) :
    Along (move exec) (Admitted fun _ => discipline.admits) start labels :=
  along_admitted (fun _ _ _ _ => trivial) start labels

theorem installed_consistent (clock : Int) (accounts : UserDB)
    (sessions : List Session.UserSessionDO) : Consistent (installed clock accounts sessions) :=
  ⟨⟨.nil, by simp [ledger, installed], by simp [ledger, installed]⟩, by simp [installed],
    fun _ => rfl⟩

theorem run_consistent (tasks : ι → Task) {start : World} (h : Consistent start)
    (labels : List (ι × Choice)) :
    Consistent (run (move exec) (started tasks start) labels).shared :=
  ((started_obeyed tasks h).progress h (always_admitted _ labels)).consistent

theorem run_progress (tasks : ι → Task) {start : World} (h : Consistent start)
    (before after : List (ι × Choice)) :
    Progress (run (move exec) (started tasks start) before).shared
      (run (move exec) (started tasks start) (before ++ after)).shared := by
  rw [run_append]
  have hobeyed := (started_obeyed tasks h).run (always_admitted _ before)
  exact hobeyed.progress (run_consistent tasks h before) (always_admitted _ after)

/-- In every state of every run of any number of requests, status changes and
workers: no event is lost or changed, what counts as published was accepted by the
bus, what the bus has accepted is the message of an event, always the same one for
one id, and the audit log has an entry for each event. -/
theorem deletion_events_delivered (tasks : ι → Task) (clock : Int) (accounts : UserDB)
    (sessions : List Session.UserSessionDO) (before after : List (ι × Choice)) :
    let start := started tasks (installed clock accounts sessions)
    let earlier := (run (move exec) start before).shared
    let world := (run (move exec) start (before ++ after)).shared
    (∀ event ∈ earlier.tables.outbox, ∃ event' ∈ world.tables.outbox,
      event'.id = event.id ∧ messageOf event' = messageOf event) ∧
    earlier.bus <+: world.bus ∧
    (∀ event ∈ world.tables.outbox, event.status = .published → messageOf event ∈ world.bus) ∧
    (∀ message ∈ world.bus, ∃ event ∈ world.tables.outbox, messageOf event = message ∧
      message.subject = subjectRequested ∧
      message.data = ⟨event.id, event.userID, event.createdAt⟩) ∧
    (∀ first ∈ world.bus, ∀ second ∈ world.bus, first.msgID = second.msgID → first = second) ∧
    ∀ id, eventsOf id world.tables.outbox = deletionsOf id world.tables.accounts.auditLogs := by
  intro start earlier world
  have hprogress : Progress earlier world :=
    run_progress tasks (installed_consistent clock accounts sessions) before after
  have hsound := hprogress.consistent.sound
  refine ⟨?_, ?_, ?_, ?_, ?_, hprogress.consistent.recorded⟩
  · intro event hevent
    exact holds_iff.mp (hprogress.step.keeps _ _ (known_of_mem hevent))
  · have hbus := hprogress.step.grows.map Prod.snd
    simpa [ledger, Function.comp_def] using hbus
  · exact fun event hevent => published_sent hprogress.consistent hevent
  · intro message hmessage
    have hheld := hsound.traced (message.msgID, message) (mem_bus.mpr ⟨hmessage, rfl⟩)
    obtain ⟨event, hevent, -, rfl⟩ := holds_iff.mp hheld
    have hformed := hprogress.consistent.formed event hevent
    exact ⟨event, hevent, rfl, hformed.subject, hformed.payload⟩
  · intro first hfirst second hsecond hid
    exact hsound.same_message (mem_bus.mpr ⟨hfirst, rfl⟩) (mem_bus.mpr ⟨hsecond, hid.symm⟩)

end Runs

end Goshop.User.DeletionDelivery
