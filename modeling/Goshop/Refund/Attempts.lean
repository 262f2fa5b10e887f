import Goshop.Order.PaymentSteps
import Goshop.Refund.Worker
import Goshop.Lib.Run
import Mathlib.Algebra.GroupWithZero.Nat

/-! How often a refund job is handed out. `ClaimRefundJobs` counts the attempts of a job
and stops at the limit, except for a job whose lock has expired: that one is taken over
however often it has been tried, and only a report that comes back makes it a dead one. -/
namespace Goshop.Refund.Attempts

open Goshop.Errors Goshop.Lib Goshop.Lib.Transaction Goshop.Lib.Run
open Goshop.Order.Model Goshop.Order.Data Goshop.Order.Service Goshop.Order.Payment
open Goshop.Order.Steps Goshop.Order.PaymentSteps Goshop.Refund.Worker

/-- The calls that reach the outbox. A worker that crashes makes no further call, and
any other transaction may change any other table. -/
inductive Call
  | update (order : OrderDTO)
  | claimRefundJobs (locked : List Int) (limit lockTimeout : Int)
  | completeRefundJob (id : Int) (result : RefundResult)
  | retryDeadRefundJob (id : Int)
  | elsewhere (tables : OrderDB)

/-- The tables, and how often each job was handed out since it was created or last
requeued by hand. -/
structure Tally where
  db : OrderDB
  claims : Int → Nat

def claim (maxAttempts : Int) (locked : List Int) (limit lockTimeout now : Int) :
    OrderDB → Except AppError (List RefundJob) × OrderDB :=
  Txn.commit (claimUnlocked locked (positiveOr limit 20) (positiveOr maxAttempts 8)
    (positiveOr lockTimeout (120 * second)) now)

def handedOut : Except AppError (List RefundJob) → List Int
  | .ok jobs => jobs.map (·.outboxID)
  | .error _ => []

def tallied (claims : Int → Nat) (jobs : List Int) (id : Int) : Nat :=
  if id ∈ jobs then claims id + 1 else claims id

def requeue (id : Int) (claims : Int → Nat) : Except AppError RefundJob → Int → Nat
  | .ok _ => fun other => if other = id then 0 else claims other
  | .error _ => claims

/-- One call at its time, in nanoseconds. Every claim and every report of a run has
the same limit. -/
def step [GoText.CaseTable] (maxAttempts : Int) (state : Tally) (label : Call × Int) : Tally :=
  match label.1 with
  | .update order =>
    { state with db := (Txn.commit (updateBody order (Sql.datetime3 label.2)) state.db).2 }
  | .claimRefundJobs locked limit lockTimeout =>
    let result := claim maxAttempts locked limit lockTimeout label.2 state.db
    ⟨result.2, tallied state.claims (handedOut result.1)⟩
  | .completeRefundJob id result =>
    { state with
      db := (completeRefundJob id result maxAttempts (Sql.datetime3 label.2) state.db).2 }
  | .retryDeadRefundJob id =>
    let result := retryDeadRefundJob id (Sql.datetime3 label.2) state.db
    ⟨result.2, requeue id state.claims result.1⟩
  | .elsewhere tables => { state with db := { tables with outbox := state.db.outbox } }

def selected (locked : List Int) (limit maxAttempts lockTimeout now : Int) (db : OrderDB) :
    List RefundOutboxDO :=
  (db.outbox.filter fun job =>
    claimable maxAttempts lockTimeout now job && job.id ∉ locked).take limit.toNat

/-- The request of the job and an order of its number are there. A claim that selects
a job without them fails as a whole. -/
def hasOrder (db : OrderDB) (job : RefundOutboxDO) : Bool :=
  (db.refunds.find? (·.id = job.refundRequestID)).any fun request =>
    (db.orders.find? (·.orderSn = request.orderSN)).isSome

/-- A job that is taken over has attempts left. -/
def InTime (maxAttempts : Int) (state : Tally) (label : Call × Int) : Prop :=
  match label.1 with
  | .claimRefundJobs locked limit lockTimeout =>
    let jobs := selected locked (positiveOr limit 20) maxAttempts
      (positiveOr lockTimeout (120 * second)) label.2 state.db
    (∀ job ∈ jobs, hasOrder state.db job) →
      ∀ job ∈ jobs, job.status = .processing → job.attempts < maxAttempts
  | _ => True

instance (maxAttempts : Int) (state : Tally) (label : Call × Int) :
    Decidable (InTime maxAttempts state label) := by
  unfold InTime
  split <;> infer_instance

def Bounded (maxAttempts : Int) (state : Tally) : Prop :=
  ∀ id, (state.claims id : Int) ≤ maxAttempts

structure Counted (state : Tally) : Prop where
  keys : (state.db.outbox.map (·.id)).Nodup
  attempts : ∀ job ∈ state.db.outbox, job.attempts = state.claims job.id
  unknown : ∀ id, id ∉ state.db.outbox.map (·.id) → state.claims id = 0

section Outbox

variable {db db' : OrderDB} {now : Int}

theorem claimJobs_outbox {due : List RefundOutboxDO} {claimed : List RefundJob}
    (hkeys : (due.map (·.id)).Nodup) (h : claimJobs now due db = .ok (claimed, db')) :
    db'.outbox = db.outbox.map fun row =>
      if row.id ∈ due.map (·.id) then claimedJob now row else row := by
  induction due generalizing db claimed with
  | nil =>
    rw [claimJobs, Txn.pure_ok] at h
    cases h
    simp
  | cons job rest ih =>
    rw [List.map_cons, List.nodup_cons] at hkeys
    simp only [claimJobs, Txn.bind_ok, Txn.pure_ok] at h
    obtain ⟨_, mid, hjob, _, _, hrest, h⟩ := h
    cases h
    obtain ⟨-, rfl⟩ := claimJob_ok hjob
    rw [ih hkeys.2 hrest]
    simp only [changeOutbox, Table.modify, List.map_map]
    apply List.map_congr_left
    intro row _
    rw [Function.comp_apply]
    by_cases hrow : row.id = job.id
    · rw [if_pos hrow, if_neg, if_pos (by simp [hrow])]
      exact fun hmem => hkeys.1 (hrow ▸ hmem)
    · rw [if_neg hrow]
      simp [hrow]

theorem selected_sublist (locked : List Int) (limit maxAttempts lockTimeout now : Int)
    (db : OrderDB) : (selected locked limit maxAttempts lockTimeout now db).Sublist db.outbox :=
  (List.take_sublist _ _).trans List.filter_sublist

theorem claimUnlocked_ok {locked : List Int} {limit maxAttempts lockTimeout : Int}
    {claimed : List RefundJob} (hkeys : (db.outbox.map (·.id)).Nodup)
    (h : claimUnlocked locked limit maxAttempts lockTimeout now db = .ok (claimed, db')) :
    claimed.map (·.outboxID) =
        (selected locked limit maxAttempts lockTimeout now db).map (·.id) ∧
      db'.outbox = db.outbox.map fun row =>
        if row.id ∈ claimed.map (·.outboxID) then claimedJob (Sql.datetime3 now) row else row := by
  rw [claimUnlocked, Txn.read_bind] at h
  have hsub := selected_sublist locked limit maxAttempts lockTimeout now db
  have hdue := (hsub.map (·.id)).nodup hkeys
  obtain ⟨_, -, hids, -⟩ := claimJobs_ok h
  refine ⟨hids, ?_⟩
  rw [claimJobs_outbox hdue h, hids]
  rfl

theorem claimJob_run (now : Int) (job : RefundOutboxDO) (db : OrderDB) :
    (∃ claimed, claimJob now job db = .ok claimed) ↔ hasOrder db job = true := by
  simp only [claimJob, hasOrder, Txn.read_bind, Txn.write_bind, found_bind_ok, Txn.pure_ok,
    Option.any_eq_true, Option.isSome_iff_exists]
  constructor
  · rintro ⟨claimed, request, hrequest, order, horder, -⟩
    exact ⟨request, hrequest, order, horder⟩
  · rintro ⟨request, hrequest, order, horder⟩
    exact ⟨_, request, hrequest, order, horder, rfl⟩

theorem claimJobs_run (now : Int) (due : List RefundOutboxDO) (db : OrderDB) :
    (∃ claimed, claimJobs now due db = .ok claimed) ↔ ∀ job ∈ due, hasOrder db job = true := by
  induction due generalizing db with
  | nil => exact iff_of_true ⟨_, rfl⟩ (by simp)
  | cons job rest ih =>
    -- The first job changes the outbox only, and the others are loaded without it.
    have hothers : (∃ claimed, claimJobs now rest
        { db with outbox := changeOutbox job.id (claimedJob now) db.outbox } = .ok claimed) ↔
          ∀ job ∈ rest, hasOrder db job = true := ih _
    rw [List.forall_mem_cons, ← claimJob_run now, ← hothers]
    simp only [claimJobs, Txn.bind_ok, Txn.pure_ok]
    constructor
    · rintro ⟨-, first, mid, hfirst, others, last, hrest, -⟩
      obtain ⟨-, rfl⟩ := claimJob_ok hfirst
      exact ⟨⟨_, hfirst⟩, _, hrest⟩
    · rintro ⟨⟨⟨first, mid⟩, hfirst⟩, ⟨others, last⟩, hrest⟩
      obtain ⟨-, rfl⟩ := claimJob_ok hfirst
      exact ⟨_, first, _, hfirst, others, last, hrest, rfl⟩

theorem updateRefundOrderStatus_outbox {orderSN reason : String} {source target : OrderStatus}
    (h : updateRefundOrderStatus orderSN source target reason now db = .ok ((), db')) :
    db'.outbox = db.outbox := by
  simp only [updateRefundOrderStatus, Txn.read_bind, found_bind_ok] at h
  obtain ⟨order, -, h⟩ := h
  split at h
  · cases Txn.pure_ok.mp h
    rfl
  · rw [Txn.guard_bind_ok, Txn.write_bind] at h
    rw [insertStatusLog_ok h.2]

def KeepsCount (change : RefundOutboxDO → RefundOutboxDO) : Prop :=
  ∀ row, (change row).id = row.id ∧ (change row).attempts = row.attempts

theorem succeedJob_outbox {job : RefundOutboxDO} {result : RefundResult}
    (h : succeedJob job result now db = .ok ((), db')) :
    db'.outbox = changeOutbox job.id (acceptedJob now) db.outbox := by
  rw [succeedJob, Txn.guard_bind_ok] at h
  simp only [Txn.bind_ok] at h
  obtain ⟨-, refund, refunded, hrefund, _, moved, hmove, houtbox⟩ := h
  rw [writeOutbox_ok houtbox]
  have hrefunded := writeRefund_ok hrefund
  subst hrefunded
  rw [Txn.when_ok] at hmove
  split at hmove
  · rw [updateRefundOrderStatus_outbox hmove]
  · cases hmove
    rfl

theorem failJob_outbox {job : RefundOutboxDO} {detail : String} {maxAttempts : Int}
    (h : failJob job detail maxAttempts now db = .ok ((), db')) :
    ∃ change, KeepsCount change ∧ db'.outbox = changeOutbox job.id change db.outbox := by
  unfold failJob at h
  split at h
  · simp only [Txn.bind_ok] at h
    obtain ⟨refund, failed, hrefund, _, moved, hmove, houtbox⟩ := h
    have hfailed := writeRefund_ok hrefund
    subst hfailed
    refine ⟨deadJob detail now, fun _ => ⟨rfl, rfl⟩, ?_⟩
    rw [writeOutbox_ok houtbox, updateRefundOrderStatus_outbox hmove]
  · exact ⟨retriedJob detail now, fun _ => ⟨rfl, rfl⟩, by rw [writeOutbox_ok h]⟩

theorem completeRefundBody_outbox {id maxAttempts : Int} {result : RefundResult}
    (h : completeRefundBody id result maxAttempts now db = .ok ((), db')) :
    ∃ job change, KeepsCount change ∧ db'.outbox = changeOutbox job change db.outbox := by
  simp only [completeRefundBody, Txn.guard_bind_ok, Txn.read_bind, found_bind_ok] at h
  obtain ⟨-, job, -, h⟩ := h
  split at h
  · exact ⟨job.id, acceptedJob now, fun _ => ⟨rfl, rfl⟩, succeedJob_outbox h⟩
  · rw [found_bind_ok] at h
    obtain ⟨detail, -, h⟩ := h
    exact ⟨job.id, failJob_outbox h⟩

theorem retryDeadBody_outbox {id : Int} {job : RefundJob}
    (h : retryDeadBody id now db = .ok (job, db')) :
    db'.outbox = changeOutbox id (requeuedJob now) db.outbox := by
  simp only [retryDeadBody, Txn.guard_bind_ok, Txn.read_bind, found_bind_ok] at h
  obtain ⟨-, dead, hdead, refund, -, h⟩ := h
  rw [Txn.bind_ok] at h
  obtain ⟨_, opened, hopen, h⟩ := h
  rw [found_bind_ok] at h
  obtain ⟨order, -, h⟩ := h
  simp only [Txn.bind_ok, Txn.pure_ok] at h
  obtain ⟨_, moved, hmove, _, requeued, hrequeue, h⟩ := h
  cases h
  have hid : dead.id = id := by
    have hfound := List.find?_some hdead
    simp only [decide_eq_true_eq] at hfound
    exact hfound.1
  have hopened : opened.outbox = db.outbox := by
    rw [Txn.when_ok] at hopen
    split at hopen
    · rw [Txn.write_ok] at hopen
      cases hopen
      rfl
    · cases hopen
      rfl
  have hmoved : moved.outbox = opened.outbox := by
    rw [Txn.when_ok] at hmove
    split at hmove
    · exact updateRefundOrderStatus_outbox hmove
    · cases hmove
      rfl
  rw [writeOutbox_ok hrequeue, hid, hmoved, hopened]

end Outbox

section Counting

variable {maxAttempts now : Int} {db db' : OrderDB} {claims : Int → Nat}

theorem Counted.mono (counted : Counted ⟨db, claims⟩) (h : db'.outbox = db.outbox) :
    Counted ⟨db', claims⟩ := by
  obtain ⟨hkeys, hattempts, hunknown⟩ := counted
  exact ⟨h ▸ hkeys, h ▸ hattempts, h ▸ hunknown⟩

theorem Counted.changed (counted : Counted ⟨db, claims⟩) {id : Int}
    {change : RefundOutboxDO → RefundOutboxDO} (keeps : KeepsCount change)
    (h : db'.outbox = changeOutbox id change db.outbox) : Counted ⟨db', claims⟩ := by
  obtain ⟨hkeys, hattempts, hunknown⟩ := counted
  have hsame : db'.outbox.map (·.id) = db.outbox.map (·.id) := by
    rw [h]
    exact Table.modify_keys fun row => (keeps row).1
  refine ⟨hsame ▸ hkeys, ?_, hsame ▸ hunknown⟩
  show ∀ job ∈ db'.outbox, job.attempts = claims job.id
  rw [h]
  refine Table.modify_forall hattempts fun row _ _ hrow => ?_
  rw [(keeps row).1, (keeps row).2]
  exact hrow

theorem Counted.update {order : OrderDTO} (counted : Counted ⟨db, claims⟩)
    (h : updateBody order now db = .ok ((), db')) : Counted ⟨db', claims⟩ := by
  obtain ⟨existing, -, -, -, hrun⟩ := updateBody_ok h
  obtain ⟨-, rfl⟩ := updateTxn_ok hrun
  obtain ⟨hkeys, hattempts, hunknown⟩ := counted
  by_cases hpending : order.trimmed.target = .refundPending
  · have hfresh : Sql.nextId (db.outbox.map (·.id)) ∉ db.outbox.map (·.id) := fun hmem =>
      absurd (Sql.lt_nextId hmem) (lt_irrefl _)
    simp only [openedJobs, if_pos hpending]
    refine ⟨?_, ?_, ?_⟩
    · apply Table.nodup_snoc hkeys
      intro other hother hsame
      exact hfresh (List.mem_map.mpr ⟨other, hother, hsame⟩)
    · intro job hjob
      rcases List.mem_append.mp hjob with hold | hnew
      · exact hattempts job hold
      · rw [List.mem_singleton.mp hnew]
        exact (congrArg Nat.cast (hunknown _ hfresh)).symm
    · intro id hid
      apply hunknown
      intro hmem
      exact hid (by simp only [List.map_append, List.mem_append, hmem, true_or])
  · simp only [openedJobs, if_neg hpending, List.append_nil]
    exact ⟨hkeys, hattempts, hunknown⟩

theorem Counted.requeued {id : Int} {job : RefundJob} (counted : Counted ⟨db, claims⟩)
    (h : retryDeadBody id now db = .ok (job, db')) :
    Counted ⟨db', requeue id claims (.ok job)⟩ := by
  obtain ⟨hkeys, hattempts, hunknown⟩ := counted
  have houtbox := retryDeadBody_outbox h
  have hsame : db'.outbox.map (·.id) = db.outbox.map (·.id) := by
    rw [houtbox]
    exact Table.modify_keys fun row => rfl
  refine ⟨hsame ▸ hkeys, ?_, ?_⟩
  · intro row hrow
    rw [houtbox] at hrow
    obtain ⟨before, hbefore, rfl⟩ := List.mem_map.mp hrow
    simp only [requeue]
    by_cases hid : before.id = id
    · simp [hid, requeuedJob]
    · simp only [if_neg hid]
      exact hattempts before hbefore
  · intro other hother
    simp only [requeue]
    split
    · rfl
    · exact hunknown other (hsame ▸ hother)

theorem Counted.claimed {locked : List Int} {limit lockTimeout : Int} {jobs : List RefundJob}
    (counted : Counted ⟨db, claims⟩)
    (h : claimUnlocked locked limit maxAttempts lockTimeout now db = .ok (jobs, db')) :
    Counted ⟨db', tallied claims (jobs.map (·.outboxID))⟩ := by
  obtain ⟨hkeys, hattempts, hunknown⟩ := counted
  obtain ⟨hids, houtbox⟩ := claimUnlocked_ok hkeys h
  have hsame : db'.outbox.map (·.id) = db.outbox.map (·.id) := by
    rw [houtbox, List.map_map]
    apply List.map_congr_left
    intro row _
    rw [Function.comp_apply]
    split <;> rfl
  refine ⟨hsame ▸ hkeys, ?_, ?_⟩
  · intro row hrow
    rw [houtbox] at hrow
    obtain ⟨before, hbefore, rfl⟩ := List.mem_map.mp hrow
    have hbeforeAttempts : before.attempts = claims before.id := hattempts before hbefore
    by_cases hmem : before.id ∈ jobs.map (·.outboxID)
    · rw [if_pos hmem]
      simp only [claimedJob, tallied, if_pos hmem, hbeforeAttempts, Nat.cast_add, Nat.cast_one]
    · rw [if_neg hmem]
      simp only [tallied, if_neg hmem, hbeforeAttempts]
  · intro id hid
    rw [hsame] at hid
    have hnot : id ∉ jobs.map (·.outboxID) := by
      rw [hids]
      intro hmem
      exact hid (((selected_sublist _ _ _ _ _ _).map (·.id)).subset hmem)
    simp only [tallied, if_neg hnot]
    exact hunknown id hid

theorem claim_cases (maxAttempts : Int) (locked : List Int) (limit lockTimeout now : Int)
    (db : OrderDB) :
    (∃ jobs db', claimUnlocked locked (positiveOr limit 20) (positiveOr maxAttempts 8)
        (positiveOr lockTimeout (120 * second)) now db = .ok (jobs, db') ∧
        claim maxAttempts locked limit lockTimeout now db = (.ok jobs, db')) ∨
      ∃ err, claimUnlocked locked (positiveOr limit 20) (positiveOr maxAttempts 8)
        (positiveOr lockTimeout (120 * second)) now db = .error err ∧
        claim maxAttempts locked limit lockTimeout now db = (.error err, db) := by
  rcases Txn.commit_cases (claimUnlocked locked (positiveOr limit 20) (positiveOr maxAttempts 8)
    (positiveOr lockTimeout (120 * second)) now) db with
    ⟨jobs, db', hrun, hcommit⟩ | ⟨err, hrun, hcommit⟩
  · exact .inl ⟨jobs, db', hrun, hcommit⟩
  · exact .inr ⟨err, hrun, hcommit⟩

theorem tallied_nil (claims : Int → Nat) : tallied claims [] = claims := by
  funext id
  simp [tallied]

/-- The step lemma: the attempts in the table stay the jobs handed out. -/
theorem Counted.step [GoText.CaseTable] {state : Tally} (counted : Counted state)
    (label : Call × Int) :
    Counted (step maxAttempts state label) := by
  obtain ⟨db, claims⟩ := state
  obtain ⟨call, now⟩ := label
  cases call with
  | update order =>
    simp only [Attempts.step]
    rcases Txn.commit_cases (updateBody order (Sql.datetime3 now)) db with
      ⟨⟨⟩, db', hrun, hcommit⟩ | ⟨err, -, hcommit⟩
    · rw [hcommit]
      exact counted.update hrun
    · rw [hcommit]
      exact counted
  | claimRefundJobs locked limit lockTimeout =>
    simp only [Attempts.step]
    rcases claim_cases maxAttempts locked limit lockTimeout now db with
      ⟨jobs, db', hrun, h⟩ | ⟨err, -, h⟩
    · rw [h]
      exact counted.claimed hrun
    · rw [h, handedOut, tallied_nil]
      exact counted
  | completeRefundJob id result =>
    simp only [Attempts.step, completeRefundJob]
    rcases Txn.commit_cases (completeRefundBody id (normalizeResult result)
      (positiveOr maxAttempts 8) (Sql.datetime3 now)) db with
      ⟨⟨⟩, db', hrun, hcommit⟩ | ⟨err, -, hcommit⟩
    · rw [hcommit]
      obtain ⟨job, change, keeps, houtbox⟩ := completeRefundBody_outbox hrun
      exact counted.changed keeps houtbox
    · rw [hcommit]
      exact counted
  | retryDeadRefundJob id =>
    simp only [Attempts.step, retryDeadRefundJob]
    rcases Txn.commit_cases (retryDeadBody id (Sql.datetime3 now)) db with
      ⟨job, db', hrun, hcommit⟩ | ⟨err, -, hcommit⟩
    · rw [hcommit]
      exact counted.requeued hrun
    · rw [hcommit]
      exact counted
  | elsewhere tables => exact counted.mono rfl

/-- Whether a claim stays within the limit is decided by the jobs it takes over. -/
theorem claim_bounded {locked : List Int} {limit lockTimeout : Int} {jobs : List RefundJob}
    (counted : Counted ⟨db, claims⟩) (bounded : Bounded maxAttempts ⟨db, claims⟩)
    (h : claimUnlocked locked limit maxAttempts lockTimeout now db = .ok (jobs, db')) :
    Bounded maxAttempts ⟨db', tallied claims (jobs.map (·.outboxID))⟩ ↔
      ∀ job ∈ selected locked limit maxAttempts lockTimeout now db, job.status = .processing →
        job.attempts < maxAttempts := by
  obtain ⟨hkeys, hattempts, -⟩ := counted
  obtain ⟨hids, -⟩ := claimUnlocked_ok hkeys h
  have hstored : ∀ job ∈ selected locked limit maxAttempts lockTimeout now db,
      job.attempts = claims job.id := fun job hjob =>
    hattempts job ((selected_sublist _ _ _ _ _ _).subset hjob)
  constructor
  · intro after job hjob _
    have hmem : job.id ∈ jobs.map (·.outboxID) := hids ▸ List.mem_map_of_mem hjob
    have hnext := after job.id
    have hjobAttempts := hstored job hjob
    simp only [tallied, if_pos hmem] at hnext
    push_cast at hnext
    omega
  · intro inTime id
    by_cases hmem : id ∈ jobs.map (·.outboxID)
    · have hselected := hmem
      rw [hids] at hselected
      obtain ⟨job, hjob, rfl⟩ := List.mem_map.mp hselected
      have hjobAttempts := hstored job hjob
      have hless : job.attempts < maxAttempts := by
        have hclaimable := (List.mem_filter.mp (List.take_subset _ _ hjob)).2
        simp only [claimable, Bool.and_eq_true, decide_eq_true_eq] at hclaimable
        rcases hclaimable.1 with hready | hstale
        · exact hready.1
        · exact inTime job hjob hstale.1
      simp only [tallied, if_pos hmem]
      push_cast
      omega
    · simp only [tallied, if_neg hmem]
      exact bounded id

theorem step_bounded [GoText.CaseTable] (hlimit : 1 ≤ maxAttempts) {state : Tally}
    (counted : Counted state)
    (bounded : Bounded maxAttempts state) (label : Call × Int) :
    Bounded maxAttempts (step maxAttempts state label) ↔ InTime maxAttempts state label := by
  obtain ⟨db, claims⟩ := state
  obtain ⟨call, now⟩ := label
  have hpositive : positiveOr maxAttempts 8 = maxAttempts := if_neg (by omega)
  cases call with
  | claimRefundJobs locked limit lockTimeout =>
    have hloaded := claimJobs_run (Sql.datetime3 now) (selected locked (positiveOr limit 20)
      maxAttempts (positiveOr lockTimeout (120 * second)) now db) db
    simp only [step, InTime]
    rcases claim_cases maxAttempts locked limit lockTimeout now db with
      ⟨jobs, db', hrun, h⟩ | ⟨err, hrun, h⟩
    · rw [hpositive] at hrun
      rw [h, forall_prop_of_true (hloaded.mp ⟨_, hrun⟩)]
      exact claim_bounded counted bounded hrun
    · rw [hpositive] at hrun
      rw [h, handedOut, tallied_nil]
      refine iff_of_true bounded fun hall => ?_
      obtain ⟨claimed, hclaimed⟩ := hloaded.mpr hall
      cases hrun.symm.trans hclaimed
  | retryDeadRefundJob id =>
    refine iff_of_true (fun other => ?_) trivial
    simp only [step]
    cases (retryDeadRefundJob id (Sql.datetime3 now) db).1 with
    | error err => exact bounded other
    | ok job =>
      simp only [requeue]
      split
      · push_cast
        omega
      · exact bounded other
  | update _ | completeRefundJob _ _ | elsewhere _ =>
    refine iff_of_true ?_ trivial
    simpa only [Bounded, step] using bounded

end Counting

/-- From an empty outbox on, no job is ever handed out more than `maxAttempts` times
between its creation and the retries by hand, if and only if every job that is taken
over from an expired lock has attempts left. -/
theorem attempts_bounded_iff [GoText.CaseTable] {maxAttempts : Int} (hlimit : 1 ≤ maxAttempts)
    {start : OrderDB}
    (hempty : start.outbox = []) (labels : List (Call × Int)) :
    (∀ done, done <+: labels → Bounded maxAttempts (run (step maxAttempts) ⟨start, 0⟩ done)) ↔
      Along (step maxAttempts) (InTime maxAttempts) ⟨start, 0⟩ labels := by
  have hstart : Counted ⟨start, 0⟩ := by
    refine ⟨?_, ?_, fun _ _ => rfl⟩ <;> simp [hempty]
  have hzero : Bounded maxAttempts ⟨start, 0⟩ := by
    intro id
    simp only [Pi.zero_apply, Nat.cast_zero]
    omega
  have hiff := @along_iff_invariant _ _ (step maxAttempts) (InTime maxAttempts) ⟨start, 0⟩
    (fun state => Counted state ∧ Bounded maxAttempts state) labels ⟨hstart, hzero⟩
    fun state label ⟨counted, bounded⟩ =>
      (and_iff_right (counted.step label)).trans (step_bounded hlimit counted bounded label)
  rw [← hiff]
  have hcounted : ∀ done, Counted (run (step maxAttempts) ⟨start, 0⟩ done) := fun done =>
    run_invariant done (fun _ label counted => counted.step label) hstart
  exact forall₂_congr fun done _ => (and_iff_right (hcounted done)).symm

def paidOrder : OrderDB :=
  { noOrders with orders :=
    [⟨1, 5, "A", "", .tradeSuccess, "T1", 100, "", none, "", "", "", "", [], 0, 0, false⟩] }

def refundPaid : Call :=
  .update { orderSn := "A", status := "REFUND_PENDING", actorUserID := 1, refundAmountFen := 100,
            statusReason := "broken", correlationID := "c1" }

local instance letters : GoText.CaseTable := GoText.asciiTable

/-- With a limit of one attempt, the job of a worker that has crashed is handed out a
second time. -/
theorem crashed_job_exceeds_limit :
    let final := run (step 1) ⟨paidOrder, 0⟩
      [(refundPaid, 0), (.claimRefundJobs [] 20 (120 * second), 0),
        (.claimRefundJobs [] 20 (120 * second), 121 * second)]
    final.claims 1 = 2 ∧ final.db.outbox.map (fun job => (job.id, job.attempts)) = [(1, 2)] := by
  decide +kernel

/-- The worker reports its failure, the job is dead, and is requeued by hand. -/
theorem attempts_bounded_requeued :
    let labels : List (Call × Int) :=
      [(refundPaid, 0), (.claimRefundJobs [] 20 (120 * second), 0),
        (.completeRefundJob 1 { success := false, detail := "refused" }, second),
        (.claimRefundJobs [] 20 (120 * second), 121 * second),
        (.retryDeadRefundJob 1, 200 * second),
        (.claimRefundJobs [] 20 (120 * second), 201 * second)]
    (run (step 1) ⟨paidOrder, 0⟩ labels).claims 1 = 1 ∧
      ∀ done, done <+: labels → Bounded 1 (run (step 1) ⟨paidOrder, 0⟩ done) :=
  ⟨by decide +kernel, (attempts_bounded_iff (by decide) rfl _).mpr (by decide +kernel)⟩

end Goshop.Refund.Attempts
