import Goshop.Refund.Locks

/-! Any number of refund workers on one outbox. The timeout of a lock is the timeout
of a batch and that of one report, so there is no room for a worker that pauses
between two of its calls, and none for the rounding of the lock. -/
namespace Goshop.Refund.Exclusive

open Goshop.Errors Goshop.Lib Goshop.Lib.Process Goshop.Lib.Run
open Goshop.Order.Model Goshop.Order.Payment Goshop.Refund.Worker Goshop.Refund.Locks
open Goshop.Lib.GoText (CaseTable)

section Conditions

variable {ι : Type} (opts : PaymentOptions)

/-- The call ends no later than the deadline of its context, and the batch is
over once its deadline has passed. -/
def CallsInTime (request : Call ι) (choice : Choice) (world : World ι) : Prop :=
  match request with
  | .claimRefundJobs _ batch => stepTime choice world ≤ batchDeadline opts batch
  | .batchErr batch => choice.expired = false → stepTime choice world ≤ batchDeadline opts batch
  | .endRefund _ deadline => stepTime choice world ≤ deadline
  | .completeRefundJob _ _ _ started => stepTime choice world ≤ completionDeadline started
  | _ => True

/-- No worker falls behind between its calls: the context of a report is made half a
millisecond before the deadline of the batch, and nobody is still in a batch when
its locks may expire. -/
def InTime (request : Call ι) (choice : Choice) (world : World ι) : Prop :=
  Punctual opts { world with clock := stepTime choice world } ∧
    match request with
    | .openCompletion batch => stepTime choice world ≤ batchDeadline opts batch - lockRounding
    | _ => True

end Conditions

section Frames

variable {ι : Type} (opts : PaymentOptions)

structure Frame (worker : ι) (world world' : World ι) : Prop where
  batches : world'.batches worker = world.batches worker
  holds : ∀ hold ∈ world.holds, hold.worker = worker → hold ∈ world'.holds
  refunding : ∀ call ∈ world'.refunding, call.1 = worker → call ∈ world.refunding

def Rely (worker : ι) (world world' : World ι) : Prop :=
  (Leased opts world → Leased opts world') ∧ Frame worker world world'

def Guarantee (worker : ι) (world world' : World ι) : Prop :=
  (Leased opts world → Leased opts world') ∧ ∀ other, other ≠ worker → Frame other world world'

variable {opts} {world world' : World ι}

theorem Frame.same {worker : ι} (hbatches : world'.batches = world.batches)
    (hholds : world'.holds = world.holds) (hrefunding : world'.refunding = world.refunding) :
    Frame worker world world' :=
  ⟨congrFun hbatches worker, fun _ hhold _ => hholds ▸ hhold, fun _ hcall _ => hrefunding ▸ hcall⟩

theorem Frame.after {worker : ι} {mid : World ι} (h : Frame worker mid world')
    (hbatches : mid.batches = world.batches) (hholds : mid.holds = world.holds)
    (hrefunding : mid.refunding = world.refunding) : Frame worker world world' :=
  ⟨hbatches ▸ h.batches, hholds ▸ h.holds, hrefunding ▸ h.refunding⟩

theorem guarantee_refl (worker : ι) (world : World ι) : Guarantee opts worker world world :=
  ⟨id, fun _ _ => .same rfl rfl rfl⟩

variable [DecidableEq ι]

theorem claim_frame (hkeys : (world.db.outbox.map (·.id)).Nodup) (worker other : ι)
    (batch : Batch) (choice : Choice) :
    Frame other world (claim opts worker batch choice world).2 := by
  rcases claim_cases hkeys worker batch choice with ⟨jobs, db, hclaim, -⟩ | ⟨err, hclaim⟩
  · rw [hclaim]
    refine ⟨rfl, fun hold hhold _ => ?_, fun _ hcall _ => hcall⟩
    simp only [giveJobs]
    split
    · exact List.mem_append_left _ hhold
    · exact hhold
  · rw [hclaim]
    exact .same rfl rfl rfl

theorem deliver_frame [CaseTable] (hkeys : (world.db.outbox.map (·.id)).Nodup)
    (other : ι) (choice : Choice) :
    Frame other world (deliver opts choice world) := by
  unfold deliver
  cases world.late[choice.index]? with
  | none => exact .same rfl rfl rfl
  | some message =>
    cases message with
    | claim worker batch =>
      simp only [applyLate]
      split
      · refine Frame.after (claim_frame ?_ worker other batch choice) rfl rfl rfl
        exact hkeys
      · exact .same rfl rfl rfl
    | complete job result started =>
      simp only [applyLate]
      split
      · exact .same rfl rfl rfl
      · exact .same rfl rfl rfl

end Frames

section Assertions

variable {ι : Type} (opts : PaymentOptions) (worker : ι)

structure Idle (world : World ι) : Prop where
  leased : Leased opts world
  out : world.batches worker = none

structure InBatch (batch : Batch) (jobs : List Int) (world : World ι) : Prop where
  leased : Leased opts world
  entered : world.batches worker = some batch
  held : ∀ job ∈ jobs, ⟨worker, batch, job⟩ ∈ world.holds

structure Between (batch : Batch) (jobs : List Int) (world : World ι) : Prop
    extends InBatch opts worker batch jobs world where
  quiet : ∀ call ∈ world.refunding, call.1 ≠ worker

variable {opts worker} {batch : Batch} {jobs : List Int}

theorem leased_stable : Stable (Rely opts worker) (Leased opts) :=
  fun _ _ hleased hstep => hstep.1 hleased

theorem idle_stable : Stable (Rely opts worker) (Idle opts worker) :=
  fun _ _ hidle hstep => ⟨hstep.1 hidle.leased, hstep.2.batches.trans hidle.out⟩

theorem inBatch_stable : Stable (Rely opts worker) (InBatch opts worker batch jobs) :=
  fun _ _ hin hstep => ⟨hstep.1 hin.leased, hstep.2.batches.trans hin.entered,
    fun job hjob => hstep.2.holds _ (hin.held job hjob) rfl⟩

theorem between_stable : Stable (Rely opts worker) (Between opts worker batch jobs) :=
  fun world world' hbetween hstep => ⟨inBatch_stable world world' hbetween.toInBatch hstep,
    fun call hcall hworker => hbetween.quiet call (hstep.2.refunding call hcall hworker) hworker⟩

end Assertions

section Calls

variable {ι : Type} {opts : PaymentOptions} {worker : ι} {batch : Batch}
  {jobs : List Int} {world : World ι} {choice : Choice}

theorem InBatch.later (h : InBatch opts worker batch jobs world) (choice : Choice) :
    InBatch opts worker batch jobs { world with clock := stepTime choice world } :=
  ⟨h.leased.later choice, h.entered, h.held⟩

theorem Between.later (h : Between opts worker batch jobs world) (choice : Choice) :
    Between opts worker batch jobs { world with clock := stepTime choice world } :=
  ⟨h.toInBatch.later choice, h.quiet⟩

theorem guarantee_later {world' : World ι} (choice : Choice) (hleased : Leased opts world')
    (hframe : ∀ other, other ≠ worker →
      Frame other { world with clock := stepTime choice world } world') :
    Guarantee opts worker world world' :=
  ⟨fun _ => hleased, fun other hother => (hframe other hother).after rfl rfl rfl⟩

variable [DecidableEq ι] [CaseTable]

theorem exec_openBatch (h : Idle opts worker world) :
    Guarantee opts worker world (exec opts (.openBatch worker) choice world).2 ∧
      Between opts worker (exec opts (.openBatch worker) choice world).1 []
        (exec opts (.openBatch worker) choice world).2 := by
  have hleased : Leased opts (exec opts (.openBatch worker) choice world).2 :=
    (h.leased.later choice).openBatch h.out choice
  refine ⟨guarantee_later choice hleased fun other hother => ?_,
    ⟨hleased, ?_, List.forall_mem_nil _⟩, ?_⟩
  · exact ⟨Function.update_of_ne hother _ _, fun _ hhold _ => hhold, fun _ hcall _ => hcall⟩
  · exact Function.update_self _ _ _
  · intro call hcall hworker
    obtain ⟨hold, hhold, hof, -⟩ := h.leased.calling call hcall
    have hbatch := h.leased.inBatch hold hhold
    rw [hof, hworker, h.out] at hbatch
    cases hbatch

theorem exec_leaveBatch (h : Between opts worker batch jobs world) :
    Guarantee opts worker world (exec opts (.leaveBatch worker) choice world).2 ∧
      Idle opts worker (exec opts (.leaveBatch worker) choice world).2 := by
  have hleased : Leased opts (exec opts (.leaveBatch worker) choice world).2 :=
    (h.leased.later choice).leaveBatch h.quiet choice
  refine ⟨guarantee_later choice hleased fun other hother => ?_,
    hleased, Function.update_self _ _ _⟩
  refine ⟨Function.update_of_ne hother _ _, fun hold hhold hof => ?_, fun _ hcall _ => hcall⟩
  exact List.mem_filter.mpr ⟨hhold, decide_eq_true (hof ▸ hother)⟩

theorem exec_silent {request : Call ι}
    (hsilent : (exec opts request choice world).2 =
      { world with clock := stepTime choice world })
    (h : Between opts worker batch jobs world) :
    Guarantee opts worker world (exec opts request choice world).2 ∧
      Between opts worker batch jobs (exec opts request choice world).2 := by
  rw [hsilent]
  exact ⟨guarantee_later choice (h.leased.later choice) fun _ _ => .same rfl rfl rfl,
    h.later choice⟩

def jobIDs : Except AppError (List RefundJob) → List Int
  | .error _ => []
  | .ok jobs => jobs.map (·.outboxID)

omit [CaseTable] in
theorem claim_between (hwhole : Whole opts) (h : Between opts worker batch [] world)
    (hpunctual : Punctual opts world) (choice : Choice) :
    Between opts worker batch (jobIDs (claim opts worker batch choice world).1)
        (claim opts worker batch choice world).2 ∧
      (jobIDs (claim opts worker batch choice world).1).Nodup := by
  have hleased := h.leased.claim hwhole hpunctual worker batch choice
  rcases claim_cases h.leased.keys worker batch choice with
    ⟨claimed, db, hclaim, hrelocked⟩ | ⟨err, hclaim⟩
  · rw [hclaim] at hleased ⊢
    refine ⟨⟨⟨hleased, h.entered, fun job hjob => ?_⟩, h.quiet⟩, hrelocked.distinct⟩
    simp only [giveJobs, if_pos h.entered]
    exact List.mem_append_right _ (List.mem_map_of_mem hjob)
  · rw [hclaim]
    exact ⟨h, List.nodup_nil⟩

theorem exec_claim (hwhole : Whole opts) (h : Between opts worker batch [] world)
    (htime : InTime opts (.claimRefundJobs worker batch) choice world) :
    Guarantee opts worker world (exec opts (.claimRefundJobs worker batch) choice world).2 ∧
      Between opts worker batch (jobIDs (exec opts (.claimRefundJobs worker batch) choice world).1)
          (exec opts (.claimRefundJobs worker batch) choice world).2 ∧
        (jobIDs (exec opts (.claimRefundJobs worker batch) choice world).1).Nodup := by
  have hlater := h.later choice
  obtain ⟨hbetween, hdistinct⟩ := claim_between hwhole hlater htime.1 choice
  have hframe (other : ι) : Frame other { world with clock := stepTime choice world }
      (claim opts worker batch choice { world with clock := stepTime choice world }).2 :=
    claim_frame hlater.leased.keys worker other batch choice
  have hlate : Leased opts (addLate (.claim worker batch)
      { world with clock := stepTime choice world }) := hlater.leased.addClaim worker batch
  unfold exec
  simp only [serve]
  cases choice.fate with
  | ok =>
    exact ⟨guarantee_later choice hbetween.leased fun other _ => hframe other, hbetween, hdistinct⟩
  | failBefore =>
    exact ⟨guarantee_later choice hlater.leased fun _ _ => .same rfl rfl rfl,
      hlater, List.nodup_nil⟩
  | failAfter =>
    exact ⟨guarantee_later choice hbetween.leased fun other _ => hframe other,
      ⟨⟨hbetween.leased, hbetween.entered, List.forall_mem_nil _⟩, hbetween.quiet⟩, List.nodup_nil⟩
  | failLater =>
    exact ⟨guarantee_later choice hlate fun _ _ => .same rfl rfl rfl,
      ⟨⟨hlate, hlater.entered, List.forall_mem_nil _⟩, hlater.quiet⟩, List.nodup_nil⟩

theorem exec_startRefund {job : RefundJob} (h : Between opts worker batch jobs world)
    (hjob : job.outboxID ∈ jobs)
    (htime : InTime opts (.startRefund worker job) choice world) :
    Guarantee opts worker world (exec opts (.startRefund worker job) choice world).2 ∧
      InBatch opts worker batch jobs (exec opts (.startRefund worker job) choice world).2 := by
  have hleased : Leased opts (exec opts (.startRefund worker job) choice world).2 :=
    (h.leased.later choice).startRefund htime.1 (h.held job.outboxID hjob) h.quiet
  refine ⟨guarantee_later choice hleased fun other hother => ?_, hleased, h.entered, h.held⟩
  refine ⟨rfl, fun _ hhold _ => hhold, fun call hcall hof => ?_⟩
  rcases List.mem_append.mp hcall with hbefore | hnew
  · exact hbefore
  · rw [List.mem_singleton.mp hnew] at hof
    exact absurd hof.symm hother

theorem exec_endRefund {deadline : Int} (h : InBatch opts worker batch jobs world) :
    Guarantee opts worker world (exec opts (.endRefund worker deadline) choice world).2 ∧
      Between opts worker batch jobs (exec opts (.endRefund worker deadline) choice world).2 := by
  have hleased : Leased opts (exec opts (.endRefund worker deadline) choice world).2 :=
    (h.leased.later choice).endRefund deadline choice
  refine ⟨guarantee_later choice hleased fun other _ => ?_, ⟨hleased, h.entered, h.held⟩, ?_⟩
  · exact ⟨rfl, fun _ hhold _ => hhold, fun call hcall _ => (List.mem_filter.mp hcall).1⟩
  · intro call hcall
    exact of_decide_eq_true (List.mem_filter.mp hcall).2

theorem report_fields (worker : ι) (job : Int) (result : RefundResult) (started : Int)
    (choice : Choice) (world : World ι) :
    (exec opts (.completeRefundJob worker job result started) choice world).2.batches =
        world.batches ∧
      (exec opts (.completeRefundJob worker job result started) choice world).2.holds =
          world.holds.filter (fun hold => hold.worker ≠ worker ∨ hold.job ≠ job) ∧
        (exec opts (.completeRefundJob worker job result started) choice world).2.refunding =
          world.refunding := by
  unfold exec
  simp only [serve]
  cases choice.fate <;> exact ⟨rfl, rfl, rfl⟩

theorem exec_completeRefundJob {job started : Int} {rest : List Int} {result : RefundResult}
    (h : Between opts worker batch (job :: rest) world) (hdistinct : job ∉ rest)
    (hstarted : started ≤ batchDeadline opts batch - lockRounding)
    (htime : InTime opts (.completeRefundJob worker job result started) choice world) :
    Guarantee opts worker world
        (exec opts (.completeRefundJob worker job result started) choice world).2 ∧
      Between opts worker batch rest
        (exec opts (.completeRefundJob worker job result started) choice world).2 := by
  have hleased : Leased opts
      (exec opts (.completeRefundJob worker job result started) choice world).2 :=
    (h.leased.later choice).report htime.1 (h.held job List.mem_cons_self) h.quiet hstarted result
      choice
  obtain ⟨hbatches, hholds, hrefunding⟩ := report_fields worker job result started choice world
  refine ⟨guarantee_later choice hleased fun other hother => ?_, ⟨hleased, ?_, ?_⟩, ?_⟩
  · refine ⟨congrFun hbatches other, fun hold hhold hof => ?_, fun call hcall _ => ?_⟩
    · rw [hholds]
      exact List.mem_filter.mpr ⟨hhold, decide_eq_true (.inl (hof ▸ hother))⟩
    · rw [hrefunding] at hcall
      exact hcall
  · rw [hbatches]
    exact h.entered
  · intro other hother
    rw [hholds]
    have hne : other ≠ job := fun hsame => hdistinct (hsame ▸ hother)
    exact List.mem_filter.mpr ⟨h.held other (List.mem_cons_of_mem _ hother),
      decide_eq_true (.inr hne)⟩
  · rw [hrefunding]
    exact h.quiet

theorem exec_deliver (hwhole : Whole opts) (h : Leased opts world)
    (htime : InTime opts .deliver choice world) :
    Guarantee opts worker world (exec opts .deliver choice world).2 ∧
      Leased opts (exec opts .deliver choice world).2 := by
  have hleased : Leased opts (exec opts .deliver choice world).2 :=
    (h.later choice).deliver hwhole htime.1 choice
  refine ⟨guarantee_later choice hleased fun other _ => ?_, hleased⟩
  apply deliver_frame
  exact h.keys

end Calls

section Programs

variable {ι : Type} [DecidableEq ι] [CaseTable] (opts : PaymentOptions) (worker : ι)

abbrev WorkerSafe {α : Type} (post : α → World ι → Prop) (pre : World ι → Prop)
    (program : Program ι α) : Prop :=
  Safe (exec opts) (InTime opts) (Rely opts worker) (Guarantee opts worker) post pre program

variable {opts worker} {batch : Batch}

theorem leave_safe (jobs : List Int) (result : Result Unit) :
    WorkerSafe opts worker (fun _ => Idle opts worker) (Between opts worker batch jobs)
      (leave worker result) := by
  refine .call (fun _ => Idle opts worker) between_stable (fun _ _ h _ => exec_leaveBatch h) ?_
  intro _
  exact .ret idle_stable fun _ hidle => hidle

theorem silent_safe {α : Type} {request : Call ι} {next : Reply request → Program ι α}
    {post : α → World ι → Prop} {jobs : List Int} (fact : Reply request → Prop)
    (hsilent : ∀ choice world, (exec opts request choice world).2 =
      { world with clock := stepTime choice world })
    (hfact : ∀ choice world, InTime opts request choice world →
      fact (exec opts request choice world).1)
    (hnext : ∀ reply, fact reply →
      WorkerSafe opts worker post (Between opts worker batch jobs) (next reply)) :
    WorkerSafe opts worker post (Between opts worker batch jobs) (.call request next) := by
  refine .call (fun reply world => Between opts worker batch jobs world ∧ fact reply)
    between_stable ?_ ?_
  · intro world choice h htime
    obtain ⟨hguarantee, hbetween⟩ := exec_silent (hsilent choice world) h
    exact ⟨hguarantee, hbetween, hfact choice world htime⟩
  · intro reply
    refine Safe.given (fun _ h => h.2) fun hreply => ?_
    refine (hnext reply hreply).weaken ?_ fun _ h => h.1
    exact fun world world' h hstep => ⟨between_stable world world' h.1 hstep, h.2⟩

theorem processJobs_safe (jobs : List RefundJob) (hdistinct : (jobs.map (·.outboxID)).Nodup) :
    WorkerSafe opts worker (fun _ => Idle opts worker)
      (Between opts worker batch (jobs.map (·.outboxID))) (processJobs opts worker batch jobs) := by
  induction jobs with
  | nil => exact leave_safe _ _
  | cons job rest ih =>
    obtain ⟨hjob, hrest⟩ := List.nodup_cons.mp hdistinct
    refine silent_safe (fun _ => True) (fun _ _ => rfl) (fun _ _ _ => trivial) fun expired _ => ?_
    cases expired with
    | true => exact leave_safe _ _
    | false =>
      refine silent_safe (fun _ => True) (fun _ _ => rfl) (fun _ _ _ => trivial)
        fun deadline _ => ?_
      refine .call (fun _ => InBatch opts worker batch _) between_stable
        (fun _ _ h htime => exec_startRefund h List.mem_cons_self htime) fun _ => ?_
      refine .call (fun _ => Between opts worker batch _) inBatch_stable
        (fun _ _ h _ => exec_endRefund h) fun refund => ?_
      refine silent_safe (fun started => started ≤ batchDeadline opts batch - lockRounding)
        (fun _ _ => rfl) (fun _ _ htime => htime.2) fun started hstarted => ?_
      refine .call (fun _ => Between opts worker batch (rest.map RefundJob.outboxID)) between_stable
        (fun _ _ h htime => exec_completeRefundJob h hjob hstarted htime) fun completed => ?_
      cases completed with
      | error err => exact leave_safe _ _
      | ok _ => exact ih hrest

theorem processRefundBatch_safe (hwhole : Whole opts) :
    WorkerSafe opts worker (fun _ => Idle opts worker) (Idle opts worker)
      (processRefundBatch opts worker) := by
  refine .call (fun batch => Between opts worker batch []) idle_stable
    (fun _ _ h _ => exec_openBatch h) fun batch => ?_
  refine .call (fun claimed world => Between opts worker batch (jobIDs claimed) world ∧
    (jobIDs claimed).Nodup) between_stable (fun _ _ h htime => exec_claim hwhole h htime) ?_
  intro claimed
  have hstable : Stable (Rely opts worker) fun world =>
      Between opts worker batch (jobIDs claimed) world ∧ (jobIDs claimed).Nodup :=
    fun world world' h hstep => ⟨between_stable world world' h.1 hstep, h.2⟩
  cases claimed with
  | error err => exact (leave_safe _ _).weaken hstable fun _ h => h.1
  | ok jobs =>
    refine Safe.given (fun _ h => h.2) fun hdistinct => ?_
    exact (processJobs_safe jobs hdistinct).weaken hstable fun _ h => h.1

theorem runRefunds_safe (hwhole : Whole opts) (batches : Nat) :
    WorkerSafe opts worker (fun _ => Idle opts worker) (Idle opts worker)
      (runRefunds opts worker batches) := by
  induction batches with
  | zero => exact .ret idle_stable fun _ hidle => hidle
  | succ batches ih => exact (processRefundBatch_safe hwhole).bind fun _ => ih

theorem deliverLate_safe (hwhole : Whole opts) (messages : Nat) :
    WorkerSafe opts worker (fun _ => Leased opts) (Leased opts) (deliverLate messages) := by
  induction messages with
  | zero => exact .ret leased_stable fun _ hleased => hleased
  | succ messages ih =>
    exact .call (fun _ => Leased opts) leased_stable
      (fun _ _ h htime => exec_deliver hwhole h htime) fun _ => ih

theorem program_safe (hwhole : Whole opts) (task : Task) :
    WorkerSafe opts worker (fun _ => Leased opts) (Idle opts worker)
      (task.program opts worker) := by
  cases task with
  | worker batches => exact (runRefunds_safe hwhole batches).mono fun _ _ h => h.leased
  | network messages =>
    exact (deliverLate_safe hwhole messages).weaken idle_stable fun _ h => h.leased

end Programs

section Run

variable {ι : Type} [DecidableEq ι]

def initial (clock : Int) (db : OrderDB) : World ι :=
  { clock := clock, db := db }

def programs (opts : PaymentOptions) (tasks : ι → Task) (thread : ι) : Program ι Unit :=
  (tasks thread).program opts thread

def start (opts : PaymentOptions) (clock : Int) (db : OrderDB) (tasks : ι → Task) :
    Config (World ι) ι (Call ι) Reply Unit :=
  ⟨initial clock db, programs opts tasks⟩

omit [DecidableEq ι] in
theorem initial_leased {opts : PaymentOptions} {clock : Int} {db : OrderDB}
    (hkeys : (db.outbox.map (·.id)).Nodup) : Leased opts (initial clock db : World ι) :=
  ⟨⟨nofun, List.Pairwise.nil⟩, hkeys, nofun, nofun, nofun, rfl, rfl⟩

theorem whole_of_seconds {opts : PaymentOptions} {seconds : Int} (hpositive : 0 < seconds)
    (htimeout : opts.workerBatchTimeout = second * seconds) : Whole opts := by
  have hbatch : workerBatchTimeout opts = second * seconds := by
    rw [workerBatchTimeout, if_neg (by rw [htimeout, second]; omega), htimeout]
  have hlock : refundJobLockTimeout opts = second * (seconds + 15) := by
    simp only [refundJobLockTimeout, hbatch, refundJobCompletionTimeout, second]
    omega
  have htruncated : lockTimeoutSeconds opts = seconds + 15 := by
    rw [lockTimeoutSeconds, hlock, Int.mul_tdiv_cancel_left _ (by decide)]
  simp only [Whole, lockTimeout, htruncated, hlock, positiveOr, second]
  split
  all_goals omega

/-- Any number of refund workers on one outbox, with a batch timeout of whole
seconds. In every run in which no worker falls behind between its calls, no job
is claimed while a worker holds it, and no two refunds of a job are asked for at
the same time. -/
theorem refund_lease_exclusive [CaseTable] (opts : PaymentOptions) (seconds : Int)
    (hpositive : 0 < seconds)
    (htimeout : opts.workerBatchTimeout = second * seconds) (clock : Int) (db : OrderDB)
    (hkeys : (db.outbox.map (·.id)).Nodup) (tasks : ι → Task) (labels : List (ι × Choice))
    (hsteps : Along (move (exec opts)) (Admitted fun _ => InTime opts)
      (start opts clock db tasks) labels) :
    (run (move (exec opts)) (start opts clock db tasks) labels).shared.doubleClaims = [] ∧
      (run (move (exec opts)) (start opts clock db tasks) labels).shared.doubleRefunds = [] := by
  have hwhole := whole_of_seconds hpositive htimeout
  have hsafe : EachSafe (exec opts) (fun _ => InTime opts) (Rely opts) (Guarantee opts)
      (fun _ _ => Leased opts) (start opts clock db tasks) :=
    fun thread => ⟨Idle opts thread, ⟨initial_leased hkeys, rfl⟩, program_safe hwhole _⟩
  have hend := hsafe.invariant guarantee_refl
    (fun _ other _ _ hother hstep => ⟨hstep.1, hstep.2 other hother⟩)
    (fun _ _ _ hstep => hstep.1) hsteps (initial_leased hkeys)
  exact ⟨hend.claims, hend.refunds⟩

section Pause

local instance workersNeZero : @NeZero Nat ⟨0⟩ 2 := ⟨Nat.succ_ne_zero _⟩

def sampleOrder : OrderInfoDO :=
  ⟨1, 1, "order-1", "mock", .refundPending, "T-1", 100, "", none, "", "", "", "", [], 0, 0, false⟩

def sampleDB : OrderDB where
  orders := [sampleOrder]
  carts := []
  statusLogs := []
  refunds := [⟨1, "order-1", 1, 100, "", .refundPending, "", "", "", "correlation-1", 0, 0⟩]
  outbox := [⟨1, 1, .pending, 0, 0, none, "", 0, 0⟩]
  events := []

def sampleOptions : PaymentOptions := { requestTimeout := 120 * second }

def sampleStart (clock : Int) : Config (World (Fin 2)) (Fin 2) (Call (Fin 2)) Reply Unit :=
  start sampleOptions clock sampleDB fun _ => .worker 1

def step (worker : Fin 2) (micros : Nat) : Fin 2 × Choice :=
  (worker, { elapsed := micros * 1000, serverNow := 1000 * second })

def sampleWorld [CaseTable] (clock : Int) (steps : List (Fin 2 × Choice)) :
    World (Fin 2) :=
  (run (move (exec sampleOptions)) (sampleStart clock) steps).shared

instance {ι : Type} (opts : PaymentOptions) (request : Call ι) (choice : Choice)
    (world : World ι) : Decidable (CallsInTime opts request choice world) :=
  match request with
  | .claimRefundJobs _ batch =>
    inferInstanceAs (Decidable (stepTime choice world ≤ batchDeadline opts batch))
  | .batchErr batch => inferInstanceAs
    (Decidable (choice.expired = false → stepTime choice world ≤ batchDeadline opts batch))
  | .endRefund _ deadline => inferInstanceAs (Decidable (stepTime choice world ≤ deadline))
  | .completeRefundJob _ _ _ started =>
    inferInstanceAs (Decidable (stepTime choice world ≤ completionDeadline started))
  | .openBatch _ | .openRequest _ | .startRefund _ _ | .openCompletion _ | .leaveBatch _
  | .deliver => .isTrue trivial

instance (opts : PaymentOptions) {workers : Nat} (world : World (Fin workers)) :
    Decidable (Punctual opts world) :=
  inferInstanceAs (Decidable (∀ worker, ∀ batch ∈ world.batches worker,
    world.clock ≤ lockExpiry opts batch))

instance (opts : PaymentOptions) {workers : Nat} (request : Call (Fin workers)) (choice : Choice)
    (world : World (Fin workers)) : Decidable (InTime opts request choice world) :=
  match request with
  | .openCompletion batch => inferInstanceAs (Decidable (Punctual opts
      { world with clock := stepTime choice world } ∧
        stepTime choice world ≤ batchDeadline opts batch - lockRounding))
  | .openBatch _ | .claimRefundJobs _ _ | .batchErr _ | .openRequest _ | .startRefund _ _
  | .endRefund _ _ | .completeRefundJob _ _ _ _ | .leaveBatch _ | .deliver =>
    inferInstanceAs (Decidable (Punctual opts { world with clock := stepTime choice world } ∧ True))

local instance letters : CaseTable := GoText.asciiTable

/-- The refund takes until half a millisecond before the deadline of the batch and its
report another 15 seconds, while the other worker asks for jobs all the time. -/
def slowSteps : List (Fin 2 × Choice) :=
  [step 0 0, step 0 0, step 0 0, step 0 0, step 0 0, step 0 119999500, step 0 0, step 1 15000000,
    step 1 0, step 0 0, step 0 0]

theorem refund_lease_exclusive_slow :
    (sampleWorld 0 (slowSteps.take 9)).holds = [⟨0, ⟨0, 0⟩, 1⟩] ∧
      (sampleWorld 0 slowSteps).doubleClaims = [] ∧ (sampleWorld 0 slowSteps).doubleRefunds = [] :=
  ⟨by decide +kernel, refund_lease_exclusive sampleOptions 120 (by decide) rfl 0 sampleDB
    (by decide) (fun _ => .worker 1) slowSteps (by decide +kernel)⟩

/-- The refund takes until the deadline, and there is a pause before its report. -/
def lastSteps (pause : Nat) : List (Fin 2 × Choice) :=
  [step 0 0, step 0 0, step 0 0, step 0 0, step 0 0, step 0 120000000, step 0 pause]

def pausedSteps : List (Fin 2 × Choice) :=
  lastSteps 1000 ++ [step 1 15000000, step 1 0]

theorem paused_worker_loses_lease :
    Along (move (exec sampleOptions)) (Admitted fun _ => CallsInTime sampleOptions) (sampleStart 0)
        (pausedSteps ++ [step 0 0]) ∧
      (sampleWorld 0 pausedSteps).holds = [⟨0, ⟨0, 0⟩, 1⟩, ⟨1, ⟨1, 135001000000⟩, 1⟩] ∧
      (sampleWorld 0 pausedSteps).doubleClaims = [1] := by
  decide +kernel

-- Without a pause: a batch that starts 0.4 milliseconds after a full one gets a lock
-- that is older by as much.
example :
    Along (move (exec sampleOptions)) (Admitted fun _ => CallsInTime sampleOptions)
        (sampleStart 400000) (lastSteps 0 ++ [step 1 14999900, step 1 0, step 0 0]) ∧
      (sampleWorld 400000 (lastSteps 0 ++ [step 1 14999900, step 1 0])).doubleClaims = [1] := by
  decide +kernel

end Pause

end Run

end Goshop.Refund.Exclusive
