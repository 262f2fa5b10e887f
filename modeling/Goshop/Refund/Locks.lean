import Goshop.Lib.Lease
import Goshop.Order.PaymentSteps
import Goshop.Refund.Worker

/-! The lock of a refund job as a lease. The holder of a job is the worker that
claimed it, and a call of that worker that may still take effect; every call keeps
the locks above what their holders may do, as long as no worker is still in its
batch when the locks of the batch may expire. The column of the lock rounds, so a
lock may be half a millisecond older than its claim. -/
namespace Goshop.Refund.Locks

open Goshop.Errors Goshop.Lib Goshop.Lib.Transaction Goshop.Lib.Process Goshop.Lib.Run
open Goshop.Order.Model Goshop.Order.Payment Goshop.Order.PaymentSteps Goshop.Refund.Worker
open Goshop.Lib.GoText (CaseTable)

section Rows

variable {rows rows' : List RefundOutboxDO} {job : Int}

/-- When the job was locked, in nanoseconds, if it is being processed. -/
def lockOf (rows : List RefundOutboxDO) (job : Int) : Option Int :=
  (rows.find? (·.id = job)).bind fun row =>
    if row.status = .processing then row.lockedAt.map (· * 1000000) else none

theorem lockOf_of_mem (hkeys : (rows.map (·.id)).Nodup) {row : RefundOutboxDO}
    (hrow : row ∈ rows) :
    lockOf rows row.id =
      if row.status = .processing then row.lockedAt.map (· * 1000000) else none := by
  have hfind : rows.find? (·.id = row.id) = some row := by
    cases hfound : rows.find? (·.id = row.id) with
    | none => simpa using List.find?_eq_none.mp hfound row hrow
    | some other =>
      have hid : other.id = row.id := by simpa using List.find?_some hfound
      rw [List.inj_on_of_nodup_map hkeys (List.mem_of_find?_eq_some hfound) hrow hid]
  rw [lockOf, hfind, Option.bind_some]

theorem lockOf_eq (hkeys : (rows.map (·.id)).Nodup) (hsame : rows'.map (·.id) = rows.map (·.id))
    (hkept : ∀ row ∈ rows, row.id = job → row ∈ rows') : lockOf rows' job = lockOf rows job := by
  by_cases hjob : job ∈ rows.map (·.id)
  · obtain ⟨row, hrow, rfl⟩ := List.mem_map.mp hjob
    rw [lockOf_of_mem hkeys hrow, lockOf_of_mem (hsame ▸ hkeys) (hkept row hrow rfl)]
  · have habsent (table : List RefundOutboxDO) (htable : table.map (·.id) = rows.map (·.id)) :
        lockOf table job = none := by
      have hnone : table.find? (·.id = job) = none := by
        rw [List.find?_eq_none]
        intro row hrow hid
        have hmem : row.id ∈ rows.map (·.id) := htable ▸ List.mem_map_of_mem hrow
        exact hjob (of_decide_eq_true hid ▸ hmem)
      rw [lockOf, hnone, Option.bind_none]
    rw [habsent rows' hsame, habsent rows rfl]

/-- What a claim at `now` does to the locks. -/
structure Relocked (maxAttempts lockTimeout now : Int) (jobs : List Int)
    (rows rows' : List RefundOutboxDO) : Prop where
  keys : rows'.map (·.id) = rows.map (·.id)
  due : ∀ job ∈ jobs, ∃ row ∈ rows, row.id = job ∧
    claimable maxAttempts lockTimeout now row = true
  locked : ∀ job ∈ jobs, lockOf rows' job = some (Sql.datetime3 now * 1000000)
  others : ∀ job, job ∉ jobs → lockOf rows' job = lockOf rows job
  distinct : jobs.Nodup

theorem claimUnlocked_ok {locked : List Int} {limit maxAttempts lockTimeout now : Int}
    {db db' : OrderDB} {jobs : List RefundJob} (hkeys : (db.outbox.map (·.id)).Nodup)
    (h : claimUnlocked locked limit maxAttempts lockTimeout now db = .ok (jobs, db')) :
    Relocked maxAttempts lockTimeout now (jobs.map (·.outboxID)) db.outbox db'.outbox := by
  rw [claimUnlocked, Txn.read_bind] at h
  obtain ⟨outbox, rfl, hids, hclaimed⟩ := claimJobs_ok h
  have hdue : ∀ row ∈ (db.outbox.filter fun job =>
      claimable maxAttempts lockTimeout now job && job.id ∉ locked).take limit.toNat,
      row ∈ db.outbox ∧ claimable maxAttempts lockTimeout now row = true := by
    intro row hrow
    have hfiltered := List.mem_filter.mp (List.mem_of_mem_take hrow)
    exact ⟨hfiltered.1, (Bool.and_eq_true_iff.mp hfiltered.2).1⟩
  rw [hids]
  refine ⟨hclaimed.keys, ?_, ?_, ?_, ?_⟩
  · intro job hjob
    obtain ⟨row, hrow, rfl⟩ := List.mem_map.mp hjob
    exact ⟨row, (hdue row hrow).1, rfl, (hdue row hrow).2⟩
  · intro job hjob
    obtain ⟨due, hdueMem, rfl⟩ := List.mem_map.mp hjob
    obtain ⟨row, hrow, hid, hstatus, hlock⟩ :=
      hclaimed.locked due.id hjob (List.mem_map_of_mem (hdue due hdueMem).1)
    rw [← hid, lockOf_of_mem (hclaimed.keys ▸ hkeys) hrow, if_pos hstatus, hlock, Option.map_some]
  · intro job hjob
    exact lockOf_eq hkeys hclaimed.keys fun row hrow hid => hclaimed.others row hrow (hid ▸ hjob)
  · exact hkeys.sublist
      ((((List.take_sublist _ _).trans List.filter_sublist)).map _)

/-- The claim of a job finds it unlocked, or locked for too long. -/
theorem free_of_claimable (hkeys : (rows.map (·.id)).Nodup) {row : RefundOutboxDO}
    (hrow : row ∈ rows) {maxAttempts lockTimeout now since : Int}
    (h : claimable maxAttempts lockTimeout now row = true) (hsince : since ∈ lockOf rows row.id) :
    since + lockTimeout < now := by
  rw [lockOf_of_mem hkeys hrow] at hsince
  simp only [claimable, decide_eq_true_eq] at h
  rcases h with ⟨-, -, hopen | hopen⟩ | ⟨hstatus, hlock⟩
  · simp [hopen] at hsince
  · simp [hopen] at hsince
  · rw [if_pos hstatus] at hsince
    obtain ⟨millis, hmillis, rfl⟩ := Option.map_eq_some_iff.mp hsince
    rw [hmillis, Option.any_some, decide_eq_true_eq] at hlock
    have := Sql.lt_of_lt_datetime6 hlock
    omega

theorem completeRefundJob_locks [CaseTable] {db : OrderDB} (hkeys : (db.outbox.map (·.id)).Nodup)
    (id : Int) (result : RefundResult) (maxAttempts now : Int) :
    ((completeRefundJob id result maxAttempts now db).2.outbox.map (·.id) =
        db.outbox.map (·.id)) ∧
      ∀ job, job ≠ id → lockOf (completeRefundJob id result maxAttempts now db).2.outbox job =
        lockOf db.outbox job := by
  unfold completeRefundJob
  rcases Txn.commit_cases (completeRefundBody id (normalizeResult result)
    (positiveOr maxAttempts 8) now) db with ⟨value, db', hrun, hcommit⟩ | ⟨err, -, hcommit⟩
  · obtain ⟨row, detail, orders, logs, outbox, hrow, -, hkept, rfl⟩ := completeRefundBody_ok hrun
    rw [hcommit]
    have hid : row.id = id := (by simpa using List.find?_some hrow : row.id = id ∧ _).1
    refine ⟨hkept.keys, fun job hjob => lockOf_eq hkeys hkept.keys fun other hother hotherID => ?_⟩
    exact hkept.others other hother (by rw [hotherID, hid]; exact hjob)
  · rw [hcommit]
    exact ⟨rfl, fun _ _ => rfl⟩

end Rows

section Worlds

variable {ι : Type} (opts : PaymentOptions)

/-- What the column of a lock may lose of the time of the claim. -/
def lockRounding : Int := 500000

/-- When the locks of a batch may expire. -/
def lockExpiry (batch : Batch) : Int :=
  batch.started + refundJobLockTimeout opts - lockRounding

def holdStake (hold : Hold ι) : Stake Int :=
  ⟨hold.job, lockExpiry opts hold.batch⟩

def lateStake : Late ι → Option (Stake Int)
  | .claim _ _ => none
  | .complete job _ started => some ⟨job, completionDeadline started⟩

def lease (world : World ι) : Lease Int where
  clock := world.clock
  lock := lockOf world.db.outbox
  stakes := world.holds.map (holdStake opts) ++ world.late.filterMap lateStake

structure Leased (world : World ι) : Prop where
  sound : (lease opts world).Sound (refundJobLockTimeout opts)
  keys : (world.db.outbox.map (·.id)).Nodup
  started : ∀ worker, ∀ batch ∈ world.batches worker, batch.started ≤ world.clock
  inBatch : ∀ hold ∈ world.holds, world.batches hold.worker = some hold.batch
  calling : ∀ call ∈ world.refunding, ∃ hold ∈ world.holds,
    hold.worker = call.1 ∧ hold.job = call.2
  claims : world.doubleClaims = []
  refunds : world.doubleRefunds = []

/-- Nobody is still in a batch when the locks of the batch may expire. -/
def Punctual (world : World ι) : Prop :=
  ∀ worker, ∀ batch ∈ world.batches worker, world.clock ≤ lockExpiry opts batch

variable {opts} {world : World ι}

theorem Leased.pass (h : Leased opts world) {now : Int} (hclock : world.clock ≤ now) :
    Leased opts { world with clock := now } :=
  ⟨h.sound.pass hclock, h.keys, fun worker batch hbatch => (h.started worker batch hbatch).trans
    hclock, h.inBatch, h.calling, h.claims, h.refunds⟩

theorem Leased.later (h : Leased opts world) (choice : Choice) :
    Leased opts { world with clock := stepTime choice world } :=
  h.pass (Int.le_add_of_nonneg_right (Int.natCast_nonneg _))

section Stakes

variable (h : Leased opts world) (hpunctual : Punctual opts world) {hold : Hold ι}
  (hhold : hold ∈ world.holds)

include h hpunctual hhold

theorem Leased.hold_live : (lease opts world).Live (holdStake opts hold) :=
  hpunctual hold.worker hold.batch (h.inBatch hold hhold)

theorem Leased.hold_unique {other : Hold ι} (hother : other ∈ world.holds)
    (hjob : other.job = hold.job) : other = hold := by
  by_contra hne
  have hpairs := List.pairwise_map.mp (List.pairwise_append.mp h.sound.unique).1
  have hsymm : Std.Symm fun first second : Hold ι =>
      (lease opts world).Live (holdStake opts first) →
        (lease opts world).Live (holdStake opts second) →
          (holdStake opts first).key ≠ (holdStake opts second).key :=
    ⟨fun _ _ hdistinct hlive hlive' => (hdistinct hlive' hlive).symm⟩
  exact hpairs.forall hother hhold hne (h.hold_live hpunctual hother) (h.hold_live hpunctual hhold)
    hjob

theorem Leased.late_other {stake : Stake Int} (hstake : stake ∈ world.late.filterMap lateStake)
    (hlive : (lease opts world).Live stake) : stake.key ≠ hold.job := by
  have hcross := (List.pairwise_append.mp h.sound.unique).2.2
  exact (hcross _ (List.mem_map_of_mem hhold) stake hstake (h.hold_live hpunctual hhold) hlive).symm

end Stakes

section Locks

theorem Leased.relock (h : Leased opts world) {db : OrderDB}
    (hkeys : db.outbox.map (·.id) = world.db.outbox.map (·.id))
    (hsame : ∀ stake ∈ (lease opts world).stakes, (lease opts world).Live stake →
      lockOf db.outbox stake.key = lockOf world.db.outbox stake.key) :
    Leased opts { world with db := db } :=
  ⟨h.sound.relock hsame, hkeys ▸ h.keys, h.started, h.inBatch, h.calling, h.claims, h.refunds⟩

theorem Leased.complete [CaseTable] (h : Leased opts world) {job : Int}
    (hfree : ∀ stake ∈ (lease opts world).stakes, (lease opts world).Live stake →
      stake.key ≠ job) (result : RefundResult) (started : Int) (choice : Choice) :
    Leased opts (Worker.complete opts job result started choice world).2 := by
  obtain ⟨hkeys, hothers⟩ := completeRefundJob_locks h.keys job result opts.maxAttempts
    (Sql.datetime3 (serverTime choice started world.clock))
  exact h.relock hkeys fun stake hstake hlive => hothers stake.key (hfree stake hstake hlive)

/-- The lock timeout that the server is told is that of the worker. -/
def Whole (opts : PaymentOptions) : Prop :=
  lockTimeout opts = refundJobLockTimeout opts

theorem Leased.claimed_free (hwhole : Whole opts) (h : Leased opts world)
    {maxAttempts now : Int} {jobs : List Int} {rows : List RefundOutboxDO}
    (hnow : now ≤ world.clock)
    (hclaim : Relocked maxAttempts (lockTimeout opts) now jobs
      world.db.outbox rows) {stake : Stake Int} (hstake : stake ∈ (lease opts world).stakes)
    (hlive : (lease opts world).Live stake) : stake.key ∉ jobs := by
  intro hjob
  refine h.sound.not_free hstake hlive fun since hsince => ?_
  obtain ⟨row, hrow, hid, hclaimable⟩ := hclaim.due stake.key hjob
  have hold := free_of_claimable h.keys hrow hclaimable (hid ▸ hsince)
  rw [hwhole] at hold
  exact hold.trans_le hnow

theorem Leased.give [DecidableEq ι] (hwhole : Whole opts) (h : Leased opts world)
    (hpunctual : Punctual opts world) {worker : ι} {batch : Batch} {maxAttempts now : Int}
    {jobs : List Int} {db : OrderDB} (hnow : now ≤ world.clock)
    (hstarted : world.batches worker = some batch → batch.started ≤ now)
    (hclaim : Relocked maxAttempts (lockTimeout opts) now jobs
      world.db.outbox db.outbox) :
    Leased opts (giveJobs worker batch jobs { world with db := db }) := by
  have hfree {stake : Stake Int} (hstake : stake ∈ (lease opts world).stakes)
      (hlive : (lease opts world).Live stake) : stake.key ∉ jobs :=
    h.claimed_free hwhole hnow hclaim hstake hlive
  have hnone : jobs.filter (isHeld world.holds) = [] := by
    rw [List.filter_eq_nil_iff]
    intro job hjob hheld
    obtain ⟨hold, hhold, rfl⟩ := by simpa [isHeld] using hheld
    exact hfree (List.mem_append_left _ (List.mem_map_of_mem hhold)) (h.hold_live hpunctual hhold)
      hjob
  have hclaims : world.doubleClaims ++ jobs.filter (isHeld world.holds) = [] := by
    rw [hnone, h.claims, List.append_nil]
  have hrelocked : Leased opts { world with db := db } :=
    h.relock hclaim.keys fun stake hstake hlive => hclaim.others _ (hfree hstake hlive)
  by_cases hbatch : world.batches worker = some batch
  · have hperm : ((world.holds ++ jobs.map (Hold.mk worker batch)).map (holdStake opts) ++
        world.late.filterMap lateStake).Perm
          (jobs.map (holdStake opts ∘ Hold.mk worker batch) ++ (lease opts world).stakes) := by
      rw [List.map_append, List.map_map, lease, ← List.append_assoc]
      exact List.perm_append_comm.append_right _
    have hsound := hrelocked.sound.add hperm ?_ ?_ ?_
    · simp only [giveJobs, if_pos hbatch]
      refine ⟨hsound, hrelocked.keys, h.started, ?_, ?_, hclaims, h.refunds⟩
      · intro hold hhold
        rcases List.mem_append.mp hhold with hold' | hnew
        · exact h.inBatch hold hold'
        · obtain ⟨job, -, rfl⟩ := List.mem_map.mp hnew
          exact hbatch
      · intro call hcall
        obtain ⟨hold, hhold, hof⟩ := h.calling call hcall
        exact ⟨hold, List.mem_append_left _ hhold, hof⟩
    · intro stake hstake
      obtain ⟨job, hjob, rfl⟩ := List.mem_map.mp hstake
      refine ⟨_, hclaim.locked job hjob, ?_⟩
      have hrounded := Sql.sub_le_datetime3 now
      have hentered := hstarted hbatch
      simp only [holdStake, lockExpiry, lockRounding, Function.comp_apply]
      omega
    · intro stake hstake other hother hlive hkey
      obtain ⟨job, hjob, rfl⟩ := List.mem_map.mp hstake
      exact hfree hother hlive (hkey ▸ hjob)
    · exact List.pairwise_map.mpr hclaim.distinct
  · simp only [giveJobs, if_neg hbatch]
    exact ⟨hrelocked.sound, hrelocked.keys, h.started, h.inBatch, h.calling, hclaims, h.refunds⟩

theorem claim_cases [DecidableEq ι] (hkeys : (world.db.outbox.map (·.id)).Nodup) (worker : ι)
    (batch : Batch) (choice : Choice) :
    (∃ jobs db, Worker.claim opts worker batch choice world =
        (.ok jobs, giveJobs worker batch (jobs.map (·.outboxID)) { world with db := db }) ∧
      Relocked (positiveOr opts.maxAttempts 8) (lockTimeout opts)
        (serverTime choice batch.started world.clock) (jobs.map (·.outboxID)) world.db.outbox
        db.outbox) ∨
      ∃ err, Worker.claim opts worker batch choice world = (.error err, world) := by
  rcases Txn.commit_cases (claimUnlocked choice.locked (positiveOr opts.workerBatchSize 20)
    (positiveOr opts.maxAttempts 8) (lockTimeout opts)
    (serverTime choice batch.started world.clock)) world.db with
    ⟨jobs, db, hclaim, hcommit⟩ | ⟨err, -, hcommit⟩
  · left
    refine ⟨jobs, db, ?_, claimUnlocked_ok hkeys hclaim⟩
    simp only [Worker.claim, claimFor, hcommit]
  · right
    refine ⟨err, ?_⟩
    simp only [Worker.claim, claimFor, hcommit]

theorem Leased.claim [DecidableEq ι] (hwhole : Whole opts) (h : Leased opts world)
    (hpunctual : Punctual opts world) (worker : ι) (batch : Batch) (choice : Choice) :
    Leased opts (Worker.claim opts worker batch choice world).2 := by
  rcases claim_cases h.keys worker batch choice with ⟨jobs, db, hclaim, hrelocked⟩ | ⟨err, hclaim⟩
  · rw [hclaim]
    refine h.give hwhole hpunctual (min_le_left _ _) (fun hbatch => ?_) hrelocked
    exact le_min (h.started worker batch hbatch) (le_max_left _ _)
  · rw [hclaim]
    exact h

end Locks

section Reports

variable [DecidableEq ι]

theorem Leased.dropJob (h : Leased opts world) {worker : ι} {job : Int}
    (hquiet : ∀ call ∈ world.refunding, call.1 ≠ worker) :
    Leased opts (Worker.dropJob worker job world) := by
  refine ⟨h.sound.drop ?_, h.keys, h.started, ?_, ?_, h.claims, h.refunds⟩
  · exact (List.filter_sublist.map _).append_right _
  · intro hold hhold
    exact h.inBatch hold (List.mem_filter.mp hhold).1
  · intro call hcall
    obtain ⟨hold, hhold, hworker, hjob⟩ := h.calling call hcall
    refine ⟨hold, List.mem_filter.mpr ⟨hhold, ?_⟩, hworker, hjob⟩
    simp [hworker, hquiet call hcall]

theorem Leased.dropped_free (h : Leased opts world) (hpunctual : Punctual opts world)
    {hold : Hold ι} (hhold : hold ∈ world.holds) {stake : Stake Int}
    (hstake : stake ∈ (lease opts (Worker.dropJob hold.worker hold.job world)).stakes)
    (hlive : (lease opts world).Live stake) : stake.key ≠ hold.job := by
  rcases List.mem_append.mp hstake with hheld | hlate
  · obtain ⟨other, hother, rfl⟩ := List.mem_map.mp hheld
    obtain ⟨hmem, hne⟩ := List.mem_filter.mp hother
    intro hjob
    have hsame := h.hold_unique hpunctual hhold hmem hjob
    simp [hsame] at hne
  · exact h.late_other hpunctual hhold hlate hlive

omit [DecidableEq ι] in
theorem Leased.addClaim (h : Leased opts world) (worker : ι) (batch : Batch) :
    Leased opts (Worker.addLate (.claim worker batch) world) := by
  have hsame : (world.late ++ [Late.claim worker batch]).filterMap lateStake =
      world.late.filterMap lateStake := by
    simp [lateStake]
  refine ⟨h.sound.drop ?_, h.keys, h.started, h.inBatch, h.calling, h.claims, h.refunds⟩
  exact hsame ▸ List.Sublist.refl _

omit [DecidableEq ι] in
theorem Leased.addLate (h : Leased opts world) {job started : Int} (result : RefundResult)
    (hcovered : (lease opts world).Covered (refundJobLockTimeout opts)
      ⟨job, completionDeadline started⟩)
    (hfree : ∀ stake ∈ (lease opts world).stakes, (lease opts world).Live stake →
      stake.key ≠ job) :
    Leased opts (Worker.addLate (.complete job result started) world) := by
  have hperm : (world.holds.map (holdStake opts) ++
      (world.late ++ [Late.complete job result started]).filterMap lateStake).Perm
        ([⟨job, completionDeadline started⟩] ++ (lease opts world).stakes) := by
    rw [List.filterMap_append, ← List.append_assoc]
    exact List.perm_append_comm
  refine ⟨h.sound.add hperm ?_ ?_ (List.pairwise_singleton _ _), h.keys, h.started, h.inBatch,
    h.calling, h.claims, h.refunds⟩
  · simpa using hcovered
  · simpa using hfree

theorem Leased.report [CaseTable] (h : Leased opts world) (hpunctual : Punctual opts world)
    {hold : Hold ι}
    (hhold : hold ∈ world.holds) (hquiet : ∀ call ∈ world.refunding, call.1 ≠ hold.worker)
    {started : Int} (hstarted : started ≤ batchDeadline opts hold.batch - lockRounding)
    (result : RefundResult)
    (choice : Choice) :
    Leased opts
      (serve opts (.completeRefundJob hold.worker hold.job result started) choice world).2 := by
  have hdropped : Leased opts (Worker.dropJob hold.worker hold.job world) := h.dropJob hquiet
  have hfree (stake : Stake Int)
      (hstake : stake ∈ (lease opts (Worker.dropJob hold.worker hold.job world)).stakes) :
      (lease opts world).Live stake → stake.key ≠ hold.job :=
    h.dropped_free hpunctual hhold hstake
  have hdone := hdropped.complete hfree result started choice
  simp only [serve]
  cases choice.fate with
  | ok => exact hdone
  | failBefore => exact hdropped
  | failAfter => exact hdone
  | failLater =>
    refine hdropped.addLate result ?_ hfree
    obtain ⟨since, hsince, hcovered⟩ := h.sound.covered (holdStake opts hold)
      (List.mem_append_left _ (List.mem_map_of_mem hhold)) (h.hold_live hpunctual hhold)
    refine ⟨since, hsince, ?_⟩
    simp only [holdStake, lockExpiry, refundJobLockTimeout, batchDeadline, completionDeadline] at *
    omega

omit [DecidableEq ι] in
theorem late_perm {index : Nat} {message : Late ι} (hmessage : world.late[index]? = some message) :
    world.late.Perm (message :: world.late.eraseIdx index) := by
  obtain ⟨hindex, rfl⟩ := List.getElem?_eq_some_iff.mp hmessage
  exact (List.getElem_cons_eraseIdx_perm hindex).symm

theorem Leased.deliver [CaseTable] (hwhole : Whole opts) (h : Leased opts world)
    (hpunctual : Punctual opts world) (choice : Choice) :
    Leased opts (Worker.deliver opts choice world) := by
  unfold Worker.deliver
  cases hmessage : world.late[choice.index]? with
  | none => exact h
  | some message =>
    have hrest : Leased opts { world with late := world.late.eraseIdx choice.index } :=
      ⟨h.sound.drop (((List.eraseIdx_sublist _ _).filterMap _).append_left _), h.keys, h.started,
        h.inBatch, h.calling, h.claims, h.refunds⟩
    cases message with
    | claim worker batch =>
      simp only [applyLate]
      split
      · exact hrest.claim hwhole hpunctual worker batch choice
      · exact hrest
    | complete job result started =>
      simp only [applyLate]
      split
      · rename_i hlive
        have hperm : (lease opts world).stakes.Perm
            (⟨job, completionDeadline started⟩ :: (world.holds.map (holdStake opts) ++
              (world.late.eraseIdx choice.index).filterMap lateStake)) :=
          (((late_perm hmessage).filterMap lateStake).append_left _).trans List.perm_middle
        exact hrest.complete (h.sound.others hperm hlive) result started choice
      · exact hrest

end Reports

section Batches

variable [DecidableEq ι] {worker : ι}

theorem openBatch_batches [CaseTable] (choice : Choice) :
    (serve opts (.openBatch worker) choice world).2.batches =
      Function.update world.batches worker (some ⟨world.batchCount, world.clock⟩) := rfl

theorem leaveBatch_batches [CaseTable] (choice : Choice) :
    (serve opts (.leaveBatch worker) choice world).2.batches =
      Function.update world.batches worker none := rfl

theorem Leased.openBatch [CaseTable] (h : Leased opts world) (hidle : world.batches worker = none)
    (choice : Choice) : Leased opts (serve opts (.openBatch worker) choice world).2 := by
  refine ⟨h.sound, h.keys, ?_, ?_, h.calling, h.claims, h.refunds⟩
  · intro other batch hbatch
    by_cases hother : other = worker
    · subst hother
      rw [openBatch_batches, Function.update_self, Option.mem_some_iff] at hbatch
      subst hbatch
      exact le_rfl
    · rw [openBatch_batches, Function.update_of_ne hother] at hbatch
      exact h.started other batch hbatch
  · intro hold hhold
    have hbatch := h.inBatch hold hhold
    have hother : hold.worker ≠ worker := by
      intro hworker
      rw [hworker, hidle] at hbatch
      cases hbatch
    rw [openBatch_batches, Function.update_of_ne hother]
    exact hbatch

theorem Leased.leaveBatch [CaseTable] (h : Leased opts world)
    (hquiet : ∀ call ∈ world.refunding, call.1 ≠ worker) (choice : Choice) :
    Leased opts (serve opts (.leaveBatch worker) choice world).2 := by
  refine ⟨h.sound.drop ?_, h.keys, ?_, ?_, ?_, h.claims, h.refunds⟩
  · exact (List.filter_sublist.map _).append_right _
  · intro other batch hbatch
    by_cases hother : other = worker
    · subst hother
      rw [leaveBatch_batches, Function.update_self] at hbatch
      cases hbatch
    · rw [leaveBatch_batches, Function.update_of_ne hother] at hbatch
      exact h.started other batch hbatch
  · intro hold hhold
    obtain ⟨hmem, hother⟩ := List.mem_filter.mp hhold
    rw [leaveBatch_batches, Function.update_of_ne (of_decide_eq_true hother)]
    exact h.inBatch hold hmem
  · intro call hcall
    obtain ⟨hold, hhold, hworker, hjob⟩ := h.calling call hcall
    refine ⟨hold, List.mem_filter.mpr ⟨hhold, ?_⟩, hworker, hjob⟩
    simpa [hworker] using hquiet call hcall

omit [DecidableEq ι] in
/-- The holder of a job is the only one to ask for its refund. -/
theorem Leased.startRefund (h : Leased opts world) (hpunctual : Punctual opts world)
    {hold : Hold ι} (hhold : hold ∈ world.holds)
    (hquiet : ∀ call ∈ world.refunding, call.1 ≠ hold.worker) :
    Leased opts (Worker.startRefund hold.worker hold.job world) := by
  have hnone : world.refunding.any (·.2 = hold.job) = false := by
    rw [List.any_eq_false]
    intro call hcall hjob
    obtain ⟨other, hother, hworker, hsame⟩ := h.calling call hcall
    have hunique := h.hold_unique hpunctual hhold hother (hsame.trans (of_decide_eq_true hjob))
    exact hquiet call hcall (by rw [← hworker, hunique])
  refine ⟨h.sound, h.keys, h.started, h.inBatch, ?_, h.claims, ?_⟩
  · intro call hcall
    rcases List.mem_append.mp hcall with hbefore | hnew
    · exact h.calling call hbefore
    · obtain rfl := List.mem_singleton.mp hnew
      exact ⟨hold, hhold, rfl, rfl⟩
  · simp [Worker.startRefund, hnone, h.refunds]

theorem Leased.endRefund [CaseTable] (h : Leased opts world) (deadline : Int) (choice : Choice) :
    Leased opts (serve opts (.endRefund worker deadline) choice world).2 :=
  ⟨h.sound, h.keys, h.started, h.inBatch, fun call hcall =>
    h.calling call (List.mem_filter.mp hcall).1, h.claims, h.refunds⟩

end Batches

end Worlds

end Goshop.Refund.Locks
