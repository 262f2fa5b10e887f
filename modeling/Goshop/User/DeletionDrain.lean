import Goshop.User.DeletionDelivery

/-! Deletion events that wait are published. The longest delay of an event is an
hour, so a worker that is left alone from then on finds every event due, and each
of its sweeps publishes one batch of them. -/
namespace Goshop.User.DeletionDrain

open Goshop.Errors Goshop.Lib Goshop.Lib.GoText Goshop.Lib.Transaction Goshop.Lib.Process
open Goshop.Lib.Run Goshop.User.Accounts Goshop.User.DeletionOutbox Goshop.User.DeletionDelivery

/-- The call is made, nobody has ended the sweep, and no row is locked. -/
structure Calm (choice : Choice) : Prop where
  made : choice.outcome = .ok
  going : choice.cancelled = false
  unlocked : choice.locked = []

variable {choice : Choice} {world base : World} {cfg : AccountDeletionOutboxConfig}
  {event : AccountDeletionOutboxEventDO} {horizon : Int} {ids : List String}

theorem remote_calm {α : Type} (hcalm : Calm choice)
    (operation : World → Except AppError α × World) :
    serve.remote choice operation world = operation world := by
  rw [serve.remote, hcalm.made, call_okay]

section Calls

variable (hcalm : Calm choice)

include hcalm

theorem exec_ctxErr_calm : exec .ctxErr choice world = (false, world.tick choice.elapsed) := by
  simp [exec, serve, World.tick, hcalm.going]

theorem exec_connect_calm {url : String} (hurl : trimSpace url ≠ "") :
    exec (.connect url) choice world = (.ok (), world.tick choice.elapsed) := by
  simp [exec, serve, remote_calm hcalm, connect, hurl, World.tick]

theorem exec_requeue_calm (before : Int) :
    exec (.requeueStale before) choice world = (.ok (), { world.tick choice.elapsed with
      tables := requeueStaleDeletionEvents before world.tables }) := by
  simp [exec, serve, remote_calm hcalm, onTables, World.tick]

theorem exec_claim_calm (limit now : Int) :
    exec (.claimPending limit now) choice world =
      (.ok (claimedEvents limit now [] world.tables), { world.tick choice.elapsed with
        tables := (claimPendingDeletionEvents limit now [] world.tables).2 }) := by
  simp [exec, serve, remote_calm hcalm, onTables, World.tick, hcalm.unlocked,
    claimPendingDeletionEvents]

theorem exec_publish_calm (hvalid : (busEvent event).validate = .ok ()) :
    exec (.publish (busEvent event)) choice world = (.ok (),
      { world.tick choice.elapsed with bus := world.bus ++ [messageOf event] }) := by
  simp [exec, serve, remote_calm hcalm, publish, hvalid, World.tick, messageOf]

theorem exec_markPublished_calm {eventID : String} (hnamed : trimSpace eventID ≠ "")
    (time : Int) :
    exec (.markPublished eventID time) choice world = (.ok (), { world.tick choice.elapsed with
      tables := (markDeletionEventPublished eventID time world.tables).2 }) := by
  simp [exec, serve, remote_calm hcalm, onTables, World.tick, markDeletionEventPublished,
    updateEvent, hnamed]

end Calls

section Rows

def Waiting (horizon : Int) (ids : List String) (event : AccountDeletionOutboxEventDO) : Prop :=
  event.status = .published ∨
    (event.status = .pending ∧ event.availableAt ≤ horizon ∧ event.id ∉ ids) ∨
    (event.status = .processing ∧ event.id ∈ ids)

structure Draining (base : World) (horizon : Int) (ids : List String) (world : World) : Prop where
  progress : Progress base world
  clock : horizon ≤ world.clock
  waiting : ∀ event ∈ world.tables.outbox, Waiting horizon ids event

def pendings (world : World) : Nat :=
  world.tables.outbox.countP fun event => event.status = .pending

theorem Draining.tick (h : Draining base horizon ids world) (elapsed : Nat) :
    Draining base horizon ids (world.tick elapsed) := by
  have hstep := elapsed_progress h.progress.consistent elapsed
  exact ⟨h.progress.trans hstep, Int.le_trans h.clock hstep.clock, h.waiting⟩

theorem Draining.publish (h : Draining base horizon ids world) (hknown : Known event world) :
    Draining base horizon ids { world with bus := world.bus ++ [messageOf event] } :=
  ⟨h.progress.trans (sent_progress h.progress.consistent (busEvent event) hknown), h.clock,
    h.waiting⟩

theorem countP_updateEvents {counted counted' : AccountDeletionOutboxEventDO → Bool}
    {selected : AccountDeletionOutboxEventDO → Bool}
    {change : AccountDeletionOutboxEventDO → AccountDeletionOutboxEventDO} {tables : Tables}
    (h : ∀ event ∈ tables.outbox,
      counted (if selected event then change event else event) = counted' event) :
    (updateEvents selected change tables).outbox.countP counted =
      tables.outbox.countP counted' := by
  rw [updateEvents, List.countP_map]
  apply List.countP_congr
  intro event hevent
  rw [Function.comp_apply, h event hevent]

theorem Draining.mark (h : Draining base horizon (event.id :: ids) world)
    (hnamed : trimSpace event.id ≠ "") (hsent : Accepted event.id world) (time : Int) :
    Draining base horizon ids
      { world with tables := (markDeletionEventPublished event.id time world.tables).2 } ∧
    pendings { world with tables := (markDeletionEventPublished event.id time world.tables).2 } =
      pendings world := by
  have hstep := markPublished_progress h.progress.consistent time hsent
  simp only [markDeletionEventPublished, updateEvent, if_neg hnamed] at hstep ⊢
  refine ⟨⟨h.progress.trans hstep, h.clock, ?_⟩, countP_updateEvents ?_⟩
  · intro row hrow
    obtain ⟨before, hbefore, rfl⟩ := List.mem_map.mp hrow
    by_cases hid : before.id = event.id
    · rw [if_pos (decide_eq_true hid)]
      exact .inl rfl
    · rw [if_neg (by simpa using hid)]
      rcases h.waiting before hbefore with hdone | ⟨hpending, havailable, hother⟩ | ⟨hclaimed, hmem⟩
      · exact .inl hdone
      · exact .inr (.inl ⟨hpending, havailable, fun hmem => hother (List.mem_cons_of_mem _ hmem)⟩)
      · exact .inr (.inr ⟨hclaimed, (List.mem_cons.mp hmem).resolve_left hid⟩)
  · intro row hrow
    by_cases hid : row.id = event.id
    · have hnot : row.status ≠ .pending := by
        rcases h.waiting row hrow with hdone | ⟨-, -, hother⟩ | ⟨hclaimed, -⟩
        · simp [hdone]
        · exact absurd (List.mem_cons.mpr (.inl hid)) hother
        · simp [hclaimed]
      simp [hid, hnot]
    · simp [hid]

/-- Everything that is not published is due, or claimed for so long that it is
requeued. -/
structure Ripe (base : World) (horizon : Int) (world : World) : Prop where
  progress : Progress base world
  clock : horizon ≤ world.clock
  available : ∀ event ∈ world.tables.outbox, event.status ≠ .published →
    event.availableAt ≤ horizon
  stale : ∀ event ∈ world.tables.outbox, event.status = .processing →
    ∃ since ∈ event.lockedAt, since ≤ horizon - claimTimeout

def backlog (world : World) : Nat :=
  world.tables.outbox.countP fun event => event.status ≠ .published

theorem Ripe.tick (h : Ripe base horizon world) (elapsed : Nat) :
    Ripe base horizon (world.tick elapsed) := by
  have hstep := elapsed_progress h.progress.consistent elapsed
  exact ⟨h.progress.trans hstep, Int.le_trans h.clock hstep.clock, h.available, h.stale⟩

theorem Ripe.requeue (h : Ripe base horizon world) {now : Int} (hnow : horizon ≤ now) :
    Draining base horizon []
      { world with tables := requeueStaleDeletionEvents (now - claimTimeout) world.tables } ∧
    pendings { world with tables :=
      requeueStaleDeletionEvents (now - claimTimeout) world.tables } = backlog world := by
  have hstep := requeue_progress h.progress.consistent (now - claimTimeout)
  have hstale : ∀ event ∈ world.tables.outbox, isStale (now - claimTimeout) event =
      decide (event.status = .processing) := by
    intro event hevent
    by_cases hstatus : event.status = .processing
    · obtain ⟨since, hsince, hle⟩ := h.stale event hevent hstatus
      have hbefore : since ≤ now - claimTimeout := by omega
      simp [isStale, hstatus, Option.mem_def.mp hsince, hbefore]
    · simp [isStale, hstatus]
  refine ⟨⟨h.progress.trans hstep, h.clock, ?_⟩, countP_updateEvents ?_⟩
  · intro event hevent
    obtain ⟨before, hbefore, rfl⟩ := List.mem_map.mp hevent
    have havailable := h.available before hbefore
    rw [hstale before hbefore]
    cases hstatus : before.status with
    | pending =>
      exact .inr (.inl ⟨by simp [hstatus], by simpa using havailable (by simp [hstatus]), by simp⟩)
    | processing =>
      exact .inr (.inl ⟨by simp, by simpa using havailable (by simp [hstatus]), by simp⟩)
    | published => exact .inl (by simp [hstatus])
  · intro event hevent
    rw [hstale event hevent]
    cases hstatus : event.status <;> simp [hstatus]

theorem Draining.ripe (h : Draining base horizon [] world) : Ripe base horizon world where
  progress := h.progress
  clock := h.clock
  available := by
    intro event hevent hopen
    rcases h.waiting event hevent with hdone | ⟨-, havailable, -⟩ | ⟨-, hmem⟩
    · exact absurd hdone hopen
    · exact havailable
    · simp at hmem
  stale := by
    intro event hevent hclaimed
    rcases h.waiting event hevent with hdone | ⟨hpending, -⟩ | ⟨-, hmem⟩
    · simp [hdone] at hclaimed
    · simp [hpending] at hclaimed
    · simp at hmem

theorem Draining.backlog_eq (h : Draining base horizon [] world) :
    backlog world = pendings world := by
  apply List.countP_congr
  intro event hevent
  rcases h.waiting event hevent with hdone | ⟨hpending, -⟩ | ⟨-, hmem⟩
  · simp [hdone]
  · simp [hpending]
  · simp at hmem

theorem pendings_claim (h : Draining base horizon [] world) {limit now : Int} (hlimit : 0 < limit)
    (hnow : horizon ≤ now) :
    pendings { world with tables := (claimPendingDeletionEvents limit now [] world.tables).2 } ≤
      pendings world - limit.toNat := by
  let due := world.tables.outbox.filter fun event =>
    isDue now event && event.id ∉ ([] : List String)
  let sorted := due.insertionSort earlier
  let claimed := (sorted.take limit.toNat).map (·.id)
  have hevents : claimedEvents limit now [] world.tables = sorted.take limit.toNat := by
    simp only [claimedEvents, if_neg (Int.not_le.mpr hlimit)]
    rfl
  have hdue : ∀ event ∈ world.tables.outbox,
      isDue now event = decide (event.status = .pending) := by
    intro event hevent
    rcases h.waiting event hevent with hdone | ⟨hpending, havailable, -⟩ | ⟨-, hmem⟩
    · simp [isDue, hdone]
    · simp [isDue, hpending, Int.le_trans havailable hnow]
    · simp at hmem
  have hlength : sorted.length = pendings world := by
    rw [List.length_insertionSort, pendings, List.countP_eq_length_filter]
    congr 1
    apply List.filter_congr
    intro event hevent
    simp [hdue event hevent]
  calc pendings { world with tables := (claimPendingDeletionEvents limit now [] world.tables).2 }
      = world.tables.outbox.countP fun event =>
          event.id ∉ claimed && (isDue now event && event.id ∉ ([] : List String)) := by
        refine countP_updateEvents fun event hevent => ?_
        rw [hevents, hdue event hevent]
        by_cases hmem : event.id ∈ claimed <;> by_cases hpending : event.status = .pending <;>
          simp_all [claimed]
    _ = due.countP fun event => event.id ∉ claimed := (List.countP_filter).symm
    _ = sorted.countP fun event => event.id ∉ claimed :=
        (List.perm_insertionSort earlier due).symm.countP_eq _
    _ = (sorted.take limit.toNat).countP (fun event => event.id ∉ claimed) +
          (sorted.drop limit.toNat).countP fun event => event.id ∉ claimed := by
        rw [← List.countP_append, List.take_append_drop]
    _ ≤ 0 + (sorted.drop limit.toNat).length := by
        refine Nat.add_le_add (Nat.le_of_eq ?_) List.countP_le_length
        rw [List.countP_eq_zero]
        intro event hevent
        have hmem : event.id ∈ claimed := List.mem_map_of_mem hevent
        simpa using hmem
    _ = pendings world - limit.toNat := by
        rw [Nat.zero_add, List.length_drop, hlength]

/-- A claim takes a batch off the events that wait, or all of them. -/
theorem Draining.claim (h : Draining base horizon [] world) {limit now : Int} (hlimit : 0 < limit)
    (hnow : horizon ≤ now) (hclock : now ≤ world.clock) :
    Draining base horizon ((claimedEvents limit now [] world.tables).map (·.id))
      { world with tables := (claimPendingDeletionEvents limit now [] world.tables).2 } ∧
    pendings { world with tables := (claimPendingDeletionEvents limit now [] world.tables).2 } ≤
      pendings world - limit.toNat := by
  have hstep := claim_progress h.progress.consistent limit hclock []
  refine ⟨⟨h.progress.trans hstep, h.clock, ?_⟩, ?_⟩
  · intro event hevent
    obtain ⟨before, hbefore, rfl⟩ := List.mem_map.mp hevent
    rcases h.waiting before hbefore with hdone | ⟨hpending, havailable, -⟩ | ⟨-, hmem⟩
    · exact .inl (by simp [hdone])
    · by_cases hclaimed : before.id ∈ (claimedEvents limit now [] world.tables).map (·.id)
      · rw [if_pos (decide_eq_true ⟨hclaimed, hpending⟩)]
        exact .inr (.inr ⟨rfl, hclaimed⟩)
      · rw [if_neg (by simp [hclaimed])]
        exact .inr (.inl ⟨hpending, havailable, hclaimed⟩)
    · simp at hmem
  · exact pendings_claim h hlimit hnow

end Rows

section Sweep

theorem known_valid (h : Consistent world) (hknown : Known event world) :
    trimSpace event.id ≠ "" ∧ (busEvent event).validate = .ok () := by
  obtain ⟨row, hrow, hid, hmessage⟩ := holds_iff.mp hknown
  have hformed := h.formed row hrow
  have hnamed : trimSpace event.id ≠ "" := hid ▸ hformed.named
  have hsubject : event.eventType = subjectRequested :=
    (congrArg Message.subject hmessage).symm.trans hformed.subject
  have hspaces : trimSpace subjectRequested ≠ "" := by decide
  exact ⟨hnamed, by simp [Event.validate, busEvent, hnamed, hsubject, hspaces]⟩

structure Sending (base : World) (horizon : Int) (ids : List String) (start : World)
    (eventID : String) (world : World) : Prop where
  progress : Progress start world
  draining : Draining base horizon ids world
  pendings : pendings world = pendings start
  accepted : Accepted eventID world

theorem Sending.tick {start : World} {eventID : String}
    (h : Sending base horizon ids start eventID world) (elapsed : Nat) :
    Sending base horizon ids start eventID (world.tick elapsed) := by
  have hstep := elapsed_progress h.progress.consistent elapsed
  exact ⟨h.progress.trans hstep, h.draining.tick elapsed, h.pendings,
    accepted_kept _ _ _ hstep h.accepted⟩

theorem sending_of_publish (h : Draining base horizon ids world) (hknown : Known event world)
    (elapsed : Nat) :
    Sending base horizon ids world event.id
      { world.tick elapsed with bus := world.bus ++ [messageOf event] } := by
  have htick := elapsed_progress h.progress.consistent elapsed
  have hheld := htick.step.keeps _ _ hknown
  exact ⟨htick.trans (sent_progress htick.consistent (busEvent event) hheld),
    (h.tick elapsed).publish hheld, rfl, messageOf event, List.mem_append_right _ (by simp), rfl⟩

theorem publishEvent_drains (hknown : Known event world)
    (h : Draining base horizon (event.id :: ids) world) :
    Ensures exec Calm (fun result world' => result = .ok () ∧ Progress world world' ∧
      Draining base horizon ids world' ∧ pendings world' = pendings world)
      (publishEvent event) world := by
  obtain ⟨hnamed, hvalid⟩ := known_valid h.progress.consistent hknown
  refine .call (fun reply => fun world' => reply = .ok () ∧
    Sending base horizon (event.id :: ids) world event.id world') ?_ ?_
  · intro choice hcalm
    rw [exec_publish_calm hcalm hvalid]
    exact ⟨rfl, sending_of_publish h hknown choice.elapsed⟩
  rintro _ sent ⟨rfl, hsent⟩
  refine .call (fun _ => Sending base horizon (event.id :: ids) world event.id) ?_ ?_
  · intro choice _
    exact hsent.tick choice.elapsed
  intro time later hlater choice hcalm
  rw [exec_markPublished_calm hcalm hnamed]
  have hlast := hlater.tick choice.elapsed
  have hmarked := markPublished_progress hlast.progress.consistent time hlast.accepted
  obtain ⟨hdraining, hcount⟩ := hlast.draining.mark hnamed hlast.accepted time
  exact ⟨rfl, hlast.progress.trans hmarked, hdraining, hcount.trans hlast.pendings⟩

theorem processEvents_drains {events : List AccountDeletionOutboxEventDO}
    (hknown : ∀ event ∈ events, Known event world)
    (h : Draining base horizon (events.map (·.id)) world) :
    Ensures exec Calm (fun _ world' => Draining base horizon [] world' ∧
      pendings world' = pendings world) (processEvents cfg events) world := by
  induction events generalizing world with
  | nil => exact ⟨h, rfl⟩
  | cons event rest ih =>
    intro choice hcalm
    rw [exec_ctxErr_calm hcalm]
    have htick := elapsed_progress h.progress.consistent choice.elapsed
    have hevent := htick.step.keeps _ _ (hknown event List.mem_cons_self)
    refine ((publishEvent_drains hevent (h.tick choice.elapsed)).mono ?_).bind
    rintro result world' ⟨rfl, hstep, hdraining, hcount⟩
    have hrest : ∀ other ∈ rest, Known other world' := fun other hother =>
      (htick.trans hstep).step.keeps _ _ (hknown other (List.mem_cons_of_mem event hother))
    exact (ih hrest hdraining).mono fun _ _ hend => ⟨hend.1, hend.2.trans hcount⟩

theorem claim_drains (h : Draining base horizon [] world) (hbatch : 0 < cfg.batchSize) {now : Int}
    (hnow : horizon ≤ now) (hclock : now ≤ world.clock) {next : Program Unit} :
    Ensures exec Calm (fun _ world' => Draining base horizon [] world' ∧
        pendings world' ≤ pendings world - cfg.batchSize.toNat)
      (.call (.claimPending cfg.batchSize now) fun claimed =>
        match claimed with
        | .error _ => next
        | .ok events => processEvents cfg events) world := by
  intro choice hcalm
  rw [exec_claim_calm hcalm]
  have hticked := h.tick choice.elapsed
  have hlater : now ≤ (world.tick choice.elapsed).clock :=
    Int.le_trans hclock (elapsed_progress h.progress.consistent choice.elapsed).clock
  obtain ⟨hclaimed, hleft⟩ := hticked.claim hbatch hnow hlater
  have hstep := claim_progress hticked.progress.consistent cfg.batchSize hlater []
  have hknown : ∀ event ∈ claimedEvents cfg.batchSize now [] world.tables,
      Known event { world.tick choice.elapsed with
        tables := (claimPendingDeletionEvents cfg.batchSize now [] world.tables).2 } :=
    fun event hevent => hstep.step.keeps _ _ (known_of_mem (claimed_mem hevent))
  refine (processEvents_drains hknown hclaimed).mono ?_
  rintro _ world' ⟨hend, hcount⟩
  exact ⟨hend, hcount ▸ hleft⟩

theorem process_drains (h : Ripe base horizon world) (hurl : trimSpace cfg.natsURL ≠ "")
    (hbatch : 0 < cfg.batchSize) :
    Ensures exec Calm (fun _ world' => Ripe base horizon world' ∧
      backlog world' ≤ backlog world - cfg.batchSize.toNat) (DeletionOutbox.process cfg) world := by
  refine .call (fun now world' => Ripe base horizon world' ∧ backlog world' = backlog world ∧
    horizon ≤ now ∧ now ≤ world'.clock) ?_ ?_
  · intro choice _
    have hripe := h.tick choice.elapsed
    exact ⟨hripe, rfl, hripe.clock, Int.le_refl _⟩
  rintro now read ⟨hripe, hsame, hnow, hclock⟩
  refine .call (fun reply world' => reply = .ok () ∧ Draining base horizon [] world' ∧
    pendings world' = backlog world ∧ now ≤ world'.clock) ?_ ?_
  · intro choice hcalm
    rw [exec_requeue_calm hcalm]
    obtain ⟨hdraining, hcount⟩ := (hripe.tick choice.elapsed).requeue hnow
    have hlater := (elapsed_progress hripe.progress.consistent choice.elapsed).clock
    exact ⟨rfl, hdraining, hcount.trans hsame, Int.le_trans hclock hlater⟩
  rintro _ requeued ⟨rfl, hdraining, hcount, hclock'⟩ choice hcalm
  rw [exec_connect_calm hcalm hurl]
  have hlater := (elapsed_progress hdraining.progress.consistent choice.elapsed).clock
  refine (claim_drains (hdraining.tick choice.elapsed) hbatch hnow
    (Int.le_trans hclock' hlater)).mono ?_
  rintro _ world' ⟨hend, hleft⟩
  refine ⟨hend.ripe, ?_⟩
  rw [hend.backlog_eq, ← hcount]
  exact hleft

theorem sweeps_drain (h : Ripe base horizon world) (hurl : trimSpace cfg.natsURL ≠ "")
    (hbatch : 0 < cfg.batchSize) (ticks : Nat) :
    Ensures exec Calm (fun _ world' => Ripe base horizon world' ∧
      backlog world' ≤ backlog world - ticks * cfg.batchSize.toNat) (sweeps cfg ticks) world := by
  induction ticks generalizing world with
  | zero => exact ⟨h, by omega⟩
  | succ ticks ih =>
    refine ((process_drains h hurl hbatch).mono ?_).bind
    rintro _ swept ⟨hripe, hleft⟩ choice hcalm
    rw [exec_ctxErr_calm hcalm]
    refine (ih (hripe.tick choice.elapsed)).mono ?_
    rintro _ world' ⟨hend, hcount⟩
    refine ⟨hend, Nat.le_trans hcount ?_⟩
    have hsame : backlog (swept.tick choice.elapsed) = backlog swept := rfl
    rw [hsame, Nat.succ_mul]
    omega

end Sweep

section Runs

variable {ι : Type} [DecidableEq ι]

/-- No event is put off for more than an hour, and no claim is that old. -/
theorem ripe_of_consistent (h : Consistent world) {wait : Nat} (hwait : hour ≤ wait) :
    Ripe world (world.clock + hour) (world.tick wait) where
  progress := elapsed_progress h wait
  clock := by
    simp only [World.tick]
    omega
  available event hevent _ := (h.formed event hevent).available
  stale event hevent hclaimed := by
    obtain ⟨since, hsince, hle⟩ := (h.formed event hevent).locked hclaimed
    refine ⟨since, hsince, ?_⟩
    simp only [hour, claimTimeout]
    omega

theorem published_of_backlog (h : backlog world = 0) :
    ∀ event ∈ world.tables.outbox, event.status = .published := by
  simpa [backlog, List.countP_eq_zero] using h

theorem normalized_batchSize (cfg : AccountDeletionOutboxConfig) :
    0 < cfg.normalized.batchSize := by
  simp only [AccountDeletionOutboxConfig.normalized]
  split <;> omega

/-- From any state that the service can reach, however it got there: an hour later
a worker that is left alone publishes everything, a batch in each sweep. -/
theorem worker_publishes_backlog (tasks : ι → Task) (clock : Int) (accounts : UserDB)
    (sessions : List Session.UserSessionDO) (labels : List (ι × Choice))
    (cfg : AccountDeletionOutboxConfig) (hurl : trimSpace cfg.natsURL ≠ "") (wait ticks : Nat)
    (hwait : hour ≤ wait) :
    let world := (run (move exec) (started tasks (installed clock accounts sessions)) labels).shared
    backlog world ≤ ticks * cfg.normalized.batchSize.toNat →
    Ensures exec Calm (fun _ final =>
      (∀ event ∈ final.tables.outbox, event.status = .published) ∧
        ∀ event ∈ world.tables.outbox, messageOf event ∈ final.bus)
      (runWorker cfg ticks) (world.tick wait) := by
  intro world hbacklog
  have hworld : Consistent world :=
    run_consistent tasks (installed_consistent clock accounts sessions) labels
  have hset : cfg.natsURL ≠ "" := by
    intro hempty
    rw [hempty] at hurl
    exact hurl (by decide)
  rw [runWorker, if_neg hset]
  have hurl' : trimSpace cfg.normalized.natsURL ≠ "" := hurl
  refine (sweeps_drain (ripe_of_consistent hworld hwait) hurl' (normalized_batchSize cfg)
    ticks).mono ?_
  rintro _ final ⟨hripe, hleft⟩
  have hsame : backlog (world.tick wait) = backlog world := rfl
  have hpublished : ∀ event ∈ final.tables.outbox, event.status = .published :=
    published_of_backlog (by omega)
  refine ⟨hpublished, fun event hevent => ?_⟩
  have hheld := hripe.progress.step.keeps _ _ (known_of_mem hevent)
  obtain ⟨event', hevent', -, hmessage⟩ := holds_iff.mp hheld
  rw [← hmessage]
  exact published_sent hripe.progress.consistent hevent' (hpublished event' hevent')

def twoRequests : Bool → Task
  | false => .delete 1 ⟨"7d0c5f3e-0001-4000-8000-000000000001", by decide, by decide⟩
  | true => .delete 2 ⟨"7d0c5f3e-0002-4000-8000-000000000002", by decide, by decide⟩

def twoCustomers : UserDB where
  users := [{ id := 1, mobile := "13800000001", password := "" },
    { id := 2, mobile := "13800000002", password := "" }]
  roles := []
  userRoles := []
  resourceScopes := []

def bothCommitted : List (Bool × Choice) :=
  [(false, {}), (true, {}), (false, {}), (true, {})]

theorem worker_publishes_two_requests :
    let world := (run (move exec) (started twoRequests (installed 0 twoCustomers []))
      bothCommitted).shared
    backlog world = 2 ∧
      Ensures exec Calm (fun _ final =>
        (∀ event ∈ final.tables.outbox, event.status = .published) ∧
          ∀ event ∈ world.tables.outbox, messageOf event ∈ final.bus)
        (runWorker ⟨"nats://bus", 1, 20⟩ 2) (world.tick 3600000) :=
  ⟨by decide, worker_publishes_backlog twoRequests 0 twoCustomers [] bothCommitted
    ⟨"nats://bus", 1, 20⟩ (by decide) 3600000 2 (by decide) (by decide)⟩

end Runs

end Goshop.User.DeletionDrain
