import Goshop.Lib.Discipline
import Goshop.Lib.Table
import Goshop.Review.Service

/-! The rating of goods against their approved reviews. Every moderation leaves an
event, so a rating that is behind is computed again; a rating that was computed
before a moderation and is stored after the event is done stays behind. -/
namespace Goshop.Review.Ratings

open Goshop.Lib Goshop.Lib.Transaction Goshop.Lib.Process Goshop.Lib.Run
open Goshop.Lib.Process.Discipline
open Goshop.Review.Model Goshop.Review.Service

structure Correct (reviews : List ReviewDO) (goodsID : Int) (rating : Rating) : Prop where
  goods : rating.goodsID = goodsID
  count : rating.approvedCount = (approved goodsID reviews).length
  sum : rating.ratingSum = ((approved goodsID reviews).map (·.rating.value)).sum
  average : rating.averageMilli =
    if rating.approvedCount = 0 then 0 else 1000 * rating.ratingSum / rating.approvedCount

theorem newRating_correct (goodsID : Int) (reviews : List ReviewDO) :
    Correct reviews goodsID (newRating goodsID (aggregate goodsID reviews)) := by
  refine ⟨rfl, rfl, rfl, ?_⟩
  have hsum : 0 ≤ (aggregate goodsID reviews).sum := by
    apply List.sum_nonneg
    intro value hvalue
    obtain ⟨row, -, rfl⟩ := List.mem_map.mp hvalue
    have := row.rating.inRange
    omega
  by_cases hpos : 0 < (aggregate goodsID reviews).count
  · have hne : (newRating goodsID (aggregate goodsID reviews)).approvedCount ≠ 0 := by
      simp only [newRating]
      omega
    rw [if_neg hne]
    simp only [newRating, if_pos hpos]
    rw [Int.tdiv_eq_ediv_of_nonneg (by omega), Int.mul_comm]
  · have hzero : (newRating goodsID (aggregate goodsID reviews)).approvedCount = 0 := by
      have hcount : 0 ≤ (aggregate goodsID reviews).count := Int.natCast_nonneg _
      simp only [newRating]
      omega
    rw [if_pos hzero]
    simp only [newRating, if_neg hpos]

section Tracking

variable {db db' : ReviewDB} {goodsID : Int}

def HasDone (db : ReviewDB) (goodsID : Int) : Prop :=
  ∃ event ∈ db.outbox, event.goodsID = goodsID ∧ event.status = .done

/-- An event of the goods is pending, and not one of those in `served`. -/
def Owed (db : ReviewDB) (served : List Int) (goodsID : Int) : Prop :=
  ∃ event ∈ db.outbox, event.goodsID = goodsID ∧ event.status = .pending ∧ event.id ∉ served

instance (db : ReviewDB) (goodsID : Int) : Decidable (HasDone db goodsID) :=
  inferInstanceAs
    (Decidable (∃ event ∈ db.outbox, event.goodsID = goodsID ∧ event.status = .done))

instance (db : ReviewDB) (served : List Int) (goodsID : Int) : Decidable (Owed db served goodsID) :=
  inferInstanceAs (Decidable (∃ event ∈ db.outbox,
    event.goodsID = goodsID ∧ event.status = .pending ∧ event.id ∉ served))

def Current (db : ReviewDB) (goodsID : Int) : Prop :=
  db.ratings goodsID = some (newRating goodsID (aggregate goodsID db.reviews))

def Known (db : ReviewDB) (event : OutboxEvent) : Prop :=
  ∃ row ∈ db.outbox, row.id = event.id ∧ row.goodsID = event.goodsID

structure Consistent (db : ReviewDB) : Prop where
  reviews : (db.reviews.map (·.id)).Nodup
  events : (db.outbox.map (·.id)).Nodup
  tracked : ∀ goodsID, HasDone db goodsID → Current db goodsID ∨ Owed db [] goodsID

structure Progress (db db' : ReviewDB) : Prop where
  consistent : Consistent db'
  known : ∀ event, Known db event → Known db' event

theorem Progress.refl (h : Consistent db) : Progress db db :=
  ⟨h, fun _ => id⟩

theorem Progress.trans {db'' : ReviewDB} (h : Progress db db') (h' : Progress db' db'') :
    Progress db db'' :=
  ⟨h'.consistent, fun event hknown => h'.known event (h.known event hknown)⟩

theorem reviews_progress {reviews : List ReviewDO} (hdb : Consistent db)
    (hunique : (reviews.map (·.id)).Nodup)
    (hsame : ∀ goodsID, approved goodsID reviews = approved goodsID db.reviews) :
    Progress db { db with reviews := reviews } where
  consistent := by
    refine ⟨hunique, hdb.events, fun goodsID hdone => ?_⟩
    refine (hdb.tracked goodsID hdone).imp_left fun hcurrent => ?_
    simp only [Current, aggregate, hsame]
    exact hcurrent
  known := fun _ => id

theorem createReview_progress {review : ReviewDO} {id : Int} (hdb : Consistent db)
    (h : createReview review db = .ok (id, db')) : Progress db db' := by
  simp only [createReview, Txn.read_bind, Txn.guard_bind_ok, Txn.write_bind, Txn.pure_ok] at h
  obtain ⟨-, -, h⟩ := h
  cases h
  apply reviews_progress hdb
  · apply Table.nodup_snoc hdb.reviews
    intro other hother
    exact (Sql.lt_nextId (List.mem_map_of_mem hother)).ne
  · intro goodsID
    simp [approved]

theorem moderate_ok {id : Int} {decision : ReviewStatus} {requestID reason : String}
    (h : moderate id decision requestID reason db = .ok ((), db')) :
    ∃ review ∈ db.reviews, review.id = id ∧ db' = { db with
      reviews := db.reviews.map (setStatus id decision)
      outbox := appendEvent { reviewID := id, decision := decision, goodsID := review.goodsID }
        db.outbox } := by
  simp only [moderate, Txn.read_bind, Txn.lift_bind_ok, Txn.guard_bind_ok, Txn.write_ok] at h
  obtain ⟨review, hget, -, -, -, h⟩ := h
  cases h
  unfold getReview at hget
  split at hget
  next found hfound =>
    cases hget
    exact ⟨review, List.mem_of_find?_eq_some hfound, by simpa using List.find?_some hfound, rfl⟩
  next => cases hget

theorem approved_setStatus {reviews : List ReviewDO} {review : ReviewDO}
    (hunique : (reviews.map (·.id)).Nodup) (hreview : review ∈ reviews)
    (hother : goodsID ≠ review.goodsID) (decision : ReviewStatus) :
    approved goodsID (reviews.map (setStatus review.id decision)) = approved goodsID reviews := by
  have hrow (row : ReviewDO) (hrow : row ∈ reviews) :
      row.goodsID = goodsID → setStatus review.id decision row = row := by
    intro hgoods
    have hid : row.id ≠ review.id := by
      intro hid
      have hsame := List.inj_on_of_nodup_map hunique hrow hreview hid
      exact hother (by rw [← hgoods, hsame])
    simp [setStatus, hid]
  have hgoods (row : ReviewDO) : (setStatus review.id decision row).goodsID = row.goodsID := by
    unfold setStatus
    split
    · rfl
    · rfl
  generalize setStatus review.id decision = change at hrow hgoods
  clear hunique hreview
  unfold approved
  induction reviews with
  | nil => rfl
  | cons row rest ih =>
    have hrest := ih fun other hother => hrow other (by simp [hother])
    by_cases hmatch : row.goodsID = goodsID
    · rw [List.map_cons, hrow row (by simp) hmatch, List.filter_cons, List.filter_cons, hrest]
    · rw [List.map_cons, List.filter_cons_of_neg (by simp [hgoods, hmatch]),
        List.filter_cons_of_neg (by simp [hmatch]), hrest]

theorem moderate_progress {id : Int} {decision : ReviewStatus} {requestID reason : String}
    (hdb : Consistent db) (h : moderate id decision requestID reason db = .ok ((), db')) :
    Progress db db' := by
  obtain ⟨review, hreview, rfl, rfl⟩ := moderate_ok h
  refine ⟨⟨?_, ?_, ?_⟩, ?_⟩
  · have hids : (db.reviews.map (setStatus review.id decision)).map (·.id) =
        db.reviews.map (·.id) := by
      rw [List.map_map]
      apply List.map_congr_left
      intro row _
      by_cases hrow : row.id = review.id <;> simp [setStatus, hrow]
    exact hids ▸ hdb.reviews
  · apply Table.nodup_snoc hdb.events
    intro other hother
    exact (Sql.lt_nextId (List.mem_map_of_mem hother)).ne
  · rintro goodsID ⟨event, hevent, hgoods, hstatus⟩
    by_cases hsame : goodsID = review.goodsID
    · subst hsame
      exact .inr ⟨_, List.mem_append_right _ (List.mem_singleton_self _), rfl, rfl, by simp⟩
    · rcases List.mem_append.mp hevent with hold | hnew
      · rcases hdb.tracked goodsID ⟨event, hold, hgoods, hstatus⟩ with hcurrent | howed
        · left
          simp only [Current, aggregate, approved_setStatus hdb.reviews hreview hsame]
          exact hcurrent
        · obtain ⟨row, hrow, hrest⟩ := howed
          exact .inr ⟨row, List.mem_append_left _ hrow, hrest⟩
      · cases List.mem_singleton.mp hnew
        cases hstatus
  · rintro event ⟨row, hrow, hrest⟩
    exact ⟨row, List.mem_append_left _ hrow, hrest⟩

end Tracking

section Publication

variable {db : ReviewDB} {goodsID : Int}

/-- The rating is up to date at the moment it is stored, or an event that is not
among those `served` is there to replace it. -/
def Fresh (db : ReviewDB) (served : List Int) (rating : Rating) : Prop :=
  rating = newRating rating.goodsID (aggregate rating.goodsID db.reviews) ∨
    Owed db served rating.goodsID

theorem storeRating_progress {rating : Rating} (hdb : Consistent db)
    (hfresh : Fresh db [] rating) : Progress db (storeRating rating db) := by
  refine ⟨⟨hdb.reviews, hdb.events, fun goodsID hdone => ?_⟩, fun _ => id⟩
  by_cases hgoods : goodsID = rating.goodsID
  · subst hgoods
    refine hfresh.imp_left fun hnow => ?_
    simp only [Current, storeRating, Function.update_self]
    rw [← hnow]
  · refine (hdb.tracked goodsID hdone).imp_left fun hcurrent => ?_
    simp only [Current, storeRating, Function.update_of_ne hgoods]
    exact hcurrent

theorem lastRating_eq_none {completions : Completions} :
    lastRating completions goodsID = none ↔
      ∀ completion ∈ completions, completion.2.goodsID ≠ goodsID := by
  simp [lastRating]

theorem lastRating_goods {completions : Completions} {rating : Rating}
    (h : lastRating completions goodsID = some rating) :
    rating.goodsID = goodsID ∧ ∃ event, (event, rating) ∈ completions := by
  obtain ⟨⟨event, stored⟩, hfound, rfl⟩ := Option.map_eq_some_iff.mp h
  have hmem := List.mem_of_find?_eq_some hfound
  exact ⟨by simpa using List.find?_some hfound, event, by simpa using hmem⟩

@[simp] theorem markDone_id (done : List Int) (event : OutboxEvent) :
    (markDone done event).id = event.id := by
  unfold markDone
  split
  · rfl
  · rfl

@[simp] theorem markDone_goodsID (done : List Int) (event : OutboxEvent) :
    (markDone done event).goodsID = event.goodsID := by
  unfold markDone
  split
  · rfl
  · rfl

theorem markDone_of_notMem {done : List Int} {event : OutboxEvent} (h : event.id ∉ done) :
    markDone done event = event := by
  simp [markDone, h]

def Accounted (db : ReviewDB) (completions : Completions) : Prop :=
  ∀ completion ∈ completions,
    Known db completion.1 ∧ completion.2.goodsID = completion.1.goodsID

theorem Accounted.notMem_completed {completions : Completions}
    (h : Accounted db completions) (hdb : Consistent db)
    (hnone : lastRating completions goodsID = none) {event : OutboxEvent}
    (hevent : event ∈ db.outbox) (hgoods : event.goodsID = goodsID) :
    event.id ∉ completed completions := by
  intro hmem
  obtain ⟨completion, hcompletion, hid⟩ := List.mem_map.mp hmem
  obtain ⟨⟨row, hrow, hrowID, hrowGoods⟩, hrated⟩ := h completion hcompletion
  have hsame : row = event :=
    List.inj_on_of_nodup_map hdb.events hrow hevent (hrowID.trans hid)
  apply lastRating_eq_none.mp hnone completion hcompletion
  rw [hrated, ← hrowGoods, hsame, hgoods]

theorem Owed.publish {completions : Completions}
    (h : Owed db (completed completions) goodsID) : Owed (publish completions db) [] goodsID := by
  obtain ⟨event, hevent, hgoods, hpending, hid⟩ := h
  refine ⟨event, ?_, hgoods, hpending, by simp⟩
  exact List.mem_map.mpr ⟨event, hevent, markDone_of_notMem hid⟩

theorem publish_tracked {completions : Completions} (hdb : Consistent db)
    (haccounted : Accounted db completions)
    (hfresh : ∀ completion ∈ completions, ∀ rating ∈ lastRating completions completion.2.goodsID,
      Fresh db (completed completions) rating)
    (hdone : HasDone (publish completions db) goodsID) :
    Current (publish completions db) goodsID ∨ Owed (publish completions db) [] goodsID := by
  cases hlast : lastRating completions goodsID with
  | some rating =>
    obtain ⟨rfl, event, hmem⟩ := lastRating_goods hlast
    rcases hfresh (event, rating) hmem rating hlast with hnow | howed
    · left
      simp only [Current, publish, hlast, Option.some_or]
      rw [← hnow]
    · exact .inr howed.publish
  | none =>
    obtain ⟨event', hevent', hgoods, hstatus⟩ := hdone
    obtain ⟨event, hevent, rfl⟩ := List.mem_map.mp hevent'
    rw [markDone_goodsID] at hgoods
    rw [markDone_of_notMem (haccounted.notMem_completed hdb hlast hevent hgoods)] at hstatus
    rcases hdb.tracked goodsID ⟨event, hevent, hgoods, hstatus⟩ with hcurrent | howed
    · left
      simp only [Current, publish, hlast, Option.none_or]
      exact hcurrent
    · obtain ⟨row, hrow, hrowGoods, hpending, -⟩ := howed
      have hid := haccounted.notMem_completed hdb hlast hrow hrowGoods
      exact .inr (Owed.publish ⟨row, hrow, hrowGoods, hpending, hid⟩)

theorem publish_progress {completions : Completions} (hdb : Consistent db)
    (haccounted : Accounted db completions)
    (hfresh : ∀ completion ∈ completions, ∀ rating ∈ lastRating completions completion.2.goodsID,
      Fresh db (completed completions) rating) :
    Progress db (publish completions db) := by
  refine ⟨⟨hdb.reviews, ?_, fun _ => publish_tracked hdb haccounted hfresh⟩, ?_⟩
  · have hids : (db.outbox.map (markDone (completed completions))).map (·.id) =
        db.outbox.map (·.id) := by
      simp [List.map_map, Function.comp_def]
    exact hids ▸ hdb.events
  · rintro event ⟨row, hrow, hid, hgoods⟩
    exact ⟨_, List.mem_map_of_mem hrow, by simp [hid], by simp [hgoods]⟩

end Publication

section Steps

variable {world : World}

def stored : Call → List Int × List Rating
  | .upsertRating none rating => ([], [rating])
  | .commit _ completions => (completed completions,
      completions.filterMap fun completion => lastRating completions completion.2.goodsID)
  | _ => ([], [])

/-- No rating that is behind its reviews is stored, unless an event is left. -/
def StoresFresh (request : Call) (db : ReviewDB) : Prop :=
  ∀ rating ∈ (stored request).2, Fresh db (stored request).1 rating

instance (request : Call) (db : ReviewDB) : Decidable (StoresFresh request db) :=
  inferInstanceAs (Decidable (∀ rating ∈ (stored request).2,
    rating = newRating rating.goodsID (aggregate rating.goodsID db.reviews) ∨
      Owed db (stored request).1 rating.goodsID))

def Backed (request : Call) (db : ReviewDB) : Prop :=
  match request with
  | .commit _ completions => Accounted db completions
  | _ => True

theorem inTx_db {α : Type} (tx : Int)
    (statement : Transaction → Except ReviewError α × Transaction) (world : World) :
    (inTx tx statement world).2.db = world.db := by
  unfold inTx
  split
  · rfl
  · rfl

theorem endTx_progress {tx : Int} {db : ReviewDB} (hworld : Consistent world.db)
    (h : Progress world.db db) : Progress world.db (endTx tx db world).2.db := by
  unfold endTx
  split
  · exact h
  · exact .refl hworld

theorem exec_progress (isolation : Isolation) (request : Call) (choice : Choice)
    (hworld : Consistent world.db) (hbacked : Backed request world.db)
    (hfresh : StoresFresh request world.db) :
    Progress world.db (exec isolation request choice world).2.db := by
  rcases call_state ReviewError.storage choice.outcome (serve isolation request choice) world
    with hstate | hstate
  · rw [exec, hstate]
    exact .refl hworld
  rw [exec, hstate]
  cases request with
  | createReview review =>
    change Progress world.db (Txn.commit (createReview review) world.db).2
    exact Txn.commit_preserves (.refl hworld) fun _ _ hrun => createReview_progress hworld hrun
  | moderate id decision requestID reason =>
    change Progress world.db (Txn.commit (moderate id decision requestID reason) world.db).2
    exact Txn.commit_preserves (.refl hworld) fun _ _ hrun => moderate_progress hworld hrun
  | aggregate tx goodsID =>
    cases tx with
    | none => exact .refl hworld
    | some tx =>
      simp only [serve, inTx_db]
      exact .refl hworld
  | upsertRating tx rating =>
    cases tx with
    | none =>
      simp only [serve]
      split
      · exact .refl hworld
      · exact storeRating_progress hworld (hfresh rating (by simp [stored]))
    | some tx =>
      simp only [serve]
      split
      · exact .refl hworld
      · rw [inTx_db]
        exact .refl hworld
  | claim tx limit =>
    simp only [serve, inTx_db]
    exact .refl hworld
  | completeEvent tx eventID =>
    simp only [serve, inTx_db]
    exact .refl hworld
  | commit tx completions =>
    apply endTx_progress hworld
    apply publish_progress hworld hbacked
    intro completion hcompletion rating hrating
    exact hfresh rating (List.mem_filterMap.mpr ⟨completion, hcompletion, hrating⟩)
  | rollback tx => exact endTx_progress hworld (.refl hworld)
  | _ => exact .refl hworld

end Steps

section Programs

variable {isolation : Isolation} {α : Type} {events : List OutboxEvent}

def discipline (isolation : Isolation) : Discipline (exec isolation) where
  consistent world := Consistent world.db
  progress world world' := Progress world.db world'.db
  admits request _ world := StoresFresh request world.db
  ready request world := Backed request world.db
  refl := .refl
  trans := .trans
  keeps := Progress.consistent
  serves request choice _ := exec_progress isolation request choice

abbrev SafeTask (isolation : Isolation) (post : α → World → Prop) (fact : World → Prop)
    (program : Program α) : Prop :=
  (discipline isolation).SafeTask post fact program

def Holding (events : List OutboxEvent) (world : World) : Prop :=
  ∀ event ∈ events, Known world.db event

theorem holding_kept (events : List OutboxEvent) : (discipline isolation).Kept (Holding events) :=
  fun _ _ hstep hheld event hevent => hstep.known event (hheld event hevent)

def PlainCall (request : Call) : Prop :=
  ∀ db, Backed request db

theorem plainCalls_safe {program : Program α} (h : program.Issues PlainCall) :
    SafeTask isolation (fun _ _ => True) (fun _ => True) program :=
  issues_safe kept_true (h.mono fun _ hplain world => hplain world.db)

section Requests

theorem create_plain (userID : Int) (orderSN : String) (goodsID rating : Int) (content : String) :
    (Service.create userID orderSN goodsID rating content).Issues PlainCall := by
  simp only [Service.create]
  split
  · split
    · exact .ret _
    · refine .call (fun _ => trivial) fun verified => ?_
      cases verified with
      | error err => exact .ret _
      | ok value =>
        exact .call (fun _ => trivial) fun _ => .attempt fun _ _ =>
          .call (fun _ => trivial) fun _ => .ret _
  · exact .ret _

theorem moderateReview_plain (id : Int) (decision : String) (actor : Int)
    (requestID reason : String) :
    (moderateReview id decision actor requestID reason).Issues PlainCall := by
  unfold moderateReview
  split
  · exact .ret _
  · split
    · exact .ret _
    · exact .call (fun _ => trivial) fun _ => .attempt fun _ _ =>
        .call (fun _ => trivial) fun _ => .ret _

theorem rebuildRating_plain (goodsID actor : Int) (requestID : String) :
    (Service.rebuildRating goodsID actor requestID).Issues PlainCall := by
  unfold Service.rebuildRating
  split
  · exact .ret _
  · exact .call (fun _ => trivial) fun _ => .attempt fun _ _ =>
      .call (fun _ => trivial) fun _ => .attempt fun _ _ =>
        .call (fun _ => trivial) fun _ => .attempt fun _ _ => .ret _

theorem observeReviewOutboxBacklog_plain (statuses : List EventStatus) :
    (observeReviewOutboxBacklog statuses).Issues PlainCall := by
  induction statuses with
  | nil => exact .ret _
  | cons status rest ih => exact .call (fun _ => trivial) fun _ => .attempt fun _ _ => ih

end Requests

section Outbox

def Rated (result : Result Completions) (world : World) : Prop :=
  ∀ completions, result = .ok completions → Accounted world.db completions

theorem rated_kept (result : Result Completions) : (discipline isolation).Kept (Rated result) := by
  intro world world' hstep hrated completions hok completion hcompletion
  obtain ⟨hknown, hgoods⟩ := hrated completions hok completion hcompletion
  exact ⟨hstep.known _ hknown, hgoods⟩

theorem rated_error (err : ReviewError) (world : World) : Rated (.error err) world :=
  fun _ hok => by cases hok

theorem rateEvents_safe (tx : Int) (done : Completions) {rest : List OutboxEvent}
    (hdone : ∀ completion ∈ done, completion.1 ∈ events ∧
      completion.2.goodsID = completion.1.goodsID) (hrest : rest ⊆ events) :
    SafeTask isolation Rated (Holding events) (rateEvents tx done rest) := by
  have hkept : (discipline isolation).Kept (Holding events) := holding_kept events
  induction rest generalizing done with
  | nil =>
    refine ret_safe hkept fun world _ hheld => ?_
    rintro completions hok completion hcompletion
    cases hok
    obtain ⟨hevent, hgoods⟩ := hdone completion hcompletion
    exact ⟨hheld _ hevent, hgoods⟩
  | cons event rest ih =>
    obtain ⟨hevent, hrest⟩ := List.cons_subset.mp hrest
    refine plain_safe hkept (fun _ _ _ => trivial) fun total => ?_
    refine attempt_safe hkept (fun err world _ => rated_error err world) fun total _ => ?_
    refine plain_safe hkept (fun _ _ _ => trivial) fun stored => ?_
    refine attempt_safe hkept (fun err world _ => rated_error err world) fun _ _ => ?_
    refine plain_safe hkept (fun _ _ _ => trivial) fun marked => ?_
    refine attempt_safe hkept (fun err world _ => rated_error err world) fun _ _ => ih _ ?_ hrest
    intro completion hcompletion
    rcases List.mem_append.mp hcompletion with hold | hnew
    · exact hdone completion hold
    · cases List.mem_singleton.mp hnew
      exact ⟨hevent, rfl⟩

theorem exec_claim_known {tx limit : Int} {choice : Choice} {world : World}
    {claimed : List OutboxEvent}
    (h : (exec isolation (.claim tx limit) choice world).1 = .ok claimed) :
    ∀ event ∈ claimed, Known world.db event := by
  have hserve := (call_value h).2
  simp only [serve, inTx] at hserve
  split at hserve
  · cases hserve
  · cases hserve
    intro event hevent
    have hrow := List.mem_of_mem_filter
      (List.mem_insertionSort _ |>.mp (List.mem_of_mem_take hevent))
    exact ⟨event, hrow, rfl, rfl⟩

theorem outboxBody_safe (tx limit : Int) :
    SafeTask isolation Rated (fun _ => True) (outboxBody tx limit) := by
  refine call_safe (fun claimed world => ∀ events, claimed = .ok events → Holding events world)
    kept_true (fun _ _ _ => trivial) ?_ ?_
  · intro choice world _ _ _ hstep events hok event hevent
    exact hstep.known event (exec_claim_known hok event hevent)
  · intro claimed
    have hlearnt : (discipline isolation).Kept fun world =>
        ∀ events, claimed = .ok events → Holding events world :=
      fun world world' hstep hheld events hok =>
        holding_kept events world world' hstep (hheld events hok)
    refine attempt_safe hlearnt (fun err world _ => rated_error err world) fun events hok => ?_
    exact weaken_safe (rateEvents_safe tx [] (by simp) (List.Subset.refl events)) hlearnt
      fun _ h => h events hok

theorem outboxTransaction_safe (limit : Int) :
    SafeTask isolation (fun _ _ => True) (fun _ => True) (outboxTransaction limit) := by
  refine plain_safe kept_true (fun _ _ _ => trivial) fun begun => ?_
  refine attempt_safe kept_true (fun _ _ _ => trivial) fun tx _ => ?_
  refine (outboxBody_safe tx limit).bind fun result => ?_
  have hkept : (discipline isolation).Kept (Rated result) := rated_kept result
  cases result with
  | error err =>
    exact plain_safe hkept (fun _ _ _ => trivial) fun _ => ret_safe hkept fun _ _ _ => trivial
  | ok completions =>
    exact plain_safe hkept (fun _ _ hrated => hrated completions rfl)
      fun _ => ret_safe hkept fun _ _ _ => trivial

theorem processOutbox_safe (limit : Int) :
    SafeTask isolation (fun _ _ => True) (fun _ => True) (Service.processOutbox limit) := by
  refine (plainCalls_safe (observeReviewOutboxBacklog_plain _)).bind fun observed => ?_
  refine attempt_safe kept_true (fun _ _ _ => trivial) fun _ _ => ?_
  refine (outboxTransaction_safe _).bind fun processed => ?_
  exact attempt_safe kept_true (fun _ _ _ => trivial) fun _ _ =>
    plainCalls_safe (observeReviewOutboxBacklog_plain _)

end Outbox

theorem Task.safe (task : Task) :
    SafeTask isolation (fun _ _ => True) (fun _ => True) task.program := by
  cases task with
  | create userID orderSN goodsID rating content =>
    exact plainCalls_safe ((create_plain _ _ _ _ _).bind fun _ => .ret _)
  | moderate id decision actor requestID reason =>
    exact plainCalls_safe ((moderateReview_plain _ _ _ _ _).bind fun _ => .ret _)
  | rebuildRating goodsID actor requestID =>
    exact plainCalls_safe ((rebuildRating_plain _ _ _).bind fun _ => .ret _)
  | processOutbox limit => exact processOutbox_safe limit

end Programs

section Runs

variable {ι : Type} [DecidableEq ι]

def started (world : World) (tasks : ι → Task) : Config World ι Call Reply (Result Unit) :=
  ⟨world, fun thread => (tasks thread).program⟩

section Race

local instance threadsNeZero : @NeZero Nat ⟨0⟩ 3 := ⟨Nat.succ_ne_zero _⟩

def onePending : World where
  db :=
    { reviews := [{ id := 1, userID := 1, orderSN := "T-1", goodsID := 7, rating := fiveStars
                    content := "good" }]
      outbox := []
      ratings := fun _ => none }

theorem onePending_consistent : Consistent onePending.db where
  reviews := List.nodup_singleton _
  events := List.nodup_nil
  tracked := by simp [HasDone, onePending]

def raceTasks : Fin 3 → Task
  | 0 => .rebuildRating 7 9 "req-1"
  | 1 => .moderate 1 "approved" 9 "req-2" ""
  | 2 => .processOutbox 10

def times (thread : Fin 3) (count : Nat) : List (Fin 3 × Choice) :=
  List.replicate count (thread, {})

def raceEnd (isolation : Isolation) (steps : List (Fin 3 × Choice)) :
    Config World (Fin 3) Call Reply (Result Unit) :=
  run (move (exec isolation)) (started onePending raceTasks) steps

def raceSteps : List (Fin 3 × Choice) :=
  times 0 1 ++ times 1 2 ++ times 2 10 ++ times 0 2

theorem rebuild_outcome (isolation : Isolation) :
    (∀ thread, ((raceEnd isolation raceSteps).threads thread).finished = true) ∧
      ¬Owed (raceEnd isolation raceSteps).shared.db [] 7 ∧
      HasDone (raceEnd isolation raceSteps).shared.db 7 ∧
      (approved 7 (raceEnd isolation raceSteps).shared.db.reviews).length = 1 ∧
      (raceEnd isolation raceSteps).shared.db.ratings 7 = some ⟨7, 0, 0, 0⟩ := by
  cases isolation with
  | readCommitted => decide +kernel
  | repeatableRead => decide +kernel

end Race

end Runs

end Goshop.Review.Ratings
