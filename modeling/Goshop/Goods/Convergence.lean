import Goshop.Goods.Search
import Goshop.Lib.Discipline
import Goshop.Lib.Mirror

/-! The search index against the goods table. The index is a copy that the outbox
keeps up to date; a document that has been overtaken between its read and its
write can stay in it. -/
namespace Goshop.Goods.Convergence

open Goshop.Errors Goshop.Lib Goshop.Lib.Transaction Goshop.Lib.Process Goshop.Lib.Run
open Goshop.Lib.Process.Discipline
open Goshop.Goods.Model Goshop.Goods.Search

/-- The document that the index should have for the id. -/
def docOf (db : GoodsDB) (id : Int) : Option GoodsSearchDO :=
  (db.goods.find? fun row => row.id = id ∧ !row.deleted).map goodsSearchFromDTO

def entryOf (event : OutboxEventDO) : Entry Int :=
  ⟨event.id, event.aggregateID, event.status = .done⟩

def mirror (world : World) : Mirror Int (Option GoodsSearchDO) where
  source := docOf world.db
  copy := world.index
  queue := world.db.outbox.map entryOf

section Rows

variable {db : GoodsDB} {id : Int}

theorem docOf_eq_none : docOf db id = none ↔ ∀ row ∈ db.goods, row.id = id → row.deleted = true := by
  simp [docOf]

theorem hasID_iff {row : GoodsDO} :
    hasID id row = true ↔ row.id = id ∧ 0 < id ∧ row.deleted = false := by
  simp [hasID, and_assoc]

theorem goodsGet_ok {row : GoodsDO} (h : goodsGet db id = .ok row) : row.id = id := by
  unfold goodsGet at h
  split at h
  · cases h
  · split at h
    next found hfound =>
      cases h
      exact (hasID_iff.mp (List.find?_some hfound)).1
    next => cases h

theorem docOf_map {change : GoodsDO → GoodsDO} {touched : Int}
    (hsame : ∀ row ∈ db.goods, row.id ≠ touched → change row = row)
    (hid : ∀ row, (change row).id = row.id) (hne : id ≠ touched) :
    docOf { db with goods := db.goods.map change } id = docOf db id := by
  unfold docOf
  dsimp only
  generalize db.goods = rows at hsame
  induction rows with
  | nil => rfl
  | cons row rest ih =>
    have hrest := ih fun other hother => hsame other (by simp [hother])
    by_cases hrow : row.id = touched
    · rw [List.map_cons, List.find?_cons_of_neg, List.find?_cons_of_neg, hrest]
      · simp [hrow, hne.symm]
      · simp [hid, hrow, hne.symm]
    · rw [List.map_cons, hsame row (by simp) hrow, List.find?_cons, List.find?_cons]
      split
      · rfl
      · exact hrest

/-- The goods have been deleted; their key stays used. -/
def Gone (db : GoodsDB) (id : Int) : Prop :=
  docOf db id = none ∧ ∃ row ∈ db.goods, row.id = id

theorem Gone.map {change : GoodsDO → GoodsDO} (hid : ∀ row, (change row).id = row.id)
    (hdeleted : ∀ row, row.deleted = true → (change row).deleted = true) (h : Gone db id) :
    Gone { db with goods := db.goods.map change } id := by
  obtain ⟨hnone, row, hrow, hkey⟩ := h
  refine ⟨?_, change row, List.mem_map_of_mem hrow, by rw [hid, hkey]⟩
  rw [docOf_eq_none] at hnone ⊢
  intro other hother hotherID
  obtain ⟨before, hbefore, rfl⟩ := List.mem_map.mp hother
  exact hdeleted before (hnone before hbefore (by rwa [hid] at hotherID))

end Rows

section Progress

variable {world : World}

def Known (event : OutboxEventDO) (world : World) : Prop :=
  ∃ row ∈ world.db.outbox, row.id = event.id ∧ row.aggregateID = event.aggregateID ∧
    row.payload = event.payload

def DeletesGone (db : GoodsDB) : Prop :=
  ∀ event ∈ db.outbox, event.payload.action = .delete →
    event.payload.id = event.aggregateID ∧ Gone db event.aggregateID

structure Consistent (world : World) : Prop where
  sound : (mirror world).Sound
  deletes : DeletesGone world.db

structure Progress (world world' : World) : Prop where
  step : (mirror world).Step (mirror world')
  deletes : DeletesGone world'.db
  known : ∀ event, Known event world → Known event world'

theorem Progress.consistent {world' : World} (h : Progress world world') : Consistent world' :=
  ⟨h.step.sound, h.deletes⟩

theorem Progress.refl (h : Consistent world) : Progress world world :=
  ⟨.refl h.sound, h.deletes, fun _ => id⟩

theorem Progress.trans {world' world'' : World} (h : Progress world world')
    (h' : Progress world' world'') : Progress world world'' :=
  ⟨h.step.trans h'.step, h'.deletes, fun event hknown => h'.known event (h.known event hknown)⟩

theorem Known.queued {event : OutboxEventDO} (h : Known event world) :
    (mirror world).Queued event.id event.aggregateID := by
  obtain ⟨row, hrow, hid, hkey, -⟩ := h
  exact ⟨entryOf row, List.mem_map_of_mem hrow, hid, hkey⟩

theorem Known.gone {event : OutboxEventDO} (h : Known event world) (hworld : Consistent world)
    (hdelete : event.payload.action = .delete) :
    event.payload.id = event.aggregateID ∧ docOf world.db event.aggregateID = none := by
  obtain ⟨row, hrow, -, hkey, hpayload⟩ := h
  rw [← hpayload] at hdelete
  obtain ⟨hid, hgone⟩ := hworld.deletes row hrow hdelete
  rw [← hpayload, ← hkey]
  exact ⟨hid, hgone.1⟩

section Outbox

variable {selected : OutboxEventDO → Bool} {change : OutboxEventDO → OutboxEventDO}
  (hid : ∀ event, (change event).id = event.id)
  (hkey : ∀ event, (change event).aggregateID = event.aggregateID)
  (hpayload : ∀ event, (change event).payload = event.payload)

def updated (world : World) (selected : OutboxEventDO → Bool)
    (change : OutboxEventDO → OutboxEventDO) : World :=
  { world with db := updateEvents selected change world.db }

include hid hkey in
theorem updated_relabeled {kept : Int → Prop}
    (hopen : ∀ event, selected event → kept event.id → (change event).status ≠ .done) :
    (mirror world).Relabeled kept (mirror (updated world selected change)) where
  source := rfl
  copy := rfl
  ids := by
    simp only [mirror, updated, updateEvents, List.map_map]
    apply List.map_congr_left
    intro event _
    by_cases hselected : selected event <;> simp [hselected, entryOf, hid]
  entries := by
    intro entry hentry
    obtain ⟨event, hevent, rfl⟩ := List.mem_map.mp hentry
    refine ⟨entryOf (if selected event then change event else event),
      List.mem_map_of_mem (List.mem_map_of_mem hevent), ?_⟩
    by_cases hselected : selected event
    · simp only [hselected, if_true, entryOf, hid, hkey, true_and]
      intro hkept _
      exact decide_eq_false (hopen event hselected hkept)
    · simp [hselected]

include hid hkey hpayload in
theorem updated_progress (hworld : Consistent world)
    (hstep : (mirror world).Step (mirror (updated world selected change))) :
    Progress world (updated world selected change) where
  step := hstep
  deletes := by
    intro event hevent hdelete
    obtain ⟨before, hbefore, rfl⟩ := List.mem_map.mp hevent
    by_cases hselected : selected before
    · simp only [hselected, if_true, hkey, hpayload] at hdelete ⊢
      exact hworld.deletes before hbefore hdelete
    · simp only [hselected] at hdelete ⊢
      exact hworld.deletes before hbefore hdelete
  known := by
    rintro event ⟨row, hrow, hrowID, hrowKey, hrowPayload⟩
    refine ⟨_, List.mem_map_of_mem hrow, ?_⟩
    by_cases hselected : selected row
    · simp [hselected, hid, hkey, hpayload, hrowID, hrowKey, hrowPayload]
    · simp [hselected, hrowID, hrowKey, hrowPayload]

include hid hkey hpayload in
theorem kept_progress (hworld : Consistent world)
    (hopen : ∀ event, (change event).status ≠ .done) :
    Progress world (updated world selected change) := by
  refine updated_progress hid hkey hpayload hworld ?_
  have hrelabeled : (mirror world).Relabeled (fun _ => True)
      (mirror (updated world selected change)) :=
    updated_relabeled hid hkey fun event _ _ => hopen event
  exact .relabel hrelabeled hworld.sound fun _ => trivial

theorem updateStatus_progress {id : Int} (hworld : Consistent world)
    (h : Progress world (updated world (·.id = id) change)) :
    Progress world { world with db := (updateStatus id change world.db).2 } := by
  unfold updateStatus
  split
  · exact .refl hworld
  · exact h

theorem markDone_progress {id key : Int} (hworld : Consistent world)
    (hqueued : (mirror world).Queued id key) (hsettled : (mirror world).Settled id key) :
    Progress world { world with db := (markDone id world.db).2 } := by
  refine updateStatus_progress hworld ?_
  refine updated_progress (fun _ => rfl) (fun _ => rfl) (fun _ => rfl) hworld ?_
  have hrelabeled : (mirror world).Relabeled (· ≠ id)
      (mirror (updated world (·.id = id)
        fun event => { event with status := .done, claimedAt := 0 })) := by
    apply updated_relabeled
    · intro event
      rfl
    · intro event
      rfl
    · intro event hselected hother
      exact absurd (of_decide_eq_true hselected) hother
  exact .finish hrelabeled hworld.sound hqueued hsettled fun _ hother => hother

end Outbox

section Index

theorem refreshed_progress {id : Int} {doc : Option GoodsSearchDO} (hworld : Consistent world)
    (hdoc : docOf world.db id = doc) :
    Progress world { world with index := Function.update world.index id doc } := by
  subst hdoc
  exact ⟨.refresh hworld.sound id, hworld.deletes, fun _ hknown => hknown⟩

theorem refreshed_in_sync {id : Int} {doc : Option GoodsSearchDO}
    (hdoc : docOf world.db id = doc) :
    (mirror { world with index := Function.update world.index id doc }).InSync id := by
  simp [Mirror.InSync, mirror, hdoc]

end Index

section Transactions

theorem changed_progress {goods : List GoodsDO} {event : OutboxEventDO}
    (hworld : Consistent world) (hopen : event.status ≠ .done)
    (hdoc : ∀ id, id ≠ event.aggregateID →
      docOf { world.db with goods := goods } id = docOf world.db id)
    (hgone : ∀ id, Gone world.db id → Gone { world.db with goods := goods } id)
    (hdelete : event.payload.action = .delete → event.payload.id = event.aggregateID ∧
      Gone { world.db with goods := goods } event.aggregateID) :
    Progress world
      { world with db := appendEvent event { world.db with goods := goods } } where
  step := by
    have hentry : (entryOf { event with id := Sql.nextId (world.db.outbox.map (·.id)) }).done =
        false := decide_eq_false hopen
    refine .change hworld.sound hentry ?_ rfl ?_ hdoc
    · intro other hother
      obtain ⟨row, hrow, rfl⟩ := List.mem_map.mp hother
      exact Sql.lt_nextId (List.mem_map_of_mem hrow)
    · simp [mirror, appendEvent]
  deletes := by
    intro other hother haction
    rcases List.mem_append.mp hother with hold | hnew
    · exact (hworld.deletes other hold haction).imp_right (hgone _)
    · cases List.mem_singleton.mp hnew
      exact hdelete haction
  known := by
    rintro other ⟨row, hrow, hsame⟩
    exact ⟨row, List.mem_append_left _ hrow, hsame⟩

variable {db' : GoodsDB}

theorem createTxn_progress {goods : GoodsDO} (hworld : Consistent world)
    (h : createTxn goods world.db = .ok ((), db')) : Progress world { world with db := db' } := by
  obtain ⟨row, hfresh, rfl⟩ := createTxn_ok h
  refine changed_progress hworld (by simp [newGoodsSyncEvent]) ?_ ?_ (by simp [newGoodsSyncEvent])
  · intro id hid
    have hother : ¬row.id = id := fun h => hid h.symm
    simp [docOf, List.find?_append, hother]
  · rintro id ⟨hnone, used, hused, rfl⟩
    refine ⟨?_, used, List.mem_append_left _ hused, rfl⟩
    rw [docOf_eq_none] at hnone ⊢
    intro other hother hid
    rcases List.mem_append.mp hother with hold | hnew
    · exact hnone other hold hid
    · cases List.mem_singleton.mp hnew
      exact absurd hid.symm (hfresh used hused)

theorem updateGoods_progress {event : OutboxEventDO} {change : GoodsDO → GoodsDO}
    (hworld : Consistent world) (hopen : event.status ≠ .done)
    (hid : ∀ row, (change row).id = row.id)
    (hdeleted : ∀ row, row.deleted = true → (change row).deleted = true)
    (hdelete : event.payload.action = .delete → event.payload.id = event.aggregateID ∧
      Gone (updateGoods event.aggregateID change world.db) event.aggregateID) :
    Progress world
      { world with
        db := appendEvent event (updateGoods event.aggregateID change world.db) } := by
  have hsame (row : GoodsDO) :
      (if hasID event.aggregateID row then change row else row).id = row.id := by
    split
    · exact hid row
    · rfl
  refine changed_progress hworld hopen ?_ ?_ hdelete
  · intro other hother
    refine docOf_map ?_ hsame hother
    intro row _ hrow
    rw [if_neg fun hmatch => hrow (hasID_iff.mp hmatch).1]
  · intro other
    refine Gone.map hsame ?_
    intro row hrow
    split
    · exact hdeleted row hrow
    · exact hrow

theorem updateTxn_progress {goods : GoodsDO} (hworld : Consistent world)
    (h : updateTxn goods world.db = .ok ((), db')) : Progress world { world with db := db' } := by
  rw [updateTxn_ok h]
  have hopen : (newGoodsSyncEvent goods).status ≠ .done := by simp [newGoodsSyncEvent]
  exact updateGoods_progress hworld hopen (fun _ => rfl) (fun _ hrow => hrow)
    (by simp [newGoodsSyncEvent])

theorem hideGoods_gone {db : GoodsDB} {id : Int} (h : db.goods.any (hasID id) = true) :
    Gone (hideGoods id db) id := by
  obtain ⟨visible, hvisible, hmatch⟩ := List.any_eq_true.mp h
  refine ⟨?_, _, List.mem_map_of_mem hvisible, ?_⟩
  · rw [docOf_eq_none]
    intro row hrow hid
    obtain ⟨before, hbefore, rfl⟩ := List.mem_map.mp hrow
    by_cases hbeforeID : hasID id before = true
    · rw [if_pos hbeforeID]
    · rw [if_neg hbeforeID] at hid ⊢
      by_contra hdeleted
      exact hbeforeID
        (hasID_iff.mpr ⟨hid, (hasID_iff.mp hmatch).2.1, Bool.eq_false_iff.mpr hdeleted⟩)
  · rw [if_pos hmatch]
    exact (hasID_iff.mp hmatch).1

theorem deleteTxn_progress {id : Int} (hworld : Consistent world)
    (h : deleteTxn id world.db = .ok ((), db')) : Progress world { world with db := db' } := by
  obtain ⟨hvisible, rfl⟩ := deleteTxn_ok h
  have hopen : (newGoodsDeleteEvent id).status ≠ .done := by simp [newGoodsDeleteEvent]
  exact updateGoods_progress hworld hopen (fun _ => rfl) (fun _ _ => rfl)
    fun _ => ⟨rfl, hideGoods_gone hvisible⟩

end Transactions

end Progress

section Steps

variable {world : World}

def written : Call → Option GoodsSearchDO
  | .searchUpdate goods => some goods
  | _ => none

/-- A document is written only while it is still the one of its goods. -/
def Fresh (request : Call) (world : World) : Prop :=
  ∀ goods ∈ written request, docOf world.db goods.id = some goods

instance (request : Call) (world : World) : Decidable (Fresh request world) :=
  inferInstanceAs (Decidable (∀ goods ∈ written request, docOf world.db goods.id = some goods))

def Served (request : Call) (world : World) : Prop :=
  match request with
  | .markDone id => ∃ key, (mirror world).Queued id key ∧ (mirror world).Settled id key
  | .searchDelete id => docOf world.db id = none
  | _ => True

theorem commit_progress {body : GoodsTxn Unit} (hworld : Consistent world)
    (h : ∀ db', body world.db = .ok ((), db') → Progress world { world with db := db' }) :
    Progress world (onDB (Txn.commit body) world).2 := by
  rcases Txn.commit_cases body world.db with ⟨⟨⟩, db', hrun, hcommit⟩ | ⟨err, -, hcommit⟩
  · simpa [onDB, hcommit] using h db' hrun
  · simpa [onDB, hcommit] using Progress.refl hworld

theorem exec_progress (request : Call) (choice : Choice) (hworld : Consistent world)
    (hserved : Served request world) (hfresh : Fresh request world) :
    Progress world (exec request choice world).2 := by
  apply call_preserves _ _ (Progress.refl hworld)
  cases request with
  | createTxn goods =>
    exact commit_progress hworld fun _ hrun => createTxn_progress hworld hrun
  | updateTxn goods =>
    exact commit_progress hworld fun _ hrun => updateTxn_progress hworld hrun
  | deleteTxn id =>
    exact commit_progress hworld fun _ hrun => deleteTxn_progress hworld hrun
  | requeueStale topic claimedBefore =>
    exact kept_progress (fun _ => rfl) (fun _ => rfl) (fun _ => rfl) hworld (by simp)
  | claimPending topic limit now =>
    exact kept_progress (fun _ => rfl) (fun _ => rfl) (fun _ => rfl) hworld (by simp)
  | markRetry id retryCount backoff =>
    exact updateStatus_progress hworld
      (kept_progress (fun _ => rfl) (fun _ => rfl) (fun _ => rfl) hworld (by simp))
  | markDead id retryCount =>
    exact updateStatus_progress hworld
      (kept_progress (fun _ => rfl) (fun _ => rfl) (fun _ => rfl) hworld (by simp))
  | markDone id =>
    obtain ⟨key, hqueued, hsettled⟩ := hserved
    exact markDone_progress hworld hqueued hsettled
  | searchUpdate goods =>
    simp only [serve, searchUpdate]
    split
    · exact .refl hworld
    · exact refreshed_progress hworld (hfresh goods rfl)
  | searchDelete id =>
    simp only [serve, searchDelete]
    split
    · exact .refl hworld
    · exact refreshed_progress hworld hserved
  | _ => exact .refl hworld

end Steps

section Programs

variable {α : Type} {events : List OutboxEventDO} {event : OutboxEventDO}

def discipline : Discipline exec where
  consistent := Consistent
  progress := Progress
  admits request _ world := Fresh request world
  ready := Served
  refl := .refl
  trans := .trans
  keeps := Progress.consistent
  serves request choice _ := exec_progress request choice

abbrev SafeTask (post : α → World → Prop) (fact : World → Prop) (program : Program α) : Prop :=
  discipline.SafeTask post fact program

def Holding (events : List OutboxEventDO) (world : World) : Prop :=
  ∀ event ∈ events, Known event world

theorem holding_kept (events : List OutboxEventDO) : discipline.Kept (Holding events) :=
  fun _ _ hstep hheld event hevent => hstep.known event (hheld event hevent)

def PlainCall (request : Call) : Prop :=
  ∀ world, Served request world

theorem plainCalls_safe {fact : World → Prop} {program : Program α} (hfact : discipline.Kept fact)
    (h : program.Issues PlainCall) : SafeTask (fun _ => fact) fact program :=
  issues_safe hfact h

section Writers

theorem checkReferences_plain (goods : GoodsDO) {next : Program (Result Unit)}
    (h : next.Issues PlainCall) : (checkReferences goods next).Issues PlainCall :=
  .call (fun _ => trivial) fun _ => .attempt fun _ _ =>
    .call (fun _ => trivial) fun _ => .attempt fun _ _ => h

theorem create_plain (goods : GoodsDO) : (Search.create goods).Issues PlainCall :=
  .attempt fun _ _ => checkReferences_plain _ (.call (fun _ => trivial) fun _ => .ret _)

theorem update_plain (goods : GoodsDO) : (Search.update goods).Issues PlainCall :=
  .attempt fun _ _ => .call (fun _ => trivial) fun _ => .attempt fun _ _ =>
    checkReferences_plain _ (.call (fun _ => trivial) fun _ => .ret _)

theorem delete_plain (id : Int) : (Search.delete id).Issues PlainCall := by
  unfold Search.delete
  split
  · exact .ret _
  · exact .call (fun _ => trivial) fun _ => .attempt fun _ _ =>
      .call (fun _ => trivial) fun _ => .ret _

theorem writeRows_plain (reindexed : List Int) (rows : List GoodsDO) :
    (writeRows reindexed rows).Issues PlainCall := by
  induction rows generalizing reindexed with
  | nil => exact .ret _
  | cons row rest ih => exact .call (fun _ => trivial) fun _ => .attempt fun _ _ => ih _

theorem reindexEach_plain (reindexed ids : List Int) :
    (reindexEach reindexed ids).Issues PlainCall := by
  induction ids generalizing reindexed with
  | nil => exact .ret _
  | cons id rest ih =>
    exact .call (fun _ => trivial) fun _ => .attempt fun _ _ =>
      .call (fun _ => trivial) fun _ => .attempt fun _ _ => ih _

theorem reindex_plain (ids : List Int) : (Search.reindex ids).Issues PlainCall := by
  simp only [Search.reindex]
  split
  · exact .ret _
  · exact reindexEach_plain _ _

theorem reindexPages_plain (pages : Nat) (page : Int) (reindexed : List Int) :
    (reindexPages pages page reindexed).Issues PlainCall := by
  induction pages generalizing page reindexed with
  | zero => exact .ret _
  | succ pages ih =>
    refine .call (fun _ => trivial) fun _ => .attempt fun rows _ => ?_
    split
    · exact .ret _
    · exact (writeRows_plain _ _).bind fun _ => .attempt fun _ _ => ih _ _

end Writers

section Worker

def Applied (events : List OutboxEventDO) (event : OutboxEventDO) (result : Result Unit)
    (world : World) : Prop :=
  Holding events world ∧
    (result = .ok () → (mirror world).Settled event.id event.aggregateID)

theorem applied_kept (hevent : event ∈ events) (result : Result Unit) :
    discipline.Kept (Applied events event result) := by
  rintro world world' hstep ⟨hheld, hsettled⟩
  refine ⟨holding_kept events world world' hstep hheld, fun hok => ?_⟩
  exact hstep.step.settled _ _ (hheld event hevent).queued (hsettled hok)

theorem exec_searchUpdate_in_sync {goods : GoodsSearchDO} {choice : Choice} {world : World}
    (hfresh : docOf world.db goods.id = some goods)
    (h : (exec (.searchUpdate goods) choice world).1 = .ok ()) :
    (mirror (exec (.searchUpdate goods) choice world).2).InSync goods.id := by
  obtain ⟨houtcome, hserve⟩ := call_value h
  simp only [exec, houtcome, call_okay]
  simp only [serve, searchUpdate] at hserve ⊢
  split at hserve
  · cases hserve
  next hid =>
    rw [if_neg hid]
    exact refreshed_in_sync hfresh

theorem exec_searchDelete_in_sync {id : Int} {choice : Choice} {world : World}
    (hgone : docOf world.db id = none) (h : (exec (.searchDelete id) choice world).1 = .ok ()) :
    (mirror (exec (.searchDelete id) choice world).2).InSync id := by
  obtain ⟨houtcome, hserve⟩ := call_value h
  simp only [exec, houtcome, call_okay]
  simp only [serve, searchDelete] at hserve ⊢
  split at hserve
  · cases hserve
  next hid =>
    rw [if_neg hid]
    exact refreshed_in_sync hgone

theorem searchUpdate_safe (hevent : event ∈ events) {goods : GoodsSearchDO}
    (hid : goods.id = event.aggregateID) :
    SafeTask (Applied events event) (Holding events)
      (Proc.send (Call.searchUpdate goods) : Program (Result Unit)) := by
  refine call_safe (Applied events event) (holding_kept events) (fun _ _ _ => trivial) ?_
    fun reply => ret_safe (applied_kept hevent reply) fun _ _ h => h
  intro choice world _ hheld hfresh hstep
  refine ⟨holding_kept events _ _ hstep hheld, fun hok => .inl ?_⟩
  rw [← hid]
  exact exec_searchUpdate_in_sync (hfresh goods rfl) hok

theorem searchDelete_safe (hevent : event ∈ events) (hdelete : event.payload.action = .delete) :
    SafeTask (Applied events event) (Holding events)
      (Proc.send (Call.searchDelete event.payload.id) : Program (Result Unit)) := by
  have hgone (world : World) (hworld : Consistent world) (hheld : Holding events world) :
      event.payload.id = event.aggregateID ∧ docOf world.db event.payload.id = none := by
    obtain ⟨hid, hnone⟩ := (hheld event hevent).gone hworld hdelete
    exact ⟨hid, hid ▸ hnone⟩
  refine call_safe (Applied events event) (holding_kept events)
    (fun world hworld hheld => (hgone world hworld hheld).2) ?_
    fun reply => ret_safe (applied_kept hevent reply) fun _ _ h => h
  intro choice world hworld hheld _ hstep
  obtain ⟨hid, hnone⟩ := hgone world hworld hheld
  refine ⟨holding_kept events _ _ hstep hheld, fun hok => .inl ?_⟩
  rw [← hid]
  exact exec_searchDelete_in_sync hnone hok

theorem getGoods_safe {id : Int} {post : Result Unit → World → Prop}
    {next : GoodsDO → Program (Result Unit)}
    (hrefused : ∀ err world, Holding events world → post (.error err) world)
    (hnext : ∀ goods : GoodsDO, goods.id = id → SafeTask post (Holding events) (next goods)) :
    SafeTask post (Holding events)
      (Proc.send (Call.getGoods id) >>= fun current => Proc.attempt current next) := by
  refine call_safe (fun current world => Holding events world ∧
    ∀ goods, current = .ok goods → goods.id = id) (holding_kept events) (fun _ _ _ => trivial) ?_ ?_
  · intro choice world _ hheld _ hstep
    exact ⟨holding_kept events _ _ hstep hheld, fun goods hok => goodsGet_ok (call_value hok).2⟩
  · intro current
    have hkept : discipline.Kept fun world => Holding events world ∧
        ∀ goods, current = .ok goods → goods.id = id :=
      (holding_kept events).and fun _ _ _ hid => hid
    refine attempt_safe hkept (fun err world h => hrefused err world h.1) fun goods hok => ?_
    refine .given (fun world h => h.2.2 goods hok) fun hid => ?_
    exact weaken_safe (hnext goods hid) hkept fun world h => h.1

theorem applyEvent_safe (hevent : event ∈ events) :
    SafeTask (Applied events event) (Holding events) (applyEvent event) := by
  have hrefused (err : AppError) (world : World) (hheld : Holding events world) :
      Applied events event (.error err) world := ⟨hheld, by simp⟩
  cases haction : event.payload.action with
  | upsert =>
    simp only [applyEvent, haction]
    split
    · exact ret_safe (holding_kept events) fun _ _ => hrefused _ _
    · exact getGoods_safe hrefused fun goods hid => searchUpdate_safe hevent hid
  | delete =>
    simp only [applyEvent, haction]
    split
    · exact ret_safe (holding_kept events) fun _ _ => hrefused _ _
    · exact searchDelete_safe hevent haction

theorem recordFailure_plain (event : OutboxEventDO) : (recordFailure event).Issues PlainCall := by
  simp only [recordFailure]
  split
  · exact .call (fun _ => trivial) fun _ => .ret _
  · exact .call (fun _ => trivial) fun _ => .ret _

theorem processGoodsOutboxEvent_safe (hevent : event ∈ events) :
    SafeTask (fun _ => Holding events) (Holding events) (processGoodsOutboxEvent event) := by
  refine (applyEvent_safe hevent).bind fun result => ?_
  have hkept := applied_kept hevent result
  cases result with
  | error err =>
    exact mono_safe (plainCalls_safe hkept (recordFailure_plain event)) fun _ _ h => h.1
  | ok value =>
    refine plain_safe hkept ?_ fun _ => ret_safe hkept fun _ _ h => h.1
    rintro world - ⟨hheld, hsettled⟩
    exact ⟨_, (hheld event hevent).queued, hsettled rfl⟩

theorem processEvents_safe {rest : List OutboxEventDO} (hrest : rest ⊆ events) :
    SafeTask (fun _ => Holding events) (Holding events) (processEvents rest) := by
  have hkept := holding_kept events
  induction rest with
  | nil => exact ret_safe hkept fun _ _ h => h
  | cons event rest ih =>
    obtain ⟨hevent, hrest⟩ := List.cons_subset.mp hrest
    refine (processGoodsOutboxEvent_safe hevent).bind fun _ => ?_
    exact attempt_safe hkept (fun _ _ h => h) fun _ _ => ih hrest

theorem observeGoodsOutboxBacklog_plain (statuses : List OutboxStatus) :
    (observeGoodsOutboxBacklog statuses).Issues PlainCall := by
  induction statuses with
  | nil => exact .ret _
  | cons status rest ih => exact .call (fun _ => trivial) fun _ => .attempt fun _ _ => ih

theorem claimPending_known {topic : String} {limit now : Int} {choice : Choice} {world : World}
    {claimed : List OutboxEventDO} (hstep : ∀ event, Known event world →
      Known event (exec (.claimPending topic limit now) choice world).2)
    (h : (exec (.claimPending topic limit now) choice world).1 = .ok claimed) :
    ∀ event ∈ claimed, Known event (exec (.claimPending topic limit now) choice world).2 := by
  have hclaimed : claimedEvents topic limit now choice.locked world.db = claimed :=
    Except.ok.inj (call_value h).2
  intro event hevent
  apply hstep
  rw [← hclaimed] at hevent
  have hrow := List.mem_of_mem_filter (List.mem_insertionSort _ |>.mp (List.mem_of_mem_take hevent))
  exact ⟨event, hrow, rfl, rfl, rfl⟩

theorem processGoodsOutboxOnce_safe (now : Int) :
    SafeTask (fun _ _ => True) (fun _ => True) (processGoodsOutboxOnce now) := by
  refine plain_safe kept_true (fun _ _ _ => trivial) fun requeued => ?_
  refine attempt_safe kept_true (fun _ _ h => h) fun _ _ => ?_
  refine (plainCalls_safe kept_true (observeGoodsOutboxBacklog_plain _)).bind fun observed => ?_
  refine attempt_safe kept_true (fun _ _ h => h) fun _ _ => ?_
  refine call_safe (fun claimed world => ∀ events, claimed = .ok events → Holding events world)
    kept_true (fun _ _ _ => trivial) ?_ ?_
  · intro choice world _ _ _ hstep events hok
    exact claimPending_known hstep.known hok
  · intro claimed
    have hlearnt : discipline.Kept fun world =>
        ∀ events, claimed = .ok events → Holding events world :=
      fun world world' hstep hheld events hok =>
        holding_kept events world world' hstep (hheld events hok)
    refine attempt_safe hlearnt (fun _ _ _ => trivial) fun events hok => ?_
    have hloop := processEvents_safe (List.Subset.refl events)
    exact weaken_safe (mono_safe hloop fun _ _ _ => trivial) hlearnt fun _ h => h events hok

end Worker

theorem Task.safe (task : Task) : SafeTask (fun _ _ => True) (fun _ => True) task.program := by
  cases task with
  | create goods => exact plainCalls_safe kept_true (create_plain goods)
  | update goods => exact plainCalls_safe kept_true (update_plain goods)
  | delete id => exact plainCalls_safe kept_true (delete_plain id)
  | sweep now => exact processGoodsOutboxOnce_safe now
  | reindex ids => exact plainCalls_safe kept_true ((reindex_plain ids).bind fun _ => .ret _)
  | reindexAll pages =>
    exact plainCalls_safe kept_true ((reindexPages_plain _ _ _).bind fun _ => .ret _)

end Programs

section Runs

variable {ι : Type} [DecidableEq ι]

def started (world : World) (tasks : ι → Task) : Config World ι Call Reply (Result Unit) :=
  ⟨world, fun thread => (tasks thread).program⟩

def AllDone (world : World) : Prop :=
  ∀ event ∈ world.db.outbox, event.status = .done

instance (world : World) : Decidable (AllDone world) :=
  inferInstanceAs (Decidable (∀ event ∈ world.db.outbox, event.status = .done))

def Converged (world : World) : Prop :=
  ∀ id, world.index id = docOf world.db id

theorem Consistent.converged {world : World} (h : Consistent world) (hdone : AllDone world) :
    Converged world := by
  refine fun id => h.sound.in_sync ?_ id
  intro entry hentry
  obtain ⟨event, hevent, rfl⟩ := List.mem_map.mp hentry
  exact decide_eq_true (hdone event hevent)

section Race

local instance threadsNeZero : @NeZero Nat ⟨0⟩ 4 := ⟨Nat.succ_ne_zero _⟩

def emptyShop : World where
  db := { goods := [], outbox := [], brands := [1], categories := [1] }
  index := fun _ => none

theorem emptyShop_consistent : Consistent emptyShop where
  sound := ⟨by simp [mirror, emptyShop], fun _ => .inl rfl⟩
  deletes := by simp [DeletesGone, emptyShop]

def teapot (price : Int) : GoodsDO where
  id := 1
  categoryID := 1
  brandsID := 1
  name := "teapot"
  goodsSn := "T-1"
  storeID := "store-a"
  shopPriceFen := price

def times (thread : Fin 4) (count : Nat) : List (Fin 4 × Choice) :=
  List.replicate count (thread, {})

def raceTasks : Fin 4 → Task
  | 0 => .create (teapot 100)
  | 1 => .sweep 0
  | 2 => .update (teapot 200)
  | 3 => .sweep 0

def raceSteps : List (Fin 4 × Choice) :=
  times 0 3 ++ times 1 6 ++ times 2 4 ++ times 3 8 ++ times 1 2

end Race

end Runs

end Goshop.Goods.Convergence
