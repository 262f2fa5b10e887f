import Goshop.Lib.OuterJoin
import Goshop.Lib.Sql
import Goshop.Lib.Table
import Goshop.Order.Model

/-! `ReconcilePayments` compares the statement of a payment provider with the
payment events of a time window. Its two loops over the statement and over the
local events compute the full outer join of the two on the event id. -/
namespace Goshop.Order.Reconciliation

open Goshop.Errors Goshop.Lib Goshop.Lib.Transaction Goshop.Lib.OuterJoin Goshop.Order.Model

def eventTypeText : EventType → String
  | .paymentSucceeded => "payment_succeeded"
  | .paymentFailed => "payment_failed"
  | .refundSucceeded => "refund_succeeded"
  | .refundFailed => "refund_failed"
  | .other text => text

inductive ItemResult
  | matched
  | mismatch
  | missingLocal
  | missingProvider
deriving DecidableEq, Repr

def ItemResult.text : ItemResult → String
  | .matched => "matched"
  | .mismatch => "mismatch"
  | .missingLocal => "missing_local"
  | .missingProvider => "missing_provider"

inductive RunStatus
  | processing
  | completed
deriving DecidableEq, Repr

structure PaymentReconciliationRunDO where
  id : Int
  provider : String
  windowStart : Int
  windowEnd : Int
  startedAt : Int
  finishedAt : Option Int := none
  checkedCount : Int := 0
  mismatchCount : Int := 0
  status : RunStatus := .processing
deriving DecidableEq, Repr

structure PaymentReconciliationItemDO where
  runID : Int
  providerEventID : String
  orderSN : String
  tradeNo : String
  eventType : String
  providerAmountFen : Int := 0
  localAmountFen : Int := 0
  result : ItemResult
  detail : String
  createdAt : Int
deriving DecidableEq, Repr

structure ReconciliationDB where
  events : List PaymentEventDO
  runs : List PaymentReconciliationRunDO
  items : List PaymentReconciliationItemDO
deriving DecidableEq, Repr

abbrev ReconciliationTxn := Txn AppError ReconciliationDB

def reconcileError : AppError := wrapDatabase "reconcile payments"

def Agree (remote stored : PaymentEventDO) : Prop :=
  stored.orderSN = remote.orderSN ∧ stored.tradeNo = remote.tradeNo ∧
    eventTypeText stored.eventType = eventTypeText remote.eventType ∧
    stored.providerAmountFen = remote.providerAmountFen

instance (remote stored : PaymentEventDO) : Decidable (Agree remote stored) :=
  inferInstanceAs (Decidable (_ ∧ _))

def validTransaction (transaction : PaymentEventDO) : Bool :=
  GoText.trimSpace transaction.eventID ≠ "" && GoText.trimSpace transaction.orderSN ≠ "" &&
    GoText.trimSpace (eventTypeText transaction.eventType) ≠ "" &&
    0 ≤ transaction.providerAmountFen

def distinctEvents (providerEvents : List String) : List PaymentEventDO → Bool
  | [] => true
  | transaction :: rest =>
    if transaction.eventID ∈ providerEvents then false
    else distinctEvents (transaction.eventID :: providerEvents) rest

/-- The provider is compared by its characters, as in `Goshop.Lib.Sql`. -/
def windowEvents (db : ReconciliationDB) (provider : String) (windowStart windowEnd : Int) :
    List PaymentEventDO :=
  db.events.filter fun event =>
    event.provider = provider ∧ windowStart ≤ event.receivedAt ∧ event.receivedAt < windowEnd

def putEvent (found : String → Option PaymentEventDO) (stored : PaymentEventDO) :
    String → Option PaymentEventDO :=
  Function.update found stored.eventID (some stored)

/-- The map of the local events; a later event of the same id replaces the
earlier one. -/
def localByEvent (locals : List PaymentEventDO) : String → Option PaymentEventDO :=
  locals.foldl putEvent fun _ => none

def remoteItem (runID now : Int) (remote : PaymentEventDO) (found : Option PaymentEventDO) :
    PaymentReconciliationItemDO :=
  let item (result : ItemResult) (detail : String) (localAmount : Int) :
      PaymentReconciliationItemDO :=
    { runID := runID, providerEventID := remote.eventID, orderSN := remote.orderSN
      tradeNo := remote.tradeNo, eventType := eventTypeText remote.eventType
      providerAmountFen := remote.providerAmountFen, localAmountFen := localAmount
      result := result, detail := detail, createdAt := now }
  match found with
  | none => item .missingLocal "provider transaction missing locally" 0
  | some stored =>
    if Agree remote stored then item .matched "" stored.providerAmountFen
    else item .mismatch "provider and local transaction differ" stored.providerAmountFen

def localItem (runID now : Int) (stored : PaymentEventDO) : PaymentReconciliationItemDO where
  runID := runID
  providerEventID := stored.eventID
  orderSN := stored.orderSN
  tradeNo := stored.tradeNo
  eventType := eventTypeText stored.eventType
  localAmountFen := stored.providerAmountFen
  result := .missingProvider
  detail := "local transaction missing from provider statement"
  createdAt := now

structure Tally where
  seen : List String := []
  items : List PaymentReconciliationItemDO := []
  mismatches : Nat := 0
deriving DecidableEq, Repr

def compareRemote (found : String → Option PaymentEventDO) (runID now : Int) (tally : Tally)
    (remote : PaymentEventDO) : Tally :=
  let item := remoteItem runID now remote (found remote.eventID)
  { seen := remote.eventID :: tally.seen
    items := tally.items ++ [item]
    mismatches := if item.result ≠ .matched then tally.mismatches + 1 else tally.mismatches }

def collectLocal (runID now : Int) (tally : Tally) (stored : PaymentEventDO) : Tally :=
  if stored.eventID ∈ tally.seen then tally
  else
    { tally with
      items := tally.items ++ [localItem runID now stored]
      mismatches := tally.mismatches + 1 }

def fitsItem (item : PaymentReconciliationItemDO) : Bool :=
  Sql.fitsVarchar 128 item.providerEventID && Sql.fitsVarchar 64 item.orderSN &&
    Sql.fitsVarchar 128 item.tradeNo && Sql.fitsVarchar 32 item.eventType

def createItems (items : List PaymentReconciliationItemDO) : ReconciliationTxn Unit := do
  let db ← Txn.read
  Txn.guard (items.all fitsItem &&
      decide (((db.items ++ items).map fun item => (item.runID, item.providerEventID)).Nodup))
    reconcileError
  Txn.write { db with items := db.items ++ items }

def createRun (run : PaymentReconciliationRunDO) : ReconciliationTxn Unit := do
  let db ← Txn.read
  Txn.guard (Sql.fitsVarchar 32 run.provider) reconcileError
  Txn.write { db with runs := db.runs ++ [run] }

def updateRun (run : PaymentReconciliationRunDO) : ReconciliationTxn Unit := do
  let db ← Txn.read
  Txn.guard (decide (Sql.FitsInt run.checkedCount ∧ Sql.FitsInt run.mismatchCount)) reconcileError
  Txn.write { db with runs := Table.modify (·.id) run.id (fun _ => run) db.runs }

/-- The transaction of `ReconcilePayments`; `now` and `finished` are the two
times at which it reads the clock. -/
def reconcileTxn (provider : String) (windowStart windowEnd : Int)
    (transactions : List PaymentEventDO) (now finished : Int) :
    ReconciliationTxn PaymentReconciliationRunDO := do
  let db ← Txn.read
  let run : PaymentReconciliationRunDO :=
    { id := Sql.nextId (db.runs.map (·.id)), provider := provider, windowStart := windowStart
      windowEnd := windowEnd, startedAt := now }
  createRun run
  let locals := windowEvents db provider windowStart windowEnd
  let tally := transactions.foldl (compareRemote (localByEvent locals) run.id now) {}
  let tally := locals.foldl (collectLocal run.id now) tally
  Txn.when (tally.items ≠ []) (createItems tally.items)
  let run :=
    { run with
      finishedAt := some finished
      checkedCount := tally.items.length
      mismatchCount := tally.mismatches
      status := .completed }
  updateRun run
  pure run

def reconcilePayments (table : GoText.CaseTable) (provider : String) (windowStart windowEnd : Int)
    (transactions : List PaymentEventDO) (now finished : Int) :
    ReconciliationTxn PaymentReconciliationRunDO := do
  let provider := table.lowerTrim provider
  Txn.guard (provider ≠ "" && windowStart < windowEnd)
    (newCode .errValidation "invalid reconciliation request")
  Txn.guard (transactions.length ≤ 10000)
    (newCode .errValidation "reconciliation batch is too large")
  Txn.guard (transactions.all validTransaction)
    (newCode .errValidation "provider transaction is invalid")
  Txn.guard (distinctEvents [] transactions)
    (newCode .errValidation "provider statement contains duplicate event_id")
  reconcileTxn provider windowStart windowEnd transactions now finished

section Loops

variable {locals transactions : List PaymentEventDO} {runID now : Int}

theorem distinctEvents_iff {seen : List String} :
    distinctEvents seen transactions = true ↔
      (transactions.map (·.eventID)).Nodup ∧ ∀ transaction ∈ transactions,
        transaction.eventID ∉ seen := by
  induction transactions generalizing seen with
  | nil => simp [distinctEvents]
  | cons transaction rest ih =>
    rw [distinctEvents]
    by_cases hseen : transaction.eventID ∈ seen
    · simp [hseen]
    · rw [if_neg hseen, ih, List.map_cons, List.nodup_cons, List.forall_mem_cons]
      simp only [List.mem_map, List.mem_cons, not_or, not_exists, not_and]
      constructor
      · rintro ⟨hrest, hfresh⟩
        exact ⟨⟨fun other hother => (hfresh other hother).1, hrest⟩, hseen,
          fun other hother => (hfresh other hother).2⟩
      · rintro ⟨⟨hother, hrest⟩, -, hfresh⟩
        exact ⟨hrest, fun other hmem => ⟨hother other hmem, hfresh other hmem⟩⟩

theorem foldl_putEvent (unique : (locals.map (·.eventID)).Nodup)
    (found : String → Option PaymentEventDO) (eventID : String) :
    locals.foldl putEvent found eventID =
      (locals.find? (·.eventID = eventID)).or (found eventID) := by
  induction locals generalizing found with
  | nil => rfl
  | cons stored rest ih =>
    rw [List.map_cons, List.nodup_cons] at unique
    rw [List.foldl_cons, ih unique.2, List.find?_cons, putEvent]
    by_cases hkey : stored.eventID = eventID
    · have hrest : rest.find? (·.eventID = eventID) = none := by
        rw [List.find?_eq_none]
        intro other hother hsame
        refine unique.1 (List.mem_map.mpr ⟨other, hother, ?_⟩)
        rw [hkey]
        exact of_decide_eq_true hsame
      rw [hrest, hkey, Function.update_self, decide_eq_true rfl]
      rfl
    · rw [Function.update_of_ne (Ne.symm hkey), decide_eq_false hkey]

theorem localByEvent_eq (unique : (locals.map (·.eventID)).Nodup) (eventID : String) :
    localByEvent locals eventID = locals.find? (·.eventID = eventID) := by
  rw [localByEvent, foldl_putEvent unique, Option.or_none]

def joinedItem (runID now : Int) : Joined PaymentEventDO PaymentEventDO →
    PaymentReconciliationItemDO
  | .both remote stored => remoteItem runID now remote (some stored)
  | .onlyLeft remote => remoteItem runID now remote none
  | .onlyRight stored => localItem runID now stored

theorem remoteItem_probe (remote : PaymentEventDO) :
    remoteItem runID now remote (locals.find? (·.eventID = remote.eventID)) =
      joinedItem runID now (probe (·.eventID) (·.eventID) locals remote) := by
  unfold probe
  split <;> rename_i hfind <;> rw [hfind] <;> rfl

theorem foldl_compareRemote (found : String → Option PaymentEventDO) (tally : Tally) :
    transactions.foldl (compareRemote found runID now) tally =
      let items := transactions.map fun remote =>
        remoteItem runID now remote (found remote.eventID)
      { seen := (transactions.map (·.eventID)).reverse ++ tally.seen
        items := tally.items ++ items
        mismatches := tally.mismatches + items.countP (·.result ≠ .matched) } := by
  induction transactions generalizing tally with
  | nil => simp
  | cons remote rest ih =>
    rw [List.foldl_cons, ih]
    simp only [compareRemote, List.map_cons, List.reverse_cons, List.append_assoc,
      List.cons_append, List.nil_append, List.countP_cons, Tally.mk.injEq, true_and]
    by_cases hmatched : (remoteItem runID now remote (found remote.eventID)).result = .matched
    · simp [hmatched]
    · simp only [ne_eq, hmatched, not_false_eq_true, if_true, decide_true]
      omega

theorem foldl_collectLocal (tally : Tally) :
    locals.foldl (collectLocal runID now) tally =
      let items := (locals.filter fun stored => stored.eventID ∉ tally.seen).map
        (localItem runID now)
      { tally with
        items := tally.items ++ items
        mismatches := tally.mismatches + items.length } := by
  induction locals generalizing tally with
  | nil => simp
  | cons stored rest ih =>
    rw [List.foldl_cons, ih]
    by_cases hseen : stored.eventID ∈ tally.seen
    · simp [collectLocal, hseen]
    · simp only [collectLocal, hseen, if_false, List.filter_cons, not_false_eq_true, decide_true,
        if_true, List.map_cons, List.length_cons, List.append_assoc, List.cons_append,
        List.nil_append, Tally.mk.injEq, true_and]
      omega

/-- Both loops together: the items of the outer join, and how many of them do
not match. -/
theorem tally_eq (unique : (locals.map (·.eventID)).Nodup) :
    let tally := locals.foldl (collectLocal runID now)
      (transactions.foldl (compareRemote (localByEvent locals) runID now) {})
    tally.items = (outerJoin (·.eventID) (·.eventID) transactions locals).map
        (joinedItem runID now) ∧
      tally.mismatches = tally.items.countP (·.result ≠ .matched) := by
  simp only [foldl_compareRemote, foldl_collectLocal, List.nil_append, List.append_nil,
    List.mem_reverse, localByEvent_eq unique]
  constructor
  · rw [outerJoin, List.map_append, List.map_map, List.map_map]
    congr 1
    apply List.map_congr_left
    intro remote _
    exact remoteItem_probe remote
  · have hlocal : ∀ item ∈ (locals.filter fun stored =>
        stored.eventID ∉ transactions.map (·.eventID)).map (localItem runID now),
        decide (item.result ≠ .matched) = true := by
      intro item hitem
      obtain ⟨stored, -, rfl⟩ := List.mem_map.mp hitem
      rfl
    rw [List.countP_append, List.countP_eq_length.mpr hlocal, zero_add]

end Loops

section Results

variable {runID now : Int} {joined : Joined PaymentEventDO PaymentEventDO}

@[simp] theorem remoteItem_event (remote : PaymentEventDO) (found : Option PaymentEventDO) :
    (remoteItem runID now remote found).providerEventID = remote.eventID := by
  unfold remoteItem
  split
  · rfl
  · split <;> rfl

@[simp] theorem remoteItem_runID (remote : PaymentEventDO) (found : Option PaymentEventDO) :
    (remoteItem runID now remote found).runID = runID := by
  unfold remoteItem
  split
  · rfl
  · split <;> rfl

theorem joinedItem_event (joined : Joined PaymentEventDO PaymentEventDO) :
    (joinedItem runID now joined).providerEventID = joined.key (·.eventID) (·.eventID) := by
  cases joined with
  | both remote stored => exact remoteItem_event remote (some stored)
  | onlyLeft remote => exact remoteItem_event remote none
  | onlyRight stored => rfl

theorem joinedItem_runID (joined : Joined PaymentEventDO PaymentEventDO) :
    (joinedItem runID now joined).runID = runID := by
  cases joined with
  | both remote stored => exact remoteItem_runID remote (some stored)
  | onlyLeft remote => exact remoteItem_runID remote none
  | onlyRight stored => rfl

@[simp] theorem both_result (remote stored : PaymentEventDO) :
    (joinedItem runID now (.both remote stored)).result =
      if Agree remote stored then .matched else .mismatch := by
  simp only [joinedItem, remoteItem]
  split <;> rfl

@[simp] theorem onlyLeft_result (remote : PaymentEventDO) :
    (joinedItem runID now (.onlyLeft remote)).result = .missingLocal := rfl

@[simp] theorem onlyRight_result (stored : PaymentEventDO) :
    (joinedItem runID now (.onlyRight stored)).result = .missingProvider := rfl

theorem result_matched :
    (joinedItem runID now joined).result = .matched ↔
      ∃ remote stored, joined = .both remote stored ∧ Agree remote stored := by
  cases joined <;> simp

theorem result_mismatch :
    (joinedItem runID now joined).result = .mismatch ↔
      ∃ remote stored, joined = .both remote stored ∧ ¬Agree remote stored := by
  cases joined <;> simp

theorem result_missingLocal :
    (joinedItem runID now joined).result = .missingLocal ↔
      ∃ remote, joined = .onlyLeft remote := by
  cases joined with
  | both remote stored => by_cases h : Agree remote stored <;> simp [h]
  | onlyLeft remote => simp
  | onlyRight stored => simp

theorem result_missingProvider :
    (joinedItem runID now joined).result = .missingProvider ↔
      ∃ stored, joined = .onlyRight stored := by
  cases joined with
  | both remote stored => by_cases h : Agree remote stored <;> simp [h]
  | onlyLeft remote => simp
  | onlyRight stored => simp

end Results

def OnBoth (transactions locals : List PaymentEventDO) (eventID : String)
    (related : PaymentEventDO → PaymentEventDO → Prop) : Prop :=
  ∃ remote ∈ transactions, ∃ stored ∈ locals, remote.eventID = eventID ∧
    stored.eventID = eventID ∧ related remote stored

structure OuterJoined (transactions locals : List PaymentEventDO)
    (items : List PaymentReconciliationItemDO) : Prop where
  once : ∀ eventID, items.countP (·.providerEventID = eventID) =
    if eventID ∈ transactions.map (·.eventID) ∨ eventID ∈ locals.map (·.eventID) then 1 else 0
  matched : ∀ item ∈ items, item.result = .matched ↔
    OnBoth transactions locals item.providerEventID Agree
  mismatch : ∀ item ∈ items, item.result = .mismatch ↔
    OnBoth transactions locals item.providerEventID fun remote stored => ¬Agree remote stored
  missingLocal : ∀ item ∈ items, item.result = .missingLocal ↔
    item.providerEventID ∈ transactions.map (·.eventID) ∧
      item.providerEventID ∉ locals.map (·.eventID)
  missingProvider : ∀ item ∈ items, item.result = .missingProvider ↔
    item.providerEventID ∉ transactions.map (·.eventID) ∧
      item.providerEventID ∈ locals.map (·.eventID)

theorem outerJoined_of_join {transactions locals : List PaymentEventDO} {runID now : Int}
    (distinct : (transactions.map (·.eventID)).Nodup) (unique : (locals.map (·.eventID)).Nodup) :
    OuterJoined transactions locals
      ((outerJoin (·.eventID) (·.eventID) transactions locals).map (joinedItem runID now)) where
  once eventID := by
    have hcount := (outerJoin_nodup distinct unique).count (a := eventID)
    simp only [mem_outerJoin_keys] at hcount
    rw [← hcount, List.countP_map, List.count, List.countP_map]
    apply List.countP_congr
    intro joined _
    simp [joinedItem_event]
  matched item hitem := by
    obtain ⟨joined, hjoined, rfl⟩ := List.mem_map.mp hitem
    rw [result_matched, joinedItem_event]
    exact both_iff distinct unique hjoined
  mismatch item hitem := by
    obtain ⟨joined, hjoined, rfl⟩ := List.mem_map.mp hitem
    rw [result_mismatch, joinedItem_event]
    exact both_iff distinct unique hjoined
  missingLocal item hitem := by
    obtain ⟨joined, hjoined, rfl⟩ := List.mem_map.mp hitem
    rw [result_missingLocal, joinedItem_event]
    exact onlyLeft_iff distinct unique hjoined
  missingProvider item hitem := by
    obtain ⟨joined, hjoined, rfl⟩ := List.mem_map.mp hitem
    rw [result_missingProvider, joinedItem_event]
    exact onlyRight_iff distinct unique hjoined

section Store

variable {db db' : ReconciliationDB} {provider : String} {windowStart windowEnd now finished : Int}
  {transactions : List PaymentEventDO} {run : PaymentReconciliationRunDO}

theorem createRun_ok (h : createRun run db = .ok ((), db')) :
    db' = { db with runs := db.runs ++ [run] } := by
  simp only [createRun, Txn.read_bind, Txn.guard_bind_ok, Txn.write_ok] at h
  obtain ⟨-, hend⟩ := h
  cases hend
  rfl

theorem createItems_ok {items : List PaymentReconciliationItemDO}
    (h : Txn.when (items ≠ []) (createItems items) db = .ok ((), db')) :
    db' = { db with items := db.items ++ items } := by
  rw [Txn.when_ok] at h
  split at h
  · simp only [createItems, Txn.read_bind, Txn.guard_bind_ok, Txn.write_ok] at h
    obtain ⟨-, hend⟩ := h
    cases hend
    rfl
  · rename_i hempty
    cases h
    simp_all

theorem updateRun_ok (h : updateRun run db = .ok ((), db')) :
    db' = { db with runs := Table.modify (·.id) run.id (fun _ => run) db.runs } := by
  simp only [updateRun, Txn.read_bind, Txn.guard_bind_ok, Txn.write_ok] at h
  obtain ⟨-, hend⟩ := h
  cases hend
  rfl

theorem reconcileTxn_ok
    (h : reconcileTxn provider windowStart windowEnd transactions now finished db =
      .ok (run, db')) :
    let locals := windowEvents db provider windowStart windowEnd
    let tally := locals.foldl (collectLocal run.id now)
      (transactions.foldl (compareRemote (localByEvent locals) run.id now) {})
    db' = { db with runs := db.runs ++ [run], items := db.items ++ tally.items } ∧
      run.checkedCount = tally.items.length ∧ run.mismatchCount = tally.mismatches := by
  simp only [reconcileTxn, Txn.read_bind, Txn.bind_ok, Txn.pure_ok] at h
  obtain ⟨_, created, hcreate, _, inserted, hinsert, _, updated, hupdate, hend⟩ := h
  cases hend
  have hfresh : ∀ other ∈ db.runs, other.id ≠ Sql.nextId (db.runs.map (·.id)) := by
    intro other hother
    exact (Sql.lt_nextId (List.mem_map_of_mem hother)).ne
  refine ⟨?_, rfl, rfl⟩
  rw [updateRun_ok hupdate, createItems_ok hinsert, createRun_ok hcreate]
  congr 1
  exact Table.modify_last rfl hfresh

theorem windowEvents_unique (provider : String) (windowStart windowEnd : Int)
    (unique : (db.events.map fun event => (event.provider, event.eventID)).Nodup) :
    ((windowEvents db provider windowStart windowEnd).map (·.eventID)).Nodup := by
  have hwindow : (windowEvents db provider windowStart windowEnd).Sublist db.events :=
    List.filter_sublist
  have hpairs := unique.sublist (hwindow.map fun event => (event.provider, event.eventID))
  have hsame : (windowEvents db provider windowStart windowEnd).map
      (fun event => (event.provider, event.eventID)) =
      ((windowEvents db provider windowStart windowEnd).map (·.eventID)).map
        fun eventID => (provider, eventID) := by
    rw [List.map_map]
    apply List.map_congr_left
    intro event hevent
    have hselected := of_decide_eq_true (List.mem_filter.mp hevent).2
    rw [Function.comp_apply, hselected.1]
  rw [hsame] at hpairs
  exact hpairs.of_map

/-- For every provider, window, statement and table of payment events with
unique event ids: a reconciliation that succeeds stores the full outer join of
the two sides, and counts it. -/
theorem reconciliation_is_outer_join (table : GoText.CaseTable)
    (unique : (db.events.map fun event => (event.provider, event.eventID)).Nodup)
    (h : reconcilePayments table provider windowStart windowEnd transactions now finished db =
      .ok (run, db')) :
    ∃ items, db'.items = db.items ++ items ∧ (∀ item ∈ items, item.runID = run.id) ∧
      OuterJoined transactions
        (windowEvents db (table.lowerTrim provider) windowStart windowEnd) items ∧
      db'.runs = db.runs ++ [run] ∧ run.checkedCount = items.length ∧
      run.mismatchCount = items.countP (·.result ≠ .matched) := by
  simp only [reconcilePayments, Txn.guard_bind_ok] at h
  obtain ⟨-, -, -, hdistinct, hrun⟩ := h
  have hlocals := windowEvents_unique (table.lowerTrim provider) windowStart windowEnd unique
  obtain ⟨hitems, hmismatches⟩ := @tally_eq _ transactions run.id now hlocals
  obtain ⟨hdb', hchecked, hmismatch⟩ := reconcileTxn_ok hrun
  rw [hmismatches] at hmismatch
  rw [hitems] at hdb' hchecked hmismatch
  refine ⟨_, by rw [hdb'], ?_, ?_, by rw [hdb'], hchecked, hmismatch⟩
  · intro item hitem
    obtain ⟨joined, -, rfl⟩ := List.mem_map.mp hitem
    exact joinedItem_runID joined
  · exact outerJoined_of_join (distinctEvents_iff.mp hdistinct).1 hlocals

end Store

def paymentEvent (eventID : String) (amountFen receivedAt : Int) : PaymentEventDO where
  id := 1
  provider := "mock"
  eventID := eventID
  orderSN := "S1"
  tradeNo := "T1"
  eventType := .paymentSucceeded
  orderAmountFen := 100
  providerAmountFen := amountFen
  refundAmountFen := 0
  status := .completed
  errorDetail := ""
  receivedAt := receivedAt
  completedAt := none

theorem reconciliation_is_outer_join_four_results :
    let db : ReconciliationDB :=
      ⟨[paymentEvent "e1" 100 10, paymentEvent "e2" 90 20, paymentEvent "e4" 100 30,
        paymentEvent "e5" 100 99], [], []⟩
    let transactions := [paymentEvent "e1" 100 0, paymentEvent "e2" 100 0, paymentEvent "e3" 100 0]
    let run : PaymentReconciliationRunDO := ⟨1, "mock", 0, 50, 60, some 61, 4, 3, .completed⟩
    let db' : ReconciliationDB := ⟨db.events, [run],
      [remoteItem 1 60 (paymentEvent "e1" 100 0) (some (paymentEvent "e1" 100 10)),
        remoteItem 1 60 (paymentEvent "e2" 100 0) (some (paymentEvent "e2" 90 20)),
        remoteItem 1 60 (paymentEvent "e3" 100 0) none,
        localItem 1 60 (paymentEvent "e4" 100 30)]⟩
    reconcilePayments GoText.asciiTable " Mock " 0 50 transactions 60 61 db = .ok (run, db') ∧
      db'.items.map (·.result) = [.matched, .mismatch, .missingLocal, .missingProvider] ∧
      ∃ items, db'.items = db.items ++ items ∧ (∀ item ∈ items, item.runID = run.id) ∧
        OuterJoined transactions
          (windowEvents db (GoText.asciiTable.lowerTrim " Mock ") 0 50) items ∧
        db'.runs = db.runs ++ [run] ∧ run.checkedCount = items.length ∧
        run.mismatchCount = items.countP (·.result ≠ .matched) := by
  intro db transactions run db'
  have hrun : reconcilePayments GoText.asciiTable " Mock " 0 50 transactions 60 61 db =
      .ok (run, db') := by decide +kernel
  exact ⟨hrun, by decide +kernel,
    reconciliation_is_outer_join GoText.asciiTable (by decide +kernel) hrun⟩

end Goshop.Order.Reconciliation
