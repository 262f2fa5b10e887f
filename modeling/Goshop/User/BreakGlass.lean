import Goshop.Errors
import Goshop.Lib.GoText
import Goshop.Lib.Run
import Goshop.Lib.Sql
import Goshop.Lib.Table
import Goshop.Lib.Transaction

/-! Break-glass approvals of the user service. An approval is requested by one
user, approved by another one and used once, all before it expires; each
transaction locks the row of the approval. Ids are compared by their characters, so
what follows is about ids that the collation of the table tells apart. -/
namespace Goshop.User.BreakGlass

open Goshop.Errors Goshop.Lib Goshop.Lib.Transaction Goshop.Lib.Run
open Goshop.Lib.GoText (trimSpace)

inductive ApprovalStatus where
  | pending
  | approved
  | used
deriving DecidableEq, Repr

structure BreakGlassApprovalDO where
  id : String
  requesterUserID : Int
  approverUserID : Int
  status : ApprovalStatus
  reason : String
  requestID : String
  createdAt : Int
  approvedAt : Option Int
  expiresAt : Int
  usedAt : Option Int
deriving DecidableEq, Repr

abbrev Approvals := List BreakGlassApprovalDO

abbrev ApprovalTxn := Txn AppError Approvals

def createBreakGlassApproval (id : String) (requesterUserID : Int) (reason requestID : String)
    (expiresAt now : Int) : ApprovalTxn Unit := do
  let reason := trimSpace reason
  let requestID := trimSpace requestID
  Txn.guard (0 < requesterUserID ∧ reason ≠ "" ∧ requestID ≠ "" ∧ now < expiresAt)
    (newCode .errValidation "invalid break-glass approval request")
  Txn.guard (id ≠ "") (newCode .errValidation "break-glass approval is invalid")
  let rows ← Txn.read
  Txn.guard (Sql.fitsVarchar 36 id && Sql.fitsVarchar 255 reason && Sql.fitsVarchar 128 requestID &&
    !rows.any (·.id = id)) (wrapDatabase "user database operation")
  Txn.write (rows ++
    [⟨id, requesterUserID, 0, .pending, reason, requestID, now, none, expiresAt, none⟩])

def approveRow (approverUserID : Int) (requestID : String) (now : Int)
    (row : BreakGlassApprovalDO) : BreakGlassApprovalDO :=
  { row with
    approverUserID := approverUserID
    status := .approved
    requestID := requestID
    approvedAt := some now }

def consumeRow (requestID : String) (now : Int) (row : BreakGlassApprovalDO) :
    BreakGlassApprovalDO :=
  { row with
    status := .used
    requestID := requestID
    usedAt := some now }

/-- A transaction on one locked row: its checks, and the row it writes. -/
def onApproval (approvalID requestID : String) (missing : AppError) (operation : String)
    (check : BreakGlassApprovalDO → Except AppError Unit)
    (change : BreakGlassApprovalDO → BreakGlassApprovalDO) : ApprovalTxn Unit := do
  let rows ← Txn.read
  match rows.find? (·.id = approvalID) with
  | none => Txn.fail missing
  | some approval => do
    Txn.lift (check approval)
    Txn.guard (Sql.fitsVarchar 128 requestID) (wrapDatabase operation)
    Txn.write (Table.modify (·.id) approvalID change rows)

def notApprovable : AppError := newCode .errValidation "break-glass approval is not approvable"

def notUsable : AppError := newCode .errValidation "break-glass approval is not usable"

def checkApprove (approverUserID now : Int) (approval : BreakGlassApprovalDO) :
    Except AppError Unit :=
  if approval.status ≠ .pending ∨ approval.expiresAt ≤ now then .error notApprovable
  else if approval.requesterUserID = approverUserID then
    .error (newCode .errValidation "break-glass approver must be different from requester")
  else .ok ()

def checkConsume (requesterUserID now : Int) (approval : BreakGlassApprovalDO) :
    Except AppError Unit :=
  if approval.status ≠ .approved ∨ approval.requesterUserID ≠ requesterUserID ∨
      approval.expiresAt ≤ now ∨ approval.usedAt ≠ none then .error notUsable
  else .ok ()

def approveBreakGlassApproval (approvalID : String) (approverUserID : Int) (requestID : String)
    (now : Int) : ApprovalTxn Unit :=
  let requestID := trimSpace requestID
  onApproval (trimSpace approvalID) requestID notApprovable "approve break-glass approval"
    (checkApprove approverUserID now) (approveRow approverUserID requestID now)

def consumeBreakGlassApproval (approvalID : String) (requesterUserID : Int) (requestID : String)
    (now : Int) : ApprovalTxn Unit :=
  let requestID := trimSpace requestID
  onApproval (trimSpace approvalID) requestID notUsable "consume break-glass approval"
    (checkConsume requesterUserID now) (consumeRow requestID now)

section Steps

inductive Request where
  | create (id : String) (requesterUserID : Int) (reason requestID : String) (expiresAt : Int)
  | approve (approvalID : String) (approverUserID : Int) (requestID : String)
  | consume (approvalID : String) (requesterUserID : Int) (requestID : String)
deriving DecidableEq, Repr

structure Step where
  now : Int
  request : Request
deriving DecidableEq, Repr

def serve : Step → ApprovalTxn Unit
  | ⟨now, .create id requesterUserID reason requestID expiresAt⟩ =>
    createBreakGlassApproval id requesterUserID reason requestID expiresAt now
  | ⟨now, .approve approvalID approverUserID requestID⟩ =>
    approveBreakGlassApproval approvalID approverUserID requestID now
  | ⟨now, .consume approvalID requesterUserID requestID⟩ =>
    consumeBreakGlassApproval approvalID requesterUserID requestID now

def after (rows : Approvals) (step : Step) : Approvals :=
  (Txn.commit (serve step) rows).2

def Step.approvalID (step : Step) : String :=
  match step.request with
  | .create id _ _ _ _ => id
  | .approve approvalID _ _ => trimSpace approvalID
  | .consume approvalID _ _ => trimSpace approvalID

inductive Event where
  | created (requesterUserID expiresAt : Int)
  | approved (approverUserID now : Int)
  | consumed (requesterUserID now : Int)
deriving DecidableEq, Repr

def Step.event (step : Step) : Event :=
  match step.request with
  | .create _ requesterUserID _ _ expiresAt => .created requesterUserID expiresAt
  | .approve _ approverUserID _ => .approved approverUserID step.now
  | .consume _ requesterUserID _ => .consumed requesterUserID step.now

def eventOf (id : String) (rows : Approvals) (step : Step) : List Event :=
  match serve step rows with
  | .ok _ => if step.approvalID = id then [step.event] else []
  | .error _ => []

def history (id : String) : Approvals → List Step → List Event
  | _, [] => []
  | rows, step :: rest => eventOf id rows step ++ history id (after rows step) rest

variable {rows rows' : Approvals} {id : String}

theorem createBreakGlassApproval_ok {requesterUserID expiresAt now : Int}
    {reason requestID : String}
    (h : createBreakGlassApproval id requesterUserID reason requestID expiresAt now rows =
      .ok ((), rows')) :
    (∀ row ∈ rows, row.id ≠ id) ∧ ∃ row : BreakGlassApprovalDO, row.id = id ∧
      row.requesterUserID = requesterUserID ∧ row.status = .pending ∧
      row.expiresAt = expiresAt ∧ rows' = rows ++ [row] := by
  simp only [createBreakGlassApproval, Txn.guard_bind_ok, Txn.read_bind, Txn.write_ok,
    Bool.and_eq_true, Bool.not_eq_true', List.any_eq_false] at h
  obtain ⟨-, -, ⟨-, hunused⟩, hrows⟩ := h
  cases hrows
  exact ⟨by simpa using hunused, _, rfl, rfl, rfl, rfl, rfl⟩

theorem onApproval_ok {approvalID requestID operation : String} {missing : AppError}
    {check : BreakGlassApprovalDO → Except AppError Unit}
    {change : BreakGlassApprovalDO → BreakGlassApprovalDO}
    (h : onApproval approvalID requestID missing operation check change rows = .ok ((), rows')) :
    ∃ approval, rows.find? (·.id = approvalID) = some approval ∧ check approval = .ok () ∧
      rows' = Table.modify (·.id) approvalID change rows := by
  unfold onApproval at h
  rw [Txn.read_bind] at h
  cases hfind : rows.find? (·.id = approvalID) with
  | none => simp [hfind] at h
  | some approval =>
    rw [hfind] at h
    simp only [Txn.lift_bind_ok, Txn.guard_bind_ok, Txn.write_ok] at h
    obtain ⟨_, hcheck, -, hrows⟩ := h
    cases hrows
    exact ⟨approval, rfl, hcheck, rfl⟩

theorem checkApprove_ok {approverUserID now : Int} {approval : BreakGlassApprovalDO}
    (h : checkApprove approverUserID now approval = .ok ()) :
    approval.status = .pending ∧ now < approval.expiresAt ∧
      approverUserID ≠ approval.requesterUserID := by
  unfold checkApprove at h
  split at h
  · cases h
  · rename_i hopen
    simp only [not_or, not_not, not_le] at hopen
    split at h
    · cases h
    · rename_i hother
      exact ⟨hopen.1, hopen.2, Ne.symm hother⟩

theorem checkConsume_ok {requesterUserID now : Int} {approval : BreakGlassApprovalDO}
    (h : checkConsume requesterUserID now approval = .ok ()) :
    approval.status = .approved ∧ approval.requesterUserID = requesterUserID ∧
      now < approval.expiresAt := by
  unfold checkConsume at h
  split at h
  · cases h
  · rename_i husable
    simp only [not_or, not_not, not_le] at husable
    exact ⟨husable.1, husable.2.1, husable.2.2.1⟩

end Steps

section Traces

/-- The row of an approval against the successful steps on it. -/
inductive Traced : Option BreakGlassApprovalDO → List Event → Prop
  | absent : Traced none []
  | pending {row : BreakGlassApprovalDO} (hstatus : row.status = .pending) :
    Traced (some row) [.created row.requesterUserID row.expiresAt]
  | approved {row : BreakGlassApprovalDO} {approverUserID approvedAt : Int}
    (hstatus : row.status = .approved) (hother : approverUserID ≠ row.requesterUserID)
    (hearly : approvedAt < row.expiresAt) :
    Traced (some row)
      [.created row.requesterUserID row.expiresAt, .approved approverUserID approvedAt]
  | used {row : BreakGlassApprovalDO} {approverUserID approvedAt usedAt : Int}
    (hstatus : row.status = .used) (hother : approverUserID ≠ row.requesterUserID)
    (hearly : approvedAt < row.expiresAt) (hused : usedAt < row.expiresAt) :
    Traced (some row)
      [.created row.requesterUserID row.expiresAt, .approved approverUserID approvedAt,
        .consumed row.requesterUserID usedAt]

variable {rows : Approvals} {id : String} {events : List Event}

theorem Traced.approve {row : BreakGlassApprovalDO} (h : Traced (some row) events)
    {approverUserID now : Int} {requestID : String}
    (hcheck : checkApprove approverUserID now row = .ok ()) :
    Traced (some (approveRow approverUserID requestID now row))
      (events ++ [.approved approverUserID now]) := by
  obtain ⟨hpending, hearly, hother⟩ := checkApprove_ok hcheck
  cases h with
  | pending => exact .approved rfl hother hearly
  | approved hstatus => simp [hpending] at hstatus
  | used hstatus => simp [hpending] at hstatus

theorem Traced.consume {row : BreakGlassApprovalDO} (h : Traced (some row) events)
    {requesterUserID now : Int} {requestID : String}
    (hcheck : checkConsume requesterUserID now row = .ok ()) :
    Traced (some (consumeRow requestID now row))
      (events ++ [.consumed requesterUserID now]) := by
  obtain ⟨happroved, rfl, husedAt⟩ := checkConsume_ok hcheck
  cases h with
  | pending hstatus => simp [happroved] at hstatus
  | approved _ hother hearly => exact .used rfl hother hearly husedAt
  | used hstatus => simp [happroved] at hstatus

theorem traced_create {row : BreakGlassApprovalDO} {created : String}
    (hunused : ∀ other ∈ rows, other.id ≠ created) (hrowid : row.id = created)
    (hstatus : row.status = .pending) (h : Traced (rows.find? (·.id = id)) events) :
    Traced ((rows ++ [row]).find? (·.id = id))
      (events ++ if created = id then [.created row.requesterUserID row.expiresAt] else []) := by
  by_cases hsame : created = id
  · subst hsame
    have hnone : rows.find? (·.id = created) = none := by simpa using hunused
    rw [hnone] at h
    cases h
    rw [Table.find_last hrowid hunused, if_pos rfl]
    exact .pending hstatus
  · have hother : [row].find? (·.id = id) = none := by simp [hrowid, hsame]
    rw [if_neg hsame, List.append_nil, List.find?_append, hother, Option.or_none]
    exact h

theorem traced_modify {approvalID : String} {change : BreakGlassApprovalDO → BreakGlassApprovalDO}
    {event : Event} {approval : BreakGlassApprovalDO} (hid : ∀ row, (change row).id = row.id)
    (hfind : rows.find? (·.id = approvalID) = some approval)
    (h : Traced (rows.find? (·.id = id)) events)
    (hown : Traced (some approval) events → Traced (some (change approval)) (events ++ [event])) :
    Traced ((Table.modify (·.id) approvalID change rows).find? (·.id = id))
      (events ++ if approvalID = id then [event] else []) := by
  rw [Table.find_modify hid]
  by_cases hsame : approvalID = id
  · subst hsame
    rw [hfind] at h ⊢
    have happroval : approval.id = approvalID := by simpa using List.find?_some hfind
    rw [Option.map_some, if_pos happroval, if_pos rfl]
    exact hown h
  · rw [if_neg hsame, List.append_nil]
    cases hrow : rows.find? (·.id = id) with
    | none =>
      rw [hrow] at h
      exact h
    | some row =>
      have hrowid : row.id = id := by simpa using List.find?_some hrow
      rw [hrow] at h
      rw [Option.map_some, if_neg (hrowid ▸ Ne.symm hsame)]
      exact h

theorem Traced.after (h : Traced (rows.find? (·.id = id)) events) (step : Step) :
    Traced ((after rows step).find? (·.id = id)) (events ++ eventOf id rows step) := by
  unfold BreakGlass.after eventOf
  rcases Txn.commit_cases (serve step) rows with ⟨_, rows', hrun, hcommit⟩ | ⟨err, hrun, hcommit⟩
  · rw [hcommit, hrun]
    obtain ⟨now, request⟩ := step
    cases request with
    | create created requesterUserID reason requestID expiresAt =>
      obtain ⟨hunused, row, hrowid, rfl, hstatus, rfl, rfl⟩ := createBreakGlassApproval_ok hrun
      exact traced_create hunused hrowid hstatus h
    | approve approvalID approverUserID requestID =>
      obtain ⟨approval, hfind, hcheck, rfl⟩ := onApproval_ok hrun
      exact traced_modify (fun _ => rfl) hfind h fun htraced => htraced.approve hcheck
    | consume approvalID requesterUserID requestID =>
      obtain ⟨approval, hfind, hcheck, rfl⟩ := onApproval_ok hrun
      exact traced_modify (fun _ => rfl) hfind h fun htraced => htraced.consume hcheck
  · rw [hcommit, hrun, List.append_nil]
    exact h

theorem Traced.run (h : Traced (rows.find? (·.id = id)) events) (steps : List Step) :
    Traced ((run BreakGlass.after rows steps).find? (·.id = id))
      (events ++ history id rows steps) := by
  induction steps generalizing rows events with
  | nil => simpa [history] using h
  | cons step rest ih =>
    rw [history, ← List.append_assoc]
    exact ih (h.after step)

/-- Any interleaving of requests, approvals and uses by any users at any times:
a use is the third and last successful step on its approval, made by its
requester in time, after one approval by somebody else in time. -/
theorem consumed_once_after_approval (start : Approvals) (steps : List Step) (id : String)
    (unused : ∀ row ∈ start, row.id ≠ id) (earlier later : List Event) (userID now : Int)
    (h : history id start steps = earlier ++ .consumed userID now :: later) :
    ∃ requesterUserID expiresAt approverUserID approvedAt,
      earlier = [.created requesterUserID expiresAt, .approved approverUserID approvedAt] ∧
      userID = requesterUserID ∧ now < expiresAt ∧ approvedAt < expiresAt ∧
      approverUserID ≠ requesterUserID ∧ later = [] := by
  have hnone : start.find? (·.id = id) = none := by simpa using unused
  have habsent : Traced (start.find? (·.id = id)) [] := hnone ▸ .absent
  have htraced := habsent.run steps
  rw [List.nil_append, h] at htraced
  generalize hevents : earlier ++ Event.consumed userID now :: later = events at htraced
  generalize (run after start steps).find? (·.id = id) = row at htraced
  cases htraced with
  | absent => simp at hevents
  | pending =>
    cases earlier <;> simp at hevents
  | approved =>
    rcases earlier with _ | ⟨_, _ | ⟨_, _⟩⟩ <;> simp at hevents
  | used _ hother hearly hused =>
    rcases earlier with _ | ⟨first, _ | ⟨second, _ | ⟨third, rest⟩⟩⟩
    · simp at hevents
    · simp at hevents
    · simp only [List.cons_append, List.nil_append, List.cons.injEq, Event.consumed.injEq] at hevents
      obtain ⟨rfl, rfl, ⟨rfl, rfl⟩, rfl⟩ := hevents
      exact ⟨_, _, _, _, rfl, rfl, hused, hearly, hother, rfl⟩
    · simp at hevents

def outage : List Step :=
  [⟨0, .create "A" 1 "outage" "R1" 100⟩, ⟨1, .approve "A" 1 "R2"⟩, ⟨2, .approve " A" 2 "R3"⟩,
    ⟨3, .consume "A" 2 "R4"⟩, ⟨4, .consume "A" 1 "R5"⟩, ⟨5, .consume "A" 1 "R6"⟩,
    ⟨6, .approve "A" 3 "R7"⟩]

theorem consumed_once_after_approval_outage :
    ∃ requesterUserID expiresAt approverUserID approvedAt,
      [Event.created 1 100, .approved 2 2] =
        [.created requesterUserID expiresAt, .approved approverUserID approvedAt] ∧
      1 = requesterUserID ∧ 4 < expiresAt ∧ approvedAt < expiresAt ∧
      approverUserID ≠ requesterUserID ∧ ([] : List Event) = [] :=
  consumed_once_after_approval [] outage "A" (by simp) _ _ 1 4 (by decide +kernel)

end Traces

end Goshop.User.BreakGlass
