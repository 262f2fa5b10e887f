import Goshop.Admin.Staff
import Goshop.Lib.Decimal

/-! The admin actions on one user. The path gives the user's id as 64 bits; the
user service gets the low 32 of them as a signed number, the token versions all of
them. The two are one user unless the id is above the signed range and its low bits
are the id of another user. -/
namespace Goshop.Admin.UserActions

open Goshop.Errors Goshop.Lib Goshop.Lib.GoText Goshop.Lib.Transaction Goshop.Lib.Process
open Goshop.Authz.Principal Goshop.Authz.Roles Goshop.Authz.Scope Goshop.User.Accounts
open Goshop.Admin.Access
open Goshop.Admin.Staff (World Choice Result int32 check denied isSuperAdmin userRPCError lostCall)

/-- `strconv.ParseUint` with base 10 and 64 bits, and no user 0. -/
def parseUserID (path : String) : Except AppError Nat :=
  let digits := path.toList
  if digits ≠ [] ∧ digits.all (·.isDigit) ∧ Decimal.charsValue digits < 2 ^ 64 ∧
      Decimal.charsValue digits ≠ 0 then
    .ok (Decimal.charsValue digits)
  else .error (newCode .errValidation "invalid user id")

inductive Call
  | staff (request : Staff.Call)
  | updateUserStatus (userID : Int) (status : String) (actor : AuditActor)
  | replaceUserResourceScopes (userID : Int) (scopes : List ResourceScope) (actor : AuditActor)

abbrev Answer : Call → Type
  | .staff request => Staff.Answer request
  | .updateUserStatus _ _ _ => UserPublicDTO
  | .replaceUserResourceScopes _ _ _ => List ResourceScope

abbrev Reply (request : Call) : Type := Except AppError (Answer request)

abbrev Program := Proc Call Reply

def serve (table : CaseTable) : (request : Call) → Choice → World → Reply request × World
  | .staff request, choice, world => Staff.serve request choice world
  | .updateUserStatus userID status actor, _, world =>
    let result := updateUserStatus userID status actor world.accounts
    (result.1, { world with accounts := result.2 })
  | .replaceUserResourceScopes userID scopes _, _, world =>
    Staff.onAccounts (replaceResourceScopes table userID scopes) world

def exec (table : CaseTable) (request : Call) (choice : Choice) (world : World) :
    Reply request × World :=
  call lostCall choice.outcome (serve table request choice) world

def ofStaff {α : Type} : Staff.Program α → Program α
  | .ret value => .ret value
  | .call request next => .call (.staff request) fun reply => ofStaff (next reply)

theorem ofStaff_send {α : Type} (request : Staff.Call)
    (next : Staff.Reply request → Staff.Program α) :
    ofStaff (Proc.send request >>= next) =
      .call (.staff request) fun reply => ofStaff (next reply) := rfl

theorem ofStaff_bind {α β : Type} (first : Staff.Program α) (rest : α → Staff.Program β) :
    ofStaff (first >>= rest) = ofStaff first >>= fun value => ofStaff (rest value) := by
  induction first with
  | ret value => rfl
  | call request next ih =>
    rw [Proc.call_bind, ofStaff, ofStaff, Proc.call_bind]
    congr 1
    funext reply
    exact ih reply

theorem ofStaff_attempt {α β : Type} (result : Result α) (next : α → Staff.Program (Result β)) :
    ofStaff (Proc.attempt result next) = Proc.attempt result fun value => ofStaff (next value) := by
  cases result <;> rfl

section Handlers

variable (claims : Claims)

/-- The audit actor has the low 32 bits of the id in the token. -/
def auditActor : Except AppError AuditActor :=
  (currentActor claims).map fun actor => { actor with userID := int32 actor.userID }

/-- The actor's id is compared with the path as a `uint64`. -/
def disablesItself (actor : AuditActor) (userID : Nat) (status : String) : Bool :=
  actor.userID % 2 ^ 64 = userID ∧ lowerTrim status ≠ "active"

def checkTarget (userID : Int) : Program (Result Unit) :=
  if hasRole (currentRoles claims) .superAdmin then .ret (.ok ())
  else do
    let binding ← Proc.send (Call.staff (.getUserStaffRoles userID))
    Proc.attempt (binding.mapError (userRPCError "get user staff roles failed")) fun binding =>
      .ret (check (!binding.staffRoles.any isSuperAdmin)
        (denied "super admin status can only be changed by super admin"))

def invalidate {α : Type} (userID : Nat) (failure : String) (value : α) : Program (Result α) := do
  let bumped ← Proc.send (Call.staff (.bump userID))
  Proc.attempt (bumped.mapError fun _ => newCode .errUnknown failure) fun _ => .ret (.ok value)

def updateStatus (userID : Nat) (status : String) : Program (Result UserPublicDTO) :=
  Proc.attempt (check (status ≠ "") (newCode .errValidation "invalid request")) fun _ =>
    Proc.attempt (auditActor claims) fun actor =>
      Proc.attempt (check (!disablesItself actor userID status)
          (newCode .errValidation "current staff account cannot disable itself")) fun _ => do
        let allowed ← checkTarget claims (int32 userID)
        Proc.attempt allowed fun _ => do
          let updated ← Proc.send (Call.updateUserStatus (int32 userID) status actor)
          Proc.attempt (updated.mapError (userRPCError "update user status failed")) fun user =>
            invalidate userID "user status token invalidation failed" user

/-- A request without scopes is refused, one with an empty list is not. -/
def replaceResourceScopes (userID : Nat) (scopes : Option (List ResourceScope)) :
    Program (Result (List ResourceScope)) :=
  match scopes with
  | none => .ret (.error (newCode .errValidation "invalid resource scopes"))
  | some scopes =>
    Proc.attempt (auditActor claims) fun actor => do
      let replaced ← Proc.send (Call.replaceUserResourceScopes (int32 userID) scopes actor)
      Proc.attempt (replaced.mapError (userRPCError "replace resource scopes failed")) fun stored =>
        invalidate userID "resource scope token invalidation failed" stored

inductive Action
  | updateStatus (status : String)
  | replaceUserStaffRoles (roles : List String)
  | replaceResourceScopes (scopes : Option (List ResourceScope))

def Action.program (userID : Nat) : Action → Program (Result Unit)
  | .updateStatus status => do
    let user ← UserActions.updateStatus claims userID status
    .ret (user.map fun _ => ())
  | .replaceUserStaffRoles roles => do
    let binding ← ofStaff (Staff.replaceUserStaffRoles claims userID roles)
    .ret (binding.map fun _ => ())
  | .replaceResourceScopes scopes => do
    let stored ← UserActions.replaceResourceScopes claims userID scopes
    .ret (stored.map fun _ => ())

def handle (path : String) (action : Action) : Program (Result Unit) :=
  Proc.attempt (parseUserID path) fun userID => action.program claims userID

end Handlers

structure Record where
  rows : List UserDO
  roles : List UserRoleDO
  scopes : List UserResourceScopeDO
  logs : List UserAuditLogDO
deriving DecidableEq

def recordOf (db : UserDB) (id : Int) : Record where
  rows := db.users.filter (·.id = id)
  roles := db.userRoles.filter (·.userID = id)
  scopes := db.resourceScopes.filter (·.userID = id)
  logs := db.auditLogs.filter (·.userID = id)

structure Numbered (db : UserDB) : Prop where
  users : ∀ user ∈ db.users, 0 < user.id
  scopes : ∀ row ∈ db.resourceScopes, 0 < row.userID

/-- Every row of the user is an old one, or active. -/
def OnlyActivated (id : Int) (db db' : UserDB) : Prop :=
  ∀ row ∈ db'.users, row.id = id → row ∈ db.users ∨ row.status = "active"

section Accounts

variable {db db' : UserDB} {userID : Int}

theorem recordOf_setStatus {id : Int} (hid : id ≠ userID) {status : String}
    {log : UserAuditLogDO} (hlog : log.userID = userID) :
    recordOf { db with
      users := setStatus userID status db.users, auditLogs := db.auditLogs ++ [log] } id =
        recordOf db id := by
  have husers : (setStatus userID status db.users).filter (·.id = id) =
      db.users.filter (·.id = id) :=
    @Table.filter_modify UserDO Int _ (·.id) _ ({ · with status := status }) _ (fun _ => rfl) _ hid
  simp [recordOf, husers, List.filter_append, hlog, Ne.symm hid]

theorem recordOf_rebind {id : Int} (hid : id ≠ userID) {roles : List RoleDO}
    {logs : List UserAuditLogDO} (hlogs : ∀ log ∈ logs, log.userID = userID) :
    recordOf { db with
      userRoles := rebind userID roles db.userRoles, auditLogs := db.auditLogs ++ logs } id =
        recordOf db id := by
  have hroles : (rebind userID roles db.userRoles).filter (·.userID = id) =
      db.userRoles.filter (·.userID = id) := by
    refine Table.filter_replaced ?_ hid
    simp
  have hnone : logs.filter (·.userID = id) = [] := by
    rw [List.filter_eq_nil_iff]
    intro log hlog
    simp [hlogs log hlog, Ne.symm hid]
  simp [recordOf, hroles, List.filter_append, hnone]

theorem recordOf_scopes {id : Int} (hid : id ≠ userID) (stored : List ResourceScope) :
    recordOf { db with
      resourceScopes := db.resourceScopes.filter (·.userID ≠ userID) ++
        stored.map fun scope => ⟨userID, scope⟩ } id = recordOf db id := by
  have hscopes := @Table.filter_replaced UserResourceScopeDO Int _ (·.userID) userID
    db.resourceScopes (stored.map fun scope => ⟨userID, scope⟩) (by simp) id hid
  simp only [recordOf, hscopes]

end Accounts

/-- The user service changes no user but the one of the low 32 bits, the token
versions change for the id of the path only, and the actor is not made inactive. -/
structure Touches (own : Int) (userID : Nat) (world world' : World) : Prop where
  records : ∀ id, id ≠ int32 userID ∨ int32 userID ≤ 0 →
    recordOf world'.accounts id = recordOf world.accounts id
  versions : ∀ id, id ≠ (userID : Int) → world'.versions id = world.versions id
  activated : OnlyActivated own world.accounts world'.accounts

section Steps

variable {own : Int} {userID : Nat} {world : World}

theorem touches_refl (world : World) : Touches own userID world world :=
  ⟨fun _ _ => rfl, fun _ _ => rfl, fun _ hrow _ => .inl hrow⟩

theorem touches_trans (first second third : World) (h : Touches own userID first second)
    (h' : Touches own userID second third) : Touches own userID first third := by
  refine ⟨fun id hid => (h'.records id hid).trans (h.records id hid),
    fun id hid => (h'.versions id hid).trans (h.versions id hid), ?_⟩
  intro row hrow hid
  rcases h'.activated row hrow hid with hmid | hactive
  · exact h.activated row hmid hid
  · exact .inr hactive

theorem touches_bump (version : Int) :
    Touches own userID world
      { world with versions := Function.update world.versions userID version } :=
  ⟨fun _ _ => rfl, fun _ hid => Function.update_of_ne hid _ _, fun _ hrow _ => .inl hrow⟩

theorem touches_change {db' : UserDB} (hpos : 0 < int32 userID)
    (hrecords : ∀ id, id ≠ int32 userID → recordOf db' id = recordOf world.accounts id)
    (hown : OnlyActivated own world.accounts db') :
    Touches own userID world { world with accounts := db' } := by
  refine ⟨?_, fun _ _ => rfl, hown⟩
  rintro id (hid | hneg)
  · exact hrecords id hid
  · omega

theorem setStatus_activated {status : String} {logs : List UserAuditLogDO} {db : UserDB}
    {id : Int} (hown : own = id → status = "active") :
    OnlyActivated own db { db with users := setStatus id status db.users, auditLogs := logs } := by
  intro row hrow hid
  obtain ⟨before, hbefore, rfl⟩ := List.mem_map.mp hrow
  split at hid
  · rename_i hsame
    rw [if_pos hsame]
    exact .inr (hown (hid.symm.trans hsame))
  · rename_i hsame
    rw [if_neg hsame]
    exact .inl hbefore

theorem normalizeMutable_active {status : String} (h : lowerTrim status = "active") :
    normalizeMutableAccountStatus status = .ok "active" := by
  have hactive : normalizeAccountStatus status = .active := by
    unfold lowerTrim at h
    simp [normalizeAccountStatus, h]
  rw [normalizeMutableAccountStatus, hactive]

theorem updateUserStatus_db (id : Int) (status : String) (actor : AuditActor) (db : UserDB) :
    (updateUserStatus id status actor db).2 =
      (Txn.commit (User.Accounts.updateStatus id status actor) db).2 := rfl

theorem updateUserStatus_touches {status : String} (actor : AuditActor)
    (hself : own = int32 userID → lowerTrim status = "active") :
    Touches own userID world { world with
      accounts := (updateUserStatus (int32 userID) status actor world.accounts).2 } := by
  rcases updateStatus_cases status actor with hsame | ⟨normalized, log, hpos, hstatus, hlog, hnext⟩
  · rw [updateUserStatus_db, hsame]
    exact touches_refl world
  · rw [updateUserStatus_db, hnext]
    refine touches_change hpos (fun id hid => recordOf_setStatus hid hlog) ?_
    apply setStatus_activated
    intro hown
    rw [normalizeMutable_active (hself hown)] at hstatus
    exact (Except.ok.inj hstatus).symm

theorem replaceUserRoleBinding_touches (roles : List String) (actor : AuditActor) :
    Touches own userID world { world with
      accounts := (Txn.commit (replaceUserRoleBinding (int32 userID) roles actor)
        world.accounts).2 } := by
  rcases replaceUserRoleBinding_cases roles actor with hsame | ⟨bound, logs, hpos, hlogs, hnext⟩
  · rw [hsame]
    exact touches_refl world
  · rw [hnext]
    exact touches_change hpos (fun id hid => recordOf_rebind hid hlogs) fun _ hrow _ => .inl hrow

theorem replaceResourceScopes_touches (table : CaseTable) (scopes : List ResourceScope)
    (hnumbered : Numbered world.accounts) :
    Touches own userID world { world with
      accounts := (Txn.commit (User.Accounts.replaceResourceScopes table (int32 userID) scopes)
        world.accounts).2 } := by
  rcases replaceResourceScopes_cases table scopes with hsame | ⟨stored, hzero, hstored, hnext⟩
  · rw [hsame]
    exact touches_refl world
  · rw [hnext]
    by_cases hpos : 0 < int32 userID
    · exact touches_change hpos (fun id hid => recordOf_scopes hid stored)
        fun _ hrow _ => .inl hrow
    · have hnone : stored = [] := by
        rcases hstored with hnil | ⟨user, huser, hid⟩
        · exact hnil
        · have := hnumbered.users user huser
          omega
      have hkept : world.accounts.resourceScopes.filter (·.userID ≠ int32 userID) =
          world.accounts.resourceScopes := by
        rw [List.filter_eq_self]
        intro row hrow
        have := hnumbered.scopes row hrow
        simp only [decide_eq_true_eq]
        omega
      rw [hnone, hkept, List.map_nil, List.append_nil]
      exact touches_refl world

end Steps

section Safety

variable {α : Type} {table : CaseTable} {own : Int} {userID : Nat} {start : World}

def Invalidated (userID : Nat) (start : World) (value : Result α) (world : World) : Prop :=
  value.isOk = true → world.versions userID = start.versions userID + 1

def Unbumped (userID : Nat) (start world : World) : Prop :=
  world.versions userID = start.versions userID

abbrev ActionSafe (table : CaseTable) (own : Int) (userID : Nat) (start : World)
    (pre : World → Prop) (program : Program (Result α)) : Prop :=
  Safe (exec table) (fun _ _ _ => True) Eq (Touches own userID) (Invalidated userID start) pre
    program

theorem attempt_safe {β : Type} {pre : World → Prop} {result : Result α}
    {next : α → Program (Result β)}
    (taken : ∀ value, result = .ok value → ActionSafe table own userID start pre (next value)) :
    ActionSafe table own userID start pre (Proc.attempt result next) :=
  .attempt (stable_eq _) (fun _ _ _ h => by cases h) taken

theorem exec_touches {request : Call} {choice : Choice} {world : World}
    (h : Touches own userID world (serve table request choice world).2) :
    Touches own userID world (exec table request choice world).2 :=
  call_preserves _ _ (touches_refl world) h

theorem bump_invalidates {choice : Choice} {world : World}
    (hunbumped : Unbumped userID start world) :
    Invalidated userID start (exec table (.staff (.bump userID)) choice world).1
      (exec table (.staff (.bump userID)) choice world).2 := by
  intro hok
  simp only [exec] at hok ⊢
  cases houtcome : choice.outcome with
  | ok =>
    rw [call_okay]
    change Function.update world.versions userID (world.versions userID + 1) userID = _
    rw [Function.update_self, hunbumped]
  | failBefore =>
    rw [houtcome] at hok
    cases hok
  | failAfter =>
    rw [houtcome] at hok
    cases hok

theorem invalidate_safe (failure : String) (value : α) :
    ActionSafe table own userID start (Unbumped userID start)
      (invalidate userID failure value) := by
  refine .call (fun bumped => Invalidated userID start bumped) (stable_eq _) ?_ fun bumped => ?_
  · intro world choice hunbumped _
    exact ⟨exec_touches (touches_bump _), bump_invalidates hunbumped⟩
  cases bumped with
  | error err => exact .ret (stable_eq _) fun _ _ h => by cases h
  | ok version => exact .ret (stable_eq _) fun _ h _ => h rfl

theorem change_safe {request : Call} {next : Reply request → Program (Result α)}
    (htouches : ∀ choice, Touches own userID start (serve table request choice start).2)
    (hversions : ∀ choice, (serve table request choice start).2.versions = start.versions)
    (rest : ∀ reply, ActionSafe table own userID start (Unbumped userID start) (next reply)) :
    ActionSafe table own userID start (· = start) (.call request next) := by
  refine .call (fun _ => Unbumped userID start) (stable_eq _) ?_ rest
  rintro _ choice rfl _
  refine ⟨exec_touches (htouches choice), ?_⟩
  exact @call_preserves _ _ _ (Unbumped userID _) _ _ _ _ rfl (congrFun (hversions choice) _)

theorem serve_updateUserStatus (id : Int) (status : String) (actor : AuditActor) (choice : Choice)
    (world : World) :
    (serve table (.updateUserStatus id status actor) choice world).2 = { world with
      accounts := (updateUserStatus id status actor world.accounts).2 } := rfl

theorem serve_replaceScopes (id : Int) (scopes : List ResourceScope) (actor : AuditActor)
    (choice : Choice) (world : World) :
    (serve table (.replaceUserResourceScopes id scopes actor) choice world).2 = { world with
      accounts := (Txn.commit (User.Accounts.replaceResourceScopes table id scopes)
        world.accounts).2 } := rfl

theorem checkTarget_safe {claims : Claims} {id : Int} :
    Safe (exec table) (fun _ _ _ => True) Eq (Touches own userID) (fun _ => (· = start)) (· = start)
      (checkTarget claims id) := by
  unfold checkTarget
  split
  · exact .ret (stable_eq _) fun _ h => h
  · refine .reading ?_ touches_refl (stable_eq _) fun binding => ?_
    · intro choice world
      exact call_reads rfl
    exact .attempt (stable_eq _) (fun _ _ h => h) fun _ _ => .ret (stable_eq _) fun _ h => h

theorem updateStatus_safe {claims : Claims} {status : String}
    (hself : ∀ actor, auditActor claims = .ok actor → disablesItself actor userID status = false →
      own = int32 userID → lowerTrim status = "active") :
    ActionSafe table own userID start (· = start) (updateStatus claims userID status) := by
  refine attempt_safe fun _ _ => attempt_safe fun actor hactor => attempt_safe fun _ hcheck => ?_
  refine checkTarget_safe.bind fun allowed => attempt_safe fun _ _ => ?_
  refine change_safe ?_ ?_ fun updated => attempt_safe fun user _ => invalidate_safe _ _
  · intro choice
    rw [serve_updateUserStatus]
    apply updateUserStatus_touches
    exact hself actor hactor (by simpa using Staff.check_ok hcheck)
  · intro choice
    rw [serve_updateUserStatus]

theorem replaceResourceScopes_safe {claims : Claims} {scopes : Option (List ResourceScope)}
    (hnumbered : Numbered start.accounts) :
    ActionSafe table own userID start (· = start) (replaceResourceScopes claims userID scopes) := by
  cases scopes with
  | none => exact .ret (stable_eq _) fun _ _ h => by cases h
  | some scopes =>
    refine attempt_safe fun actor _ => ?_
    refine change_safe ?_ ?_ fun _ => attempt_safe fun _ _ => invalidate_safe _ _
    · intro choice
      rw [serve_replaceScopes]
      exact replaceResourceScopes_touches table scopes hnumbered
    · intro choice
      rw [serve_replaceScopes]

theorem serve_replaceRoles (id : Int) (roles : List String) (actor : AuditActor) (choice : Choice)
    (world : World) :
    (serve table (.staff (.replaceUserStaffRoles id roles actor)) choice world).2 = { world with
      accounts := (Txn.commit (replaceUserRoleBinding id roles actor) world.accounts).2 } := rfl

theorem checkSuperAdmin_safe {claims : Claims} {id : Int} {roles : List String} :
    Safe (exec table) (fun _ _ _ => True) Eq (Touches own userID) (fun _ => (· = start)) (· = start)
      (ofStaff (Staff.checkSuperAdmin claims id roles)) := by
  unfold Staff.checkSuperAdmin
  split
  · exact .ret (stable_eq _) fun _ h => h
  · rw [ofStaff_send]
    refine .reading ?_ touches_refl (stable_eq _) fun binding => ?_
    · intro choice world
      exact call_reads rfl
    rw [Staff.orFail, ofStaff_attempt]
    refine .attempt (stable_eq _) (fun _ _ h => h) fun _ _ => ?_
    rw [ofStaff_attempt]
    exact .attempt (stable_eq _) (fun _ _ h => h) fun _ _ => .ret (stable_eq _) fun _ h => h

theorem replaceUserStaffRoles_safe {claims : Claims} {roles : List String} :
    ActionSafe table own userID start (· = start)
      (ofStaff (Staff.replaceUserStaffRoles claims userID roles)) := by
  rw [Staff.replaceUserStaffRoles, ofStaff_attempt]
  refine attempt_safe fun _ _ => ?_
  rw [ofStaff_attempt]
  refine attempt_safe fun actor _ => ?_
  rw [ofStaff_send]
  refine .reading ?_ touches_refl (stable_eq _) fun listed => ?_
  · intro choice world
    exact call_reads rfl
  rw [Staff.orFail, ofStaff_attempt]
  refine attempt_safe fun catalog _ => ?_
  rw [ofStaff_attempt]
  refine attempt_safe fun _ _ => ?_
  rw [ofStaff_bind]
  refine checkSuperAdmin_safe.bind fun allowed => ?_
  rw [ofStaff_attempt]
  refine attempt_safe fun _ _ => ?_
  rw [ofStaff_send]
  refine change_safe ?_ ?_ fun replaced => ?_
  · intro choice
    rw [serve_replaceRoles]
    exact replaceUserRoleBinding_touches roles actor
  · intro choice
    rw [serve_replaceRoles]
  rw [Staff.orFail, ofStaff_attempt]
  refine attempt_safe fun binding _ => ?_
  rw [ofStaff_send]
  simp only [Staff.orFail, ofStaff_attempt]
  exact invalidate_safe _ binding

theorem map_safe {program : Program (Result α)}
    (h : ActionSafe table own userID start (· = start) program) :
    ActionSafe table own userID start (· = start) (do
      let value ← program
      .ret (value.map fun _ => ())) := by
  refine h.bind fun value => .ret (stable_eq _) ?_
  intro world hvalue hok
  apply hvalue
  cases value with
  | ok _ => rfl
  | error _ => cases hok

theorem self_active {claims : Claims} {status : String} {actor : AuditActor}
    (hfits : userID < 2 ^ 31 ∨ int32 userID ≤ 0) (hactor : auditActor claims = .ok actor)
    (hallowed : disablesItself actor userID status = false) (hown : claims.id = int32 userID) :
    lowerTrim status = "active" := by
  have hpos : 0 < claims.id ∧ actor.userID = int32 claims.id := by
    unfold auditActor currentActor at hactor
    split at hactor
    · rename_i hpos
      cases hactor
      exact ⟨hpos, rfl⟩
    · cases hactor
  have hsame : int32 userID = userID := by
    unfold int32 at *
    omega
  have hcompared : actor.userID % 2 ^ 64 = userID := by
    rw [hpos.2, hown, hsame, hsame]
    unfold int32 at hsame
    omega
  rw [disablesItself, decide_eq_false_iff_not, not_and_not_right] at hallowed
  exact hallowed hcompared

theorem program_safe {claims : Claims} (hfits : userID < 2 ^ 31 ∨ int32 userID ≤ 0)
    (hnumbered : Numbered start.accounts) (action : Action) :
    ActionSafe table claims.id userID start (· = start) (action.program claims userID) := by
  cases action with
  | updateStatus status =>
    exact map_safe (updateStatus_safe fun actor => self_active hfits)
  | replaceUserStaffRoles roles => exact map_safe replaceUserStaffRoles_safe
  | replaceResourceScopes scopes => exact map_safe (replaceResourceScopes_safe hnumbered)

end Safety

/-- One request hits one user: whoever is changed is whoever is bumped, a success
has bumped whoever it has changed, and the actor is not made inactive. -/
structure OneUser (own : Int) (before : World) (outcome : Option (Result Unit) × World) :
    Prop where
  same : ∀ changed bumped,
    recordOf outcome.2.accounts changed ≠ recordOf before.accounts changed →
    outcome.2.versions bumped ≠ before.versions bumped → changed = bumped
  invalidated : outcome.1 = some (.ok ()) → ∀ changed,
    recordOf outcome.2.accounts changed ≠ recordOf before.accounts changed →
    outcome.2.versions changed ≠ before.versions changed
  activated : OnlyActivated own before.accounts outcome.2.accounts

section Main

variable {table : CaseTable} {userID : Nat}

theorem oneUser_of_fits {claims : Claims} {world : World} {choices : List Choice}
    (hfits : userID < 2 ^ 31 ∨ int32 userID ≤ 0) (hnumbered : Numbered world.accounts)
    (action : Action) :
    OneUser claims.id world
      (runAlone (exec table) (action.program claims userID) choices world) := by
  obtain ⟨htouches, hpost⟩ := (program_safe hfits hnumbered action).alone touches_refl touches_trans
    rfl (admittedAlone_of_forall (fun _ _ _ => trivial) _ choices world)
  have hchanged : ∀ changed,
      recordOf (runAlone (exec table) (action.program claims userID) choices world).2.accounts
        changed ≠ recordOf world.accounts changed → changed = userID := by
    intro changed hchanged
    have htarget : ¬(changed ≠ int32 userID ∨ int32 userID ≤ 0) :=
      fun hother => hchanged (htouches.records changed hother)
    unfold int32 at htarget hfits
    omega
  refine ⟨?_, ?_, htouches.activated⟩
  · intro changed bumped hrecord hversion
    rw [hchanged changed hrecord]
    by_contra hother
    exact hversion (htouches.versions bumped (Ne.symm hother))
  · intro hok changed hrecord
    have hbumped := hpost _ hok rfl
    rw [hchanged changed hrecord, hbumped]
    omega

def scopedUser (id : Int) : World where
  accounts := ⟨[{ id := id, mobile := "13800000000", password := "hash" }], [], [],
    [⟨id, { domain := "support", storeID := "store-a" }⟩], []⟩
  sessions := ⟨[], []⟩
  versions _ := 0
  issued := []

def superAdmin : Claims :=
  { id := 5, roles := ["super_admin"], principalType := .staff, accountStatus := "active" }

theorem commit_noScopes {id : Int} (hid : id ≠ 0) (db : UserDB) :
    Txn.commit (User.Accounts.replaceResourceScopes table id []) db =
      (.ok [], { db with resourceScopes := db.resourceScopes.filter (·.userID ≠ id) }) := by
  apply Txn.commit_of_ok
  simp only [User.Accounts.replaceResourceScopes, Txn.lift_bind_ok, Txn.guard_bind_ok,
    Txn.read_bind, Txn.write_bind, Txn.pure_ok]
  exact ⟨[], rfl, by simpa using hid, rfl, by simp [firstSeen]⟩

theorem exec_noScopes {id : Int} (hid : id ≠ 0) (actor : AuditActor) :
    exec table (.replaceUserResourceScopes id [] actor) {} (scopedUser id) =
      (.ok [], { scopedUser id with
        accounts := { (scopedUser id).accounts with resourceScopes := [] } }) := by
  simp only [exec, call_okay, serve, Staff.onAccounts, commit_noScopes hid]
  simp [scopedUser]

/-- The scopes of the user are emptied by its low 32 bits, the version is raised for
the id of the path. -/
theorem scopes_emptied {path : String} (hpath : parseUserID path = .ok userID)
    (htarget : int32 userID ≠ 0) :
    runAlone (exec table) (handle superAdmin path (.replaceResourceScopes (some []))) [{}, {}]
        (scopedUser (int32 userID)) =
      (some (.ok ()), { scopedUser (int32 userID) with
        accounts := { (scopedUser (int32 userID)).accounts with resourceScopes := [] }
        versions := Function.update (fun _ => 0) userID 1 }) := by
  have hactor : auditActor superAdmin = .ok ⟨5, "staff"⟩ := by decide
  rw [handle, hpath, Proc.attempt_ok, Action.program, replaceResourceScopes, hactor,
    Proc.attempt_ok, Proc.send_bind, Proc.call_bind, runAlone_call, exec_noScopes htarget]
  rfl

theorem scopedUser_numbered {id : Int} (hpos : 0 < id) : Numbered (scopedUser id).accounts := by
  constructor
  · intro user huser
    rw [List.mem_singleton.mp huser]
    exact hpos
  · intro row hrow
    rw [List.mem_singleton.mp hrow]
    exact hpos

/-- For every id that a path may give: all three actions, by every member of staff,
with any calls that fail and from any accounts, hit one user, if and only if the id is
in the range of the user service or its low 32 bits are not the id of a user. -/
theorem admin_action_hits_one_user_iff (table : CaseTable) {path : String} {userID : Nat}
    (hpath : parseUserID path = .ok userID) :
    (∀ claims action world choices, Numbered world.accounts →
      OneUser claims.id world
        (runAlone (exec table) (handle claims path action) choices world)) ↔
      userID < 2 ^ 31 ∨ int32 userID ≤ 0 := by
  constructor
  · intro h
    by_contra hwide
    rw [not_or, not_lt, not_le] at hwide
    have hrun := @scopes_emptied table userID path hpath (by omega)
    have hone := h superAdmin (.replaceResourceScopes (some [])) (scopedUser (int32 userID))
      [{}, {}] (scopedUser_numbered hwide.2)
    rw [hrun] at hone
    have hsame : int32 userID = userID := by
      apply hone.same
      · simp [recordOf, scopedUser]
      · simp [scopedUser]
    unfold int32 at hsame
    omega
  · intro hfits claims action world choices hnumbered
    rw [handle, hpath, Proc.attempt_ok]
    exact oneUser_of_fits hfits hnumbered action

/-- The id of the path is the id of the actor plus 2 ^ 32. The actor disables itself,
and the token version is raised for an id that no user has. -/
theorem actor_disables_itself :
    let outcome := runAlone (exec asciiTable)
      (handle superAdmin "4294967301" (.updateStatus "disabled")) [{}, {}] (scopedUser 5)
    superAdmin.id = 5 ∧ outcome.1 = some (.ok ()) ∧
      outcome.2.accounts.users.map (fun row => (row.id, row.status)) = [(5, "disabled")] ∧
      outcome.2.versions 5 = 0 ∧ outcome.2.versions 4294967301 = 1 := by
  decide +kernel

theorem admin_action_hits_one_user_other_actor :
    let outcome := runAlone (exec asciiTable)
      (handle superAdmin "7" (.updateStatus "disabled")) [{}, {}] (scopedUser 7)
    outcome.1 = some (.ok ()) ∧ OneUser superAdmin.id (scopedUser 7) outcome :=
  ⟨by decide +kernel, (admin_action_hits_one_user_iff asciiTable
    (by decide +kernel : parseUserID "7" = .ok 7)).mpr (.inl (by decide)) superAdmin
    (.updateStatus "disabled") (scopedUser 7) [{}, {}] (scopedUser_numbered (by decide))⟩

end Main

end Goshop.Admin.UserActions
