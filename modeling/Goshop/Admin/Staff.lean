import Goshop.Admin.Access
import Goshop.Lib.Process
import Goshop.User.Session

/-! The staff side of the admin gateway: what it shares with the user service
and with Redis, the calls it makes, and the handlers for login and for role
management. A call is atomic; anything may happen between two calls. -/
namespace Goshop.Admin.Staff

open Goshop.Errors Goshop.Lib Goshop.Lib.GoText Goshop.Lib.Transaction Goshop.Lib.Process
open Goshop.Authz.Principal Goshop.Authz.Roles Goshop.User.Accounts Goshop.User.Session
open Goshop.Admin.Access

/-- The accounts, the sessions, the token versions in Redis, and every token
that has been signed so far. -/
structure World where
  accounts : UserDB
  sessions : SessionDB
  versions : Int → Int
  issued : List Claims

structure Choice where
  outcome : Outcome := .ok
  now : Int := 0
  sessionID : String := ""
  tokenHash : Digest := Vector.replicate 32 0
  passwordMatches : Bool := true

inductive Call where
  | getUserAuthByMobile (identifier : String)
  | checkPassWord (password encryptedPassword : String)
  | createSession (userID : Int) (deviceID : String) (timeout : Int)
  | currentVersion (userID : Int)
  | signToken (claims : Claims)
  | createAdminAuditLog (userID : Int) (action detail : String)
  | listStaffRoles
  | getUserStaffRoles (userID : Int)
  | createStaffRole (role : StaffRoleDTO)
  | updateStaffRole (role : StaffRoleDTO)
  | replaceUserStaffRoles (userID : Int) (roles : List String) (actor : AuditActor)
  | bump (userID : Int)
deriving DecidableEq, Repr

abbrev Answer : Call → Type
  | .getUserAuthByMobile _ => UserAuthDO
  | .checkPassWord _ _ => Bool
  | .createSession _ _ _ => String
  | .currentVersion _ => Int
  | .signToken _ => Unit
  | .createAdminAuditLog _ _ _ => Unit
  | .listStaffRoles => List StaffRoleDTO
  | .getUserStaffRoles _ => UserRoleBindingDTO
  | .createStaffRole _ => StaffRoleDTO
  | .updateStaffRole _ => StaffRoleDTO
  | .replaceUserStaffRoles _ _ _ => UserRoleBindingDTO
  | .bump _ => Int

abbrev Reply (request : Call) : Type := Except AppError (Answer request)

abbrev Result (α : Type) := Except AppError α

abbrev Program := Proc Call Reply

def onAccounts {α : Type} (body : UserTxn α) (world : World) : Except AppError α × World :=
  let result := Txn.commit body world.accounts
  (result.1, { world with accounts := result.2 })

def newStaffSession (userID : Int) (deviceID : String) (timeout : Int) (choice : Choice) :
    UserSessionDO where
  id := choice.sessionID
  userID := userID
  principalType := .staff
  refreshTokenHash := choice.tokenHash
  deviceID := deviceID
  lastUsedAt := choice.now
  expiresAt := choice.now + timeout
  revokedAt := none

/-- What the callee does when the call reaches it. Signing is done by the
gateway itself; it is a call only to record the token. -/
def serve : (request : Call) → Choice → World → Reply request × World
  | .getUserAuthByMobile identifier, _, world =>
    (getAuthByUsername world.accounts identifier, world)
  | .checkPassWord _ _, choice, world => (.ok choice.passwordMatches, world)
  | .createSession userID deviceID timeout, choice, world =>
    let result := Txn.commit (createSession (newStaffSession userID deviceID timeout choice))
      world.sessions
    (result.1.map fun _ => choice.sessionID, { world with sessions := result.2 })
  | .currentVersion userID, _, world => (.ok (world.versions userID), world)
  | .signToken claims, _, world => (.ok (), { world with issued := world.issued ++ [claims] })
  | .createAdminAuditLog _ _ _, _, world => (.ok (), world)
  | .listStaffRoles, _, world => (.ok (listStaffRoleCatalog world.accounts), world)
  | .getUserStaffRoles userID, _, world => (getUserRoleBinding world.accounts userID, world)
  | .createStaffRole role, _, world => onAccounts (createStaffRole role) world
  | .updateStaffRole role, _, world => onAccounts (updateStaffRole role) world
  | .replaceUserStaffRoles userID roles actor, _, world =>
    onAccounts (replaceUserRoleBinding userID roles actor) world
  | .bump userID, _, world =>
    let version := world.versions userID + 1
    (.ok version, { world with versions := Function.update world.versions userID version })

def lostCall : AppError := newCode .errConnectGRPC "user service call failed"

def exec (request : Call) (choice : Choice) (world : World) : Reply request × World :=
  call lostCall choice.outcome (serve request choice) world

section Login

structure LoginRequest where
  username : String
  password : String
  deviceID : String := ""
deriving DecidableEq, Repr

structure LoginResponse where
  token : Claims
  roles : List String
  permissions : List String
deriving DecidableEq, Repr

def badCredentials : AppError := newCode .errTokenInvalid "账号或密码错误"

def lookupError (err : AppError) : AppError :=
  if err.code = .errUserNotFound ∨ err.code = .errValidation then badCredentials
  else newCode .errServiceUnavailable "staff auth backend is temporarily unavailable"

def orFail {α β : Type} (reply : Except AppError α) (failure : AppError → AppError)
    (next : α → Program (Result β)) : Program (Result β) :=
  Proc.attempt (reply.mapError failure) next

theorem runAlone_orFail {α : Type} {request : Call} {failure : AppError → AppError}
    {next : Answer request → Program (Result α)} {choices : List Choice} {world world' : World}
    {value : α}
    (h : runAlone exec (Proc.send request >>= fun reply => orFail reply failure next) choices
      world = (some (.ok value), world')) :
    ∃ choice rest answer mid, serve request choice world = (.ok answer, mid) ∧
      runAlone exec (next answer) rest mid = (some (.ok value), world') := by
  obtain ⟨choice, rest, hrest⟩ := runAlone_call_some h
  obtain ⟨answer, hanswer, hnext⟩ := runAlone_attempt_ok hrest
  have hreply : (exec request choice world).1 = .ok answer := by
    cases hexec : (exec request choice world).1 with
    | ok given =>
      rw [hexec] at hanswer
      cases hanswer
      rfl
    | error err =>
      rw [hexec] at hanswer
      cases hanswer
  obtain ⟨houtcome, hserve⟩ := call_value hreply
  rw [exec, houtcome, call_okay] at hnext
  exact ⟨choice, rest, answer, _, Prod.ext hserve rfl, hnext⟩

def checkAccount (user : UserAuthDO) : Except AppError Unit :=
  if normalizeAccountStatus user.user.status ≠ .active then
    .error (newCode .errPermissionDenied "staff account is not active")
  else if user.staffRoles = [] ∨ user.permissions = [] then
    .error (newCode .errPermissionDenied "staff role is required")
  else .ok ()

def checkPassword (reply : Except AppError Bool) : Except AppError Unit :=
  match reply with
  | .ok true => .ok ()
  | .ok false | .error _ => .error badCredentials

/-- A user without a positive id has version 0. -/
def currentTokenVersion (userID : Int) : Program (Result Int) :=
  if 0 < userID then Proc.send (Call.currentVersion userID) else .ret (.ok 0)

def createToken (table : CaseTable) (user : UserAuthDO) (sessionID : String) :
    Program (Result Claims) := do
  let version ← currentTokenVersion user.user.id
  Proc.attempt version fun version => do
    let signed ← Proc.send (Call.signToken (staffClaims table user version sessionID))
    Proc.attempt signed fun _ => .ret (.ok (staffClaims table user version sessionID))

def createStaffSession (timeout : Int) (userID : Int) (deviceID : String) :
    Program (Result String) :=
  let deviceID := trimSpace deviceID
  Proc.send (Call.createSession userID (if deviceID = "" then "admin-web" else deviceID) timeout)

def login (table : CaseTable) (timeout : Int) (request : LoginRequest) :
    Program (Result LoginResponse) := do
  let found ← Proc.send (Call.getUserAuthByMobile (lowerTrim request.username))
  orFail found lookupError fun user =>
    Proc.attempt (checkAccount user) fun _ => do
      let check ← Proc.send (Call.checkPassWord request.password user.user.password)
      Proc.attempt (checkPassword check) fun _ => do
        let session ← createStaffSession timeout user.user.id request.deviceID
        orFail session (fun _ => newCode .errServiceUnavailable
            "staff session service is temporarily unavailable") fun sessionID => do
          let token ← createToken table user sessionID
          orFail token (fun _ => newCode .errUnknown "create staff token failed") fun claims => do
            let logged ← Proc.send (Call.createAdminAuditLog user.user.id "staff_login_succeeded"
              ("roles:" ++ ",".intercalate user.staffRoles ++ " session_id:" ++ sessionID))
            orFail logged (fun _ => newCode .errServiceUnavailable
                "staff audit service is temporarily unavailable") fun _ =>
              .ret (.ok ⟨claims, user.staffRoles, user.permissions⟩)

end Login

section Roles

structure StaffRoleRequest where
  name : String
  description : String
  permissions : List String
  domains : List String
deriving DecidableEq, Repr

def StaffRoleRequest.role (request : StaffRoleRequest) (name : String) : StaffRoleDTO :=
  ⟨name, request.description, request.permissions, false, request.domains⟩

def denied (message : String) : AppError := newCode .errPermissionDenied message

def check (passed : Bool) (err : AppError) : Except AppError Unit :=
  if passed then .ok () else .error err

theorem check_ok {passed : Bool} {err : AppError} {value : Unit}
    (h : check passed err = .ok value) : passed = true := by
  cases passed with
  | true => rfl
  | false => cases h

def userRPCError (fallback : String) (err : AppError) : AppError :=
  match err.code with
  | .errValidation => newCode .errValidation "Validation failed"
  | .errUserNotFound => newCode .errPageNotFound fallback
  | _ => newCode .errServiceUnavailable "user service is temporarily unavailable"

def createStaffRoleHandler (claims : Claims) (request : StaffRoleRequest) :
    Program (Result StaffRoleDTO) :=
  Proc.attempt (check (canManageBusinessDomains (currentRoles claims) request.domains)
      (denied "cross-domain role creation denied")) fun _ =>
    Proc.attempt (check (canGrantPermissions (currentPermissions claims) request.permissions)
        (denied "permission escalation denied")) fun _ =>
      Proc.attempt (currentActor claims) fun _ => do
        let created ← Proc.send (Call.createStaffRole (request.role request.name))
        orFail created (userRPCError "create staff role failed") fun role => .ret (.ok role)

/-- The name of the role is in the path; the domains of the request are not
checked. -/
def updateStaffRoleHandler (claims : Claims) (name : String) (request : StaffRoleRequest) :
    Program (Result StaffRoleDTO) :=
  let roleName := lowerTrim name
  Proc.attempt (check (roleName ≠ "") (newCode .errValidation "invalid role name")) fun _ => do
    let listed ← Proc.send Call.listStaffRoles
    orFail listed (userRPCError "list staff roles failed") fun catalog =>
      Proc.attempt (check (canManageRoleNamesWithCatalog (currentRoles claims) [roleName] catalog)
          (denied "cross-domain role update denied")) fun _ =>
        Proc.attempt (check (canGrantPermissions (currentPermissions claims) request.permissions)
            (denied "permission escalation denied")) fun _ =>
          Proc.attempt (currentActor claims) fun _ => do
            let updated ← Proc.send (Call.updateStaffRole (request.role roleName))
            orFail updated (userRPCError "update staff role failed") fun role => .ret (.ok role)

def isSuperAdmin (role : String) : Bool :=
  equalFold role StaffRole.superAdmin.text

/-- Only a super admin may change the roles of a super admin, or give that role. -/
def checkSuperAdmin (claims : Claims) (userID : Int) (roles : List String) :
    Program (Result Unit) :=
  if hasRole (currentRoles claims) .superAdmin then .ret (.ok ())
  else do
    let binding ← Proc.send (Call.getUserStaffRoles userID)
    orFail binding (userRPCError "get user staff roles failed") fun binding =>
      Proc.attempt (check (!binding.staffRoles.any isSuperAdmin)
          (denied "super admin roles can only be changed by super admin")) fun _ =>
        .ret (check (!roles.any isSuperAdmin)
          (denied "super admin role can only be assigned by super admin"))

def int32 (value : Int) : Int :=
  (value + 2147483648) % 4294967296 - 2147483648

/-- The path gives the user's id as a `uint64`; the user service gets its low 32
bits, Redis all of it. -/
def replaceUserStaffRoles (claims : Claims) (userID : Nat) (roles : List String) :
    Program (Result UserRoleBindingDTO) :=
  Proc.attempt (check (userID ≠ 0) (newCode .errValidation "invalid user id")) fun _ =>
    Proc.attempt (currentActor claims) fun actor => do
      let listed ← Proc.send Call.listStaffRoles
      orFail listed (userRPCError "list staff roles failed") fun catalog =>
        Proc.attempt (check (canManageRoleNamesWithCatalog (currentRoles claims) roles catalog)
            (denied "cross-domain role assignment denied")) fun _ => do
          let allowed ← checkSuperAdmin claims (int32 userID) roles
          Proc.attempt allowed fun _ => do
            let replaced ← Proc.send (Call.replaceUserStaffRoles (int32 userID) roles actor)
            orFail replaced (userRPCError "replace user staff roles failed") fun binding => do
              let bumped ← Proc.send (Call.bump userID)
              orFail bumped (fun _ =>
                  newCode .errUnknown "role update token invalidation failed") fun _ =>
                .ret (.ok binding)

end Roles

end Goshop.Admin.Staff
