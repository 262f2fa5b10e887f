import Goshop.Authz.Principal
import Goshop.Authz.Scope
import Goshop.Errors
import Goshop.Lib.Sql
import Goshop.Lib.Table
import Goshop.Lib.Transaction

/-! The accounts of the user service: users, staff roles with their permissions
and domains, the roles bound to each user, and the resource scopes of each user.
The rows of `role_permissions` and `role_domains` are kept with their role. -/
namespace Goshop.User.Accounts

open Goshop.Errors Goshop.Lib Goshop.Lib.GoText Goshop.Lib.Transaction
open Goshop.Authz.Principal Goshop.Authz.Roles Goshop.Authz.Scope

structure UserDO where
  id : Int
  username : Option String := none
  mobile : String
  email : Option String := none
  password : String
  role : Int := 1
  status : String := "active"
  deleted : Bool := false
deriving DecidableEq, Repr

structure RoleDO where
  id : Int
  name : String
  description : String
  permissions : List String
  domains : List String
deriving DecidableEq, Repr

structure UserRoleDO where
  userID : Int
  roleID : Int
deriving DecidableEq, Repr

structure UserResourceScopeDO where
  userID : Int
  scope : ResourceScope
deriving DecidableEq, Repr

structure UserAuditLogDO where
  userID : Int
  actorUserID : Int
  actorPrincipalType : String
  action : String
  fromStatus : String := ""
  toStatus : String := ""
  detail : String := ""
deriving DecidableEq, Repr

structure UserDB where
  users : List UserDO
  roles : List RoleDO
  userRoles : List UserRoleDO
  resourceScopes : List UserResourceScopeDO
  auditLogs : List UserAuditLogDO := []
deriving DecidableEq, Repr

abbrev UserTxn := Txn AppError UserDB

structure AuditActor where
  userID : Int
  principalType : String
deriving DecidableEq, Repr

structure UserAuthDO where
  user : UserDO
  staffRoles : List String
  permissions : List String
  resourceDomains : List String
  resourceStores : List String
  resourceTeams : List String
  resourceScopes : List ResourceScope
deriving DecidableEq, Repr

structure StaffRoleDTO where
  name : String
  description : String
  permissions : List String
  builtin : Bool := false
  domains : List String
deriving DecidableEq, Repr

structure UserRoleBindingDTO where
  userID : Int
  staffRoles : List String
  permissions : List String
deriving DecidableEq, Repr

def databaseError : AppError := wrapDatabase "user database operation"

section Lookup

variable (db : UserDB)

/-- The id reaches the store as a `uint64`, so a negative one finds no row. -/
def getByID (id : Int) : Except AppError UserDO :=
  if id = 0 then .error (newCode .errUserNotFound "user not found")
  else
    match db.users.find? fun row => row.id = id ∧ 0 < id ∧ !row.deleted with
    | some user => .ok user
    | none => .error (newCode .errUserNotFound "record not found")

def getByMobile (mobile : String) : Except AppError UserDO :=
  let mobile := trimSpace mobile
  if mobile = "" then .error (newCode .errUserNotFound "user not found")
  else
    match db.users.find? fun row => row.mobile = mobile ∧ !row.deleted with
    | some user => .ok user
    | none => .error (newCode .errUserNotFound "record not found")

def getByUsername (username : String) : Except AppError UserDO :=
  let username := trimSpace username
  if username = "" then .error (newCode .errUserNotFound "user not found")
  else
    match db.users.find? fun row =>
      (row.username = some username ∨ row.mobile = username ∨ row.email = some username) ∧
        !row.deleted with
    | some user => .ok user
    | none => .error (newCode .errUserNotFound "record not found")

def rolesOf (userID : Int) : List RoleDO :=
  db.roles.filter fun role =>
    db.userRoles.any fun binding => binding.userID = userID ∧ binding.roleID = role.id

def listStaffRoles (userID : Int) : List String :=
  sortedSet ((rolesOf db userID).map (·.name))

def listPermissions (userID : Int) : List String :=
  sortedSet ((rolesOf db userID).flatMap (·.permissions))

/-- The three lists of distinct values come out of a map in no fixed order. -/
def buildAuthUser (user : UserDO) : Except AppError UserAuthDO :=
  if user.id ≤ 0 then .error (newCode .errUnknown s!"invalid user id {user.id}")
  else
    let scopes := (db.resourceScopes.filter (·.userID = user.id)).map (·.scope)
    .ok {
      user := user
      staffRoles := listStaffRoles db user.id
      permissions := listPermissions db user.id
      resourceDomains := sortedSet ((scopes.map (·.domain)).filter (· ≠ ""))
      resourceStores := sortedSet ((scopes.map (·.storeID)).filter (· ≠ ""))
      resourceTeams := sortedSet ((scopes.map (·.teamID)).filter (· ≠ ""))
      resourceScopes := scopes }

/-- `newUserAuthDTO`: the account must have one of the two legacy roles. -/
def newUserAuthDTO (auth : UserAuthDO) : Except AppError UserAuthDO :=
  if auth.user.role = 1 ∨ auth.user.role = 2 then .ok auth
  else .error (newCode .errValidation "legacy role must be one of: 1(customer), 2(admin)")

def getAuthByID (id : Int) : Except AppError UserAuthDO := do
  newUserAuthDTO (← buildAuthUser db (← getByID db id))

def getAuthByUsername (username : String) : Except AppError UserAuthDO := do
  let username := lowerTrim username
  if username = "" then throw (newCode .errValidation "登录标识不能为空")
  newUserAuthDTO (← buildAuthUser db (← getByUsername db username))

def getUserRoleBinding (userID : Int) : Except AppError UserRoleBindingDTO := do
  let auth ← buildAuthUser db (← getByID db userID)
  return ⟨auth.user.id, auth.staffRoles, auth.permissions⟩

/-- A built-in role without stored domains has those of its definition. -/
def listStaffRole (role : RoleDO) : StaffRoleDTO where
  name := role.name
  description := role.description
  permissions := sortedSet role.permissions
  builtin := isValidStaffRole role.name
  domains :=
    if role.domains ≠ [] then sortedSet role.domains
    else (builtinRoleDefinition role.name).elim [] domainsFromDefinition

def listStaffRoleCatalog : List StaffRoleDTO :=
  (db.roles.insertionSort fun first second => first.name ≤ second.name).map listStaffRole

end Lookup

section Roles

/-- The pattern `^[a-z][a-z0-9_]{2,63}$`. -/
def matchesRoleName (name : String) : Bool :=
  match name.toList with
  | [] => false
  | first :: rest =>
    ('a' ≤ first && first ≤ 'z') && (2 ≤ rest.length && rest.length ≤ 63) &&
      rest.all fun c => ('a' ≤ c && c ≤ 'z') || ('0' ≤ c && c ≤ '9') || c = '_'

def normalizeNames (known : String → Bool) (unknownNames noNames : String)
    (names : List String) : Except AppError (List String) :=
  let normalized := namesIn names
  if !normalized.all known then .error (newCode .errValidation unknownNames)
  else if normalized = [] then .error (newCode .errValidation noNames)
  else .ok (sortedSet normalized)

def normalizePermissionNames : List String → Except AppError (List String) :=
  normalizeNames isValidPermission "staff role permissions contain unknown values"
    "staff role permissions are required"

def normalizeBusinessDomains : List String → Except AppError (List String) :=
  normalizeNames isValidBusinessDomain "staff role domains contain unknown values"
    "staff role domains are required"

def createRole (roleName description : String) (permissions domains : List String) :
    UserTxn RoleDO := do
  let roleName := lowerTrim roleName
  Txn.guard (roleName ≠ "") (newCode .errValidation "staff role name is required")
  let db ← Txn.read
  Txn.guard (Sql.fitsVarchar 64 roleName && Sql.fitsVarchar 255 description &&
    !db.roles.any (·.name = roleName)) databaseError
  let role : RoleDO :=
    ⟨Sql.nextId (db.roles.map (·.id)), roleName, description, permissions, domains⟩
  Txn.write { db with roles := db.roles ++ [role] }
  pure role

def rewriteRole (description : String) (permissions domains : List String) (role : RoleDO) :
    RoleDO :=
  { role with description := description, permissions := permissions, domains := domains }

def updateRole (roleName description : String) (permissions domains : List String) :
    UserTxn RoleDO := do
  let roleName := lowerTrim roleName
  Txn.guard (roleName ≠ "") (newCode .errValidation "staff role name is required")
  let db ← Txn.read
  match db.roles.find? (·.name = roleName) with
  | none => Txn.fail (newCode .errUserNotFound "staff role not found")
  | some role => do
    Txn.guard (Sql.fitsVarchar 255 description) databaseError
    let roles := Table.modify (·.id) role.id (rewriteRole description permissions domains) db.roles
    Txn.write { db with roles := roles }
    pure (rewriteRole description permissions domains role)

def roleNameReserved : AppError :=
  newCode .errValidation "bootstrap and compatibility role names cannot be used as staff roles"

def createStaffRole (role : StaffRoleDTO) : UserTxn StaffRoleDTO := do
  let name := lowerTrim role.name
  let description := trimSpace role.description
  Txn.guard (name ≠ "") (newCode .errValidation "staff role name is required")
  Txn.guard (!isReservedNonStaffRoleName name) roleNameReserved
  Txn.guard (!isValidStaffRole name)
    (newCode .errValidation "built-in staff roles cannot be created again")
  Txn.guard (matchesRoleName name) (newCode .errValidation "staff role name format is invalid")
  Txn.guard (description ≠ "") (newCode .errValidation "staff role description is required")
  let permissions ← Txn.lift (normalizePermissionNames role.permissions)
  let domains ← Txn.lift (normalizeBusinessDomains role.domains)
  let created ← createRole name description permissions domains
  pure ⟨created.name, created.description, created.permissions, false, created.domains⟩

/-- The domains an update stores: those of the definition for a built-in role,
whatever the request says, and the requested ones for a custom role. -/
def updatedDomains (name : String) (requested : List String) : Except AppError (List String) :=
  match builtinRoleDefinition name with
  | some definition => .ok (domainsFromDefinition definition)
  | none => normalizeBusinessDomains requested

def updateStaffRole (role : StaffRoleDTO) : UserTxn StaffRoleDTO := do
  let name := lowerTrim role.name
  let description := trimSpace role.description
  Txn.guard (name ≠ "") (newCode .errValidation "staff role name is required")
  Txn.guard (!isReservedNonStaffRoleName name) roleNameReserved
  Txn.guard (description ≠ "") (newCode .errValidation "staff role description is required")
  let permissions ← Txn.lift (normalizePermissionNames role.permissions)
  let domains ← Txn.lift (updatedDomains name role.domains)
  let updated ← updateRole name description permissions domains
  pure ⟨updated.name, updated.description, updated.permissions, isValidStaffRole updated.name,
    updated.domains⟩

def normalizeRoleNames (roleNames : List String) : List String :=
  (namesIn roleNames).eraseDups

def checkKnownRoleName (db : UserDB) (roleName : String) : Except AppError Unit :=
  if isReservedNonStaffRoleName roleName then
    .error (newCode .errValidation "staff roles contain reserved non-staff values")
  else if db.roles.any fun role => lowerTrim role.name = roleName then .ok ()
  else .error (newCode .errValidation "staff roles contain unknown values")

def loadRoles (db : UserDB) (names : List String) : Except AppError (List RoleDO) :=
  let roles := (db.roles.filter fun role => role.name ∈ names).insertionSort
    fun first second => first.name ≤ second.name
  if roles.map (·.name) = names then .ok roles
  else .error (newCode .errValidation "staff roles contain unknown values")

def buildRolesAuditDetail (previousRoles nextRoles : List String) : String :=
  "roles:" ++ ",".intercalate previousRoles ++ "->" ++ ",".intercalate nextRoles

def rebind (userID : Int) (roles : List RoleDO) (bindings : List UserRoleDO) : List UserRoleDO :=
  (bindings.filter (·.userID ≠ userID)) ++ roles.map fun role => ⟨userID, role.id⟩

def rolesAuditLog (userID : Int) (actor : AuditActor) (previousRoles nextRoles : List String) :
    UserAuditLogDO where
  userID := userID
  actorUserID := actor.userID
  actorPrincipalType :=
    if trimSpace actor.principalType = "" then "internal_service" else trimSpace actor.principalType
  action := "staff_user_roles_replaced"
  detail := buildRolesAuditDetail previousRoles nextRoles

def replaceUserRoles (userID : Int) (roleNames : List String) (actor : AuditActor) :
    UserTxn UserAuthDO := do
  let db ← Txn.read
  let user ← Txn.lift (getByID db userID)
  let names := sortedSet (normalizeRoleNames roleNames)
  let roles ← Txn.lift (loadRoles db names)
  let previous := listStaffRoles db user.id
  let logs := if previous = names then [] else [rolesAuditLog user.id actor previous names]
  let replaced := { db with
    userRoles := rebind user.id roles db.userRoles, auditLogs := db.auditLogs ++ logs }
  Txn.write replaced
  Txn.lift (buildAuthUser replaced user)

def replaceUserRoleBinding (userID : Int) (roleNames : List String) (actor : AuditActor) :
    UserTxn UserRoleBindingDTO := do
  let names := normalizeRoleNames roleNames
  let db ← Txn.read
  Txn.lift (names.forM (checkKnownRoleName db))
  let auth ← replaceUserRoles userID names actor
  pure ⟨auth.user.id, auth.staffRoles, auth.permissions⟩

theorem getByID_ok {db : UserDB} {userID : Int} {user : UserDO} (h : getByID db userID = .ok user) :
    user.id = userID ∧ 0 < userID := by
  unfold getByID at h
  split at h
  · cases h
  · split at h
    · rename_i hfind
      cases h
      have hrow := List.find?_some hfind
      simp only [decide_eq_true_eq] at hrow
      exact ⟨hrow.1, hrow.2.1⟩
    · cases h

theorem normalizeNames_ok {known : String → Bool} {unknownNames noNames : String}
    {names normalized : List String}
    (h : normalizeNames known unknownNames noNames names = .ok normalized) {name : String}
    (hname : name ∈ normalized) : name ∈ namesIn names := by
  unfold normalizeNames at h
  dsimp only at h
  split at h
  · cases h
  · split at h
    · cases h
    · cases h
      exact mem_sortedSet.mp hname

theorem createRole_ok {roleName description : String} {permissions domains : List String}
    {role : RoleDO} {db db' : UserDB}
    (h : createRole roleName description permissions domains db = .ok (role, db')) :
    role.name = lowerTrim roleName ∧ role.permissions = permissions ∧ role.domains = domains ∧
      (∀ other ∈ db.roles, other.id ≠ role.id ∧ other.name ≠ role.name) ∧
      db'.roles = db.roles ++ [role] := by
  unfold createRole at h
  simp only [Txn.guard_bind_ok, Txn.read_bind, Txn.write_bind, Txn.pure_ok, Bool.and_eq_true,
    Bool.not_eq_true', List.any_eq_false] at h
  obtain ⟨-, ⟨-, hunused⟩, hresult⟩ := h
  cases hresult
  refine ⟨rfl, rfl, rfl, fun other hother => ⟨?_, by simpa using hunused other hother⟩, rfl⟩
  exact (Sql.lt_nextId (List.mem_map_of_mem hother)).ne

theorem createStaffRole_ok {role created : StaffRoleDTO} {db db' : UserDB}
    (h : createStaffRole role db = .ok (created, db')) :
    ∃ stored : RoleDO, stored.name = lowerTrim role.name ∧
      builtinRoleDefinition stored.name = none ∧
      normalizePermissionNames role.permissions = .ok stored.permissions ∧
      normalizeBusinessDomains role.domains = .ok stored.domains ∧
      (∀ other ∈ db.roles, other.id ≠ stored.id ∧ other.name ≠ stored.name) ∧
      db'.roles = db.roles ++ [stored] := by
  unfold createStaffRole at h
  simp only [Txn.guard_bind_ok, Txn.lift_bind_ok] at h
  obtain ⟨-, -, hcustom, -, -, permissions, hpermissions, domains, hdomains, hrun⟩ := h
  obtain ⟨stored, mid, hcreate, hresult⟩ := Txn.bind_ok.mp hrun
  cases Txn.pure_ok.mp hresult
  obtain ⟨hname, rfl, rfl, hunused, hroles⟩ := createRole_ok hcreate
  rw [lowerTrim_lowerTrim] at hname
  refine ⟨stored, hname, ?_, hpermissions, hdomains, hunused, hroles⟩
  rw [hname]
  simpa [isValidStaffRole] using hcustom

theorem updateRole_ok {roleName description : String} {permissions domains : List String}
    {role : RoleDO} {db db' : UserDB}
    (h : updateRole roleName description permissions domains db = .ok (role, db')) :
    ∃ stored ∈ db.roles, stored.name = lowerTrim roleName ∧
      db'.roles =
        Table.modify (·.id) stored.id (rewriteRole description permissions domains) db.roles := by
  unfold updateRole at h
  simp only [Txn.guard_bind_ok, Txn.read_bind] at h
  obtain ⟨-, h⟩ := h
  cases hfind : db.roles.find? (·.name = lowerTrim roleName) with
  | none => simp [hfind] at h
  | some stored =>
    rw [hfind] at h
    simp only [Txn.guard_bind_ok, Txn.write_bind, Txn.pure_ok] at h
    obtain ⟨-, hresult⟩ := h
    cases hresult
    exact ⟨stored, List.mem_of_find?_eq_some hfind, by simpa using List.find?_some hfind, rfl⟩

theorem updateStaffRole_ok {role updated : StaffRoleDTO} {db db' : UserDB}
    (h : updateStaffRole role db = .ok (updated, db')) :
    ∃ stored ∈ db.roles, stored.name = lowerTrim role.name ∧
      ∃ description permissions domains,
        normalizePermissionNames role.permissions = .ok permissions ∧
        updatedDomains (lowerTrim role.name) role.domains = .ok domains ∧
        db'.roles =
          Table.modify (·.id) stored.id (rewriteRole description permissions domains) db.roles := by
  unfold updateStaffRole at h
  simp only [Txn.guard_bind_ok, Txn.lift_bind_ok] at h
  obtain ⟨-, -, -, permissions, hpermissions, domains, hdomains, hrun⟩ := h
  obtain ⟨role', mid, hupdate, hresult⟩ := Txn.bind_ok.mp hrun
  cases Txn.pure_ok.mp hresult
  obtain ⟨stored, hstored, hname, hroles⟩ := updateRole_ok hupdate
  rw [lowerTrim_lowerTrim] at hname
  exact ⟨stored, hstored, hname, _, permissions, domains, hpermissions, hdomains, hroles⟩

theorem replaceUserRoleBinding_ok {userID : Int} {roleNames : List String} {actor : AuditActor}
    {binding : UserRoleBindingDTO} {db db' : UserDB}
    (h : replaceUserRoleBinding userID roleNames actor db = .ok (binding, db')) :
    db'.roles = db.roles := by
  unfold replaceUserRoleBinding replaceUserRoles at h
  simp only [Txn.read_bind, Txn.lift_bind_ok] at h
  obtain ⟨-, -, h⟩ := h
  obtain ⟨auth, mid, hreplace, hresult⟩ := Txn.bind_ok.mp h
  cases Txn.pure_ok.mp hresult
  simp only [Txn.read_bind, Txn.lift_bind_ok, Txn.write_bind, Txn.lift_ok] at hreplace
  obtain ⟨user, -, roles, -, -, hmid⟩ := hreplace
  rw [← hmid]

theorem replaceUserRoleBinding_cases {db : UserDB} {userID : Int} (roleNames : List String)
    (actor : AuditActor) :
    (Txn.commit (replaceUserRoleBinding userID roleNames actor) db).2 = db ∨
      ∃ roles logs, 0 < userID ∧ (∀ log ∈ logs, log.userID = userID) ∧
        (Txn.commit (replaceUserRoleBinding userID roleNames actor) db).2 =
          { db with userRoles := rebind userID roles db.userRoles
                    auditLogs := db.auditLogs ++ logs } := by
  rcases Txn.commit_cases (replaceUserRoleBinding userID roleNames actor) db with
    ⟨binding, db', hrun, hcommit⟩ | ⟨err, -, hcommit⟩
  · rw [hcommit]
    unfold replaceUserRoleBinding replaceUserRoles at hrun
    simp only [Txn.read_bind, Txn.lift_bind_ok] at hrun
    obtain ⟨-, -, hrun⟩ := hrun
    obtain ⟨auth, mid, hreplace, hresult⟩ := Txn.bind_ok.mp hrun
    cases Txn.pure_ok.mp hresult
    simp only [Txn.read_bind, Txn.lift_bind_ok, Txn.write_bind, Txn.lift_ok] at hreplace
    obtain ⟨user, huser, roles, -, -, hmid⟩ := hreplace
    obtain ⟨rfl, hpos⟩ := getByID_ok huser
    refine .inr ⟨roles, _, hpos, ?_, hmid.symm⟩
    intro log hlog
    split at hlog
    · cases hlog
    · rw [List.mem_singleton.mp hlog]
      rfl
  · rw [hcommit]
    exact .inl rfl

end Roles

section Scopes

variable (table : CaseTable)

def checkResourceScope (scope : ResourceScope) : Except AppError ResourceScope :=
  let scope := normalizeResourceScope table scope
  match BusinessDomain.ofText scope.domain with
  | none => .error (newCode .errValidation "resource scope domain is invalid")
  | some domain =>
    if !resourceScopeMatchesDomain domain scope.storeID scope.teamID then
      .error (newCode .errValidation "resource scope does not match domain dimension")
    else if (scope.resourceType = "") ≠ (scope.resourceID = "") then
      .error (newCode .errValidation "resource scope resource binding is incomplete")
    else .ok scope

/-- The key of the `seen` map, which has its own separator. -/
def seenKey (scope : ResourceScope) : String :=
  "\x00".intercalate scope.fields

def firstSeen (scopes : List ResourceScope) : List ResourceScope :=
  scopes.foldl (fun kept scope =>
    if kept.any fun other => seenKey other = seenKey scope then kept else kept ++ [scope]) []

def fitsColumns (scope : ResourceScope) : Bool :=
  Sql.fitsVarchar 32 scope.domain && Sql.fitsVarchar 64 scope.storeID &&
    Sql.fitsVarchar 64 scope.teamID && Sql.fitsVarchar 32 scope.resourceType &&
    Sql.fitsVarchar 128 scope.resourceID

/-- The rows of the user are deleted and the new ones inserted in one
transaction; the foreign key needs the user's row. -/
def replaceResourceScopes (userID : Int) (scopes : List ResourceScope) :
    UserTxn (List ResourceScope) := do
  let checked ← Txn.lift (scopes.mapM (checkResourceScope table))
  let stored := firstSeen checked
  Txn.guard (userID ≠ 0) (newCode .errUserNotFound "user not found")
  let db ← Txn.read
  Txn.guard (stored.all fitsColumns && (stored.isEmpty || db.users.any (·.id = userID)))
    (wrapDatabase "replace user resource scopes")
  let others := db.resourceScopes.filter (·.userID ≠ userID)
  Txn.write { db with resourceScopes := others ++ stored.map fun scope => ⟨userID, scope⟩ }
  pure stored

def scopesOf (db : UserDB) (userID : Int) : List ResourceScope :=
  (db.resourceScopes.filter (·.userID = userID)).map (·.scope)

theorem buildAuthUser_scopes {db : UserDB} {user : UserDO} {auth : UserAuthDO}
    (h : buildAuthUser db user = .ok auth) :
    auth.resourceScopes = scopesOf db auth.user.id := by
  unfold buildAuthUser at h
  split at h
  · cases h
  · cases h
    rfl

theorem getAuthByUsername_scopes {db : UserDB} {username : String} {auth : UserAuthDO}
    (h : getAuthByUsername db username = .ok auth) :
    auth.resourceScopes = scopesOf db auth.user.id := by
  simp only [getAuthByUsername] at h
  split at h
  · cases h
  · obtain ⟨user, -, h⟩ := except_bind_ok.mp h
    obtain ⟨built, hbuilt, h⟩ := except_bind_ok.mp h
    unfold newUserAuthDTO at h
    split at h
    · cases h
      exact buildAuthUser_scopes hbuilt
    · cases h

theorem checkResourceScope_ok {scope checked : ResourceScope}
    (h : checkResourceScope table scope = .ok checked) :
    checked = normalizeResourceScope table scope ∧
      ∃ domain, BusinessDomain.ofText checked.domain = some domain := by
  simp only [checkResourceScope] at h
  cases hdomain : BusinessDomain.ofText (normalizeResourceScope table scope).domain with
  | none => simp [hdomain] at h
  | some domain =>
    simp only [hdomain, ite_eq_iff, reduceCtorEq, and_false, false_or, Except.ok.injEq] at h
    rw [← h.2.2]
    exact ⟨rfl, domain, hdomain⟩

theorem firstSeen_append (scopes : List ResourceScope) (scope : ResourceScope) :
    firstSeen (scopes ++ [scope]) =
      if (firstSeen scopes).any fun other => seenKey other = seenKey scope then firstSeen scopes
      else firstSeen scopes ++ [scope] := by
  simp [firstSeen]

theorem mem_of_mem_firstSeen {scope : ResourceScope} {scopes : List ResourceScope}
    (h : scope ∈ firstSeen scopes) : scope ∈ scopes := by
  induction scopes using List.reverseRecOn with
  | nil => exact h
  | append_singleton scopes last ih =>
    rw [firstSeen_append] at h
    grind

theorem firstSeen_ne_nil {scopes : List ResourceScope} (hne : scopes ≠ []) :
    firstSeen scopes ≠ [] := by
  induction scopes using List.reverseRecOn with
  | nil => contradiction
  | append_singleton scopes last ih =>
    rw [firstSeen_append]
    split
    next hseen =>
      intro hempty
      simp [hempty] at hseen
    next => simp

theorem replaceResourceScopes_ok {userID : Int} {scopes stored : List ResourceScope}
    {db db' : UserDB} (h : replaceResourceScopes table userID scopes db = .ok (stored, db')) :
    scopesOf db' userID = stored ∧ (scopes ≠ [] → stored ≠ []) ∧
      ∀ scope ∈ stored, ∃ given, checkResourceScope table given = .ok scope := by
  unfold replaceResourceScopes at h
  simp only [Txn.lift_bind_ok, Txn.guard_bind_ok, Txn.read_bind, Txn.write_bind, Txn.pure_ok] at h
  obtain ⟨checked, hchecked, -, -, hresult⟩ := h
  cases hresult
  obtain ⟨hlength, hgiven⟩ := mapM_ok hchecked
  refine ⟨?_, ?_, ?_⟩
  · simp [scopesOf, List.filter_map, Function.comp_def]
  · intro hne
    apply firstSeen_ne_nil
    rw [← List.length_pos_iff] at hne ⊢
    omega
  · intro scope hscope
    obtain ⟨given, -, hscope⟩ := hgiven scope (mem_of_mem_firstSeen hscope)
    exact ⟨given, hscope⟩

theorem replaceResourceScopes_cases {db : UserDB} {userID : Int} (scopes : List ResourceScope) :
    (Txn.commit (replaceResourceScopes table userID scopes) db).2 = db ∨
      ∃ stored : List ResourceScope, userID ≠ 0 ∧
        (stored = [] ∨ ∃ user ∈ db.users, user.id = userID) ∧
        (Txn.commit (replaceResourceScopes table userID scopes) db).2 =
          { db with resourceScopes := db.resourceScopes.filter (·.userID ≠ userID) ++
                      stored.map fun scope => ⟨userID, scope⟩ } := by
  rcases Txn.commit_cases (replaceResourceScopes table userID scopes) db with
    ⟨stored, db', hrun, hcommit⟩ | ⟨err, -, hcommit⟩
  · rw [hcommit]
    simp only [replaceResourceScopes, Txn.lift_bind_ok, Txn.guard_bind_ok,
      Txn.read_bind, Txn.write_bind, Txn.pure_ok] at hrun
    obtain ⟨checked, -, hzero, hfits, hresult⟩ := hrun
    cases hresult
    refine .inr ⟨_, by simpa using hzero, ?_, rfl⟩
    simpa [List.isEmpty_iff] using (Bool.and_eq_true_iff.mp hfits).2
  · rw [hcommit]
    exact .inl rfl

end Scopes

section Status

structure UserPublicDTO where
  id : Int
  username : Option String
  mobile : String
  email : Option String
  status : String
deriving DecidableEq, Repr

def newUserPublicDTO (user : UserDO) : Except AppError UserPublicDTO :=
  if user.role = 1 ∨ user.role = 2 then
    .ok ⟨user.id, user.username, user.mobile, user.email, user.status⟩
  else .error (newCode .errValidation "legacy role must be one of: 1(customer), 2(admin)")

def normalizeMutableAccountStatus (status : String) : Except AppError String :=
  match normalizeAccountStatus status with
  | .active => .ok "active"
  | .disabled => .ok "disabled"
  | .locked => .ok "locked"
  | .deletionPending | .deleted | .other _ =>
    .error (newCode .errValidation "account status must be one of: active, disabled, locked")

/-- `newAuditActor` drops an actor without id and principal type. -/
def statusAuditLog (userID : Int) (actor : AuditActor) (previous status : String) :
    UserAuditLogDO where
  userID := userID
  actorUserID := if actor.userID ≤ 0 ∧ trimSpace actor.principalType = "" then 0 else actor.userID
  actorPrincipalType :=
    if trimSpace actor.principalType = "" then "internal_service" else trimSpace actor.principalType
  action := "staff_user_status_updated"
  fromStatus := previous
  toStatus := status

def setStatus (id : Int) (status : String) (users : List UserDO) : List UserDO :=
  Table.modify (·.id) id ({ · with status := status }) users

def storeStatus (userID : Int) (status : String) (actor : AuditActor) : UserTxn Unit := do
  let db ← Txn.read
  let user ← Txn.lift (getByID db userID)
  let log := statusAuditLog user.id actor user.status status
  if user.status = status then pure ()
  else do
    Txn.guard (Sql.fitsVarchar 32 log.actorPrincipalType) databaseError
    Txn.write { db with
      users := setStatus userID status db.users, auditLogs := db.auditLogs ++ [log] }

def updateStatus (userID : Int) (status : String) (actor : AuditActor) : UserTxn Unit := do
  Txn.guard (userID ≠ 0) (newCode .errUserNotFound "用户不存在")
  let normalized ← Txn.lift (normalizeMutableAccountStatus status)
  storeStatus userID normalized actor

theorem updateStatus_cases {db : UserDB} {userID : Int} (status : String) (actor : AuditActor) :
    (Txn.commit (updateStatus userID status actor) db).2 = db ∨
      ∃ normalized log, 0 < userID ∧ normalizeMutableAccountStatus status = .ok normalized ∧
        log.userID = userID ∧ (Txn.commit (updateStatus userID status actor) db).2 =
          { db with users := setStatus userID normalized db.users
                    auditLogs := db.auditLogs ++ [log] } := by
  rcases Txn.commit_cases (updateStatus userID status actor) db with
    ⟨⟨⟩, db', hrun, hcommit⟩ | ⟨err, -, hcommit⟩
  · rw [hcommit]
    simp only [updateStatus, storeStatus, Txn.guard_bind_ok, Txn.lift_bind_ok,
      Txn.read_bind] at hrun
    obtain ⟨-, normalized, hnormalized, user, huser, hrun⟩ := hrun
    obtain ⟨hid, hpos⟩ := getByID_ok huser
    split at hrun
    · cases Txn.pure_ok.mp hrun
      exact .inl rfl
    · rw [Txn.guard_bind_ok, Txn.write_ok] at hrun
      cases hrun.2
      exact .inr ⟨normalized, _, hpos, hnormalized, hid, rfl⟩
  · rw [hcommit]
    exact .inl rfl

def updateUserStatus (userID : Int) (status : String) (actor : AuditActor) (db : UserDB) :
    Except AppError UserPublicDTO × UserDB :=
  let result := Txn.commit (updateStatus userID status actor) db
  (result.1.bind fun _ => (getByID result.2 userID).bind newUserPublicDTO, result.2)

end Status

end Goshop.User.Accounts
