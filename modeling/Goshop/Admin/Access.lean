import Goshop.Authz.Principal
import Goshop.User.Accounts

/-! What a staff token says and what it opens: the claims that are signed into
it, the authorizer in front of every admin route, the scope checks on the
claims, and the checks of the role handlers on the roles of the actor. -/
namespace Goshop.Admin.Access

open Goshop.Errors Goshop.Lib Goshop.Lib.GoText
open Goshop.Authz.Principal Goshop.Authz.Roles Goshop.Authz.Scope Goshop.User.Accounts

section Token

variable (table : CaseTable)

def roleDomains (roles : List String) : List String :=
  sortedSet ((builtinRoleDefinitions.filter fun definition =>
    roles.any fun role => equalFold role definition.name.text).flatMap
      (·.domains.map (·.text)))

def effectiveResourceDomains (user : UserAuthDO) : List String :=
  if user.resourceDomains ≠ [] then user.resourceDomains else roleDomains user.staffRoles

def effectiveResourceScopes (user : UserAuthDO) : List String :=
  user.resourceScopes.map (encodeResourceScope table)

def staffClaims (user : UserAuthDO) (tokenVersion : Int) (sessionID : String) : Claims where
  id := user.user.id
  roles := user.staffRoles
  principalType := .staff
  accountStatus := user.user.status
  scope := user.permissions
  tokenVersion := tokenVersion
  sessionID := sessionID
  resourceDomains := effectiveResourceDomains user
  resourceStores := user.resourceStores
  resourceTeams := user.resourceTeams
  resourceScopes := effectiveResourceScopes table user

/-- The authorizer of `newStaffJWTAuth`. It trusts the roles and permissions in
the claims; what it looks up is the account, the version and the session. -/
def newStaffJWTAuth (backend : AuthBackend) (claims : Claims) : Bool :=
  let staffActive :=
    claims.principalType = .staff ∧ normalizeAccountStatus claims.accountStatus = .active
  let notRevoked :=
    match backend.isRevoked with
    | none | some (.ok false) => true
    | some (.ok true) | some (.error _) => false
  let userActive :=
    match backend.userStatus with
    | none => true
    | some get =>
      match get claims.id with
      | .ok status => normalizeAccountStatus status = .active
      | .error _ => false
  let versionCurrent :=
    match backend.currentVersion with
    | none => true
    | some current =>
      match current claims.id with
      | .ok version => version = claims.tokenVersion
      | .error _ => false
  let sessionActive :=
    if trimSpace claims.sessionID = "" then true
    else
      match backend.validateSession with
      | none => false
      | some validate =>
        match validate claims.id claims.sessionID with
        | .ok active => active
        | .error _ => false
  staffActive && notRevoked && 0 < claims.id && userActive && versionCurrent && sessionActive

theorem newStaffJWTAuth_ok {backend : AuthBackend} {claims : Claims}
    {current : Int → Except AppError Int} (hcurrent : backend.currentVersion = some current)
    (h : newStaffJWTAuth backend claims = true) :
    0 < claims.id ∧ current claims.id = .ok claims.tokenVersion := by
  simp only [newStaffJWTAuth, hcurrent, Bool.and_eq_true, decide_eq_true_eq] at h
  obtain ⟨⟨⟨⟨-, hpos⟩, -⟩, hversion⟩, -⟩ := h
  refine ⟨hpos, ?_⟩
  cases hread : current claims.id with
  | ok version => simpa [hread] using hversion
  | error err => simp [hread] at hversion

end Token

section Scopes

variable (table : CaseTable) (claims : Claims)

def scopeAllows (values : List String) (requested : String) : Bool :=
  let requested := trimSpace requested
  requested = "" ∨ "*" ∈ values ∨ requested ∈ values

def parseResourceScopes (values : List String) : List ResourceScope :=
  values.map (decodeResourceScope table)

def claimsAllowScope (requested : ResourceScope) : Bool :=
  if claims.resourceScopes ≠ [] then
    resourceScopeAllows table (parseResourceScopes table claims.resourceScopes) requested
  else
    scopeAllows claims.resourceDomains requested.domain &&
      scopeAllows claims.resourceStores requested.storeID &&
      scopeAllows claims.resourceTeams requested.teamID

def claimsAllowDomain (domain : BusinessDomain) : Bool :=
  (parseResourceScopes table claims.resourceScopes).any
      (fun scope => equalFold scope.domain domain.text) ||
    scopeAllows claims.resourceDomains domain.text

end Scopes

section Actor

def currentRoles (claims : Claims) : List String :=
  claims.roles.map lowerTrim

def currentPermissions (claims : Claims) : List String :=
  claims.scope.map lowerTrim

def currentActor (claims : Claims) : Except AppError AuditActor :=
  if 0 < claims.id then .ok ⟨claims.id, claims.principalType.text⟩
  else .error (newCode .errTokenInvalid "token user id invalid")

def canGrantPermissions (actorPermissions targetPermissions : List String) : Bool :=
  let allowed := namesIn actorPermissions
  allowed ≠ [] && (namesIn targetPermissions).all (· ∈ allowed)

def canManageBusinessDomains (actorRoles targetDomains : List String) : Bool :=
  if hasRole actorRoles .superAdmin then true
  else
    let actorDomains := (domainsForRoles actorRoles).map (·.text)
    if actorDomains = [] then false
    else if BusinessDomain.platform.text ∈ actorDomains then true
    else (namesIn targetDomains).all (· ∈ actorDomains) && targetDomains ≠ []

def normalizeStringList (values : List String) : List String :=
  sortedSet (namesIn values)

/-- The domains that the handlers see for a role name: those of the last catalog
entry of the name, or those of the definition of a role not in the catalog. -/
def catalogDomains (catalog : List StaffRoleDTO) (roleName : String) : List String :=
  match catalog.reverse.find? (lowerTrim ·.name = roleName) with
  | some role => normalizeStringList role.domains
  | none => (builtinRoleDefinition roleName).elim [] domainsFromDefinition

def canManageRoleNamesWithCatalog (actorRoles targetRoleNames : List String)
    (catalog : List StaffRoleDTO) : Bool :=
  if hasRole actorRoles .superAdmin then true
  else
    let names := namesIn targetRoleNames
    names.all (fun name => name ≠ StaffRole.superAdmin.text ∧ catalogDomains catalog name ≠ []) &&
      canManageBusinessDomains actorRoles (names.flatMap (catalogDomains catalog))

theorem canGrantPermissions_ok {claims : Claims} {target : List String}
    (h : canGrantPermissions (currentPermissions claims) target = true) :
    ∀ permission ∈ namesIn target, permission ∈ currentPermissions claims := by
  intro permission hpermission
  simp only [canGrantPermissions, Bool.and_eq_true, List.all_eq_true, decide_eq_true_eq] at h
  exact mem_of_mem_namesIn_map (h.2 permission hpermission)

theorem canManageBusinessDomains_ok {actorRoles target : List String}
    (hsuper : hasRole actorRoles .superAdmin = false)
    (hplatform : BusinessDomain.platform ∉ domainsForRoles actorRoles)
    (h : canManageBusinessDomains actorRoles target = true) :
    ∀ domain ∈ namesIn target, domain ∈ (domainsForRoles actorRoles).map (·.text) := by
  have hplatform' : BusinessDomain.platform.text ∉ (domainsForRoles actorRoles).map (·.text) := by
    intro hmem
    obtain ⟨domain, hdomain, htext⟩ := List.mem_map.mp hmem
    exact hplatform (BusinessDomain.text_injective htext ▸ hdomain)
  simp only [canManageBusinessDomains, hsuper, Bool.false_eq_true, if_false, hplatform',
    Bool.if_false_left, Bool.and_eq_true, List.all_eq_true, decide_eq_true_eq] at h
  exact h.2.1

theorem mem_namesIn {name : String} {values : List String} :
    name ∈ namesIn values ↔ (∃ value ∈ values, lowerTrim value = name) ∧ name ≠ "" := by
  simp [namesIn]

theorem catalogDomains_stored {db : UserDB} (unique : (db.roles.map (·.name)).Nodup)
    (names : ∀ role ∈ db.roles, lowerTrim role.name = role.name) {role : RoleDO}
    (hrole : role ∈ db.roles) :
    catalogDomains (listStaffRoleCatalog db) role.name =
      normalizeStringList (listStaffRole role).domains := by
  have hperm := List.perm_insertionSort (fun first second : RoleDO => first.name ≤ second.name)
    db.roles
  have hkeys : ((listStaffRoleCatalog db).reverse.map fun entry => lowerTrim entry.name).Perm
      (db.roles.map (·.name)) := by
    rw [← List.map_congr_left names, listStaffRoleCatalog, List.map_reverse, List.map_map]
    exact (List.reverse_perm _).trans (hperm.map _)
  have hentry : listStaffRole role ∈ (listStaffRoleCatalog db).reverse :=
    List.mem_reverse.mpr (List.mem_map_of_mem (hperm.mem_iff.mpr hrole))
  have hfind := Table.find_of_mem (hkeys.nodup_iff.mpr unique) hentry
  have hname : lowerTrim (listStaffRole role).name = role.name := names role hrole
  rw [hname] at hfind
  rw [catalogDomains, hfind]

theorem canManageRoleNamesWithCatalog_ok {actorRoles target : List String} {db : UserDB}
    (hsuper : hasRole actorRoles .superAdmin = false)
    (hplatform : BusinessDomain.platform ∉ domainsForRoles actorRoles)
    (unique : (db.roles.map (·.name)).Nodup)
    (names : ∀ role ∈ db.roles, lowerTrim role.name = role.name)
    (h : canManageRoleNamesWithCatalog actorRoles target (listStaffRoleCatalog db) = true)
    {role : RoleDO} (hrole : role ∈ db.roles) (htarget : role.name ∈ namesIn target) :
    namesIn (listStaffRole role).domains ≠ [] ∧
      ∀ domain ∈ namesIn (listStaffRole role).domains,
        domain ∈ (domainsForRoles actorRoles).map (·.text) := by
  have hlisted := catalogDomains_stored unique names hrole
  simp only [canManageRoleNamesWithCatalog, hsuper, Bool.false_eq_true, if_false,
    Bool.and_eq_true, List.all_eq_true, decide_eq_true_eq] at h
  obtain ⟨hnames, hmanage⟩ := h
  refine ⟨?_, fun domain hdomain => ?_⟩
  · have hne := (hnames role.name htarget).2
    rw [hlisted, normalizeStringList] at hne
    exact fun hnil => hne (sortedSet_eq_nil.mpr hnil)
  · apply canManageBusinessDomains_ok hsuper hplatform hmanage domain
    obtain ⟨⟨value, -, rfl⟩, hne⟩ := mem_namesIn.mp hdomain
    refine mem_namesIn.mpr ⟨⟨_, List.mem_flatMap.mpr ⟨role.name, htarget, ?_⟩,
      lowerTrim_lowerTrim value⟩, hne⟩
    rw [hlisted, normalizeStringList]
    exact mem_sortedSet.mpr hdomain

end Actor

end Goshop.Admin.Access
