import Goshop.Admin.Staff

/-! Role management by an actor who is no platform administrator must not hand
out more than the actor has. The three handlers make different checks: a new
role is checked for domains and permissions, an updated one for its permissions
and the domains it had before, and an assigned one only for its domains. So the
catalog decides: the domain check confines an assignment to the actor's
permissions only if no role of the actor's domains holds more. -/
namespace Goshop.Admin.Escalation

open Goshop.Errors Goshop.Lib Goshop.Lib.GoText Goshop.Lib.Process Goshop.Lib.Run
open Goshop.Authz.Principal Goshop.Authz.Roles Goshop.User.Accounts Goshop.User.Session
open Goshop.Admin.Access Goshop.Admin.Staff

inductive Request where
  | createRole (request : StaffRoleRequest)
  | updateRole (name : String) (request : StaffRoleRequest)
  | replaceRoles (userID : Nat) (roles : List String)
deriving DecidableEq, Repr

def handler (claims : Claims) : Request → Program (Result Unit)
  | .createRole request => createStaffRoleHandler claims request >>= fun result =>
      .ret (result.map fun _ => ())
  | .updateRole name request => updateStaffRoleHandler claims name request >>= fun result =>
      .ret (result.map fun _ => ())
  | .replaceRoles userID roles => replaceUserStaffRoles claims userID roles >>= fun result =>
      .ret (result.map fun _ => ())

structure Step where
  request : Request
  choices : List Choice := List.replicate 5 {}

def serveStep (claims : Claims) (world : World) (step : Step) : Option (Result Unit) × World :=
  runAlone exec (handler claims step.request) step.choices world

def after (claims : Claims) (world : World) (step : Step) : World :=
  (serveStep claims world step).2

def Succeeds (claims : Claims) (world : World) (step : Step) : Prop :=
  (serveStep claims world step).1 = some (.ok ())

instance (claims : Claims) (world : World) (step : Step) : Decidable (Succeeds claims world step) :=
  inferInstanceAs (Decidable (_ = _))

def Request.writes : Request → List String
  | .createRole request => [lowerTrim request.name]
  | .updateRole name _ => [lowerTrim name]
  | .replaceRoles _ _ => []

def Request.assigns : Request → List String
  | .replaceRoles _ roles => normalizeRoleNames roles
  | _ => []

section Bounds

variable (claims : Claims)

def actorDomains : List String :=
  (domainsForRoles (currentRoles claims)).map (·.text)

def OwnDomains (role : RoleDO) : Prop :=
  ∀ domain ∈ role.domains, domain ∈ actorDomains claims

def OwnPermissions (role : RoleDO) : Prop :=
  ∀ permission ∈ role.permissions, permission ∈ currentPermissions claims

instance (role : RoleDO) : Decidable (OwnDomains claims role) :=
  inferInstanceAs (Decidable (∀ domain ∈ role.domains, domain ∈ actorDomains claims))

instance (role : RoleDO) : Decidable (OwnPermissions claims role) :=
  inferInstanceAs
    (Decidable (∀ permission ∈ role.permissions, permission ∈ currentPermissions claims))

def Managed (role : RoleDO) : Prop :=
  namesIn (listStaffRole role).domains ≠ [] ∧
    ∀ domain ∈ namesIn (listStaffRole role).domains, domain ∈ actorDomains claims

instance (role : RoleDO) : Decidable (Managed claims role) :=
  inferInstanceAs (Decidable (_ ∧ _))

/-- A catalog as the user service keeps it, one role for a name and the built-in
roles listed with the domains of their definitions, in which no role of the
actor's domains holds a permission that the actor does not have. -/
structure Entrusted (roles : List RoleDO) : Prop where
  ids : (roles.map (·.id)).Nodup
  unique : (roles.map (·.name)).Nodup
  names : ∀ role ∈ roles, lowerTrim role.name = role.name
  builtin : ∀ role ∈ roles, ∀ definition ∈ builtinRoleDefinition role.name,
    ∀ domain ∈ domainsFromDefinition definition, domain ∈ namesIn (listStaffRole role).domains
  permissions : ∀ role ∈ roles, Managed claims role → OwnPermissions claims role

/-- The check of `CreateStaffRole` on the requested domains, which `UpdateStaffRole`
does not make. The user service ignores them for a built-in role. -/
def DomainsChecked : Request → Prop
  | .updateRole name request => builtinRoleDefinition (lowerTrim name) = none →
      canManageBusinessDomains (currentRoles claims) request.domains = true
  | _ => True

instance (request : Request) : Decidable (DomainsChecked claims request) :=
  match request with
  | .createRole _ | .replaceRoles _ _ => inferInstanceAs (Decidable True)
  | .updateRole name request => inferInstanceAs (Decidable
      (builtinRoleDefinition (lowerTrim name) = none →
        canManageBusinessDomains (currentRoles claims) request.domains = true))

/-- The roles of the written names are within the actor's bounds, those of the
assigned names within the actor's permissions. -/
structure Bounded (written assigned : List String) (world : World) : Prop where
  entrusted : Entrusted claims world.accounts.roles
  domains : ∀ role ∈ world.accounts.roles, role.name ∈ written → OwnDomains claims role
  permissions : ∀ role ∈ world.accounts.roles, role.name ∈ written ++ assigned →
    OwnPermissions claims role

end Bounds

section Handlers

variable {claims : Claims} {choices : List Choice} {world world' : World}

theorem onAccounts_ok {α : Type} {body : UserTxn α} {value : α}
    (h : onAccounts body world = (.ok value, world')) :
    body world.accounts = .ok (value, world'.accounts) := by
  rcases Transaction.Txn.commit_cases body world.accounts with
    ⟨result, db', hrun, hcommit⟩ | ⟨err, -, hcommit⟩
  · simp only [onAccounts, hcommit] at h
    cases h
    exact hrun
  · simp only [onAccounts, hcommit] at h
    cases h

theorem createStaffRoleHandler_ok {request : StaffRoleRequest} {role : StaffRoleDTO}
    (h : runAlone exec (createStaffRoleHandler claims request) choices world =
      (some (.ok role), world')) :
    canManageBusinessDomains (currentRoles claims) request.domains = true ∧
      canGrantPermissions (currentPermissions claims) request.permissions = true ∧
      createStaffRole (request.role request.name) world.accounts = .ok (role, world'.accounts) := by
  obtain ⟨_, hdomains, h⟩ := runAlone_attempt_ok h
  obtain ⟨_, hgrant, h⟩ := runAlone_attempt_ok h
  obtain ⟨_, -, h⟩ := runAlone_attempt_ok h
  obtain ⟨choice, rest, answer, mid, hserve, h⟩ := runAlone_orFail h
  rw [runAlone_ret] at h
  cases h
  exact ⟨check_ok hdomains, check_ok hgrant, onAccounts_ok hserve⟩

theorem updateStaffRoleHandler_ok {name : String} {request : StaffRoleRequest}
    {role : StaffRoleDTO}
    (h : runAlone exec (updateStaffRoleHandler claims name request) choices world =
      (some (.ok role), world')) :
    canManageRoleNamesWithCatalog (currentRoles claims) [lowerTrim name]
        (listStaffRoleCatalog world.accounts) = true ∧
      canGrantPermissions (currentPermissions claims) request.permissions = true ∧
      updateStaffRole (request.role (lowerTrim name)) world.accounts =
        .ok (role, world'.accounts) := by
  simp only [updateStaffRoleHandler] at h
  obtain ⟨_, -, h⟩ := runAlone_attempt_ok h
  obtain ⟨_, _, catalog, mid, hlist, h⟩ := runAlone_orFail h
  cases hlist
  obtain ⟨_, hmanage, h⟩ := runAlone_attempt_ok h
  obtain ⟨_, hgrant, h⟩ := runAlone_attempt_ok h
  obtain ⟨_, -, h⟩ := runAlone_attempt_ok h
  obtain ⟨_, _, answer, mid, hserve, h⟩ := runAlone_orFail h
  rw [runAlone_ret] at h
  cases h
  exact ⟨check_ok hmanage, check_ok hgrant, onAccounts_ok hserve⟩

theorem checkSuperAdmin_world {userID : Int} {roles : List String} :
    (runAlone exec (checkSuperAdmin claims userID roles) choices world).2 = world := by
  have hissues : (checkSuperAdmin claims userID roles).Issues
      fun request => request = .getUserStaffRoles userID := by
    unfold checkSuperAdmin
    split
    · exact .ret _
    · exact .call rfl fun _ => .attempt fun _ _ => .attempt fun _ _ => .ret _
  have hkeeps : ∀ request choice state, request = Call.getUserStaffRoles userID → state = world →
      (exec request choice state).2 = world := by
    rintro _ choice state rfl rfl
    exact Transaction.call_reads rfl
  exact Proc.Issues.runAlone hkeeps hissues rfl

theorem replaceUserStaffRoles_ok {userID : Nat} {roles : List String}
    {binding : UserRoleBindingDTO}
    (h : runAlone exec (replaceUserStaffRoles claims userID roles) choices world =
      (some (.ok binding), world')) :
    canManageRoleNamesWithCatalog (currentRoles claims) roles
        (listStaffRoleCatalog world.accounts) = true ∧
      world'.accounts.roles = world.accounts.roles := by
  obtain ⟨_, -, h⟩ := runAlone_attempt_ok h
  obtain ⟨actor, -, h⟩ := runAlone_attempt_ok h
  obtain ⟨_, _, catalog, mid, hlist, h⟩ := runAlone_orFail h
  cases hlist
  obtain ⟨_, hmanage, h⟩ := runAlone_attempt_ok h
  obtain ⟨allowed, mid, rest, hcheck, h⟩ := runAlone_bind_some h
  have hmid : mid = world := (congrArg Prod.snd hcheck).symm.trans checkSuperAdmin_world
  obtain ⟨_, -, h⟩ := runAlone_attempt_ok h
  obtain ⟨_, _, answer, mid, hserve, h⟩ := runAlone_orFail h
  obtain ⟨_, _, version, mid', hbump, h⟩ := runAlone_orFail h
  rw [runAlone_ret] at h
  cases h
  have hroles := replaceUserRoleBinding_ok (onAccounts_ok hserve)
  cases hbump
  rw [← hmid]
  exact ⟨hmid ▸ check_ok hmanage, hroles⟩

end Handlers

section Runs

variable {claims : Claims} {written assigned : List String} {world : World} {step : Step}

theorem listed_of_definition {role : RoleDO} {definition : RoleDefinition}
    (hrole : role.domains = domainsFromDefinition definition) {domain : String}
    (hdomain : domain ∈ domainsFromDefinition definition) :
    domain ∈ namesIn (listStaffRole role).domains := by
  have hlisted : (listStaffRole role).domains = sortedSet role.domains := by
    rw [listStaffRole, if_pos (hrole ▸ List.ne_nil_of_mem hdomain)]
  obtain ⟨known, -, rfl⟩ := List.mem_map.mp (mem_sortedSet.mp hdomain)
  rw [hlisted, hrole]
  refine mem_namesIn.mpr ⟨⟨known.text, mem_sortedSet.mpr hdomain, ?_⟩, ?_⟩
  · cases known <;> decide
  · cases known <;> decide

theorem Bounded.createRole {world' : World} (h : Bounded claims written assigned world)
    {stored : RoleDO} (hname : lowerTrim stored.name = stored.name)
    (hcustom : builtinRoleDefinition stored.name = none)
    (hunused : ∀ other ∈ world.accounts.roles,
      other.id ≠ stored.id ∧ other.name ≠ stored.name)
    (hroles : world'.accounts.roles = world.accounts.roles ++ [stored])
    (hdomains : OwnDomains claims stored) (hpermissions : OwnPermissions claims stored) :
    Bounded claims (stored.name :: written) assigned world' := by
  have hcases : ∀ role ∈ world'.accounts.roles, role = stored ∨
      (role ∈ world.accounts.roles ∧ role.name ≠ stored.name) := by
    intro role hrole
    rw [hroles, List.mem_append, List.mem_singleton] at hrole
    exact hrole.symm.imp_right fun hold => ⟨hold, (hunused role hold).2⟩
  refine ⟨⟨?_, ?_, ?_, ?_, ?_⟩, ?_, ?_⟩
  · rw [hroles]
    exact Table.nodup_snoc h.entrusted.ids fun other hother => (hunused other hother).1
  · rw [hroles]
    exact Table.nodup_snoc h.entrusted.unique fun other hother => (hunused other hother).2
  · intro role hrole
    rcases hcases role hrole with rfl | ⟨hold, -⟩
    · exact hname
    · exact h.entrusted.names role hold
  · intro role hrole definition hdefinition
    rcases hcases role hrole with rfl | ⟨hold, -⟩
    · rw [hcustom] at hdefinition
      cases hdefinition
    · exact h.entrusted.builtin role hold definition hdefinition
  · intro role hrole hmanaged
    rcases hcases role hrole with rfl | ⟨hold, -⟩
    · exact hpermissions
    · exact h.entrusted.permissions role hold hmanaged
  · intro role hrole hwritten
    rcases hcases role hrole with rfl | ⟨hold, hne⟩
    · exact hdomains
    · exact h.domains role hold ((List.mem_cons.mp hwritten).resolve_left hne)
  · intro role hrole hwritten
    rcases hcases role hrole with rfl | ⟨hold, hne⟩
    · exact hpermissions
    · exact h.permissions role hold ((List.mem_cons.mp hwritten).resolve_left hne)

theorem Bounded.updateRole {world' : World} (h : Bounded claims written assigned world)
    {stored : RoleDO} (hstored : stored ∈ world.accounts.roles) {description : String}
    {permissions domains : List String}
    (hroles : world'.accounts.roles = Table.modify (·.id) stored.id
      (rewriteRole description permissions domains) world.accounts.roles)
    (hbuiltin : ∀ definition ∈ builtinRoleDefinition stored.name,
      domains = domainsFromDefinition definition)
    (hdomains : ∀ domain ∈ domains, domain ∈ actorDomains claims)
    (hpermissions : ∀ permission ∈ permissions, permission ∈ currentPermissions claims) :
    Bounded claims (stored.name :: written) assigned world' := by
  have hcases : ∀ role ∈ world'.accounts.roles,
      (role.name = stored.name ∧ role.permissions = permissions ∧ role.domains = domains) ∨
      (role ∈ world.accounts.roles ∧ role.name ≠ stored.name) := by
    intro role hrole
    rw [hroles, Table.modify] at hrole
    obtain ⟨before, hbefore, rfl⟩ := List.mem_map.mp hrole
    by_cases hid : before.id = stored.id
    · obtain rfl := List.inj_on_of_nodup_map h.entrusted.ids hbefore hstored hid
      rw [if_pos rfl]
      exact .inl ⟨rfl, rfl, rfl⟩
    · rw [if_neg hid]
      refine .inr ⟨hbefore, fun hname => hid ?_⟩
      rw [List.inj_on_of_nodup_map h.entrusted.unique hbefore hstored hname]
  have hkeys : ∀ {κ : Type} (key : RoleDO → κ) (_ : ∀ role, key (rewriteRole description permissions
      domains role) = key role), world'.accounts.roles.map key = world.accounts.roles.map key := by
    intro κ key hkey
    rw [hroles, Table.modify, List.map_map]
    apply List.map_congr_left
    intro role _
    by_cases hid : role.id = stored.id <;> simp [hid, hkey]
  refine ⟨⟨?_, ?_, ?_, ?_, ?_⟩, ?_, ?_⟩
  · exact hkeys (·.id) (fun _ => rfl) ▸ h.entrusted.ids
  · exact hkeys (·.name) (fun _ => rfl) ▸ h.entrusted.unique
  · intro role hrole
    rcases hcases role hrole with ⟨hname, -⟩ | ⟨hold, -⟩
    · rw [hname]
      exact h.entrusted.names stored hstored
    · exact h.entrusted.names role hold
  · intro role hrole definition hdefinition domain hdomain
    rcases hcases role hrole with ⟨hname, -, hrewritten⟩ | ⟨hold, -⟩
    · rw [hname] at hdefinition
      exact listed_of_definition (hrewritten.trans (hbuiltin definition hdefinition)) hdomain
    · exact h.entrusted.builtin role hold definition hdefinition domain hdomain
  · intro role hrole hmanaged
    rcases hcases role hrole with ⟨-, hrewritten, -⟩ | ⟨hold, -⟩
    · rw [OwnPermissions, hrewritten]
      exact hpermissions
    · exact h.entrusted.permissions role hold hmanaged
  · intro role hrole hwritten
    rcases hcases role hrole with ⟨-, -, hrewritten⟩ | ⟨hold, hne⟩
    · rw [OwnDomains, hrewritten]
      exact hdomains
    · exact h.domains role hold ((List.mem_cons.mp hwritten).resolve_left hne)
  · intro role hrole hwritten
    rcases hcases role hrole with ⟨-, hrewritten, -⟩ | ⟨hold, hne⟩
    · rw [OwnPermissions, hrewritten]
      exact hpermissions
    · exact h.permissions role hold ((List.mem_cons.mp hwritten).resolve_left hne)

theorem Bounded.replaceRoles {world' : World} {names : List String}
    (h : Bounded claims written assigned world)
    (hroles : world'.accounts.roles = world.accounts.roles)
    (hnames : ∀ role ∈ world.accounts.roles, role.name ∈ names → Managed claims role) :
    Bounded claims written (names ++ assigned) world' := by
  refine ⟨hroles ▸ h.entrusted, hroles ▸ h.domains, ?_⟩
  rw [hroles]
  intro role hrole hname
  simp only [List.mem_append] at hname
  rcases hname with hwritten | hnew | hassigned
  · exact h.permissions role hrole (by simp [hwritten])
  · exact h.entrusted.permissions role hrole (hnames role hrole hnew)
  · exact h.permissions role hrole (by simp [hassigned])

theorem handler_ok {α : Type} {program : Program (Result α)} {choices : List Choice}
    {world' : World}
    (h : runAlone exec (program >>= fun result => .ret (result.map fun _ => ())) choices world =
      (some (.ok ()), world')) :
    ∃ value, runAlone exec program choices world = (some (.ok value), world') := by
  obtain ⟨given, mid, rest, hgiven, hret⟩ := runAlone_bind_some h
  rw [runAlone_ret] at hret
  cases given with
  | ok value =>
    cases hret
    exact ⟨value, hgiven⟩
  | error err => cases hret

theorem Succeeds.run {request : Request} {choices : List Choice}
    (h : Succeeds claims world ⟨request, choices⟩) :
    runAlone exec (handler claims request) choices world =
      (some (.ok ()), Escalation.after claims world ⟨request, choices⟩) :=
  Prod.ext h rfl

/-- The domains that an update stores are the actor's: the requested ones if they
have been checked, those of a built-in role because the role is listed with them. -/
theorem updatedDomains_own (hsuper : hasRole (currentRoles claims) .superAdmin = false)
    (hplatform : BusinessDomain.platform ∉ domainsForRoles (currentRoles claims))
    (h : Entrusted claims world.accounts.roles) {name : String} {request : StaffRoleRequest}
    (hchecked : DomainsChecked claims (.updateRole name request))
    (hmanage : canManageRoleNamesWithCatalog (currentRoles claims) [lowerTrim name]
      (listStaffRoleCatalog world.accounts) = true)
    {stored : RoleDO} (hstored : stored ∈ world.accounts.roles)
    (hname : stored.name = lowerTrim name) {domains : List String}
    (hdomains : updatedDomains (lowerTrim name) request.domains = .ok domains) :
    ∀ domain ∈ domains, domain ∈ actorDomains claims := by
  intro domain hdomain
  unfold updatedDomains at hdomains
  cases hdefinition : builtinRoleDefinition (lowerTrim name) with
  | none =>
    rw [hdefinition] at hdomains
    exact canManageBusinessDomains_ok hsuper hplatform (hchecked hdefinition) domain
      (normalizeNames_ok hdomains hdomain)
  | some definition =>
    rw [hdefinition] at hdomains
    cases hdomains
    have htarget : stored.name ∈ namesIn [lowerTrim name] := by
      refine mem_namesIn.mpr ⟨⟨lowerTrim name, by simp, by rw [lowerTrim_lowerTrim, hname]⟩, ?_⟩
      rintro hblank
      rw [← hname, hblank] at hdefinition
      cases hdefinition
    rw [← hname] at hdefinition
    have hlisted := h.builtin stored hstored definition hdefinition domain hdomain
    exact (canManageRoleNamesWithCatalog_ok hsuper hplatform h.unique h.names hmanage hstored
      htarget).2 domain hlisted

/-- The step lemma: a successful request keeps the bounds and takes its own
roles into them. -/
theorem Bounded.after (hsuper : hasRole (currentRoles claims) .superAdmin = false)
    (hplatform : BusinessDomain.platform ∉ domainsForRoles (currentRoles claims))
    (h : Bounded claims written assigned world) (hsucceeds : Succeeds claims world step)
    (hchecked : DomainsChecked claims step.request) :
    Bounded claims (step.request.writes ++ written) (step.request.assigns ++ assigned)
      (after claims world step) := by
  obtain ⟨request, choices⟩ := step
  have hrun := hsucceeds.run
  cases request with
  | createRole request =>
    rw [handler] at hrun
    obtain ⟨role, hrun⟩ := handler_ok hrun
    obtain ⟨hmanage, hgrant, hcreate⟩ := createStaffRoleHandler_ok hrun
    obtain ⟨stored, hname, hcustom, hpermissions, hdomains, hunused, hroles⟩ :=
      createStaffRole_ok hcreate
    have hnormal : lowerTrim stored.name = stored.name := by rw [hname, lowerTrim_lowerTrim]
    have hbounded := h.createRole hnormal hcustom hunused hroles
      (fun domain hdomain => canManageBusinessDomains_ok hsuper hplatform hmanage domain
        (normalizeNames_ok hdomains hdomain))
      (fun permission hpermission => canGrantPermissions_ok hgrant permission
        (normalizeNames_ok hpermissions hpermission))
    rwa [hname] at hbounded
  | updateRole name request =>
    rw [handler] at hrun
    obtain ⟨role, hrun⟩ := handler_ok hrun
    obtain ⟨hmanage, hgrant, hupdate⟩ := updateStaffRoleHandler_ok hrun
    obtain ⟨stored, hstored, hname, description, permissions, domains, hpermissions, hdomains,
      hroles⟩ := updateStaffRole_ok hupdate
    have hname' : stored.name = lowerTrim name := hname.trans (lowerTrim_lowerTrim name)
    have hdomains' : updatedDomains (lowerTrim name) request.domains = .ok domains := by
      rw [← hdomains]
      simp [StaffRoleRequest.role]
    have hbuiltin : ∀ definition ∈ builtinRoleDefinition stored.name,
        domains = domainsFromDefinition definition := by
      intro definition hdefinition
      rw [hname', Option.mem_def] at hdefinition
      simp only [updatedDomains, hdefinition] at hdomains'
      cases hdomains'
      rfl
    have hbounded := h.updateRole hstored hroles hbuiltin
      (updatedDomains_own hsuper hplatform h.entrusted hchecked hmanage hstored hname' hdomains')
      (fun permission hpermission => canGrantPermissions_ok hgrant permission
        (normalizeNames_ok hpermissions hpermission))
    rwa [hname'] at hbounded
  | replaceRoles userID roles =>
    rw [handler] at hrun
    obtain ⟨binding, hrun⟩ := handler_ok hrun
    obtain ⟨hmanage, hroles⟩ := replaceUserStaffRoles_ok hrun
    apply h.replaceRoles hroles
    intro role hrole hname
    rw [Request.assigns, normalizeRoleNames, List.mem_eraseDups] at hname
    exact canManageRoleNamesWithCatalog_ok hsuper hplatform h.entrusted.unique h.entrusted.names
      hmanage hrole hname

theorem Bounded.run (hsuper : hasRole (currentRoles claims) .superAdmin = false)
    (hplatform : BusinessDomain.platform ∉ domainsForRoles (currentRoles claims))
    (steps : List Step) (h : Bounded claims written assigned world)
    (hsteps : Along (Escalation.after claims) (Succeeds claims) world steps)
    (hchecked : ∀ step ∈ steps, DomainsChecked claims step.request) :
    ∃ written' assigned', Bounded claims written' assigned' (run (Escalation.after claims) world
        steps) ∧
      (∀ name ∈ written, name ∈ written') ∧ (∀ name ∈ assigned, name ∈ assigned') ∧
      ∀ step ∈ steps, (∀ name ∈ step.request.writes, name ∈ written') ∧
        ∀ name ∈ step.request.assigns, name ∈ assigned' := by
  induction steps generalizing written assigned world with
  | nil => exact ⟨written, assigned, h, fun _ => id, fun _ => id, by simp⟩
  | cons step rest ih =>
    obtain ⟨hsucceeds, hrest⟩ := hsteps
    obtain ⟨written', assigned', hend, hwritten, hassigned, hnames⟩ :=
      ih (h.after hsuper hplatform hsucceeds (hchecked step List.mem_cons_self)) hrest
        fun other hother => hchecked other (List.mem_cons_of_mem _ hother)
    refine ⟨written', assigned', hend, fun name hname => hwritten name (by simp [hname]),
      fun name hname => hassigned name (by simp [hname]), ?_⟩
    intro other hother
    rcases List.mem_cons.mp hother with rfl | hlater
    · exact ⟨fun name hname => hwritten name (by simp [hname]),
        fun name hname => hassigned name (by simp [hname])⟩
    · exact hnames other hlater

/-- No sequence of successful requests by an actor outside the platform domain
hands out more than the actor has, if the domains of every requested update pass
the check of a creation and no role of the actor's domains holds more than the
actor at the start. -/
theorem no_escalation (claims : Claims) (start : World) (steps : List Step)
    (notSuper : hasRole (currentRoles claims) .superAdmin = false)
    (notPlatform : BusinessDomain.platform ∉ domainsForRoles (currentRoles claims))
    (entrusted : Entrusted claims start.accounts.roles)
    (successful : Along (Escalation.after claims) (Succeeds claims) start steps)
    (checked : ∀ step ∈ steps, DomainsChecked claims step.request) :
    ∀ step ∈ steps, ∀ role ∈ (run (Escalation.after claims) start steps).accounts.roles,
      (role.name ∈ step.request.writes →
        (∀ domain ∈ role.domains, domain ∈ actorDomains claims) ∧
          ∀ permission ∈ role.permissions, permission ∈ currentPermissions claims) ∧
      (role.name ∈ step.request.assigns →
        ∀ permission ∈ role.permissions, permission ∈ currentPermissions claims) := by
  have hstart : Bounded claims [] [] start := ⟨entrusted, by simp, by simp⟩
  obtain ⟨written, assigned, hend, -, -, hnames⟩ :=
    hstart.run notSuper notPlatform steps successful checked
  intro step hstep role hrole
  obtain ⟨hwrites, hassigns⟩ := hnames step hstep
  refine ⟨fun hname => ⟨hend.domains role hrole (hwrites _ hname), ?_⟩, fun hname => ?_⟩
  · exact hend.permissions role hrole (List.mem_append_left _ (hwrites _ hname))
  · exact hend.permissions role hrole (List.mem_append_right _ (hassigns _ hname))

end Runs

section Examples

def supportLead : Claims :=
  { id := 3, roles := ["role_keeper", "support"], principalType := .staff
    accountStatus := "active"
    scope := ["order:read:any", "role:assign:any", "role:write:any"] }

def catalog : World where
  accounts := ⟨[{ id := 9, mobile := "13900000000", password := "hash" }],
    [⟨1, "support", "customer support", ["order:read:any", "user:list:any"], ["support"]⟩,
      ⟨2, "helpers", "support helpers", ["order:read:any"], ["support"]⟩], [], [], []⟩
  sessions := ⟨[], []⟩
  versions _ := 0
  issued := []

def widenHelpers : Step where
  request := .updateRole "helpers"
    ⟨"", "support helpers", ["order:read:any"], ["finance", "platform"]⟩

def assignSupport : Step where
  request := .replaceRoles 9 ["support"]

/-- An update moves a role into the platform domain; an assignment gives away a
permission that the actor does not hold. -/
theorem role_management_escalates :
    hasRole (currentRoles supportLead) .superAdmin = false ∧
    BusinessDomain.platform ∉ domainsForRoles (currentRoles supportLead) ∧
    (Succeeds supportLead catalog widenHelpers ∧
      ∃ role ∈ (after supportLead catalog widenHelpers).accounts.roles,
        role.name ∈ widenHelpers.request.writes ∧ "platform" ∈ role.domains ∧
        "platform" ∉ actorDomains supportLead) ∧
    (Succeeds supportLead catalog assignSupport ∧
      ∃ role ∈ (after supportLead catalog assignSupport).accounts.roles,
        role.name ∈ assignSupport.request.assigns ∧ "user:list:any" ∈ role.permissions ∧
        "user:list:any" ∉ currentPermissions supportLead ∧
        "user:list:any" ∈
          listPermissions (after supportLead catalog assignSupport).accounts 9) := by
  decide +kernel

def ownCatalog : World :=
  { catalog with accounts := { catalog.accounts with
      roles := [⟨1, "support", "customer support", ["order:read:any"], ["support"]⟩,
        ⟨2, "helpers", "support helpers", ["order:read:any"], ["support"]⟩,
        ⟨3, "payers", "finance helpers", ["order:refund:any"], ["finance"]⟩] } }

def createAndAssign : List Step :=
  [{ request := .createRole ⟨"Helpers_2", "more helpers", ["order:read:any"], [" Support "]⟩ },
    { request := .updateRole "helpers" ⟨"", "helpers", ["role:write:any"], ["support"]⟩ },
    { request := .updateRole "support" ⟨"", "support", ["order:read:any"], ["platform"]⟩ },
    { request := .replaceRoles 9 ["helpers", "helpers_2", "support"] }]

theorem no_escalation_create_and_assign :
    Along (after supportLead) (Succeeds supportLead) ownCatalog createAndAssign ∧
      ∀ step ∈ createAndAssign, ∀ role ∈ (run (after supportLead) ownCatalog
        createAndAssign).accounts.roles,
        (role.name ∈ step.request.writes →
          (∀ domain ∈ role.domains, domain ∈ actorDomains supportLead) ∧
            ∀ permission ∈ role.permissions, permission ∈ currentPermissions supportLead) ∧
        (role.name ∈ step.request.assigns →
          ∀ permission ∈ role.permissions, permission ∈ currentPermissions supportLead) := by
  have hentrusted : Entrusted supportLead ownCatalog.accounts.roles :=
    ⟨by decide, by decide +kernel, by decide +kernel, by decide +kernel, by decide +kernel⟩
  have hsuccessful : Along (after supportLead) (Succeeds supportLead) ownCatalog
      createAndAssign := by
    decide +kernel
  exact ⟨hsuccessful, no_escalation supportLead ownCatalog createAndAssign (by decide +kernel)
    (by decide +kernel) hentrusted hsuccessful (by decide +kernel)⟩

end Examples

end Goshop.Admin.Escalation
