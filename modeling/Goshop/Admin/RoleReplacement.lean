import Goshop.Admin.Staff

/-! Replacing the roles of a member of staff must end the privileges of the old
roles. The handler replaces the roles and then bumps the token version; a login
reads roles and version at two different moments. A login that reads the old
roles before the replacement and the version after the bump signs a token with
the old permissions and the new version. -/
namespace Goshop.Admin.RoleReplacement

open Goshop.Errors Goshop.Lib Goshop.Lib.GoText Goshop.Lib.Transaction Goshop.Lib.Process
open Goshop.Lib.Run Goshop.Authz.Principal Goshop.User.Accounts Goshop.User.Session
open Goshop.Admin.Access Goshop.Admin.Staff

inductive Response where
  | loggedIn (response : LoginResponse)
  | replaced (binding : UserRoleBindingDTO)
deriving DecidableEq, Repr

/-- One thread replaces the roles, every other one is a login. -/
def programs {ι : Type} [DecidableEq ι] (table : CaseTable) (timeout : Int) (admin : ι)
    (claims : Claims) (userID : Nat) (roles : List String) (logins : ι → LoginRequest)
    (thread : ι) : Program (Result Response) :=
  if thread = admin then
    replaceUserStaffRoles claims userID roles >>= fun result => .ret (result.map .replaced)
  else login table timeout (logins thread) >>= fun result => .ret (result.map .loggedIn)

def hasReplaced : Program (Result Response) → Bool
  | .ret (.ok (.replaced _)) => true
  | _ => false

/-- The stores behind the authorizer in this state; whether the token is on the
revocation list is left open. -/
def staffBackend (isRevoked : Option (Except AppError Bool)) (world : World) (now : Int) :
    AuthBackend where
  isRevoked := isRevoked
  userStatus := some fun id => (getAuthByID world.accounts id).map (·.user.status)
  validateSession := some fun id sessionID => .ok (sessionActive world.sessions id sessionID now)
  currentVersion := some fun id => .ok (world.versions id)

/-- A token for the user is signed with the version from before the bump, or
with permissions that the user holds at that moment. -/
def UpToDate (user before : Int) : Call → Choice → World → Prop
  | .signToken claims, _, world => claims.id = user → claims.tokenVersion = before ∨
      ∀ permission ∈ claims.scope, permission ∈ listPermissions world.accounts user
  | _, _, _ => True

instance (user before : Int) (request : Call) (choice : Choice) (world : World) :
    Decidable (UpToDate user before request choice world) :=
  match request with
  | .signToken claims => inferInstanceAs (Decidable (claims.id = user →
      claims.tokenVersion = before ∨
        ∀ permission ∈ claims.scope, permission ∈ listPermissions world.accounts user))
  | .getUserAuthByMobile _ | .checkPassWord _ _ | .createSession _ _ _ | .currentVersion _
  | .createAdminAuditLog _ _ _ | .listStaffRoles | .getUserStaffRoles _ | .createStaffRole _
  | .updateStaffRole _ | .replaceUserStaffRoles _ _ _ | .bump _ =>
    inferInstanceAs (Decidable True)

def HeldBy (user : Int) (token : Claims) : Prop :=
  token.id = user ∧ 0 < token.id

def Current (user : Int) (world : World) (token : Claims) : Prop :=
  ∀ permission ∈ token.scope, permission ∈ listPermissions world.accounts user

/-- What a step of a login does: it leaves accounts and versions alone, and a
token it signs for the user has a version that was in force. -/
structure LoginStep (user before : Int) (world world' : World) : Prop where
  accounts : world'.accounts = world.accounts
  versions : world'.versions = world.versions
  issued : ∀ token ∈ world'.issued, token ∈ world.issued ∨ (HeldBy user token →
    token.tokenVersion ≤ world.versions user ∧
      (token.tokenVersion = before ∨ Current user world token))

structure ReplaceStep (world world' : World) : Prop where
  issued : world'.issued = world.issued
  versions : ∀ id, world.versions id ≤ world'.versions id

def Grows (world world' : World) : Prop :=
  ∀ id, world.versions id ≤ world'.versions id

section Login

variable {user before : Int}

theorem LoginStep.refl (world : World) : LoginStep user before world world :=
  ⟨rfl, rfl, fun _ htoken => .inl htoken⟩

def Quiet : Call → Prop
  | .getUserAuthByMobile _ | .checkPassWord _ _ | .createSession _ _ _ | .currentVersion _
  | .createAdminAuditLog _ _ _ => True
  | _ => False

theorem exec_quiet {request : Call} (hquiet : Quiet request) (choice : Choice) (world : World) :
    LoginStep user before world (exec request choice world).2 := by
  have hserve : LoginStep user before world (serve request choice world).2 := by
    cases request with
    | createSession => exact ⟨rfl, rfl, fun _ htoken => .inl htoken⟩
    | getUserAuthByMobile | checkPassWord | currentVersion | createAdminAuditLog =>
      exact .refl world
    | _ => exact hquiet.elim
  exact call_preserves _ _ (.refl world) hserve

abbrev LoginSafe {α : Type} (user before : Int) (pre : World → Prop) (program : Program α) : Prop :=
  Safe exec (UpToDate user before) Grows (LoginStep user before) (fun _ _ => True) pre program

theorem always_stable : Stable Grows fun _ : World => True := fun _ _ _ _ => trivial

theorem quiet_call {α : Type} {request : Call} {next : Reply request → Program α}
    (hquiet : Quiet request) (h : ∀ reply, LoginSafe user before (fun _ => True) (next reply)) :
    LoginSafe user before (fun _ => True) (.call request next) :=
  .call (fun _ _ => True) always_stable
    (fun world choice _ _ => ⟨exec_quiet hquiet choice world, trivial⟩) h

theorem attempt_safe {α β : Type} {pre : World → Prop} {result : Result α}
    {next : α → Program (Result β)} (stable : Stable Grows pre)
    (h : ∀ value, result = .ok value → LoginSafe user before pre (next value)) :
    LoginSafe user before pre (Proc.attempt result next) :=
  .attempt stable (fun _ _ _ => trivial) h

theorem ret_safe {α : Type} (value : α) : LoginSafe user before (fun _ => True) (.ret value) :=
  .ret always_stable fun _ _ => trivial

def Read (id version : Int) (world : World) : Prop :=
  0 < id → version ≤ world.versions id

theorem read_stable (id version : Int) : Stable Grows (Read id version) := by
  intro world world' hread hgrows hpos
  have := hread hpos
  have := hgrows id
  omega

theorem sign_safe {table : CaseTable} {auth : UserAuthDO} {version : Int} {sessionID : String}
    {α : Type} {next : Reply (.signToken (staffClaims table auth version sessionID)) → Program α}
    (h : ∀ reply, LoginSafe user before (fun _ => True) (next reply)) :
    LoginSafe user before (Read auth.user.id version)
      (.call (.signToken (staffClaims table auth version sessionID)) next) := by
  refine .call (fun _ _ => True) (read_stable _ _) ?_ h
  intro world choice hread hadmits
  refine ⟨?_, trivial⟩
  apply call_preserves _ _ (LoginStep.refl world)
  refine ⟨rfl, rfl, ?_⟩
  intro token htoken
  rcases List.mem_append.mp htoken with hold | hnew
  · exact .inl hold
  · refine .inr fun ⟨hid, hpos⟩ => ?_
    rw [List.mem_singleton.mp hnew] at hid hpos ⊢
    have hid' : auth.user.id = user := hid
    exact ⟨hid' ▸ hread hpos, hadmits hid⟩

theorem createToken_safe (table : CaseTable) (auth : UserAuthDO) (sessionID : String) :
    LoginSafe user before (fun _ => True) (createToken table auth sessionID) := by
  have hsign : ∀ version, LoginSafe user before (Read auth.user.id version)
      (Proc.send (Call.signToken (staffClaims table auth version sessionID)) >>= fun signed =>
        Proc.attempt signed fun _ => .ret (.ok (staffClaims table auth version sessionID))) :=
    fun version => sign_safe fun _ => attempt_safe always_stable fun _ _ => ret_safe _
  unfold createToken currentTokenVersion
  by_cases hpos : 0 < auth.user.id
  · rw [if_pos hpos]
    refine .call (fun reply world => ∀ version, reply = .ok version →
      Read auth.user.id version world) always_stable ?_ ?_
    · intro world choice _ _
      refine ⟨exec_quiet (show Quiet (.currentVersion auth.user.id) from trivial) choice world, ?_⟩
      intro version hversion _
      obtain ⟨houtcome, hread⟩ := call_value hversion
      cases hread
      rw [exec, houtcome]
      exact le_refl _
    · intro reply
      cases reply with
      | error err =>
        refine .ret (fun _ _ _ _ _ hvalue => ?_) fun _ _ => trivial
        cases hvalue
      | ok version =>
        refine (hsign version).weaken ?_ fun _ hread => hread version rfl
        intro world world' hread hgrows value hvalue
        exact read_stable _ _ world world' (hread value hvalue) hgrows
  · rw [if_neg hpos]
    exact (hsign 0).weaken always_stable fun _ _ h => absurd h hpos

theorem login_safe (table : CaseTable) (timeout : Int) (request : LoginRequest) :
    LoginSafe user before (fun _ => True) (login table timeout request) := by
  refine quiet_call trivial fun found => ?_
  refine attempt_safe always_stable fun auth _ => ?_
  refine attempt_safe always_stable fun _ _ => ?_
  refine quiet_call trivial fun check => ?_
  refine attempt_safe always_stable fun _ _ => ?_
  refine quiet_call trivial fun session => ?_
  refine attempt_safe always_stable fun sessionID _ => ?_
  refine (createToken_safe table auth sessionID).bind fun token => ?_
  refine attempt_safe always_stable fun claims _ => ?_
  refine quiet_call trivial fun logged => ?_
  exact attempt_safe always_stable fun _ _ => ret_safe _

end Login

section Replacement

variable {user before : Int}

def Unbumped (user before : Int) (world : World) : Prop :=
  world.versions user = before ∧
    ∀ token ∈ world.issued, HeldBy user token → token.tokenVersion ≤ before

/-- After the bump: a token of the user with the version in force is current. -/
def Bumped (user before : Int) (world : World) : Prop :=
  world.versions user = before + 1 ∧ ∀ token ∈ world.issued, HeldBy user token →
    token.tokenVersion = before + 1 → Current user world token

theorem unbumped_stable : Stable (LoginStep user before) (Unbumped user before) := by
  rintro world world' ⟨hversion, hissued⟩ hstep
  refine ⟨by rw [hstep.versions, hversion], fun token htoken hheld => ?_⟩
  rcases hstep.issued token htoken with hold | hnew
  · exact hissued token hold hheld
  · exact hversion ▸ (hnew hheld).1

theorem bumped_stable : Stable (LoginStep user before) (Bumped user before) := by
  rintro world world' ⟨hversion, hissued⟩ hstep
  refine ⟨by rw [hstep.versions, hversion], fun token htoken hheld hcurrent => ?_⟩
  unfold Current
  rw [hstep.accounts]
  rcases hstep.issued token htoken with hold | hnew
  · exact hissued token hold hheld hcurrent
  · rcases (hnew hheld).2 with hbefore | hnow
    · omega
    · exact hnow

def Returned {α : Type} (user before : Int) : Result α → World → Prop
  | .ok _, world => Bumped user before world
  | .error _, _ => True

abbrev ReplaceSafe {α : Type} (user before : Int) (pre : World → Prop)
    (program : Program (Result α)) : Prop :=
  Safe exec (UpToDate user before) (LoginStep user before) ReplaceStep (Returned user before) pre
    program

def Steady : Call → Prop
  | .listStaffRoles | .getUserStaffRoles _ | .replaceUserStaffRoles _ _ _ => True
  | _ => False

theorem ReplaceStep.refl (world : World) : ReplaceStep world world :=
  ⟨rfl, fun _ => le_refl _⟩

theorem exec_steady {request : Call} (hsteady : Steady request) (choice : Choice) (world : World) :
    (exec request choice world).2.issued = world.issued ∧
      (exec request choice world).2.versions = world.versions := by
  have hserve : (serve request choice world).2.issued = world.issued ∧
      (serve request choice world).2.versions = world.versions := by
    cases request with
    | listStaffRoles | getUserStaffRoles | replaceUserStaffRoles => exact ⟨rfl, rfl⟩
    | _ => exact hsteady.elim
  rcases call_state lostCall choice.outcome (serve request choice) world with h | h
  · exact ⟨congrArg World.issued h, congrArg World.versions h⟩
  · exact ⟨(congrArg World.issued h).trans hserve.1, (congrArg World.versions h).trans hserve.2⟩

theorem Unbumped.steady {request : Call} {world : World} (h : Unbumped user before world)
    (hsteady : Steady request) (choice : Choice) :
    ReplaceStep world (exec request choice world).2 ∧
      Unbumped user before (exec request choice world).2 := by
  obtain ⟨hissued, hversions⟩ := exec_steady hsteady choice world
  refine ⟨⟨hissued, fun id => by rw [hversions]⟩, ?_⟩
  unfold Unbumped
  rw [hissued, hversions]
  exact h

theorem steady_call {α : Type} {request : Call} {next : Reply request → Program (Result α)}
    (hsteady : Steady request)
    (h : ∀ reply, ReplaceSafe user before (Unbumped user before) (next reply)) :
    ReplaceSafe user before (Unbumped user before) (.call request next) :=
  .call (fun _ => Unbumped user before) unbumped_stable
    (fun _ choice hunbumped _ => hunbumped.steady hsteady choice) h

theorem steady_attempt {α β : Type} {result : Result α} {next : α → Program (Result β)}
    (h : ∀ value, ReplaceSafe user before (Unbumped user before) (next value)) :
    ReplaceSafe user before (Unbumped user before) (Proc.attempt result next) :=
  .attempt unbumped_stable (fun _ _ _ => trivial) fun value _ => h value

theorem exec_bump {choice : Choice} {world : World} (hunbumped : Unbumped user before world) :
    ReplaceStep world (exec (.bump user) choice world).2 ∧
      ∀ version, (exec (.bump user) choice world).1 = .ok version →
        Bumped user before (exec (.bump user) choice world).2 := by
  constructor
  · apply call_preserves _ _ (ReplaceStep.refl world)
    refine ⟨rfl, fun id => ?_⟩
    change world.versions id ≤ Function.update world.versions user (world.versions user + 1) id
    by_cases hid : id = user
    · rw [hid, Function.update_self]
      omega
    · rw [Function.update_of_ne hid]
  · intro version hversion
    obtain ⟨houtcome, -⟩ := call_value hversion
    rw [exec, houtcome]
    refine ⟨?_, fun token htoken hheld hcurrent => ?_⟩
    · change Function.update world.versions user (world.versions user + 1) user = before + 1
      rw [Function.update_self, hunbumped.1]
    · have := hunbumped.2 token htoken hheld
      omega

theorem bump_safe {α : Type} {failure : AppError → AppError} (value : α) :
    ReplaceSafe user before (Unbumped user before)
      (Proc.send (Call.bump user) >>= fun bumped =>
        orFail bumped failure fun _ => .ret (.ok value)) := by
  refine .call (fun reply world => ∀ version, reply = .ok version → Bumped user before world)
    unbumped_stable (fun world choice hunbumped _ => exec_bump hunbumped) ?_
  intro reply
  cases reply with
  | error err => exact .ret (fun _ _ _ _ _ h => nomatch h) fun _ _ => trivial
  | ok version =>
    refine .ret ?_ fun world hbumped => hbumped version rfl
    intro world world' hbumped hstep version hversion
    exact bumped_stable world world' (hbumped version hversion) hstep

theorem checkSuperAdmin_safe (claims : Claims) (userID : Int) (roles : List String) :
    Safe exec (UpToDate user before) (LoginStep user before) ReplaceStep
      (fun _ => Unbumped user before) (Unbumped user before)
      (checkSuperAdmin claims userID roles) := by
  have hissues : (checkSuperAdmin claims userID roles).Issues Steady := by
    unfold checkSuperAdmin
    split
    · exact .ret _
    · refine .call trivial fun binding => ?_
      exact .attempt fun _ _ => .attempt fun _ _ => .ret _
  exact hissues.safe unbumped_stable fun _ choice _ hsteady hunbumped _ =>
    hunbumped.steady hsteady choice

theorem replaceUserStaffRoles_safe (claims : Claims) (userID : Nat) (roles : List String)
    (before : Int) :
    ReplaceSafe userID before (Unbumped userID before)
      (replaceUserStaffRoles claims userID roles) := by
  refine steady_attempt fun _ => steady_attempt fun actor => ?_
  refine steady_call trivial fun listed => steady_attempt fun catalog => steady_attempt fun _ => ?_
  refine (checkSuperAdmin_safe claims _ roles).bind fun allowed => steady_attempt fun _ => ?_
  refine steady_call trivial fun replaced => steady_attempt fun binding => ?_
  exact bump_safe binding

end Replacement

section Main

variable {ι : Type} [DecidableEq ι]

def relies (user before : Int) (admin thread : ι) : World → World → Prop :=
  if thread = admin then LoginStep user before else Grows

def guarantees (user before : Int) (admin thread : ι) : World → World → Prop :=
  if thread = admin then ReplaceStep else LoginStep user before

def ends (user before : Int) (admin thread : ι) : Result Response → World → Prop :=
  if thread = admin then Returned user before else fun _ _ => True

theorem programs_safe (table : CaseTable) (timeout : Int) (admin : ι) (claims : Claims)
    (userID : Nat) (roles : List String) (logins : ι → LoginRequest) {start : World}
    (hissued : ∀ token ∈ start.issued, token.id = userID →
      token.tokenVersion ≤ start.versions userID) :
    EachSafe exec (fun _ => UpToDate userID (start.versions userID))
      (relies userID (start.versions userID) admin)
      (guarantees userID (start.versions userID) admin)
      (ends userID (start.versions userID) admin)
      ⟨start, programs table timeout admin claims userID roles logins⟩ := by
  intro thread
  by_cases hthread : thread = admin
  · refine ⟨Unbumped userID (start.versions userID), ⟨rfl, fun token htoken hheld =>
      hissued token htoken hheld.1⟩, ?_⟩
    simp only [relies, guarantees, ends, programs, if_pos hthread]
    refine (replaceUserStaffRoles_safe claims userID roles _).bind fun result => ?_
    cases result with
    | ok binding => exact .ret bumped_stable fun _ hbumped => hbumped
    | error err => exact .ret (fun _ _ _ _ => trivial) fun _ _ => trivial
  · refine ⟨fun _ => True, trivial, ?_⟩
    simp only [relies, guarantees, ends, programs, if_neg hthread]
    exact (login_safe table timeout (logins thread)).bind fun _ => ret_safe _

theorem guarantees_refl (user before : Int) (admin thread : ι) (world : World) :
    guarantees user before admin thread world world := by
  unfold guarantees
  split
  · exact .refl world
  · exact .refl world

/-- The one replacement relies on the logins only, and a login on growing
versions. -/
theorem guarantees_relies {user before : Int} {admin thread other : ι} {world world' : World}
    (hother : other ≠ thread) (h : guarantees user before admin thread world world') :
    relies user before admin other world world' := by
  unfold guarantees at h
  unfold relies
  by_cases hthread : thread = admin
  · rw [if_pos hthread] at h
    rw [if_neg (hthread ▸ hother)]
    exact h.versions
  · rw [if_neg hthread] at h
    by_cases hadmin : other = admin
    · rw [if_pos hadmin]
      exact h
    · rw [if_neg hadmin]
      intro id
      rw [h.versions]

theorem Returned.of_hasReplaced {user before : Int} {program : Program (Result Response)}
    {world : World} (hreplaced : hasReplaced program = true)
    (h : ∀ value, program = .ret value → Returned user before value world) :
    Bumped user before world := by
  match program with
  | .ret (.ok (.replaced binding)) => exact h _ rfl
  | .ret (.ok (.loggedIn _)) | .ret (.error _) | .call _ _ => cases hreplaced

end Main

section Runs

def supportRole : RoleDO := ⟨1, "support", "customer support", ["order:read:any"], ["support"]⟩

def financeRole : RoleDO := ⟨2, "finance", "refunds", ["order:refund:any"], ["finance"]⟩

def financeToken : Claims :=
  { id := 7, principalType := .staff, accountStatus := "active", scope := ["order:refund:any"]
    tokenVersion := 3 }

def financeClerk : World where
  accounts := ⟨[{ id := 7, mobile := "13800000000", password := "hash" }],
    [supportRole, financeRole], [⟨7, 2⟩], [], []⟩
  sessions := ⟨[], []⟩
  versions _ := 3
  issued := [financeToken]

def superAdmin : Claims :=
  { id := 1, roles := ["super_admin"], principalType := .staff, accountStatus := "active" }

def clerkLogin : LoginRequest := ⟨"13800000000", "secret", ""⟩

abbrev clerkRun (labels : List (Bool × Choice)) : Config World Bool Call Reply (Result Response) :=
  run (move exec) ⟨financeClerk,
    programs asciiTable 3600 true superAdmin 7 ["support"] fun _ => clerkLogin⟩ labels

end Runs

end Goshop.Admin.RoleReplacement
