import Goshop.Authz.Principal
import Goshop.Lib.Run
import Goshop.Lib.Sql
import Goshop.Lib.Table
import Goshop.Lib.Transaction
import Mathlib.Data.List.Nodup

/-! The device sessions of the user service. A session is created once, its
refresh token is rotated on every use, and six statements revoke sessions; none
of them ever brings a session back. Times are those of one clock. -/
namespace Goshop.User.Session

open Goshop.Errors Goshop.Lib Goshop.Lib.Transaction Goshop.Lib.Run Goshop.Authz.Principal

abbrev Digest := Vector UInt8 32

structure UserSessionDO where
  id : String
  userID : Int
  principalType : PrincipalType
  refreshTokenHash : Digest
  deviceID : String
  lastUsedAt : Int
  expiresAt : Int
  revokedAt : Option Int
deriving DecidableEq, Repr

structure DeviceBlacklistDO where
  userID : Int
  deviceID : String
  createdAt : Int
deriving DecidableEq, Repr

structure SessionDB where
  sessions : List UserSessionDO
  deviceBlacklist : List DeviceBlacklistDO
deriving DecidableEq, Repr

abbrev SessionTxn := Txn AppError SessionDB

def databaseError : AppError := wrapDatabase "user database operation"

def sessionNotActive : AppError := newCode .errUserAccountInactive "session is not active"

/-- The columns and the two unique keys of `user_sessions` take the row. -/
def storable (db : SessionDB) (session : UserSessionDO) : Bool :=
  Sql.fitsVarchar 36 session.id && Sql.fitsVarchar 32 session.principalType.text &&
    Sql.fitsVarchar 128 session.deviceID &&
    !db.sessions.any fun row =>
      row.id = session.id ∨ row.refreshTokenHash = session.refreshTokenHash

def createSession (session : UserSessionDO) : SessionTxn Unit := do
  Txn.guard (session.userID ≠ 0 ∧ session.id ≠ "") (newCode .errValidation "invalid session")
  let session :=
    if GoText.trimSpace session.principalType.text = "" then
      { session with principalType := .customer }
    else session
  let db ← Txn.read
  Txn.guard (!db.deviceBlacklist.any fun entry =>
      entry.userID = session.userID ∧ entry.deviceID = session.deviceID)
    (newCode .errUserAccountInactive "device is blocked")
  Txn.guard (storable db session) databaseError
  Txn.write { db with sessions := db.sessions ++ [session] }

def rotateRow (nextHash : Digest) (expiresAt usedAt : Int) (row : UserSessionDO) : UserSessionDO :=
  { row with refreshTokenHash := nextHash, lastUsedAt := usedAt, expiresAt := expiresAt }

def rotateSession (sessionID : String) (currentHash nextHash : Digest) (expiresAt usedAt : Int) :
    SessionTxn UserSessionDO := do
  let db ← Txn.read
  match db.sessions.find? (·.id = sessionID) with
  | none => Txn.fail sessionNotActive
  | some session => do
    Txn.guard (session.revokedAt = none ∧ usedAt < session.expiresAt) sessionNotActive
    Txn.guard (session.refreshTokenHash = currentHash) sessionNotActive
    Txn.guard (!db.sessions.any fun row =>
      row.id ≠ session.id ∧ row.refreshTokenHash = nextHash) databaseError
    let rows := Table.modify (·.id) session.id (rotateRow nextHash expiresAt usedAt) db.sessions
    Txn.write { db with sessions := rows }
    pure (rotateRow nextHash expiresAt usedAt session)

def revokeRows (selected : UserSessionDO → Bool) (now : Int) (rows : List UserSessionDO) :
    List UserSessionDO :=
  rows.map fun row =>
    if selected row && row.revokedAt.isNone then { row with revokedAt := some now } else row

def revokeWhere (selected : UserSessionDO → Bool) (now : Int) : SessionTxn Unit := do
  let db ← Txn.read
  Txn.write { db with sessions := revokeRows selected now db.sessions }

def revokeSession (userID : Int) (sessionID : String) : Int → SessionTxn Unit :=
  revokeWhere fun row => row.id = sessionID ∧ row.userID = userID

def revokeAllSessions (userID : Int) : Int → SessionTxn Unit :=
  revokeWhere fun row => row.userID = userID

def revokeStaffSession (sessionID : String) (now : Int) : SessionTxn Unit := do
  Txn.guard (sessionID ≠ "") (newCode .errValidation "session id is required")
  revokeWhere (fun row => row.id = sessionID ∧ row.principalType = .staff) now

def revokeStaffUserSessions (userID : Int) (now : Int) : SessionTxn Unit := do
  Txn.guard (userID ≠ 0) (newCode .errUserNotFound "user not found")
  revokeWhere (fun row => row.userID = userID ∧ row.principalType = .staff) now

def putEntry (entry : DeviceBlacklistDO) (entries : List DeviceBlacklistDO) :
    List DeviceBlacklistDO :=
  (entries.filter fun other =>
    ¬(other.userID = entry.userID ∧ other.deviceID = entry.deviceID)) ++ [entry]

def addDeviceBlacklist (userID : Int) (deviceID : String) (now : Int) : SessionTxn Unit := do
  let deviceID := GoText.trimSpace deviceID
  Txn.guard (0 < userID ∧ deviceID ≠ "")
    (newCode .errValidation "user id and device id are required")
  let db ← Txn.read
  Txn.guard (Sql.fitsVarchar 128 deviceID) databaseError
  Txn.write { db with deviceBlacklist := putEntry ⟨userID, deviceID, now⟩ db.deviceBlacklist }
  revokeWhere (fun row => row.userID = userID ∧ row.deviceID = deviceID) now

def sessionActive (db : SessionDB) (userID : Int) (sessionID : String) (now : Int) : Bool :=
  (db.sessions.filter fun row => row.id = sessionID ∧ row.userID = userID ∧
    row.revokedAt = none ∧ now < row.expiresAt).length = 1

section Steps

inductive Request where
  | create (session : UserSessionDO)
  | rotate (sessionID : String) (currentHash nextHash : Digest) (expiresAt : Int)
  | revoke (userID : Int) (sessionID : String)
  | revokeAll (userID : Int)
  | revokeStaff (sessionID : String)
  | revokeStaffUser (userID : Int)
  | blacklist (userID : Int) (deviceID : String)
deriving DecidableEq, Repr

structure Step where
  now : Int
  request : Request
deriving DecidableEq, Repr

def serve : Step → SessionTxn Unit
  | ⟨_, .create session⟩ => createSession session
  | ⟨now, .rotate sessionID currentHash nextHash expiresAt⟩ => do
    let _ ← rotateSession sessionID currentHash nextHash expiresAt now
  | ⟨now, .revoke userID sessionID⟩ => revokeSession userID sessionID now
  | ⟨now, .revokeAll userID⟩ => revokeAllSessions userID now
  | ⟨now, .revokeStaff sessionID⟩ => revokeStaffSession sessionID now
  | ⟨now, .revokeStaffUser userID⟩ => revokeStaffUserSessions userID now
  | ⟨now, .blacklist userID deviceID⟩ => addDeviceBlacklist userID deviceID now

def after (db : SessionDB) (step : Step) : SessionDB :=
  (Txn.commit (serve step) db).2

def Step.newHash (step : Step) : Option Digest :=
  match step.request with
  | .create session => some session.refreshTokenHash
  | .rotate _ _ nextHash _ => some nextHash
  | _ => none

def rotated (db : SessionDB) (step : Step) : Option (String × Digest) :=
  match step.request with
  | .rotate sessionID currentHash nextHash expiresAt =>
    match rotateSession sessionID currentHash nextHash expiresAt step.now db with
    | .ok _ => some (sessionID, currentHash)
    | .error _ => none
  | _ => none

def acceptedHashes : SessionDB → List Step → List Digest
  | _, [] => []
  | db, step :: rest => ((rotated db step).map (·.2)).toList ++ acceptedHashes (after db step) rest

inductive Effect (db : SessionDB) (step : Step) : List UserSessionDO → Prop
  | refused (hrotated : rotated db step = none) : Effect db step db.sessions
  | created (session : UserSessionDO) (hid : ∀ row ∈ db.sessions, row.id ≠ session.id)
    (hhash : ∀ row ∈ db.sessions, row.refreshTokenHash ≠ session.refreshTokenHash)
    (hnew : step.newHash = some session.refreshTokenHash) (hrotated : rotated db step = none) :
    Effect db step (db.sessions ++ [session])
  | rotated (session : UserSessionDO) (nextHash : Digest) (expiresAt : Int)
    (hmem : session ∈ db.sessions) (hopen : session.revokedAt = none)
    (hearly : step.now < session.expiresAt) (hnew : step.newHash = some nextHash)
    (hunused : ∀ row ∈ db.sessions, row.id ≠ session.id → row.refreshTokenHash ≠ nextHash)
    (hrotated : rotated db step = some (session.id, session.refreshTokenHash)) :
    Effect db step
      (Table.modify (·.id) session.id (rotateRow nextHash expiresAt step.now) db.sessions)
  | revoked (selected : UserSessionDO → Bool) (hrotated : rotated db step = none) :
    Effect db step (revokeRows selected step.now db.sessions)

theorem createSession_ok {session : UserSessionDO} {db db' : SessionDB}
    (h : createSession session db = .ok ((), db')) :
    ∃ stored : UserSessionDO, stored.refreshTokenHash = session.refreshTokenHash ∧
      (∀ row ∈ db.sessions, row.id ≠ stored.id ∧
        row.refreshTokenHash ≠ stored.refreshTokenHash) ∧
      db'.sessions = db.sessions ++ [stored] := by
  unfold createSession at h
  simp only [Txn.guard_bind_ok, Txn.read_bind, Txn.write_ok] at h
  obtain ⟨-, -, hstorable, hdb⟩ := h
  cases hdb
  refine ⟨_, by split <;> rfl, ?_, rfl⟩
  intro row hrow
  simp only [storable, Bool.and_eq_true, Bool.not_eq_true', List.any_eq_false] at hstorable
  simpa using hstorable.2 row hrow

theorem rotateSession_ok {sessionID : String} {currentHash nextHash : Digest}
    {expiresAt usedAt : Int} {db db' : SessionDB} {answer : UserSessionDO}
    (h : rotateSession sessionID currentHash nextHash expiresAt usedAt db = .ok (answer, db')) :
    ∃ session ∈ db.sessions, session.id = sessionID ∧ session.refreshTokenHash = currentHash ∧
      session.revokedAt = none ∧ usedAt < session.expiresAt ∧
      (∀ row ∈ db.sessions, row.id ≠ session.id → row.refreshTokenHash ≠ nextHash) ∧
      db'.sessions =
        Table.modify (·.id) session.id (rotateRow nextHash expiresAt usedAt) db.sessions := by
  unfold rotateSession at h
  rw [Txn.read_bind] at h
  cases hfind : db.sessions.find? (·.id = sessionID) with
  | none => simp [hfind] at h
  | some session =>
    rw [hfind] at h
    simp only [Txn.guard_bind_ok, Txn.write_bind, Txn.pure_ok, decide_eq_true_eq] at h
    obtain ⟨⟨hopen, hearly⟩, hhash, hunused, hdb⟩ := h
    cases hdb
    refine ⟨session, List.mem_of_find?_eq_some hfind, ?_, hhash, hopen, hearly, ?_, rfl⟩
    · simpa using List.find?_some hfind
    · simpa using hunused

theorem revokeWhere_ok {selected : UserSessionDO → Bool} {now : Int} {db db' : SessionDB}
    (h : revokeWhere selected now db = .ok ((), db')) :
    db'.sessions = revokeRows selected now db.sessions := by
  simp only [revokeWhere, Txn.read_bind, Txn.write_ok] at h
  cases h
  rfl

theorem serve_revokes {step : Step} {db db' : SessionDB} (hnew : step.newHash = none)
    (h : serve step db = .ok ((), db')) :
    ∃ selected, db'.sessions = revokeRows selected step.now db.sessions := by
  obtain ⟨now, request⟩ := step
  cases request with
  | create session => cases hnew
  | rotate sessionID currentHash nextHash expiresAt => cases hnew
  | revoke userID sessionID => exact ⟨_, revokeWhere_ok h⟩
  | revokeAll userID => exact ⟨_, revokeWhere_ok h⟩
  | revokeStaff sessionID =>
    simp only [serve, revokeStaffSession, Txn.guard_bind_ok] at h
    exact ⟨_, revokeWhere_ok h.2⟩
  | revokeStaffUser userID =>
    simp only [serve, revokeStaffUserSessions, Txn.guard_bind_ok] at h
    exact ⟨_, revokeWhere_ok h.2⟩
  | blacklist userID deviceID =>
    simp only [serve, addDeviceBlacklist, Txn.guard_bind_ok, Txn.read_bind, Txn.write_bind] at h
    have hrows := revokeWhere_ok h.2.2
    exact ⟨_, hrows⟩

theorem step_effect (db : SessionDB) (step : Step) :
    Effect db step (after db step).sessions := by
  unfold after
  rcases Txn.commit_cases (serve step) db with ⟨_, db', hrun, hcommit⟩ | ⟨err, hrun, hcommit⟩
  · rw [hcommit]
    obtain ⟨now, request⟩ := step
    cases request with
    | create session =>
      obtain ⟨stored, hhash, hunused, hrows⟩ := createSession_ok hrun
      rw [hrows]
      exact .created stored (fun row hrow => (hunused row hrow).1)
        (fun row hrow => (hunused row hrow).2) (by rw [hhash]; rfl) rfl
    | rotate sessionID currentHash nextHash expiresAt =>
      simp only [serve, Txn.bind_ok, Txn.pure_ok] at hrun
      obtain ⟨answer, mid, hrotate, hmid⟩ := hrun
      cases hmid
      obtain ⟨session, hmem, rfl, rfl, hopen, hearly, hunused, hrows⟩ := rotateSession_ok hrotate
      rw [hrows]
      exact .rotated session nextHash expiresAt hmem hopen hearly rfl hunused
        (by simp only [rotated, hrotate])
    | _ =>
      obtain ⟨selected, hrows⟩ := serve_revokes rfl hrun
      rw [hrows]
      exact .revoked selected rfl
  · rw [hcommit]
    refine .refused ?_
    obtain ⟨now, request⟩ := step
    cases request with
    | rotate sessionID currentHash nextHash expiresAt =>
      simp only [rotated]
      split
      · rename_i result hrotate
        rw [serve, Txn.bind_of_ok hrotate] at hrun
        cases hrun
      · rfl
    | _ => rfl

end Steps

section Keys

variable {db : SessionDB} {step : Step}

/-- The primary key and the unique index of `user_sessions`. -/
structure Keyed (db : SessionDB) : Prop where
  ids : (db.sessions.map (·.id)).Nodup
  hashes : (db.sessions.map (·.refreshTokenHash)).Nodup

instance (db : SessionDB) : Decidable (Keyed db) :=
  decidable_of_iff ((db.sessions.map (·.id)).Nodup ∧ (db.sessions.map (·.refreshTokenHash)).Nodup)
    ⟨fun ⟨ids, hashes⟩ => ⟨ids, hashes⟩, fun ⟨ids, hashes⟩ => ⟨ids, hashes⟩⟩

theorem Keyed.eq_of_id (keyed : Keyed db) {first second : UserSessionDO}
    (hfirst : first ∈ db.sessions) (hsecond : second ∈ db.sessions) (h : first.id = second.id) :
    first = second :=
  List.inj_on_of_nodup_map keyed.ids hfirst hsecond h

theorem Keyed.eq_of_hash (keyed : Keyed db) {first second : UserSessionDO}
    (hfirst : first ∈ db.sessions) (hsecond : second ∈ db.sessions)
    (h : first.refreshTokenHash = second.refreshTokenHash) : first = second :=
  List.inj_on_of_nodup_map keyed.hashes hfirst hsecond h

theorem revokeRows_column {α : Type} {column : UserSessionDO → α}
    (hcolumn : ∀ row revokedAt, column { row with revokedAt := revokedAt } = column row)
    (selected : UserSessionDO → Bool) (now : Int) (rows : List UserSessionDO) :
    (revokeRows selected now rows).map column = rows.map column := by
  unfold revokeRows
  rw [List.map_map]
  apply List.map_congr_left
  intro row _
  rw [Function.comp_apply]
  split
  · exact hcolumn row (some now)
  · rfl

theorem Keyed.after (keyed : Keyed db) (step : Step) : Keyed (after db step) := by
  have heffect := step_effect db step
  generalize hrows : (Session.after db step).sessions = rows at heffect
  suffices (rows.map (·.id)).Nodup ∧ (rows.map (·.refreshTokenHash)).Nodup by
    rw [← hrows] at this
    exact ⟨this.1, this.2⟩
  cases heffect with
  | refused => exact ⟨keyed.ids, keyed.hashes⟩
  | created session hid hhash =>
    exact ⟨Table.nodup_snoc keyed.ids hid, Table.nodup_snoc keyed.hashes hhash⟩
  | rotated session nextHash expiresAt _ _ _ _ hunused =>
    refine ⟨?_, Table.nodup_modify keyed.ids keyed.hashes (fun _ => rfl) hunused⟩
    rw [Table.modify_keys]
    · exact keyed.ids
    · exact fun _ => rfl
  | revoked selected =>
    rw [revokeRows_column fun _ _ => rfl, revokeRows_column fun _ _ => rfl]
    exact ⟨keyed.ids, keyed.hashes⟩

end Keys

section Hashes

def Stored (db : SessionDB) (hash : Digest) : Prop :=
  ∃ row ∈ db.sessions, row.refreshTokenHash = hash

def newHashes (steps : List Step) : List Digest :=
  steps.filterMap Step.newHash

/-- The hashes that a run brings in are all different, and new to the table. -/
structure Fresh (db : SessionDB) (steps : List Step) : Prop where
  distinct : (newHashes steps).Nodup
  unused : ∀ hash ∈ newHashes steps, ¬Stored db hash

/-- A hash that no session has and none will get. -/
def Retired (db : SessionDB) (steps : List Step) (hash : Digest) : Prop :=
  ¬Stored db hash ∧ hash ∉ newHashes steps

variable {db : SessionDB} {step : Step} {rest : List Step}

theorem newHashes_cons (step : Step) (rest : List Step) :
    newHashes (step :: rest) = step.newHash.toList ++ newHashes rest := by
  unfold newHashes
  cases hnew : step.newHash <;> simp [hnew]

theorem stored_after {hash : Digest} (h : Stored (after db step) hash) :
    Stored db hash ∨ step.newHash = some hash := by
  obtain ⟨row, hrow, rfl⟩ := h
  have heffect := step_effect db step
  generalize (after db step).sessions = rows at heffect hrow
  cases heffect with
  | refused => exact .inl ⟨row, hrow, rfl⟩
  | created session _ _ hnew =>
    rcases List.mem_append.mp hrow with hrow | hrow
    · exact .inl ⟨row, hrow, rfl⟩
    · rw [List.mem_singleton.mp hrow]
      exact .inr hnew
  | rotated session nextHash expiresAt _ _ _ hnew =>
    obtain ⟨before, hbefore, rfl⟩ := List.mem_map.mp hrow
    split
    · exact .inr hnew
    · exact .inl ⟨before, hbefore, rfl⟩
  | revoked selected =>
    obtain ⟨before, hbefore, rfl⟩ := List.mem_map.mp hrow
    refine .inl ⟨before, hbefore, ?_⟩
    split <;> rfl

theorem Retired.after {hash : Digest} (h : Retired db (step :: rest) hash) :
    Retired (after db step) rest hash := by
  obtain ⟨hstored, hnew⟩ := h
  rw [newHashes_cons, List.mem_append, not_or] at hnew
  refine ⟨fun hafter => ?_, hnew.2⟩
  rcases stored_after hafter with hbefore | hbrought
  · exact hstored hbefore
  · exact hnew.1 (by simp [hbrought])

theorem Fresh.after (fresh : Fresh db (step :: rest)) : Fresh (after db step) rest := by
  have hdistinct := fresh.distinct
  rw [newHashes_cons, List.nodup_append] at hdistinct
  refine ⟨hdistinct.2.1, fun hash hhash hafter => ?_⟩
  rcases stored_after hafter with hbefore | hbrought
  · refine fresh.unused hash ?_ hbefore
    rw [newHashes_cons]
    exact List.mem_append_right _ hhash
  · exact hdistinct.2.2 hash (by simp [hbrought]) hash hhash rfl

theorem rotated_stored {sessionID : String} {hash : Digest}
    (h : rotated db step = some (sessionID, hash)) : Stored db hash := by
  have heffect := step_effect db step
  generalize (after db step).sessions = rows at heffect
  cases heffect with
  | rotated session _ _ hmem _ _ _ _ hrotated =>
    rw [hrotated] at h
    cases h
    exact ⟨session, hmem, rfl⟩
  | _ => simp_all

/-- A hash that was accepted is never stored again. -/
theorem Fresh.retired (fresh : Fresh db (step :: rest)) (keyed : Keyed db) {sessionID : String}
    {hash : Digest} (h : rotated db step = some (sessionID, hash)) :
    Retired (Session.after db step) rest hash := by
  have hstored := rotated_stored h
  have hnotnew : hash ∉ newHashes (step :: rest) := fun hnew => fresh.unused hash hnew hstored
  rw [newHashes_cons, List.mem_append, not_or] at hnotnew
  refine ⟨?_, hnotnew.2⟩
  rintro ⟨row, hrow, hhash⟩
  have heffect := step_effect db step
  generalize (Session.after db step).sessions = rows at heffect hrow
  cases heffect with
  | rotated session nextHash _ hmem _ _ hnew _ hrotated =>
    rw [hrotated] at h
    cases h
    obtain ⟨before, hbefore, rfl⟩ := List.mem_map.mp hrow
    split at hhash
    · refine hnotnew.1 ?_
      rw [hnew, ← hhash]
      simp [rotateRow]
    · rename_i hother
      exact hother (congrArg _ (keyed.eq_of_hash hbefore hmem hhash))
  | _ => simp_all

theorem Retired.not_accepted {hash : Digest} {steps : List Step} (h : Retired db steps hash) :
    hash ∉ acceptedHashes db steps := by
  induction steps generalizing db with
  | nil => simp [acceptedHashes]
  | cons step rest ih =>
    rw [acceptedHashes, List.mem_append, not_or]
    refine ⟨fun hmem => ?_, ih h.after⟩
    simp only [Option.mem_toList, Option.map_eq_some_iff, Prod.exists, exists_eq_right] at hmem
    obtain ⟨sessionID, hrotated⟩ := hmem
    exact h.1 (rotated_stored hrotated)

theorem Fresh.accepted_nodup {steps : List Step} (fresh : Fresh db steps) (keyed : Keyed db) :
    (acceptedHashes db steps).Nodup := by
  induction steps generalizing db with
  | nil => simp [acceptedHashes]
  | cons step rest ih =>
    rw [acceptedHashes]
    cases hrotated : rotated db step with
    | none => simpa using ih fresh.after (keyed.after step)
    | some rotation =>
      obtain ⟨sessionID, hash⟩ := rotation
      simp only [Option.map_some, Option.toList_some, List.singleton_append, List.nodup_cons]
      exact ⟨(fresh.retired keyed hrotated).not_accepted, ih fresh.after (keyed.after step)⟩

end Hashes

section Ended

def Over (now : Int) (session : UserSessionDO) : Prop :=
  session.revokedAt ≠ none ∨ session.expiresAt ≤ now

/-- The session was revoked, or its expiry has been reached. -/
def Ended (sessionID : String) (now : Int) (db : SessionDB) : Prop :=
  ∃ session ∈ db.sessions, session.id = sessionID ∧ Over now session

variable {db : SessionDB} {step : Step} {sessionID : String} {now : Int}

theorem Ended.over (h : Ended sessionID now db) (keyed : Keyed db) {row : UserSessionDO}
    (hrow : row ∈ db.sessions) (hid : row.id = sessionID) : Over now row := by
  obtain ⟨session, hsession, hsessionID, hover⟩ := h
  rw [keyed.eq_of_id hrow hsession (hid.trans hsessionID.symm)]
  exact hover

theorem not_over {session : UserSessionDO} {time : Int} (hopen : session.revokedAt = none)
    (hearly : time < session.expiresAt) (hnow : now ≤ time) : ¬Over now session := by
  rintro (hrevoked | hexpired)
  · exact hrevoked hopen
  · omega

theorem Ended.not_rotated (h : Ended sessionID now db) (keyed : Keyed db) (hnow : now ≤ step.now)
    (hash : Digest) : rotated db step ≠ some (sessionID, hash) := by
  intro hrotated
  have heffect := step_effect db step
  generalize (after db step).sessions = rows at heffect
  cases heffect with
  | rotated session _ _ hmem hopen hearly _ _ hrotated' =>
    rw [hrotated'] at hrotated
    cases hrotated
    exact not_over hopen hearly hnow (h.over keyed hmem rfl)
  | _ => simp_all

theorem Ended.after (h : Ended sessionID now db) (keyed : Keyed db) (hnow : now ≤ step.now) :
    Ended sessionID now (after db step) := by
  obtain ⟨session, hsession, hid, hover⟩ := h
  unfold Ended
  have heffect := step_effect db step
  generalize (Session.after db step).sessions = rows at heffect
  cases heffect with
  | refused => exact ⟨session, hsession, hid, hover⟩
  | created => exact ⟨session, List.mem_append_left _ hsession, hid, hover⟩
  | rotated other nextHash expiresAt hmem hopen hearly =>
    have hother : session.id ≠ other.id := by
      intro hsame
      rw [keyed.eq_of_id hsession hmem hsame] at hover
      exact not_over hopen hearly hnow hover
    exact ⟨session, List.mem_map.mpr ⟨session, hsession, if_neg hother⟩, hid, hover⟩
  | revoked selected =>
    refine ⟨_, List.mem_map_of_mem hsession, ?_⟩
    split
    · exact ⟨hid, .inl (by simp)⟩
    · exact ⟨hid, hover⟩

theorem Ended.inactive (h : Ended sessionID now db) (keyed : Keyed db) {time : Int}
    (htime : now ≤ time) (userID : Int) : sessionActive db userID sessionID time = false := by
  have hnone : (db.sessions.filter fun row => row.id = sessionID ∧ row.userID = userID ∧
      row.revokedAt = none ∧ time < row.expiresAt) = [] := by
    rw [List.filter_eq_nil_iff]
    intro row hrow hactive
    simp only [decide_eq_true_eq] at hactive
    obtain ⟨hid, -, hopen, hearly⟩ := hactive
    exact not_over hopen hearly htime (h.over keyed hrow hid)
  rw [sessionActive, hnone]
  rfl

theorem Ended.run {later : List Step} (h : Ended sessionID now db) (keyed : Keyed db)
    (hnow : ∀ step ∈ later, now ≤ step.now) :
    Along Session.after (fun db step => ∀ hash, rotated db step ≠ some (sessionID, hash))
        db later ∧
      Ended sessionID now (run Session.after db later) := by
  induction later generalizing db with
  | nil => exact ⟨trivial, h⟩
  | cons step rest ih =>
    have hstep : now ≤ step.now := hnow step List.mem_cons_self
    have hrest := ih (h.after keyed hstep) (keyed.after step) fun other hother =>
      hnow other (List.mem_cons_of_mem _ hother)
    exact ⟨⟨h.not_rotated keyed hstep, hrest.1⟩, hrest.2⟩

theorem Keyed.run (keyed : Keyed db) (steps : List Step) :
    Keyed (Run.run Session.after db steps) :=
  run_invariant steps (fun _ step hkeyed => hkeyed.after step) keyed

/-- Every history of the sessions. If the new hashes are all different, none is
accepted twice. After a moment `now` at which a session is over it is never
rotated again and no token that carries it is accepted. Of the clock it matters
only that the later steps are not before `now`. -/
theorem session_lifecycle (start : SessionDB) (steps : List Step) (keyed : Keyed start) :
    (Fresh start steps → (acceptedHashes start steps).Nodup) ∧
      ∀ earlier later, steps = earlier ++ later → ∀ sessionID now,
        (∀ step ∈ later, now ≤ step.now) → Ended sessionID now (Run.run after start earlier) →
        Along after (fun db step => ∀ hash, rotated db step ≠ some (sessionID, hash))
            (Run.run after start earlier) later ∧
          ∀ time, now ≤ time →
            (∀ userID, sessionActive (Run.run after start steps) userID sessionID time = false) ∧
            ∀ backend claims, claims.sessionID = sessionID → claims.sessionID ≠ "" →
              backend.validateSession = some (fun userID sessionID =>
                .ok (sessionActive (Run.run after start steps) userID sessionID time)) →
              newJWTAuth backend claims = false := by
  refine ⟨fun fresh => fresh.accepted_nodup keyed, ?_⟩
  rintro earlier later rfl sessionID now hnow hended
  obtain ⟨hnever, hend⟩ := hended.run (keyed.run earlier) hnow
  rw [← run_append] at hend
  refine ⟨hnever, fun time htime => ?_⟩
  have hinactive := hend.inactive (keyed.run (earlier ++ later)) htime
  refine ⟨hinactive, fun backend claims hclaims hsession hvalidate => ?_⟩
  apply newJWTAuth_session hvalidate hsession
  rw [hclaims, hinactive]

end Ended

section Runs

instance (db : SessionDB) (hash : Digest) : Decidable (Stored db hash) :=
  inferInstanceAs (Decidable (∃ row ∈ db.sessions, row.refreshTokenHash = hash))

instance (db : SessionDB) (steps : List Step) : Decidable (Fresh db steps) :=
  decidable_of_iff ((newHashes steps).Nodup ∧ ∀ hash ∈ newHashes steps, ¬Stored db hash)
    ⟨fun ⟨distinct, unused⟩ => ⟨distinct, unused⟩, fun ⟨distinct, unused⟩ => ⟨distinct, unused⟩⟩

def digest (byte : UInt8) : Digest := Vector.replicate 32 byte

def login (sessionID : String) (hash : Digest) : Step :=
  ⟨0, .create ⟨sessionID, 9, .customer, hash, "phone", 0, 100, none⟩⟩

def refresh (sessionID : String) (currentHash nextHash : Digest) : Step :=
  ⟨1, .rotate sessionID currentHash nextHash 200⟩

/-- The unique index forgets a hash once it is rotated away, so a second session
may be created with it. -/
theorem reused_hash_accepted_twice :
    let steps := [login "S1" (digest 1), refresh "S1" (digest 1) (digest 2),
      ⟨1, (login "S2" (digest 1)).request⟩, refresh "S2" (digest 1) (digest 3)]
    (steps.Pairwise fun first second => first.now ≤ second.now) ∧
      [digest 1, digest 2, digest 3].Nodup ∧
      acceptedHashes ⟨[], []⟩ steps = [digest 1, digest 1] := by
  decide +kernel

/-- A session that is used twice, revoked, and tried once more. -/
theorem session_lifecycle_revoked :
    let steps := [login "S1" (digest 1), refresh "S1" (digest 1) (digest 2),
      refresh "S1" (digest 2) (digest 3), ⟨2, .revoke 9 "S1"⟩,
      ⟨3, .rotate "S1" (digest 3) (digest 4) 300⟩]
    acceptedHashes ⟨[], []⟩ steps = [digest 1, digest 2] ∧
      (acceptedHashes ⟨[], []⟩ steps).Nodup :=
  ⟨by decide +kernel, (session_lifecycle ⟨[], []⟩ _ (by decide +kernel)).1 (by decide +kernel)⟩

end Runs

end Goshop.User.Session
