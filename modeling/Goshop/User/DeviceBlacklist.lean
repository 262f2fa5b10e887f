import Goshop.Lib.Process
import Goshop.User.Session

/-! `CreateSession` counts the blacklist entries of its device and inserts the
session in two statements without a transaction; `AddDeviceBlacklist` revokes
the sessions it finds. A session of a blocked device is active exactly when an
insert lands after the device was blocked. -/
namespace Goshop.User.DeviceBlacklist

open Goshop.Errors Goshop.Lib Goshop.Lib.Transaction Goshop.Lib.Process Goshop.Lib.Run
open Goshop.User.Session

def deviceRequired (userID : Int) (deviceID : String) : Except AppError Unit :=
  if 0 < userID ∧ GoText.trimSpace deviceID ≠ "" then .ok ()
  else .error (newCode .errValidation "user id and device id are required")

def deleteDeviceBlacklist (userID : Int) (deviceID : String) : SessionTxn Unit := do
  let db ← Txn.read
  Txn.write { db with
    deviceBlacklist := db.deviceBlacklist.filter fun entry =>
      ¬(entry.userID = userID ∧ entry.deviceID = GoText.trimSpace deviceID) }

def insertSession (session : UserSessionDO) : SessionTxn Unit := do
  let db ← Txn.read
  Txn.guard (storable db session) databaseError
  Txn.write { db with sessions := db.sessions ++ [session] }

def prepareSession (session : UserSessionDO) : Except AppError UserSessionDO :=
  if session.userID ≠ 0 ∧ session.id ≠ "" then
    .ok (if GoText.trimSpace session.principalType.text = "" then
        { session with principalType := .customer }
      else session)
  else .error (newCode .errValidation "invalid session")

inductive Call
  | countBlacklist (userID : Int) (deviceID : String)
  | insertSession (session : UserSessionDO)
  | addDeviceBlacklist (userID : Int) (deviceID : String)
  | deleteDeviceBlacklist (userID : Int) (deviceID : String)
deriving DecidableEq, Repr

abbrev Reply : Call → Type
  | .countBlacklist _ _ => Except AppError Nat
  | .insertSession _ | .addDeviceBlacklist _ _ | .deleteDeviceBlacklist _ _ => Except AppError Unit

structure Choice where
  now : Int := 0
  outcome : Outcome := .ok
deriving DecidableEq, Repr

def blockedCount (db : SessionDB) (userID : Int) (deviceID : String) : Nat :=
  db.deviceBlacklist.countP fun entry => entry.userID = userID ∧ entry.deviceID = deviceID

def exec (request : Call) (choice : Choice) (db : SessionDB) : Reply request × SessionDB :=
  match request with
  | .countBlacklist userID deviceID =>
    call databaseError choice.outcome (fun db => (.ok (blockedCount db userID deviceID), db)) db
  | .insertSession session =>
    call databaseError choice.outcome (Txn.commit (insertSession session)) db
  | .addDeviceBlacklist userID deviceID =>
    call databaseError choice.outcome
      (Txn.commit (addDeviceBlacklist userID deviceID choice.now)) db
  | .deleteDeviceBlacklist userID deviceID =>
    call databaseError choice.outcome (Txn.commit (deleteDeviceBlacklist userID deviceID)) db

abbrev Program := Proc Call Reply (Except AppError Unit)

def createSessionSteps (session : UserSessionDO) : Program :=
  Proc.attempt (prepareSession session) fun session =>
    .call (.countBlacklist session.userID session.deviceID) fun counted =>
      Proc.attempt counted fun blocked =>
        if 0 < blocked then
          .ret (.error (newCode .errUserAccountInactive "device is blocked"))
        else .call (.insertSession session) .ret

inductive Operation
  | createSession (session : UserSessionDO)
  | addDeviceBlacklist (userID : Int) (deviceID : String)
  | deleteDeviceBlacklist (userID : Int) (deviceID : String)
deriving DecidableEq, Repr

def program : Operation → Program
  | .createSession session => createSessionSteps session
  | .addDeviceBlacklist userID deviceID =>
    Proc.attempt (deviceRequired userID deviceID) fun _ =>
      .call (.addDeviceBlacklist userID deviceID) .ret
  | .deleteDeviceBlacklist userID deviceID =>
    Proc.attempt (deviceRequired userID deviceID) fun _ =>
      .call (.deleteDeviceBlacklist userID deviceID) .ret

def OnBlacklist (userID : Int) (deviceID : String) (db : SessionDB) : Prop :=
  ∃ entry ∈ db.deviceBlacklist, entry.userID = userID ∧ entry.deviceID = deviceID

instance (userID : Int) (deviceID : String) (db : SessionDB) :
    Decidable (OnBlacklist userID deviceID db) :=
  inferInstanceAs (Decidable (∃ entry ∈ db.deviceBlacklist, _))

def ActiveOn (userID : Int) (deviceID : String) (session : UserSessionDO) : Prop :=
  session.userID = userID ∧ session.deviceID = deviceID ∧ session.revokedAt = none

instance (userID : Int) (deviceID : String) (session : UserSessionDO) :
    Decidable (ActiveOn userID deviceID session) :=
  inferInstanceAs (Decidable (_ ∧ _))

/-- A device on the blacklist has no session that is not revoked. -/
def Enforced (userID : Int) (deviceID : String) (db : SessionDB) : Prop :=
  OnBlacklist userID deviceID db → ∀ session ∈ db.sessions, ¬ActiveOn userID deviceID session

instance (userID : Int) (deviceID : String) (db : SessionDB) :
    Decidable (Enforced userID deviceID db) :=
  inferInstanceAs (Decidable (_ → _))

/-- An insert that takes effect finds the device off the blacklist. -/
def Unblocked (userID : Int) (deviceID : String) : Call → Choice → SessionDB → Prop
  | .insertSession session, choice, db =>
    choice.outcome ≠ .failBefore → storable db session = true →
      ActiveOn userID deviceID session → ¬OnBlacklist userID deviceID db
  | _, _, _ => True

instance (userID : Int) (deviceID : String) (request : Call) (choice : Choice) (db : SessionDB) :
    Decidable (Unblocked userID deviceID request choice db) :=
  match request with
  | .insertSession session => inferInstanceAs (Decidable (choice.outcome ≠ .failBefore →
      storable db session = true → ActiveOn userID deviceID session →
        ¬OnBlacklist userID deviceID db))
  | .countBlacklist _ _ | .addDeviceBlacklist _ _ | .deleteDeviceBlacklist _ _ =>
    inferInstanceAs (Decidable True)

section Statements

variable {userID : Int} {deviceID : String} {db : SessionDB}

theorem commit_insertSession (session : UserSessionDO) (db : SessionDB) :
    Txn.commit (insertSession session) db =
      if storable db session then (.ok (), { db with sessions := db.sessions ++ [session] })
      else (.error databaseError, db) := by
  cases h : storable db session with
  | true =>
    apply Txn.commit_of_ok
    simp only [insertSession, Txn.read_bind, h, Txn.guard_true_bind]
    rfl
  | false =>
    apply Txn.commit_of_error
    simp only [insertSession, Txn.read_bind, h, Txn.guard_false_bind]

theorem blockedCount_pos (db : SessionDB) (userID : Int) (deviceID : String) :
    0 < blockedCount db userID deviceID ↔ db.deviceBlacklist.any (fun entry =>
      entry.userID = userID ∧ entry.deviceID = deviceID) = true := by
  rw [blockedCount, List.countP_pos_iff, List.any_eq_true]

theorem createSession_eq {session prepared : UserSessionDO}
    (h : prepareSession session = .ok prepared) (db : SessionDB) :
    createSession session db =
      if 0 < blockedCount db prepared.userID prepared.deviceID then
        .error (newCode .errUserAccountInactive "device is blocked")
      else insertSession prepared db := by
  unfold prepareSession at h
  split at h
  · rename_i hvalid
    rw [Except.ok.injEq] at h
    simp only [createSession, decide_eq_true hvalid, Txn.guard_true_bind, Txn.read_bind, h,
      blockedCount_pos]
    split
    · rename_i hany
      simp only [hany, Bool.not_true, Txn.guard_false_bind]
    · rename_i hany
      simp only [Bool.eq_false_iff.mpr hany, Bool.not_false, Txn.guard_true_bind, insertSession,
        Txn.read_bind]
  · cases h

/-- The two statements of `CreateSession` with nothing in between are the one
transaction that the session runs take it for. -/
theorem createSessionSteps_alone (session : UserSessionDO) (db : SessionDB) :
    runAlone exec (createSessionSteps session) [{}, {}] db =
      (some (Txn.commit (createSession session) db).1,
        (Txn.commit (createSession session) db).2) := by
  unfold createSessionSteps
  cases hprepared : prepareSession session with
  | error err =>
    rw [Proc.attempt_error, runAlone_ret, Txn.commit_of_error]
    unfold prepareSession at hprepared
    split at hprepared
    · cases hprepared
    · rename_i hvalid
      cases hprepared
      simp only [createSession, decide_eq_false hvalid, Txn.guard_false_bind]
  | ok prepared =>
    have hrun := createSession_eq hprepared db
    simp only [Proc.attempt_ok, runAlone_call, exec, call_okay]
    split at hrun
    · rename_i hblocked
      rw [if_pos hblocked, runAlone_ret, Txn.commit_of_error hrun]
    · rename_i hblocked
      rw [if_neg hblocked, runAlone_call, runAlone_ret]
      simp only [exec, call_okay, Txn.commit, hrun]

theorem insert_enforced {session : UserSessionDO} (h : Enforced userID deviceID db) :
    Enforced userID deviceID (Txn.commit (insertSession session) db).2 ↔
      (storable db session = true → ActiveOn userID deviceID session →
        ¬OnBlacklist userID deviceID db) := by
  rw [commit_insertSession]
  by_cases hstorable : storable db session = true
  · rw [if_pos hstorable]
    constructor
    · intro hnext _ hactive hlisted
      exact hnext hlisted session (by simp) hactive
    · intro hcondition hlisted other hother hactive
      rcases List.mem_append.mp hother with hother | hother
      · exact h hlisted other hother hactive
      · rw [List.mem_singleton.mp hother] at hactive
        exact hcondition hstorable hactive hlisted
  · rw [if_neg hstorable]
    exact iff_of_true h fun hcontra => absurd hcontra hstorable

theorem onBlacklist_putEntry {entry : DeviceBlacklistDO} {entries : List DeviceBlacklistDO}
    (hother : ¬(entry.userID = userID ∧ entry.deviceID = deviceID)) (sessions : List UserSessionDO)
    (h : OnBlacklist userID deviceID ⟨sessions, putEntry entry entries⟩) :
    ∃ other ∈ entries, other.userID = userID ∧ other.deviceID = deviceID := by
  obtain ⟨other, hmem, hkey⟩ := h
  rcases List.mem_append.mp hmem with hmem | hmem
  · exact ⟨other, (List.mem_filter.mp hmem).1, hkey⟩
  · rw [List.mem_singleton.mp hmem] at hkey
    exact absurd hkey hother

theorem active_of_revokeRows {selected : UserSessionDO → Bool} {now : Int}
    {rows : List UserSessionDO} {session : UserSessionDO}
    (hmem : session ∈ revokeRows selected now rows) (hactive : ActiveOn userID deviceID session) :
    session ∈ rows ∧ selected session = false := by
  obtain ⟨before, hbefore, rfl⟩ := List.mem_map.mp hmem
  split at hactive
  · cases hactive.2.2
  · rename_i hselected
    rw [if_neg hselected]
    refine ⟨hbefore, ?_⟩
    simpa [hactive.2.2] using hselected

theorem add_enforced {other : Int} {device : String} {now : Int}
    (h : Enforced userID deviceID db) :
    Enforced userID deviceID (Txn.commit (addDeviceBlacklist other device now) db).2 := by
  apply Txn.commit_preserves h
  rintro ⟨⟩ db' hrun
  simp only [addDeviceBlacklist, revokeWhere, Txn.guard_bind_ok, Txn.read_bind, Txn.write_bind,
    Txn.write_ok] at hrun
  obtain ⟨-, -, hend⟩ := hrun
  cases hend
  intro hlisted session hsession hactive
  obtain ⟨hold, hselected⟩ := active_of_revokeRows hsession hactive
  by_cases hsame : other = userID ∧ GoText.trimSpace device = deviceID
  · simp [hactive.1, hactive.2.1, hsame.1, hsame.2] at hselected
  · exact h (onBlacklist_putEntry hsame _ hlisted) session hold hactive

theorem delete_enforced {other : Int} {device : String} (h : Enforced userID deviceID db) :
    Enforced userID deviceID (Txn.commit (deleteDeviceBlacklist other device) db).2 := by
  apply Txn.commit_preserves h
  rintro ⟨⟩ db' hrun
  simp only [deleteDeviceBlacklist, Txn.read_bind, Txn.write_ok] at hrun
  cases hrun
  rintro ⟨entry, hentry, hkey⟩
  exact h ⟨entry, (List.mem_filter.mp hentry).1, hkey⟩

/-- The step lemma: of all calls only an insert for a blocked device breaks the
blacklist. -/
theorem exec_enforced (request : Call) (choice : Choice) (h : Enforced userID deviceID db) :
    Enforced userID deviceID (exec request choice db).2 ↔
      Unblocked userID deviceID request choice db := by
  cases request with
  | countBlacklist other device => exact iff_of_true (call_preserves _ _ h h) trivial
  | addDeviceBlacklist other device =>
    exact iff_of_true (call_preserves _ _ h (add_enforced h)) trivial
  | deleteDeviceBlacklist other device =>
    exact iff_of_true (call_preserves _ _ h (delete_enforced h)) trivial
  | insertSession session =>
    obtain ⟨now, outcome⟩ := choice
    cases outcome with
    | failBefore => exact iff_of_true h fun hcontra => absurd rfl hcontra
    | ok => simpa [exec, Unblocked] using insert_enforced h
    | failAfter => simpa [exec, Unblocked] using insert_enforced h

end Statements

/-- Any number of sessions being created and devices being blocked and
unblocked, interleaved in any way: in every state a blocked device has no active
session, if and only if every insert for it finds it off the blacklist. -/
theorem blocked_device_has_no_session {ι : Type} [DecidableEq ι] (operations : ι → Operation)
    (userID : Int) (deviceID : String) {start : SessionDB}
    (enforced : Enforced userID deviceID start) (labels : List (ι × Choice)) :
    (∀ done, done <+: labels → Enforced userID deviceID
        (run (move exec) ⟨start, fun thread => program (operations thread)⟩ done).shared) ↔
      Along (move exec) (Admitted fun _ => Unblocked userID deviceID)
        ⟨start, fun thread => program (operations thread)⟩ labels := by
  apply @along_iff_invariant (Config SessionDB ι Call Reply (Except AppError Unit)) (ι × Choice)
    (move exec) _ _ (fun config => Enforced userID deviceID config.shared) labels enforced
  intro config label h
  cases hnext : config.threads label.1 with
  | ret value =>
    rw [move_finished hnext]
    exact iff_of_true h (by simp [Admitted, hnext])
  | call request next =>
    rw [move_call hnext, Admitted, hnext]
    exact exec_enforced request label.2 h

def noSessions : SessionDB := ⟨[], []⟩

def phoneSession : UserSessionDO where
  id := "s1"
  userID := 5
  principalType := .customer
  refreshTokenHash := Vector.replicate 32 0
  deviceID := "phone"
  lastUsedAt := 0
  expiresAt := 100
  revokedAt := none

/-- The session is counted before the device is blocked and inserted after. Both
operations have ended, and the blocked device has an active session. -/
theorem session_outlives_blacklisting :
    let operations : Bool → Operation := fun blocking =>
      if blocking then .addDeviceBlacklist 5 "phone" else .createSession phoneSession
    let final := run (move exec) ⟨noSessions, fun thread => program (operations thread)⟩
      [(false, {}), (true, { now := 1 }), (false, { now := 2 })]
    (final.threads false).finished = true ∧ (final.threads true).finished = true ∧
      OnBlacklist 5 "phone" final.shared ∧
      ∃ session ∈ final.shared.sessions, ActiveOn 5 "phone" session := by
  decide +kernel

theorem blocked_device_has_no_session_sample :
    let operations : Bool → Operation := fun blocking =>
      if blocking then .addDeviceBlacklist 5 "phone" else .createSession phoneSession
    let labels : List (Bool × Choice) := [(false, {}), (false, {}), (true, { now := 1 })]
    let start : Config SessionDB Bool Call Reply (Except AppError Unit) :=
      ⟨noSessions, fun thread => program (operations thread)⟩
    (run (move exec) start labels).shared.sessions.map (·.revokedAt) = [some 1] ∧
      ∀ done, done <+: labels → Enforced 5 "phone" (run (move exec) start done).shared :=
  ⟨by decide +kernel, (blocked_device_has_no_session _ 5 "phone" (by decide) _).mpr
    (by decide +kernel)⟩

end Goshop.User.DeviceBlacklist
