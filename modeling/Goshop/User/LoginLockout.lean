import Goshop.Lib.Expiring
import Goshop.Lib.GoText
import Goshop.Lib.Throttle

/-! The lockout of password logins. The failures of an identifier are counted under one
key in Redis, which expires with the window of the first of them; the failure that
reaches the limit sets a second key, the lock, and deletes the count. Times and durations
are in nanoseconds, and an attempt takes no time. -/
namespace Goshop.User.LoginLockout

open Goshop.Lib Goshop.Lib.Expiring
open Goshop.Lib.GoText (CaseTable)

inductive AttemptError
  | emptyIdentifier
deriving DecidableEq, Repr

structure RedisStore where
  maxFailures : Int
  window : Int
  lockTTL : Int
deriving DecidableEq, Repr

def second : Int := 1000000000

def defaultMaxFailures : Int := 5
def defaultWindow : Int := 900 * second
def defaultLockTTL : Int := 900 * second

def newRedisStoreWithOptions (maxFailures window lockTTL : Int) : RedisStore where
  maxFailures := if maxFailures ≤ 0 then defaultMaxFailures else maxFailures
  window := if window ≤ 0 then defaultWindow else window
  lockTTL := if lockTTL ≤ 0 then defaultLockTTL else lockTTL

abbrev Redis := Store String Int

section Store

-- The text of the hash of an identifier.
variable [table : CaseTable] (digest : String → String)

def keyedIdentifier (keyPrefix identifier : String) : Except AttemptError String :=
  let identifier := table.lowerTrim identifier
  if identifier = "" then .error .emptyIdentifier else .ok (keyPrefix ++ digest identifier)

def failKey (identifier : String) : Except AttemptError String :=
  keyedIdentifier digest "login:fail:" identifier

def lockKey (identifier : String) : Except AttemptError String :=
  keyedIdentifier digest "login:lock:" identifier

def isLocked (identifier : String) (now : Int) (redis : Redis) : Except AttemptError Bool := do
  let key ← lockKey digest identifier
  return (find redis key now).isSome

/-- The script of `IncrementWithExpiry`: the first value starts the window, in whole
seconds. -/
def incrementWithExpiry (key : String) (ttl now : Int) (redis : Redis) : Int × Redis :=
  let (value, redis) := incr redis key now
  let seconds := ttl.tdiv second
  (value, if value = 1 ∧ 0 < seconds then expire redis key (now + seconds * second) else redis)

variable (store : RedisStore)

def recordFailure (identifier : String) (now : Int) (redis : Redis) :
    Except AttemptError Bool × Redis :=
  match isLocked digest identifier now redis with
  | .error err => (.error err, redis)
  | .ok true => (.ok true, redis)
  | .ok false =>
    match failKey digest identifier with
    | .error err => (.error err, redis)
    | .ok key =>
      let (failures, redis) := incrementWithExpiry key store.window now redis
      if store.maxFailures ≤ failures then
        match lockKey digest identifier with
        | .error err => (.error err, redis)
        | .ok lock => (.ok true, delete (put redis lock ⟨1, some (now + store.lockTTL)⟩) key)
      else (.ok false, redis)

def attempt (identifier : String) (now : Int) (redis : Redis) : Bool × Redis :=
  match isLocked digest identifier now redis with
  | .ok false => (true, (recordFailure digest store identifier now redis).2)
  | _ => (false, redis)

def passed (identifier : String) (redis : Redis) : List Int → List Int
  | [] => []
  | now :: rest =>
    let result := attempt digest store identifier now redis
    if result.1 then now :: passed identifier result.2 rest else passed identifier result.2 rest

end Store

def throttle (store : RedisStore) : Throttle where
  limit := store.maxFailures.toNat
  window := store.window
  lockTTL := store.lockTTL

/-- The two keys of an identifier hold the state of the counter. -/
structure Represents (fail lock : String) (redis : Redis) (state : Throttle.State) : Prop where
  failures : redis fail = state.failures.map fun counted => ⟨counted.1, some counted.2⟩
  lock : redis lock = state.lock.map fun expiry => ⟨1, some expiry⟩

/-- The duration is positive, and a number of seconds. -/
def WholeSeconds (duration : Int) : Prop :=
  0 < duration ∧ second ∣ duration

instance (duration : Int) : Decidable (WholeSeconds duration) :=
  inferInstanceAs (Decidable (_ ∧ _))

section Simulation

variable [table : CaseTable] {digest : String → String} {store : RedisStore}
  {identifier fail lock : String}
  {redis : Redis} {state : Throttle.State} {now : Int}

theorem keyedIdentifier_ok (digest : String → String) (keyPrefix : String)
    (h : table.lowerTrim identifier ≠ "") :
    keyedIdentifier digest keyPrefix identifier =
      .ok (keyPrefix ++ digest (table.lowerTrim identifier)) := by
  simp only [keyedIdentifier, if_neg h]

theorem keys_ne (hfail : failKey digest identifier = .ok fail)
    (hlock : lockKey digest identifier = .ok lock) : lock ≠ fail := by
  simp only [failKey, lockKey, keyedIdentifier] at hfail hlock
  split at hfail
  · cases hfail
  · rename_i hne
    rw [if_neg hne] at hlock
    cases hfail
    cases hlock
    intro hsame
    have hlists := congrArg String.toList hsame
    simp only [String.toList_append] at hlists
    exact absurd (List.append_cancel_right hlists) (by decide)

theorem isLocked_eq (hlock : lockKey digest identifier = .ok lock)
    (represents : Represents fail lock redis state) :
    isLocked digest identifier now redis = .ok (!Throttle.admits state now) := by
  have hfind : (find redis lock now).isSome = !Throttle.admits state now := by
    have hentry := represents.lock
    cases hstate : state.lock with
    | none =>
      rw [hstate] at hentry
      simp [find, lookup, hentry, hstate, Throttle.admits]
    | some expiry =>
      rw [hstate] at hentry
      by_cases hlive : now < expiry
      · simp [find, lookup, hentry, hstate, Throttle.admits, Entry.live, hlive]
      · simp [find, lookup, hentry, hstate, Throttle.admits, Entry.live, Int.not_lt.mp hlive]
  simp only [isLocked, hlock]
  rw [← hfind]
  rfl

omit table in
theorem wholeSeconds_tdiv {duration : Int} (h : WholeSeconds duration) :
    0 < duration.tdiv second ∧ duration.tdiv second * second = duration := by
  obtain ⟨hpos, hdvd⟩ := h
  obtain ⟨seconds, rfl⟩ := hdvd
  have hsecond : second ≠ 0 := by decide
  rw [Int.mul_tdiv_cancel_left _ hsecond]
  refine ⟨?_, Int.mul_comm _ _⟩
  unfold second at hpos
  omega

omit table in
theorem incrementWithExpiry_eq (represents : Represents fail lock redis state)
    (hne : lock ≠ fail) (hwindow : WholeSeconds store.window)
    (hvalid : (throttle store).Valid state) :
    let counted := (throttle store).current state now
    let result := incrementWithExpiry fail store.window now redis
    result.1 = counted.1 + 1 ∧
      Represents fail lock result.2 ⟨some (counted.1 + 1, counted.2), state.lock⟩ := by
  obtain ⟨hpositive, hseconds⟩ := wholeSeconds_tdiv hwindow
  by_cases hlive : ∃ counted ∈ state.failures, now < counted.2
  · obtain ⟨counted, hcounted, hbefore⟩ := hlive
    have hfailures := represents.failures
    rw [Option.mem_def.mp hcounted] at hfailures
    have hlookup : lookup redis fail now = some ⟨counted.1, some counted.2⟩ :=
      lookup_of_live hfailures (by simp [Entry.live, hbefore])
    have hcount := (hvalid counted hcounted).1
    have hold : ¬((counted.1 : Int) + 1 = 1 ∧ 0 < store.window.tdiv second) := by omega
    rw [Throttle.current_of_live hcounted hbefore]
    simp only [incrementWithExpiry, incr, hlookup, Option.getD_some, if_neg hold]
    refine ⟨trivial, ?_, ?_⟩
    · simp
    · rw [put_other _ hne]
      exact represents.lock
  · have hexpired : ∀ counted ∈ state.failures, counted.2 ≤ now := by simpa using hlive
    have hlookup : lookup redis fail now = none := by
      apply lookup_of_expired
      intro entry hentry
      rw [represents.failures] at hentry
      obtain ⟨counted, hcounted, rfl⟩ := Option.map_eq_some_iff.mp hentry
      simp [Entry.live, hexpired counted hcounted]
    have hnew : (0 : Int) + 1 = 1 ∧ 0 < store.window.tdiv second := ⟨by omega, hpositive⟩
    rw [Throttle.current_of_expired hexpired]
    simp only [incrementWithExpiry, incr, hlookup, Option.getD_none, if_pos hnew, hseconds]
    refine ⟨rfl, ?_, ?_⟩
    · simp [throttle]
    · rw [expire_other _ hne, put_other _ hne]
      exact represents.lock

theorem attempt_eq (hfail : failKey digest identifier = .ok fail)
    (hlock : lockKey digest identifier = .ok lock) (hwindow : WholeSeconds store.window)
    (hvalid : (throttle store).Valid state)
    (represents : Represents fail lock redis state) :
    (attempt digest store identifier now redis).1 = Throttle.admits state now ∧
      Represents fail lock (attempt digest store identifier now redis).2
        ((throttle store).step state now) := by
  have hlocked := @isLocked_eq _ digest identifier fail lock redis state now hlock represents
  have hne := keys_ne hfail hlock
  cases hadmits : Throttle.admits state now with
  | false =>
    simp only [attempt, hlocked, hadmits, Throttle.step, Bool.not_false, Bool.false_eq_true,
      if_false]
    exact ⟨trivial, represents⟩
  | true =>
    have hcounts := @incrementWithExpiry_eq store fail lock redis state now represents hne hwindow
      hvalid
    obtain ⟨hvalue, hcounted⟩ := hcounts
    have hlimit' : store.maxFailures ≤ ((throttle store).current state now).1 + 1 ↔
        (throttle store).limit ≤ ((throttle store).current state now).1 + 1 := by
      simp only [throttle]
      omega
    simp only [attempt, recordFailure, hlocked, hadmits, hfail, hlock, hvalue, Throttle.step,
      Throttle.fail, Bool.not_true, if_true, hlimit', true_and]
    split
    · exact ⟨by simp, (delete_other hne).trans (put_same _)⟩
    · exact hcounted

/-- The attempts that get past the check are those that the counter admits. -/
theorem passed_eq (hfail : failKey digest identifier = .ok fail)
    (hlock : lockKey digest identifier = .ok lock) (hwindow : WholeSeconds store.window)
    (times : List Int)
    (hvalid : (throttle store).Valid state) (represents : Represents fail lock redis state) :
    passed digest store identifier redis times = (throttle store).passes state times := by
  induction times generalizing redis state with
  | nil => rfl
  | cons now rest ih =>
    obtain ⟨hpasses, hnext⟩ := @attempt_eq _ digest store identifier fail lock redis state now hfail
      hlock hwindow hvalid represents
    simp only [passed, Throttle.passes, hpasses, ih (Throttle.valid_step hvalid) hnext]

end Simulation

def NoFailures [CaseTable] (digest : String → String) (identifier : String)
    (redis : Redis) : Prop :=
  ∀ key, failKey digest identifier = .ok key ∨ lockKey digest identifier = .ok key →
    redis key = none

/-- A blank identifier has no keys, and no attempt gets past the check. -/
theorem passed_blank [table : CaseTable] {digest : String → String} {store : RedisStore}
    {identifier : String}
    {redis : Redis} (hblank : table.lowerTrim identifier = "")
    (times : List Int) : passed digest store identifier redis times = [] := by
  induction times with
  | nil => rfl
  | cons now rest ih =>
    have hlocked : isLocked digest identifier now redis = .error .emptyIdentifier := by
      simp only [isLocked, lockKey, keyedIdentifier, if_pos hblank]
      rfl
    simp only [passed, attempt, hlocked, Bool.false_eq_true, if_false, ih]

/-- The rate bound of the lockout: in every half-open interval as long as the window, or
as the lock if that is shorter, at most `max m (2 * m - 2)` attempts get past the check,
where `m` is the limit. -/
theorem lockout_rate_bound [table : CaseTable] (digest : String → String)
    {store : RedisStore}
    (hlimit : 1 ≤ store.maxFailures) (hwindow : WholeSeconds store.window)
    (identifier : String) {redis : Redis} (hnew : NoFailures digest identifier redis)
    {times : List Int} (hsorted : times.Pairwise (· ≤ ·)) (start : Int) :
    (((passed digest store identifier redis times).filter fun now =>
        start ≤ now ∧ now < start + min store.window store.lockTTL).length : Int) ≤
      max store.maxFailures (2 * store.maxFailures - 2) := by
  by_cases hblank : table.lowerTrim identifier = ""
  · rw [passed_blank hblank]
    simp only [List.filter_nil, List.length_nil]
    omega
  · have hfail := keyedIdentifier_ok digest "login:fail:" hblank
    have hlock := keyedIdentifier_ok digest "login:lock:" hblank
    have represents : Represents _ _ redis {} :=
      ⟨hnew _ (.inl hfail), hnew _ (.inr hlock)⟩
    have hvalid : (throttle store).Valid {} := by simp [Throttle.Valid]
    rw [passed_eq hfail hlock hwindow times hvalid represents]
    have hthrottle : 1 ≤ (throttle store).limit := by
      simp only [throttle]
      omega
    have hbound := @Throttle.inside_le (throttle store) {} start hthrottle times hsorted hvalid
      (by simp)
    have hsame : ((throttle store).limit : Int) = store.maxFailures := by
      simp only [throttle]
      omega
    have hinside : (throttle store).inside start ((throttle store).passes {} times) =
        ((throttle store).passes {} times).filter fun now =>
          start ≤ now ∧ now < start + min store.window store.lockTTL := rfl
    rw [← hinside]
    omega

local instance letters : CaseTable := GoText.asciiTable

/-- Two failures end one window and three the next; four of them lie within ten seconds. -/
theorem lockout_rate_bound_two_windows :
    let store := newRedisStoreWithOptions 3 (10 * second) (10 * second)
    let times := [0, 1, 10, 10, 10, 10].map (· * second)
    let attempts := passed id store " Bob" (fun _ => none) times
    attempts = [0, 1, 10, 10, 10].map (· * second) ∧
      ((attempts.filter fun now =>
        second ≤ now ∧ now < second + min store.window store.lockTTL).length : Int) ≤
          max store.maxFailures (2 * store.maxFailures - 2) :=
  ⟨by decide +kernel, lockout_rate_bound id (by decide) (by decide) " Bob" (fun _ _ => rfl)
    (by decide) second⟩

end Goshop.User.LoginLockout
