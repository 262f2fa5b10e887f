import Mathlib.Data.List.Basic
import Mathlib.Order.Lattice

/-! A counter of failures that starts a window with its first failure, and locks when it
reaches its limit. Since a window may begin in the middle of another interval of the same
length, the failures in such an interval can exceed the limit; how far is bounded by what
the state of the counter still allows. -/
namespace Goshop.Lib

structure Throttle where
  limit : Nat
  window : Int
  lockTTL : Int

namespace Throttle

structure State where
  failures : Option (Nat × Int) := none
  lock : Option Int := none
deriving DecidableEq, Repr

def admits (state : State) (now : Int) : Bool :=
  state.lock.all (· ≤ now)

variable (throttle : Throttle)

def current (state : State) (now : Int) : Nat × Int :=
  match state.failures with
  | none => (0, now + throttle.window)
  | some (count, expiry) => if now < expiry then (count, expiry) else (0, now + throttle.window)

def fail (state : State) (now : Int) : State :=
  let counted := throttle.current state now
  if throttle.limit ≤ counted.1 + 1 then ⟨none, some (now + throttle.lockTTL)⟩
  else ⟨some (counted.1 + 1, counted.2), state.lock⟩

def step (state : State) (now : Int) : State :=
  if admits state now then throttle.fail state now else state

def passes (state : State) : List Int → List Int
  | [] => []
  | now :: rest =>
    if admits state now then now :: passes (throttle.step state now) rest
    else passes (throttle.step state now) rest

def Valid (state : State) : Prop :=
  ∀ counted ∈ state.failures, 1 ≤ counted.1 ∧ counted.1 < throttle.limit

def span : Int := min throttle.window throttle.lockTTL

def inside (start : Int) (times : List Int) : List Int :=
  times.filter fun now => start ≤ now ∧ now < start + throttle.span

/-- How many failures a counter admits before the interval is over: the rest of a window
that outlasts it, and otherwise the rest of a window that never reaches its limit and all
of the next one. -/
def spare (start : Int) : Option (Nat × Int) → Nat
  | none => throttle.limit
  | some (count, expiry) =>
    if start + throttle.window ≤ expiry then throttle.limit - count
    else 2 * throttle.limit - 1 - count

/-- Nothing is admitted behind a lock that outlasts the interval. -/
def budget (start : Int) (state : State) : Nat :=
  if state.lock.any (start + throttle.span ≤ ·) then 0 else throttle.spare start state.failures

variable {throttle} {state : State} {start now : Int}

theorem current_of_live {counted : Nat × Int} (h : state.failures = some counted)
    (hlive : now < counted.2) : throttle.current state now = counted := by
  simp [current, h, hlive]

theorem current_of_expired (h : ∀ counted ∈ state.failures, counted.2 ≤ now) :
    throttle.current state now = (0, now + throttle.window) := by
  unfold current
  cases hfailures : state.failures with
  | none => rfl
  | some counted => exact if_neg (Int.not_lt.mpr (h counted hfailures))

theorem valid_fail : throttle.Valid (throttle.fail state now) := by
  simp only [fail]
  split
  · simp [Valid]
  · rename_i hbelow
    simp only [Valid, Option.mem_def, Option.some.injEq, forall_eq']
    omega

theorem valid_step (h : throttle.Valid state) : throttle.Valid (throttle.step state now) := by
  unfold step
  split
  · exact valid_fail
  · exact h

theorem budget_locked (hnow : start ≤ now) :
    throttle.budget start ⟨none, some (now + throttle.lockTTL)⟩ = 0 := by
  have hspan : throttle.span ≤ throttle.lockTTL := min_le_right _ _
  simp only [budget, Option.any_some, decide_eq_true_eq]
  rw [if_pos (by omega)]

theorem budget_le_spare : throttle.budget start state ≤ throttle.spare start state.failures := by
  unfold budget
  split
  · exact Nat.zero_le _
  · exact le_rfl

theorem budget_of_admits (hadmits : admits state now) (hnow : now < start + throttle.span) :
    throttle.budget start state = throttle.spare start state.failures := by
  unfold budget
  rw [if_neg]
  cases hlock : state.lock with
  | none => simp
  | some expiry =>
    simp only [admits, hlock, Option.all_some, decide_eq_true_eq] at hadmits
    simp only [Option.any_some, decide_eq_true_eq]
    omega

theorem spare_opened (hlimit : 1 < throttle.limit) (hnow : start ≤ now) :
    throttle.spare start (some (1, now + throttle.window)) + 1 = throttle.limit := by
  simp only [spare]
  rw [if_pos (by omega)]
  omega

theorem limit_le_spare (hvalid : throttle.Valid state)
    (hold : ∀ counted ∈ state.failures, counted.2 < start + throttle.window) :
    throttle.limit ≤ throttle.spare start state.failures := by
  cases hfailures : state.failures with
  | none => exact le_rfl
  | some counted =>
    have hcount := hvalid counted hfailures
    have hearly := hold counted hfailures
    simp only [spare]
    rw [if_neg (by omega)]
    omega

theorem budget_fail_counted (hstart : start ≤ now) {counted : Nat × Int}
    (hcount : 1 ≤ counted.1 ∧ counted.1 < throttle.limit)
    (hcurrent : throttle.current state now = counted) :
    throttle.budget start (throttle.fail state now) + 1 ≤ throttle.spare start (some counted) := by
  simp only [fail, hcurrent]
  split
  · rw [budget_locked hstart]
    simp only [spare]
    split <;> omega
  · apply (Nat.add_le_add_right budget_le_spare 1).trans
    simp only [spare]
    split <;> omega

theorem budget_fail_opened (hlimit : 1 ≤ throttle.limit) (hstart : start ≤ now)
    (hcurrent : throttle.current state now = (0, now + throttle.window)) :
    throttle.budget start (throttle.fail state now) + 1 ≤ throttle.limit := by
  simp only [fail, hcurrent]
  split
  · rw [budget_locked hstart]
    exact hlimit
  · apply (Nat.add_le_add_right budget_le_spare 1).trans
    exact (spare_opened (by omega) hstart).le

/-- Every failure that is admitted inside the interval is paid from the budget. -/
theorem budget_fail (hlimit : 1 ≤ throttle.limit) (hvalid : throttle.Valid state)
    (hstart : start ≤ now) (hnow : now < start + throttle.span) (hadmits : admits state now) :
    throttle.budget start (throttle.fail state now) + 1 ≤ throttle.budget start state := by
  have hwindow : throttle.span ≤ throttle.window := min_le_left _ _
  rw [budget_of_admits hadmits hnow]
  by_cases hlive : ∃ counted ∈ state.failures, now < counted.2
  · obtain ⟨counted, hcounted, hbefore⟩ := hlive
    have hcurrent := @current_of_live throttle state now counted hcounted hbefore
    rw [Option.mem_def.mp hcounted]
    exact budget_fail_counted hstart (hvalid counted hcounted) hcurrent
  · have hexpired : ∀ counted ∈ state.failures, counted.2 ≤ now := by
      simpa using hlive
    apply (budget_fail_opened hlimit hstart (current_of_expired hexpired)).trans
    apply limit_le_spare hvalid
    intro counted hcounted
    have := hexpired counted hcounted
    omega

theorem passes_subset (state : State) (times : List Int) :
    ∀ now ∈ throttle.passes state times, now ∈ times := by
  induction times generalizing state with
  | nil => simp [passes]
  | cons now rest ih =>
    intro passed hpassed
    simp only [passes] at hpassed
    split at hpassed
    · rcases List.mem_cons.mp hpassed with rfl | hrest
      · exact List.mem_cons_self
      · exact List.mem_cons_of_mem _ (ih _ _ hrest)
    · exact List.mem_cons_of_mem _ (ih _ _ hpassed)

theorem inside_cons (passed : List Int) :
    throttle.inside start (now :: passed) =
      if start ≤ now ∧ now < start + throttle.span then now :: throttle.inside start passed
      else throttle.inside start passed := by
  simp [inside, List.filter_cons]

theorem inside_le_budget (hlimit : 1 ≤ throttle.limit) (times : List Int)
    (hsorted : times.Pairwise (· ≤ ·)) (hstart : ∀ now ∈ times, start ≤ now)
    (hvalid : throttle.Valid state) :
    (throttle.inside start (throttle.passes state times)).length ≤ throttle.budget start state := by
  induction times generalizing state with
  | nil => simp [passes, inside]
  | cons now rest ih =>
    obtain ⟨hnext, hrest⟩ := List.pairwise_cons.mp hsorted
    have hlater := fun later hlater => hstart later (List.mem_cons_of_mem now hlater)
    have hbegun := hstart now List.mem_cons_self
    by_cases hend : now < start + throttle.span
    · by_cases hadmits : admits state now
      · have hpaid := budget_fail hlimit hvalid hbegun hend hadmits
        have hrestPaid := @ih (throttle.fail state now) hrest hlater valid_fail
        simp only [passes, step, hadmits, if_true, inside_cons, hbegun, hend, and_self,
          List.length_cons]
        omega
      · simp only [passes, step, hadmits, Bool.false_eq_true, if_false]
        exact ih hrest hlater hvalid
    · -- The interval is over, and so it is for all later times.
      have hnone : throttle.inside start (throttle.passes state (now :: rest)) = [] := by
        simp only [inside, List.filter_eq_nil_iff, decide_eq_true_eq, not_and, Int.not_lt]
        intro passed hpassed _
        rcases List.mem_cons.mp (passes_subset state _ passed hpassed) with rfl | hmem
        · omega
        · have := hnext passed hmem
          omega
      rw [hnone]
      exact Nat.zero_le _

theorem budget_le (hvalid : throttle.Valid state)
    (hold : ∀ counted ∈ state.failures, counted.2 < start + throttle.window) :
    throttle.budget start state ≤ max throttle.limit (2 * throttle.limit - 2) := by
  apply budget_le_spare.trans
  cases hfailures : state.failures with
  | none => exact le_max_left _ _
  | some counted =>
    have hcount := hvalid counted hfailures
    have hearly := hold counted hfailures
    simp only [spare]
    rw [if_neg (by omega)]
    omega

theorem early_step (hnow : now < start)
    (hold : ∀ counted ∈ state.failures, counted.2 < start + throttle.window) :
    ∀ counted ∈ (throttle.step state now).failures, counted.2 < start + throttle.window := by
  unfold step
  split
  · simp only [fail]
    split
    · simp
    · simp only [Option.mem_def, Option.some.injEq, forall_eq']
      by_cases hlive : ∃ counted ∈ state.failures, now < counted.2
      · obtain ⟨counted, hcounted, hbefore⟩ := hlive
        rw [current_of_live hcounted hbefore]
        exact hold counted hcounted
      · rw [current_of_expired (by simpa using hlive)]
        omega
  · exact hold

/-- The rate bound: in every interval as long as the window, or as the lock if that is
shorter, at most this many failures are admitted. -/
theorem inside_le (hlimit : 1 ≤ throttle.limit) (times : List Int)
    (hsorted : times.Pairwise (· ≤ ·)) (hvalid : throttle.Valid state)
    (hold : ∀ counted ∈ state.failures, counted.2 < start + throttle.window) :
    (throttle.inside start (throttle.passes state times)).length ≤
      max throttle.limit (2 * throttle.limit - 2) := by
  induction times generalizing state with
  | nil => simp [passes, inside]
  | cons now rest ih =>
    obtain ⟨hnext, hrest⟩ := List.pairwise_cons.mp hsorted
    by_cases hbegun : start ≤ now
    · refine (inside_le_budget hlimit _ hsorted ?_ hvalid).trans (budget_le hvalid hold)
      intro later hlater
      rcases List.mem_cons.mp hlater with rfl | hmem
      · exact hbegun
      · exact hbegun.trans (hnext later hmem)
    · have hrestBound := @ih (throttle.step state now) hrest (valid_step hvalid)
        (early_step (by omega) hold)
      simp only [passes]
      split
      · rw [inside_cons, if_neg fun h => hbegun h.1]
        exact hrestBound
      · exact hrestBound

end Throttle

end Goshop.Lib
