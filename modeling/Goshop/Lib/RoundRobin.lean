import Goshop.Lib.Run
import Mathlib.Algebra.Order.BigOperators.Group.Finset
import Mathlib.Algebra.Order.Ring.Int
import Mathlib.Algebra.BigOperators.Group.Finset.Piecewise
import Mathlib.Algebra.BigOperators.Ring.Finset
import Mathlib.Tactic.Linarith
import Mathlib.Tactic.Ring

/-! Smooth weighted round robin. Every round adds to each account its weight, takes
one with the highest balance and charges it for the whole round. Since the balances
add up to zero and none falls to minus the total weight, nobody can be picked more
often than its weight in a round of that many picks, and so everybody is picked
exactly that often. -/
namespace Goshop.Lib.RoundRobin

open Goshop.Lib.Run

variable {ι : Type*} [DecidableEq ι] (s : Finset ι) (weight : ι → ℤ)

def total : ℤ := ∑ i ∈ s, weight i

def advance (balance : ι → ℤ) (pick : ι) (i : ι) : ℤ :=
  balance i + weight i - if i = pick then total s weight else 0

structure Highest (balance : ι → ℤ) (pick : ι) : Prop where
  mem : pick ∈ s
  le : ∀ i ∈ s, balance i + weight i ≤ balance pick + weight pick

/-- The balances add up to zero, and nobody owes a whole round. -/
structure Level (balance : ι → ℤ) : Prop where
  sum : ∑ i ∈ s, balance i = 0
  low : ∀ i ∈ s, -total s weight < balance i

variable {s weight} {balance : ι → ℤ} {pick : ι} {picks : List ι}

omit [DecidableEq ι] in
theorem Highest.congr {balance' : ι → ℤ} (h : Highest s weight balance pick)
    (same : ∀ i ∈ s, balance i = balance' i) : Highest s weight balance' pick := by
  refine ⟨h.mem, fun i hi => ?_⟩
  rw [← same i hi, ← same pick h.mem]
  exact h.le i hi

theorem sum_advance (hpick : pick ∈ s) :
    ∑ i ∈ s, advance s weight balance pick i = ∑ i ∈ s, balance i := by
  unfold advance
  rw [Finset.sum_sub_distrib, Finset.sum_add_distrib, Finset.sum_ite_eq' s pick,
    if_pos hpick, total]
  omega

variable (positive : ∀ i ∈ s, 0 < weight i)
include positive

omit [DecidableEq ι] in
theorem total_pos (hpick : pick ∈ s) : 0 < total s weight :=
  Finset.sum_pos positive ⟨pick, hpick⟩

omit [DecidableEq ι] in
/-- The highest balance of a round is positive, since all of them together are. -/
theorem Level.raised_pos (h : Level s weight balance) (highest : Highest s weight balance pick) :
    0 < balance pick + weight pick := by
  by_contra hnonpos
  have hsum : ∑ i ∈ s, (balance i + weight i) ≤ 0 :=
    Finset.sum_nonpos fun i hi => (highest.le i hi).trans (not_lt.mp hnonpos)
  rw [Finset.sum_add_distrib, h.sum, zero_add] at hsum
  exact absurd (total_pos positive highest.mem) (not_lt.mpr hsum)

theorem Level.advance (h : Level s weight balance) (highest : Highest s weight balance pick) :
    Level s weight (advance s weight balance pick) := by
  refine ⟨(sum_advance highest.mem).trans h.sum, fun i hi => ?_⟩
  have hraised := h.raised_pos positive highest
  have hlow := h.low i hi
  have hweight := positive i hi
  unfold RoundRobin.advance
  split
  · rename_i heq
    subst heq
    omega
  · omega

omit positive in
theorem run_advance (balance : ι → ℤ) (picks : List ι) (i : ι) :
    run (RoundRobin.advance s weight) balance picks i =
      balance i + picks.length * weight i - total s weight * picks.count i := by
  induction picks generalizing balance with
  | nil => simp
  | cons pick rest ih =>
    rw [run_cons, ih, RoundRobin.advance, List.length_cons, List.count_cons]
    by_cases heq : i = pick
    · subst heq
      simp only [if_true, beq_self_eq_true]
      push_cast
      ring
    · have hne : (pick == i) = false := by simpa using Ne.symm heq
      simp only [heq, if_false, hne, Bool.false_eq_true]
      push_cast
      ring

omit positive in
theorem sum_count (h : ∀ pick ∈ picks, pick ∈ s) : ∑ i ∈ s, (picks.count i : ℤ) = picks.length := by
  have hcount : ∑ i ∈ s, picks.count i = picks.length := by
    simpa using Multiset.sum_count_eq_card (s := s) (m := (picks : Multiset ι)) h
  exact_mod_cast hcount

omit positive in
theorem mem_of_along
    (along : Along (RoundRobin.advance s weight) (Highest s weight) balance picks) :
    ∀ pick ∈ picks, pick ∈ s := by
  induction picks generalizing balance with
  | nil => exact List.forall_mem_nil _
  | cons pick rest ih =>
    exact List.forall_mem_cons.mpr ⟨along.1.mem, ih along.2⟩

/-- From balances of zero, as many picks as the total weight are shared out by
weight, and the balances are zero again. -/
theorem round_fair (along : Along (RoundRobin.advance s weight) (Highest s weight) 0 picks)
    (round : (picks.length : ℤ) = total s weight) {i : ι} (hi : i ∈ s) :
    (picks.count i : ℤ) = weight i ∧ run (RoundRobin.advance s weight) 0 picks i = 0 := by
  have htotal := total_pos positive hi
  have hstart : Level s weight 0 := by
    refine ⟨Finset.sum_const_zero, fun j _ => ?_⟩
    simpa using htotal
  have hlevel : Level s weight (run (RoundRobin.advance s weight) 0 picks) :=
    along.invariant (fun _ _ h highest => h.advance positive highest) hstart
  have hle : ∀ j ∈ s, (picks.count j : ℤ) ≤ weight j := by
    intro j hj
    have hlow := hlevel.low j hj
    rw [run_advance, round, Pi.zero_apply] at hlow
    nlinarith
  have hsame : ∀ j ∈ s, (picks.count j : ℤ) = weight j := by
    rw [← Finset.sum_eq_sum_iff_of_le hle, sum_count (mem_of_along along), round]
    rfl
  refine ⟨hsame i hi, ?_⟩
  rw [run_advance, round, hsame i hi, Pi.zero_apply]
  ring

end Goshop.Lib.RoundRobin
