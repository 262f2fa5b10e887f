import Mathlib.Data.List.Pairwise
import Mathlib.Data.List.Perm.Basic

/-! Locks that expire. A key is locked at some moment, and whoever finds the lock
older than a timeout may lock the key again. A stake is somebody's right to act on
a key until a certain moment. If every stake ends before the lock under it expires,
then no key has two stakes at a time. -/
namespace Goshop.Lib

variable {κ : Type}

structure Stake (κ : Type) where
  key : κ
  expiry : Int

structure Lease (κ : Type) where
  clock : Int
  lock : κ → Option Int
  stakes : List (Stake κ)

namespace Lease

def Live (lease : Lease κ) (stake : Stake κ) : Prop :=
  lease.clock ≤ stake.expiry

def Free (timeout : Int) (lease : Lease κ) (key : κ) : Prop :=
  ∀ since ∈ lease.lock key, since + timeout < lease.clock

/-- The lock outlasts the stake. -/
def Covered (timeout : Int) (lease : Lease κ) (stake : Stake κ) : Prop :=
  ∃ since ∈ lease.lock stake.key, stake.expiry ≤ since + timeout

structure Sound (timeout : Int) (lease : Lease κ) : Prop where
  covered : ∀ stake ∈ lease.stakes, lease.Live stake → lease.Covered timeout stake
  unique : lease.stakes.Pairwise fun first second =>
    lease.Live first → lease.Live second → first.key ≠ second.key

variable {timeout : Int} {lease : Lease κ}

theorem Sound.not_free (h : lease.Sound timeout) {stake : Stake κ} (hstake : stake ∈ lease.stakes)
    (hlive : lease.Live stake) : ¬lease.Free timeout stake.key := by
  obtain ⟨since, hsince, hcovered⟩ := h.covered stake hstake hlive
  intro hfree
  have := hfree since hsince
  unfold Live at hlive
  omega

private theorem distinct_symm (lease : Lease κ) {first second : Stake κ}
    (h : lease.Live first → lease.Live second → first.key ≠ second.key) :
    lease.Live second → lease.Live first → second.key ≠ first.key :=
  fun hlive hlive' => (h hlive' hlive).symm

theorem Sound.others (h : lease.Sound timeout) {stake : Stake κ} {rest : List (Stake κ)}
    (hperm : lease.stakes.Perm (stake :: rest)) (hlive : lease.Live stake) :
    ∀ other ∈ rest, lease.Live other → other.key ≠ stake.key := by
  have hunique := (hperm.pairwise_iff (distinct_symm lease)).mp h.unique
  intro other hother hlive'
  exact ((List.pairwise_cons.mp hunique).1 other hother hlive hlive').symm

theorem Sound.pass (h : lease.Sound timeout) {now : Int} (hclock : lease.clock ≤ now) :
    Sound timeout { lease with clock := now } where
  covered stake hstake hlive := h.covered stake hstake (Int.le_trans hclock hlive)
  unique := h.unique.imp fun hne hlive hlive' =>
    hne (Int.le_trans hclock hlive) (Int.le_trans hclock hlive')

theorem Sound.drop (h : lease.Sound timeout) {stakes : List (Stake κ)}
    (hsub : stakes.Sublist lease.stakes) : Sound timeout { lease with stakes := stakes } where
  covered stake hstake hlive := h.covered stake (hsub.subset hstake) hlive
  unique := h.unique.sublist hsub

/-- Keys without a live stake are locked anew, or unlocked. -/
theorem Sound.relock (h : lease.Sound timeout) {lock : κ → Option Int}
    (hsame : ∀ stake ∈ lease.stakes, lease.Live stake → lock stake.key = lease.lock stake.key) :
    Sound timeout { lease with lock := lock } where
  covered stake hstake hlive := by
    obtain ⟨since, hsince, hcovered⟩ := h.covered stake hstake hlive
    refine ⟨since, ?_, hcovered⟩
    rw [← hsame stake hstake hlive] at hsince
    exact hsince
  unique := h.unique

theorem Sound.add (h : lease.Sound timeout) {added stakes : List (Stake κ)}
    (hperm : stakes.Perm (added ++ lease.stakes))
    (hcovered : ∀ stake ∈ added, lease.Covered timeout stake)
    (hfresh : ∀ stake ∈ added, ∀ other ∈ lease.stakes, lease.Live other → other.key ≠ stake.key)
    (hdistinct : added.Pairwise fun first second => first.key ≠ second.key) :
    Sound timeout { lease with stakes := stakes } where
  covered stake hstake hlive := by
    rcases List.mem_append.mp (hperm.subset hstake) with hnew | hold
    · exact hcovered stake hnew
    · exact h.covered stake hold hlive
  unique := by
    refine (hperm.pairwise_iff (distinct_symm lease)).mpr ?_
    refine List.pairwise_append.mpr ⟨hdistinct.imp fun hne _ _ => hne, h.unique, ?_⟩
    intro stake hstake other hother _ hlive
    exact (hfresh stake hstake other hother hlive).symm

end Lease

end Goshop.Lib
