import Goshop.Lib.Table
import Mathlib.Data.List.Nodup
import Mathlib.Logic.Function.Basic

/-! A copy that is kept up to date through a queue. Every change of the source
leaves an entry in the queue; whoever serves an entry writes the present value
into the copy and then marks the entry as done. Entries may be served twice and
in any order. The copy is right wherever nothing is owed, provided that no write
is late: what is written is the value of the source at that moment. -/
namespace Goshop.Lib

variable {κ ν : Type}

structure Entry (κ : Type) where
  id : Int
  key : κ
  done : Bool

structure Mirror (κ ν : Type) where
  source : κ → ν
  copy : κ → ν
  queue : List (Entry κ)

namespace Mirror

def InSync (mirror : Mirror κ ν) (key : κ) : Prop :=
  mirror.copy key = mirror.source key

def OwedAfter (mirror : Mirror κ ν) (id : Int) (key : κ) : Prop :=
  ∃ entry ∈ mirror.queue, entry.key = key ∧ id < entry.id ∧ entry.done = false

def Owed (mirror : Mirror κ ν) (key : κ) : Prop :=
  ∃ id, mirror.OwedAfter id key

/-- The entry has been served: the key is in sync, or a later entry is there to
bring it back. -/
def Settled (mirror : Mirror κ ν) (id : Int) (key : κ) : Prop :=
  mirror.InSync key ∨ mirror.OwedAfter id key

def Queued (mirror : Mirror κ ν) (id : Int) (key : κ) : Prop :=
  ∃ entry ∈ mirror.queue, entry.id = id ∧ entry.key = key

structure Sound (mirror : Mirror κ ν) : Prop where
  unique : (mirror.queue.map (·.id)).Nodup
  owed : ∀ key, mirror.InSync key ∨ mirror.Owed key

theorem Sound.in_sync {mirror : Mirror κ ν} (h : mirror.Sound)
    (hdone : ∀ entry ∈ mirror.queue, entry.done = true) (key : κ) : mirror.InSync key := by
  rcases h.owed key with hsync | ⟨id, entry, hentry, -, -, hopen⟩
  · exact hsync
  · rw [hdone entry hentry] at hopen
    cases hopen

theorem Sound.key_eq {mirror : Mirror κ ν} (h : mirror.Sound) {entry : Entry κ}
    (hentry : entry ∈ mirror.queue) {key : κ} (hqueued : mirror.Queued entry.id key) :
    entry.key = key := by
  obtain ⟨other, hother, hid, rfl⟩ := hqueued
  rw [List.inj_on_of_nodup_map h.unique hother hentry hid]

/-- What every step of the system keeps: the invariant, and what a server of the
queue knows about an entry. -/
structure Step (mirror mirror' : Mirror κ ν) : Prop where
  sound : mirror'.Sound
  queued : ∀ id key, mirror.Queued id key → mirror'.Queued id key
  settled : ∀ id key, mirror.Queued id key → mirror.Settled id key → mirror'.Settled id key

variable {mirror mirror' : Mirror κ ν}

theorem Step.refl (h : mirror.Sound) : Step mirror mirror :=
  ⟨h, fun _ _ => id, fun _ _ _ => id⟩

theorem Step.trans {mirror'' : Mirror κ ν} (h : Step mirror mirror') (h' : Step mirror' mirror'') :
    Step mirror mirror'' where
  sound := h'.sound
  queued id key hqueued := h'.queued id key (h.queued id key hqueued)
  settled id key hqueued hsettled :=
    h'.settled id key (h.queued id key hqueued) (h.settled id key hqueued hsettled)

theorem Step.of_settled (h : mirror.Sound) (hunique : (mirror'.queue.map (·.id)).Nodup)
    (hqueued : ∀ id key, mirror.Queued id key → mirror'.Queued id key)
    (hsettled : ∀ id key, mirror.Settled id key → mirror'.Settled id key) :
    Step mirror mirror' := by
  refine ⟨⟨hunique, ?_⟩, hqueued, fun id key _ => hsettled id key⟩
  intro key
  rcases h.owed key with hsync | ⟨id, howed⟩
  · exact (hsettled 0 key (.inl hsync)).imp_right fun howed => ⟨0, howed⟩
  · exact (hsettled id key (.inr howed)).imp_right fun howed => ⟨id, howed⟩

section Relabel

/-- The queue has the same entries, of which those in `kept` stay open. -/
structure Relabeled (kept : Int → Prop) (mirror mirror' : Mirror κ ν) : Prop where
  source : mirror'.source = mirror.source
  copy : mirror'.copy = mirror.copy
  ids : mirror'.queue.map (·.id) = mirror.queue.map (·.id)
  entries : ∀ entry ∈ mirror.queue, ∃ entry' ∈ mirror'.queue, entry'.id = entry.id ∧
    entry'.key = entry.key ∧ (kept entry.id → entry.done = false → entry'.done = false)

variable {kept : Int → Prop} (h : Relabeled kept mirror mirror')
include h

theorem Relabeled.in_sync {key : κ} (hsync : mirror.InSync key) : mirror'.InSync key := by
  rw [InSync, h.source, h.copy]
  exact hsync

theorem Relabeled.queued {id : Int} {key : κ} (hqueued : mirror.Queued id key) :
    mirror'.Queued id key := by
  obtain ⟨entry, hentry, hid, hkey⟩ := hqueued
  obtain ⟨entry', hentry', hid', hkey', -⟩ := h.entries entry hentry
  exact ⟨entry', hentry', hid'.trans hid, hkey'.trans hkey⟩

theorem Relabeled.owedAfter {bound : Int} {entry : Entry κ} (hentry : entry ∈ mirror.queue)
    (hkept : kept entry.id) (hlater : bound < entry.id) (hopen : entry.done = false) :
    mirror'.OwedAfter bound entry.key := by
  obtain ⟨entry', hentry', hid', hkey', hopen'⟩ := h.entries entry hentry
  exact ⟨entry', hentry', hkey', by omega, hopen' hkept hopen⟩

theorem Step.relabel (hsound : mirror.Sound) (hall : ∀ id, kept id) : Step mirror mirror' := by
  refine .of_settled hsound (h.ids ▸ hsound.unique) (fun _ _ => h.queued) ?_
  rintro id key (hsync | ⟨entry, hentry, rfl, hlater, hopen⟩)
  · exact .inl (h.in_sync hsync)
  · exact .inr (h.owedAfter hentry (hall _) hlater hopen)

theorem Step.finish (hsound : mirror.Sound) {id : Int} {key : κ} (hqueued : mirror.Queued id key)
    (hserved : mirror.Settled id key) (hothers : ∀ other, other ≠ id → kept other) :
    Step mirror mirror' := by
  refine .of_settled hsound (h.ids ▸ hsound.unique) (fun _ _ => h.queued) ?_
  rintro bound wanted (hsync | ⟨entry, hentry, rfl, hlater, hopen⟩)
  · exact .inl (h.in_sync hsync)
  by_cases hentryID : entry.id = id
  · -- The open entry is the one that is now done: what settled it takes its place.
    have hsame : entry.key = key := hsound.key_eq hentry (by rwa [hentryID])
    rcases hserved with hsync | ⟨later, hmem, hkey, hafter, hopen'⟩
    · exact .inl (h.in_sync (hsame ▸ hsync))
    · have howed := h.owedAfter hmem (hothers _ (by omega)) (show bound < later.id by omega) hopen'
      exact .inr (by rwa [hsame, ← hkey])
  · exact .inr (h.owedAfter hentry (hothers _ hentryID) hlater hopen)

end Relabel

theorem Step.change (h : mirror.Sound) {entry : Entry κ} (hopen : entry.done = false)
    (hfresh : ∀ other ∈ mirror.queue, other.id < entry.id)
    (hcopy : mirror'.copy = mirror.copy) (hqueue : mirror'.queue = mirror.queue ++ [entry])
    (hsource : ∀ key, key ≠ entry.key → mirror'.source key = mirror.source key) :
    Step mirror mirror' := by
  have hnew (bound : Int) (hbound : bound < entry.id) : mirror'.OwedAfter bound entry.key :=
    ⟨entry, by simp [hqueue], rfl, hbound, hopen⟩
  have hold (bound : Int) (key : κ) (hkey : key ≠ entry.key) (hsettled : mirror.Settled bound key) :
      mirror'.Settled bound key := by
    rcases hsettled with hsync | ⟨other, hother, hk, hlater, ho⟩
    · exact .inl (by rw [InSync, hcopy, hsource key hkey]; exact hsync)
    · exact .inr ⟨other, by simp [hqueue, hother], hk, hlater, ho⟩
  refine ⟨⟨?_, ?_⟩, ?_, ?_⟩
  · rw [hqueue]
    exact Table.nodup_snoc h.unique fun other hother => (hfresh other hother).ne
  · intro key
    by_cases hkey : key = entry.key
    · exact .inr ⟨entry.id - 1, hkey ▸ hnew _ (by omega)⟩
    · rcases h.owed key with hsync | ⟨id, howed⟩
      · exact (hold 0 key hkey (.inl hsync)).imp_right fun howed => ⟨0, howed⟩
      · exact (hold id key hkey (.inr howed)).imp_right fun howed => ⟨id, howed⟩
  · rintro id key ⟨other, hother, hi, hk⟩
    exact ⟨other, by simp [hqueue, hother], hi, hk⟩
  · rintro id key ⟨known, hknown, hi, -⟩ hsettled
    by_cases hkey : key = entry.key
    · have := hfresh known hknown
      exact .inr (hkey ▸ hnew id (by omega))
    · exact hold id key hkey hsettled

theorem Step.refresh [DecidableEq κ] (h : mirror.Sound) (key : κ) :
    Step mirror
      { mirror with copy := Function.update mirror.copy key (mirror.source key) } := by
  refine .of_settled h h.unique (fun _ _ => id) ?_
  intro id other hsettled
  refine hsettled.imp_left ?_
  intro hsync
  by_cases hother : other = key
  · subst hother
    simp [InSync]
  · simpa [InSync, Function.update_of_ne hother] using hsync

end Mirror

end Goshop.Lib
