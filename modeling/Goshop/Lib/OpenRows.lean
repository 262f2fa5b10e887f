import Mathlib.Data.List.Pairwise
import Mathlib.Data.List.Perm.Basic

/-! A table that several open transactions insert into. What a transaction has
inserted is its own until it commits, but the constraints of the table hold for
the rows of all transactions together: an insert that clashes with a row of an
open transaction waits for it, and fails if it waits too long. -/
namespace Goshop.Lib.OpenRows

structure Rows (ι ρ : Type) where
  stored : List ρ
  pending : List (ι × ρ)
deriving DecidableEq, Repr

namespace Rows

variable {ι ρ : Type}

def empty : Rows ι ρ := ⟨[], []⟩

def all (rows : Rows ι ρ) : List ρ :=
  rows.stored ++ rows.pending.map Prod.snd

def Valid (compatible : ρ → ρ → Prop) (rows : Rows ι ρ) : Prop :=
  rows.all.Pairwise compatible

def insert (compatible : ρ → ρ → Prop) [DecidableRel compatible] (tx : ι) (row : ρ)
    (rows : Rows ι ρ) : Option (Rows ι ρ) :=
  if ∀ other ∈ rows.all, compatible other row then
    some { rows with pending := rows.pending ++ [(tx, row)] }
  else none

section Insert

variable {compatible : ρ → ρ → Prop} [DecidableRel compatible] {tx : ι} {row : ρ}
  {rows rows' : Rows ι ρ}

theorem insert_eq (h : rows.insert compatible tx row = some rows') :
    (∀ other ∈ rows.all, compatible other row) ∧
      rows' = { rows with pending := rows.pending ++ [(tx, row)] } := by
  unfold insert at h
  split at h
  · rename_i hfree
    exact ⟨hfree, (Option.some.inj h).symm⟩
  · cases h

theorem insert_stored (h : rows.insert compatible tx row = some rows') :
    rows'.stored = rows.stored := by
  rw [(insert_eq h).2]

theorem Valid.insert (hvalid : rows.Valid compatible)
    (h : rows.insert compatible tx row = some rows') : rows'.Valid compatible := by
  obtain ⟨hfree, rfl⟩ := insert_eq h
  have hall : ({ rows with pending := rows.pending ++ [(tx, row)] } : Rows ι ρ).all =
      rows.all ++ [row] := by
    simp [all]
  unfold Valid
  rw [hall, List.pairwise_append]
  refine ⟨hvalid, by simp, ?_⟩
  intro other hother new hnew
  rw [List.mem_singleton.mp hnew]
  exact hfree other hother

end Insert

section Stored

variable {compatible : ρ → ρ → Prop} {rows : Rows ι ρ}

theorem Valid.stored_eq [Std.Symm compatible] (h : rows.Valid compatible) {row row' : ρ}
    (hrow : row ∈ rows.stored) (hrow' : row' ∈ rows.stored)
    (hclash : ¬compatible row row') : row = row' := by
  by_contra hne
  exact hclash (h.forall (List.mem_append_left _ hrow) (List.mem_append_left _ hrow') hne)

theorem Valid.stored_filter_length {p : ρ → Bool} (h : rows.Valid compatible)
    (clash : ∀ row row', p row → p row' → ¬compatible row row') :
    (rows.stored.filter p).length ≤ 1 := by
  have hpairwise : (rows.stored.filter p).Pairwise compatible :=
    (h.sublist (List.sublist_append_left _ _)).sublist List.filter_sublist
  have hmem : ∀ row ∈ rows.stored.filter p, p row := fun row hrow => (List.mem_filter.mp hrow).2
  generalize rows.stored.filter p = chosen at hpairwise hmem
  cases chosen with
  | nil => simp
  | cons first rest =>
    cases rest with
    | nil => simp
    | cons second rest =>
      have hcompatible := (List.pairwise_cons.mp hpairwise).1 second (by simp)
      exact absurd hcompatible (clash first second (hmem first (by simp)) (hmem second (by simp)))

end Stored

variable [DecidableEq ι]

def own (tx : ι) (rows : Rows ι ρ) : List ρ :=
  (rows.pending.filter (·.1 = tx)).map Prod.snd

def commit (tx : ι) (rows : Rows ι ρ) : Rows ι ρ :=
  ⟨rows.stored ++ rows.own tx, rows.pending.filter (·.1 ≠ tx)⟩

def rollback (tx : ι) (rows : Rows ι ρ) : Rows ι ρ :=
  ⟨rows.stored, rows.pending.filter (·.1 ≠ tx)⟩

@[simp] theorem commit_stored (tx : ι) (rows : Rows ι ρ) :
    (rows.commit tx).stored = rows.stored ++ rows.own tx := rfl

@[simp] theorem own_commit (tx : ι) (rows : Rows ι ρ) : (rows.commit tx).own tx = [] := by
  simp [own, commit, List.filter_filter]

theorem own_commit_of_ne {tx other : ι} (h : other ≠ tx) (rows : Rows ι ρ) :
    (rows.commit tx).own other = rows.own other := by
  unfold own commit
  rw [List.filter_filter]
  congr 2
  funext entry
  by_cases hentry : entry.1 = other
  · simp [hentry, h]
  · simp [hentry]

theorem own_insert {compatible : ρ → ρ → Prop} [DecidableRel compatible] {tx : ι} {row : ρ}
    {rows rows' : Rows ι ρ} (h : rows.insert compatible tx row = some rows') (other : ι) :
    rows'.own other = rows.own other ++ if other = tx then [row] else [] := by
  rw [(insert_eq h).2]
  by_cases hother : other = tx
  · simp [own, hother]
  · simp [own, hother, Ne.symm hother]

/-- What a step of one transaction looks like to the others. -/
structure Apart (tx : ι) (rows rows' : Rows ι ρ) : Prop where
  stored : rows.stored ⊆ rows'.stored
  own : ∀ other, other ≠ tx → rows'.own other = rows.own other

theorem Apart.refl (tx : ι) (rows : Rows ι ρ) : Apart tx rows rows :=
  ⟨fun _ h => h, fun _ _ => rfl⟩

theorem apart_commit (tx : ι) (rows : Rows ι ρ) : Apart tx rows (rows.commit tx) :=
  ⟨List.subset_append_left _ _, fun _ h => own_commit_of_ne h rows⟩

theorem apart_rollback (tx : ι) (rows : Rows ι ρ) : Apart tx rows (rows.rollback tx) :=
  ⟨fun _ h => h, fun _ h => own_commit_of_ne h rows⟩

theorem apart_insert {compatible : ρ → ρ → Prop} [DecidableRel compatible] {tx : ι} {row : ρ}
    {rows rows' : Rows ι ρ} (h : rows.insert compatible tx row = some rows') :
    Apart tx rows rows' := by
  refine ⟨(insert_stored h).symm ▸ fun _ h => h, fun other hother => ?_⟩
  rw [own_insert h, if_neg hother, List.append_nil]

section Valid

variable {compatible : ρ → ρ → Prop} {rows : Rows ι ρ}

theorem Valid.rollback (h : rows.Valid compatible) (tx : ι) :
    (rows.rollback tx).Valid compatible :=
  List.Pairwise.sublist ((List.filter_sublist.map Prod.snd).append_left rows.stored) h

theorem all_commit (tx : ι) (rows : Rows ι ρ) : (rows.commit tx).all.Perm rows.all := by
  have hsplit := (List.filter_append_perm (fun entry => decide (entry.1 = tx)) rows.pending).map
    Prod.snd
  rw [List.map_append] at hsplit
  unfold all
  rw [commit_stored, List.append_assoc]
  refine List.Perm.append_left rows.stored ?_
  simpa [own, commit] using hsplit

theorem Valid.commit [Std.Symm compatible] (h : rows.Valid compatible) (tx : ι) :
    (rows.commit tx).Valid compatible :=
  h.perm (all_commit tx rows).symm fun hpair => Std.Symm.symm _ _ hpair

end Valid

end Rows

end Goshop.Lib.OpenRows
