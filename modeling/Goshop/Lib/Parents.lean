import Mathlib.Logic.Function.Basic
import Mathlib.Logic.Relation

/-! Forests given by parent pointers. `parent` is defined on the nodes, and a
node whose parent is `top` is a root. The operations are those of a table with
a parent column: set the parent of one node, which may be new, and remove a
node without children. -/
namespace Goshop.Lib.Parents

open Relation

variable {α : Type} (parent : α → Option α) (top : α)

def Up (node above : α) : Prop :=
  parent node = some above ∧ above ≠ top

instance [DecidableEq α] (node above : α) : Decidable (Up parent top node above) :=
  inferInstanceAs (Decidable (_ ∧ _))

/-- Following the parents from `node` leads to `above`, which may be `node` itself. -/
def Reaches : α → α → Prop :=
  ReflTransGen (Up parent top)

inductive Rooted : α → Prop
  | root {node : α} (h : parent node = some top) : Rooted node
  | step {node above : α} (h : parent node = some above) (rest : Rooted above) : Rooted node

/-- Every node stands below a root. -/
def Forest : Prop :=
  ∀ node, (parent node).isSome → Rooted parent top node

variable {parent top} {node above : α}

theorem Rooted.isSome (h : Rooted parent top node) : (parent node).isSome := by
  cases h with
  | root h => simp [h]
  | step h _ => simp [h]

theorem Rooted.climb (h : Rooted parent top node) (hup : Up parent top node above) :
    Rooted parent top above := by
  obtain ⟨hparent, hne⟩ := hup
  cases h with
  | root h =>
    rw [hparent, Option.some.injEq] at h
    exact absurd h hne
  | step h rest =>
    rw [hparent, Option.some.injEq] at h
    exact h ▸ rest

theorem Rooted.acyclic (h : Rooted parent top node) : ¬TransGen (Up parent top) node node := by
  induction h with
  | root h =>
    intro hcycle
    obtain ⟨next, hup, -⟩ := TransGen.head'_iff.mp hcycle
    have htop := hup.1
    rw [h, Option.some.injEq] at htop
    exact hup.2 htop.symm
  | @step node above h _ ih =>
    intro hcycle
    obtain ⟨next, hup, hback⟩ := TransGen.head'_iff.mp hcycle
    have hnext : above = next := Option.some.inj (h.symm.trans hup.1)
    subst hnext
    exact ih (TransGen.tail' hback hup)

theorem Rooted.reaches (h : Rooted parent top node) (hreach : Reaches parent top node above) :
    Rooted parent top above := by
  induction hreach with
  | refl => exact h
  | tail _ hup ih => exact ih.climb hup

variable [DecidableEq α]

theorem Reaches.update (h : Reaches parent top above node) (value : Option α) :
    Reaches (Function.update parent node value) top above node := by
  induction h using ReflTransGen.head_induction_on with
  | refl => exact .refl
  | @head first next hup _ ih =>
    by_cases hfirst : first = node
    · exact hfirst ▸ .refl
    · exact .head ⟨(Function.update_of_ne hfirst _ _).trans hup.1, hup.2⟩ ih

theorem Rooted.update {value : α} (h : Rooted parent top above)
    (hnode : Rooted (Function.update parent node (some value)) top node) :
    Rooted (Function.update parent node (some value)) top above := by
  induction h with
  | @root first h =>
    by_cases hfirst : first = node
    · exact hfirst ▸ hnode
    · exact .root ((Function.update_of_ne hfirst _ _).trans h)
  | @step first next h _ ih =>
    by_cases hfirst : first = node
    · exact hfirst ▸ hnode
    · exact .step ((Function.update_of_ne hfirst _ _).trans h) ih

theorem Rooted.update_of_not_reaches {value : Option α} (h : Rooted parent top above)
    (hnot : ¬Reaches parent top above node) :
    Rooted (Function.update parent node value) top above := by
  induction h with
  | @root first h =>
    have hfirst : first ≠ node := fun heq => hnot (heq ▸ .refl)
    exact .root ((Function.update_of_ne hfirst _ _).trans h)
  | @step first next h _ ih =>
    have hfirst : first ≠ node := fun heq => hnot (heq ▸ .refl)
    have hup := (Function.update_of_ne hfirst value parent).trans h
    by_cases htop : next = top
    · exact .root (htop ▸ hup)
    · exact .step hup (ih fun hreach => hnot (.head ⟨h, htop⟩ hreach))

/-- Setting the parent of a node keeps the forest exactly if the new parent is `top`,
or a node that does not stand below the first one. -/
theorem Forest.update_iff (h : Forest parent top) (node value : α) :
    Forest (Function.update parent node (some value)) top ↔
      value = top ∨ (parent value).isSome ∧ ¬Reaches parent top value node := by
  have hset : Function.update parent node (some value) node = some value := Function.update_self ..
  constructor
  · intro hforest
    have hrooted := hforest node (by simp)
    by_cases htop : value = top
    · exact .inl htop
    · have hnot : ¬Reaches parent top value node := fun hreach =>
        hrooted.acyclic (TransGen.head' ⟨hset, htop⟩ (hreach.update (some value)))
      have hne : value ≠ node := fun heq => hnot (heq ▸ .refl)
      have hsome := (hrooted.climb ⟨hset, htop⟩).isSome
      rw [Function.update_of_ne hne] at hsome
      exact .inr ⟨hsome, hnot⟩
  · intro hvalue
    have hnode : Rooted (Function.update parent node (some value)) top node := by
      rcases hvalue with rfl | ⟨hsome, hnot⟩
      · exact .root hset
      · exact .step hset ((h value hsome).update_of_not_reaches hnot)
    intro other hother
    by_cases heq : other = node
    · exact heq ▸ hnode
    · rw [Function.update_of_ne heq] at hother
      exact (h other hother).update hnode

theorem Forest.insert_iff (h : Forest parent top) {node : α} (hnew : parent node = none)
    (value : α) : Forest (Function.update parent node (some value)) top ↔
      value = top ∨ (parent value).isSome := by
  rw [h.update_iff]
  refine or_congr_right (and_iff_left_of_imp ?_)
  intro hsome hreach
  have hnode := ((h value hsome).reaches hreach).isSome
  simp [hnew] at hnode

theorem Forest.remove (h : Forest parent top) (hleaf : ∀ other, parent other ≠ some node) :
    Forest (Function.update parent node none) top := by
  intro other hother
  have hne : other ≠ node := by
    rintro rfl
    simp at hother
  rw [Function.update_of_ne hne] at hother
  refine (h other hother).update_of_not_reaches fun hreach => ?_
  rcases ReflTransGen.cases_tail hreach with heq | ⟨child, -, hup⟩
  · exact hne heq.symm
  · exact hleaf child hup.1

end Goshop.Lib.Parents
