import Mathlib.Data.Finset.Lattice.Fold
import Mathlib.Data.Fintype.Basic
import Mathlib.Data.Fintype.Sets
import Mathlib.Order.Lattice.Nat

/-! JSON documents over any type of numbers. An array is a family over its
indices and an object a family over a finite set of keys, so the order in which
the fields of an object were written is not part of the document. -/
namespace Goshop.Lib.Json

inductive Scalar (ν : Type) where
  | null
  | bool (value : Bool)
  | number (value : ν)
  | string (value : String)
deriving DecidableEq, Repr

inductive Document (ν : Type) where
  | scalar (value : Scalar ν)
  | array (length : Nat) (items : Fin length → Document ν)
  | object (keys : Finset String) (fields : keys → Document ν)

variable {ν : Type}

namespace Document

theorem array_cast {m n : Nat} (h : m = n) (items : Fin n → Document ν) :
    array m (items ∘ Fin.cast h) = array n items := by
  subst h
  rfl

theorem object_congr {keys keys' : Finset String} {fields : keys → Document ν}
    (values : String → Document ν) (h : keys' = keys)
    (same : ∀ key : keys, values key = fields key) :
    object keys' (fun key => values key) = object keys fields := by
  subst h
  exact congrArg (object keys') (funext same)

def depth : Document ν → Nat
  | scalar _ => 0
  | array _ items => (Finset.univ.sup fun i => (items i).depth) + 1
  | object _ fields => (Finset.univ.sup fun key => (fields key).depth) + 1

theorem depth_item_lt {length : Nat} (items : Fin length → Document ν) (i : Fin length) :
    (items i).depth < (array length items).depth :=
  Nat.lt_succ_of_le (Finset.le_sup (f := fun i => (items i).depth) (Finset.mem_univ i))

theorem depth_field_lt {keys : Finset String} (fields : keys → Document ν) (key : keys) :
    (fields key).depth < (object keys fields).depth :=
  Nat.lt_succ_of_le (Finset.le_sup (f := fun key => (fields key).depth) (Finset.mem_univ key))

/-- One constant in place of each value under a chosen key, at every depth. -/
def mask (chosen : String → Bool) (constant : Document ν) : Document ν → Document ν
  | scalar value => scalar value
  | array length items => array length fun i => mask chosen constant (items i)
  | object keys fields =>
    object keys fun key => if chosen key then constant else mask chosen constant (fields key)

variable {chosen : String → Bool}

theorem mask_mask (first second document : Document ν) :
    mask chosen second (mask chosen first document) = mask chosen second document := by
  induction document with
  | scalar value => rfl
  | array length items ih =>
    simp only [mask]
    congr 1
    exact funext ih
  | object keys fields ih =>
    simp only [mask]
    congr 1
    funext key
    by_cases h : chosen key
    · rw [if_pos h, if_pos h]
    · rw [if_neg h, if_neg h, if_neg h, ih key]

/-- The choice of the constant does not matter for which documents become equal. -/
theorem mask_congr {first d e : Document ν} (h : mask chosen first d = mask chosen first e)
    (second : Document ν) : mask chosen second d = mask chosen second e := by
  rw [← mask_mask first second d, h, mask_mask]

end Document

/-- A printer and the reader that inverts it. Either of them may refuse its input. -/
structure Codec (τ ν : Type) where
  unmarshal : τ → Option (Document ν)
  marshal : Document ν → Option τ
  inverts (document : Document ν) :
    ∃ text, marshal document = some text ∧ unmarshal text = some document

end Goshop.Lib.Json
