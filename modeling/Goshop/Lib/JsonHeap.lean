import Goshop.Lib.Json
import Mathlib.Data.Finmap

/-! JSON documents in memory. Arrays and objects are references, and an object is
changed in place. A decoder allocates every container anew; addresses are never
compared or shown, so a container is named by the way to it from the root, with
the last step first. -/
namespace Goshop.Lib.JsonHeap

open Goshop.Lib.Json

inductive Step where
  | index (position : Nat)
  | key (name : String)
deriving DecidableEq, Repr

abbrev Address := List Step

inductive Value (ν : Type) where
  | scalar (value : Scalar ν)
  | slice (address : Address)
  | map (address : Address)
deriving DecidableEq, Repr

structure Cell (ν : Type) where
  items : List (Value ν) := []
  entries : Finmap (fun _ : String => Value ν) := ∅

abbrev Heap (ν : Type) := Address → Cell ν

variable {ν : Type}

namespace Heap

def lookup (heap : Heap ν) (address : Address) (key : String) : Option (Value ν) :=
  (heap address).entries.lookup key

def assign (heap : Heap ν) (address : Address) (key : String) (value : Value ν) : Heap ν :=
  Function.update heap address
    { heap address with entries := (heap address).entries.insert key value }

variable {heap : Heap ν} {address : Address} {key other : String} {value : Value ν}

theorem assign_of_ne {place : Address} (h : place ≠ address) :
    heap.assign address key value place = heap place :=
  Function.update_of_ne h _ _

theorem lookup_assign : (heap.assign address key value).lookup address key = some value := by
  rw [lookup, assign, Function.update_self]
  exact Finmap.lookup_insert _

theorem lookup_assign_of_ne (h : other ≠ key) :
    (heap.assign address key value).lookup address other = heap.lookup address other := by
  rw [lookup, assign, Function.update_self]
  exact Finmap.lookup_insert_of_ne _ h

theorem keys_assign (h : heap.lookup address key ≠ none) :
    (heap.assign address key value address).entries.keys = (heap address).entries.keys := by
  have hmem : key ∈ (heap address).entries := by
    rw [← Finmap.lookup_isSome]
    exact Option.isSome_iff_ne_none.mpr h
  rw [assign, Function.update_self]
  ext name
  simp only [Finmap.mem_keys, Finmap.mem_insert, or_iff_right_iff_imp]
  rintro rfl
  exact hmem

end Heap

section Read

def sequence {ι α : Type} [Fintype ι] (results : ι → Option α) : Option (ι → α) :=
  if h : ∀ i, (results i).isSome then some fun i => (results i).get (h i) else none

theorem sequence_eq_some {ι α : Type} [Fintype ι] {results : ι → Option α} {values : ι → α}
    (h : ∀ i, results i = some (values i)) : sequence results = some values := by
  obtain rfl : results = fun i => some (values i) := funext h
  exact dif_pos fun _ => rfl

def read (heap : Heap ν) : Nat → Value ν → Option (Document ν)
  | 0, _ => none
  | _ + 1, .scalar value => some (.scalar value)
  | fuel + 1, .slice address =>
    (sequence fun i => read heap fuel ((heap address).items.get i)).map (.array _)
  | fuel + 1, .map address =>
    (sequence fun key : (heap address).entries.keys =>
      (heap.lookup address key).bind (read heap fuel)).map (.object _)

end Read

section Holds

/-- A value at its place in the heap, and the document it stands for. -/
def Holds (heap : Heap ν) : Address → Value ν → Document ν → Prop
  | _, value, .scalar scalar => value = .scalar scalar
  | place, value, .array length items =>
    value = .slice place ∧ ∃ children, (heap place).items = List.ofFn children ∧
      ∀ i : Fin length, Holds heap (.index i :: place) (children i) (items i)
  | place, value, .object keys fields =>
    value = .map place ∧ (heap place).entries.keys = keys ∧
      ∀ key : keys, ∃ child, heap.lookup place key = some child ∧
        Holds heap (.key key :: place) child (fields key)

variable {heap heap' : Heap ν}

/-- Only the addresses below its place matter for what a value stands for. -/
theorem Holds.frame {place : Address} {value : Value ν} {document : Document ν}
    (h : Holds heap place value document)
    (same : ∀ address, place <:+ address → heap' address = heap address) :
    Holds heap' place value document := by
  induction document generalizing place value with
  | scalar scalar => exact h
  | array length items ih =>
    obtain ⟨rfl, children, hitems, hchildren⟩ := h
    refine ⟨rfl, children, ?_, fun i => ih i (hchildren i) fun address hbelow => ?_⟩
    · rw [same place List.suffix_rfl, hitems]
    · exact same address ((List.suffix_cons _ place).trans hbelow)
  | object keys fields ih =>
    obtain ⟨rfl, hkeys, hfields⟩ := h
    have hplace := same place List.suffix_rfl
    refine ⟨rfl, by rw [hplace, hkeys], fun key => ?_⟩
    obtain ⟨child, hlookup, hchild⟩ := hfields key
    refine ⟨child, by rw [Heap.lookup, hplace, ← Heap.lookup, hlookup], ih key hchild ?_⟩
    exact fun address hbelow => same address ((List.suffix_cons _ place).trans hbelow)

theorem not_below_self {place : Address} {step : Step} : ¬step :: place <:+ place :=
  fun h => Nat.not_succ_le_self _ h.length_le

theorem not_below_of_ne {place address : Address} {step other : Step} (hne : other ≠ step)
    (h : other :: place <:+ address) : ¬step :: place <:+ address := by
  intro h'
  have hsame := (List.suffix_of_suffix_length_le h h' (by simp)).eq_of_length (by simp)
  exact hne (List.cons.inj hsame).1

def Elsewhere (place : Address) (heap heap' : Heap ν) : Prop :=
  ∀ address, ¬place <:+ address → heap' address = heap address

theorem Elsewhere.of_child {place : Address} {step : Step} {next : Heap ν}
    (h : Elsewhere place heap heap') (h' : Elsewhere (step :: place) heap' next) :
    Elsewhere place heap next := by
  intro address hbelow
  have hchild : ¬step :: place <:+ address := fun hsuffix =>
    hbelow ((List.suffix_cons step place).trans hsuffix)
  rw [h' address hchild, h address hbelow]

def HoldsEntry (heap : Heap ν) (place : Address) (name : String) (document : Document ν) : Prop :=
  ∃ value, heap.lookup place name = some value ∧ Holds heap (.key name :: place) value document

theorem HoldsEntry.frame {place : Address} {name : String} {document : Document ν}
    (h : HoldsEntry heap place name document)
    (hlookup : heap'.lookup place name = heap.lookup place name)
    (same : ∀ address, .key name :: place <:+ address → heap' address = heap address) :
    HoldsEntry heap' place name document := by
  obtain ⟨value, hvalue, hdocument⟩ := h
  exact ⟨value, hlookup.trans hvalue, hdocument.frame same⟩

theorem Holds.read_eq {place : Address} {value : Value ν} {document : Document ν} {fuel : Nat}
    (h : Holds heap place value document) (enough : document.depth < fuel) :
    read heap fuel value = some document := by
  induction document generalizing place value fuel with
  | scalar scalar =>
    obtain ⟨fuel, rfl⟩ := Nat.exists_eq_add_one_of_ne_zero (Nat.ne_zero_of_lt enough)
    rw [show value = .scalar scalar from h, read]
  | array length items ih =>
    obtain ⟨fuel, rfl⟩ := Nat.exists_eq_add_one_of_ne_zero (Nat.ne_zero_of_lt enough)
    obtain ⟨rfl, children, hitems, hchildren⟩ := h
    have hlength : (heap place).items.length = length := by rw [hitems, List.length_ofFn]
    have hread (i : Fin (heap place).items.length) :
        read heap fuel ((heap place).items.get i) = some ((items ∘ Fin.cast hlength) i) := by
      rw [List.get_of_eq hitems, List.get_ofFn]
      exact ih _ (hchildren _) (by have := Document.depth_item_lt items (i.cast hlength); omega)
    rw [read, sequence_eq_some hread]
    exact congrArg some (Document.array_cast hlength items)
  | object keys fields ih =>
    obtain ⟨fuel, rfl⟩ := Nat.exists_eq_add_one_of_ne_zero (Nat.ne_zero_of_lt enough)
    obtain ⟨rfl, rfl, hfields⟩ := h
    have hread (key : (heap place).entries.keys) :
        (heap.lookup place key).bind (read heap fuel) = some (fields key) := by
      obtain ⟨child, hlookup, hchild⟩ := hfields key
      rw [hlookup, Option.bind_some]
      exact ih key hchild (by have := Document.depth_field_lt fields key; omega)
    rw [read, sequence_eq_some hread, Option.map_some]

end Holds

section Load

def child : Document ν → Step → Option (Document ν)
  | .array length items, .index position =>
    if h : position < length then some (items ⟨position, h⟩) else none
  | .object keys fields, .key name =>
    if h : name ∈ keys then some (fields ⟨name, h⟩) else none
  | _, _ => none

def part (document : Document ν) : Address → Option (Document ν)
  | [] => some document
  | step :: place => (part document place).bind (child · step)

def valueAt (place : Address) : Document ν → Value ν
  | .scalar value => .scalar value
  | .array _ _ => .slice place
  | .object _ _ => .map place

def entriesOf (keys : Finset String) (values : keys → Value ν) :
    Finmap (fun _ : String => Value ν) :=
  Finmap.keysLookupEquiv.symm
    ⟨(keys, fun name => if h : name ∈ keys then some (values ⟨name, h⟩) else none), fun name => by
      by_cases h : name ∈ keys <;> simp [h]⟩

def cellAt (place : Address) : Document ν → Cell ν
  | .scalar _ => {}
  | .array _ items => { items := List.ofFn fun i => valueAt (.index i :: place) (items i) }
  | .object keys fields =>
    { entries := entriesOf keys fun key => valueAt (.key key :: place) (fields key) }

def load (document : Document ν) : Heap ν :=
  fun place => ((part document place).map (cellAt place)).getD {}

theorem load_eq {document found : Document ν} {place : Address}
    (h : part document place = some found) : load document place = cellAt place found := by
  rw [load, h, Option.map_some, Option.getD_some]

theorem holds_load_part {document found : Document ν} {place : Address}
    (h : part document place = some found) :
    Holds (load document) place (valueAt place found) found := by
  induction found generalizing place with
  | scalar value => rfl
  | array length items ih =>
    refine ⟨rfl, _, by rw [load_eq h, cellAt], fun i => ih i ?_⟩
    rw [part, h, Option.bind_some, child, dif_pos i.isLt]
  | object keys fields ih =>
    refine ⟨rfl, ?_, fun key => ⟨_, ?_, ih key ?_⟩⟩
    · rw [load_eq h, cellAt, entriesOf, Finmap.keysLookupEquiv_symm_apply_keys]
    · rw [Heap.lookup, load_eq h, cellAt, entriesOf, Finmap.keysLookupEquiv_symm_apply_lookup]
      exact dif_pos key.2
    · rw [part, h, Option.bind_some, child, dif_pos key.2]

theorem holds_load (document : Document ν) :
    Holds (load document) [] (valueAt [] document) document :=
  holds_load_part rfl

end Load

section Loop

variable {σ ι : Type}

/-- A turn of a loop settles its own part of the state and leaves the others alone. -/
def Settles (step : σ → ι → Option σ) (inv : σ → Prop) (before after : ι → σ → Prop) (i : ι) :
    Prop :=
  ∀ state, inv state → before i state → ∃ next, step state i = some next ∧ inv next ∧
    after i next ∧ ∀ j, j ≠ i →
      (before j state → before j next) ∧ (after j state → after j next)

theorem foldlM_settles {step : σ → ι → Option σ} {inv : σ → Prop} {before after : ι → σ → Prop}
    {elements : List ι} {state : σ} (distinct : elements.Nodup)
    (settles : ∀ i ∈ elements, Settles step inv before after i) (start : inv state)
    (waiting : ∀ i ∈ elements, before i state) :
    ∃ final, elements.foldlM step state = some final ∧ inv final ∧
      (∀ i ∈ elements, after i final) ∧ ∀ j ∉ elements, after j state → after j final := by
  induction elements generalizing state with
  | nil => exact ⟨state, rfl, start, List.forall_mem_nil _, fun _ _ h => h⟩
  | cons i rest ih =>
    obtain ⟨hfresh, hdistinct⟩ := List.nodup_cons.mp distinct
    obtain ⟨hsettles, hrest⟩ := List.forall_mem_cons.mp settles
    obtain ⟨hi, hwaits⟩ := List.forall_mem_cons.mp waiting
    obtain ⟨next, hstep, hinv, hafter, hothers⟩ := hsettles state start hi
    have hwaiting : ∀ j ∈ rest, before j next := by
      intro j hj
      have hne : j ≠ i := fun heq => hfresh (heq ▸ hj)
      exact (hothers j hne).1 (hwaits j hj)
    obtain ⟨final, hrun, hfinal, hdone, hkept⟩ := ih hdistinct hrest hinv hwaiting
    refine ⟨final, by rw [List.foldlM_cons, hstep]; exact hrun, hfinal, ?_, ?_⟩
    · exact List.forall_mem_cons.mpr ⟨hkept i hfresh hafter, hdone⟩
    · intro j hj hsettled
      obtain ⟨hne, hlater⟩ := List.ne_and_not_mem_of_not_mem_cons hj
      exact hkept j hlater ((hothers j hne).2 hsettled)

end Loop

end Goshop.Lib.JsonHeap
