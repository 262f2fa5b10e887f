import Goshop.ErrorContract.Catalog
import Goshop.Lib.SharedTree

/-! Errors as trees. An error may wrap others, and several errors may wrap the same
one; whoever asks for a contract or a code searches the tree. -/
namespace Goshop.ErrorContract.Tree

open Goshop.Lib Goshop.ErrorContract.Catalog

/-- The codes of calls that failed; a status with the code `OK` is no error. -/
inductive GrpcCode where
  | canceled
  | unknown
  | invalidArgument
  | deadlineExceeded
  | notFound
  | alreadyExists
  | permissionDenied
  | resourceExhausted
  | failedPrecondition
  | aborted
  | outOfRange
  | unimplemented
  | internal
  | unavailable
  | dataLoss
  | unauthenticated
deriving DecidableEq, Repr

/-- The details of a status; those that are no `ErrorInfo` are not read. -/
inductive Detail where
  | errorInfo (reason domain : String) (metadata : List (String × String))
  | other
deriving DecidableEq, Repr

structure Status where
  code : GrpcCode
  message : String
  details : List Detail
deriving DecidableEq, Repr

inductive Content where
  | text (message : String)
  | coded (spec : Spec) (diagnostic : String)
  | aggregate
  | canceled
  | deadlineExceeded
  | status (status : Status)
deriving DecidableEq, Repr

/-- Errors are pointers, but for aggregates, which cannot be compared. -/
structure Label where
  pointer : Option Nat
  content : Content
deriving DecidableEq, Repr

abbrev Err := Rose Label

section Constructors

variable (registry : Registry) (pointer : Nat)

def specForCode (code : Int) : Spec :=
  (registry.lookup code).getD unknownSpec

def safeSpec (spec : Spec) : Spec :=
  match spec.validate with
  | .ok _ => spec
  | .error _ => specForCode registry 1

def catalogSpec (spec : Spec) : Spec :=
  match registry.lookup spec.code with
  | some registered => registered
  | none => specForCode registry 1

/-- `withSpec`. The diagnostic is no part of the tree. -/
def withSpec (spec : Spec) (diagnostic : String) (cause : List Err) : Err :=
  .node ⟨some pointer, .coded spec diagnostic⟩ cause

def newSpec (spec : Spec) (internal : String) : Err :=
  withSpec pointer (catalogSpec registry spec) internal []

def wrapSpec (err : Err) (spec : Spec) (internal : String) : Err :=
  withSpec pointer (catalogSpec registry spec) internal [err]

def codeContract (code : Int) (internal : String) : Spec × String :=
  match registry.lookup code with
  | some spec => (spec, internal)
  | none => (specForCode registry 1, s!"unregistered error code {code}: {internal}")

def newCode (code : Int) (internal : String) : Err :=
  let contract := codeContract registry code internal
  newSpec registry pointer contract.1 contract.2

def wrapCode (err : Err) (code : Int) (internal : String) : Err :=
  let contract := codeContract registry code internal
  wrapSpec registry pointer err contract.1 contract.2

def newPublicSpec (spec : Spec) (internal : String) : Err :=
  let refused := newCode registry pointer 1
    s!"invalid public error contract for code {spec.code}: {internal}"
  match registry.lookup spec.code with
  | none => refused
  | some registered =>
    if spec.kind ≠ registered.kind ∨ spec.message = "" then refused
    else
      withSpec pointer (safeSpec registry { spec with reference := registered.reference })
        internal []

def newAggregate (errs : List (Option Err)) : Option Err :=
  let errs := errs.filterMap id
  if errs.isEmpty then none else some (.node ⟨none, .aggregate⟩ errs)

end Constructors

section Search

def maxErrorTreeNodes : Nat := 1000

/-- `walkErrors`. An aggregate is not visited itself; its errors are. -/
def walkErrors {β : Type} (err : Err) (visit : Label → Option β) : Option β :=
  (Rose.walk Label.pointer visit err ⟨[], maxErrorTreeNodes⟩).1

def specOfLabel (label : Label) : Option Spec :=
  match label.content with
  | .coded spec _ => some spec
  | _ => none

def specOf (err : Err) : Option Spec :=
  walkErrors err specOfLabel

def isCode (err : Err) (code : Int) : Bool :=
  (walkErrors err fun label => (specOfLabel label).filter (·.code = code)).isSome

def parseCoder (registry : Registry) (err : Err) : Spec :=
  match specOf err with
  | some spec => (registry.lookup spec.code).getD unknownSpec
  | none => unknownSpec

variable {err : Err}

def Carries (err : Err) (spec : Spec) : Prop :=
  ∃ part ∈ err.parts, specOfLabel part.label = some spec

theorem walkErrors_eq {β : Type} {visit : Label → Option β}
    (hshared : Rose.Coherent Label.pointer err.parts) (hsize : err.size ≤ maxErrorTreeNodes) :
    walkErrors err visit = Rose.first visit [err] :=
  Rose.walk_eq_first hshared hsize

theorem specOf_carries {spec : Spec} (h : specOf err = some spec) : Carries err spec :=
  Rose.walk_some err _ h

theorem isCode_carries {code : Int} (h : isCode err code = true) :
    ∃ spec, Carries err spec ∧ spec.code = code := by
  obtain ⟨spec, hspec⟩ := Option.isSome_iff_exists.mp h
  obtain ⟨part, hpart, hvisit⟩ := Rose.walk_some err _ hspec
  rw [Option.filter_eq_some_iff] at hvisit
  exact ⟨spec, ⟨part, hpart, hvisit.1⟩, of_decide_eq_true hvisit.2⟩

/-- In an error of up to a thousand nodes, however its parts are shared, `SpecOf`
finds the first contract from the outside in and `IsCode` every code; in a larger
one they may miss some, but what they report is there. -/
theorem error_search_exact (err : Err) :
    (∀ spec, specOf err = some spec → Carries err spec) ∧
    (∀ code, isCode err code = true → ∃ spec, Carries err spec ∧ spec.code = code) ∧
    (Rose.Coherent Label.pointer err.parts → err.size ≤ 1000 →
      specOf err = err.parts.findSome? (fun part => specOfLabel part.label) ∧
      ∀ code, isCode err code = true ↔ ∃ spec, Carries err spec ∧ spec.code = code) := by
  refine ⟨fun spec => specOf_carries, fun code => isCode_carries, fun hshared hsize => ⟨?_, ?_⟩⟩
  · rw [specOf, walkErrors_eq hshared hsize, Rose.first, Rose.partsAll, Rose.partsAll,
      List.append_nil]
  · intro code
    refine ⟨isCode_carries, ?_⟩
    rintro ⟨spec, ⟨part, hpart, hspec⟩, hcode⟩
    rw [isCode, walkErrors_eq hshared hsize, Rose.first, List.findSome?_isSome_iff]
    refine ⟨part, by simpa [Rose.partsAll] using hpart, ?_⟩
    simp [hspec, Option.filter, hcode]

end Search

section Sharing

def shortage : Err :=
  withSpec 1 invNotEnoughSpec "goods 7" []

def shortageTwice : Err :=
  .node ⟨some 3, .text "submit order"⟩ [.node ⟨some 2, .text "reserve stock"⟩ [shortage], shortage]

theorem shortageTwice_coherent : Rose.Coherent Label.pointer shortageTwice.parts := by
  intro part hpart other hother id hid hid'
  simp only [shortageTwice, shortage, withSpec, Rose.parts, Rose.partsAll, List.mem_cons,
    List.not_mem_nil, or_false, List.cons_append, List.nil_append] at hpart hother
  have hpointer := hid.trans hid'.symm
  rcases hpart with rfl | rfl | rfl | rfl <;> rcases hother with rfl | rfl | rfl | rfl <;>
    first | rfl | simp [Rose.label] at hpointer

theorem error_search_exact_shared : specOf shortageTwice =
    shortageTwice.parts.findSome? (fun part => specOfLabel part.label) :=
  ((error_search_exact shortageTwice).2.2 shortageTwice_coherent (by decide)).1

end Sharing

section Aggregates

/-- The errors of an aggregate, with those of the aggregates among them in their
place. -/
def flattenErrors : List Err → List Err
  | [] => []
  | .node label children :: rest =>
    (if label.content = .aggregate then flattenErrors children else [.node label children]) ++
      flattenErrors rest

def flatten (agg : Err) : Option Err :=
  newAggregate ((flattenErrors agg.children).map some)

mutual

/-- `FilterOut`, for a list of matchers taken together. -/
def filterOut (matched : Err → Bool) : Err → Option Err
  | .node label children =>
    if label.content = .aggregate then newAggregate ((filterErrors matched children).map some)
    else if matched (.node label children) then none
    else some (.node label children)

def filterErrors (matched : Err → Bool) : List Err → List Err
  | [] => []
  | err :: rest =>
    match filterOut matched err with
    | some kept => kept :: filterErrors matched rest
    | none => filterErrors matched rest

end

theorem flattenErrors_cons_aggregate {label : Label} (h : label.content = .aggregate)
    (children rest : List Err) :
    flattenErrors (.node label children :: rest) =
      flattenErrors children ++ flattenErrors rest := by
  rw [flattenErrors, if_pos h]

theorem flattenErrors_cons_other {label : Label} (h : label.content ≠ .aggregate)
    (children rest : List Err) :
    flattenErrors (.node label children :: rest) =
      .node label children :: flattenErrors rest := by
  rw [flattenErrors, if_neg h, List.singleton_append]

theorem flattenErrors_plain (errs : List Err) :
    ∀ err ∈ flattenErrors errs, err.label.content ≠ .aggregate := by
  induction errs using flattenErrors.induct with
  | case1 => simp [flattenErrors]
  | case2 label children rest ihchildren ihrest =>
    by_cases hagg : label.content = .aggregate
    · rw [flattenErrors_cons_aggregate hagg]
      exact List.forall_mem_append.mpr ⟨ihchildren, ihrest⟩
    · rw [flattenErrors_cons_other hagg]
      exact List.forall_mem_cons.mpr ⟨hagg, ihrest⟩

theorem flattenErrors_of_plain {errs : List Err}
    (h : ∀ err ∈ errs, err.label.content ≠ .aggregate) : flattenErrors errs = errs := by
  induction errs with
  | nil => rw [flattenErrors]
  | cons err rest ih =>
    cases err with
    | node label children =>
      obtain ⟨hfirst, hrest⟩ := List.forall_mem_cons.mp h
      have hplain : label.content ≠ .aggregate := hfirst
      rw [flattenErrors_cons_other hplain, ih hrest]

/-- Whoever does not look at aggregates finds the same. -/
theorem first_flattenErrors {β : Type} {visit : Label → Option β}
    (hblind : ∀ label, label.content = .aggregate → visit label = none) (errs : List Err) :
    Rose.first visit (flattenErrors errs) = Rose.first visit errs := by
  induction errs using flattenErrors.induct with
  | case1 => rw [flattenErrors]
  | case2 label children rest ihchildren ihrest =>
    rw [Rose.first_cons visit (.node label children) rest, Rose.first_node]
    by_cases hagg : label.content = .aggregate
    · rw [flattenErrors_cons_aggregate hagg, Rose.first_append, ihchildren, ihrest,
        hblind label hagg, Option.none_or]
    · rw [flattenErrors_cons_other hagg, Rose.first_cons, ihrest, Rose.first_node]

theorem partsAll_flattenErrors (errs : List Err) :
    (Rose.partsAll (flattenErrors errs)).Sublist (Rose.partsAll errs) := by
  induction errs using flattenErrors.induct with
  | case1 => rw [flattenErrors]
  | case2 label children rest ihchildren ihrest =>
    rw [Rose.partsAll, Rose.parts]
    by_cases hagg : label.content = .aggregate
    · rw [flattenErrors_cons_aggregate hagg, Rose.partsAll_append]
      exact (ihchildren.cons _).append ihrest
    · rw [flattenErrors_cons_other hagg, Rose.partsAll, Rose.parts]
      exact (List.Sublist.refl _).append ihrest

theorem flattenErrors_append (errs rest : List Err) :
    flattenErrors (errs ++ rest) = flattenErrors errs ++ flattenErrors rest := by
  induction errs with
  | nil => rw [flattenErrors, List.nil_append, List.nil_append]
  | cons err errs ih =>
    cases err with
    | node label children =>
      rw [List.cons_append, flattenErrors, ih, flattenErrors, List.append_assoc]

theorem filterErrors_cons (matched : Err → Bool) (err : Err) (rest : List Err) :
    filterErrors matched (err :: rest) =
      (filterOut matched err).toList ++ filterErrors matched rest := by
  rw [filterErrors]
  cases filterOut matched err <;> rfl

theorem newAggregate_some (errs : List Err) :
    newAggregate (errs.map some) =
      if errs.isEmpty then none else some (.node ⟨none, .aggregate⟩ errs) := by
  simp [newAggregate, List.filterMap_map]

mutual

theorem flatten_filterOut (matched : Err → Bool) (err : Err) :
    flattenErrors (filterOut matched err).toList =
      (flattenErrors [err]).filter fun member => !matched member := by
  match err with
  | .node label children =>
    by_cases hagg : label.content = .aggregate
    · have hchildren := flatten_filterErrors matched children
      rw [filterOut, if_pos hagg, flattenErrors_cons_aggregate hagg, flattenErrors, List.append_nil,
        ← hchildren, newAggregate_some]
      split
      next hempty =>
        rw [List.isEmpty_iff.mp hempty]
        rfl
      next => simp [flattenErrors]
    · rw [filterOut, if_neg hagg, flattenErrors_cons_other hagg, flattenErrors]
      by_cases hmatched : matched (.node label children) = true
      · simp [hmatched, flattenErrors]
      · simp [hmatched, flattenErrors, hagg]

theorem flatten_filterErrors (matched : Err → Bool) (errs : List Err) :
    flattenErrors (filterErrors matched errs) =
      (flattenErrors errs).filter fun member => !matched member := by
  match errs with
  | [] => simp [filterErrors, flattenErrors]
  | err :: rest =>
    have hcons : err :: rest = [err] ++ rest := rfl
    rw [filterErrors_cons, flattenErrors_append, flatten_filterOut matched err,
      flatten_filterErrors matched rest, hcons, flattenErrors_append, List.filter_append]

end

def members (err : Option Err) : List Err :=
  flattenErrors err.toList

theorem flatten_eq {errs : List Err} :
    flatten (.node ⟨none, .aggregate⟩ errs) =
      if (flattenErrors errs).isEmpty then none
      else some (.node ⟨none, .aggregate⟩ (flattenErrors errs)) :=
  newAggregate_some _

theorem flat_coherent {errs : List Err}
    (hshared : Rose.Coherent Label.pointer (Rose.node ⟨none, .aggregate⟩ errs : Err).parts) :
    Rose.Coherent Label.pointer
      (Rose.node ⟨none, .aggregate⟩ (flattenErrors errs) : Err).parts := by
  rw [Rose.parts] at hshared ⊢
  have hsub := (partsAll_flattenErrors errs).subset
  intro part hpart other hother id hid hid'
  rcases List.mem_cons.mp hpart with rfl | hpart
  · cases hid
  rcases List.mem_cons.mp hother with rfl | hother
  · cases hid'
  exact hshared part (List.mem_cons_of_mem _ (hsub hpart)) other
    (List.mem_cons_of_mem _ (hsub hother)) id hid hid'

theorem flat_size (errs : List Err) :
    (Rose.node ⟨none, .aggregate⟩ (flattenErrors errs) : Err).size ≤
      (Rose.node ⟨none, .aggregate⟩ errs : Err).size := by
  rw [Rose.size, Rose.size, Rose.parts, Rose.parts, List.length_cons, List.length_cons]
  exact Nat.succ_le_succ (partsAll_flattenErrors errs).length_le

theorem walkErrors_flatten {β : Type} {visit : Label → Option β} {errs : List Err}
    (hblind : ∀ label, label.content = .aggregate → visit label = none)
    (hshared : Rose.Coherent Label.pointer (Rose.node ⟨none, .aggregate⟩ errs : Err).parts)
    (hsize : (Rose.node ⟨none, .aggregate⟩ errs : Err).size ≤ maxErrorTreeNodes) :
    (flatten (.node ⟨none, .aggregate⟩ errs)).bind (walkErrors · visit) =
      walkErrors (.node ⟨none, .aggregate⟩ errs) visit := by
  rw [flatten_eq, walkErrors_eq hshared hsize, Rose.first_node, hblind _ rfl, Option.none_or,
    ← first_flattenErrors hblind]
  split
  next hempty =>
    rw [List.isEmpty_iff.mp hempty, Rose.first_nil]
    rfl
  next =>
    rw [Option.bind_some, walkErrors_eq (flat_coherent hshared)
      (Nat.le_trans (flat_size errs) hsize), Rose.first_node, hblind _ rfl, Option.none_or]

theorem specOfLabel_aggregate {label : Label} (h : label.content = .aggregate) :
    specOfLabel label = none := by
  rw [specOfLabel, h]

theorem members_aggregate (errs : List Err) :
    members (some (.node ⟨none, .aggregate⟩ errs)) = flattenErrors errs := by
  simp [members, flattenErrors]

/-- Flattening an aggregate leaves no aggregate directly inside it, and filtering
keeps, of the errors that flattening brings up, those that no matcher takes. Nothing
changes about the contract and the codes that are found in the aggregate, as long as
the search comes to its end. -/
theorem flatten_preserves_contracts (errs : List Err) (matched : Err → Bool) :
    let agg : Err := .node ⟨none, .aggregate⟩ errs
    (∀ flat, flatten agg = some flat → ∀ err ∈ flat.children, err.label.content ≠ .aggregate) ∧
    members (flatten agg) = members (some agg) ∧
    members (filterOut matched agg) = ((members (some agg)).filter fun err => !matched err) ∧
    (Rose.Coherent Label.pointer agg.parts → agg.size ≤ 1000 →
      (flatten agg).bind specOf = specOf agg ∧
        ∀ code, (flatten agg).any (isCode · code) = isCode agg code) := by
  intro agg
  refine ⟨?_, ?_, flatten_filterOut matched agg, ?_⟩
  · intro flat hflat
    rw [flatten_eq] at hflat
    split at hflat
    · cases hflat
    · cases hflat
      exact flattenErrors_plain errs
  · rw [flatten_eq, members_aggregate]
    split
    next hempty =>
      simp [List.isEmpty_iff.mp hempty, members, flattenErrors]
    next => rw [members_aggregate, flattenErrors_of_plain (flattenErrors_plain errs)]
  · intro hshared hsize
    refine ⟨walkErrors_flatten (fun _ => specOfLabel_aggregate) hshared hsize, fun code => ?_⟩
    have hblind (label : Label) (h : label.content = .aggregate) :
        (specOfLabel label).filter (·.code = code) = none := by
      rw [specOfLabel_aggregate h, Option.filter_none]
    have hsame := congrArg Option.isSome (walkErrors_flatten hblind hshared hsize)
    rw [isCode, ← hsame]
    cases flatten (.node ⟨none, .aggregate⟩ errs) <;> rfl

theorem flatten_preserves_contracts_shared :
    (flatten (.node ⟨none, .aggregate⟩ [shortageTwice])).bind specOf =
      specOf (.node ⟨none, .aggregate⟩ [shortageTwice]) := by
  have hshared : Rose.Coherent Label.pointer
      (Rose.node ⟨none, .aggregate⟩ [shortageTwice] : Err).parts := by
    rw [Rose.parts, Rose.partsAll, Rose.partsAll, List.append_nil]
    intro part hpart other hother id hid hid'
    rcases List.mem_cons.mp hpart with rfl | hpart
    · cases hid
    rcases List.mem_cons.mp hother with rfl | hother
    · cases hid'
    exact shortageTwice_coherent part hpart other hother id hid hid'
  exact ((flatten_preserves_contracts [shortageTwice] (fun _ => false)).2.2.2 hshared
    (by decide)).1

end Aggregates

end Goshop.ErrorContract.Tree
