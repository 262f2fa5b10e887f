import Mathlib.Data.List.Basic

/-! Searching trees with shared parts. The parts of a tree have identities, and two
parts of one identity are the same; a search that remembers the identities it has
come across need not enter a part twice, and one with a budget need not end up
lost. On trees within the budget it finds what a plain search from left to right
would find. -/
namespace Goshop.Lib

inductive Rose (α : Type) where
  | node (label : α) (children : List (Rose α))

namespace Rose

variable {α β ι : Type}

def label : Rose α → α
  | .node label _ => label

def children : Rose α → List (Rose α)
  | .node _ children => children

mutual

def parts : Rose α → List (Rose α)
  | .node label children => .node label children :: partsAll children

def partsAll : List (Rose α) → List (Rose α)
  | [] => []
  | tree :: rest => parts tree ++ partsAll rest

end

def size (tree : Rose α) : Nat :=
  tree.parts.length

/-- The first label, in the order of the parts, that gives a value. -/
def first (visit : α → Option β) (trees : List (Rose α)) : Option β :=
  (partsAll trees).findSome? fun part => visit part.label

theorem mem_parts (tree : Rose α) : tree ∈ tree.parts := by
  cases tree with
  | node label children =>
    rw [parts]
    exact List.mem_cons_self

theorem mem_partsAll {part : Rose α} {trees : List (Rose α)} :
    part ∈ partsAll trees ↔ ∃ tree ∈ trees, part ∈ tree.parts := by
  induction trees with
  | nil => simp [partsAll]
  | cons tree rest ih => simp [partsAll, ih]

theorem first_nil (visit : α → Option β) : first visit [] = none := by
  simp [first, partsAll]

theorem first_cons (visit : α → Option β) (tree : Rose α) (rest : List (Rose α)) :
    first visit (tree :: rest) = (first visit [tree]).or (first visit rest) := by
  simp [first, partsAll, List.findSome?_append]

theorem first_node (visit : α → Option β) (label : α) (children : List (Rose α)) :
    first visit [.node label children] = (visit label).or (first visit children) := by
  simp only [first, partsAll, parts, List.append_nil, List.findSome?_cons, Rose.label]
  cases visit label <;> rfl

theorem partsAll_append (trees rest : List (Rose α)) :
    partsAll (trees ++ rest) = partsAll trees ++ partsAll rest := by
  induction trees with
  | nil => simp [partsAll]
  | cons tree trees ih => rw [List.cons_append, partsAll, ih, partsAll, List.append_assoc]

theorem first_append (visit : α → Option β) (trees rest : List (Rose α)) :
    first visit (trees ++ rest) = (first visit trees).or (first visit rest) := by
  simp [first, partsAll_append, List.findSome?_append]

mutual

theorem parts_trans {tree part inner : Rose α} (hpart : part ∈ tree.parts)
    (hinner : inner ∈ part.parts) : inner ∈ tree.parts := by
  cases tree with
  | node label children =>
    rw [parts] at hpart ⊢
    rcases List.mem_cons.mp hpart with rfl | hbelow
    · rwa [parts] at hinner
    · exact List.mem_cons_of_mem _ (partsAll_trans hbelow hinner)

theorem partsAll_trans {trees : List (Rose α)} {part inner : Rose α} (hpart : part ∈ partsAll trees)
    (hinner : inner ∈ part.parts) : inner ∈ partsAll trees := by
  cases trees with
  | nil => simp [partsAll] at hpart
  | cons tree rest =>
    rw [partsAll] at hpart ⊢
    rcases List.mem_append.mp hpart with hfirst | hrest
    · exact List.mem_append_left _ (parts_trans hfirst hinner)
    · exact List.mem_append_right _ (partsAll_trans hrest hinner)

end

theorem first_part {visit : α → Option β} {tree part : Rose α} (h : first visit [tree] = none)
    (hpart : part ∈ tree.parts) : first visit [part] = none := by
  simp only [first, partsAll, List.append_nil, List.findSome?_eq_none_iff] at h ⊢
  exact fun inner hinner => h inner (parts_trans hpart hinner)

section Map

variable {γ : Type} (f : α → γ)

mutual

def map : Rose α → Rose γ
  | .node label children => .node (f label) (mapAll children)

def mapAll : List (Rose α) → List (Rose γ)
  | [] => []
  | tree :: rest => map tree :: mapAll rest

end

theorem label_map (tree : Rose α) : (tree.map f).label = f tree.label := by
  cases tree with
  | node label children => rw [map, Rose.label, Rose.label]

mutual

theorem parts_map (tree : Rose α) : (tree.map f).parts = tree.parts.map (map f) := by
  match tree with
  | .node label children => rw [map, parts, parts, partsAll_map children, List.map_cons, map]

theorem partsAll_map (trees : List (Rose α)) :
    partsAll (mapAll f trees) = (partsAll trees).map (map f) := by
  match trees with
  | [] => rfl
  | tree :: rest =>
    rw [mapAll, partsAll, partsAll, parts_map tree, partsAll_map rest, List.map_append]

end

end Map

section Walk

variable [DecidableEq ι] (identity : α → Option ι) (visit : α → Option β)

/-- The identities that the search has met, and how many parts it may still look
at. -/
structure Walker (ι : Type) where
  seen : List ι
  remaining : Nat

def Walker.spend (walker : Walker ι) : Walker ι :=
  { walker with remaining := walker.remaining - 1 }

def Walker.knows (walker : Walker ι) (id : Option ι) : Bool :=
  id.any (· ∈ walker.seen)

def Walker.mark (walker : Walker ι) (id : Option ι) : Walker ι :=
  { walker with seen := id.toList ++ walker.seen }

mutual

def walk : Rose α → Walker ι → Option β × Walker ι
  | .node label children, walker =>
    if walker.remaining = 0 then (none, walker)
    else if walker.knows (identity label) then (none, walker.spend)
    else
      match visit label with
      | some found => (some found, walker.spend.mark (identity label))
      | none => walkAll children (walker.spend.mark (identity label))

def walkAll : List (Rose α) → Walker ι → Option β × Walker ι
  | [], walker => (none, walker)
  | tree :: rest, walker =>
    match walk tree walker with
    | (some found, walker) => (some found, walker)
    | (none, walker) => walkAll rest walker

end

section Map

variable {γ : Type} (f : γ → α)

mutual

theorem walk_map (tree : Rose γ) (walker : Walker ι) :
    walk identity visit (tree.map f) walker =
      walk (fun label => identity (f label)) (fun label => visit (f label)) tree walker := by
  match tree with
  | .node label children =>
    rw [map, walk, walk]
    cases visit (f label) with
    | some found => rfl
    | none => simp only [walkAll_map children]

theorem walkAll_map (trees : List (Rose γ)) (walker : Walker ι) :
    walkAll identity visit (mapAll f trees) walker =
      walkAll (fun label => identity (f label)) (fun label => visit (f label)) trees walker := by
  match trees with
  | [] => rfl
  | tree :: rest =>
    rw [mapAll, walkAll, walkAll, walk_map tree]
    split
    · rfl
    · exact walkAll_map rest _

end

end Map

/-- Parts of one identity are the same. -/
def Coherent (trees : List (Rose α)) : Prop :=
  ∀ part ∈ trees, ∀ other ∈ trees, ∀ id, identity part.label = some id →
    identity other.label = some id → part = other

/-- Every part that has been met has nothing to find, or is one of the parts above
those that are smaller than the bound. -/
def Clean (trees : List (Rose α)) (bound : Nat) (seen : List ι) : Prop :=
  ∀ id ∈ seen, ∀ part ∈ trees, identity part.label = some id →
    first visit [part] = none ∨ bound < part.size

structure Searched (parts : List (Rose α)) (before after : Walker ι) : Prop where
  spent : before.remaining ≤ after.remaining + parts.length
  met : ∀ id ∈ after.seen, id ∈ before.seen ∨ ∃ part ∈ parts, identity part.label = some id

variable {identity visit} {trees : List (Rose α)} {bound : Nat} {walker : Walker ι}

theorem size_pos (tree : Rose α) : 0 < tree.size :=
  List.length_pos_of_mem tree.mem_parts

theorem size_le_partsAll {tree : Rose α} {rest : List (Rose α)} (h : tree ∈ rest) :
    tree.size ≤ (partsAll rest).length := by
  induction rest with
  | nil => simp at h
  | cons other rest ih =>
    rw [partsAll, List.length_append]
    rcases List.mem_cons.mp h with rfl | hrest
    · exact Nat.le_add_right _ _
    · exact Nat.le_trans (ih hrest) (Nat.le_add_left _ _)

omit [DecidableEq ι] in
/-- A part that has been searched in vain may be remembered. -/
theorem Clean.searched {parts : List (Rose α)} {after : Walker ι}
    (hcoherent : Coherent identity trees) (hclean : Clean identity visit trees bound walker.seen)
    (hparts : parts ⊆ trees) (hnone : ∀ part ∈ parts, first visit [part] = none)
    (h : Searched identity parts walker after) :
    Clean identity visit trees bound after.seen := by
  intro id hid part hpart hidentity
  rcases h.met id hid with hold | ⟨found, hfound, hsame⟩
  · exact hclean id hold part hpart hidentity
  · rw [hcoherent part hpart found (hparts hfound) id hidentity hsame]
    exact .inl (hnone found hfound)

omit [DecidableEq ι] in
theorem Clean.enter {tree : Rose α} (hcoherent : Coherent identity trees)
    (hclean : Clean identity visit trees bound walker.seen) (htree : tree ∈ trees)
    (hsize : tree.size ≤ bound) :
    Clean identity visit trees (tree.size - 1) (walker.mark (identity tree.label)).seen := by
  have hpos := tree.size_pos
  intro id hid part hpart hidentity
  rcases List.mem_append.mp hid with hown | hold
  · rw [hcoherent part hpart tree htree id hidentity (Option.mem_toList.mp hown)]
    exact .inr (by omega)
  · exact (hclean id hold part hpart hidentity).imp_right fun hlarger => by omega

omit [DecidableEq ι] in
theorem Searched.append {parts parts' : List (Rose α)} {middle after : Walker ι}
    (h : Searched identity parts walker middle) (h' : Searched identity parts' middle after) :
    Searched identity (parts ++ parts') walker after where
  spent := by
    have := h.spent
    have := h'.spent
    rw [List.length_append]
    omega
  met id hid := by
    rcases h'.met id hid with hmiddle | ⟨part, hpart, hidentity⟩
    · refine (h.met id hmiddle).imp_right ?_
      rintro ⟨part, hpart, hidentity⟩
      exact ⟨part, List.mem_append_left _ hpart, hidentity⟩
    · exact .inr ⟨part, List.mem_append_right _ hpart, hidentity⟩

omit [DecidableEq ι] in
theorem Searched.entered {label : α} {children : List (Rose α)} {after : Walker ι}
    (h : Searched identity (partsAll children) (walker.spend.mark (identity label)) after) :
    Searched identity (Rose.node label children).parts walker after where
  spent := by
    have := h.spent
    simp only [Walker.mark, Walker.spend] at this
    rw [parts, List.length_cons]
    omega
  met id hid := by
    rw [parts]
    rcases h.met id hid with hmarked | ⟨part, hpart, hidentity⟩
    · rcases List.mem_append.mp hmarked with hown | hold
      · exact .inr ⟨_, List.mem_cons_self, Option.mem_toList.mp hown⟩
      · exact .inl hold
    · exact .inr ⟨part, List.mem_cons_of_mem _ hpart, hidentity⟩

mutual

theorem walk_spec (hcoherent : Coherent identity trees) (tree : Rose α) (bound : Nat)
    (walker : Walker ι) (hparts : tree.parts ⊆ trees) (hsize : tree.size ≤ bound)
    (hbudget : tree.size ≤ walker.remaining)
    (hclean : Clean identity visit trees bound walker.seen) :
    (walk identity visit tree walker).1 = first visit [tree] ∧
      (first visit [tree] = none →
        Searched identity tree.parts walker (walk identity visit tree walker).2) := by
  match tree with
  | .node label children =>
    have hpos := size_pos (.node label children)
    have htree := hparts (mem_parts (.node label children))
    have hlength : (Rose.node label children).parts.length = (partsAll children).length + 1 := by
      rw [parts, List.length_cons]
    have hbelow : partsAll children ⊆ (Rose.node label children).parts := by
      rw [parts]
      exact List.subset_cons_self _ _
    rw [walk, if_neg (by omega)]
    by_cases hknown : walker.knows (identity label) = true
    · -- the part has been met, and not above itself
      obtain ⟨id, hid, hseen⟩ : ∃ id, identity label = some id ∧ id ∈ walker.seen := by
        cases hid : identity label with
        | none => simp [Walker.knows, hid] at hknown
        | some id => exact ⟨id, rfl, by simpa [Walker.knows, hid] using hknown⟩
      have hnone : first visit [.node label children] = none :=
        (hclean id hseen _ htree hid).resolve_right (by omega)
      rw [if_pos hknown, hnone]
      refine ⟨rfl, fun _ => ⟨?_, fun id hid => .inl hid⟩⟩
      simp only [Walker.spend]
      omega
    · rw [if_neg hknown, first_node]
      cases hvisit : visit label with
      | some found => simp
      | none =>
        have hchildren : ∀ child ∈ children,
            child.size ≤ (Rose.node label children).size - 1 := by
          intro child hchild
          have := size_le_partsAll hchild
          simp only [size] at this ⊢
          omega
        have hleft : (partsAll children).length ≤
            (walker.spend.mark (identity label)).remaining := by
          simp only [size] at hbudget
          simp only [Walker.mark, Walker.spend]
          omega
        obtain ⟨hfirst, hsearched⟩ := walkAll_spec hcoherent children
          ((Rose.node label children).size - 1) (walker.spend.mark (identity label))
          (List.Subset.trans hbelow hparts) hchildren hleft
          (hclean.enter hcoherent htree hsize)
        simp only [Option.none_or]
        exact ⟨hfirst, fun hnone => (hsearched hnone).entered⟩

theorem walkAll_spec (hcoherent : Coherent identity trees) (rest : List (Rose α)) (bound : Nat)
    (walker : Walker ι) (hparts : partsAll rest ⊆ trees) (hsize : ∀ tree ∈ rest, tree.size ≤ bound)
    (hbudget : (partsAll rest).length ≤ walker.remaining)
    (hclean : Clean identity visit trees bound walker.seen) :
    (walkAll identity visit rest walker).1 = first visit rest ∧
      (first visit rest = none →
        Searched identity (partsAll rest) walker (walkAll identity visit rest walker).2) := by
  match rest with
  | [] =>
    rw [walkAll, first_nil]
    exact ⟨rfl, fun _ => ⟨Nat.le_add_right _ _, fun id hid => .inl hid⟩⟩
  | tree :: rest =>
    rw [partsAll] at hparts hbudget ⊢
    rw [List.length_append] at hbudget
    have htree : tree.parts ⊆ trees := List.Subset.trans (List.subset_append_left _ _) hparts
    have hspec := walk_spec hcoherent tree bound walker htree (hsize tree List.mem_cons_self)
      (Nat.le_trans (Nat.le_add_right _ _) hbudget) hclean
    obtain ⟨hfirst, hsearched⟩ := hspec
    rw [walkAll, first_cons]
    generalize walk identity visit tree walker = result at hfirst hsearched
    obtain ⟨found, after⟩ := result
    cases found with
    | some found => simp [← hfirst]
    | none =>
      have h : Searched identity tree.parts walker after := hsearched hfirst.symm
      have hafter : Clean identity visit trees bound after.seen :=
        hclean.searched hcoherent htree (fun part hpart => first_part hfirst.symm hpart) h
      have hleft : (partsAll rest).length ≤ after.remaining := by
        have := h.spent
        omega
      have hrest := walkAll_spec hcoherent rest bound after
        (List.Subset.trans (List.subset_append_right _ _) hparts)
        (fun other hother => hsize other (List.mem_cons_of_mem tree hother)) hleft hafter
      rw [← hfirst]
      simp only [Option.none_or]
      exact ⟨hrest.1, fun hnone => h.append (hrest.2 hnone)⟩

end

mutual

theorem walk_some (tree : Rose α) (walker : Walker ι) {value : β}
    (h : (walk identity visit tree walker).1 = some value) :
    ∃ part ∈ tree.parts, visit part.label = some value := by
  match tree with
  | .node label children =>
    rw [walk] at h
    rw [parts]
    split at h
    · cases h
    · split at h
      · cases h
      · cases hvisit : visit label with
        | some found =>
          rw [hvisit] at h
          exact ⟨_, List.mem_cons_self, hvisit.trans h⟩
        | none =>
          rw [hvisit] at h
          obtain ⟨part, hpart, hfound⟩ := walkAll_some children _ h
          exact ⟨part, List.mem_cons_of_mem _ hpart, hfound⟩

theorem walkAll_some (rest : List (Rose α)) (walker : Walker ι) {value : β}
    (h : (walkAll identity visit rest walker).1 = some value) :
    ∃ part ∈ partsAll rest, visit part.label = some value := by
  match rest with
  | [] => simp [walkAll] at h
  | tree :: rest =>
    rw [walkAll] at h
    rw [partsAll]
    have htree (found : β) (hfound : (walk identity visit tree walker).1 = some found) :=
      walk_some tree walker hfound
    generalize walk identity visit tree walker = result at h htree
    obtain ⟨found, after⟩ := result
    cases found with
    | some found =>
      obtain ⟨part, hpart, hvisit⟩ := htree found rfl
      exact ⟨part, List.mem_append_left _ hpart, hvisit.trans h⟩
    | none =>
      obtain ⟨part, hpart, hfound⟩ := walkAll_some rest after h
      exact ⟨part, List.mem_append_right _ hpart, hfound⟩

end

/-- Within the budget, the search finds the first label that gives a value. -/
theorem walk_eq_first {tree : Rose α} (hcoherent : Coherent identity tree.parts) {budget : Nat}
    (hbudget : tree.size ≤ budget) :
    (walk identity visit tree ⟨[], budget⟩).1 = first visit [tree] := by
  refine (walk_spec hcoherent tree tree.size ⟨[], budget⟩ (List.Subset.refl _) (Nat.le_refl _)
    hbudget ?_).1
  intro id hid
  simp at hid

end Walk

end Rose

end Goshop.Lib
