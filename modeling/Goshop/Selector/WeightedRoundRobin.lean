import Goshop.Lib.RoundRobin

/-! The weighted round robin balancer. It keeps a current weight for each address;
the weights are whole numbers whose sums a `float64` holds exactly. -/
namespace Goshop.Selector.WeightedRoundRobin

open Goshop.Lib Goshop.Lib.Run

section Model

structure Node where
  address : String
  initialWeight : Option Int
deriving DecidableEq, Repr

def defaultWeight : Int := 100

def Node.weight (node : Node) : Int :=
  node.initialWeight.getD defaultWeight

inductive SelectorError where
  | errNoAvailable
deriving DecidableEq, Repr

/-- An address that is not in the map has weight 0. -/
structure Balancer where
  currentWeight : String → Int

def build : Balancer where
  currentWeight _ := 0

structure Scan where
  currentWeight : String → Int
  totalWeight : Int := 0
  selected : Option Node := none
  selectWeight : Int := 0

def visit (scan : Scan) (node : Node) : Scan :=
  let cwt := scan.currentWeight node.address + node.weight
  let better := scan.selected = none ∨ scan.selectWeight < cwt
  { currentWeight := Function.update scan.currentWeight node.address cwt
    totalWeight := scan.totalWeight + node.weight
    selected := if better then some node else scan.selected
    selectWeight := if better then cwt else scan.selectWeight }

def scanAll (balancer : Balancer) (nodes : List Node) : Scan :=
  nodes.foldl visit { currentWeight := balancer.currentWeight }

def pick (balancer : Balancer) (nodes : List Node) : Except SelectorError Node × Balancer :=
  let scan := scanAll balancer nodes
  match scan.selected with
  -- Only an empty list selects nothing; it is refused before the loop.
  | none => (.error .errNoAvailable, balancer)
  | some selected =>
    (.ok selected, ⟨Function.update scan.currentWeight selected.address
      (scan.selectWeight - scan.totalWeight)⟩)

def picks (nodes : List Node) : Nat → Balancer → List (Except SelectorError Node) × Balancer
  | 0, balancer => ([], balancer)
  | n + 1, balancer =>
    let first := pick balancer nodes
    let rest := picks nodes n first.2
    (first.1 :: rest.1, rest.2)

theorem picks_add (nodes : List Node) (m n : Nat) (balancer : Balancer) :
    picks nodes (m + n) balancer =
      ((picks nodes m balancer).1 ++ (picks nodes n (picks nodes m balancer).2).1,
        (picks nodes n (picks nodes m balancer).2).2) := by
  induction m generalizing balancer with
  | zero => simp [picks]
  | succ m ih =>
    rw [Nat.succ_add]
    simp [picks, ih]

theorem length_picks (nodes : List Node) (n : Nat) (balancer : Balancer) :
    (picks nodes n balancer).1.length = n := by
  induction n generalizing balancer with
  | zero => rfl
  | succ n ih => simp [picks, ih]

end Model

section Pick

def raised (before : String → Int) (node : Node) : Int :=
  before node.address + node.weight

structure Scanned (before : String → Int) (seen : List Node) (scan : Scan) : Prop where
  weights : ∀ node ∈ seen, scan.currentWeight node.address = raised before node
  others : ∀ address ∉ seen.map (·.address), scan.currentWeight address = before address
  total : scan.totalWeight = (seen.map Node.weight).sum
  selected : seen = [] ∧ scan.selected = none ∨
    ∃ best ∈ seen, scan.selected = some best ∧ scan.selectWeight = raised before best ∧
      ∀ node ∈ seen, raised before node ≤ scan.selectWeight

variable {before : String → Int} {seen nodes : List Node} {scan : Scan} {node : Node}

theorem Scanned.visit_selected (h : Scanned before seen scan)
    (fresh : scan.currentWeight node.address = before node.address) :
    ∃ best ∈ seen ++ [node], (visit scan node).selected = some best ∧
      (visit scan node).selectWeight = raised before best ∧
      ∀ other ∈ seen ++ [node],
        raised before other ≤ (visit scan node).selectWeight := by
  have hcwt : scan.currentWeight node.address + node.weight =
      raised before node := by rw [fresh, raised]
  simp only [visit, hcwt]
  rcases h.selected with ⟨rfl, hnone⟩ | ⟨best, hbest, hsome, hweight, hmax⟩
  · refine ⟨node, List.mem_append_right _ List.mem_cons_self, ?_⟩
    simp [hnone]
  · by_cases hbetter : scan.selectWeight < raised before node
    · refine ⟨node, List.mem_append_right _ List.mem_cons_self, ?_⟩
      simp only [hbetter, or_true, if_true, true_and]
      intro other hother
      rcases List.mem_append.mp hother with hold | hnew
      · exact (hmax other hold).trans hbetter.le
      · rw [List.mem_singleton.mp hnew]
    · have hkeep : ¬(scan.selected = none ∨ scan.selectWeight < raised before node) := by
        simp [hsome, hbetter]
      simp only [if_neg hkeep]
      refine ⟨best, List.mem_append_left _ hbest, hsome, hweight, ?_⟩
      intro other hother
      rcases List.mem_append.mp hother with hold | hnew
      · exact hmax other hold
      · rw [List.mem_singleton.mp hnew]
        exact not_lt.mp hbetter

theorem Scanned.visit (h : Scanned before seen scan)
    (distinct : node.address ∉ seen.map (·.address)) :
    Scanned before (seen ++ [node]) (visit scan node) := by
  have hfresh := h.others node.address distinct
  refine ⟨?_, ?_, ?_, .inr (h.visit_selected hfresh)⟩
  · intro other hother
    rcases List.mem_append.mp hother with hold | hnew
    · have hne : other.address ≠ node.address := by
        intro heq
        exact distinct (heq ▸ List.mem_map_of_mem hold)
      exact (Function.update_of_ne hne _ _).trans (h.weights other hold)
    · rw [List.mem_singleton.mp hnew]
      exact (Function.update_self _ _ _).trans (by rw [hfresh, raised])
  · intro address hother
    rw [List.map_append, List.mem_append, not_or] at hother
    have hne : address ≠ node.address := by simpa using hother.2
    exact (Function.update_of_ne hne _ _).trans (h.others address hother.1)
  · simp [WeightedRoundRobin.visit, h.total]

theorem scanAll_scanned (balancer : Balancer) (distinct : (nodes.map (·.address)).Nodup) :
    Scanned balancer.currentWeight nodes (scanAll balancer nodes) := by
  induction nodes using List.reverseRecOn with
  | nil => exact ⟨List.forall_mem_nil _, fun _ _ => rfl, rfl, .inl ⟨rfl, rfl⟩⟩
  | append_singleton seen node ih =>
    rw [List.map_append, List.nodup_append] at distinct
    rw [scanAll, List.foldl_append]
    refine (ih distinct.1).visit fun hmem => ?_
    exact distinct.2.2 _ hmem _ List.mem_cons_self rfl

end Pick

section Rounds

variable {nodes : List Node} {balancer : Balancer}

def balances (balancer : Balancer) (node : Node) : Int :=
  balancer.currentWeight node.address

/-- A pick is a turn of the abstract round robin, and touches no other address. -/
theorem pick_advances (hne : nodes ≠ []) (distinct : (nodes.map (·.address)).Nodup)
    (balancer : Balancer) :
    ∃ best balancer', pick balancer nodes = (.ok best, balancer') ∧
      RoundRobin.Highest nodes.toFinset Node.weight (balances balancer) best ∧
      (∀ node ∈ nodes, balances balancer' node =
        RoundRobin.advance nodes.toFinset Node.weight (balances balancer) best node) ∧
      ∀ address ∉ nodes.map (·.address),
        balancer'.currentWeight address = balancer.currentWeight address := by
  have hscan := scanAll_scanned balancer distinct
  obtain ⟨best, hbest, hselected, hweight, hmax⟩ :=
    hscan.selected.resolve_left fun hempty => hne hempty.1
  have htotal : (scanAll balancer nodes).totalWeight =
      RoundRobin.total nodes.toFinset Node.weight := by
    rw [hscan.total, RoundRobin.total, List.sum_toFinset _ (List.Nodup.of_map _ distinct)]
  refine ⟨best, ⟨Function.update (scanAll balancer nodes).currentWeight best.address
    ((scanAll balancer nodes).selectWeight - (scanAll balancer nodes).totalWeight)⟩,
    by simp only [pick, hselected], ⟨by simpa using hbest, ?_⟩, ?_, ?_⟩
  · intro node hnode
    have hle := hmax node (by simpa using hnode)
    rwa [hweight] at hle
  · intro node hnode
    unfold RoundRobin.advance balances
    rw [← htotal]
    by_cases heq : node = best
    · subst heq
      simp [hweight, raised]
    · have haddress : node.address ≠ best.address := fun hsame =>
        heq (List.inj_on_of_nodup_map distinct hnode hbest hsame)
      simp [heq, haddress, hscan.weights node hnode, raised]
  · intro address hother
    have hne : address ≠ best.address := by
      rintro rfl
      exact hother (List.mem_map_of_mem hbest)
    exact (Function.update_of_ne hne _ _).trans (hscan.others address hother)

theorem picks_advance (hne : nodes ≠ []) (distinct : (nodes.map (·.address)).Nodup) (n : Nat)
    (balancer : Balancer) {balance : Node → Int}
    (same : ∀ node ∈ nodes, balances balancer node = balance node) :
    ∃ chosen : List Node, (picks nodes n balancer).1 = chosen.map .ok ∧
      Along (RoundRobin.advance nodes.toFinset Node.weight)
        (RoundRobin.Highest nodes.toFinset Node.weight) balance chosen ∧
      (∀ node ∈ nodes, balances (picks nodes n balancer).2 node =
        run (RoundRobin.advance nodes.toFinset Node.weight) balance chosen node) ∧
      ∀ address ∉ nodes.map (·.address),
        (picks nodes n balancer).2.currentWeight address = balancer.currentWeight address := by
  induction n generalizing balancer balance with
  | zero => exact ⟨[], rfl, trivial, same, fun _ _ => rfl⟩
  | succ n ih =>
    obtain ⟨best, balancer', hpick, highest, hadvance, hothers⟩ :=
      pick_advances hne distinct balancer
    -- The abstract turn also raises what is not a node; only the nodes are compared.
    have hsame' : ∀ node ∈ nodes, balances balancer' node =
        RoundRobin.advance nodes.toFinset Node.weight balance best node := by
      intro node hnode
      rw [hadvance node hnode, RoundRobin.advance, RoundRobin.advance, same node hnode]
    obtain ⟨chosen, hresults, halong, hfinal, hrest⟩ := ih balancer' hsame'
    have hfirst : RoundRobin.Highest nodes.toFinset Node.weight balance best :=
      highest.congr fun node hnode => same node (List.mem_toFinset.mp hnode)
    simp only [picks, hpick]
    refine ⟨best :: chosen, ?_, ⟨hfirst, halong⟩, hfinal, fun address hother => ?_⟩
    · rw [hresults, List.map_cons]
    · rw [hrest address hother, hothers address hother]

def roundLength (nodes : List Node) : Nat :=
  (nodes.map Node.weight).sum.toNat

variable (distinct : (nodes.map (·.address)).Nodup) (positive : ∀ node ∈ nodes, 0 < node.weight)
include distinct positive

omit distinct in
theorem roundLength_eq : (roundLength nodes : Int) = (nodes.map Node.weight).sum :=
  Int.toNat_of_nonneg (List.sum_nonneg (by simpa using fun node hnode => (positive node hnode).le))

theorem round_fair :
    (∀ node ∈ nodes, ((picks nodes (roundLength nodes) build).1.count (.ok node) : Int) =
      node.weight) ∧ (picks nodes (roundLength nodes) build).2 = build := by
  by_cases hne : nodes = []
  · subst hne
    exact ⟨List.forall_mem_nil _, rfl⟩
  have hstart : ∀ node ∈ nodes, balances build node = (0 : Node → Int) node := fun _ _ => rfl
  obtain ⟨chosen, hresults, halong, hfinal, hothers⟩ :=
    picks_advance hne distinct (roundLength nodes) build hstart
  have hround : (chosen.length : Int) = RoundRobin.total nodes.toFinset Node.weight := by
    have hlength := length_picks nodes (roundLength nodes) build
    rw [hresults, List.length_map] at hlength
    rw [hlength, roundLength_eq positive, RoundRobin.total,
      List.sum_toFinset _ (List.Nodup.of_map _ distinct)]
  have hfair : ∀ node ∈ nodes, (chosen.count node : Int) = node.weight ∧
      run (RoundRobin.advance nodes.toFinset Node.weight) 0 chosen node = 0 := by
    intro node hnode
    exact RoundRobin.round_fair (by simpa using positive) halong hround
      (List.mem_toFinset.mpr hnode)
  constructor
  · intro node hnode
    rw [hresults, List.count_map_of_injective chosen _ fun _ _ => Except.ok.inj]
    exact (hfair node hnode).1
  · have hzero : (picks nodes (roundLength nodes) build).2.currentWeight = fun _ => 0 := by
      funext address
      by_cases hmem : address ∈ nodes.map (·.address)
      · obtain ⟨node, hnode, rfl⟩ := List.mem_map.mp hmem
        exact (hfinal node hnode).trans (hfair node hnode).2
      · exact hothers address hmem
    exact congrArg Balancer.mk hzero

theorem rounds_return (k : Nat) : (picks nodes (k * roundLength nodes) build).2 = build := by
  induction k with
  | zero => rw [Nat.zero_mul, picks]
  | succ k ih =>
    rw [Nat.succ_mul, picks_add, ih]
    exact (round_fair distinct positive).2

end Rounds

/-- In every round of as many picks as the weights add up to, each node is picked
as often as its weight says, and between the rounds all current weights are 0. -/
theorem weighted_fair (nodes : List Node) (distinct : (nodes.map (·.address)).Nodup)
    (positive : ∀ node ∈ nodes, 0 < node.weight) (k : Nat) :
    (∀ node ∈ nodes, (((picks nodes ((k + 1) * roundLength nodes) build).1.drop
      (k * roundLength nodes)).count (.ok node) : Int) = node.weight) ∧
    ∀ address, (picks nodes (k * roundLength nodes) build).2.currentWeight address = 0 := by
  have hback := rounds_return distinct positive k
  refine ⟨fun node hnode => ?_, fun address => by rw [hback, build]⟩
  have hblock : (picks nodes ((k + 1) * roundLength nodes) build).1.drop
      (k * roundLength nodes) = (picks nodes (roundLength nodes) build).1 := by
    rw [Nat.succ_mul, picks_add, hback]
    exact List.drop_left' (length_picks nodes _ build)
  rw [hblock]
  exact (round_fair distinct positive).1 node hnode

/-- Three nodes, of which one has no weight of its own. -/
theorem weighted_fair_default_weight :
    let nodes : List Node := [⟨"10.0.0.1:80", some 300⟩, ⟨"10.0.0.2:80", none⟩,
      ⟨"10.0.0.3:80", some 100⟩]
    roundLength nodes = 500 ∧
      ((∀ node ∈ nodes, (((picks nodes (4 * roundLength nodes) build).1.drop
        (3 * roundLength nodes)).count (.ok node) : Int) = node.weight) ∧
      ∀ address, (picks nodes (3 * roundLength nodes) build).2.currentWeight address = 0) :=
  ⟨by decide, weighted_fair _ (by decide) (by decide) 3⟩

example : (picks [⟨"a", some 5⟩, ⟨"b", some 1⟩, ⟨"c", some 1⟩] 7 build).1.map
    (fun result => (result.toOption.map (·.address)).getD "") =
      ["a", "a", "b", "a", "c", "a", "a"] := by
  decide +kernel

end Goshop.Selector.WeightedRoundRobin
