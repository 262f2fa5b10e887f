import Mathlib.Data.List.Basic

/-! Finite runs of a labelled step function. A run is a list of labels; a
condition on the steps of a run is read in the state each step is taken from,
so every safety statement below is about all states on the way and not only
about the last one. -/
namespace Goshop.Lib.Run

variable {σ ℓ : Type*} (step : σ → ℓ → σ)

def run (start : σ) (labels : List ℓ) : σ :=
  labels.foldl step start

@[simp] theorem run_nil (start : σ) : run step start [] = start := rfl

@[simp] theorem run_cons (start : σ) (label : ℓ) (rest : List ℓ) :
    run step start (label :: rest) = run step (step start label) rest := rfl

theorem run_append (start : σ) (first second : List ℓ) :
    run step start (first ++ second) = run step (run step start first) second := by
  simp [run, List.foldl_append]

/-- Every step of the run meets `ok` in the state it is taken from. -/
def Along (ok : σ → ℓ → Prop) : σ → List ℓ → Prop
  | _, [] => True
  | state, label :: rest => ok state label ∧ Along ok (step state label) rest

instance decidableAlong (ok : σ → ℓ → Prop) [∀ state label, Decidable (ok state label)] :
    (state : σ) → (labels : List ℓ) → Decidable (Along step ok state labels)
  | _, [] => .isTrue trivial
  | state, label :: rest =>
      have : Decidable (Along step ok (step state label) rest) :=
        decidableAlong ok (step state label) rest
      inferInstanceAs (Decidable (ok state label ∧ Along step ok (step state label) rest))

/-- The step function of actions that are possible in some states only; in the
others nothing happens. -/
def guarded (fire : σ → ℓ → Option σ) (state : σ) (label : ℓ) : σ :=
  (fire state label).getD state

theorem of_guard {possible : Prop} [Decidable possible] {value next : σ}
    (h : (if possible then some value else none) = some next) : possible ∧ value = next := by
  rwa [Option.ite_none_right_eq_some, Option.some.injEq] at h

theorem guarded_keeps {fire : σ → ℓ → Option σ} {inv : σ → Prop} {state : σ} {label : ℓ}
    (h : inv state) (keeps : ∀ next, fire state label = some next → inv next) :
    inv (guarded fire state label) := by
  unfold guarded
  cases hfire : fire state label with
  | none => exact h
  | some next => exact keeps next hfire

variable {step} {ok : σ → ℓ → Prop} {start : σ}

theorem along_append {first second : List ℓ} :
    Along step ok start (first ++ second) ↔
      Along step ok start first ∧ Along step ok (run step start first) second := by
  induction first generalizing start with
  | nil => simp [Along]
  | cons label rest ih => simp [Along, ih, and_assoc]

/-- The induction every safety proof uses: what holds at the start and is kept
by each admitted step holds at the end. -/
theorem Along.invariant {inv : σ → Prop} {labels : List ℓ}
    (keeps : ∀ state label, inv state → ok state label → inv (step state label))
    (initial : inv start) (along : Along step ok start labels) :
    inv (run step start labels) := by
  induction labels generalizing start with
  | nil => exact initial
  | cons label rest ih =>
    obtain ⟨hok, hrest⟩ := along
    exact ih (keeps start label initial hok) hrest

/-- An invariant of the admitted steps may be used to show that each of them
also meets a second condition. -/
theorem Along.strengthen {inv : σ → Prop} {goal : σ → ℓ → Prop} {labels : List ℓ}
    (keeps : ∀ state label, inv state → ok state label → inv (step state label))
    (meets : ∀ state label, inv state → ok state label → goal state label)
    (initial : inv start) (along : Along step ok start labels) :
    Along step goal start labels := by
  induction labels generalizing start with
  | nil => trivial
  | cons label rest ih =>
    obtain ⟨hok, hrest⟩ := along
    exact ⟨meets start label initial hok, ih (keeps start label initial hok) hrest⟩

theorem Along.related (related : σ → σ → Prop) {labels : List ℓ}
    (reflexive : ∀ state, related state state)
    (transitive : ∀ first second third, related first second → related second third →
      related first third)
    (along : Along step (fun state label => related state (step state label)) start labels) :
    related start (run step start labels) := by
  induction labels generalizing start with
  | nil => exact reflexive start
  | cons label rest ih => exact transitive _ _ _ along.1 (ih along.2)

theorem along_of_forall (all : ∀ state label, ok state label) (labels : List ℓ) :
    Along step ok start labels := by
  induction labels generalizing start with
  | nil => trivial
  | cons label rest ih => exact ⟨all start label, ih⟩

theorem along_of_states {inv : σ → Prop} {labels : List ℓ}
    (all : ∀ done, done <+: labels → inv (run step start done)) :
    Along step (fun state label => inv (step state label)) start labels := by
  induction labels generalizing start with
  | nil => trivial
  | cons label rest ih =>
    refine ⟨all [label] (List.prefix_append [label] rest), ih fun done hdone => ?_⟩
    exact all (label :: done) (List.cons_prefix_cons.mpr ⟨rfl, hdone⟩)

theorem Along.mono {ok' : σ → ℓ → Prop} {labels : List ℓ} (h : Along step ok start labels)
    (implies : ∀ state label, ok state label → ok' state label) :
    Along step ok' start labels := by
  induction labels generalizing start with
  | nil => trivial
  | cons label rest ih => exact ⟨implies start label h.1, ih h.2⟩

theorem Along.and {ok' : σ → ℓ → Prop} {labels : List ℓ} (h : Along step ok start labels)
    (h' : Along step ok' start labels) :
    Along step (fun state label => ok state label ∧ ok' state label) start labels := by
  induction labels generalizing start with
  | nil => trivial
  | cons label rest ih => exact ⟨⟨h.1, h'.1⟩, ih h.2 h'.2⟩

theorem run_invariant {inv : σ → Prop} (labels : List ℓ)
    (keeps : ∀ state label, inv state → inv (step state label)) (initial : inv start) :
    inv (run step start labels) :=
  @Along.invariant _ _ step (fun _ _ => True) start inv labels
    (fun state label hinv _ => keeps state label hinv) initial
    (along_of_forall (fun _ _ => trivial) labels)

theorem run_invariant_of_mem {inv : σ → Prop} (labels : List ℓ) (initial : inv start)
    (keeps : ∀ state, ∀ label ∈ labels, inv state → inv (step state label)) :
    inv (run step start labels) := by
  induction labels generalizing start with
  | nil => exact initial
  | cons label rest ih =>
    exact ih (keeps start label List.mem_cons_self initial)
      fun state other hother => keeps state other (List.mem_cons_of_mem label hother)

/-- When a condition on a step is exactly what the step needs to keep the
invariant, the runs that meet it are those that keep it in every state. -/
theorem along_iff_invariant {inv : σ → Prop} (labels : List ℓ) (initial : inv start)
    (keeps : ∀ state label, inv state → (inv (step state label) ↔ ok state label)) :
    (∀ done, done <+: labels → inv (run step start done)) ↔ Along step ok start labels := by
  induction labels generalizing start with
  | nil => simpa [Along] using initial
  | cons label rest ih =>
    rw [Along]
    constructor
    · intro all
      have hnext : inv (step start label) := all [label] (List.prefix_append [label] rest)
      refine ⟨(keeps start label initial).mp hnext, (ih hnext).mp fun done hdone => ?_⟩
      exact all (label :: done) (List.cons_prefix_cons.mpr ⟨rfl, hdone⟩)
    · rintro ⟨hok, hrest⟩ done hdone
      have hnext := (keeps start label initial).mpr hok
      rcases List.prefix_cons_iff.mp hdone with rfl | ⟨later, rfl, hlater⟩
      · exact initial
      · exact (ih hnext).mpr hrest later hlater

/-- A step that misses the condition breaks the run for good: the runs that meet
the condition throughout end in `inv`, and all the others end in `broken`. -/
theorem run_inv_or_broken {inv broken : σ → Prop} {labels : List ℓ}
    (keeps : ∀ state label, inv state → ok state label → inv (step state label))
    (breaks : ∀ state label, inv state → ¬ok state label → broken (step state label))
    (stays : ∀ state label, broken state → broken (step state label)) (initial : inv start) :
    (Along step ok start labels → inv (run step start labels)) ∧
      (¬Along step ok start labels → broken (run step start labels)) := by
  refine ⟨fun along => along.invariant keeps initial, ?_⟩
  induction labels generalizing start with
  | nil => exact fun missed => absurd trivial missed
  | cons label rest ih =>
    intro missed
    by_cases hok : ok start label
    · exact ih (keeps start label initial hok) fun hrest => missed ⟨hok, hrest⟩
    · exact run_invariant rest stays (breaks start label initial hok)

end Goshop.Lib.Run
