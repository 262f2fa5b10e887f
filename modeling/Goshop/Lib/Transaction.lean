import Mathlib.Data.List.Basic

/-! Database transactions over an explicit state. The body of a transaction is
a state transformer that may fail; a failed body leaves no trace, because the
state it was working on is dropped. Calls over a network add two more ways to
fail, before and after the callee has done its work. -/
namespace Goshop.Lib.Transaction

section Except

variable {ε α β : Type}

theorem except_bind_ok {result : Except ε α} {next : α → Except ε β} {value : β} :
    (result >>= next) = .ok value ↔ ∃ first, result = .ok first ∧ next first = .ok value := by
  cases result <;> simp [bind, Except.bind]

theorem except_map_ok {result : Except ε α} {f : α → β} {value : β}
    (h : result.map f = .ok value) : ∃ given, result = .ok given ∧ f given = value := by
  cases result with
  | error err => cases h
  | ok given => exact ⟨given, rfl, Except.ok.inj h⟩

theorem mapM_ok {f : α → Except ε β} {values : List α} {results : List β}
    (h : values.mapM f = .ok results) :
    results.length = values.length ∧ ∀ result ∈ results, ∃ value ∈ values, f value = .ok result := by
  induction values generalizing results with
  | nil =>
    cases h
    simp
  | cons value rest ih =>
    rw [List.mapM_cons] at h
    obtain ⟨first, hfirst, h⟩ := except_bind_ok.mp h
    obtain ⟨others, hothers, h⟩ := except_bind_ok.mp h
    cases h
    obtain ⟨hlength, hmem⟩ := ih hothers
    refine ⟨by simp [hlength], ?_⟩
    intro result hresult
    rcases List.mem_cons.mp hresult with rfl | hrest
    · exact ⟨value, by simp, hfirst⟩
    · obtain ⟨given, hgiven, hok⟩ := hmem result hrest
      exact ⟨given, by simp [hgiven], hok⟩

end Except

/-- The statements between `BEGIN` and `COMMIT`. -/
def Txn (ε σ α : Type) := σ → Except ε (α × σ)

namespace Txn

variable {ε σ α β : Type}

instance : Monad (Txn ε σ) where
  pure value := fun state => .ok (value, state)
  bind first next := fun state =>
    match first state with
    | .ok (value, mid) => next value mid
    | .error err => .error err

def fail (err : ε) : Txn ε σ α := fun _ => .error err

def read : Txn ε σ σ := fun state => .ok (state, state)

def write (state : σ) : Txn ε σ Unit := fun _ => .ok ((), state)

def lift (result : Except ε α) : Txn ε σ α := fun state => result.map (·, state)

def guard (passed : Bool) (err : ε) : Txn ε σ Unit :=
  if passed then pure () else fail err

def when (condition : Bool) (body : Txn ε σ Unit) : Txn ε σ Unit :=
  if condition then body else pure ()

def mapError (change : ε → ε) (body : Txn ε σ α) : Txn ε σ α :=
  fun state => (body state).mapError change

@[simp] theorem pure_ok {value : α} {state : σ} {result : α × σ} :
    (pure value : Txn ε σ α) state = .ok result ↔ (value, state) = result := by
  change Except.ok (value, state) = Except.ok result ↔ _
  simp

@[simp] theorem fail_ok {err : ε} {state : σ} {result : α × σ} :
    (fail err : Txn ε σ α) state = .ok result ↔ False := by
  simp [fail]

@[simp] theorem read_ok {state : σ} {result : σ × σ} :
    (read : Txn ε σ σ) state = .ok result ↔ (state, state) = result := by
  simp [read]

@[simp] theorem write_ok {next state : σ} {result : Unit × σ} :
    (write next : Txn ε σ Unit) state = .ok result ↔ ((), next) = result := by
  simp [write]

@[simp] theorem lift_ok {outcome : Except ε α} {state : σ} {result : α × σ} :
    (lift outcome : Txn ε σ α) state = .ok result ↔
      outcome = .ok result.1 ∧ state = result.2 := by
  obtain ⟨value, state'⟩ := result
  cases outcome <;> simp [lift, Except.map]

@[simp] theorem guard_ok {passed : Bool} {err : ε} {state : σ} {result : Unit × σ} :
    (guard passed err : Txn ε σ Unit) state = .ok result ↔
      passed = true ∧ ((), state) = result := by
  cases passed <;> simp [guard]

@[simp] theorem when_ok {condition : Bool} {body : Txn ε σ Unit} {state : σ}
    {result : Unit × σ} :
    when condition body state = .ok result ↔
      if condition then body state = .ok result else ((), state) = result := by
  cases condition <;> simp [when]

@[simp] theorem when_true (body : Txn ε σ Unit) : when true body = body := rfl

theorem mapError_of_ok {change : ε → ε} {body : Txn ε σ α} {state : σ} {result : α × σ}
    (h : body state = .ok result) : mapError change body state = .ok result := by
  simp [mapError, h, Except.mapError]

@[simp] theorem mapError_ok {change : ε → ε} {body : Txn ε σ α} {state : σ} {result : α × σ} :
    mapError change body state = .ok result ↔ body state = .ok result := by
  unfold mapError
  cases body state <;> simp [Except.mapError]

@[simp] theorem bind_ok {first : Txn ε σ α} {next : α → Txn ε σ β} {state : σ}
    {result : β × σ} :
    (first >>= next) state = .ok result ↔
      ∃ value mid, first state = .ok (value, mid) ∧ next value mid = .ok result := by
  change (match first state with
    | .ok (value, mid) => next value mid
    | .error err => .error err) = .ok result ↔ _
  split
  · rename_i value mid h
    simp [h]
  · rename_i err h
    simp [h]

@[simp] theorem read_bind (next : σ → Txn ε σ β) (state : σ) :
    (read >>= next) state = next state state := rfl

@[simp] theorem write_bind (next : Unit → Txn ε σ β) (written state : σ) :
    (write written >>= next) state = next () written := rfl

@[simp] theorem pure_bind (value : α) (next : α → Txn ε σ β) (state : σ) :
    ((pure value : Txn ε σ α) >>= next) state = next value state := rfl

@[simp] theorem guard_bind_ok {passed : Bool} {err : ε} {next : Unit → Txn ε σ β} {state : σ}
    {result : β × σ} :
    (guard passed err >>= next) state = .ok result ↔
      passed = true ∧ next () state = .ok result := by
  cases passed <;> simp [guard]

@[simp] theorem lift_bind_ok {outcome : Except ε α} {next : α → Txn ε σ β} {state : σ}
    {result : β × σ} :
    (lift outcome >>= next) state = .ok result ↔
      ∃ value, outcome = .ok value ∧ next value state = .ok result := by
  cases outcome <;> simp [lift, Except.map]

@[simp] theorem lift_ok_bind (value : α) (next : α → Txn ε σ β) (state : σ) :
    (lift (.ok value) >>= next) state = next value state := rfl

@[simp] theorem lift_error_bind (err : ε) (next : α → Txn ε σ β) (state : σ) :
    (lift (.error err) >>= next) state = .error err := rfl

@[simp] theorem guard_true_bind (err : ε) (next : Unit → Txn ε σ β) (state : σ) :
    (guard true err >>= next) state = next () state := rfl

@[simp] theorem guard_false_bind (err : ε) (next : Unit → Txn ε σ β) (state : σ) :
    (guard false err >>= next) state = .error err := rfl

theorem bind_of_ok {first : Txn ε σ α} {next : α → Txn ε σ β} {state mid : σ} {value : α}
    (h : first state = .ok (value, mid)) : (first >>= next) state = next value mid := by
  change (match first state with
    | .ok (value, mid) => next value mid
    | .error err => .error err) = _
  rw [h]

theorem bind_of_error {first : Txn ε σ α} {next : α → Txn ε σ β} {state : σ} {err : ε}
    (h : first state = .error err) : (first >>= next) state = .error err := by
  change (match first state with
    | .ok (value, mid) => next value mid
    | .error err => .error err) = _
  rw [h]

/-- The loop rule: an invariant indexed by the items already processed. -/
theorem forM_ok {body : α → Txn ε σ Unit} {items : List α} {state state' : σ}
    (inv : List α → σ → Prop) (initial : inv [] state)
    (keeps : ∀ done item mid mid', item ∈ items → inv done mid →
      body item mid = .ok ((), mid') → inv (done ++ [item]) mid')
    (h : (forM items body : Txn ε σ Unit) state = .ok ((), state')) : inv items state' := by
  suffices ∀ rest done mid, (∀ item ∈ rest, item ∈ items) → inv done mid →
      (forM rest body : Txn ε σ Unit) mid = .ok ((), state') → inv (done ++ rest) state' by
    simpa using this items [] state (fun _ hitem => hitem) initial h
  intro rest
  induction rest with
  | nil =>
    intro done mid _ hinv hrun
    rw [List.forM_nil, pure_ok] at hrun
    cases hrun
    simpa using hinv
  | cons item rest ih =>
    intro done mid hsub hinv hrun
    rw [List.forM_cons, bind_ok] at hrun
    obtain ⟨value, mid', hitem, hrest⟩ := hrun
    have hnext := keeps done item mid mid' (hsub item (by simp)) hinv hitem
    simpa using ih (done ++ [item]) mid' (fun other hother => hsub other (by simp [hother]))
      hnext hrest

theorem forM_total {body : α → Txn ε σ Unit} {items : List α} {state : σ}
    (inv : List α → σ → Prop) (initial : inv [] state)
    (runs : ∀ done item rest mid, items = done ++ item :: rest → inv done mid →
      ∃ mid', body item mid = .ok ((), mid') ∧ inv (done ++ [item]) mid') :
    ∃ state', (forM items body : Txn ε σ Unit) state = .ok ((), state') ∧ inv items state' := by
  suffices ∀ rest done mid, items = done ++ rest → inv done mid →
      ∃ state', (forM rest body : Txn ε σ Unit) mid = .ok ((), state') ∧ inv items state' from
    this items [] state rfl initial
  intro rest
  induction rest with
  | nil =>
    intro done mid hsplit hinv
    simp only [List.append_nil] at hsplit
    exact ⟨mid, rfl, hsplit ▸ hinv⟩
  | cons item rest ih =>
    intro done mid hsplit hinv
    obtain ⟨mid', hitem, hnext⟩ := runs done item rest mid hsplit hinv
    obtain ⟨state', hrest, hend⟩ := ih (done ++ [item]) mid' (by simp [hsplit]) hnext
    refine ⟨state', ?_, hend⟩
    rw [List.forM_cons, bind_of_ok hitem]
    exact hrest

theorem forM_front_ok {body : α → Txn ε σ Unit} {done rest : List α} {state state' : σ}
    (h : (forM (done ++ rest) body : Txn ε σ Unit) state = .ok ((), state')) :
    ∃ mid, (forM done body : Txn ε σ Unit) state = .ok ((), mid) := by
  induction done generalizing state with
  | nil => exact ⟨state, rfl⟩
  | cons item done ih =>
    rw [List.cons_append, List.forM_cons, bind_ok] at h
    obtain ⟨⟨⟩, next, hitem, hrest⟩ := h
    obtain ⟨mid, hmid⟩ := ih hrest
    refine ⟨mid, ?_⟩
    rw [List.forM_cons, bind_of_ok hitem]
    exact hmid

theorem forM_cases (body : α → Txn ε σ Unit) (items : List α) (state : σ) :
    (∃ state', (forM items body : Txn ε σ Unit) state = .ok ((), state')) ∨
      ∃ done item rest mid err, items = done ++ item :: rest ∧
        (forM done body : Txn ε σ Unit) state = .ok ((), mid) ∧ body item mid = .error err ∧
        (forM items body : Txn ε σ Unit) state = .error err := by
  induction items generalizing state with
  | nil => exact .inl ⟨state, rfl⟩
  | cons item rest ih =>
    cases hitem : body item state with
    | error err =>
      refine .inr ⟨[], item, rest, state, err, rfl, rfl, hitem, ?_⟩
      rw [List.forM_cons, bind_of_error hitem]
    | ok result =>
      obtain ⟨⟨⟩, next⟩ := result
      have hcons : ∀ others, (forM (item :: others) body : Txn ε σ Unit) state =
          (forM others body : Txn ε σ Unit) next := by
        intro others
        rw [List.forM_cons, bind_of_ok hitem]
      rcases ih next with ⟨state', h⟩ | ⟨done, stopped, others, mid, err, rfl, hdone, herr, h⟩
      · exact .inl ⟨state', (hcons rest).trans h⟩
      · exact .inr ⟨item :: done, stopped, others, mid, err, rfl, (hcons done).trans hdone, herr,
          (hcons _).trans h⟩

def commit (body : Txn ε σ α) (state : σ) : Except ε α × σ :=
  match body state with
  | .ok (value, state') => (.ok value, state')
  | .error err => (.error err, state)

theorem commit_of_ok {body : Txn ε σ α} {state state' : σ} {value : α}
    (h : body state = .ok (value, state')) : commit body state = (.ok value, state') := by
  simp [commit, h]

theorem commit_of_error {body : Txn ε σ α} {state : σ} {err : ε}
    (h : body state = .error err) : commit body state = (.error err, state) := by
  simp [commit, h]

/-- What a transaction leaves behind: its body's state, or nothing at all. -/
theorem commit_cases (body : Txn ε σ α) (state : σ) :
    (∃ value state', body state = .ok (value, state') ∧
        commit body state = (.ok value, state')) ∨
      ∃ err, body state = .error err ∧ commit body state = (.error err, state) := by
  cases h : body state with
  | ok result => exact .inl ⟨result.1, result.2, rfl, commit_of_ok h⟩
  | error err => exact .inr ⟨err, rfl, commit_of_error h⟩

theorem commit_preserves {inv : σ → Prop} {body : Txn ε σ α} {state : σ} (initial : inv state)
    (keeps : ∀ value state', body state = .ok (value, state') → inv state') :
    inv (commit body state).2 := by
  rcases commit_cases body state with ⟨value, state', hrun, hcommit⟩ | ⟨err, -, hcommit⟩
  · simpa [hcommit] using keeps value state' hrun
  · simpa [hcommit] using initial

end Txn

variable {ε σ α : Type}

/-- How a remote call ends. A call that fails after its effect is one whose
answer was lost. -/
inductive Outcome where
  | ok
  | failBefore
  | failAfter
deriving DecidableEq, Repr

/-- One atomic call; `lost` is what the caller sees when the answer is missing. -/
def call (lost : ε) (outcome : Outcome) (operation : σ → Except ε α × σ) (state : σ) :
    Except ε α × σ :=
  match outcome with
  | .ok => operation state
  | .failBefore => (.error lost, state)
  | .failAfter => (.error lost, (operation state).2)

@[simp] theorem call_okay (lost : ε) (operation : σ → Except ε α × σ) (state : σ) :
    call lost .ok operation state = operation state := rfl

@[simp] theorem call_failBefore (lost : ε) (operation : σ → Except ε α × σ) (state : σ) :
    call lost .failBefore operation state = (.error lost, state) := rfl

@[simp] theorem call_failAfter (lost : ε) (operation : σ → Except ε α × σ) (state : σ) :
    call lost .failAfter operation state = (.error lost, (operation state).2) := rfl

/-- Whatever happens to the answer, the state is the old one or the callee's. -/
theorem call_state (lost : ε) (outcome : Outcome) (operation : σ → Except ε α × σ) (state : σ) :
    (call lost outcome operation state).2 = state ∨
      (call lost outcome operation state).2 = (operation state).2 := by
  cases outcome <;> simp

theorem call_reads {lost : ε} {outcome : Outcome} {operation : σ → Except ε α × σ} {state : σ}
    (h : (operation state).2 = state) : (call lost outcome operation state).2 = state := by
  cases outcome <;> simp [h]

theorem call_preserves {inv : σ → Prop} (lost : ε) (outcome : Outcome)
    {operation : σ → Except ε α × σ} {state : σ} (initial : inv state)
    (keeps : inv (operation state).2) : inv (call lost outcome operation state).2 := by
  rcases call_state lost outcome operation state with h | h <;> rw [h] <;> assumption

theorem call_value {lost : ε} {outcome : Outcome} {operation : σ → Except ε α × σ} {state : σ}
    {value : α} (h : (call lost outcome operation state).1 = .ok value) :
    outcome = .ok ∧ (operation state).1 = .ok value := by
  cases outcome <;> simp_all

end Goshop.Lib.Transaction
