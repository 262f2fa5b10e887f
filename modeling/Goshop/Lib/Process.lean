import Goshop.Lib.Run
import Mathlib.Logic.Function.Basic

/-! Sequential programs that touch a shared state only through atomic calls,
and their interleavings. A program is the tree of its calls and of what it does
with each reply, so the remaining program of a thread is its local state. The
rules at the end are those of rely-guarantee reasoning with one relation for
both sides: no thread breaks what another one has learnt. -/
namespace Goshop.Lib.Process

open Goshop.Lib.Run

inductive Proc (Call : Type) (Reply : Call → Type) (α : Type) where
  | ret (value : α)
  | call (request : Call) (next : Reply request → Proc Call Reply α)

variable {Call : Type} {Reply : Call → Type} {α β σ κ ι : Type}

namespace Proc

def bind : Proc Call Reply α → (α → Proc Call Reply β) → Proc Call Reply β
  | .ret value, rest => rest value
  | .call request next, rest => .call request fun reply => (next reply).bind rest

instance : Monad (Proc Call Reply) where
  pure := .ret
  bind := bind

@[simp] theorem pure_eq (value : α) : (pure value : Proc Call Reply α) = .ret value := rfl

@[simp] theorem ret_bind (value : α) (rest : α → Proc Call Reply β) :
    (Proc.ret value >>= rest) = rest value := rfl

@[simp] theorem call_bind (request : Call) (next : Reply request → Proc Call Reply α)
    (rest : α → Proc Call Reply β) :
    (Proc.call request next >>= rest) = .call request fun reply => next reply >>= rest := rfl

theorem bind_assoc {γ : Type} (first : Proc Call Reply α) (second : α → Proc Call Reply β)
    (third : β → Proc Call Reply γ) :
    first >>= second >>= third = first >>= fun value => second value >>= third := by
  induction first with
  | ret value => rfl
  | call request next ih =>
    rw [call_bind, call_bind, call_bind]
    congr 1
    funext reply
    exact ih reply

def send (request : Call) : Proc Call Reply (Reply request) :=
  .call request .ret

@[simp] theorem send_bind (request : Call) (rest : Reply request → Proc Call Reply β) :
    (send request >>= rest) = .call request rest := rfl

def attempt {ε : Type} (result : Except ε α)
    (next : α → Proc Call Reply (Except ε β)) : Proc Call Reply (Except ε β) :=
  match result with
  | .ok value => next value
  | .error err => .ret (.error err)

@[simp] theorem attempt_ok {ε : Type} (value : α)
    (next : α → Proc Call Reply (Except ε β)) : attempt (.ok value) next = next value := rfl

@[simp] theorem attempt_error {ε : Type} (err : ε) (next : α → Proc Call Reply (Except ε β)) :
    attempt (.error err) next = .ret (.error err) := rfl

def finished : Proc Call Reply α → Bool
  | .ret _ => true
  | .call _ _ => false

def result : Proc Call Reply α → Option α
  | .ret value => some value
  | .call _ _ => none

theorem result_eq_some {program : Proc Call Reply α} {value : α} :
    program.result = some value ↔ program = .ret value := by
  cases program <;> simp [result]

/-- Every call the program can come to make satisfies `allowed`. -/
inductive Issues (allowed : Call → Prop) : Proc Call Reply α → Prop
  | ret (value : α) : Issues allowed (.ret value)
  | call {request : Call} {next : Reply request → Proc Call Reply α} (first : allowed request)
    (rest : ∀ reply, Issues allowed (next reply)) : Issues allowed (.call request next)

theorem Issues.first {allowed : Call → Prop} {request : Call}
    {next : Reply request → Proc Call Reply α} (h : (Proc.call request next).Issues allowed) :
    allowed request := by
  cases h with
  | call first _ => exact first

theorem Issues.rest {allowed : Call → Prop} {request : Call}
    {next : Reply request → Proc Call Reply α} (h : (Proc.call request next).Issues allowed)
    (reply : Reply request) : (next reply).Issues allowed := by
  cases h with
  | call _ rest => exact rest reply

theorem issues_true (program : Proc Call Reply α) : program.Issues fun _ => True := by
  induction program with
  | ret value => exact .ret value
  | call request next ih => exact .call trivial ih

theorem Issues.mono {allowed allowed' : Call → Prop} {program : Proc Call Reply α}
    (h : program.Issues allowed) (implies : ∀ request, allowed request → allowed' request) :
    program.Issues allowed' := by
  induction h with
  | ret value => exact .ret value
  | call first _ ih => exact .call (implies _ first) ih

theorem Issues.bind {allowed : Call → Prop} {first : Proc Call Reply α}
    {rest : α → Proc Call Reply β} (hfirst : first.Issues allowed)
    (hrest : ∀ value, (rest value).Issues allowed) : (first >>= rest).Issues allowed := by
  induction hfirst with
  | ret value => exact hrest value
  | call first _ ih => exact .call first ih

theorem Issues.attempt {ε : Type} {allowed : Call → Prop} {result : Except ε α}
    {next : α → Proc Call Reply (Except ε β)}
    (h : ∀ value, result = .ok value → (next value).Issues allowed) :
    (attempt result next).Issues allowed := by
  cases result with
  | ok value => exact h value rfl
  | error err => exact .ret _

/-- Every value the program can come to return satisfies `holds`. -/
inductive Yields (holds : α → Prop) : Proc Call Reply α → Prop
  | ret {value : α} (returned : holds value) : Yields holds (.ret value)
  | call {request : Call} {next : Reply request → Proc Call Reply α}
    (rest : ∀ reply, Yields holds (next reply)) : Yields holds (.call request next)

/-- The rest of a program needs to be looked at only for what its first part can
return. -/
theorem Issues.bind_yields {allowed : Call → Prop} {holds : α → Prop} {first : Proc Call Reply α}
    {rest : α → Proc Call Reply β} (hfirst : first.Issues allowed) (hyields : first.Yields holds)
    (hrest : ∀ value, holds value → (rest value).Issues allowed) :
    (first >>= rest).Issues allowed := by
  induction hfirst with
  | ret value =>
    cases hyields with
    | ret returned => exact hrest value returned
  | call first _ ih =>
    cases hyields with
    | call yields => exact .call first fun reply => ih reply (yields reply)

/-- A program of one component, in a system that has its calls among others. -/
def relabel {Call' : Type} {Reply' : Call' → Type} (f : Call → Call')
    (answer : ∀ request, Reply' (f request) → Reply request) :
    Proc Call Reply α → Proc Call' Reply' α
  | .ret value => .ret value
  | .call request next => .call (f request) fun reply => relabel f answer (next (answer _ reply))

theorem Issues.relabel {Call' : Type} {Reply' : Call' → Type} {f : Call → Call'}
    {answer : ∀ request, Reply' (f request) → Reply request} {allowed : Call → Prop}
    {allowed' : Call' → Prop} (maps : ∀ request, allowed request → allowed' (f request))
    {program : Proc Call Reply α} (h : program.Issues allowed) :
    (program.relabel f answer).Issues allowed' := by
  induction h with
  | ret value => exact .ret value
  | call first _ ih => exact .call (maps _ first) fun reply => ih (answer _ reply)

end Proc

structure Config (σ ι : Type) (Call : Type) (Reply : Call → Type) (α : Type) where
  shared : σ
  threads : ι → Proc Call Reply α

section Interleaving

variable [DecidableEq ι] (exec : (request : Call) → κ → σ → Reply request × σ)

/-- Thread `label.1` makes its next call; `label.2` is what the environment
decides about it. A finished thread does nothing. -/
def move (config : Config σ ι Call Reply α) (label : ι × κ) : Config σ ι Call Reply α :=
  match config.threads label.1 with
  | .ret _ => config
  | .call request next =>
    let result := exec request label.2 config.shared
    ⟨result.2, Function.update config.threads label.1 (next result.1)⟩

variable {exec}

theorem move_finished {config : Config σ ι Call Reply α} {label : ι × κ} {value : α}
    (h : config.threads label.1 = .ret value) : move exec config label = config := by
  simp [move, h]

theorem move_call {config : Config σ ι Call Reply α} {label : ι × κ} {request : Call}
    {next : Reply request → Proc Call Reply α} (h : config.threads label.1 = .call request next) :
    move exec config label =
      ⟨(exec request label.2 config.shared).2, Function.update config.threads label.1
        (next (exec request label.2 config.shared).1)⟩ := by
  simp [move, h]

theorem move_threads (config : Config σ ι Call Reply α) (label : ι × κ) :
    (move exec config label).threads =
      Function.update config.threads label.1 ((move exec config label).threads label.1) := by
  cases hnext : config.threads label.1 with
  | ret value =>
    rw [move_finished hnext]
    exact (Function.update_eq_self label.1 config.threads).symm
  | call request next =>
    rw [move_call hnext]
    simp

theorem move_returned {config : Config σ ι Call Reply α} {thread : ι} {value : α}
    (h : config.threads thread = .ret value) (label : ι × κ) :
    (move exec config label).threads thread = .ret value := by
  cases hnext : config.threads label.1 with
  | ret other =>
    rw [move_finished hnext]
    exact h
  | call request next =>
    have hthread : thread ≠ label.1 := by
      rintro rfl
      rw [h] at hnext
      cases hnext
    rw [move_call hnext]
    exact (Function.update_of_ne hthread _ _).trans h

theorem run_returned {start : Config σ ι Call Reply α} {thread : ι} {value : α}
    (h : start.threads thread = .ret value) (labels : List (ι × κ)) :
    (run (move exec) start labels).threads thread = .ret value := by
  induction labels generalizing start with
  | nil => exact h
  | cons label rest ih => exact ih (move_returned h label)

theorem move_issues {allowed : ι → Call → Prop} {config : Config σ ι Call Reply α}
    (h : ∀ thread, (config.threads thread).Issues (allowed thread)) (label : ι × κ) (thread : ι) :
    ((move exec config label).threads thread).Issues (allowed thread) := by
  cases hnext : config.threads label.1 with
  | ret value =>
    rw [move_finished hnext]
    exact h thread
  | call request next =>
    rw [move_call hnext]
    have hissues := h label.1
    rw [hnext] at hissues
    by_cases hthread : thread = label.1
    · subst hthread
      simpa using hissues.rest _
    · simpa [Function.update_of_ne hthread] using h thread

/-- The call that the step makes is admitted. -/
def Admitted (admits : ι → Call → κ → σ → Prop) (config : Config σ ι Call Reply α)
    (label : ι × κ) : Prop :=
  match config.threads label.1 with
  | .ret _ => True
  | .call request _ => admits label.1 request label.2 config.shared

instance (admits : ι → Call → κ → σ → Prop)
    [∀ thread request choice state, Decidable (admits thread request choice state)]
    (config : Config σ ι Call Reply α) (label : ι × κ) :
    Decidable (Admitted admits config label) :=
  match hnext : config.threads label.1 with
  | .ret _ => .isTrue (by rw [Admitted, hnext]; trivial)
  | .call request _ => decidable_of_iff (admits label.1 request label.2 config.shared)
      (by rw [Admitted, hnext])

omit [DecidableEq ι] in
theorem Admitted.call {admits : ι → Call → κ → σ → Prop} {config : Config σ ι Call Reply α}
    {label : ι × κ} {request : Call} {next : Reply request → Proc Call Reply α}
    (h : Admitted admits config label) (hnext : config.threads label.1 = .call request next) :
    admits label.1 request label.2 config.shared := by
  simpa [Admitted, hnext] using h

theorem along_admitted {admits : ι → Call → κ → σ → Prop}
    (all : ∀ thread request choice state, admits thread request choice state)
    (config : Config σ ι Call Reply α) (labels : List (ι × κ)) :
    Along (move exec) (Admitted admits) config labels := by
  refine along_of_forall (fun config label => ?_) labels
  unfold Admitted
  split
  · trivial
  · exact all _ _ _ _

/-- The shared state meets `inv`, and every thread has only allowed calls left. -/
def Confined (inv : σ → Prop) (allowed : ι → Call → Prop) (config : Config σ ι Call Reply α) :
    Prop :=
  inv config.shared ∧ ∀ thread, (config.threads thread).Issues (allowed thread)

omit [DecidableEq ι] in
theorem Confined.start {inv : σ → Prop} {allowed : ι → Call → Prop} {state : σ}
    {programs : ι → Proc Call Reply α} (initial : inv state)
    (issues : ∀ thread, (programs thread).Issues (allowed thread)) :
    Confined inv allowed ⟨state, programs⟩ :=
  ⟨initial, issues⟩

section Confined

variable {allowed : ι → Call → Prop} {admits : ι → Call → κ → σ → Prop} {inv : σ → Prop}
  (keeps : ∀ thread request choice state, allowed thread request → inv state →
    admits thread request choice state → inv (exec request choice state).2)
include keeps

theorem Confined.move {config : Config σ ι Call Reply α} (h : Confined inv allowed config)
    {label : ι × κ} (admitted : Admitted admits config label) :
    Confined inv allowed (move exec config label) := by
  refine ⟨?_, move_issues h.2 label⟩
  cases hnext : config.threads label.1 with
  | ret value =>
    rw [move_finished hnext]
    exact h.1
  | call request next =>
    have hcall := h.2 label.1
    rw [hnext] at hcall
    rw [move_call hnext]
    exact keeps _ _ _ _ hcall.first h.1 (admitted.call hnext)

/-- An invariant that every allowed call keeps holds after any interleaving. -/
theorem Confined.invariant {start : Config σ ι Call Reply α} {labels : List (ι × κ)}
    (h : Confined inv allowed start)
    (admitted : Along (Process.move exec) (Admitted admits) start labels) :
    inv (run (Process.move exec) start labels).shared := by
  have hend : Confined inv allowed (run (Process.move exec) start labels) :=
    admitted.invariant (fun config label hconfined hok => hconfined.move keeps hok) h
  exact hend.1

theorem Confined.along {goal : σ → σ → Prop} (reflexive : ∀ state, goal state state)
    (meets : ∀ thread request choice state, allowed thread request → inv state →
      admits thread request choice state → goal state (exec request choice state).2)
    {start : Config σ ι Call Reply α} {labels : List (ι × κ)} (h : Confined inv allowed start)
    (admitted : Along (Process.move exec) (Admitted admits) start labels) :
    Along (Process.move exec) (fun config label =>
      goal config.shared (Process.move exec config label).shared) start labels := by
  apply admitted.strengthen _ _ h
  · intro config label hconfined hok
    exact hconfined.move keeps hok
  · intro config label hconfined hok
    cases hnext : config.threads label.1 with
    | ret value =>
      rw [move_finished hnext]
      exact reflexive _
    | call request next =>
      have hcall := hconfined.2 label.1
      rw [hnext] at hcall
      rw [move_call hnext]
      exact meets _ _ _ _ hcall.first hconfined.1 (hok.call hnext)

theorem Confined.ordered {goal : σ → σ → Prop} (reflexive : ∀ state, goal state state)
    (transitive : ∀ first second third, goal first second → goal second third → goal first third)
    (meets : ∀ thread request choice state, allowed thread request → inv state →
      admits thread request choice state → goal state (exec request choice state).2)
    {start : Config σ ι Call Reply α} {earlier later : List (ι × κ)}
    (h : Confined inv allowed start)
    (admitted : Along (Process.move exec) (Admitted admits) start (earlier ++ later)) :
    goal (run (Process.move exec) start earlier).shared
      (run (Process.move exec) start (earlier ++ later)).shared := by
  have hsteps := h.along keeps reflexive meets admitted
  rw [run_append]
  exact Along.related
    (fun first second : Config σ ι Call Reply α => goal first.shared second.shared)
    (fun config => reflexive config.shared)
    (fun first second third => transitive first.shared second.shared third.shared)
    (along_append.mp hsteps).2

end Confined

/-- When its calls are answered by `exec`, every call that the program comes to make
satisfies `allowed`, and every value that it returns `returns`. -/
inductive Proc.Sends (exec : (request : Call) → κ → σ → Reply request × σ)
    (allowed : Call → Prop) (returns : α → Prop) : Proc Call Reply α → Prop
  | ret {value : α} (h : returns value) : Sends exec allowed returns (.ret value)
  | call {request : Call} {next : Reply request → Proc Call Reply α} (first : allowed request)
    (rest : ∀ choice state, Sends exec allowed returns (next (exec request choice state).1)) :
    Sends exec allowed returns (.call request next)

section Sends

variable {allowed : Call → Prop} {returns : α → Prop}

omit [DecidableEq ι] in
theorem Proc.Issues.sends {program : Proc Call Reply α} (h : program.Issues allowed)
    (all : ∀ value, returns value) : program.Sends exec allowed returns := by
  induction h with
  | ret value => exact .ret (all value)
  | call first _ ih => exact .call first fun choice state => ih _

omit [DecidableEq ι] in
theorem Proc.Sends.mono {allowed' : Call → Prop} {program : Proc Call Reply α}
    (h : program.Sends exec allowed returns)
    (implies : ∀ request, allowed request → allowed' request) :
    program.Sends exec allowed' returns := by
  induction h with
  | ret h => exact .ret h
  | call first _ ih => exact .call (implies _ first) ih

omit [DecidableEq ι] in
theorem Proc.Sends.bind {returns' : β → Prop} {first : Proc Call Reply α}
    {rest : α → Proc Call Reply β} (hfirst : first.Sends exec allowed returns)
    (hrest : ∀ value, returns value → (rest value).Sends exec allowed returns') :
    (first >>= rest).Sends exec allowed returns' := by
  induction hfirst with
  | ret h => exact hrest _ h
  | call first _ ih => exact .call first ih

/-- The shared state meets `inv`, and every thread has only allowed calls left. -/
def Sending (exec : (request : Call) → κ → σ → Reply request × σ) (inv : σ → Prop)
    (allowed : ι → Call → Prop) (returns : ι → α → Prop) (config : Config σ ι Call Reply α) :
    Prop :=
  inv config.shared ∧
    ∀ thread, (config.threads thread).Sends exec (allowed thread) (returns thread)

section Threads

variable {allowed : ι → Call → Prop} {returns : ι → α → Prop} {inv : σ → Prop}
  (keeps : ∀ thread request choice state, allowed thread request → inv state →
    inv (exec request choice state).2)
include keeps

theorem Sending.move {config : Config σ ι Call Reply α}
    (h : Sending exec inv allowed returns config) (label : ι × κ) :
    Sending exec inv allowed returns (Process.move exec config label) := by
  obtain ⟨hinv, sends⟩ := h
  cases hnext : config.threads label.1 with
  | ret value =>
    rw [move_finished hnext]
    exact ⟨hinv, sends⟩
  | call request next =>
    have hsends := sends label.1
    rw [hnext] at hsends
    cases hsends with
    | call hfirst hrest =>
      rw [move_call hnext]
      refine ⟨keeps _ _ label.2 _ hfirst hinv, fun thread => ?_⟩
      by_cases hthread : thread = label.1
      · subst hthread
        simpa using hrest label.2 config.shared
      · simpa [Function.update_of_ne hthread] using sends thread

/-- The invariant holds after any interleaving, and a thread that has come to its end
returned what it may. -/
theorem Sending.invariant {start : Config σ ι Call Reply α}
    (h : Sending exec inv allowed returns start) (labels : List (ι × κ)) :
    inv (run (Process.move exec) start labels).shared ∧ ∀ thread value,
      (run (Process.move exec) start labels).threads thread = .ret value →
        returns thread value := by
  have hend : Sending exec inv allowed returns (run (Process.move exec) start labels) :=
    run_invariant labels (fun _ label h => h.move keeps label) h
  refine ⟨hend.1, fun thread value hvalue => ?_⟩
  have hthread := hend.2 thread
  rw [hvalue] at hthread
  cases hthread with
  | ret h => exact h

theorem Sending.admitted {admits : ι → Call → κ → σ → Prop}
    (meets : ∀ thread request choice state, allowed thread request → inv state →
      admits thread request choice state)
    {start : Config σ ι Call Reply α} (h : Sending exec inv allowed returns start)
    (labels : List (ι × κ)) : Along (Process.move exec) (Admitted admits) start labels := by
  induction labels generalizing start with
  | nil => trivial
  | cons label rest ih =>
    refine ⟨?_, ih (h.move keeps label)⟩
    cases hnext : start.threads label.1 with
    | ret value => simp [Admitted, hnext]
    | call request next =>
      have hsends := h.2 label.1
      rw [hnext] at hsends
      cases hsends with
      | call hfirst _ => simpa [Admitted, hnext] using meets _ _ label.2 _ hfirst h.1

end Threads

end Sends

end Interleaving

section RelyGuarantee

variable (exec : (request : Call) → κ → σ → Reply request × σ)
  (admits : Call → κ → σ → Prop) (rely guarantee : σ → σ → Prop)

def Stable (assertion : σ → Prop) : Prop :=
  ∀ state state', assertion state → rely state state' → assertion state'

/-- Started in a state of `pre`, among threads whose steps are all in `rely`,
the program's own admitted steps are in `guarantee`, and a value it returns is
returned in a state of `post`. -/
inductive Safe (post : α → σ → Prop) : (σ → Prop) → Proc Call Reply α → Prop
  | ret {pre : σ → Prop} {value : α} (stable : Stable rely pre)
    (returns : ∀ state, pre state → post value state) : Safe post pre (.ret value)
  | call {pre : σ → Prop} {request : Call} {next : Reply request → Proc Call Reply α}
    (mid : Reply request → σ → Prop) (stable : Stable rely pre)
    (step : ∀ state choice, pre state → admits request choice state →
      guarantee state (exec request choice state).2 ∧
        mid (exec request choice state).1 (exec request choice state).2)
    (rest : ∀ reply, Safe post (mid reply) (next reply)) : Safe post pre (.call request next)

variable {exec admits rely guarantee} {pre : σ → Prop} {post : α → σ → Prop}

theorem Safe.stable {program : Proc Call Reply α}
    (h : Safe exec admits rely guarantee post pre program) : Stable rely pre := by
  cases h with
  | ret stable _ => exact stable
  | call _ stable _ _ => exact stable

theorem Safe.weaken {pre' : σ → Prop} {program : Proc Call Reply α}
    (h : Safe exec admits rely guarantee post pre program) (stable : Stable rely pre')
    (hpre : ∀ state, pre' state → pre state) :
    Safe exec admits rely guarantee post pre' program := by
  cases h with
  | ret _ returns => exact .ret stable fun state hstate => returns state (hpre state hstate)
  | call mid _ step rest =>
    exact .call mid stable (fun state choice hstate => step state choice (hpre state hstate)) rest

theorem Safe.mono {post' : α → σ → Prop} {program : Proc Call Reply α}
    (h : Safe exec admits rely guarantee post pre program)
    (hpost : ∀ value state, post value state → post' value state) :
    Safe exec admits rely guarantee post' pre program := by
  induction h with
  | ret stable returns => exact .ret stable fun state hstate => hpost _ _ (returns state hstate)
  | call mid stable step _ ih => exact .call mid stable step ih

theorem Safe.bind {first : Proc Call Reply α} {rest : α → Proc Call Reply β}
    {mid : α → σ → Prop} {post : β → σ → Prop}
    (hfirst : Safe exec admits rely guarantee mid pre first)
    (hrest : ∀ value, Safe exec admits rely guarantee post (mid value) (rest value)) :
    Safe exec admits rely guarantee post pre (first >>= rest) := by
  induction hfirst with
  | ret stable returns => exact (hrest _).weaken stable returns
  | call link stable step _ ih => exact .call link stable step ih

theorem Safe.vacuous (program : Proc Call Reply α) (empty : ∀ state, ¬pre state) :
    Safe exec admits rely guarantee post pre program := by
  have hstable : Stable rely pre := fun state _ hstate => absurd hstate (empty state)
  induction program generalizing pre with
  | ret value => exact .ret hstable fun state hstate => absurd hstate (empty state)
  | call request next ih =>
    refine .call (fun _ _ => False) hstable ?_ fun reply => ih reply (fun _ => id) ?_
    · intro state _ hstate
      exact absurd hstate (empty state)
    · intro _ _ hstate
      exact hstate.elim

/-- A fact that the precondition implies may be used in the whole proof. -/
theorem Safe.given {fact : Prop} {program : Proc Call Reply α}
    (implied : ∀ state, pre state → fact)
    (h : fact → Safe exec admits rely guarantee post pre program) :
    Safe exec admits rely guarantee post pre program := by
  by_cases hfact : fact
  · exact h hfact
  · exact .vacuous program fun state hstate => hfact (implied state hstate)

theorem Safe.reading {request : Call} {next : Reply request → Proc Call Reply α}
    (reads : ∀ choice state, (exec request choice state).2 = state)
    (reflexive : ∀ state, guarantee state state) (stable : Stable rely pre)
    (rest : ∀ reply, Safe exec admits rely guarantee post pre (next reply)) :
    Safe exec admits rely guarantee post pre (.call request next) := by
  refine .call (fun _ => pre) stable ?_ rest
  intro state choice hstate _
  rw [reads choice state]
  exact ⟨reflexive state, hstate⟩

theorem Safe.attempt {ε : Type} {result : Except ε α} {next : α → Proc Call Reply (Except ε β)}
    {post : Except ε β → σ → Prop} (stable : Stable rely pre)
    (refused : ∀ err state, pre state → post (.error err) state)
    (taken : ∀ value, result = .ok value →
      Safe exec admits rely guarantee post pre (next value)) :
    Safe exec admits rely guarantee post pre (Proc.attempt result next) := by
  cases result with
  | ok value => exact taken value rfl
  | error err => exact .ret stable (refused err)

theorem Proc.Issues.safe {allowed : Call → Prop} {inv : σ → Prop} {program : Proc Call Reply α}
    (h : program.Issues allowed) (stable : Stable rely inv)
    (keeps : ∀ request choice state, allowed request → inv state → admits request choice state →
      guarantee state (exec request choice state).2 ∧ inv (exec request choice state).2) :
    Safe exec admits rely guarantee (fun _ => inv) inv program := by
  induction h with
  | ret value => exact .ret stable fun _ hstate => hstate
  | call first _ ih =>
    refine .call (fun _ => inv) stable ?_ ih
    intro state choice hstate hadmits
    exact keeps _ choice state first hstate hadmits

end RelyGuarantee

section Served

variable (exec : (request : Call) → σ → Reply request × σ)

def eval : Proc Call Reply α → σ → α × σ
  | .ret value, state => (value, state)
  | .call request next, state =>
    let result := exec request state
    eval (next result.1) result.2

@[simp] theorem eval_ret (value : α) (state : σ) :
    eval exec (.ret value : Proc Call Reply α) state = (value, state) := rfl

@[simp] theorem eval_call (request : Call) (next : Reply request → Proc Call Reply α) (state : σ) :
    eval exec (.call request next) state =
      eval exec (next (exec request state).1) (exec request state).2 := rfl

@[simp] theorem eval_send (request : Call) (state : σ) :
    eval exec (Proc.send request) state = exec request state := rfl

theorem eval_bind (first : Proc Call Reply α) (rest : α → Proc Call Reply β) (state : σ) :
    eval exec (first >>= rest) state =
      eval exec (rest (eval exec first state).1) (eval exec first state).2 := by
  induction first generalizing state with
  | ret value => rfl
  | call request next ih => exact ih _ _

end Served

section Alone

variable (exec : (request : Call) → κ → σ → Reply request × σ)

/-- The program without any other thread. It stops early, with no result, when
the environment's choices run out. -/
def runAlone : Proc Call Reply α → List κ → σ → Option α × σ
  | .ret value, _, state => (some value, state)
  | .call _ _, [], state => (none, state)
  | .call request next, choice :: rest, state =>
    let result := exec request choice state
    runAlone (next result.1) rest result.2

@[simp] theorem runAlone_ret (value : α) (choices : List κ) (state : σ) :
    runAlone exec (.ret value : Proc Call Reply α) choices state = (some value, state) := by
  cases choices <;> rfl

@[simp] theorem runAlone_call (request : Call) (next : Reply request → Proc Call Reply α)
    (choice : κ) (rest : List κ) (state : σ) :
    runAlone exec (.call request next) (choice :: rest) state =
      runAlone exec (next (exec request choice state).1) rest (exec request choice state).2 := rfl

@[simp] theorem runAlone_send (request : Call) (choice : κ) (rest : List κ) (state : σ) :
    runAlone exec (Proc.send request) (choice :: rest) state =
      (some (exec request choice state).1, (exec request choice state).2) :=
  runAlone_ret exec _ rest _

variable {exec} in
theorem runAlone_call_some {request : Call} {next : Reply request → Proc Call Reply α}
    {choices : List κ} {state state' : σ} {value : α}
    (h : runAlone exec (.call request next) choices state = (some value, state')) :
    ∃ choice rest, runAlone exec (next (exec request choice state).1) rest
      (exec request choice state).2 = (some value, state') := by
  cases choices with
  | nil => cases h
  | cons choice rest => exact ⟨choice, rest, h⟩

variable {exec} in
theorem runAlone_attempt_ok {ε : Type} {result : Except ε α}
    {next : α → Proc Call Reply (Except ε β)} {choices : List κ} {state state' : σ} {value : β}
    (h : runAlone exec (Proc.attempt result next) choices state = (some (.ok value), state')) :
    ∃ given, result = .ok given ∧
      runAlone exec (next given) choices state = (some (.ok value), state') := by
  cases result with
  | ok given => exact ⟨given, rfl, h⟩
  | error err =>
    rw [Proc.attempt_error, runAlone_ret] at h
    cases h

variable {exec} in
theorem runAlone_bind_some {first : Proc Call Reply α} {next : α → Proc Call Reply β}
    {choices : List κ} {state state' : σ} {value : β}
    (h : runAlone exec (first >>= next) choices state = (some value, state')) :
    ∃ given mid rest, runAlone exec first choices state = (some given, mid) ∧
      runAlone exec (next given) rest mid = (some value, state') := by
  induction first generalizing choices state with
  | ret given => exact ⟨given, state, choices, runAlone_ret exec given choices state, h⟩
  | call request rest ih =>
    cases choices with
    | nil => cases h
    | cons choice others => exact ih _ h

variable {exec} in
theorem Proc.Sends.runAlone {allowed : Call → Prop} {inv : σ → Prop}
    (keeps : ∀ request choice state, allowed request → inv state →
      inv (exec request choice state).2)
    {program : Proc Call Reply α} {returns : α → Prop} (h : program.Sends exec allowed returns)
    {choices : List κ} {state : σ} (initial : inv state) :
    inv (runAlone exec program choices state).2 := by
  induction h generalizing choices state with
  | ret _ =>
    rw [runAlone_ret]
    exact initial
  | call first _ ih =>
    cases choices with
    | nil => exact initial
    | cons choice others => exact ih choice state (keeps _ choice state first initial)

variable {exec} in
theorem Proc.Issues.runAlone {allowed : Call → Prop} {inv : σ → Prop}
    (keeps : ∀ request choice state, allowed request → inv state →
      inv (exec request choice state).2)
    {program : Proc Call Reply α} (h : program.Issues allowed) {choices : List κ} {state : σ}
    (initial : inv state) : inv (runAlone exec program choices state).2 := by
  have hsends : program.Sends exec allowed fun _ => True := h.sends fun _ => trivial
  exact hsends.runAlone keeps initial

def AdmittedAlone (admits : Call → κ → σ → Prop) : Proc Call Reply α → List κ → σ → Prop
  | .ret _, _, _ => True
  | .call _ _, [], _ => True
  | .call request next, choice :: rest, state =>
    let result := exec request choice state
    admits request choice state ∧ AdmittedAlone admits (next result.1) rest result.2

variable {exec} {admits : Call → κ → σ → Prop} {guarantee : σ → σ → Prop}

theorem admittedAlone_of_forall (h : ∀ request choice state, admits request choice state)
    (program : Proc Call Reply α) (choices : List κ) (state : σ) :
    AdmittedAlone exec admits program choices state := by
  induction choices generalizing program state with
  | nil => cases program <;> trivial
  | cons choice rest ih =>
    cases program with
    | ret value => trivial
    | call request next => exact ⟨h request choice state, ih _ _⟩

theorem stable_eq (assertion : σ → Prop) : Stable Eq assertion := by
  rintro state _ hstate rfl
  exact hstate

/-- The sequential rule: a safe program that runs alone stays within its
guarantee, even when it is cut off, and what it returns meets `post`. -/
theorem Safe.alone {post : α → σ → Prop} {pre : σ → Prop} {program : Proc Call Reply α}
    (h : Safe exec admits Eq guarantee post pre program)
    (reflexive : ∀ state, guarantee state state)
    (transitive : ∀ first second third, guarantee first second → guarantee second third →
      guarantee first third)
    {choices : List κ} {state : σ} (initial : pre state)
    (admitted : AdmittedAlone exec admits program choices state) :
    guarantee state (runAlone exec program choices state).2 ∧
      ∀ value, (runAlone exec program choices state).1 = some value →
        post value (runAlone exec program choices state).2 := by
  induction h generalizing choices state with
  | @ret _ value _ returns =>
    rw [runAlone_ret]
    refine ⟨reflexive state, ?_⟩
    rintro _ ⟨⟩
    exact returns state initial
  | call mid _ step _ ih =>
    cases choices with
    | nil => exact ⟨reflexive state, by simp [runAlone]⟩
    | cons choice rest =>
      obtain ⟨hstep, hmid⟩ := step state choice initial admitted.1
      obtain ⟨hrest, hpost⟩ := ih _ hmid admitted.2
      exact ⟨transitive _ _ _ hstep hrest, hpost⟩

end Alone

section Parallel

variable [DecidableEq ι] {exec : (request : Call) → κ → σ → Reply request × σ}
  {admits : ι → Call → κ → σ → Prop}

def EachSafe (exec : (request : Call) → κ → σ → Reply request × σ)
    (admits : ι → Call → κ → σ → Prop) (rely guarantee : ι → σ → σ → Prop)
    (post : ι → α → σ → Prop) (config : Config σ ι Call Reply α) : Prop :=
  ∀ thread, ∃ pre, pre config.shared ∧
    Safe exec (admits thread) (rely thread) (guarantee thread) (post thread) pre
      (config.threads thread)

section Each

variable {rely guarantee : ι → σ → σ → Prop} {post : ι → α → σ → Prop}

omit [DecidableEq ι] in
theorem EachSafe.returned {config : Config σ ι Call Reply α}
    (h : EachSafe exec admits rely guarantee post config) {thread : ι} {value : α}
    (hret : config.threads thread = .ret value) : post thread value config.shared := by
  obtain ⟨pre, hpre, hsafe⟩ := h thread
  rw [hret] at hsafe
  cases hsafe with
  | ret _ returns => exact returns _ hpre

theorem EachSafe.guarantees {config : Config σ ι Call Reply α}
    (h : EachSafe exec admits rely guarantee post config)
    (reflexive : ∀ thread state, guarantee thread state state) {label : ι × κ}
    (admitted : Admitted admits config label) :
    guarantee label.1 config.shared (move exec config label).shared := by
  cases hnext : config.threads label.1 with
  | ret value =>
    rw [move_finished hnext]
    exact reflexive _ _
  | call request next =>
    obtain ⟨pre, hpre, hsafe⟩ := h label.1
    rw [hnext] at hsafe
    rw [move_call hnext]
    cases hsafe with
    | call _ _ step _ => exact (step _ _ hpre (admitted.call hnext)).1

/-- The parallel rule: a step of one thread keeps every thread safe, when the
others rely on no more than it guarantees. -/
theorem EachSafe.move {config : Config σ ι Call Reply α}
    (h : EachSafe exec admits rely guarantee post config)
    (reflexive : ∀ thread state, guarantee thread state state)
    (compatible : ∀ thread other state state', other ≠ thread → guarantee thread state state' →
      rely other state state')
    {label : ι × κ} (admitted : Admitted admits config label) :
    EachSafe exec admits rely guarantee post (move exec config label) := by
  have hguarantee := h.guarantees reflexive admitted
  cases hnext : config.threads label.1 with
  | ret value =>
    rw [move_finished hnext]
    exact h
  | call request next =>
    intro thread
    rw [move_call hnext] at hguarantee ⊢
    by_cases hthread : thread = label.1
    · subst hthread
      obtain ⟨pre, hpre, hsafe⟩ := h label.1
      rw [hnext] at hsafe
      cases hsafe with
      | call mid _ step rest =>
        refine ⟨mid _, (step _ _ hpre (admitted.call hnext)).2, ?_⟩
        simpa using rest _
    · obtain ⟨pre, hpre, hsafe⟩ := h thread
      refine ⟨pre, hsafe.stable _ _ hpre (compatible _ _ _ _ hthread hguarantee), ?_⟩
      simpa [Function.update_of_ne hthread] using hsafe

theorem EachSafe.run {start : Config σ ι Call Reply α} {labels : List (ι × κ)}
    (h : EachSafe exec admits rely guarantee post start)
    (reflexive : ∀ thread state, guarantee thread state state)
    (compatible : ∀ thread other state state', other ≠ thread → guarantee thread state state' →
      rely other state state')
    (admitted : Along (Process.move exec) (Admitted admits) start labels) :
    EachSafe exec admits rely guarantee post (run (Process.move exec) start labels) :=
  admitted.invariant (fun _ _ hsafe hok => hsafe.move reflexive compatible hok) h

theorem EachSafe.invariant {inv : σ → Prop} {start : Config σ ι Call Reply α}
    {labels : List (ι × κ)} (h : EachSafe exec admits rely guarantee post start)
    (reflexive : ∀ thread state, guarantee thread state state)
    (compatible : ∀ thread other state state', other ≠ thread → guarantee thread state state' →
      rely other state state')
    (keeps : ∀ thread state state', guarantee thread state state' → inv state → inv state')
    (admitted : Along (Process.move exec) (Admitted admits) start labels)
    (initial : inv start.shared) : inv (Run.run (Process.move exec) start labels).shared := by
  have hend := admitted.invariant (fun config label
      (hinv : EachSafe exec admits rely guarantee post config ∧ inv config.shared) hok =>
    ⟨hinv.1.move reflexive compatible hok,
      keeps _ _ _ (hinv.1.guarantees reflexive hok) hinv.2⟩) ⟨h, initial⟩
  exact hend.2

end Each

variable {guarantee : σ → σ → Prop}

/-- Every thread is safe from the present state on, and each relies on exactly
what all the others guarantee. -/
def AllSafe (exec : (request : Call) → κ → σ → Reply request × σ)
    (admits : ι → Call → κ → σ → Prop) (guarantee : σ → σ → Prop)
    (config : Config σ ι Call Reply α) : Prop :=
  ∀ thread, ∃ pre post, pre config.shared ∧
    Safe exec (admits thread) guarantee guarantee post pre (config.threads thread)

omit [DecidableEq ι] in
theorem allSafe_iff {config : Config σ ι Call Reply α} :
    AllSafe exec admits guarantee config ↔
      ∃ post, EachSafe exec admits (fun _ => guarantee) (fun _ => guarantee) post config := by
  constructor
  · intro h
    choose pre post hpre hsafe using h
    exact ⟨post, fun thread => ⟨pre thread, hpre thread, hsafe thread⟩⟩
  · rintro ⟨post, h⟩ thread
    obtain ⟨pre, hpre, hsafe⟩ := h thread
    exact ⟨pre, post thread, hpre, hsafe⟩

theorem AllSafe.guarantees (reflexive : ∀ state, guarantee state state)
    {config : Config σ ι Call Reply α} (h : AllSafe exec admits guarantee config)
    {label : ι × κ} (admitted : Admitted admits config label) :
    guarantee config.shared (move exec config label).shared := by
  obtain ⟨post, heach⟩ := allSafe_iff.mp h
  exact heach.guarantees (fun _ => reflexive) admitted

theorem AllSafe.move (reflexive : ∀ state, guarantee state state)
    {config : Config σ ι Call Reply α} (h : AllSafe exec admits guarantee config)
    {label : ι × κ} (admitted : Admitted admits config label) :
    AllSafe exec admits guarantee (move exec config label) := by
  obtain ⟨post, heach⟩ := allSafe_iff.mp h
  exact allSafe_iff.mpr
    ⟨post, heach.move (fun _ => reflexive) (fun _ _ _ _ _ hstep => hstep) admitted⟩

theorem AllSafe.along (reflexive : ∀ state, guarantee state state)
    {start : Config σ ι Call Reply α} {labels : List (ι × κ)}
    (h : AllSafe exec admits guarantee start)
    (admitted : Along (Process.move exec) (Admitted admits) start labels) :
    Along (Process.move exec) (fun config label =>
      guarantee config.shared (Process.move exec config label).shared) start labels := by
  apply admitted.strengthen _ _ h
  · intro config label hsafe hok
    exact hsafe.move reflexive hok
  · intro config label hsafe hok
    exact hsafe.guarantees reflexive hok

theorem AllSafe.run (reflexive : ∀ state, guarantee state state)
    (transitive : ∀ first second third, guarantee first second → guarantee second third →
      guarantee first third)
    {start : Config σ ι Call Reply α} {labels : List (ι × κ)}
    (h : AllSafe exec admits guarantee start)
    (admitted : Along (Process.move exec) (Admitted admits) start labels) :
    guarantee start.shared (run (Process.move exec) start labels).shared :=
  Along.related (fun first second : Config σ ι Call Reply α => guarantee first.shared second.shared)
    (fun config => reflexive config.shared)
    (fun first second third => transitive first.shared second.shared third.shared)
    (h.along reflexive admitted)

end Parallel

end Goshop.Lib.Process
