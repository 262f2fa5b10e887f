import Goshop.Lib.Process

/-! Systems in which every step from a consistent state is progress of one kind, at
least in the runs that meet some condition on each of their calls. What a thread has
learnt then stays true for as long as no progress takes it back, whatever the others
do in between; the rules here carry such facts from call to call of one thread. -/
namespace Goshop.Lib.Process

open Goshop.Lib.Run

variable {Call : Type} {Reply : Call → Type} {α β σ κ ι : Type}
  {exec : (request : Call) → κ → σ → Reply request × σ}

/-- The states that a system keeps to, what a step may do to them, which calls a run
may have, and what a caller has to know before a call. -/
structure Discipline (exec : (request : Call) → κ → σ → Reply request × σ) where
  consistent : σ → Prop
  progress : σ → σ → Prop
  admits : Call → κ → σ → Prop
  ready : Call → σ → Prop
  refl : ∀ {state}, consistent state → progress state state
  trans : ∀ {first second third}, progress first second → progress second third →
    progress first third
  keeps : ∀ {state state'}, progress state state' → consistent state'
  serves : ∀ request choice state, consistent state → ready request state →
    admits request choice state → progress state (exec request choice state).2

namespace Discipline

variable (d : Discipline exec)

def Keeps (state state' : σ) : Prop :=
  d.consistent state → d.progress state state'

/-- A fact that no step of the system takes back. -/
def Kept (fact : σ → Prop) : Prop :=
  ∀ state state', d.progress state state' → fact state → fact state'

def Given (fact : σ → Prop) (state : σ) : Prop :=
  d.consistent state ∧ fact state

/-- From a consistent state with `fact`, and whatever the other threads do, the
program keeps to the discipline, and `post` holds when it returns. -/
abbrev SafeTask (post : α → σ → Prop) (fact : σ → Prop) (program : Proc Call Reply α) : Prop :=
  Safe exec d.admits d.Keeps d.Keeps (fun value => d.Given (post value)) (d.Given fact) program

abbrev Obeyed (config : Config σ ι Call Reply α) : Prop :=
  AllSafe exec (fun _ => d.admits) d.Keeps config

variable {d}

theorem Keeps.refl (state : σ) : d.Keeps state state :=
  d.refl

theorem Keeps.trans (first second third : σ) (h : d.Keeps first second)
    (h' : d.Keeps second third) : d.Keeps first third :=
  fun hfirst => d.trans (h hfirst) (h' (d.keeps (h hfirst)))

theorem kept_true : d.Kept fun _ => True :=
  fun _ _ _ _ => trivial

theorem Kept.and {fact fact' : σ → Prop} (h : d.Kept fact) (h' : d.Kept fact') :
    d.Kept fun state => fact state ∧ fact' state :=
  fun state state' hstep hboth => ⟨h state state' hstep hboth.1, h' state state' hstep hboth.2⟩

theorem given_stable {fact : σ → Prop} (h : d.Kept fact) : Stable d.Keeps (d.Given fact) := by
  rintro state state' ⟨hstate, hfact⟩ hkeeps
  have hstep := hkeeps hstate
  exact ⟨d.keeps hstep, h state state' hstep hfact⟩

theorem ret_safe {post : α → σ → Prop} {fact : σ → Prop} {value : α} (hfact : d.Kept fact)
    (h : ∀ state, d.consistent state → fact state → post value state) :
    d.SafeTask post fact (.ret value : Proc Call Reply α) :=
  .ret (given_stable hfact) fun state hstate => ⟨hstate.1, h state hstate.1 hstate.2⟩

/-- The rule for a call: what the caller knows makes it ready, and it learns from
the reply. -/
theorem call_safe {request : Call} {next : Reply request → Proc Call Reply α}
    {post : α → σ → Prop} {fact : σ → Prop} (learnt : Reply request → σ → Prop)
    (hfact : d.Kept fact)
    (hready : ∀ state, d.consistent state → fact state → d.ready request state)
    (hlearnt : ∀ choice state, d.consistent state → fact state → d.admits request choice state →
      d.progress state (exec request choice state).2 →
      learnt (exec request choice state).1 (exec request choice state).2)
    (hrest : ∀ reply, d.SafeTask post (learnt reply) (next reply)) :
    d.SafeTask post fact (.call request next) := by
  refine .call (fun reply => d.Given (learnt reply)) (given_stable hfact) ?_ hrest
  rintro state choice ⟨hstate, hknown⟩ hadmits
  have hstep := d.serves request choice state hstate (hready state hstate hknown) hadmits
  exact ⟨fun _ => hstep, d.keeps hstep, hlearnt choice state hstate hknown hadmits hstep⟩

theorem plain_safe {request : Call} {next : Reply request → Proc Call Reply α}
    {post : α → σ → Prop} {fact : σ → Prop} (hfact : d.Kept fact)
    (hready : ∀ state, d.consistent state → fact state → d.ready request state)
    (hrest : ∀ reply, d.SafeTask post fact (next reply)) :
    d.SafeTask post fact (.call request next) := by
  refine call_safe (fun _ => fact) hfact hready ?_ hrest
  intro choice state _ hknown _ hstep
  exact hfact _ _ hstep hknown

theorem issues_safe {fact : σ → Prop} {program : Proc Call Reply α} (hfact : d.Kept fact)
    (h : program.Issues fun request => ∀ state, d.ready request state) :
    d.SafeTask (fun _ => fact) fact program := by
  induction h with
  | ret value => exact ret_safe hfact fun _ _ hknown => hknown
  | call first _ ih => exact plain_safe hfact (fun state _ _ => first state) ih

theorem attempt_safe {ε : Type} {result : Except ε α} {next : α → Proc Call Reply (Except ε β)}
    {post : Except ε β → σ → Prop} {fact : σ → Prop} (hfact : d.Kept fact)
    (refused : ∀ err state, fact state → post (.error err) state)
    (taken : ∀ value, result = .ok value → d.SafeTask post fact (next value)) :
    d.SafeTask post fact (Proc.attempt result next) :=
  .attempt (given_stable hfact) (fun err state hstate => ⟨hstate.1, refused err state hstate.2⟩)
    taken

theorem mono_safe {post post' : α → σ → Prop} {fact : σ → Prop} {program : Proc Call Reply α}
    (h : d.SafeTask post fact program)
    (implies : ∀ value state, post value state → post' value state) :
    d.SafeTask post' fact program :=
  h.mono fun value state hend => ⟨hend.1, implies value state hend.2⟩

theorem weaken_safe {post : α → σ → Prop} {fact fact' : σ → Prop} {program : Proc Call Reply α}
    (h : d.SafeTask post fact program) (hfact : d.Kept fact')
    (implies : ∀ state, fact' state → fact state) : d.SafeTask post fact' program :=
  h.weaken (given_stable hfact) fun state hstate => ⟨hstate.1, implies state hstate.2⟩

section Runs

variable [DecidableEq ι] {start : Config σ ι Call Reply α}

theorem Obeyed.run {labels : List (ι × κ)} (h : d.Obeyed start)
    (admitted : Along (move exec) (Admitted fun _ => d.admits) start labels) :
    d.Obeyed (run (move exec) start labels) :=
  admitted.invariant (fun _ _ hobeyed => AllSafe.move Keeps.refl hobeyed) h

theorem Obeyed.progress {labels : List (ι × κ)} (h : d.Obeyed start)
    (hstart : d.consistent start.shared)
    (admitted : Along (move exec) (Admitted fun _ => d.admits) start labels) :
    d.progress start.shared (Run.run (move exec) start labels).shared :=
  AllSafe.run Keeps.refl Keeps.trans h admitted hstart

end Runs

end Discipline

end Goshop.Lib.Process
