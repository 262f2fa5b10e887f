import Goshop.Lib.Process

/-! What a program is sure to reach when nothing interferes with it. A program has
only finitely many calls to make along each of its branches, so one that runs alone
and is not cut off comes to its end; the rules here are those of weakest
preconditions. -/
namespace Goshop.Lib.Process

variable {Call : Type} {Reply : Call → Type} {α β σ κ : Type}
  (exec : (request : Call) → κ → σ → Reply request × σ) (good : κ → Prop)

/-- Alone from the state on, with all its calls ending in good ways, the program
returns, and `post` holds then. -/
def Ensures (post : α → σ → Prop) : Proc Call Reply α → σ → Prop
  | .ret value, state => post value state
  | .call request next, state => ∀ choice, good choice →
    Ensures post (next (exec request choice state).1) (exec request choice state).2

variable {exec good}

theorem Ensures.mono {post post' : α → σ → Prop} {program : Proc Call Reply α} {state : σ}
    (h : Ensures exec good post program state)
    (implies : ∀ value state, post value state → post' value state) :
    Ensures exec good post' program state := by
  induction program generalizing state with
  | ret value => exact implies value state h
  | call request next ih =>
    intro choice hgood
    exact ih _ (h choice hgood)

theorem Ensures.bind {post : β → σ → Prop} {first : Proc Call Reply α}
    {rest : α → Proc Call Reply β} {state : σ}
    (h : Ensures exec good (fun value => Ensures exec good post (rest value)) first state) :
    Ensures exec good post (first >>= rest) state := by
  induction first generalizing state with
  | ret value => exact h
  | call request next ih =>
    intro choice hgood
    exact ih _ (h choice hgood)

/-- The rule for a call, with what is known after it. -/
theorem Ensures.call {post : α → σ → Prop} {request : Call}
    {next : Reply request → Proc Call Reply α} {state : σ} (mid : Reply request → σ → Prop)
    (step : ∀ choice, good choice →
      mid (exec request choice state).1 (exec request choice state).2)
    (rest : ∀ reply state', mid reply state' → Ensures exec good post (next reply) state') :
    Ensures exec good post (.call request next) state :=
  fun choice hgood => rest _ _ (step choice hgood)

end Goshop.Lib.Process
