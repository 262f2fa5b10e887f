import Goshop.Lib.Run
import Goshop.Lib.Transaction

/-! The TTL heartbeat of a registered service against its `Deregister` call. The
heartbeat registers the service again when its updates keep failing, and
`Deregister` cancels it only after the agent has dropped the registration. The
machine starts where `Register` has returned. -/
namespace Goshop.Discovery.Heartbeat

open Goshop.Lib.Run Goshop.Lib.Transaction

section Model

inductive HeartbeatStage where
  /-- In the `select` between the ticker and the context. -/
  | waiting
  | updating
  | registering
  | stopped
deriving DecidableEq, Repr

inductive DeregisterStage where
  | idle
  /-- The agent has dropped the registration. -/
  | deregistered
  /-- `stopHeartbeat` has taken the cancel function out of the map, if it was there. -/
  | stopping (cancel : Bool)
  /-- The call has returned nil. -/
  | returned
  | failed
deriving DecidableEq, Repr

structure State where
  /-- The agent holds a registration of the service. -/
  registered : Bool := true
  /-- The map of the client has the cancel function of the heartbeat. -/
  heartbeatCancel : Bool := true
  cancelled : Bool := false
  failures : Nat := 0
  heartbeat : HeartbeatStage := .waiting
  deregister : DeregisterStage := .idle
deriving DecidableEq, Repr

def heartbeatFailureThreshold : Nat := 3

inductive Label where
  | tick
  | done
  | updateTTL (answer : Bool)
  | reRegister (outcome : Outcome)
  | deregister (outcome : Outcome)
  | takeCancel
  | cancel
deriving DecidableEq, Repr

def reaches (cancelled : Bool) (outcome : Outcome) : Bool :=
  !cancelled && outcome ≠ .failBefore

/-- The update needs the registration, its context and an answer of the agent. -/
def updateTTL (answer : Bool) (state : State) : State :=
  if answer && state.registered && !state.cancelled then
    { state with failures := 0, heartbeat := .waiting }
  else
    { state with
      failures := state.failures + 1
      heartbeat :=
        if heartbeatFailureThreshold ≤ state.failures + 1 then .registering else .waiting }

/-- A failed registration leaves the failures as they are. -/
def reRegister (outcome : Outcome) (state : State) : State :=
  { state with
    registered := state.registered || reaches state.cancelled outcome
    failures := if !state.cancelled && outcome = .ok then 0 else state.failures
    heartbeat := .waiting }

def deregister (outcome : Outcome) (state : State) : State :=
  { state with
    registered := state.registered && !reaches false outcome
    deregister := if outcome = .ok then .deregistered else .failed }

/-- The transitions; the heartbeat and the one `Deregister` call go on on their own. -/
def fire (state : State) : Label → Option State
  | .tick =>
    if state.heartbeat = .waiting then some { state with heartbeat := .updating } else none
  | .done =>
    if state.heartbeat = .waiting ∧ state.cancelled then some { state with heartbeat := .stopped }
    else none
  | .updateTTL answer =>
    if state.heartbeat = .updating then some (updateTTL answer state) else none
  | .reRegister outcome =>
    if state.heartbeat = .registering then some (reRegister outcome state) else none
  | .deregister outcome =>
    if state.deregister = .idle then some (deregister outcome state) else none
  | .takeCancel =>
    if state.deregister = .deregistered then
      some { state with
        deregister := .stopping state.heartbeatCancel
        heartbeatCancel := false }
    else none
  | .cancel =>
    match state.deregister with
    | .stopping cancel =>
      some { state with
        deregister := .returned
        cancelled := state.cancelled || cancel }
    | _ => none

def step : State → Label → State :=
  guarded fire

def DeregisterStage.underway : DeregisterStage → Bool
  | .deregistered | .stopping _ => true
  | _ => false

/-- The step is no registration that reaches the agent while `Deregister` is
between its call to the agent and the cancellation. -/
def Unraced (state : State) : Label → Bool
  | .reRegister outcome =>
    !(state.heartbeat = .registering && state.deregister.underway &&
      reaches state.cancelled outcome)
  | _ => true

end Model

section Runs

variable {state next : State} {label : Label}

structure Inv (state : State) : Prop where
  stored : state.deregister = .idle ∨ state.deregister = .deregistered →
    state.heartbeatCancel = true
  stopping : ∀ cancel, state.deregister = .stopping cancel → cancel = true
  underway : state.deregister.underway = true → state.registered = false
  returned : state.deregister = .returned → state.registered = false ∧ state.cancelled = true

/-- A step of the heartbeat keeps what `Deregister` has reached, unless it
registers the service again in the meantime. -/
theorem Inv.frame (h : Inv state) (deregister : next.deregister = state.deregister)
    (cancel : next.heartbeatCancel = state.heartbeatCancel)
    (cancelled : next.cancelled = state.cancelled)
    (registered : state.deregister.underway = true ∨ state.cancelled = true →
      state.registered = false → next.registered = false) : Inv next where
  stored hstage := by
    rw [deregister] at hstage
    rw [cancel]
    exact h.stored hstage
  stopping c hstage := h.stopping c (deregister ▸ hstage)
  underway hstage := by
    rw [deregister] at hstage
    exact registered (.inl hstage) (h.underway hstage)
  returned hstage := by
    obtain ⟨hgone, hcancelled⟩ := h.returned (deregister ▸ hstage)
    exact ⟨registered (.inr hcancelled) hgone, cancelled.trans hcancelled⟩

theorem inv_updateTTL (h : Inv state) (answer : Bool) : Inv (updateTTL answer state) := by
  unfold updateTTL
  split
  · exact h.frame rfl rfl rfl fun _ hgone => hgone
  · exact h.frame rfl rfl rfl fun _ hgone => hgone

theorem inv_reRegister (h : Inv state) {outcome : Outcome}
    (missed : state.deregister.underway = true → reaches state.cancelled outcome = false) :
    Inv (reRegister outcome state) := by
  refine h.frame rfl rfl rfl fun hwhen hgone => ?_
  have hmissed : reaches state.cancelled outcome = false := by
    rcases hwhen with hunderway | hcancelled
    · exact missed hunderway
    · rw [reaches, hcancelled]
      rfl
  rw [reRegister, hgone, hmissed]
  rfl

theorem inv_deregister (h : Inv state) (hidle : state.deregister = .idle) (outcome : Outcome) :
    Inv (deregister outcome state) := by
  have hstored := h.stored (.inl hidle)
  cases outcome with
  | ok =>
    refine ⟨fun _ => hstored, fun _ hstage => ?_, fun _ => ?_, fun hstage => ?_⟩
    · cases hstage
    · exact Bool.and_false _
    · cases hstage
  | failBefore | failAfter =>
    refine ⟨fun _ => hstored, fun _ hstage => ?_, fun hstage => ?_, fun hstage => ?_⟩
    all_goals cases hstage

theorem fire_inv (h : Inv state) (unraced : Unraced state label = true)
    (hfire : fire state label = some next) : Inv next := by
  cases label with
  | tick | done =>
    obtain ⟨-, rfl⟩ := of_guard hfire
    exact h.frame rfl rfl rfl fun _ hgone => hgone
  | updateTTL answer =>
    obtain ⟨-, rfl⟩ := of_guard hfire
    exact inv_updateTTL h answer
  | reRegister outcome =>
    obtain ⟨hregistering, rfl⟩ := of_guard hfire
    refine inv_reRegister h fun hunderway => ?_
    simpa [Unraced, hregistering, hunderway] using unraced
  | deregister outcome =>
    obtain ⟨hidle, rfl⟩ := of_guard hfire
    exact inv_deregister h hidle outcome
  | takeCancel =>
    obtain ⟨hderegistered, rfl⟩ := of_guard hfire
    refine ⟨by simp, fun cancel hstage => ?_, fun _ => ?_, by simp⟩
    · rw [← DeregisterStage.stopping.inj hstage]
      exact h.stored (.inr hderegistered)
    · exact h.underway (by rw [hderegistered]; rfl)
  | cancel =>
    simp only [fire] at hfire
    split at hfire
    · rename_i cancel hstopping
      cases hfire
      have hcancel := h.stopping cancel hstopping
      have hgone := h.underway (by rw [hstopping]; rfl)
      exact ⟨by simp, by simp, fun _ => hgone, fun _ => ⟨hgone, by simp [hcancel]⟩⟩
    · cases hfire

def Final (state : State) : Prop :=
  state.deregister = .returned ∧ state.registered = false ∧ state.cancelled = true

theorem fire_final (h : Final state) (hfire : fire state label = some next) : Final next := by
  obtain ⟨hreturned, hgone, hcancelled⟩ := h
  cases label with
  | tick | done =>
    obtain ⟨-, rfl⟩ := of_guard hfire
    exact ⟨hreturned, hgone, hcancelled⟩
  | updateTTL answer =>
    obtain ⟨-, rfl⟩ := of_guard hfire
    unfold updateTTL
    split <;> exact ⟨hreturned, hgone, hcancelled⟩
  | reRegister outcome =>
    obtain ⟨-, rfl⟩ := of_guard hfire
    exact ⟨hreturned, by simp [reRegister, reaches, hgone, hcancelled], hcancelled⟩
  | deregister outcome | takeCancel =>
    obtain ⟨hstage, -⟩ := of_guard hfire
    rw [hreturned] at hstage
    cases hstage
  | cancel =>
    simp only [fire, hreturned] at hfire
    cases hfire

/-- When no registration by the heartbeat reaches the agent between the agent call
of `Deregister` and its cancellation, the service stays away once `Deregister` has
returned nil, whatever happens later. -/
theorem deregistration_final (labels : List Label)
    (unraced : Along step (fun state label => Unraced state label = true) {} labels)
    (returned : (run step {} labels).deregister = .returned) (later : List Label) :
    (run step {} (labels ++ later)).registered = false := by
  have hinv : Inv (run step {} labels) := by
    refine unraced.invariant (fun _ _ h hok => guarded_keeps h fun _ => fire_inv h hok) ?_
    exact ⟨fun _ => rfl, by simp, by simp [DeregisterStage.underway], by simp⟩
  have hfinal : Final (run step {} (labels ++ later)) := by
    rw [run_append]
    exact run_invariant later (fun _ _ h => guarded_keeps h fun _ => fire_final h)
      ⟨returned, hinv.returned returned⟩
  exact hfinal.2.1

theorem deregistration_final_after_failures :
    let labels : List Label := [.tick, .updateTTL false, .tick, .updateTTL false, .tick,
      .updateTTL false, .reRegister .ok, .tick, .deregister .ok, .updateTTL true, .takeCancel,
      .cancel]
    (run step {} labels).deregister = .returned ∧
      (run step {} (labels ++ [.tick, .updateTTL false, .tick, .updateTTL false,
        .reRegister .ok])).registered = false :=
  ⟨by decide +kernel, deregistration_final _ (by decide +kernel) (by decide +kernel) _⟩

/-- The registration after the third failure reaches the agent when that has just
dropped the service and the heartbeat is not cancelled yet. -/
theorem reregistered_during_deregister :
    let labels : List Label := [.tick, .updateTTL false, .tick, .updateTTL false, .tick,
      .updateTTL false, .deregister .ok, .reRegister .ok, .takeCancel, .cancel]
    (run step {} labels).deregister = .returned ∧ (run step {} labels).registered = true := by
  decide +kernel

end Runs

end Goshop.Discovery.Heartbeat
