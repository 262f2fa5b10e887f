import Goshop.Lib.GoText
import Goshop.Lib.Run

/-! The gRPC resolver over a watcher. A snapshot without a valid endpoint does not
replace the addresses at once: a timer is started, and its callback publishes the
empty list when no better snapshot has come in between. Updates, callbacks and
`Close` take turns under one lock; a timer that has expired can no longer be
stopped, its callback then waits for the lock. -/
namespace Goshop.Discovery.Resolver

open Goshop.Lib Goshop.Lib.Run

section Addresses

/-- A parsed endpoint; `isSecure` is the answer of `IsSecure`. -/
structure Url where
  scheme : String
  host : String
  isSecure : Bool
deriving DecidableEq, Repr

structure ServiceInstance where
  endpoints : List String
  metadata : List (String × String) := []
deriving DecidableEq, Repr

/-- The attributes of an address are the metadata and the instance itself. -/
structure Address where
  addr : String
  serverName : String
  rawServiceInstance : ServiceInstance
deriving DecidableEq, Repr

def resolverServerName (metadata : List (String × String)) : String :=
  let named := GoText.trimSpace ((metadata.lookup "tls_server_name").getD "")
  if named ≠ "" then named else GoText.trimSpace ((metadata.lookup "server_name").getD "")

/-- `ParseEndpoint`; none when an endpoint before the first match is no URL. -/
def parseEndpoint (parse : String → Option Url) (scheme : String) (isSecure : Bool) :
    List String → Option String
  | [] => some ""
  | endpoint :: rest =>
    (parse endpoint).bind fun u =>
      if u.scheme = scheme ∧ u.isSecure = isSecure then some u.host
      else parseEndpoint parse scheme isSecure rest

/-- One turn of the loop over the instances: an endpoint counts once. -/
def addAddress (parse : String → Option Url) (insecure : Bool) (addrs : List Address)
    (service : ServiceInstance) : List Address :=
  match parseEndpoint parse "grpc" (!insecure) service.endpoints with
  | none => addrs
  | some endpoint =>
    if endpoint = "" ∨ addrs.any (·.addr = endpoint) then addrs
    else addrs ++ [⟨endpoint, resolverServerName service.metadata, service⟩]

/-- The addresses of a snapshot; there are none when no endpoint is valid. -/
def addresses (parse : String → Option Url) (insecure : Bool) (ins : List ServiceInstance) :
    List Address :=
  ins.foldl (addAddress parse insecure) []

end Addresses

section Model

/-- What was published, with the addresses of the update call that was the most
recent one then, and whether the resolver was closed. -/
structure Publication where
  addresses : List Address
  latest : List Address
  closed : Bool
deriving DecidableEq, Repr

structure State where
  /-- The field points to a timer also when that has expired. -/
  emptyStateTimer : Option Nat := none
  emptyStatePublished : Bool := false
  closed : Bool := false
  /-- The timers made so far. -/
  timers : Nat := 0
  /-- The timers that are running. -/
  armed : List Nat := []
  /-- The callbacks of expired timers that wait for the lock. -/
  started : Nat := 0
  /-- The addresses of the update call that waits for the lock. -/
  waiting : Option (List Address) := none
  /-- The addresses of the most recent update call. -/
  latest : List Address := []
  published : List Publication := []
deriving DecidableEq, Repr

def publishStateLocked (addrs : List Address) (state : State) : State :=
  { state with published := state.published ++ [⟨addrs, state.latest, state.closed⟩] }

def stopTimer (state : State) : State :=
  match state.emptyStateTimer with
  | none => state
  | some timer => { state with
      emptyStateTimer := none
      armed := state.armed.erase timer }

def deferEmptyState (state : State) : State :=
  if state.closed ∨ state.emptyStatePublished ∨ state.emptyStateTimer.isSome then state
  else { state with
    emptyStateTimer := some state.timers
    armed := state.armed ++ [state.timers]
    timers := state.timers + 1 }

/-- `update` from where it has its addresses and the lock. -/
def update (addrs : List Address) (state : State) : State :=
  if addrs = [] then deferEmptyState state
  else if state.closed then state
  else publishStateLocked addrs { stopTimer state with emptyStatePublished := false }

def publishEmptyState (state : State) : State :=
  if state.closed ∨ state.emptyStatePublished then state
  else publishStateLocked [] { state with
    emptyStateTimer := none
    emptyStatePublished := true }

def close (state : State) : State :=
  if state.closed then state else { stopTimer state with closed := true }

inductive Label where
  /-- `update` is called and computes its addresses. -/
  | call (ins : List ServiceInstance)
  | update
  | expire (timer : Nat)
  | callback
  | close
deriving DecidableEq, Repr

variable (parse : String → Option Url) (insecure : Bool)

/-- The transitions; one goroutine makes all the update calls. -/
def fire (state : State) : Label → Option State
  | .call ins =>
    if state.waiting = none then
      some { state with
        waiting := some (addresses parse insecure ins)
        latest := addresses parse insecure ins }
    else none
  | .update => state.waiting.map fun addrs => update addrs { state with waiting := none }
  | .expire timer =>
    if timer ∈ state.armed then
      some { state with
        armed := state.armed.erase timer
        started := state.started + 1 }
    else none
  | .callback =>
    if 0 < state.started then
      some (publishEmptyState { state with started := state.started - 1 })
    else none
  | .close => some (close state)

def step : State → Label → State :=
  guarded (fire parse insecure)

/-- The step does not make a callback and an update with a valid endpoint wait for
the lock at the same time. -/
def Separate (state : State) : Label → Bool
  | .call ins => addresses parse insecure ins = [] || state.started = 0
  | .expire _ => state.waiting.all (· = [])
  | _ => true

end Model

section Phases

variable {parse : String → Option Url} {insecure : Bool} {state next : State}

inductive Phase (state : State) : Prop
  | idle (timer : state.emptyStateTimer = none) (armed : state.armed = [])
    (started : state.started = 0)
  | running (t : Nat) (timer : state.emptyStateTimer = some t) (armed : state.armed = [t])
    (started : state.started = 0) (unpublished : state.emptyStatePublished = false)
    (latest : state.latest = [] ∨ state.waiting = some state.latest)
  | expired (t : Nat) (timer : state.emptyStateTimer = some t) (armed : state.armed = [])
    (started : state.started = 1) (unpublished : state.emptyStatePublished = false)
    (latest : state.latest = [])

structure Inv (state : State) : Prop where
  waiting : ∀ addrs, state.waiting = some addrs → state.latest = addrs
  phase : state.closed = false → Phase state
  published : ∀ publication ∈ state.published,
    publication.addresses = [] → publication.latest = []

theorem Phase.call {addrs : List Address} (h : Phase state)
    (separate : addrs = [] ∨ state.started = 0) :
    Phase { state with waiting := some addrs, latest := addrs } := by
  cases h with
  | idle timer armed started => exact .idle timer armed started
  | running t timer armed started unpublished _ =>
    exact .running t timer armed started unpublished (.inr rfl)
  | expired t timer armed started unpublished _ =>
    have hempty : addrs = [] := separate.resolve_right (by simp [started])
    exact .expired t timer armed started unpublished hempty

theorem Phase.expire {t : Nat} (h : Phase state) (separate : ∀ addrs ∈ state.waiting, addrs = [])
    (armed : t ∈ state.armed) :
    Phase { state with armed := state.armed.erase t, started := state.started + 1 } := by
  cases h with
  | idle _ hnone _ => simp [hnone] at armed
  | running t' timer hone started unpublished latest =>
    have hsame : t = t' := by simpa [hone] using armed
    subst hsame
    refine .expired t timer (by simp [hone]) (by simp [started]) unpublished ?_
    rcases latest with hempty | hwaiting
    · exact hempty
    · exact separate _ hwaiting
  | expired _ _ hnone _ _ _ => simp [hnone] at armed

theorem Phase.deferEmptyState (h : Phase state) (opened : state.closed = false)
    (latest : state.latest = []) :
    Phase (deferEmptyState { state with waiting := none }) := by
  unfold Resolver.deferEmptyState
  cases h with
  | idle timer armed started =>
    split
    · exact .idle timer armed started
    · rename_i hfresh
      refine .running state.timers rfl (by simp [armed]) started ?_ (.inl latest)
      simpa [opened, timer] using hfresh
  | running t timer armed started unpublished _ =>
    rw [if_pos (by simp [timer])]
    exact .running t timer armed started unpublished (.inl latest)
  | expired t timer armed started unpublished _ =>
    rw [if_pos (by simp [timer])]
    exact .expired t timer armed started unpublished latest

/-- With a valid endpoint no callback is waiting, and the running timer is stopped. -/
theorem Phase.stopTimer (h : Phase state) (latest : state.latest ≠ []) :
    let stopped := stopTimer { state with waiting := none }
    stopped.emptyStateTimer = none ∧ stopped.armed = [] ∧ stopped.started = 0 := by
  unfold Resolver.stopTimer
  cases h with
  | idle timer armed started => simp [timer, armed, started]
  | running t timer armed started _ _ => simp [timer, armed, started]
  | expired _ _ _ _ _ hempty => exact absurd hempty latest

@[simp] theorem stopTimer_frame (state : State) :
    (stopTimer state).closed = state.closed ∧ (stopTimer state).waiting = state.waiting ∧
      (stopTimer state).latest = state.latest ∧ (stopTimer state).published = state.published ∧
      (stopTimer state).started = state.started := by
  unfold stopTimer
  split <;> simp

@[simp] theorem deferEmptyState_frame (state : State) :
    (deferEmptyState state).closed = state.closed ∧
      (deferEmptyState state).waiting = state.waiting ∧
      (deferEmptyState state).published = state.published := by
  unfold deferEmptyState
  split <;> simp

theorem mem_publish {addrs : List Address} {publication : Publication} :
    publication ∈ (publishStateLocked addrs state).published ↔
      publication ∈ state.published ∨ publication = ⟨addrs, state.latest, state.closed⟩ := by
  simp [publishStateLocked]

theorem inv_update {addrs : List Address} (h : Inv state) (hwaiting : state.waiting = some addrs) :
    Inv (update addrs { state with waiting := none }) := by
  have hlatest := h.waiting addrs hwaiting
  unfold update
  by_cases hempty : addrs = []
  · rw [if_pos hempty]
    refine ⟨by simp, fun hopen => ?_, by simpa using h.published⟩
    have hopened : state.closed = false := by simpa using hopen
    exact (h.phase hopened).deferEmptyState hopened (hlatest.trans hempty)
  · rw [if_neg hempty]
    by_cases hclosed : state.closed = true
    · rw [if_pos hclosed]
      exact ⟨by simp, fun hopen => by simp [hclosed] at hopen, h.published⟩
    · rw [if_neg hclosed]
      obtain ⟨timer, armed, started⟩ :=
        (h.phase (Bool.eq_false_iff.mpr hclosed)).stopTimer (by rwa [hlatest])
      refine ⟨by simp [publishStateLocked], fun _ => .idle timer armed started, ?_⟩
      intro publication hpublication
      rcases mem_publish.mp hpublication with hold | rfl
      · exact h.published publication (by simpa using hold)
      · exact fun hnone => absurd hnone hempty

theorem inv_callback (h : Inv state) (hstarted : 0 < state.started) :
    Inv (publishEmptyState { state with started := state.started - 1 }) := by
  unfold publishEmptyState
  by_cases hclosed : state.closed = true
  · rw [if_pos (.inl hclosed)]
    exact ⟨h.waiting, fun hopen => by simp [hclosed] at hopen, h.published⟩
  · cases h.phase (Bool.eq_false_iff.mpr hclosed) with
    | idle _ _ started => simp [started] at hstarted
    | running _ _ _ started _ _ => simp [started] at hstarted
    | expired t timer armed started unpublished latest =>
      rw [if_neg (by simp [hclosed, unpublished])]
      refine ⟨h.waiting, fun _ => .idle rfl armed (by simp [publishStateLocked, started]), ?_⟩
      intro publication hpublication
      rcases mem_publish.mp hpublication with hold | rfl
      · exact h.published publication hold
      · exact fun _ => latest

theorem inv_close (h : Inv state) : Inv (close state) := by
  unfold close
  split
  · exact h
  · exact ⟨by simpa using h.waiting, fun hopen => by simp at hopen, by simpa using h.published⟩

theorem fire_inv {label : Label} (h : Inv state) (separate : Separate parse insecure state label)
    (hfire : fire parse insecure state label = some next) : Inv next := by
  cases label with
  | call ins =>
    obtain ⟨-, rfl⟩ := of_guard hfire
    refine ⟨fun addrs haddrs => Option.some.inj haddrs, fun hopen => ?_, h.published⟩
    exact (h.phase hopen).call (by simpa [Separate] using separate)
  | update =>
    obtain ⟨addrs, hwaiting, rfl⟩ := Option.map_eq_some_iff.mp hfire
    exact inv_update h hwaiting
  | expire t =>
    obtain ⟨harmed, rfl⟩ := of_guard hfire
    refine ⟨h.waiting, fun hopen => ?_, h.published⟩
    refine (h.phase hopen).expire (fun addrs haddrs => ?_) harmed
    simpa [Separate, Option.mem_def.mp haddrs] using separate
  | callback =>
    obtain ⟨hstarted, rfl⟩ := of_guard hfire
    exact inv_callback h hstarted
  | close =>
    cases hfire
    exact inv_close h

end Phases

section Runs

variable {parse : String → Option Url} {insecure : Bool} {state next : State}

def Open (state : State) : Prop :=
  ∀ publication ∈ state.published, publication.closed = false

theorem open_publish {addrs : List Address} (h : Open state) (hopen : ¬state.closed = true) :
    Open (publishStateLocked addrs state) := by
  intro publication hpublication
  rcases mem_publish.mp hpublication with hold | rfl
  · exact h publication hold
  · exact Bool.eq_false_iff.mpr hopen

theorem fire_open {label : Label} (h : Open state)
    (hfire : fire parse insecure state label = some next) : Open next := by
  cases label with
  | call ins | expire t =>
    obtain ⟨-, rfl⟩ := of_guard hfire
    exact h
  | update =>
    obtain ⟨addrs, -, rfl⟩ := Option.map_eq_some_iff.mp hfire
    unfold update
    split
    · simpa [Open] using h
    · split
      · exact h
      · rename_i hopen
        exact open_publish (by simpa [Open] using h) (by simpa using hopen)
  | callback =>
    obtain ⟨-, rfl⟩ := of_guard hfire
    unfold publishEmptyState
    split
    · exact h
    · rename_i hopen
      exact open_publish h fun hclosed => hopen (.inl hclosed)
  | close =>
    cases hfire
    unfold close
    split
    · exact h
    · simpa [Open] using h

variable (parse insecure)

/-- Nothing is published after `Close`. An empty list is published only while the
most recent update call had no valid endpoint, as long as no callback and update
with a valid endpoint wait for the lock together. -/
theorem empty_published_only_when_stale (labels : List Label) :
    (∀ publication ∈ (run (step parse insecure) {} labels).published,
        publication.closed = false) ∧
      (Along (step parse insecure) (fun state label => Separate parse insecure state label = true)
          {} labels →
        ∀ publication ∈ (run (step parse insecure) {} labels).published,
          publication.addresses = [] → publication.latest = []) := by
  constructor
  · have hopen : Open (run (step parse insecure) {} labels) :=
      run_invariant labels (fun _ _ h => guarded_keeps h fun _ => fire_open h)
        fun _ hnone => absurd hnone List.not_mem_nil
    exact hopen
  · intro separate
    have hinv : Inv (run (step parse insecure) {} labels) := by
      refine separate.invariant (fun _ _ h hok => guarded_keeps h fun _ => fire_inv h hok) ?_
      exact ⟨by simp, fun _ => .idle rfl rfl rfl, by simp⟩
    exact hinv.published

def grpcOnly (endpoint : String) : Option Url :=
  some ⟨"grpc", endpoint, false⟩

/-- An address, nothing for longer than the grace period, and an address again. -/
theorem empty_published_between :
    let snapshot : List ServiceInstance := [{ endpoints := ["host:1"] }]
    let labels : List Label := [.call snapshot, .update, .call [], .update, .expire 0, .callback,
      .call snapshot, .update]
    let published := (run (step grpcOnly true) {} labels).published
    published.map (·.addresses.map (·.addr)) = [["host:1"], [], ["host:1"]] ∧
      ∀ publication ∈ published, publication.addresses = [] → publication.latest = [] :=
  ⟨by decide +kernel,
    (empty_published_only_when_stale grpcOnly true _).2 (by decide +kernel)⟩

/-- The timer expires, and its callback has to wait while a fresh snapshot is
published: it then publishes the empty list over that. -/
theorem stale_callback_publishes_empty :
    let labels : List Label := [.call [], .update, .expire 0, .call [{ endpoints := ["host:1"] }],
      .update, .callback]
    let published := (run (step grpcOnly true) {} labels).published
    published.map (·.addresses.map (·.addr)) = [["host:1"], []] ∧
      published.map (·.latest.map (·.addr)) = [["host:1"], ["host:1"]] := by
  decide +kernel

end Runs

end Goshop.Discovery.Resolver
