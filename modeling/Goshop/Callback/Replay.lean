import Goshop.Callback.Handler

/-! Replays of a signed callback. A nonce is kept for twice the allowed skew, which
is as long as the signature can be valid: from its first to its last moment. The
nonce is reserved later than the signature is checked, and it is gone at the last
moment already if it was reserved at the first. -/
namespace Goshop.Callback.Replay

open Goshop.Errors Goshop.Lib Goshop.Lib.Transaction Goshop.Lib.Process Goshop.Lib.Run
open Goshop.Callback.Handler

variable {ι : Type}

section Window

local instance arrivalsNeZero : @NeZero Nat ⟨0⟩ 2 := ⟨Nat.succ_ne_zero _⟩

variable {codec : Codec} {handler : CallbackHandler} {req : Request}

def signedAt (req : Request) : Int := (parseInt req.timestamp).getD 0 * 10 ^ 9

def closesAt (handler : CallbackHandler) (req : Request) : Int :=
  signedAt req + handler.opts.callbackMaxSkew.ns

theorem wrap_spec (value : Int) :
    ∃ turns : Int, wrap value = value - turns * 2 ^ 64 ∧
      -2 ^ 63 ≤ wrap value ∧ wrap value < 2 ^ 63 := by
  have hdiv := Int.bdiv_add_bmod value (2 ^ 64)
  have hlow : -((2 ^ 64 : Nat) / 2) ≤ value.bmod (2 ^ 64) := Int.le_bmod (by omega)
  have hhigh : value.bmod (2 ^ 64) < ((2 ^ 64 : Nat) + 1) / 2 := Int.bmod_lt (by omega)
  refine ⟨value.bdiv (2 ^ 64), ?_⟩
  unfold wrap
  omega

/-- A verified request whose nonce can be stored is not too new, and the nonce is
kept for twice the skew. -/
theorem verifyAt_window {provider nonce : String} {unix now : Int}
    (h : verifyAt codec handler req provider nonce unix now = true)
    (httl : 0 < wrap (2 * handler.opts.callbackMaxSkew.ns)) :
    wrap (2 * handler.opts.callbackMaxSkew.ns) = 2 * handler.opts.callbackMaxSkew.ns ∧
      unix * 10 ^ 9 - handler.opts.callbackMaxSkew.ns ≤ now := by
  have hrange := handler.opts.callbackMaxSkew.inRange
  simp only [verifyAt] at h
  split at h
  · cases h
  next hskew =>
    obtain ⟨turns, hwrap, hlow, hhigh⟩ := wrap_spec (2 * handler.opts.callbackMaxSkew.ns)
    obtain ⟨turns', hneg, hlow', hhigh'⟩ := wrap_spec (-handler.opts.callbackMaxSkew.ns)
    simp only [timeSub, not_or, not_lt] at hskew
    omega

end Window

section Steps

variable (codec : Codec) (handler : CallbackHandler) (req : Request)

/-- The nonce has been reserved by one arrival at most, until the end of the window
or longer, and no other arrival has reached the service. -/
structure Guarded (world : World ι) : Prop where
  granted : (world.nonces (nonceKey codec req) = none ∧ world.granted = []) ∨
    ∃ expiry arrival, world.nonces (nonceKey codec req) = some expiry ∧
      closesAt handler req ≤ expiry ∧ world.granted = [arrival]
  processed : world.processed ⊆ world.granted

structure Keeps (world world' : World ι) : Prop where
  guarded : Guarded codec handler req world → Guarded codec handler req world'
  clock : world.clock ≤ world'.clock
  granted : world.granted ⊆ world'.granted

variable {codec handler req} {world : World ι}

theorem Keeps.refl (world : World ι) : Keeps codec handler req world world :=
  ⟨id, le_rfl, List.Subset.refl _⟩

theorem Keeps.trans (first second third : World ι) (h : Keeps codec handler req first second)
    (h' : Keeps codec handler req second third) : Keeps codec handler req first third :=
  ⟨h'.guarded ∘ h.guarded, h.clock.trans h'.clock, List.Subset.trans h.granted h'.granted⟩

/-- No nonce that has been reserved is asked for again after both its key and the
window of the signature are gone. -/
def Timely (handler : CallbackHandler) (req : Request) (request : Call ι) (choice : Choice)
    (world : World ι) : Prop :=
  match request with
  | .reserve _ nonce _ => ∀ expiry ∈ world.nonces nonce,
      stepTime choice world < expiry ∨ stepTime choice world < closesAt handler req
  | _ => True

theorem passed_keeps (elapsed : Nat) :
    Keeps codec handler req world { world with clock := world.clock + elapsed } :=
  ⟨fun h => ⟨h.granted, h.processed⟩, by simp, List.Subset.refl _⟩

theorem readBody_keeps (choice : Choice) :
    Keeps codec handler req world (exec .readBody choice world).2 := by
  apply call_preserves
  · exact passed_keeps choice.elapsed
  · exact passed_keeps choice.elapsed

theorem now_keeps (choice : Choice) :
    Keeps codec handler req world (exec .now choice world).2 :=
  passed_keeps choice.elapsed

theorem reserve_keeps {arrival : ι} {ttl : Int}
    (hverified : 0 < ttl → closesAt handler req ≤ world.clock + ttl)
    (htimely : ∀ expiry ∈ world.nonces (nonceKey codec req),
      world.clock < expiry ∨ world.clock < closesAt handler req) :
    Keeps codec handler req world (reserve arrival (nonceKey codec req) ttl world).2 := by
  unfold reserve
  split
  · exact .refl world
  split
  · exact .refl world
  next hvalid hfree =>
    have httl : 0 < ttl := by simpa using (not_or.mp hvalid).2
    refine ⟨fun h => ?_, le_rfl, List.subset_cons_self _ _⟩
    rcases h.granted with ⟨hnone, hgranted⟩ | ⟨expiry, holder, hset, hlong, -⟩
    · refine ⟨.inr ⟨world.clock + ttl, arrival, by simp, hverified httl, by simp [hgranted]⟩, ?_⟩
      exact List.Subset.trans h.processed (List.subset_cons_self _ _)
    · -- The key would have to be gone before the window is.
      have hgone : ¬world.clock < expiry := by simpa [hset] using hfree
      have := htimely expiry hset
      omega

theorem exec_reserve_keeps {arrival : ι} {ttl : Int} (choice : Choice)
    (hverified : 0 < ttl → closesAt handler req ≤ world.clock + ttl)
    (htimely : Timely handler req (.reserve arrival (nonceKey codec req) ttl) choice world) :
    Keeps codec handler req world
      (exec (.reserve arrival (nonceKey codec req) ttl) choice world).2 := by
  refine (passed_keeps choice.elapsed).trans _ _ _ ?_
  apply call_preserves
  · exact .refl _
  · refine reserve_keeps (fun httl => ?_) htimely
    have := hverified httl
    dsimp only
    omega

theorem exec_reserve_granted {arrival : ι} {nonce : String} {ttl : Int} {choice : Choice}
    (h : (exec (.reserve arrival nonce ttl) choice world).1 = .ok true) :
    arrival ∈ (exec (.reserve arrival nonce ttl) choice world).2.granted := by
  obtain ⟨houtcome, hserve⟩ := call_value h
  simp only [exec, serve, houtcome, call_okay]
  unfold reserve at hserve ⊢
  split at hserve
  · cases hserve
  split at hserve
  · cases hserve
  next hvalid hfree =>
    rw [if_neg hvalid, if_neg hfree]
    exact List.mem_cons_self

theorem process_keeps {arrival : ι} {callback : Gateway.CallbackRequest} (choice : Choice)
    (hgranted : arrival ∈ world.granted) :
    Keeps codec handler req world (exec (.processPayCallback arrival callback) choice world).2 := by
  refine ⟨fun h => ⟨h.granted, ?_⟩, by simp [exec, serve, stepTime], List.Subset.refl _⟩
  exact List.cons_subset.mpr ⟨hgranted, h.processed⟩

end Steps

section Programs

variable {codec : Codec} {handler : CallbackHandler} {req : Request}

abbrev SafeArrival (codec : Codec) (handler : CallbackHandler) (req : Request) {α : Type}
    (pre : World ι → Prop) (program : Program ι α) : Prop :=
  Safe exec (Timely handler req) (Keeps codec handler req) (Keeps codec handler req)
    (fun _ _ => True) pre program

theorem stable_true : Stable (Keeps codec handler req) fun _ : World ι => True :=
  fun _ _ _ _ => trivial

theorem stopped {α : Type} {pre : World ι → Prop} (stable : Stable (Keeps codec handler req) pre)
    (value : α) : SafeArrival codec handler req pre (.ret value) :=
  .ret stable fun _ _ => trivial

theorem finish_safe (arrival : ι) :
    SafeArrival codec handler req (fun world => arrival ∈ world.granted)
      (finish codec req arrival) := by
  have hstable : Stable (Keeps codec handler req) fun world : World ι => arrival ∈ world.granted :=
    fun _ _ hgranted hkeeps => hkeeps.granted hgranted
  unfold finish
  split
  · exact stopped hstable _
  · split
    · exact stopped hstable _
    · refine .call (fun _ _ => True) hstable ?_ fun result => ?_
      · intro world choice hgranted _
        exact ⟨process_keeps choice hgranted, trivial⟩
      · cases result with
        | error err => exact stopped stable_true _
        | ok duplicate => exact stopped stable_true _

theorem replayGuard_safe (arrival : ι) {now : Int}
    (hverified : 0 < wrap (2 * handler.opts.callbackMaxSkew.ns) →
      closesAt handler req ≤ now + wrap (2 * handler.opts.callbackMaxSkew.ns)) :
    SafeArrival codec handler req (fun world => now ≤ world.clock)
      (replayGuard codec handler req arrival) := by
  have hstable : Stable (Keeps codec handler req) fun world : World ι => now ≤ world.clock :=
    fun _ _ hnow hkeeps => hnow.trans hkeeps.clock
  unfold replayGuard
  split
  · exact stopped hstable _
  · refine .call (fun reserved world => reserved = .ok true → arrival ∈ world.granted) hstable
      ?_ fun reserved => ?_
    · intro world choice hnow htimely
      refine ⟨exec_reserve_keeps choice (fun httl => ?_) htimely, exec_reserve_granted⟩
      have := hverified httl
      omega
    · have hgranted : Stable (Keeps codec handler req) fun world : World ι =>
          reserved = .ok true → arrival ∈ world.granted :=
        fun _ _ h hkeeps hreserved => hkeeps.granted (h hreserved)
      match reserved, hgranted with
      | .error _, hgranted => exact stopped hgranted _
      | .ok false, hgranted => exact stopped hgranted _
      | .ok true, hgranted => exact (finish_safe arrival).weaken hgranted fun _ h => h rfl

theorem handle_safe (arrival : ι) :
    SafeArrival codec handler req (fun _ => True) (handle codec handler req arrival) := by
  unfold handle
  split
  · exact stopped stable_true _
  refine .call (fun _ _ => True) stable_true (fun _ choice _ _ => ⟨readBody_keeps choice, trivial⟩)
    fun body => ?_
  cases body with
  | error err => exact stopped stable_true _
  | ok value =>
    split
    · exact stopped stable_true _
    unfold verify
    split
    · exact stopped stable_true _
    next unix hunix =>
      refine .call (fun now world => now ≤ world.clock) stable_true
        (fun _ choice _ _ => ⟨now_keeps choice, le_rfl⟩) fun now => ?_
      have hstable : Stable (Keeps codec handler req) fun world : World ι => now ≤ world.clock :=
        fun _ _ hnow hkeeps => hnow.trans hkeeps.clock
      simp only [Proc.bind]
      split
      next hverified =>
        refine replayGuard_safe arrival fun httl => ?_
        obtain ⟨httl, hopen⟩ := verifyAt_window hverified httl
        simp only [closesAt, signedAt, hunix, Option.getD_some, httl]
        omega
      · exact stopped hstable _

end Programs

section Runs

variable [DecidableEq ι]

def arrivals (codec : Codec) (handler : CallbackHandler) (req : Request) (world : World ι) :
    Config (World ι) ι (Call ι) Reply (Except AppError Bool) :=
  ⟨world, handle codec handler req⟩

/-- However many arrivals there are and however long they take: one of them reaches
the service at most, if no reservation comes too late. -/
theorem callback_reaches_once (codec : Codec) (handler : CallbackHandler) (req : Request)
    {world : World ι} (hnonce : world.nonces (nonceKey codec req) = none)
    (hgranted : world.granted = []) (hprocessed : world.processed = [])
    (steps : List (ι × Choice))
    (htimely : Along (move exec) (Admitted fun _ => Timely handler req)
      (arrivals codec handler req world) steps) :
    ∀ first ∈ (run (move exec) (arrivals codec handler req world) steps).shared.processed,
      ∀ second ∈ (run (move exec) (arrivals codec handler req world) steps).shared.processed,
        first = second := by
  have hstart : Guarded codec handler req world :=
    ⟨.inl ⟨hnonce, hgranted⟩, by simp [hprocessed]⟩
  have hsafe : AllSafe exec (fun _ => Timely handler req) (Keeps codec handler req)
      (arrivals codec handler req world) :=
    fun arrival => ⟨_, _, trivial, handle_safe arrival⟩
  have hend := (hsafe.run Keeps.refl Keeps.trans htimely).guarded hstart
  intro first hfirst second hsecond
  have hfirst := hend.processed hfirst
  have hsecond := hend.processed hsecond
  rcases hend.granted with ⟨-, hnone⟩ | ⟨_, holder, -, -, hone⟩
  · simp [hnone] at hfirst
  · rw [hone, List.mem_singleton] at hfirst hsecond
    rw [hfirst, hsecond]

section Window

def sampleCodec : Codec where
  table := GoText.asciiTable
  hmac := fun _ _ => [0]
  unmarshal := fun _ => some ⟨"evt-1", "payment_succeeded", "order-1", "T-1", 100⟩

def sampleHandler : CallbackHandler where
  opts := { callbackSecret := "secret", callbackMaxSkew := ⟨60000000000, by decide⟩ }

def sampleRequest : Request where
  provider := "mock"
  timestamp := "1700000000"
  nonce := "nonce-1"
  signature := "00"
  body := []

def sampleStart : World (Fin 2) where
  clock := 1700000000000000000 - 60000000000

def step (arrival : Fin 2) (elapsed : Nat) : Fin 2 × Choice := (arrival, { elapsed := elapsed })

def processedBy (steps : List (Fin 2 × Choice)) : List (Fin 2) :=
  (run (move exec) (arrivals sampleCodec sampleHandler sampleRequest sampleStart)
    steps).shared.processed

instance (handler : CallbackHandler) (req : Request) (request : Call ι) (choice : Choice)
    (world : World ι) : Decidable (Timely handler req request choice world) :=
  match request with
  | .reserve _ nonce _ => inferInstanceAs (Decidable (∀ expiry ∈ world.nonces nonce,
      stepTime choice world < expiry ∨ stepTime choice world < closesAt handler req))
  | .readBody => .isTrue trivial
  | .now => .isTrue trivial
  | .processPayCallback _ _ => .isTrue trivial

def timelySteps : List (Fin 2 × Choice) :=
  [step 0 0, step 0 0, step 0 0, step 0 0, step 1 119000000000, step 1 0, step 1 0]

theorem callback_reaches_once_timely :
    0 ∈ processedBy timelySteps ∧ ∀ second ∈ processedBy timelySteps, 0 = second :=
  ⟨by decide +kernel, callback_reaches_once sampleCodec sampleHandler sampleRequest rfl rfl rfl
    timelySteps (by decide +kernel) 0 (by decide +kernel)⟩

def boundarySteps : List (Fin 2 × Choice) :=
  [step 0 0, step 0 0, step 0 0, step 0 0, step 1 120000000000, step 1 0, step 1 0, step 1 0]

def delayedSteps : List (Fin 2 × Choice) :=
  [step 0 0, step 0 0, step 0 0, step 0 0, step 1 60000000000, step 1 0, step 1 61000000000,
    step 1 0]

theorem replay_reaches_twice :
    processedBy boundarySteps = [1, 0] ∧ processedBy delayedSteps = [1, 0] := by
  decide +kernel

end Window

end Runs

end Goshop.Callback.Replay
