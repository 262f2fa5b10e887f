import Goshop.Lib.Run
import Mathlib.Logic.Function.Basic

/-! The watchers of one service in the registry client. A resolver stores each new
list of instances and then notifies the watchers without waiting for them; a
watcher that is notified reads the list that is stored by then. Each step below is
what a goroutine does between two points where another one may come in. -/
namespace Goshop.Discovery.Watch

open Goshop.Lib.Run

section Model

inductive WatchStage where
  | new
  | locked
  | added
  /-- The list was not empty: the initial send comes next. -/
  | pushing
  | settled
  | returned
deriving DecidableEq, Repr

inductive BroadcastStage (ω : Type) where
  | idle
  | stored
  | sending (left : List ω)
deriving DecidableEq, Repr

/-- A service set with its watchers `ω` and with the broadcasts `β` that resolvers
have under way. Of the registry only its lock matters, which `Watch` holds from
its first to its last step. -/
structure State (ω β α : Type) where
  lock : Option ω
  services : Option (List α)
  watcher : List ω
  /-- The readers that hold the lock of the set. -/
  readers : Nat
  /-- Something is in the one-slot channel of the watcher. -/
  event : ω → Bool
  cancelled : ω → Bool
  watch : ω → WatchStage
  broadcast : β → BroadcastStage ω
  /-- The `Next` calls that have left their `select`. -/
  receiving : ω → Nat
  /-- What `Next` returned last. -/
  last : ω → List α

variable {ω β α : Type}

/-- The stored list; before the first `Store` a load gives the empty one. -/
def State.current (state : State ω β α) : List α :=
  state.services.getD []

def start : State ω β α where
  lock := none
  services := none
  watcher := []
  readers := 0
  event _ := false
  cancelled _ := false
  watch _ := .new
  broadcast _ := .idle
  receiving _ := 0
  last _ := []

inductive Label (ω β α : Type) where
  | lock (w : ω)
  | addWatcher (w : ω)
  | load (w : ω)
  | push (w : ω)
  | unlock (w : ω)
  | store (b : β) (ss : List α)
  | rLock (b : β)
  | send (b : β) (w : ω)
  | rUnlock (b : β)
  | cancel (w : ω)
  | removeWatcher (w : ω)
  | receive (w : ω)
  | done (w : ω)
  | nextLoad (w : ω)
deriving DecidableEq, Repr

variable [DecidableEq ω] [DecidableEq β]

/-- The transitions; `none` where the goroutine has to wait or is elsewhere. -/
def fire (state : State ω β α) : Label ω β α → Option (State ω β α)
  -- Watch
  | .lock w =>
    if state.lock = none ∧ state.watch w = .new then
      some { state with
        lock := some w
        watch := Function.update state.watch w .locked }
    else none
  | .addWatcher w =>
    if state.watch w = .locked ∧ state.readers = 0 then
      some { state with
        watcher := state.watcher ++ [w]
        watch := Function.update state.watch w .added }
    else none
  | .load w =>
    if state.watch w = .added then
      some { state with
        watch := Function.update state.watch w
          (if state.current.isEmpty then .settled else .pushing) }
    else none
  | .push w =>
    if state.watch w = .pushing ∧ state.event w = false then
      some { state with
        event := Function.update state.event w true
        watch := Function.update state.watch w .settled }
    else none
  -- startResolver, which never fails, and the return
  | .unlock w =>
    if state.watch w = .settled then
      some { state with
        lock := none
        watch := Function.update state.watch w .returned }
    else none
  -- broadcast
  | .store b ss =>
    if state.broadcast b = .idle then
      some { state with
        services := some ss
        broadcast := Function.update state.broadcast b .stored }
    else none
  | .rLock b =>
    if state.broadcast b = .stored then
      some { state with
        readers := state.readers + 1
        broadcast := Function.update state.broadcast b (.sending state.watcher) }
    else none
  | .send b w =>
    match state.broadcast b with
    | .sending left =>
      -- A full channel stays full.
      if w ∈ left then
        some { state with
          event := Function.update state.event w true
          broadcast := Function.update state.broadcast b (.sending (left.erase w)) }
      else none
    | _ => none
  | .rUnlock b =>
    if state.broadcast b = .sending [] then
      some { state with
        readers := state.readers - 1
        broadcast := Function.update state.broadcast b .idle }
    else none
  -- Stop, or the end of the caller's context
  | .cancel w => some { state with cancelled := Function.update state.cancelled w true }
  | .removeWatcher w =>
    if state.watch w = .returned ∧ state.cancelled w ∧ state.readers = 0 then
      some { state with watcher := state.watcher.erase w }
    else none
  -- Next
  | .receive w =>
    if state.watch w = .returned ∧ state.event w then
      some { state with
        event := Function.update state.event w false
        receiving := Function.update state.receiving w (state.receiving w + 1) }
    else none
  | .done w =>
    if state.watch w = .returned ∧ state.cancelled w then
      some { state with
        receiving := Function.update state.receiving w (state.receiving w + 1) }
    else none
  | .nextLoad w =>
    if 0 < state.receiving w then
      some { state with
        receiving := Function.update state.receiving w (state.receiving w - 1)
        last := Function.update state.last w state.current }
    else none

def step : State ω β α → Label ω β α → State ω β α :=
  guarded fire

theorem fire_send {state next : State ω β α} {b : β} {w : ω}
    (h : fire state (.send b w) = some next) :
    ∃ left, state.broadcast b = .sending left ∧ w ∈ left ∧
      { state with
        event := Function.update state.event w true
        broadcast := Function.update state.broadcast b (.sending (left.erase w)) } = next := by
  simp only [fire] at h
  split at h
  · rename_i left hleft
    exact ⟨left, hleft, of_guard h⟩
  · cases h

end Model

section Updates

variable {ω β α : Type}

/-- The broadcast has stored its list and will still notify the watcher. -/
def Owes (w : ω) : BroadcastStage ω → Prop
  | .idle => False
  | .stored => True
  | .sending left => w ∈ left

/-- Why a watcher will come to know the stored list. -/
inductive Covered (state : State ω β α) (w : ω) : Prop
  | event (h : state.event w = true)
  | current (h : state.last w = state.current)
  | owed (b : β) (h : Owes w (state.broadcast b))
  | watching (h : state.watch w = .added ∨ state.watch w = .pushing)
  | receiving (h : 0 < state.receiving w)

structure Inv (state : State ω β α) : Prop where
  covered : ∀ w ∈ state.watcher, Covered state w
  untouched : ∀ w, state.watch w ≠ .returned → state.receiving w = 0 ∧ state.last w = []

/-- A step that stores no list, takes no event from the watcher and lets no
broadcast forget it leaves it covered, unless its `Watch` call goes on. -/
theorem Covered.frame {state next : State ω β α} {w : ω} (h : Covered state w)
    (event : state.event w = true → next.event w = true) (last : next.last w = state.last w)
    (services : next.services = state.services)
    (owed : ∀ b, Owes w (state.broadcast b) → Owes w (next.broadcast b))
    (watching : state.watch w = .added ∨ state.watch w = .pushing → Covered next w)
    (receiving : state.receiving w ≤ next.receiving w) : Covered next w := by
  cases h with
  | event h => exact .event (event h)
  | current h => exact .current (by rw [last, h, State.current, State.current, services])
  | owed b h => exact .owed b (owed b h)
  | watching h => exact watching h
  | receiving h => exact .receiving (Nat.lt_of_lt_of_le h receiving)

theorem owes_update [DecidableEq β] {broadcast : β → BroadcastStage ω} {b b' : β}
    {stage : BroadcastStage ω} {w : ω} (h : Owes w (broadcast b'))
    (hstage : Owes w (broadcast b) → Owes w stage) :
    Owes w (Function.update broadcast b stage b') := by
  rcases eq_or_ne b' b with rfl | hne
  · rw [Function.update_self]
    exact hstage h
  · rwa [Function.update_of_ne hne]

variable [DecidableEq ω] [DecidableEq β] {state next : State ω β α}

omit [DecidableEq β] in
theorem covered_watch {stage : WatchStage} {w w' : ω} (h : Covered state w')
    (event : state.event w' = true → next.event w' = true) (last : next.last = state.last)
    (services : next.services = state.services) (broadcast : next.broadcast = state.broadcast)
    (receiving : next.receiving = state.receiving)
    (watch : next.watch = Function.update state.watch w stage)
    (own : state.watch w = .added ∨ state.watch w = .pushing → Covered next w) :
    Covered next w' := by
  refine h.frame event (by rw [last]) services (fun b hb => by rwa [broadcast])
    (fun hwatch => ?_) (Nat.le_of_eq (congrFun receiving w').symm)
  rcases eq_or_ne w' w with rfl | hne
  · exact own hwatch
  · exact .watching (by rwa [watch, Function.update_of_ne hne])

section Labels

variable {w w' : ω} {b : β}

theorem addWatcher_covered (h : Inv state) (hfire : fire state (.addWatcher w) = some next)
    (hw' : w' ∈ next.watcher) : Covered next w' := by
  obtain ⟨⟨hlocked, -⟩, rfl⟩ := of_guard hfire
  rcases List.mem_append.mp hw' with hold | hnew
  · exact covered_watch (h.covered w' hold) id rfl rfl rfl rfl rfl (by simp [hlocked])
  · refine .watching (.inl ?_)
    rw [List.mem_singleton.mp hnew]
    exact Function.update_self w _ _

theorem load_covered (h : Inv state) (hfire : fire state (.load w) = some next)
    (hw' : w' ∈ next.watcher) : Covered next w' := by
  obtain ⟨hadded, rfl⟩ := of_guard hfire
  refine covered_watch (h.covered w' hw') id rfl rfl rfl rfl rfl fun _ => ?_
  by_cases hempty : state.current.isEmpty
  · -- Nothing was returned yet, and the stored list is empty too.
    have hlast := (h.untouched w (by simp [hadded])).2
    exact .current (hlast.trans (List.isEmpty_iff.mp hempty).symm)
  · exact .watching (.inr (by simp [hempty]))

theorem push_covered (h : Inv state) (hfire : fire state (.push w) = some next)
    (hw' : w' ∈ next.watcher) : Covered next w' := by
  obtain ⟨-, rfl⟩ := of_guard hfire
  refine covered_watch (h.covered w' hw') (fun hevent => ?_) rfl rfl rfl rfl rfl fun _ =>
    .event (Function.update_self w _ _)
  rcases eq_or_ne w' w with rfl | hne
  · exact Function.update_self w' _ _
  · exact (Function.update_of_ne hne _ _).trans hevent

theorem send_covered (h : Inv state) (hfire : fire state (.send b w) = some next)
    (hw' : w' ∈ next.watcher) : Covered next w' := by
  obtain ⟨left, hleft, -, rfl⟩ := fire_send hfire
  rcases eq_or_ne w' w with rfl | hne
  · exact .event (Function.update_self w' _ _)
  · refine (h.covered w' hw').frame (by simp [hne]) rfl rfl (fun b' hb' => ?_)
      (fun hwatch => .watching hwatch) (Nat.le_refl _)
    exact owes_update hb' (by simp [hleft, Owes, List.mem_erase_of_ne hne])

theorem rUnlock_covered (h : Inv state) (hfire : fire state (.rUnlock b) = some next)
    (hw' : w' ∈ next.watcher) : Covered next w' := by
  obtain ⟨hall, rfl⟩ := of_guard hfire
  refine (h.covered w' hw').frame id rfl rfl (fun b' hb' => ?_)
    (fun hwatch => .watching hwatch) (Nat.le_refl _)
  exact owes_update hb' (by simp [hall, Owes])

omit [DecidableEq ω] [DecidableEq β] in
theorem covered_next (w : ω) (h : Covered state w') (own : w' = w → Covered next w')
    (event : w' ≠ w → next.event w' = state.event w')
    (last : w' ≠ w → next.last w' = state.last w')
    (receiving : w' ≠ w → next.receiving w' = state.receiving w')
    (services : next.services = state.services) (broadcast : next.broadcast = state.broadcast)
    (watch : next.watch = state.watch) : Covered next w' := by
  by_cases hsame : w' = w
  · exact own hsame
  · refine h.frame (fun hevent => (event hsame).trans hevent) (last hsame) services
      (fun b hb => broadcast ▸ hb) (fun hwatch => .watching (watch ▸ hwatch)) ?_
    exact Nat.le_of_eq (receiving hsame).symm

end Labels

theorem fire_covered {label : Label ω β α} (h : Inv state) (hfire : fire state label = some next)
    {w' : ω} (hw' : w' ∈ next.watcher) : Covered next w' := by
  cases label with
  | lock w =>
    obtain ⟨⟨-, hnew⟩, rfl⟩ := of_guard hfire
    exact covered_watch (h.covered w' hw') id rfl rfl rfl rfl rfl (by simp [hnew])
  | addWatcher w => exact addWatcher_covered h hfire hw'
  | load w => exact load_covered h hfire hw'
  | push w => exact push_covered h hfire hw'
  | unlock w =>
    obtain ⟨hsettled, rfl⟩ := of_guard hfire
    exact covered_watch (h.covered w' hw') id rfl rfl rfl rfl rfl (by simp [hsettled])
  | store b ss =>
    obtain ⟨-, rfl⟩ := of_guard hfire
    exact .owed b (by simp [Owes])
  | rLock b =>
    obtain ⟨-, rfl⟩ := of_guard hfire
    exact .owed b (by simpa [Owes] using hw')
  | send b w => exact send_covered h hfire hw'
  | rUnlock b => exact rUnlock_covered h hfire hw'
  | cancel w =>
    cases hfire
    exact (h.covered w' hw').frame id rfl rfl (fun _ => id) (fun hwatch => .watching hwatch)
      (Nat.le_refl _)
  | removeWatcher w =>
    obtain ⟨-, rfl⟩ := of_guard hfire
    exact (h.covered w' (List.mem_of_mem_erase hw')).frame id rfl rfl (fun _ => id)
      (fun hwatch => .watching hwatch) (Nat.le_refl _)
  | receive w | done w =>
    obtain ⟨-, rfl⟩ := of_guard hfire
    refine covered_next w (h.covered w' hw') ?_ ?_ ?_ ?_ rfl rfl rfl
    · rintro rfl
      exact .receiving (by simp)
    all_goals simp +contextual
  | nextLoad w =>
    obtain ⟨-, rfl⟩ := of_guard hfire
    refine covered_next w (h.covered w' hw') ?_ ?_ ?_ ?_ rfl rfl rfl
    · rintro rfl
      exact .current (Function.update_self w' _ _)
    all_goals simp +contextual

theorem fire_untouched {label : Label ω β α} (h : Inv state) (hfire : fire state label = some next)
    {w' : ω} (hw' : next.watch w' ≠ .returned) : next.receiving w' = 0 ∧ next.last w' = [] := by
  have hbefore := h.untouched w'
  cases label with
  | lock w | addWatcher w | load w | push w | unlock w =>
    obtain ⟨hstage, rfl⟩ := of_guard hfire
    refine hbefore fun hreturned => ?_
    rcases eq_or_ne w' w with rfl | hne
    · simp [hreturned] at hstage
    · exact hw' (by simpa [hne] using hreturned)
  | store b _ | rLock b | rUnlock b =>
    obtain ⟨-, rfl⟩ := of_guard hfire
    exact hbefore hw'
  | send b w =>
    obtain ⟨left, -, -, rfl⟩ := fire_send hfire
    exact hbefore hw'
  | cancel w =>
    cases hfire
    exact hbefore hw'
  | removeWatcher w =>
    obtain ⟨-, rfl⟩ := of_guard hfire
    exact hbefore hw'
  | receive w | done w =>
    obtain ⟨⟨hreturned, -⟩, rfl⟩ := of_guard hfire
    have hne : w' ≠ w := fun heq => hw' (heq ▸ hreturned)
    simpa [hne] using hbefore hw'
  | nextLoad w =>
    obtain ⟨hreceiving, rfl⟩ := of_guard hfire
    have hne : w' ≠ w := by
      rintro rfl
      exact absurd (hbefore hw').1 (Nat.ne_of_gt hreceiving)
    simpa [hne] using hbefore hw'

theorem step_inv {label : Label ω β α} (h : Inv state) : Inv (step state label) :=
  guarded_keeps h fun _ hfire =>
    ⟨fun _ hw => fire_covered h hfire hw, fun _ hw => fire_untouched h hfire hw⟩

theorem run_inv (labels : List (Label ω β α)) : Inv (run step start labels) :=
  run_invariant labels (fun _ _ h => step_inv h)
    ⟨fun _ hw => absurd hw List.not_mem_nil, fun _ _ => ⟨rfl, rfl⟩⟩

/-- No broadcast, `Watch` or `Next` is between two of its steps. -/
structure Quiet (state : State ω β α) : Prop where
  broadcast : ∀ b, state.broadcast b = .idle
  watch : ∀ w, state.watch w = .new ∨ state.watch w = .returned
  next : ∀ w, state.receiving w = 0

/-- Whenever everything rests, a watcher has an event to read, or has read the
stored list. -/
theorem no_lost_update (labels : List (Label ω β α)) (quiet : Quiet (run step start labels))
    (w : ω) (registered : w ∈ (run step start labels).watcher) :
    (run step start labels).event w = true ∨
      (run step start labels).last w = (run step start labels).current := by
  cases (run_inv labels).covered w registered with
  | event h => exact .inl h
  | current h => exact .inr h
  | owed b h =>
    rw [quiet.broadcast b] at h
    exact h.elim
  | watching h => rcases quiet.watch w with hw | hw <;> simp [hw] at h
  | receiving h => exact absurd (quiet.next w) (Nat.ne_of_gt h)

/-- The second of two broadcasts finds the channel full; the watcher then reads its
list with the event of the first. -/
theorem no_lost_update_dropped_event :
    let labels : List (Label (Fin 1) (Fin 1) Nat) := [.lock 0, .addWatcher 0, .load 0, .unlock 0,
      .store 0 [1], .rLock 0, .send 0 0, .rUnlock 0, .store 0 [2], .rLock 0, .send 0 0,
      .rUnlock 0, .receive 0, .nextLoad 0]
    (run step start labels).current = [2] ∧ ((run step start labels).event 0 = true ∨
      (run step start labels).last 0 = (run step start labels).current) :=
  ⟨by decide +kernel, no_lost_update _ ⟨by decide +kernel, by decide +kernel, by decide +kernel⟩ 0
    (by decide +kernel)⟩

end Updates

section InitialSend

variable {ω β α : Type}

def Listed (stage : WatchStage) : Prop :=
  stage ≠ .new ∧ stage ≠ .locked

/-- The initial send of the `Watch` call is still to come, or it is not known yet
that there is none. -/
def Opening (stage : WatchStage) : Prop :=
  stage = .added ∨ stage = .pushing

instance (stage : WatchStage) : Decidable (Opening stage) :=
  inferInstanceAs (Decidable (_ ∨ _))

def Label.notified : Label ω β α → Option ω
  | .send _ w => some w
  | _ => none

/-- The step notifies no watcher between its `addWatcher` and its initial send. -/
def Undisturbed (state : State ω β α) (label : Label ω β α) : Prop :=
  ∀ w ∈ label.notified, ¬Opening (state.watch w)

instance (state : State ω β α) (label : Label ω β α) : Decidable (Undisturbed state label) :=
  inferInstanceAs (Decidable (∀ w ∈ label.notified, ¬Opening (state.watch w)))

structure Vacant (state : State ω β α) : Prop where
  listed : ∀ w ∈ state.watcher, Listed (state.watch w)
  left : ∀ b left, state.broadcast b = .sending left → ∀ w ∈ left, Listed (state.watch w)
  empty : ∀ w, ¬Listed (state.watch w) ∨ Opening (state.watch w) → state.event w = false

theorem listed_update [DecidableEq ω] {watch : ω → WatchStage} {w w' : ω} {stage : WatchStage}
    (h : Listed (watch w')) (hstage : Listed stage ∨ ¬Listed (watch w)) :
    Listed (Function.update watch w stage w') := by
  rcases eq_or_ne w' w with rfl | hne
  · rw [Function.update_self]
    exact hstage.resolve_right fun hnot => hnot h
  · rwa [Function.update_of_ne hne]

variable [DecidableEq ω] [DecidableEq β] {state next : State ω β α}

omit [DecidableEq β] in
theorem Vacant.watch {stage : WatchStage} {w : ω} (h : Vacant state)
    (watcher : ∀ w' ∈ next.watcher, w' ∈ state.watcher ∨ w' = w ∧ Listed stage)
    (broadcast : next.broadcast = state.broadcast)
    (event : ∀ w', w' ≠ w → next.event w' = state.event w')
    (watch : next.watch = Function.update state.watch w stage)
    (hstage : Listed stage ∨ ¬Listed (state.watch w))
    (own : ¬Listed stage ∨ Opening stage → next.event w = false) : Vacant next := by
  constructor
  · intro w' hw'
    rw [watch]
    rcases watcher w' hw' with hold | ⟨rfl, hlisted⟩
    · exact listed_update (h.listed w' hold) hstage
    · rwa [Function.update_self]
  · intro b left hleft w' hw'
    rw [watch]
    rw [broadcast] at hleft
    exact listed_update (h.left b left hleft w' hw') hstage
  · intro w' hw'
    rw [watch] at hw'
    rcases eq_or_ne w' w with rfl | hne
    · rw [Function.update_self] at hw'
      exact own hw'
    · rw [Function.update_of_ne hne] at hw'
      rw [event w' hne]
      exact h.empty w' hw'

omit [DecidableEq ω] in
theorem Vacant.broadcast {stage : BroadcastStage ω} {b : β} (h : Vacant state)
    (hstage : ∀ left, stage = .sending left → ∀ w ∈ left, Listed (state.watch w)) (b' : β)
    (left : List ω) (hleft : Function.update state.broadcast b stage b' = .sending left) :
    ∀ w ∈ left, Listed (state.watch w) := by
  rcases eq_or_ne b' b with rfl | hne
  · rw [Function.update_self] at hleft
    exact hstage left hleft
  · rw [Function.update_of_ne hne] at hleft
    exact h.left b' left hleft

section Labels

variable {w : ω} {b : β}

theorem lock_vacant (h : Vacant state) (hfire : fire state (.lock w) = some next) :
    Vacant next := by
  obtain ⟨⟨-, hnew⟩, rfl⟩ := of_guard hfire
  refine h.watch (fun _ => .inl) rfl (fun _ _ => rfl) rfl (.inr (by simp [Listed, hnew])) ?_
  exact fun _ => h.empty w (.inl (by simp [Listed, hnew]))

theorem addWatcher_vacant (h : Vacant state) (hfire : fire state (.addWatcher w) = some next) :
    Vacant next := by
  obtain ⟨⟨hlocked, -⟩, rfl⟩ := of_guard hfire
  refine h.watch (fun w' hw' => ?_) rfl (fun _ _ => rfl) rfl (.inl (by simp [Listed])) ?_
  · simpa [Listed] using hw'
  · exact fun _ => h.empty w (.inl (by simp [Listed, hlocked]))

theorem load_vacant (h : Vacant state) (hfire : fire state (.load w) = some next) :
    Vacant next := by
  obtain ⟨hadded, rfl⟩ := of_guard hfire
  refine h.watch (fun _ => .inl) rfl (fun _ _ => rfl) rfl (.inl ?_) ?_
  · split <;> simp [Listed]
  · exact fun _ => h.empty w (.inr (.inl hadded))

theorem rLock_vacant (h : Vacant state) (hfire : fire state (.rLock b) = some next) :
    Vacant next := by
  obtain ⟨-, rfl⟩ := of_guard hfire
  refine ⟨h.listed, h.broadcast ?_, h.empty⟩
  rintro left ⟨⟩
  exact h.listed

theorem send_vacant (h : Vacant state) (quiet : ¬Opening (state.watch w))
    (hfire : fire state (.send b w) = some next) : Vacant next := by
  obtain ⟨left, hleft, hmem, rfl⟩ := fire_send hfire
  refine ⟨h.listed, h.broadcast ?_, fun w' hw' => ?_⟩
  · rintro left' ⟨⟩ w' hw'
    exact h.left b left hleft w' (List.mem_of_mem_erase hw')
  · -- The notified watcher is listed and not opening.
    have hne : w' ≠ w := by
      rintro rfl
      rcases hw' with hunlisted | hopening
      · exact hunlisted (h.left b left hleft w' hmem)
      · exact quiet hopening
    exact (Function.update_of_ne hne _ _).trans (h.empty w' hw')

theorem receive_vacant (h : Vacant state) (hfire : fire state (.receive w) = some next) :
    Vacant next := by
  obtain ⟨-, rfl⟩ := of_guard hfire
  refine ⟨h.listed, h.left, fun w' hw' => ?_⟩
  rcases eq_or_ne w' w with rfl | hne
  · exact Function.update_self w' _ _
  · exact (Function.update_of_ne hne _ _).trans (h.empty w' hw')

end Labels

theorem fire_vacant {label : Label ω β α} (h : Vacant state) (quiet : Undisturbed state label)
    (hfire : fire state label = some next) : Vacant next := by
  cases label with
  | lock w => exact lock_vacant h hfire
  | addWatcher w => exact addWatcher_vacant h hfire
  | load w => exact load_vacant h hfire
  | push w =>
    obtain ⟨-, rfl⟩ := of_guard hfire
    exact h.watch (fun _ => .inl) rfl (fun _ hne => Function.update_of_ne hne _ _) rfl
      (.inl (by simp [Listed])) (by simp [Listed, Opening])
  | unlock w =>
    obtain ⟨-, rfl⟩ := of_guard hfire
    exact h.watch (fun _ => .inl) rfl (fun _ _ => rfl) rfl (.inl (by simp [Listed]))
      (by simp [Listed, Opening])
  | store b _ | rUnlock b =>
    obtain ⟨-, rfl⟩ := of_guard hfire
    exact ⟨h.listed, h.broadcast (by simp), h.empty⟩
  | rLock b => exact rLock_vacant h hfire
  | send b w => exact send_vacant h (quiet w rfl) hfire
  | cancel w =>
    cases hfire
    exact ⟨h.listed, h.left, h.empty⟩
  | removeWatcher w =>
    obtain ⟨-, rfl⟩ := of_guard hfire
    exact ⟨fun w' hw' => h.listed w' (List.mem_of_mem_erase hw'), h.left, h.empty⟩
  | receive w => exact receive_vacant h hfire
  | done w | nextLoad w =>
    obtain ⟨-, rfl⟩ := of_guard hfire
    exact ⟨h.listed, h.left, h.empty⟩

omit [DecidableEq ω] [DecidableEq β] in
theorem start_vacant : Vacant (start : State ω β α) where
  listed _ hw := absurd hw List.not_mem_nil
  left _ _ hleft := by cases hleft
  empty _ _ := rfl

/-- When no broadcast notifies a watcher whose `Watch` call has not come past its
initial send, that send finds the channel empty. -/
theorem initial_send_finds_room (labels : List (Label ω β α))
    (undisturbed : Along step Undisturbed start labels) (w : ω)
    (pushing : (run step start labels).watch w = .pushing) :
    (run step start labels).event w = false ∧
      (fire (run step start labels) (.push w)).isSome = true := by
  have hvacant : Vacant (run step start labels) :=
    undisturbed.invariant (fun _ _ h hquiet => guarded_keeps h fun _ => fire_vacant h hquiet)
      start_vacant
  have hempty := hvacant.empty w (.inr (.inr pushing))
  exact ⟨hempty, by simp [fire, pushing, hempty]⟩

theorem initial_send_finds_room_second_watcher :
    let labels : List (Label Nat (Fin 1) Nat) := [.lock 0, .addWatcher 0, .load 0, .unlock 0,
      .store 0 [1], .lock 1, .rLock 0, .send 0 0, .rUnlock 0, .addWatcher 1, .store 0 [2], .load 1]
    (run step start labels).watch 1 = .pushing ∧ ((run step start labels).event 1 = false ∧
      (fire (run step start labels) (.push 1)).isSome = true) :=
  ⟨by decide +kernel, initial_send_finds_room _ (by decide +kernel) 1 (by decide +kernel)⟩

def Held (state : State ω β α) : Prop :=
  ∀ w, state.watch w ≠ .new → state.watch w ≠ .returned → state.lock = some w

theorem fire_held {label : Label ω β α} (h : Held state) (hfire : fire state label = some next) :
    Held next := by
  intro w' hnew hreturned
  cases label with
  | lock w =>
    obtain ⟨⟨hfree, -⟩, rfl⟩ := of_guard hfire
    rcases eq_or_ne w' w with rfl | hne
    · rfl
    · have hlock := h w' (by simpa [hne] using hnew) (by simpa [hne] using hreturned)
      rw [hfree] at hlock
      cases hlock
  | addWatcher w | load w | push w =>
    obtain ⟨hstage, rfl⟩ := of_guard hfire
    rcases eq_or_ne w' w with rfl | hne
    · exact h w' (by simp [hstage]) (by simp [hstage])
    · exact h w' (by simpa [hne] using hnew) (by simpa [hne] using hreturned)
  | unlock w =>
    obtain ⟨hsettled, rfl⟩ := of_guard hfire
    have hne : w' ≠ w := by
      rintro rfl
      simp at hreturned
    have hlock := h w' (by simpa [hne] using hnew) (by simpa [hne] using hreturned)
    rw [h w (by simp [hsettled]) (by simp [hsettled])] at hlock
    exact absurd (Option.some.inj hlock).symm hne
  | store b _ | rLock b | rUnlock b =>
    obtain ⟨-, rfl⟩ := of_guard hfire
    exact h w' hnew hreturned
  | send b w =>
    obtain ⟨left, -, -, rfl⟩ := fire_send hfire
    exact h w' hnew hreturned
  | cancel w =>
    cases hfire
    exact h w' hnew hreturned
  | removeWatcher w | receive w | done w | nextLoad w =>
    obtain ⟨-, rfl⟩ := of_guard hfire
    exact h w' hnew hreturned

/-- The initial send finds the channel full. -/
def Blocked (w : ω) (state : State ω β α) : Prop :=
  state.watch w = .pushing ∧ state.event w = true

/-- Nobody but `Next` takes an event, and `Next` needs the watcher that `Watch` has
not returned. -/
theorem fire_blocked {label : Label ω β α} {w' : ω} (h : Blocked w' state)
    (hfire : fire state label = some next) : Blocked w' next := by
  obtain ⟨hpushing, hfull⟩ := h
  cases label with
  | lock w | addWatcher w | load w | unlock w =>
    obtain ⟨hstage, rfl⟩ := of_guard hfire
    have hne : w' ≠ w := by
      rintro rfl
      simp [hpushing] at hstage
    exact ⟨by simpa [hne] using hpushing, hfull⟩
  | push w =>
    obtain ⟨⟨-, hempty⟩, rfl⟩ := of_guard hfire
    have hne : w' ≠ w := by
      rintro rfl
      simp [hfull] at hempty
    exact ⟨by simpa [hne] using hpushing, by simpa [hne] using hfull⟩
  | store b _ | rLock b | rUnlock b =>
    obtain ⟨-, rfl⟩ := of_guard hfire
    exact ⟨hpushing, hfull⟩
  | send b w =>
    obtain ⟨left, -, -, rfl⟩ := fire_send hfire
    refine ⟨hpushing, ?_⟩
    rcases eq_or_ne w' w with rfl | hne
    · exact Function.update_self w' _ _
    · exact (Function.update_of_ne hne _ _).trans hfull
  | cancel w =>
    cases hfire
    exact ⟨hpushing, hfull⟩
  | receive w =>
    obtain ⟨⟨hreturned, -⟩, rfl⟩ := of_guard hfire
    have hne : w' ≠ w := by
      rintro rfl
      simp [hpushing] at hreturned
    exact ⟨hpushing, by simpa [hne] using hfull⟩
  | removeWatcher w | done w | nextLoad w =>
    obtain ⟨-, rfl⟩ := of_guard hfire
    exact ⟨hpushing, hfull⟩

theorem blocked_forever {labels : List (Label ω β α)} {w : ω}
    (h : Blocked w (run step start labels)) (later : List (Label ω β α)) :
    (run step start (labels ++ later)).lock = some w := by
  have hblocked : Blocked w (run step start (labels ++ later)) := by
    rw [run_append]
    exact run_invariant later (fun _ _ h => guarded_keeps h fun _ => fire_blocked h) h
  have hheld : Held (run step start (labels ++ later)) :=
    run_invariant _ (fun _ _ h => guarded_keeps h fun _ => fire_held h) fun _ hnew =>
      absurd rfl hnew
  exact hheld w (by simp [hblocked.1]) (by simp [hblocked.1])

/-- A broadcast notifies the new watcher between `addWatcher` and the load of the
list that it has just stored: the initial send waits for ever, and nobody gets the
lock of the registry any more. -/
theorem watch_blocked_by_broadcast :
    let labels : List (Label Nat (Fin 1) Nat) := [.lock 0, .addWatcher 0, .load 0, .unlock 0,
      .lock 1, .addWatcher 1, .store 0 [7], .rLock 0, .send 0 1, .load 1]
    (run step start labels).watch 1 = .pushing ∧ (run step start labels).event 1 = true ∧
      (fire (run step start labels) (.push 1)).isSome = false ∧
      ∀ later, (run step start (labels ++ later)).lock = some 1 :=
  ⟨by decide +kernel, by decide +kernel, by decide +kernel,
    blocked_forever ⟨by decide +kernel, by decide +kernel⟩⟩

end InitialSend

end Goshop.Discovery.Watch
