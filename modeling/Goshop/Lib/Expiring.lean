import Mathlib.Logic.Function.Basic

/-! A store whose entries may expire. An expired entry is as good as none: it is not
found, and a counter starts over. -/
namespace Goshop.Lib.Expiring

structure Entry (β : Type) where
  value : β
  expiry : Option Int := none
deriving DecidableEq, Repr

def Entry.live {β : Type} (entry : Entry β) (now : Int) : Bool :=
  entry.expiry.all (now < ·)

abbrev Store (κ β : Type) := κ → Option (Entry β)

variable {κ β : Type}

/-- The entry of a key, unless it has expired. -/
def lookup (store : Store κ β) (key : κ) (now : Int) : Option (Entry β) :=
  (store key).filter (·.live now)

def find (store : Store κ β) (key : κ) (now : Int) : Option β :=
  (lookup store key now).map (·.value)

variable {store : Store κ β} {key other : κ} {now : Int}

theorem lookup_of_live {entry : Entry β} (h : store key = some entry) (hlive : entry.live now) :
    lookup store key now = some entry := by
  simp [lookup, h, hlive]

theorem lookup_of_expired (h : ∀ entry ∈ store key, entry.live now = false) :
    lookup store key now = none := by
  unfold lookup
  cases hentry : store key with
  | none => rfl
  | some entry => simp [h entry hentry]

theorem entry_of_find {value : β} (h : find store key now = some value) :
    ∃ entry, store key = some entry ∧ entry.value = value := by
  simp only [find, lookup, Option.map_eq_some_iff, Option.filter_eq_some_iff] at h
  obtain ⟨entry, ⟨hentry, -⟩, hvalue⟩ := h
  exact ⟨entry, hentry, hvalue⟩

variable [DecidableEq κ]

def put (store : Store κ β) (key : κ) (entry : Entry β) : Store κ β :=
  Function.update store key (some entry)

def delete (store : Store κ β) (key : κ) : Store κ β :=
  Function.update store key none

/-- `INCR`: the count goes on with the expiry it has, or starts without one. -/
def incr (store : Store κ Int) (key : κ) (now : Int) : Int × Store κ Int :=
  let entry := (lookup store key now).getD ⟨0, none⟩
  (entry.value + 1, put store key { entry with value := entry.value + 1 })

def expire (store : Store κ β) (key : κ) (expiry : Int) : Store κ β :=
  Function.update store key ((store key).map ({ · with expiry := some expiry }))

@[simp] theorem put_same (entry : Entry β) : put store key entry key = some entry := by
  simp [put]

@[simp] theorem put_other (entry : Entry β) (h : other ≠ key) :
    put store key entry other = store other := by
  simp [put, h]

@[simp] theorem delete_same : delete store key key = none := by
  simp [delete]

@[simp] theorem delete_other (h : other ≠ key) : delete store key other = store other := by
  simp [delete, h]

@[simp] theorem expire_same (expiry : Int) :
    expire store key expiry key = (store key).map ({ · with expiry := some expiry }) := by
  simp [expire]

@[simp] theorem expire_other (expiry : Int) (h : other ≠ key) :
    expire store key expiry other = store other := by
  simp [expire, h]

end Goshop.Lib.Expiring
