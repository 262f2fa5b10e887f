import Goshop.Lib.Table
import Mathlib.Data.List.Forall2
import Mathlib.Data.List.Infix

/-! Outboxes. A row of an outbox holds a message from the transaction that has
decided to send it until the bus has taken it. Between the two nobody may lose the
row, and a row that counts as sent was sent; messages may go out more than once,
but those of one id are the same message. -/
namespace Goshop.Lib

variable {ι μ : Type}

structure OutboxRow (ι μ : Type) where
  id : ι
  message : μ
  done : Bool

structure Outbox (ι μ : Type) where
  rows : List (OutboxRow ι μ)
  bus : List (ι × μ)

namespace Outbox

def Holds (outbox : Outbox ι μ) (id : ι) (message : μ) : Prop :=
  ∃ row ∈ outbox.rows, row.id = id ∧ row.message = message

structure Sound (outbox : Outbox ι μ) : Prop where
  unique : (outbox.rows.map (·.id)).Nodup
  traced : ∀ sent ∈ outbox.bus, outbox.Holds sent.1 sent.2
  sent : ∀ row ∈ outbox.rows, row.done = true → (row.id, row.message) ∈ outbox.bus

variable {outbox outbox' : Outbox ι μ}

theorem Sound.message_eq (h : outbox.Sound) {id : ι} {first second : μ}
    (hfirst : outbox.Holds id first) (hsecond : outbox.Holds id second) : first = second := by
  obtain ⟨row, hrow, rfl, rfl⟩ := hfirst
  obtain ⟨other, hother, hid, rfl⟩ := hsecond
  rw [List.inj_on_of_nodup_map h.unique hother hrow hid]

theorem Sound.same_message (h : outbox.Sound) {id : ι} {first second : μ}
    (hfirst : (id, first) ∈ outbox.bus) (hsecond : (id, second) ∈ outbox.bus) : first = second :=
  h.message_eq (h.traced _ hfirst) (h.traced _ hsecond)

structure Step (outbox outbox' : Outbox ι μ) : Prop where
  sound : outbox'.Sound
  keeps : ∀ id message, outbox.Holds id message → outbox'.Holds id message
  grows : outbox.bus <+: outbox'.bus

theorem Step.refl (h : outbox.Sound) : Step outbox outbox :=
  ⟨h, fun _ _ hheld => hheld, List.prefix_rfl⟩

theorem Step.trans {outbox'' : Outbox ι μ} (h : Step outbox outbox') (h' : Step outbox' outbox'') :
    Step outbox outbox'' :=
  ⟨h'.sound, fun id message hheld => h'.keeps id message (h.keeps id message hheld),
    h.grows.trans h'.grows⟩

theorem Step.add (h : outbox.Sound) {row : OutboxRow ι μ} (hopen : row.done = false)
    (hfresh : ∀ other ∈ outbox.rows, other.id ≠ row.id)
    (hrows : outbox'.rows = outbox.rows ++ [row]) (hbus : outbox'.bus = outbox.bus) :
    Step outbox outbox' := by
  have hkeeps : ∀ id message, outbox.Holds id message → outbox'.Holds id message := by
    rintro id message ⟨other, hother, hsame⟩
    exact ⟨other, hrows ▸ List.mem_append_left _ hother, hsame⟩
  refine ⟨⟨?_, ?_, ?_⟩, hkeeps, hbus ▸ List.prefix_rfl⟩
  · rw [hrows]
    exact Table.nodup_snoc h.unique hfresh
  · intro sent hsent
    exact hkeeps _ _ (h.traced sent (hbus ▸ hsent))
  · intro other hother hdone
    rw [hbus]
    rcases List.mem_append.mp (hrows ▸ hother) with hold | hnew
    · exact h.sent other hold hdone
    · rw [List.mem_singleton.mp hnew, hopen] at hdone
      cases hdone

theorem Step.send (h : outbox.Sound) {id : ι} {message : μ} (hheld : outbox.Holds id message)
    (hrows : outbox'.rows = outbox.rows) (hbus : outbox'.bus = outbox.bus ++ [(id, message)]) :
    Step outbox outbox' := by
  have hkeeps : ∀ id message, outbox.Holds id message → outbox'.Holds id message := by
    rintro id message ⟨other, hother, hsame⟩
    exact ⟨other, hrows ▸ hother, hsame⟩
  refine ⟨⟨hrows ▸ h.unique, ?_, ?_⟩, hkeeps, hbus ▸ List.prefix_append _ _⟩
  · intro sent hsent
    rcases List.mem_append.mp (hbus ▸ hsent) with hold | hnew
    · exact hkeeps _ _ (h.traced sent hold)
    · rw [List.mem_singleton.mp hnew]
      exact hkeeps _ _ hheld
  · intro row hrow hdone
    rw [hbus]
    exact List.mem_append_left _ (h.sent row (hrows ▸ hrow) hdone)

/-- A row and the same row with another mark; a new mark as sent is right. -/
structure Marked (bus : List (ι × μ)) (row row' : OutboxRow ι μ) : Prop where
  id : row'.id = row.id
  message : row'.message = row.message
  sent : row'.done = true → row.done = true ∨ (row.id, row.message) ∈ bus

theorem Step.mark (h : outbox.Sound)
    (hrows : List.Forall₂ (Marked outbox.bus) outbox.rows outbox'.rows)
    (hbus : outbox'.bus = outbox.bus) : Step outbox outbox' := by
  have hkeeps : ∀ id message, outbox.Holds id message → outbox'.Holds id message := by
    rintro id message ⟨row, hrow, rfl, rfl⟩
    obtain ⟨row', hrow', hmarked⟩ := Table.exists_of_forall₂ hrows.flip hrow
    exact ⟨row', hrow', hmarked.id, hmarked.message⟩
  refine ⟨⟨?_, ?_, ?_⟩, hkeeps, hbus ▸ List.prefix_rfl⟩
  · have hids : outbox'.rows.map (·.id) = outbox.rows.map (·.id) := by
      rw [← List.forall₂_eq_eq_eq, List.forall₂_map_left_iff, List.forall₂_map_right_iff]
      exact hrows.flip.imp fun _ _ hmarked => hmarked.id
    rw [hids]
    exact h.unique
  · intro sent hsent
    exact hkeeps _ _ (h.traced sent (hbus ▸ hsent))
  · intro row' hrow' hdone
    obtain ⟨row, hrow, hmarked⟩ := Table.exists_of_forall₂ hrows hrow'
    rw [hbus, hmarked.id, hmarked.message]
    rcases hmarked.sent hdone with hold | hsent
    · exact h.sent row hrow hold
    · exact hsent

end Outbox

end Goshop.Lib
