import Mathlib.Data.List.Sort

/-! A queue that is worked off from the front in batches of a fixed size. An
entry of a batch clears some entries of the queue, itself among them or not; the
next batch is taken from what is left. -/
namespace Goshop.Lib.Batches

section Cut

variable {α : Type}

/-- The length of the shortest front with `count` entries that satisfy `keep`;
all of the queue when it has fewer. -/
def cut (keep : α → Bool) : Nat → List α → Nat
  | 0, _ => 0
  | _ + 1, [] => 0
  | count + 1, entry :: rest =>
    (if keep entry then cut keep count rest else cut keep (count + 1) rest) + 1

theorem take_filter (keep : α → Bool) (count : Nat) (queue : List α) :
    (queue.filter keep).take count = (queue.take (cut keep count queue)).filter keep := by
  induction queue generalizing count with
  | nil => simp
  | cons entry rest ih =>
    cases count with
    | zero => simp [cut]
    | succ count =>
      by_cases hkeep : keep entry
      · simp [cut, hkeep, ih]
      · simp [cut, hkeep, ih]

theorem cut_mono {keep keep' : α → Bool} (fewer : ∀ entry, keep' entry → keep entry)
    {count count' : Nat} (hcount : count ≤ count') (queue : List α) :
    cut keep count queue ≤ cut keep' count' queue := by
  induction queue generalizing count count' with
  | nil => cases count <;> simp [cut]
  | cons entry rest ih =>
    cases count with
    | zero => exact Nat.zero_le _
    | succ count =>
      obtain ⟨left, rfl⟩ : ∃ left, count' = left + 1 := ⟨count' - 1, by omega⟩
      have hleft : count ≤ left := by omega
      rw [cut, cut]
      apply Nat.add_le_add_right
      by_cases hkeep' : keep' entry
      · rw [if_pos hkeep', if_pos (fewer entry hkeep')]
        exact ih hleft
      · rw [if_neg hkeep']
        by_cases hkeep : keep entry
        · rw [if_pos hkeep]
          exact ih (by omega)
        · rw [if_neg hkeep]
          exact ih hcount

end Cut

section Rounds

variable {α : Type} (clears : α → α → Bool)

def cleared (served : List α) (entry : α) : Bool :=
  served.any (clears · entry)

theorem cleared_append (first second : List α) (entry : α) :
    cleared clears (first ++ second) entry =
      (cleared clears first entry || cleared clears second entry) :=
  List.any_append

def left (queue : List α) (front : Nat) : List α :=
  queue.filter fun entry => !cleared clears (queue.take front) entry

/-- How far into the queue the batches of the first rounds have come. -/
def reach (batch : Nat) (queue : List α) : Nat → Nat
  | 0 => 0
  | rounds + 1 =>
    cut (fun entry => !cleared clears (queue.take (reach batch queue rounds)) entry) batch queue

variable {clears}

theorem cleared_mono {served served' : List α} (h : served ⊆ served') {entry : α}
    (hcleared : cleared clears served entry) : cleared clears served' entry := by
  obtain ⟨server, hmem, hclears⟩ := List.any_eq_true.mp hcleared
  exact List.any_eq_true.mpr ⟨server, h hmem, hclears⟩

theorem reach_le_succ (batch : Nat) (queue : List α) (rounds : Nat) :
    reach clears batch queue rounds ≤ reach clears batch queue (rounds + 1) := by
  induction rounds with
  | zero => exact Nat.zero_le _
  | succ rounds ih =>
    rw [reach, reach]
    refine cut_mono (fun entry hkeep => ?_) (Nat.le_refl batch) queue
    simp only [Bool.not_eq_true', ← Bool.not_eq_true] at hkeep ⊢
    exact fun hcleared => hkeep (cleared_mono (List.take_subset_take_left queue ih) hcleared)

theorem take_left (batch : Nat) (queue : List α) (rounds : Nat) :
    (left clears queue (reach clears batch queue rounds)).take batch =
      (queue.take (reach clears batch queue (rounds + 1))).filter fun entry =>
        !cleared clears (queue.take (reach clears batch queue rounds)) entry :=
  take_filter _ batch queue

/-- When an entry clears all that the entries it clears would clear, the rounds
clear what the entries they have come past would clear. -/
theorem cleared_reach_succ
    (transitive : ∀ first second third, clears first second → clears second third →
      clears first third) (batch : Nat) (queue : List α) (rounds : Nat) (entry : α) :
    cleared clears (queue.take (reach clears batch queue (rounds + 1))) entry =
      (cleared clears (queue.take (reach clears batch queue rounds)) entry ||
        cleared clears ((left clears queue (reach clears batch queue rounds)).take batch)
          entry) := by
  have hreach : queue.take (reach clears batch queue rounds) ⊆
      queue.take (reach clears batch queue (rounds + 1)) :=
    List.take_subset_take_left queue (reach_le_succ batch queue rounds)
  rw [take_left, Bool.eq_iff_iff, Bool.or_eq_true]
  constructor
  · intro hcleared
    obtain ⟨served, hserved, hclears⟩ := List.any_eq_true.mp hcleared
    by_cases hgone : cleared clears (queue.take (reach clears batch queue rounds)) served
    · obtain ⟨earlier, hearlier, hserves⟩ := List.any_eq_true.mp hgone
      exact .inl (List.any_eq_true.mpr
        ⟨earlier, hearlier, transitive earlier served entry hserves hclears⟩)
    · exact .inr (List.any_eq_true.mpr
        ⟨served, List.mem_filter.mpr ⟨hserved, by simpa using hgone⟩, hclears⟩)
  · rintro (hcleared | hcleared)
    · exact cleared_mono hreach hcleared
    · exact cleared_mono (List.filter_subset_self _) hcleared

end Rounds

section Sorting

variable {α : Type} {r : α → α → Prop} [DecidableRel r] [IsTrans α r] [Std.Total r]

omit [IsTrans α r] [Std.Total r] in
theorem orderedInsert_of_forall {entry : α} {queue : List α} (h : ∀ other ∈ queue, r entry other) :
    queue.orderedInsert r entry = entry :: queue := by
  cases queue with
  | nil => rfl
  | cons first rest => exact List.orderedInsert_cons_of_le r rest (h first (by simp))

omit [Std.Total r] in
theorem filter_orderedInsert (keep : α → Bool) (entry : α) {queue : List α}
    (sorted : queue.Pairwise r) :
    (queue.orderedInsert r entry).filter keep =
      if keep entry then (queue.filter keep).orderedInsert r entry else queue.filter keep := by
  induction queue with
  | nil => simp [List.filter_cons]
  | cons first rest ih =>
    rw [List.pairwise_cons] at sorted
    obtain ⟨hfirst, hrest⟩ := sorted
    by_cases hle : r entry first
    · have hall : ∀ other ∈ (first :: rest).filter keep, r entry other := by
        intro other hother
        rcases List.mem_cons.mp (List.mem_filter.mp hother).1 with rfl | hmem
        · exact hle
        · exact IsTrans.trans _ _ _ hle (hfirst other hmem)
      rw [List.orderedInsert_cons_of_le r rest hle, orderedInsert_of_forall hall,
        List.filter_cons]
    · rw [List.orderedInsert_of_not_le r rest hle, List.filter_cons, List.filter_cons, ih hrest]
      by_cases hkeep : keep first
      · rw [if_pos hkeep, if_pos hkeep, List.orderedInsert_of_not_le r _ hle]
        split <;> rfl
      · rw [if_neg hkeep, if_neg hkeep]

theorem filter_insertionSort (keep : α → Bool) (queue : List α) :
    (queue.insertionSort r).filter keep = (queue.filter keep).insertionSort r := by
  induction queue with
  | nil => rfl
  | cons entry rest ih =>
    rw [List.insertionSort_cons,
      filter_orderedInsert keep entry (List.pairwise_insertionSort r rest), ih, List.filter_cons]
    split <;> rfl

end Sorting

end Goshop.Lib.Batches
