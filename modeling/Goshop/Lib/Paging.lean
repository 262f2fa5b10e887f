import Mathlib.Data.List.Sort
import Mathlib.Order.Basic

/-! A sorted list that is read page by page with an offset. Where an element is
found depends on how many stand before it, and on nothing else: smaller ones, or
for rows in the falling order of a key those with a larger key. -/
namespace Goshop.Lib.Paging

section Window

variable {ρ : Type} {table : List ρ} {row : ρ} {offset size : Nat}

/-- A page shows a row if and only if the rows before it fill the pages before and
leave room on its own. -/
theorem mem_window_iff : row ∈ (table.drop offset).take size ↔
    ∃ front rest, table = front ++ row :: rest ∧ offset ≤ front.length ∧
      front.length < offset + size := by
  constructor
  · intro h
    obtain ⟨index, hindex, hrow⟩ := List.mem_take_iff_getElem.mp h
    rw [List.getElem_drop] at hrow
    rw [List.length_drop] at hindex
    refine ⟨table.take (offset + index), table.drop (offset + index + 1), ?_, ?_, ?_⟩
    · rw [← hrow, List.getElem_cons_drop, List.take_append_drop]
    · rw [List.length_take]; omega
    · rw [List.length_take]; omega
  · rintro ⟨front, rest, rfl, hlow, hhigh⟩
    refine List.mem_take_iff_getElem.mpr ⟨front.length - offset, ?_, ?_⟩
    · simp; omega
    · simp [List.getElem_drop, Nat.add_sub_cancel' hlow]

theorem mem_reverse_window_iff : row ∈ (table.reverse.drop offset).take size ↔
    ∃ front rest, table = front ++ row :: rest ∧ offset ≤ rest.length ∧
      rest.length < offset + size := by
  rw [mem_window_iff]
  constructor
  · rintro ⟨front, rest, hrows, hbounds⟩
    refine ⟨rest.reverse, front.reverse, ?_, by simpa using hbounds⟩
    rw [← List.reverse_reverse table, hrows]
    simp
  · rintro ⟨front, rest, rfl, hbounds⟩
    exact ⟨rest.reverse, front.reverse, by simp, by simpa using hbounds⟩

variable {key : ρ → Int}

theorem countP_key_eq_length {front rest : List ρ}
    (falling : (front ++ row :: rest).Pairwise fun first second => key second ≤ key first)
    (unique : ((front ++ row :: rest).map key).Nodup) :
    (front ++ row :: rest).countP (key row < key ·) = front.length := by
  rw [List.pairwise_append, List.pairwise_cons] at falling
  obtain ⟨-, ⟨hrest, -⟩, hfront⟩ := falling
  rw [List.map_append, List.map_cons, List.nodup_append] at unique
  have hlarger : ∀ other ∈ front, decide (key row < key other) = true := by
    intro other hother
    have hne := unique.2.2 _ (List.mem_map_of_mem hother) (key row) (by simp)
    have hle := hfront other hother row (by simp)
    exact decide_eq_true (by omega)
  have hsmaller : rest.countP (key row < key ·) = 0 := by
    rw [List.countP_eq_zero]
    intro other hother
    simpa using hrest other hother
  rw [List.countP_append, List.countP_cons, hsmaller, List.countP_eq_length.mpr hlarger]
  simp

theorem mem_falling_window_iff (unique : (table.map key).Nodup) :
    row ∈ ((table.insertionSort fun first second => key second ≤ key first).drop offset).take size ↔
      row ∈ table ∧ offset ≤ table.countP (key row < key ·) ∧
        table.countP (key row < key ·) < offset + size := by
  have hperm := List.perm_insertionSort (fun first second : ρ => key second ≤ key first) table
  have hfalling := List.pairwise_insertionSort (fun first second : ρ => key second ≤ key first) table
  generalize table.insertionSort (fun first second => key second ≤ key first) = sorted
    at hperm hfalling
  have hunique : (sorted.map key).Nodup := (hperm.map key).nodup_iff.mpr unique
  rw [mem_window_iff, ← hperm.mem_iff, ← hperm.countP_eq]
  constructor
  · rintro ⟨front, rest, rfl, hbounds⟩
    rw [countP_key_eq_length hfalling hunique]
    exact ⟨by simp, hbounds⟩
  · rintro ⟨hrow, hbounds⟩
    obtain ⟨front, rest, rfl⟩ := List.mem_iff_append.mp hrow
    rw [countP_key_eq_length hfalling hunique] at hbounds
    exact ⟨front, rest, rfl, hbounds⟩

end Window

section Rank

variable {α : Type} [LinearOrder α] {rows : List α} {value : α}

def rank (value : α) (rows : List α) : Nat :=
  rows.countP (· < value)

theorem rank_perm {rows' : List α} (h : rows.Perm rows') : rank value rows = rank value rows' :=
  h.countP_eq _

theorem rank_lt_length (h : value ∈ rows) : rank value rows < rows.length := by
  have hnot : ¬∀ other ∈ rows, decide (other < value) = true := fun hall => by
    simpa using hall value h
  exact lt_of_le_of_ne List.countP_le_length fun heq => hnot (List.countP_eq_length.mp heq)

theorem exists_split (sorted : rows.Pairwise (· ≤ ·)) (h : value ∈ rows) :
    ∃ front rest, rows = front ++ value :: rest ∧ front.length = rank value rows := by
  obtain ⟨front, rest, rfl, hnew⟩ := List.eq_append_cons_of_mem h
  refine ⟨front, rest, rfl, ?_⟩
  rw [List.pairwise_append, List.pairwise_cons] at sorted
  obtain ⟨-, ⟨hrest, -⟩, hfront⟩ := sorted
  have hless : ∀ other ∈ front, decide (other < value) = true := by
    intro other hother
    have hne : other ≠ value := fun heq => hnew (heq ▸ hother)
    exact decide_eq_true (lt_of_le_of_ne (hfront other hother value (by simp)) hne)
  have hmore : rest.countP (· < value) = 0 := by
    rw [List.countP_eq_zero]
    intro other hother
    simpa using hrest other hother
  rw [rank, List.countP_append, List.countP_cons, hmore, List.countP_eq_length.mpr hless]
  simp

theorem mem_page (sorted : rows.Pairwise (· ≤ ·)) (h : value ∈ rows) {offset size : Nat}
    (hlow : offset ≤ rank value rows) (hhigh : rank value rows < offset + size) :
    value ∈ (rows.drop offset).take size := by
  obtain ⟨front, rest, hrows, hlength⟩ := exists_split sorted h
  rw [← hlength] at hlow hhigh
  exact mem_window_iff.mpr ⟨front, rest, hrows, hlow, hhigh⟩

theorem page_ne_nil (h : value ∈ rows) {offset size : Nat} (hsize : 0 < size)
    (hlow : offset ≤ rank value rows) : (rows.drop offset).take size ≠ [] := by
  have hlength := rank_lt_length h
  rw [← List.length_pos_iff_ne_nil, List.length_take, List.length_drop]
  omega

end Rank

end Goshop.Lib.Paging
