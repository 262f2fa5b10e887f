import Mathlib.Algebra.Order.BigOperators.Group.List
import Mathlib.Algebra.Ring.Int.Defs
import Mathlib.Data.List.Nodup

/-! Tables with a key column, as lists of rows. A statement that addresses rows
by key rewrites one row when the key is unique; sums over the table then change
by what that row contributes. -/
namespace Goshop.Lib.Table

variable {α κ : Type}

theorem nodup_snoc {key : α → κ} {rows : List α}
    (unique : (rows.map key).Nodup) {row : α}
    (hfresh : ∀ other ∈ rows, key other ≠ key row) : ((rows ++ [row]).map key).Nodup := by
  rw [List.map_append, List.nodup_append]
  refine ⟨unique, by simp, ?_⟩
  intro used hused other hother
  obtain ⟨before, hbefore, rfl⟩ := List.mem_map.mp hused
  simp only [List.map_cons, List.map_nil, List.mem_singleton] at hother
  rw [hother]
  exact hfresh before hbefore

theorem forall₂_trans {related : α → α → Prop}
    (transitive : ∀ first second third, related first second → related second third →
      related first third) {rows rows' rows'' : List α} (h : List.Forall₂ related rows rows')
    (h' : List.Forall₂ related rows' rows'') : List.Forall₂ related rows rows'' := by
  induction h generalizing rows'' with
  | nil =>
    cases h'
    exact .nil
  | cons hrow _ ih =>
    cases h' with
    | cons hrow' hrest' => exact .cons (transitive _ _ _ hrow hrow') (ih hrest')

theorem exists_of_forall₂ {related : α → α → Prop} {rows rows' : List α} {row' : α}
    (h : List.Forall₂ related rows rows') (hrow' : row' ∈ rows') :
    ∃ row ∈ rows, related row row' := by
  induction h with
  | nil => simp at hrow'
  | @cons row _ _ _ hrow _ ih =>
    rcases List.mem_cons.mp hrow' with rfl | hrest
    · exact ⟨row, by simp, hrow⟩
    · obtain ⟨other, hother, hrelated⟩ := ih hrest
      exact ⟨other, by simp [hother], hrelated⟩

variable [DecidableEq κ] (key : α → κ)

def modify (id : κ) (change : α → α) (rows : List α) : List α :=
  rows.map fun row => if key row = id then change row else row

variable {key} {id : κ} {change : α → α} {rows : List α}

theorem modify_cons (row : α) (rest : List α) :
    modify key id change (row :: rest) =
      (if key row = id then change row else row) :: modify key id change rest := rfl

theorem modify_append (first second : List α) :
    modify key id change (first ++ second) =
      modify key id change first ++ modify key id change second :=
  List.map_append

theorem modify_of_absent (h : ∀ row ∈ rows, key row ≠ id) : modify key id change rows = rows := by
  have hsame : ∀ row ∈ rows, (if key row = id then change row else row) = row := by
    intro row hrow
    rw [if_neg (h row hrow)]
  unfold modify
  rw [List.map_congr_left hsame, List.map_id']

theorem modify_keys (stable : ∀ row, key (change row) = key row) :
    (modify key id change rows).map key = rows.map key := by
  unfold modify
  rw [List.map_map]
  apply List.map_congr_left
  intro row _
  by_cases hrow : key row = id
  · simp [hrow, stable row]
  · simp [hrow]

theorem find_of_mem (unique : (rows.map key).Nodup) {row : α} (hrow : row ∈ rows) :
    rows.find? (key · = key row) = some row := by
  cases hfind : rows.find? (key · = key row) with
  | none =>
    rw [List.find?_eq_none] at hfind
    exact absurd (decide_eq_true rfl) (hfind row hrow)
  | some found =>
    have hkey : key found = key row := by simpa using List.find?_some hfind
    rw [List.inj_on_of_nodup_map unique (List.mem_of_find?_eq_some hfind) hrow hkey]

theorem find_last {row : α} (hrow : key row = id) (hfresh : ∀ other ∈ rows, key other ≠ id) :
    (rows ++ [row]).find? (key · = id) = some row := by
  have hnone : rows.find? (key · = id) = none := by simpa using hfresh
  simp [List.find?_append, hnone, hrow]

theorem modify_last {row : α} (hrow : key row = id) (hfresh : ∀ other ∈ rows, key other ≠ id) :
    modify key id change (rows ++ [row]) = rows ++ [change row] := by
  rw [modify_append, modify_of_absent hfresh]
  simp [modify, hrow]

theorem find_modify (stable : ∀ row, key (change row) = key row) (wanted : κ) :
    (modify key id change rows).find? (key · = wanted) =
      (rows.find? (key · = wanted)).map fun row => if key row = id then change row else row := by
  unfold modify
  rw [List.find?_map]
  congr 2
  funext row
  by_cases hrow : key row = id
  · simp [hrow, stable row]
  · simp [hrow]

theorem filter_modify (stable : ∀ row, key (change row) = key row) {other : κ}
    (hother : other ≠ id) :
    (modify key id change rows).filter (key · = other) = rows.filter (key · = other) := by
  induction rows with
  | nil => rfl
  | cons row rest ih =>
    rw [modify_cons]
    by_cases hrow : key row = id
    · simp [hrow, stable, Ne.symm hother, ih]
    · simp [hrow, List.filter_cons, ih]

theorem filter_replaced {added : List α} (hadded : ∀ row ∈ added, key row = id) {other : κ}
    (hother : other ≠ id) :
    (rows.filter (key · ≠ id) ++ added).filter (key · = other) = rows.filter (key · = other) := by
  have hnone : added.filter (key · = other) = [] := by
    rw [List.filter_eq_nil_iff]
    intro row hrow
    simp [hadded row hrow, Ne.symm hother]
  rw [List.filter_append, hnone, List.append_nil, List.filter_filter]
  apply List.filter_congr
  intro row _
  by_cases hrow : key row = other
  · simp [hrow, hother]
  · simp [hrow]

/-- A second unique column stays unique when the one row of a key gets a value
that no other row has. -/
theorem nodup_modify {κ' : Type} {column : α → κ'} {value : κ'} (unique : (rows.map key).Nodup)
    (distinct : (rows.map column).Nodup) (hvalue : ∀ row, column (change row) = value)
    (hunused : ∀ row ∈ rows, key row ≠ id → column row ≠ value) :
    ((modify key id change rows).map column).Nodup := by
  induction rows with
  | nil => simp [modify]
  | cons first rest ih =>
    rw [List.map_cons, List.nodup_cons] at unique distinct
    rw [modify_cons]
    by_cases hfirst : key first = id
    · have habsent : ∀ row ∈ rest, key row ≠ id := by
        intro row hrow hrowid
        exact unique.1 (List.mem_map.mpr ⟨row, hrow, hrowid.trans hfirst.symm⟩)
      rw [if_pos hfirst, modify_of_absent habsent, List.map_cons, List.nodup_cons, hvalue]
      refine ⟨fun hmem => ?_, distinct.2⟩
      obtain ⟨row, hrow, hcolumn⟩ := List.mem_map.mp hmem
      exact hunused row (List.mem_cons_of_mem _ hrow) (habsent row hrow) hcolumn
    · rw [if_neg hfirst, List.map_cons, List.nodup_cons]
      refine ⟨fun hmem => ?_, ih unique.2 distinct.2 fun row hrow =>
        hunused row (List.mem_cons_of_mem _ hrow)⟩
      obtain ⟨row', hrow', hcolumn⟩ := List.mem_map.mp hmem
      obtain ⟨row, hrow, rfl⟩ := List.mem_map.mp hrow'
      split at hcolumn
      · rw [hvalue] at hcolumn
        exact hunused first List.mem_cons_self hfirst hcolumn.symm
      · exact distinct.1 (List.mem_map.mpr ⟨row, hrow, hcolumn⟩)

theorem modify_forall {p : α → Prop} (h : ∀ row ∈ rows, p row)
    (hchange : ∀ row ∈ rows, key row = id → p row → p (change row)) :
    ∀ row ∈ modify key id change rows, p row := by
  intro row hrow
  obtain ⟨before, hbefore, rfl⟩ := List.mem_map.mp hrow
  by_cases hkey : key before = id
  · rw [if_pos hkey]
    exact hchange before hbefore hkey (h before hbefore)
  · rw [if_neg hkey]
    exact h before hbefore

theorem sum_modify (weight : α → Int) (change : α → α) (unique : (rows.map key).Nodup)
    {row : α} (hrow : row ∈ rows) :
    ((modify key (key row) change rows).map weight).sum =
      (rows.map weight).sum - weight row + weight (change row) := by
  induction rows with
  | nil => simp at hrow
  | cons first rest ih =>
    rw [List.map_cons, List.nodup_cons] at unique
    obtain ⟨hfirst, hrest⟩ := unique
    rw [modify_cons, List.map_cons, List.sum_cons, List.map_cons, List.sum_cons]
    by_cases hkey : key first = key row
    · have hsame : row = first := by
        rcases List.mem_cons.mp hrow with h | h
        · exact h
        · exact absurd (List.mem_map_of_mem h) (hkey ▸ hfirst)
      have habsent : ∀ other ∈ rest, key other ≠ key row := by
        intro other hother hsame'
        apply hfirst
        rw [hkey, ← hsame']
        exact List.mem_map_of_mem hother
      rw [modify_of_absent habsent, if_pos hkey, hsame]
      omega
    · have hmem : row ∈ rest := by
        rcases List.mem_cons.mp hrow with h | h
        · exact absurd (h ▸ rfl) hkey
        · exact h
      rw [ih hrest hmem, if_neg hkey]
      omega

/-- When no row contributes less than before and one of them `gain` more, the sum has
grown by at least that. -/
theorem sum_map_add_le {rows : List α} {before after : α → Int} {gain : Int}
    (hgain : ∃ row ∈ rows, before row + gain ≤ after row)
    (hall : ∀ row ∈ rows, before row ≤ after row) :
    (rows.map before).sum + gain ≤ (rows.map after).sum := by
  obtain ⟨row, hrow, hrowGain⟩ := hgain
  obtain ⟨front, rest, rfl⟩ := List.append_of_mem hrow
  have hfront : (front.map before).sum ≤ (front.map after).sum :=
    List.sum_le_sum fun other hother => hall other (by simp [hother])
  have hrest : (rest.map before).sum ≤ (rest.map after).sum :=
    List.sum_le_sum fun other hother => hall other (by simp [hother])
  simp only [List.map_append, List.map_cons, List.sum_append, List.sum_cons]
  omega

end Goshop.Lib.Table
