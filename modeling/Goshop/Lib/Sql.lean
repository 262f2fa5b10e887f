import Mathlib.Data.List.Basic

/-! The part of MySQL in strict mode that the services rely on: `INT` and
`VARCHAR` columns that refuse what does not fit, `DATETIME(3)` columns that round,
`UPDATE` statements that rewrite every matching row or fail as a whole, the
affected-row count of a connection without `CLIENT_FOUND_ROWS`, and
`AUTO_INCREMENT` keys. Tables are lists of rows in key order.

Texts are equal where their characters are. The collation `utf8mb4_0900_ai_ci` of
the databases also identifies texts that differ in case or accents only, so every
result is about texts of which no two are identified in that way. -/
namespace Goshop.Lib.Sql

variable {α ε : Type}

def FitsInt (value : Int) : Prop :=
  -2147483648 ≤ value ∧ value ≤ 2147483647

instance (value : Int) : Decidable (FitsInt value) :=
  inferInstanceAs (Decidable (_ ∧ _))

/-- A text fits `VARCHAR(width)` when it has at most `width` characters. -/
def fitsVarchar (width : Nat) (text : String) : Bool :=
  text.length ≤ width

/-- A time in nanoseconds as a query has it: MySQL reads the nearest microsecond. -/
def datetime6 (nanos : Int) : Int :=
  (nanos + 500) / 1000

/-- A time in nanoseconds as a `DATETIME(3)` column keeps it, in milliseconds. -/
def datetime3 (nanos : Int) : Int :=
  (datetime6 nanos + 500) / 1000

theorem lt_of_lt_datetime6 {millis nanos : Int} (h : millis * 1000 < datetime6 nanos) :
    millis * 1000000 < nanos := by
  unfold datetime6 at h
  omega

theorem sub_le_datetime3 (nanos : Int) : nanos - 500000 ≤ datetime3 nanos * 1000000 := by
  unfold datetime3 datetime6
  omega

def rewrite (selected : α → Bool) (change : α → Except ε α) (row : α) : Except ε α :=
  if selected row then change row else .ok row

/-- The rewritten table, or the error of the first row whose new value does not
fit its columns. -/
def update (selected : α → Bool) (change : α → Except ε α) : List α → Except ε (List α)
  | [] => .ok []
  | row :: rest =>
    match rewrite selected change row, update selected change rest with
    | .ok row', .ok rest' => .ok (row' :: rest')
    | .error err, _ => .error err
    | _, .error err => .error err

/-- `RowsAffected` counts the rows that a statement really changed. -/
def affected [DecidableEq α] (before after : List α) : Nat :=
  ((before.zip after).filter fun pair => pair.1 ≠ pair.2).length

theorem update_cons_ok {selected : α → Bool} {change : α → Except ε α} {row : α}
    {rest rows' : List α} :
    update selected change (row :: rest) = .ok rows' ↔
      ∃ row' rest', rewrite selected change row = .ok row' ∧
        update selected change rest = .ok rest' ∧ row' :: rest' = rows' := by
  rw [update]
  cases hrow : rewrite selected change row with
  | error err => simp
  | ok row' =>
    cases hrest : update selected change rest with
    | error err => simp
    | ok rest' => simp

/-- A statement rewrites row by row: what each matching row becomes is the
change applied to it, and the other rows stay. -/
theorem update_forall₂ {selected : α → Bool} {change : α → Except ε α} {rows rows' : List α}
    (h : update selected change rows = .ok rows') :
    List.Forall₂ (fun row row' => rewrite selected change row = .ok row') rows rows' := by
  induction rows generalizing rows' with
  | nil =>
    simp only [update, Except.ok.injEq] at h
    exact h ▸ .nil
  | cons row rest ih =>
    obtain ⟨row', rest', hrow, hrest, rfl⟩ := update_cons_ok.mp h
    exact .cons hrow (ih hrest)

theorem update_error {selected : α → Bool} {change : α → Except ε α} {rows : List α} {err : ε}
    (h : update selected change rows = .error err) :
    ∃ row ∈ rows, selected row = true ∧ change row = .error err := by
  induction rows with
  | nil => cases h
  | cons row rest ih =>
    rw [update] at h
    cases hrow : rewrite selected change row with
    | error err' =>
      rw [hrow] at h
      cases h
      rw [rewrite] at hrow
      split at hrow
      · rename_i hselected
        exact ⟨row, List.mem_cons_self, hselected, hrow⟩
      · cases hrow
    | ok row' =>
      cases hrest : update selected change rest with
      | error err' =>
        rw [hrow, hrest] at h
        cases h
        obtain ⟨other, hother, hfails⟩ := ih hrest
        exact ⟨other, List.mem_cons_of_mem _ hother, hfails⟩
      | ok rest' =>
        rw [hrow, hrest] at h
        cases h

theorem update_forall {selected : α → Bool} {change : α → Except ε α} {rows rows' : List α}
    {p : α → Prop} (hrows : ∀ row ∈ rows, p row)
    (hchange : ∀ row row', change row = .ok row' → p row')
    (h : update selected change rows = .ok rows') : ∀ row ∈ rows', p row := by
  induction rows generalizing rows' with
  | nil =>
    simp only [update, Except.ok.injEq] at h
    simp [← h]
  | cons row rest ih =>
    obtain ⟨row', rest', hrow, hrest, rfl⟩ := update_cons_ok.mp h
    have hfirst : p row' := by
      by_cases hsel : selected row
      · rw [rewrite, if_pos hsel] at hrow
        exact hchange row row' hrow
      · rw [rewrite, if_neg hsel] at hrow
        cases hrow
        exact hrows row (by simp)
    intro other hother
    rcases List.mem_cons.mp hother with rfl | hother
    · exact hfirst
    · exact ih (fun earlier hearlier => hrows earlier (by simp [hearlier])) hrest other hother

theorem update_total {selected : α → Bool} {change : α → Except ε α} {rows : List α}
    (h : ∀ row ∈ rows, selected row → ∃ row', change row = .ok row') :
    ∃ rows', update selected change rows = .ok rows' := by
  induction rows with
  | nil => exact ⟨[], rfl⟩
  | cons row rest ih =>
    obtain ⟨rest', hrest⟩ := ih fun other hother => h other (by simp [hother])
    have hrow : ∃ row', rewrite selected change row = .ok row' := by
      by_cases hsel : selected row
      · simpa [rewrite, hsel] using h row (by simp) hsel
      · exact ⟨row, by simp [rewrite, hsel]⟩
    obtain ⟨row', hrow⟩ := hrow
    exact ⟨row' :: rest', update_cons_ok.mpr ⟨row', rest', hrow, hrest, rfl⟩⟩

theorem update_eq_map {selected : α → Bool} {change : α → Except ε α} {value : α → α}
    {rows rows' : List α} (hvalue : ∀ row row', change row = .ok row' → row' = value row)
    (h : update selected change rows = .ok rows') :
    rows' = rows.map fun row => if selected row then value row else row := by
  have hrows := update_forall₂ h
  clear h
  induction hrows with
  | nil => rfl
  | @cons row row' _ _ hrow _ ih =>
    rw [List.map_cons, ih]
    by_cases hsel : selected row
    · rw [rewrite, if_pos hsel] at hrow
      simp [hsel, hvalue row row' hrow]
    · rw [rewrite, if_neg hsel] at hrow
      cases hrow
      simp [hsel]

theorem affected_map_ne_zero [DecidableEq α] {change : α → α} {rows : List α} :
    affected rows (rows.map change) ≠ 0 ↔ ∃ row ∈ rows, change row ≠ row := by
  induction rows with
  | nil => simp [affected]
  | cons row rest ih =>
    unfold affected at ih ⊢
    by_cases hrow : row = change row
    · simp only [List.map_cons, List.zip_cons_cons, List.filter_cons, ne_eq, ← hrow,
        not_true_eq_false, decide_false, Bool.false_eq_true, if_false] at ih ⊢
      rw [ih]
      simp [← hrow]
    · have hne : change row ≠ row := fun h => hrow h.symm
      simp [hrow, hne]

def nextId (ids : List Int) : Int :=
  ids.foldr max 0 + 1

theorem lt_nextId {ids : List Int} {id : Int} (h : id ∈ ids) : id < nextId ids := by
  induction ids with
  | nil => simp at h
  | cons first rest ih =>
    simp only [nextId, List.foldr_cons] at ih ⊢
    rcases List.mem_cons.mp h with rfl | hrest
    · omega
    · have := ih hrest
      omega

end Goshop.Lib.Sql
