import Goshop.Inventory.StockRecords

/-! The counters that `normalizeInventory` lets into the table. It compares the total
with the sum of the other counters in 32-bit arithmetic; a sum that leaves the range
wraps around and passes for a small or a negative one. -/
namespace Goshop.Inventory.Normalization

open Goshop.Errors Goshop.Inventory.StockRecords

def demand (inv : InventoryDTO) : Int :=
  inv.available.toInt + inv.locked.toInt + inv.sold.toInt

structure Sound (inv : InventoryDTO) : Prop where
  total : 0 ≤ inv.total
  available : 0 ≤ inv.available
  locked : 0 ≤ inv.locked
  sold : 0 ≤ inv.sold
  stocks : inv.stocks = inv.available
  covered : demand inv ≤ inv.total.toInt

/-- The sum of the counters is a 32-bit integer; or it is refused, because it wraps
around to more than the total. -/
def SumFits (inv : InventoryDTO) : Prop :=
  demand inv < 2 ^ 31 ∨ 0 < inv.total ∧ inv.total.toInt < demand inv - 2 ^ 32

section Words

variable {inv inv' : InventoryDTO}

theorem nonneg_iff (word : Int32) : 0 ≤ word ↔ 0 ≤ word.toInt := by
  rw [Int32.le_iff_toInt_le, Int32.toInt_zero]

theorem pos_iff (word : Int32) : 0 < word ↔ 0 < word.toInt := by
  rw [Int32.lt_iff_toInt_lt, Int32.toInt_zero]

theorem not_negative_iff : inv.negative = false ↔
    0 ≤ inv.stocks.toInt ∧ 0 ≤ inv.total.toInt ∧ 0 ≤ inv.available.toInt ∧
      0 ≤ inv.locked.toInt ∧ 0 ≤ inv.sold.toInt := by
  simp only [InventoryDTO.negative, Bool.or_eq_false_iff, decide_eq_false_iff_not,
    Int32.lt_iff_toInt_lt, Int32.toInt_zero, Int.not_lt, and_assoc]

/-- The machine sum of three counters is the exact one, or misses it by one turn. -/
theorem toInt_sum {first second third : Int32} (hfirst : 0 ≤ first.toInt)
    (hsecond : 0 ≤ second.toInt) (hthird : 0 ≤ third.toInt) :
    (first + second + third).toInt =
      if first.toInt + second.toInt + third.toInt < 2 ^ 31 then
        first.toInt + second.toInt + third.toInt
      else first.toInt + second.toInt + third.toInt - 2 ^ 32 := by
  have hfirst' := first.toInt_lt
  have hsecond' := second.toInt_lt
  have hthird' := third.toInt_lt
  rw [Int32.toInt_add, Int32.toInt_add, Int.bmod_def, Int.bmod_def]
  omega

theorem demand_nonneg (h : inv.negative = false) : 0 ≤ demand inv := by
  obtain ⟨-, -, havailable, hlocked, hsold⟩ := not_negative_iff.mp h
  unfold demand
  omega

theorem demand_sum (h : inv.negative = false) :
    (inv.available + inv.locked + inv.sold).toInt =
      if demand inv < 2 ^ 31 then demand inv else demand inv - 2 ^ 32 := by
  obtain ⟨-, -, havailable, hlocked, hsold⟩ := not_negative_iff.mp h
  exact toInt_sum havailable hlocked hsold

end Words

section Completion

variable {inv inv' : InventoryDTO}

theorem completed_cases (h : inv.negative = false) :
    (inv.total = 0 ∧ demand inv = 0 ∧ inv.completed =
        { inv with total := inv.stocks, available := inv.stocks, locked := 0, sold := 0 }) ∨
      (inv.total = 0 ∧ 0 < demand inv ∧ inv.completed =
        { inv with total := inv.available + inv.locked + inv.sold }) ∨
      0 < inv.total ∧ inv.completed = inv := by
  obtain ⟨-, htotal, havailable, hlocked, hsold⟩ := not_negative_iff.mp h
  have hzero : inv.total = 0 ↔ inv.total.toInt = 0 := by
    rw [← Int32.toInt_inj, Int32.toInt_zero]
  unfold InventoryDTO.completed demand
  simp only [pos_iff, hzero]
  split
  · refine .inl ⟨?_, ?_, rfl⟩ <;> omega
  · split
    · refine .inr (.inl ⟨?_, ?_, rfl⟩) <;> omega
    · refine .inr (.inr ⟨?_, rfl⟩)
      omega

theorem normalizeInventory_ok :
    normalizeInventory inv = .ok inv' ↔
      0 < inv.goods ∧ inv.negative = false ∧
        ¬inv.completed.total <
          inv.completed.available + inv.completed.locked + inv.completed.sold ∧
        inv' = { inv.completed with stocks := inv.completed.available } := by
  have hgoods : ¬inv.goods ≤ 0 ↔ 0 < inv.goods := by
    simp only [Int32.le_iff_toInt_le, Int32.lt_iff_toInt_lt, Int.not_le]
  rw [← hgoods]
  unfold normalizeInventory
  by_cases hgoods : inv.goods ≤ 0
  · simp [hgoods]
  · by_cases hnegative : inv.negative = true
    · simp [hgoods, hnegative]
    · by_cases hless : inv.completed.total <
          inv.completed.available + inv.completed.locked + inv.completed.sold
      · simp [hgoods, hnegative, hless]
      · simp [hgoods, hnegative, hless, eq_comm]

theorem eq_zero_of_toInt {word : Int32} (h : word.toInt = 0) : word = 0 :=
  Int32.toInt_inj.mp (h.trans Int32.toInt_zero.symm)

theorem Sound.not_negative (sound : Sound inv) : inv.negative = false := by
  obtain ⟨htotal, havailable, hlocked, hsold, hstocks, -⟩ := sound
  rw [not_negative_iff, hstocks]
  simp only [nonneg_iff] at htotal havailable hlocked hsold
  exact ⟨havailable, htotal, havailable, hlocked, hsold⟩

theorem Sound.completed (sound : Sound inv) : inv.completed = inv := by
  have hcovered := sound.covered
  obtain ⟨-, -, havailable, hlocked, hsold⟩ := not_negative_iff.mp sound.not_negative
  rcases completed_cases sound.not_negative with ⟨htotal, hdemand, h⟩ | ⟨htotal, hdemand, -⟩ | ⟨-, h⟩
  · -- Nothing is accounted for: every counter is zero, and `stocks` is one of them.
    unfold demand at hdemand
    have hzero : inv.available = 0 := eq_zero_of_toInt (by omega)
    have hlocked' : inv.locked = 0 := eq_zero_of_toInt (by omega)
    have hsold' : inv.sold = 0 := eq_zero_of_toInt (by omega)
    have hstocks : inv.stocks = 0 := sound.stocks.trans hzero
    rw [h]
    cases inv
    simp_all
  · rw [htotal, Int32.toInt_zero] at hcovered
    omega
  · exact h

theorem normalizeInventory_sound (hgoods : 0 < inv.goods) (sound : Sound inv) :
    normalizeInventory inv = .ok inv := by
  have hcovered := sound.covered
  have htotal := inv.total.toInt_lt
  have hfits : demand inv < 2 ^ 31 := by omega
  rw [normalizeInventory_ok, sound.completed]
  refine ⟨hgoods, sound.not_negative, ?_, ?_⟩
  · rw [Int32.lt_iff_toInt_lt, demand_sum sound.not_negative, if_pos hfits]
    omega
  · rw [← sound.stocks]

theorem sound_of_fits (h : normalizeInventory inv = .ok inv') (hfits : demand inv < 2 ^ 31) :
    Sound inv' := by
  obtain ⟨-, hnegative, hless, rfl⟩ := normalizeInventory_ok.mp h
  have hsum := demand_sum hnegative
  rw [if_pos hfits] at hsum
  obtain ⟨hstocks, htotal, havailable, hlocked, hsold⟩ := not_negative_iff.mp hnegative
  have hdemand := demand_nonneg hnegative
  simp only [← nonneg_iff] at hstocks htotal havailable hlocked hsold
  rcases completed_cases hnegative with ⟨-, -, hc⟩ | ⟨-, -, hc⟩ | ⟨-, hc⟩
  · rw [hc]
    refine ⟨hstocks, hstocks, Int32.le_refl _, Int32.le_refl _, rfl, ?_⟩
    simp [demand]
  · rw [hc]
    refine ⟨?_, havailable, hlocked, hsold, rfl, ?_⟩
    · rw [nonneg_iff, hsum]
      exact hdemand
    · exact hsum.ge
  · rw [hc] at hless ⊢
    refine ⟨htotal, havailable, hlocked, hsold, rfl, ?_⟩
    rw [Int32.lt_iff_toInt_lt, hsum, Int.not_lt] at hless
    exact hless

theorem not_sound_of_overflow (h : normalizeInventory inv = .ok inv')
    (hover : 2 ^ 31 ≤ demand inv) : ¬Sound inv' := by
  intro sound
  obtain ⟨-, hnegative, -, rfl⟩ := normalizeInventory_ok.mp h
  have hcovered := sound.covered
  have hdemand : demand { inv.completed with stocks := inv.completed.available } = demand inv := by
    rcases completed_cases hnegative with ⟨-, hzero, -⟩ | ⟨-, -, hc⟩ | ⟨-, hc⟩
    · omega
    · rw [hc]
      rfl
    · rw [hc]
      rfl
  rw [hdemand] at hcovered
  exact absurd (hcovered.trans_lt (Int32.toInt_lt _)) (Int.not_lt.mpr hover)

/-- A request past the range is refused exactly if its sum wraps around to more than
its total. -/
theorem refused_iff (hgoods : 0 < inv.goods) (hnegative : inv.negative = false)
    (hover : 2 ^ 31 ≤ demand inv) :
    (∀ inv', normalizeInventory inv ≠ .ok inv') ↔
      0 < inv.total ∧ inv.total.toInt < demand inv - 2 ^ 32 := by
  have hsum := demand_sum hnegative
  rw [if_neg (by omega)] at hsum
  have hrefused : (∀ inv', normalizeInventory inv ≠ .ok inv') ↔ inv.completed.total <
      inv.completed.available + inv.completed.locked + inv.completed.sold := by
    simp only [ne_eq, normalizeInventory_ok, hgoods, hnegative, true_and, not_and]
    constructor
    · intro all
      by_contra hless
      exact all _ hless rfl
    · intro hless inv' hnot
      exact absurd hless hnot
  rw [hrefused]
  rcases completed_cases hnegative with ⟨-, hzero, -⟩ | ⟨htotal, -, hc⟩ | ⟨htotal, hc⟩
  · omega
  · rw [hc, htotal]
    simp
  · rw [hc, Int32.lt_iff_toInt_lt, hsum]
    exact (and_iff_right htotal).symm

end Completion

/-- Whatever `normalizeInventory` lets in is sound and normalized, if and only if the
request is refused for its goods or a negative counter, or its sum fits. -/
theorem normalized_sound_iff (inv : InventoryDTO) :
    (∀ inv', normalizeInventory inv = .ok inv' →
        Sound inv' ∧ normalizeInventory inv' = .ok inv') ↔
      inv.goods ≤ 0 ∨ inv.negative = true ∨ SumFits inv := by
  by_cases hgoods : 0 < inv.goods
  · cases hnegative : inv.negative with
    | true => simp [normalizeInventory_ok, hnegative]
    | false =>
      have hgoods' : ¬inv.goods ≤ 0 := by
        simpa [Int32.le_iff_toInt_le, Int32.lt_iff_toInt_lt] using hgoods
      simp only [hgoods', Bool.false_eq_true, false_or, SumFits]
      by_cases hfits : demand inv < 2 ^ 31
      · refine iff_of_true (fun inv' h => ?_) (.inl hfits)
        have sound := sound_of_fits h hfits
        refine ⟨sound, normalizeInventory_sound ?_ sound⟩
        rw [normalizeInventory_goods h]
        exact hgoods
      · rw [or_iff_right hfits, ← refused_iff hgoods hnegative (Int.not_lt.mp hfits)]
        constructor
        · intro all inv' h
          exact not_sound_of_overflow h (Int.not_lt.mp hfits) (all inv' h).1
        · intro refused inv' h
          exact absurd h (refused inv')
  · have hgoods' : inv.goods ≤ 0 := by
      simpa [Int32.le_iff_toInt_le, Int32.lt_iff_toInt_lt] using hgoods
    simp [normalizeInventory_ok, hgoods, hgoods']

/-- The counters of the request wrap around to a negative total, which is stored. -/
theorem overflow_normalized_unsound :
    let inv : InventoryDTO := ⟨7, 0, 0, 2147483647, 1, 0⟩
    ∃ inv', normalizeInventory inv = .ok inv' ∧ inv'.total < 0 ∧
      ¬demand inv' ≤ inv'.total.toInt ∧ normalizeInventory inv' = .error inventoryInvalid :=
  ⟨⟨7, 2147483647, -2147483648, 2147483647, 1, 0⟩, by decide +kernel⟩

end Goshop.Inventory.Normalization
