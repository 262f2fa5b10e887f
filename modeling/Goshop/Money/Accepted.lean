import Goshop.Money.Text

/-! The texts that `ParseYuan` accepts. A part that is empty on either side of the
dot is filled with zeros before the digits are checked, so a dot alone passes. -/
namespace Goshop.Money.Accepted

open Goshop.Lib Goshop.Money.Fen Goshop.Money.Text
open Goshop.Lib.GoText (trimSpace)

section Parts

theorem allDigits_iff {value : List Char} :
    allDigits value = true ↔ ∀ c ∈ value, 48 ≤ c.toNat ∧ c.toNat ≤ 57 := by
  have hdigit (c : Char) :
      (!(decide (c < '0') || decide ('9' < c))) = true ↔ 48 ≤ c.toNat ∧ c.toNat ≤ 57 := by
    have hlow : c < '0' ↔ c.toNat < 48 := by
      rw [Char.lt_def, UInt32.lt_iff_toNat_lt]
      rfl
    have hhigh : '9' < c ↔ 57 < c.toNat := by
      rw [Char.lt_def, UInt32.lt_iff_toNat_lt]
      rfl
    simp [hlow, hhigh]
  simp only [allDigits, List.all_eq_true, hdigit]

theorem length_le_byteLength (value : List Char) : value.length ≤ byteLength value := by
  induction value with
  | nil => exact Nat.le_refl 0
  | cons c rest ih =>
    have hsize := c.utf8Size_pos
    change rest.length + 1 ≤ c.utf8Size + byteLength rest
    omega

theorem eq_of_splitOn {value : List Char} (h : (value.splitOn '.').length ≤ 2) :
    value.splitOn '.' = [value] ∨
      ∃ whole decimals, value.splitOn '.' = [whole, decimals] ∧
        value = whole ++ '.' :: decimals := by
  have hjoin := @List.intercalate_splitOn _ value _ _ '.'
  cases hparts : value.splitOn '.' with
  | nil => exact absurd hparts (List.splitOn_ne_nil '.' value)
  | cons whole rest =>
    rw [hparts] at hjoin h
    cases rest with
    | nil =>
      left
      simpa using hjoin
    | cons decimals rest =>
      have hrest : rest = [] := by
        apply List.eq_nil_of_length_eq_zero
        simp only [List.length_cons] at h
        omega
      subst hrest
      right
      refine ⟨whole, decimals, rfl, ?_⟩
      simpa using hjoin.symm

theorem allDigits_of_filled {part filler : List Char}
    (h : allDigits (if part = [] then filler else part) = true) : allDigits part = true := by
  by_cases hpart : part = []
  · rw [hpart]
    rfl
  · rwa [if_neg hpart] at h

theorem allDigits_of_padded {part : List Char}
    (h : allDigits (if part = [] then ['0', '0']
      else if byteLength part = 1 then part ++ ['0'] else part) = true) :
    allDigits part = true := by
  by_cases hone : byteLength part = 1
  · simp only [if_pos hone] at h
    by_cases hpart : part = []
    · rw [hpart]
      rfl
    · rw [if_neg hpart, allDigits, List.all_append, Bool.and_eq_true] at h
      exact h.1
  · simp only [if_neg hone] at h
    exact allDigits_of_filled h

theorem of_not_refused {refused : Prop} [Decidable refused] {message : String}
    {result : Except String Int64} {f : Int64}
    (h : (if refused then .error message else result) = .ok f) : ¬refused ∧ result = .ok f := by
  by_cases hrefused : refused
  · rw [if_pos hrefused] at h
    cases h
  · rw [if_neg hrefused] at h
    exact ⟨hrefused, h⟩

theorem parseMagnitude_ok {quote : String → String} {negative : Bool} {value : List Char}
    {f : Int64} (h : parseMagnitude quote negative value = .ok f) :
    ∃ whole fraction, value = magnitudeText whole fraction ∧
      (fraction.getD []).length ≤ 2 := by
  obtain ⟨hparts, h⟩ := of_not_refused h
  obtain ⟨hbytes, h⟩ := of_not_refused h
  obtain ⟨hdigits, -⟩ := of_not_refused h
  simp only [Bool.or_eq_true, Bool.not_eq_true', not_or, Bool.not_eq_false] at hdigits
  have hwhole := allDigits_of_filled hdigits.1
  have hfraction := allDigits_of_padded hdigits.2
  have hshort := (length_le_byteLength _).trans (Nat.le_of_not_lt hbytes)
  rcases eq_of_splitOn (Nat.le_of_not_lt hparts) with hsplit | ⟨first, second, hsplit, hvalue⟩
  · rw [hsplit] at hwhole
    obtain ⟨whole, hchars⟩ := Decimal.exists_chars (allDigits_iff.mp hwhole)
    exact ⟨whole, none, hchars.symm, Nat.zero_le 2⟩
  · rw [hsplit] at hwhole hfraction hshort
    obtain ⟨whole, rfl⟩ := Decimal.exists_chars (allDigits_iff.mp hwhole)
    obtain ⟨decimals, rfl⟩ := Decimal.exists_chars (allDigits_iff.mp hfraction)
    refine ⟨whole, some decimals, hvalue, ?_⟩
    simpa [Decimal.chars] using hshort

theorem magnitudeText_eq {whole : List (Fin 10)} {fraction : Option (List (Fin 10))}
    (h : whole ++ fraction.getD [] = []) :
    magnitudeText whole fraction = [] ∨ magnitudeText whole fraction = ['.'] := by
  obtain ⟨rfl, hdecimals⟩ := List.append_eq_nil_iff.mp h
  cases fraction with
  | none => exact .inl rfl
  | some decimals =>
    right
    rw [show decimals = [] from hdecimals]
    rfl

end Parts

def numeral (text : YuanText) : String :=
  String.ofList (signText text.sign ++ text.digitText)

theorem exists_digit (text : YuanText) :
    ∃ c ∈ (numeral text).toList, 48 ≤ c.toNat ∧ c.toNat ≤ 57 := by
  obtain ⟨digit, hdigit⟩ := List.exists_mem_of_ne_nil _ text.some_digit
  have hchar : Decimal.digitChar digit ∈ text.digitText := by
    unfold YuanText.digitText
    cases hfraction : text.fraction with
    | none =>
      rw [hfraction] at hdigit
      exact List.mem_map_of_mem (by simpa using hdigit)
    | some decimals =>
      rw [hfraction, Option.getD_some, List.mem_append] at hdigit
      rcases hdigit with hwhole | hdecimals
      · exact List.mem_append_left _ (List.mem_map_of_mem hwhole)
      · exact List.mem_append_right _
          (List.mem_cons_of_mem '.' (List.mem_map_of_mem hdecimals))
  refine ⟨Decimal.digitChar digit, ?_, ?_⟩
  · rw [numeral, String.toList_ofList]
    exact List.mem_append_right _ hchar
  · have hbound := digit.isLt
    rw [Decimal.digitChar_toNat]
    omega

/-- A dot without a digit, with or without a sign. -/
def bareDots : List String := [".", "+.", "-."]

theorem numeral_notMem_bareDots (text : YuanText) : numeral text ∉ bareDots := by
  intro hmem
  obtain ⟨c, hc, hdigit⟩ := exists_digit text
  have hdot : ∀ dots ∈ bareDots, dots.toList.all (fun c => c.toNat < 48) = true := by decide
  have hlow := List.all_eq_true.mp (hdot _ hmem) c hc
  exact absurd (of_decide_eq_true hlow) (Nat.not_lt.mpr hdigit.1)

theorem parseYuan_ok {quote : String → String} {value : String} {f : Int64}
    (h : parseYuan quote value = .ok f) :
    ∃ sign rest, (trimSpace value).toList = signText sign ++ rest ∧ rest ≠ [] ∧
      ∃ negative, parseMagnitude quote negative rest = .ok f := by
  unfold parseYuan at h
  generalize (trimSpace value).toList = chars at h ⊢
  split at h
  · cases h
  · cases h
  · cases h
  · rename_i rest hne
    exact ⟨some .minus, rest, rfl, hne, true, h⟩
  · rename_i rest hne
    exact ⟨some .plus, rest, rfl, hne, false, h⟩
  · rename_i hempty _ _ _ _
    exact ⟨none, chars, rfl, hempty, false, h⟩

/-- The texts that are accepted are numbers, apart from a dot with no digit. -/
theorem accepted_numeral_iff (quote : String → String) (value : String) (f : Int64)
    (h : parseYuan quote value = .ok f) :
    (∃ text : YuanText, numeral text = trimSpace value) ↔
      trimSpace value ∉ bareDots := by
  constructor
  · rintro ⟨text, htext⟩
    rw [← htext]
    exact numeral_notMem_bareDots text
  · intro hdots
    obtain ⟨sign, rest, htrim, hne, negative, hmagnitude⟩ := parseYuan_ok h
    obtain ⟨whole, fraction, hrest, hshort⟩ := parseMagnitude_ok hmagnitude
    have hdigit : whole ++ fraction.getD [] ≠ [] := by
      intro hnone
      rcases magnitudeText_eq hnone with hempty | hdot
      · exact hne (hrest.trans hempty)
      · apply hdots
        rw [← String.ofList_toList (s := trimSpace value), htrim, hrest, hdot]
        cases sign with
        | none => exact List.mem_cons_self
        | some sign => cases sign <;> decide +kernel
    refine ⟨⟨[], sign, whole, fraction, [], List.forall_mem_nil _, hshort, hdigit,
      List.forall_mem_nil _⟩, ?_⟩
    apply String.toList_injective
    rw [numeral, String.toList_ofList, YuanText.digitText, htrim, hrest]

theorem accepted_numeral_leading_dot :
    parseYuan id " -.5 " = .ok (-50) ∧
      ((∃ text : YuanText, numeral text = trimSpace " -.5 ") ↔
        trimSpace " -.5 " ∉ bareDots) :=
  ⟨by decide +kernel, accepted_numeral_iff id " -.5 " (-50) (by decide +kernel)⟩

theorem bare_dot_accepted :
    parseYuan id "." = .ok 0 ∧ ¬∃ text : YuanText, numeral text = trimSpace "." := by
  refine ⟨by decide +kernel, ?_⟩
  rintro ⟨text, htext⟩
  exact numeral_notMem_bareDots text (htext ▸ by decide +kernel)

end Goshop.Money.Accepted
