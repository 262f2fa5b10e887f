import Mathlib.Data.List.Basic
import Mathlib.Algebra.Ring.Nat

/-! Decimal numerals as lists of digits, the most significant digit first, and the
texts that stand for them. -/
namespace Goshop.Lib.Decimal

def value (digits : List (Fin 10)) : Nat :=
  digits.foldl (fun total digit => 10 * total + digit.val) 0

private theorem foldl_value (digits : List (Fin 10)) (total : Nat) :
    digits.foldl (fun total digit => 10 * total + digit.val) total =
      total * 10 ^ digits.length + value digits := by
  induction digits generalizing total with
  | nil => simp [value]
  | cons digit rest ih =>
    have hrest : value (digit :: rest) = digit.val * 10 ^ rest.length + value rest := by
      rw [value, List.foldl_cons, ih, Nat.mul_zero, Nat.zero_add]
    rw [List.foldl_cons, ih, hrest, List.length_cons, Nat.pow_succ]
    grind

@[simp] theorem value_nil : value [] = 0 := rfl

theorem value_cons (digit : Fin 10) (rest : List (Fin 10)) :
    value (digit :: rest) = digit.val * 10 ^ rest.length + value rest := by
  rw [value, List.foldl_cons, foldl_value]
  simp

theorem value_append (first second : List (Fin 10)) :
    value (first ++ second) = value first * 10 ^ second.length + value second := by
  rw [value, List.foldl_append, foldl_value]
  rfl

@[simp] theorem value_singleton (digit : Fin 10) : value [digit] = digit.val := by
  simp [value]

theorem value_dropZeros (digits : List (Fin 10)) :
    value (digits.dropWhile (·.val = 0)) = value digits := by
  induction digits with
  | nil => rfl
  | cons digit rest ih =>
    by_cases hzero : digit.val = 0
    · rw [List.dropWhile_cons_of_pos (by simpa using hzero), ih, value_cons, hzero]
      simp
    · rw [List.dropWhile_cons_of_neg (by simpa using hzero)]

section Text

def digitChar (digit : Fin 10) : Char :=
  Nat.digitChar digit

theorem digitChar_toNat (digit : Fin 10) : (digitChar digit).toNat = 48 + digit.val :=
  Nat.toNat_digitChar_of_lt_ten digit.isLt

theorem digitChar_eq_zero {digit : Fin 10} : digitChar digit = '0' ↔ digit.val = 0 := by
  rw [← Char.toNat_inj, digitChar_toNat]
  change 48 + digit.val = 48 ↔ _
  omega

def chars (digits : List (Fin 10)) : List Char :=
  digits.map digitChar

@[simp] theorem chars_nil : chars [] = [] := rfl

@[simp] theorem chars_append (first second : List (Fin 10)) :
    chars (first ++ second) = chars first ++ chars second :=
  List.map_append

@[simp] theorem chars_eq_nil {digits : List (Fin 10)} : chars digits = [] ↔ digits = [] :=
  List.map_eq_nil_iff

theorem mem_chars {char : Char} {digits : List (Fin 10)} (h : char ∈ chars digits) :
    48 ≤ char.toNat ∧ char.toNat ≤ 57 := by
  obtain ⟨digit, -, rfl⟩ := List.mem_map.mp h
  have := digit.isLt
  rw [digitChar_toNat]
  omega

theorem exists_chars {text : List Char} (h : ∀ c ∈ text, 48 ≤ c.toNat ∧ c.toNat ≤ 57) :
    ∃ digits, chars digits = text := by
  induction text with
  | nil => exact ⟨[], rfl⟩
  | cons c rest ih =>
    obtain ⟨digits, hdigits⟩ := ih fun d hd => h d (List.mem_cons_of_mem c hd)
    obtain ⟨hlow, hhigh⟩ := h c List.mem_cons_self
    have hdigit : digitChar ⟨c.toNat - 48, by omega⟩ = c := by
      rw [← Char.toNat_inj, digitChar_toNat]
      change 48 + (c.toNat - 48) = c.toNat
      omega
    refine ⟨⟨c.toNat - 48, by omega⟩ :: digits, ?_⟩
    rw [chars, List.map_cons, hdigit]
    exact congrArg (c :: ·) hdigits

theorem chars_dropZeros (digits : List (Fin 10)) :
    (chars digits).dropWhile (· = '0') = chars (digits.dropWhile (·.val = 0)) := by
  have hsame : (fun char => decide (char = '0')) ∘ digitChar =
      fun digit : Fin 10 => decide (digit.val = 0) := by
    funext digit
    simp only [Function.comp_apply, digitChar_eq_zero]
  unfold chars
  rw [List.dropWhile_map, hsame]

def charsValue (text : List Char) : Nat :=
  text.foldl (fun total char => 10 * total + (char.toNat - 48)) 0

theorem charsValue_chars (digits : List (Fin 10)) : charsValue (chars digits) = value digits := by
  have hsame : (fun (total : Nat) (digit : Fin 10) => 10 * total + ((digitChar digit).toNat - 48)) =
      fun total digit => 10 * total + digit.val := by
    funext total digit
    rw [digitChar_toNat, Nat.add_sub_cancel_left]
  rw [charsValue, chars, List.foldl_map, hsame, value]

theorem toList_toString (number : Nat) : (toString number).toList = Nat.toDigits 10 number :=
  String.toList_ofList

theorem toDigits_of_lt {number : Nat} (h : number < 10) :
    Nat.toDigits 10 number = chars [⟨number, h⟩] :=
  Nat.toDigits_of_lt_base h

theorem toDigits_of_le {number : Nat} (h : 10 ≤ number) :
    Nat.toDigits 10 number =
      Nat.toDigits 10 (number / 10) ++ chars [⟨number % 10, Nat.mod_lt _ (by decide)⟩] := by
  have hlast : number % 10 < 10 := Nat.mod_lt _ (by decide)
  have hsplit := Nat.toDigits_append_toDigits (b := 10) (by decide)
    (show 0 < number / 10 by omega) hlast
  rw [toDigits_of_lt hlast, Nat.div_add_mod] at hsplit
  exact hsplit.symm

theorem exists_digits (number : Nat) :
    ∃ digits, digits ≠ [] ∧ (toString number).toList = chars digits ∧ value digits = number := by
  rw [toList_toString]
  induction number using Nat.strongRecOn with
  | ind number ih =>
    by_cases hsmall : number < 10
    · exact ⟨[⟨number, hsmall⟩], by simp, toDigits_of_lt hsmall, by simp⟩
    · obtain ⟨high, -, htext, hvalue⟩ := ih (number / 10) (by omega)
      have hlast : number % 10 < 10 := Nat.mod_lt _ (by decide)
      refine ⟨high ++ [⟨number % 10, hlast⟩], by simp, ?_, ?_⟩
      · rw [toDigits_of_le (Nat.le_of_not_lt hsmall), htext, chars_append]
      · rw [value_append, value_singleton, hvalue]
        change number / 10 * 10 ^ 1 + number % 10 = number
        omega

end Text

end Goshop.Lib.Decimal
