import Goshop.Lib.Decimal

/-! Machine integers as decimal texts. -/
namespace Goshop.Lib.Strconv

open Goshop.Lib.Decimal

def maxInt : Nat := 9223372036854775807

def itoa (number : Int) : String :=
  toString number

def digitsValue (digits : List Char) : Option Nat :=
  if digits.isEmpty || !digits.all Char.isDigit then none else some (charsValue digits)

/-- `strconv.Atoi`, for integers of 64 bits. -/
def atoi (text : String) : Option Int :=
  match text.toList with
  | '-' :: digits =>
    (digitsValue digits).bind fun value => if value ≤ maxInt + 1 then some (-value) else none
  | '+' :: digits => positive digits
  | digits => positive digits
where
  positive (digits : List Char) : Option Int :=
    (digitsValue digits).bind fun value => if value ≤ maxInt then some value else none

theorem chars_isDigit (digits : List (Fin 10)) : (chars digits).all Char.isDigit = true := by
  rw [List.all_eq_true]
  intro c hc
  obtain ⟨hlow, hhigh⟩ := mem_chars hc
  simp only [Char.isDigit, Bool.and_eq_true, decide_eq_true_eq]
  exact ⟨hlow, hhigh⟩

theorem positive_chars {digits : List (Fin 10)} (hne : digits ≠ [])
    (h : value digits ≤ maxInt) : atoi.positive (chars digits) = some (value digits : Int) := by
  simp [atoi.positive, digitsValue, hne, chars_isDigit, charsValue_chars, h]

theorem atoi_chars {digits : List (Fin 10)} (hne : digits ≠ []) (h : value digits ≤ maxInt)
    {text : String} (htext : text.toList = chars digits) :
    atoi text = some (value digits : Int) := by
  have hsign (sign : Char) (rest : List Char) (hlow : sign.toNat < 48) :
      chars digits ≠ sign :: rest := by
    intro heq
    have hmem : sign ∈ chars digits := heq ▸ List.mem_cons_self
    have := (mem_chars hmem).1
    omega
  unfold atoi
  rw [htext]
  split
  next heq => exact absurd heq (hsign '-' _ (by decide))
  next heq => exact absurd heq (hsign '+' _ (by decide))
  next => exact positive_chars hne h

theorem atoi_itoa {number : Int} (hpos : 0 ≤ number) (hmax : number ≤ maxInt) :
    atoi (itoa number) = some number := by
  obtain ⟨natural, rfl⟩ := Int.eq_ofNat_of_zero_le hpos
  obtain ⟨digits, hne, htext, hvalue⟩ := exists_digits natural
  have hmax' : value digits ≤ maxInt := by omega
  have hsame : itoa (natural : Int) = toString natural := rfl
  rw [hsame, atoi_chars hne hmax' htext, hvalue]

end Goshop.Lib.Strconv
