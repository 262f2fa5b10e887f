import Mathlib.Data.Rat.Cast.Order
import Mathlib.Tactic.NormNum
import Mathlib.Tactic.Ring
import Goshop.Lib.Decimal
import Goshop.Lib.GoText
import Goshop.Money.Fen

/-! Amounts as decimal texts of yuan, printed and read. -/
namespace Goshop.Money.Text

open Goshop.Lib Goshop.Money.Fen

section Model

def fenPerYuan : UInt64 := 100

def twoDigits (number : UInt64) : String :=
  if number < 10 then "0" ++ toString number.toNat else toString number.toNat

def yuanString (value : Int64) : String :=
  let sign := if value < 0 then "-" else ""
  let magnitude := int64Magnitude value
  let yuan := magnitude / fenPerYuan
  let fen := magnitude % fenPerYuan
  sign ++ toString yuan.toNat ++ "." ++ twoDigits fen

def allDigits (value : List Char) : Bool :=
  value.all fun ch => !(decide (ch < '0') || decide ('9' < ch))

def byteLength (value : List Char) : Nat :=
  (value.map Char.utf8Size).sum

-- `quote` is the verb `%q`.
variable (quote : String → String)

def parseUint (digits : List Char) : Except String UInt64 :=
  if 2 ^ 64 ≤ Decimal.charsValue digits then
    .error ("strconv.ParseUint: parsing " ++ quote (String.ofList digits) ++
      ": value out of range")
  else .ok (.ofNat (Decimal.charsValue digits))

def parseMagnitude (negative : Bool) (value : List Char) : Except String Int64 :=
  let quoted := quote (String.ofList value)
  let parts := value.splitOn '.'
  if 2 < parts.length then .error ("money string " ++ quoted ++ " is invalid")
  else
    let intPart := parts.getD 0 []
    let intPart := if intPart = [] then ['0'] else intPart
    let fracPart := parts.getD 1 []
    if 2 < byteLength fracPart then
      .error ("money string " ++ quoted ++ " has more than 2 decimal places")
    else
      let fracPart :=
        if fracPart = [] then ['0', '0']
        else if byteLength fracPart = 1 then fracPart ++ ['0'] else fracPart
      if !allDigits intPart || !allDigits fracPart then
        .error ("money string " ++ quoted ++ " is invalid")
      else
        let normalized := (intPart ++ fracPart).dropWhile (· = '0')
        if normalized = [] then .ok 0
        else
          match parseUint quote normalized with
          | .error err => .error ("parse money " ++ quoted ++ ": " ++ err)
          | .ok fenValue =>
            if limit negative < fenValue then
              .error ("parse money " ++ quoted ++ ": value out of range")
            else .ok (withSign negative fenValue)

def parseYuan (value : String) : Except String Int64 :=
  match (GoText.trimSpace value).toList with
  | [] => .error "money string is empty"
  | '-' :: [] | '+' :: [] => .error "money string is invalid"
  | '-' :: value => parseMagnitude quote true value
  | '+' :: value => parseMagnitude quote false value
  | value => parseMagnitude quote false value

end Model

section Numerals

inductive Sign where
  | plus
  | minus
  deriving DecidableEq, Repr

def signText : Option Sign → List Char
  | none => []
  | some .plus => ['+']
  | some .minus => ['-']

def magnitudeText (whole : List (Fin 10)) : Option (List (Fin 10)) → List Char
  | none => Decimal.chars whole
  | some decimals => Decimal.chars whole ++ '.' :: Decimal.chars decimals

/-- A decimal number of yuan as it may be written: spaces around it, at most one sign,
digits, and at most one dot with at most two digits after it. -/
structure YuanText where
  before : List Char
  sign : Option Sign
  whole : List (Fin 10)
  fraction : Option (List (Fin 10))
  after : List Char
  before_space : ∀ c ∈ before, GoText.isSpace c
  fraction_length : (fraction.getD []).length ≤ 2
  some_digit : whole ++ fraction.getD [] ≠ []
  after_space : ∀ c ∈ after, GoText.isSpace c

namespace YuanText

variable (text : YuanText)

def decimals : List (Fin 10) :=
  text.fraction.getD []

def negative : Bool :=
  text.sign = some .minus

def digitText : List Char :=
  magnitudeText text.whole text.fraction

def toString : String :=
  String.ofList (text.before ++ (signText text.sign ++ text.digitText) ++ text.after)

def value : ℚ :=
  let magnitude : ℚ :=
    Decimal.value text.whole + Decimal.value text.decimals / 10 ^ text.decimals.length
  if text.negative then -magnitude else magnitude

def fen : Nat :=
  Decimal.value (text.whole ++ text.decimals) * 10 ^ (2 - text.decimals.length)

theorem hundred_mul_value : 100 * text.value = (signed text.negative text.fen : Int) := by
  have hlength : text.decimals.length ≤ 2 := text.fraction_length
  have hmagnitude : (100 : ℚ) *
      (Decimal.value text.whole + Decimal.value text.decimals / 10 ^ text.decimals.length) =
        (text.fen : ℚ) := by
    unfold fen
    rw [Decimal.value_append]
    generalize text.decimals = decimals at *
    obtain hzero | hone | htwo : decimals.length = 0 ∨ decimals.length = 1 ∨ decimals.length = 2 :=
      by omega
    · rw [hzero]
      push_cast
      ring
    · rw [hone]
      push_cast
      ring
    · rw [htwo]
      push_cast
      ring
  unfold value signed
  cases text.negative with
  | true =>
    simp only [if_true, mul_neg, hmagnitude]
    push_cast
    rfl
  | false =>
    simp only [Bool.false_eq_true, if_false, hmagnitude]
    push_cast
    rfl

theorem fits_iff : FitsInt64 (signed text.negative text.fen) ↔
    -2 ^ 63 ≤ 100 * text.value ∧ 100 * text.value ≤ 2 ^ 63 - 1 := by
  rw [hundred_mul_value]
  unfold FitsInt64
  constructor
  · rintro ⟨hlow, hhigh⟩
    exact ⟨by exact_mod_cast hlow, by exact_mod_cast hhigh⟩
  · rintro ⟨hlow, hhigh⟩
    exact ⟨by exact_mod_cast hlow, by exact_mod_cast hhigh⟩

theorem notMem_chars {c : Char} (digits : List (Fin 10)) (h : c.toNat < 48 ∨ 57 < c.toNat) :
    c ∉ Decimal.chars digits := by
  intro hmem
  have := Decimal.mem_chars hmem
  omega

theorem digitText_splitOn : (text.digitText.splitOn '.').length ≤ 2 ∧
    (text.digitText.splitOn '.').getD 0 [] = Decimal.chars text.whole ∧
      (text.digitText.splitOn '.').getD 1 [] = Decimal.chars text.decimals := by
  have hsplit (digits : List (Fin 10)) :
      (Decimal.chars digits).splitOn '.' = [Decimal.chars digits] :=
    List.splitOn_eq_singleton (notMem_chars digits (by decide))
  unfold digitText decimals
  cases text.fraction with
  | none => simp [magnitudeText, hsplit]
  | some decimals => simp [magnitudeText, hsplit, List.splitOn_append_cons_self]

theorem mem_digitText {c : Char} (h : c ∈ text.digitText) :
    c = '.' ∨ (48 ≤ c.toNat ∧ c.toNat ≤ 57) := by
  unfold digitText at h
  cases hfraction : text.fraction with
  | none =>
    rw [hfraction] at h
    exact .inr (Decimal.mem_chars h)
  | some decimals =>
    rw [hfraction] at h
    obtain h | h := List.mem_append.mp h
    · exact .inr (Decimal.mem_chars h)
    · obtain rfl | h := List.mem_cons.mp h
      · exact .inl rfl
      · exact .inr (Decimal.mem_chars h)

theorem mem_signText {c : Char} {sign : Option Sign} (h : c ∈ signText sign) :
    c = '+' ∨ c = '-' := by
  cases sign with
  | none => cases h
  | some sign => cases sign <;> simp_all [signText]

theorem digitText_ne_nil : text.digitText ≠ [] := by
  have hdigit := text.some_digit
  unfold digitText
  cases hfraction : text.fraction with
  | none => simpa [magnitudeText, hfraction] using hdigit
  | some decimals => simp [magnitudeText]

end YuanText

end Numerals

section Reading

open YuanText

variable (quote : String → String)

theorem allDigits_chars (digits : List (Fin 10)) : allDigits (Decimal.chars digits) = true := by
  rw [allDigits, List.all_eq_true]
  intro c hc
  have hrange := Decimal.mem_chars hc
  have hlow : ¬c < '0' := by
    rw [Char.lt_def, UInt32.lt_iff_toNat_lt]
    exact Nat.not_lt.mpr hrange.1
  have hhigh : ¬('9' < c) := by
    rw [Char.lt_def, UInt32.lt_iff_toNat_lt]
    exact Nat.not_lt.mpr hrange.2
  simp [hlow, hhigh]

theorem byteLength_chars (digits : List (Fin 10)) :
    byteLength (Decimal.chars digits) = digits.length := by
  induction digits with
  | nil => rfl
  | cons digit rest ih =>
    have hsize : (Decimal.digitChar digit).utf8Size = 1 := by
      have hrange := Decimal.digitChar_toNat digit
      have hdigit := digit.isLt
      rw [Char.utf8Size_eq_one_iff, UInt32.le_iff_toNat_le]
      change (Decimal.digitChar digit).toNat ≤ 127
      omega
    change (Decimal.digitChar digit).utf8Size + byteLength (Decimal.chars rest) = _
    rw [hsize, ih, List.length_cons]
    omega

def normalized (text : YuanText) : List (Fin 10) :=
  (if text.whole = [] then [0] else text.whole) ++
    (text.decimals ++ List.replicate (2 - text.decimals.length) 0)

theorem value_normalized (text : YuanText) : Decimal.value (normalized text) = text.fen := by
  have hzeros (count : Nat) : Decimal.value (List.replicate count 0) = 0 := by
    induction count with
    | zero => rfl
    | succ count ih => simp [List.replicate_succ, Decimal.value_cons, ih]
  unfold normalized fen
  rw [← List.append_assoc, Decimal.value_append, hzeros, List.length_replicate, Nat.add_zero]
  split
  next hwhole =>
    rw [hwhole, Decimal.value_append]
    simp
  next => rfl

theorem chars_normalized (text : YuanText) : Decimal.chars (normalized text) =
    (if Decimal.chars text.whole = [] then ['0'] else Decimal.chars text.whole) ++
      (if Decimal.chars text.decimals = [] then ['0', '0']
        else if text.decimals.length = 1 then Decimal.chars text.decimals ++ ['0']
        else Decimal.chars text.decimals) := by
  have hlength : text.decimals.length ≤ 2 := text.fraction_length
  unfold normalized
  rw [Decimal.chars_append]
  congr 1
  · simp only [Decimal.chars_eq_nil]
    split <;> rfl
  · generalize text.decimals = decimals at *
    cases decimals with
    | nil => rfl
    | cons first rest =>
      cases rest with
      | nil => rfl
      | cons second rest =>
        cases rest with
        | nil => rfl
        | cons third rest =>
          simp only [List.length_cons] at hlength
          omega

theorem parseUint_chars (digits : List (Fin 10)) :
    (2 ^ 64 ≤ Decimal.value digits ∧ ∃ err, parseUint quote (Decimal.chars digits) = .error err) ∨
      ∃ number : UInt64, number.toNat = Decimal.value digits ∧
        parseUint quote (Decimal.chars digits) = .ok number := by
  unfold parseUint
  rw [Decimal.charsValue_chars]
  by_cases hlarge : 2 ^ 64 ≤ Decimal.value digits
  · rw [if_pos hlarge]
    exact .inl ⟨hlarge, _, rfl⟩
  · rw [if_neg hlarge]
    refine .inr ⟨_, ?_, rfl⟩
    rw [UInt64.toNat_ofNat', Nat.mod_eq_of_lt (Nat.lt_of_not_le hlarge)]

theorem parseMagnitude_digitText (negative : Bool) (text : YuanText) :
    ExactOrRefused (parseMagnitude quote negative text.digitText) (signed negative text.fen) := by
  obtain ⟨hparts, hint, hfrac⟩ := text.digitText_splitOn
  have hlength : text.decimals.length ≤ 2 := text.fraction_length
  have hchars := chars_normalized text
  have hdigits := allDigits_chars (normalized text)
  rw [hchars, allDigits, List.all_append, Bool.and_eq_true] at hdigits
  have hdrop := Decimal.chars_dropZeros (normalized text)
  have hvalue := Decimal.value_dropZeros (normalized text)
  rw [value_normalized] at hvalue
  unfold parseMagnitude
  simp only [hint, hfrac, byteLength_chars, allDigits]
  rw [if_neg (Nat.not_lt.mpr hparts), if_neg (Nat.not_lt.mpr hlength), hdigits.1, hdigits.2,
    ← hchars, hdrop]
  rw [if_neg (by decide)]
  simp only [Decimal.chars_eq_nil]
  split
  next hnil =>
    rw [hnil, Decimal.value_nil] at hvalue
    apply ExactOrRefused.ok
    rw [← hvalue, signed]
    cases negative <;> rfl
  next hne =>
    obtain ⟨hlarge, err, herror⟩ | ⟨number, hnumber, hok⟩ :=
      parseUint_chars quote ((normalized text).dropWhile (·.val = 0))
    · rw [herror]
      apply ExactOrRefused.error
      rw [fitsInt64_signed, ← hvalue]
      have := (limit negative).toNat_lt
      omega
    · rw [hok]
      rw [hvalue] at hnumber
      simp only [UInt64.lt_iff_toNat_lt]
      rw [← hnumber]
      split
      next hover =>
        apply ExactOrRefused.error
        rw [fitsInt64_signed]
        omega
      next hfits =>
        apply ExactOrRefused.ok
        exact toInt_withSign (fitsInt64_signed.mpr (Nat.le_of_not_lt hfits))

theorem parseYuan_toString (text : YuanText) :
    parseYuan quote text.toString = parseMagnitude quote text.negative text.digitText := by
  have hne := text.digitText_ne_nil
  have htrim : GoText.trimSpace text.toString =
      String.ofList (signText text.sign ++ text.digitText) := by
    apply GoText.trimSpace_surround text.before_space _ text.after_space
    intro c hc
    have hprintable : 33 ≤ c.toNat ∧ c.toNat ≤ 126 := by
      obtain hc | hc := List.mem_append.mp hc
      · obtain rfl | rfl := mem_signText hc <;> decide
      · obtain rfl | hc := text.mem_digitText hc
        · decide
        · omega
    exact GoText.isSpace_of_printable hprintable.1 hprintable.2
  unfold parseYuan
  rw [htrim, String.toList_ofList]
  unfold negative
  cases hdigits : text.digitText with
  | nil => exact absurd hdigits hne
  | cons c rest =>
    have hc := text.mem_digitText (hdigits ▸ List.mem_cons_self)
    cases text.sign with
    | none =>
      have hplus : c ≠ '+' := by
        rintro rfl
        exact absurd hc (by decide)
      have hminus : c ≠ '-' := by
        rintro rfl
        exact absurd hc (by decide)
      simp [signText, hplus, hminus]
    | some sign =>
      cases sign with
      | plus => rfl
      | minus => rfl

end Reading

section Printing

theorem twoDigits_chars (number : UInt64) (h : number.toNat < 100) : ∃ tens ones,
    (twoDigits number).toList = Decimal.chars [tens, ones] ∧
      Decimal.value [tens, ones] = number.toNat := by
  have hsmall : number < 10 ↔ number.toNat < 10 := UInt64.lt_iff_toNat_lt
  unfold twoDigits
  simp only [hsmall]
  split
  next hone =>
    refine ⟨0, ⟨number.toNat, hone⟩, ?_, by simp [Decimal.value_cons]⟩
    rw [String.toList_append, Decimal.toList_toString, Decimal.toDigits_of_lt hone]
    rfl
  next htwo =>
    have htens : number.toNat / 10 < 10 := by omega
    refine ⟨⟨number.toNat / 10, htens⟩, ⟨number.toNat % 10, Nat.mod_lt _ (by decide)⟩, ?_, ?_⟩
    · rw [Decimal.toList_toString, Decimal.toDigits_of_le (Nat.le_of_not_lt htwo),
        Decimal.toDigits_of_lt htens]
      rfl
    · rw [Decimal.value_cons, Decimal.value_singleton]
      simp only [List.length_singleton]
      omega

def printed (f : Int64) (whole : List (Fin 10)) (tens ones : Fin 10) : YuanText where
  before := []
  sign := if f < 0 then some .minus else none
  whole := whole
  fraction := some [tens, ones]
  after := []
  before_space := List.forall_mem_nil _
  fraction_length := Nat.le_refl 2
  some_digit := by simp
  after_space := List.forall_mem_nil _

theorem toString_printed (f : Int64) (whole : List (Fin 10)) (tens ones : Fin 10) :
    (printed f whole tens ones).toString.toList =
      (if f < 0 then "-" else "").toList ++ Decimal.chars whole ++ ".".toList ++
        Decimal.chars [tens, ones] := by
  unfold YuanText.toString YuanText.digitText printed
  by_cases hneg : f < 0 <;> simp [signText, magnitudeText, hneg]

theorem negative_printed (f : Int64) (whole : List (Fin 10)) (tens ones : Fin 10) :
    (printed f whole tens ones).negative = decide (f.toInt < 0) := by
  unfold YuanText.negative printed
  by_cases hneg : f < 0
  · simp [hneg, (lt_zero_iff f).mp hneg]
  · simp [hneg, (lt_zero_iff f).not.mp hneg]

theorem fen_printed (f : Int64) (whole : List (Fin 10)) (tens ones : Fin 10) :
    (printed f whole tens ones).fen =
      Decimal.value whole * 100 + Decimal.value [tens, ones] := by
  change Decimal.value (whole ++ [tens, ones]) * 10 ^ 0 = _
  rw [Decimal.value_append]
  change (_ * 10 ^ 2 + _) * 1 = _
  omega

theorem exists_yuanText (f : Int64) : ∃ text : YuanText, text.toString = yuanString f ∧
    signed text.negative text.fen = f.toInt := by
  have hyuan : (int64Magnitude f / fenPerYuan).toNat = f.toInt.natAbs / 100 := by
    rw [UInt64.toNat_div, toNat_int64Magnitude]
    rfl
  have hfen : (int64Magnitude f % fenPerYuan).toNat = f.toInt.natAbs % 100 := by
    rw [UInt64.toNat_mod, toNat_int64Magnitude]
    rfl
  obtain ⟨whole, -, hwhole, hvalue⟩ := Decimal.exists_digits (int64Magnitude f / fenPerYuan).toNat
  obtain ⟨tens, ones, hcents, hcentsValue⟩ :=
    twoDigits_chars (int64Magnitude f % fenPerYuan) (by omega)
  refine ⟨printed f whole tens ones, ?_, ?_⟩
  · apply String.toList_injective
    rw [toString_printed, ← hwhole, ← hcents]
    simp only [yuanString, String.toList_append]
  · rw [negative_printed, fen_printed, hvalue, hcentsValue, hyuan, hfen]
    unfold signed
    by_cases hneg : f.toInt < 0
    · rw [if_pos (decide_eq_true hneg)]
      omega
    · rw [if_neg (by simpa using hneg)]
      omega

end Printing

/-- What is printed is read back, and a written decimal number of yuan is read as
exactly one hundred times its value or refused. -/
theorem yuan_text_exact (quote : String → String) :
    (∀ f : Int64, parseYuan quote (yuanString f) = .ok f) ∧
      ∀ text : YuanText,
        (-2 ^ 63 ≤ 100 * text.value ∧ 100 * text.value ≤ 2 ^ 63 - 1 →
          ∃ f : Int64, parseYuan quote text.toString = .ok f ∧
            (f.toInt : ℚ) = 100 * text.value) ∧
        (¬(-2 ^ 63 ≤ 100 * text.value ∧ 100 * text.value ≤ 2 ^ 63 - 1) →
          ∃ message, parseYuan quote text.toString = .error message) := by
  have hexact (text : YuanText) : ExactOrRefused (parseYuan quote text.toString)
      (signed text.negative text.fen) := by
    rw [parseYuan_toString]
    exact parseMagnitude_digitText quote text.negative text
  constructor
  · intro f
    obtain ⟨text, htext, hnumber⟩ := exists_yuanText f
    have h := hexact text
    rw [htext, hnumber] at h
    obtain ⟨result, hok⟩ := h.exists_ok (fitsInt64_toInt f)
    rw [hok, Int64.toInt_inj.mp (h.2 result hok)]
  · intro text
    rw [← text.fits_iff]
    constructor
    · intro hrange
      obtain ⟨result, hok⟩ := (hexact text).exists_ok hrange
      exact ⟨result, hok, by rw [text.hundred_mul_value, (hexact text).2 result hok]⟩
    · exact (hexact text).1.mpr

example : ((parseYuan id " +007.5 ").toOption, (parseYuan id "-92233720368547758.08").toOption,
    (parseYuan id "92233720368547758.08").toOption) = (some 750, some Int64.minValue, none) := by
  decide +kernel

end Goshop.Money.Text
