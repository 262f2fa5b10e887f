import Mathlib.Data.List.Dedup
import Mathlib.Data.List.DropRight
import Mathlib.Data.List.Sort

/-! The string functions of the Go standard library that the services use.
Texts reach the services through protobuf and JSON, so they are valid Unicode
and a Lean `String` holds the same code points. -/
namespace Goshop.Lib.GoText

/-- The code points for which `unicode.IsSpace` holds. -/
def isSpace (c : Char) : Bool :=
  c.toNat ∈ [0x09, 0x0A, 0x0B, 0x0C, 0x0D, 0x20, 0x85, 0xA0, 0x1680, 0x2028, 0x2029, 0x202F,
    0x205F, 0x3000] || (0x2000 ≤ c.toNat && c.toNat ≤ 0x200A)

def trimSpace (text : String) : String :=
  String.ofList ((text.toList.dropWhile isSpace).rdropWhile isSpace)

private theorem dropWhile_rdropWhile_dropWhile (p : Char → Bool) (chars : List Char) :
    (((chars.dropWhile p).rdropWhile p).dropWhile p) = (chars.dropWhile p).rdropWhile p := by
  rw [List.dropWhile_eq_self_iff]
  intro hne
  have hprefix : (chars.dropWhile p).rdropWhile p <+: chars.dropWhile p :=
    List.rdropWhile_prefix p _
  have hne' : 0 < (chars.dropWhile p).length := hne.trans_le hprefix.length_le
  have hhead := List.dropWhile_get_zero_not p chars hne'
  rw [List.IsPrefix.getElem hprefix hne]
  simpa using hhead

@[simp] theorem trimSpace_trimSpace (text : String) :
    trimSpace (trimSpace text) = trimSpace text := by
  unfold trimSpace
  rw [String.toList_ofList, dropWhile_rdropWhile_dropWhile, List.rdropWhile_idempotent]

@[simp] theorem trimSpace_empty : trimSpace "" = "" := rfl

theorem mem_of_mem_trimSpace {c : Char} {text : String} (h : c ∈ (trimSpace text).toList) :
    c ∈ text.toList := by
  rw [trimSpace, String.toList_ofList] at h
  exact (List.dropWhile_suffix isSpace).mem ((List.rdropWhile_prefix isSpace _).mem h)

theorem trimSpace_surround {before body after : List Char} (hbefore : ∀ c ∈ before, isSpace c)
    (hbody : ∀ c ∈ body, isSpace c = false) (hafter : ∀ c ∈ after, isSpace c) :
    trimSpace (String.ofList (before ++ body ++ after)) = String.ofList body := by
  have hkeep (part : List Char) (hpart : ∀ c ∈ part, isSpace c = false) :
      part.dropWhile isSpace = part := by
    rw [List.dropWhile_eq_self_iff]
    intro hne
    simp [hpart]
  have hrdrop (part : List Char) : (part ++ after).rdropWhile isSpace = part.rdropWhile isSpace := by
    rw [List.rdropWhile, List.rdropWhile, List.reverse_append,
      List.dropWhile_append_of_pos (by simpa using hafter)]
  have hlast : body.rdropWhile isSpace = body := by
    rw [List.rdropWhile, hkeep _ (by simpa using hbody), List.reverse_reverse]
  unfold trimSpace
  rw [String.toList_ofList, List.append_assoc, List.dropWhile_append_of_pos hbefore]
  cases body with
  | nil =>
    rw [List.nil_append, List.dropWhile_eq_nil_iff.mpr hafter, List.rdropWhile_nil]
  | cons c rest =>
    rw [List.cons_append, List.dropWhile_cons_of_neg (by simp [hbody]), ← List.cons_append, hrdrop,
      hlast]

theorem notMem_of_mem_splitOn {α : Type} [BEq α] [LawfulBEq α] {sep : α} {text part : List α}
    (h : part ∈ text.splitOn sep) : sep ∉ part := by
  induction text generalizing part with
  | nil => simp_all
  | cons c rest ih =>
    rw [List.splitOn_cons_eq_if_modifyHead] at h
    cases hsplit : rest.splitOn sep with
    | nil => simp at hsplit
    | cons first others =>
      simp only [hsplit, List.mem_cons, List.modifyHead_cons] at h ih
      split at h
      · grind
      · grind

/-- `strings.ToLower`, for the letters that have an ASCII lower case. -/
def toLower (text : String) : String :=
  String.ofList (text.toList.map fun c =>
    if c.toNat = 0x130 then 'i' else if c.toNat = 0x212A then 'k' else c.toLower)

/-- `strings.ToUpper`, for the letters that have an ASCII upper case. -/
def toUpper (text : String) : String :=
  String.ofList (text.toList.map fun c =>
    if c.toNat = 0x131 then 'I' else if c.toNat = 0x17F then 'S' else c.toUpper)

/-- A table of `unicode.ToLower`. Of the real one only three facts matter here: a
lower-case letter has no other lower case, no space has or is one, and nothing
that comes before the letters is one. -/
class CaseTable where
  lower : Char → Char
  lower_lower (c : Char) : lower (lower c) = lower c
  isSpace_lower (c : Char) : isSpace (lower c) = isSpace c
  lower_eq_of_lt (c : Char) : (lower c).toNat < 0x41 → lower c = c

namespace CaseTable

variable (table : CaseTable)

def toLower (text : String) : String :=
  String.ofList (text.toList.map table.lower)

def lowerTrim (text : String) : String :=
  table.toLower (trimSpace text)

theorem toLower_toLower (text : String) :
    table.toLower (table.toLower text) = table.toLower text := by
  unfold toLower
  rw [String.toList_ofList, List.map_map]
  congr 2
  funext c
  exact table.lower_lower c

theorem trimSpace_toLower (text : String) :
    trimSpace (table.toLower text) = table.toLower (trimSpace text) := by
  have hsame : isSpace ∘ table.lower = isSpace := funext table.isSpace_lower
  unfold trimSpace toLower
  simp only [String.toList_ofList, List.rdropWhile, List.dropWhile_map, hsame, ← List.map_reverse]

@[simp] theorem lowerTrim_lowerTrim (text : String) :
    table.lowerTrim (table.lowerTrim text) = table.lowerTrim text := by
  unfold lowerTrim
  rw [trimSpace_toLower, trimSpace_trimSpace, toLower_toLower]

theorem mem_of_mem_lowerTrim {c : Char} {text : String} (hc : c.toNat < 0x41)
    (h : c ∈ (table.lowerTrim text).toList) : c ∈ text.toList := by
  rw [lowerTrim, toLower, String.toList_ofList] at h
  obtain ⟨letter, hletter, rfl⟩ := List.mem_map.mp h
  rw [table.lower_eq_of_lt letter hc]
  exact mem_of_mem_trimSpace hletter

end CaseTable

theorem toNat_toLower (c : Char) :
    c.toLower.toNat = if 65 ≤ c.toNat ∧ c.toNat ≤ 90 then c.toNat + 32 else c.toNat := by
  have hrange : (c.val ≥ 'A'.val ∧ c.val ≤ 'Z'.val) ↔ (65 ≤ c.toNat ∧ c.toNat ≤ 90) := by
    simp [UInt32.le_iff_toNat_le]
  unfold Char.toLower
  by_cases h : 65 ≤ c.toNat ∧ c.toNat ≤ 90
  · rw [dif_pos (hrange.mpr h), if_pos h]
    change (c.val + 32).toNat = _
    rw [UInt32.toNat_add, Char.toNat_val]
    simp only [UInt32.toNat_ofNat]
    omega
  · rw [dif_neg (fun h' => h (hrange.mp h')), if_neg h]

theorem isSpace_of_printable {c : Char} (h : 33 ≤ c.toNat) (h' : c.toNat ≤ 126) :
    isSpace c = false := by
  simp only [isSpace, List.mem_cons, List.not_mem_nil, or_false, Bool.or_eq_false_iff,
    decide_eq_false_iff_not, Bool.and_eq_false_iff]
  omega

private theorem isSpace_toLower (c : Char) : isSpace c.toLower = isSpace c := by
  have hlower := toNat_toLower c
  by_cases h : 65 ≤ c.toNat ∧ c.toNat ≤ 90
  · rw [if_pos h] at hlower
    rw [isSpace_of_printable (by omega) (by omega), isSpace_of_printable (by omega) (by omega)]
  · rw [if_neg h] at hlower
    rw [Char.toNat_inj.mp hlower]

@[reducible] def asciiTable : CaseTable where
  lower c := if c.toNat = 0x130 then 'i' else if c.toNat = 0x212A then 'k' else c.toLower
  lower_lower c := by
    have hlower := toNat_toLower c
    have htwice := toNat_toLower c.toLower
    by_cases hdotted : c.toNat = 0x130
    · simp [hdotted]
    · by_cases hkelvin : c.toNat = 0x212A
      · simp [hkelvin]
      · simp only [hdotted, hkelvin, if_false]
        rw [if_neg (by grind), if_neg (by grind)]
        apply Char.toNat_inj.mp
        grind
  isSpace_lower c := by
    by_cases hdotted : c.toNat = 0x130
    · simp [isSpace, hdotted]
    · by_cases hkelvin : c.toNat = 0x212A
      · simp [isSpace, hkelvin]
      · simp only [hdotted, hkelvin, if_false]
        exact isSpace_toLower c
  lower_eq_of_lt c := by
    have hlower := toNat_toLower c
    by_cases hdotted : c.toNat = 0x130
    · simp [hdotted]
    · by_cases hkelvin : c.toNat = 0x212A
      · simp [hkelvin]
      · simp only [hdotted, hkelvin, if_false]
        intro h
        exact Char.toNat_inj.mp (by grind)

/-- `strings.ToLower(strings.TrimSpace(text))` on names that are ASCII or refused. -/
def lowerTrim (text : String) : String :=
  toLower (trimSpace text)

@[simp] theorem lowerTrim_lowerTrim (text : String) :
    lowerTrim (lowerTrim text) = lowerTrim text :=
  asciiTable.lowerTrim_lowerTrim text

def namesIn (values : List String) : List String :=
  (values.map lowerTrim).filter (· ≠ "")

/-- Names that have been trimmed and lowered once are the same the second time. -/
theorem mem_of_mem_namesIn_map {name : String} {values : List String}
    (h : name ∈ namesIn (values.map lowerTrim)) : name ∈ values.map lowerTrim := by
  have hmem := List.mem_of_mem_filter h
  rw [List.map_map] at hmem
  simpa using hmem

def sortedSet (values : List String) : List String :=
  values.dedup.insertionSort (· ≤ ·)

@[simp] theorem mem_sortedSet {value : String} {values : List String} :
    value ∈ sortedSet values ↔ value ∈ values := by
  simp [sortedSet]

@[simp] theorem sortedSet_eq_nil {values : List String} : sortedSet values = [] ↔ values = [] := by
  simp only [List.eq_nil_iff_forall_not_mem, mem_sortedSet]

/-- The fold of one code point on the orbits that contain an ASCII letter. -/
def foldRune (c : Char) : Char :=
  if c.toNat = 0x17F then 's' else if c.toNat = 0x212A then 'k' else c.toLower

def equalFold (text ascii : String) : Bool :=
  text.toList.map foldRune == ascii.toList.map foldRune

end Goshop.Lib.GoText
