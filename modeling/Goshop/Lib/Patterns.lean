import Mathlib.Computability.Language

/-! Patterns of bounded length: sets of symbols, one after the other, as alternatives
and repeated a bounded number of times. They are matched against whole texts, like a
regular expression between `^` and `$`. -/
namespace Goshop.Lib.Patterns

variable {α : Type*}

inductive Pattern (α : Type*) where
  | empty
  | symbol (test : α → Bool)
  | seq (first second : Pattern α)
  | alt (left right : Pattern α)

namespace Pattern

def times (pattern : Pattern α) : Nat → Pattern α
  | 0 => .empty
  | n + 1 => .seq pattern (times pattern n)

def upTo (pattern : Pattern α) : Nat → Pattern α
  | 0 => .empty
  | n + 1 => .alt .empty (.seq pattern (upTo pattern n))

/-- What is left of a text behind the matches at its start. -/
def rests : Pattern α → List α → List (List α)
  | .empty, text => [text]
  | .symbol _, [] => []
  | .symbol test, c :: rest => if test c then [rest] else []
  | .seq first second, text => (first.rests text).flatMap second.rests
  | .alt left right, text => left.rests text ++ right.rests text

def accepts (pattern : Pattern α) (text : List α) : Bool :=
  (pattern.rests text).any List.isEmpty

def language : Pattern α → Language α
  | .empty => 1
  | .symbol test => {text | ∃ c, test c = true ∧ text = [c]}
  | .seq first second => first.language * second.language
  | .alt left right => left.language + right.language

section Language

variable {text : List α}

@[simp] theorem mem_language_empty : text ∈ (empty : Pattern α).language ↔ text = [] :=
  Language.mem_one text

@[simp] theorem mem_language_symbol {test : α → Bool} :
    text ∈ (symbol test).language ↔ ∃ c, test c = true ∧ text = [c] :=
  Iff.rfl

@[simp] theorem mem_language_seq {first second : Pattern α} :
    text ∈ (seq first second).language ↔
      ∃ left ∈ first.language, ∃ right ∈ second.language, left ++ right = text :=
  Language.mem_mul

@[simp] theorem mem_language_alt {left right : Pattern α} :
    text ∈ (alt left right).language ↔ text ∈ left.language ∨ text ∈ right.language :=
  Language.mem_add _ _ _

theorem mem_language_symbol_seq {test : α → Bool} {second : Pattern α} :
    text ∈ (seq (symbol test) second).language ↔
      ∃ c rest, test c = true ∧ rest ∈ second.language ∧ text = c :: rest := by
  rw [mem_language_seq]
  constructor
  · rintro ⟨left, ⟨c, hc, rfl⟩, rest, hrest, rfl⟩
    exact ⟨c, rest, hc, hrest, rfl⟩
  · rintro ⟨c, rest, hc, hrest, rfl⟩
    exact ⟨[c], ⟨c, hc, rfl⟩, rest, hrest, rfl⟩

theorem mem_language_times {test : α → Bool} {n : Nat} :
    text ∈ ((symbol test).times n).language ↔ text.length = n ∧ ∀ c ∈ text, test c = true := by
  induction n generalizing text with
  | zero =>
    rw [times, mem_language_empty, List.length_eq_zero_iff]
    constructor
    · rintro rfl
      exact ⟨rfl, List.forall_mem_nil _⟩
    · exact And.left
  | succ n ih =>
    rw [times, mem_language_symbol_seq]
    constructor
    · rintro ⟨c, rest, hc, hrest, rfl⟩
      obtain ⟨hlength, hall⟩ := ih.mp hrest
      exact ⟨congrArg (· + 1) hlength, List.forall_mem_cons.mpr ⟨hc, hall⟩⟩
    · rintro ⟨hlength, hall⟩
      cases text with
      | nil => cases hlength
      | cons c rest =>
        obtain ⟨hc, hrest⟩ := List.forall_mem_cons.mp hall
        exact ⟨c, rest, hc, ih.mpr ⟨Nat.succ.inj hlength, hrest⟩, rfl⟩

end Language

theorem mem_rests {pattern : Pattern α} {text rest : List α} :
    rest ∈ pattern.rests text ↔ ∃ word ∈ pattern.language, word ++ rest = text := by
  induction pattern generalizing text rest with
  | empty => simp [rests]
  | symbol test =>
    cases text with
    | nil => simp [rests]
    | cons c left =>
      simp only [rests, List.mem_ite_nil_right, List.mem_singleton, mem_language_symbol]
      constructor
      · rintro ⟨hc, rfl⟩
        exact ⟨[c], ⟨c, hc, rfl⟩, rfl⟩
      · rintro ⟨word, ⟨c', hc, rfl⟩, heq⟩
        obtain ⟨rfl, rfl⟩ := List.cons.inj heq
        exact ⟨hc, rfl⟩
  | seq first second ihFirst ihSecond =>
    simp only [rests, List.mem_flatMap, ihFirst, ihSecond, mem_language_seq]
    constructor
    · rintro ⟨middle, ⟨left, hleft, rfl⟩, right, hright, rfl⟩
      exact ⟨left ++ right, ⟨left, hleft, right, hright, rfl⟩, List.append_assoc left right rest⟩
    · rintro ⟨word, ⟨left, hleft, right, hright, rfl⟩, rfl⟩
      exact ⟨right ++ rest, ⟨left, hleft, (List.append_assoc left right rest).symm⟩, right, hright,
        rfl⟩
  | alt left right ihLeft ihRight =>
    simp only [rests, List.mem_append, ihLeft, ihRight, mem_language_alt, or_and_right,
      exists_or]

/-- The matcher decides the language. -/
theorem accepts_iff {pattern : Pattern α} {text : List α} :
    pattern.accepts text = true ↔ text ∈ pattern.language := by
  simp only [accepts, List.any_eq_true, List.isEmpty_iff, exists_eq_right, mem_rests,
    List.append_nil]

end Pattern

end Goshop.Lib.Patterns
