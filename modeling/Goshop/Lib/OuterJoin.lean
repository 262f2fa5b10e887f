import Mathlib.Data.List.Nodup

/-! The full outer join of two lists on a key that is unique on each side: one
entry for every key of either list, with the rows that have it. -/
namespace Goshop.Lib.OuterJoin

inductive Joined (α β : Type) where
  | both (left : α) (right : β)
  | onlyLeft (left : α)
  | onlyRight (right : β)
deriving DecidableEq, Repr

variable {α β κ : Type} [DecidableEq κ] (keyL : α → κ) (keyR : β → κ)

def Joined.key : Joined α β → κ
  | .both left _ => keyL left
  | .onlyLeft left => keyL left
  | .onlyRight right => keyR right

def probe (right : List β) (row : α) : Joined α β :=
  match right.find? (keyR · = keyL row) with
  | some partner => .both row partner
  | none => .onlyLeft row

def outerJoin (left : List α) (right : List β) : List (Joined α β) :=
  left.map (probe keyL keyR right) ++
    (right.filter fun row => keyR row ∉ left.map keyL).map .onlyRight

def Joined.Correct (left : List α) (right : List β) : Joined α β → Prop
  | .both row partner => row ∈ left ∧ partner ∈ right ∧ keyR partner = keyL row
  | .onlyLeft row => row ∈ left ∧ keyL row ∉ right.map keyR
  | .onlyRight row => row ∈ right ∧ keyR row ∉ left.map keyL

variable {keyL keyR} {left : List α} {right : List β}

theorem probe_key (right : List β) (row : α) :
    (probe keyL keyR right row).key keyL keyR = keyL row := by
  unfold probe
  split <;> rfl

theorem outerJoin_keys (left : List α) (right : List β) :
    (outerJoin keyL keyR left right).map (Joined.key keyL keyR) =
      left.map keyL ++ (right.filter fun row => keyR row ∉ left.map keyL).map keyR := by
  rw [outerJoin, List.map_append, List.map_map, List.map_map]
  congr 1
  apply List.map_congr_left
  intro row _
  exact probe_key right row

theorem mem_outerJoin_keys {key : κ} :
    key ∈ (outerJoin keyL keyR left right).map (Joined.key keyL keyR) ↔
      key ∈ left.map keyL ∨ key ∈ right.map keyR := by
  rw [outerJoin_keys, List.mem_append]
  by_cases hkey : key ∈ left.map keyL
  · exact iff_of_true (.inl hkey) (.inl hkey)
  · rw [or_iff_right hkey, or_iff_right hkey, List.mem_map, List.mem_map]
    constructor
    · rintro ⟨row, hrow, rfl⟩
      exact ⟨row, (List.mem_filter.mp hrow).1, rfl⟩
    · rintro ⟨row, hrow, rfl⟩
      exact ⟨row, List.mem_filter.mpr ⟨hrow, decide_eq_true hkey⟩, rfl⟩

theorem outerJoin_nodup (hleft : (left.map keyL).Nodup) (hright : (right.map keyR).Nodup) :
    ((outerJoin keyL keyR left right).map (Joined.key keyL keyR)).Nodup := by
  rw [outerJoin_keys, List.nodup_append]
  refine ⟨hleft, hright.sublist ((List.filter_sublist).map keyR), ?_⟩
  rintro _ hused _ hother rfl
  obtain ⟨row, hrow, hkey⟩ := List.mem_map.mp hother
  have hfresh := of_decide_eq_true (List.mem_filter.mp hrow).2
  rw [hkey] at hfresh
  exact hfresh hused

theorem probe_of_mem (hright : (right.map keyR).Nodup) {row : α} {partner : β}
    (hpartner : partner ∈ right) (hkey : keyR partner = keyL row) :
    probe keyL keyR right row = .both row partner := by
  have hfind : right.find? (keyR · = keyL row) = some partner := by
    cases hfound : right.find? (keyR · = keyL row) with
    | none =>
      have hmiss := List.find?_eq_none.mp hfound partner hpartner
      simp [hkey] at hmiss
    | some found =>
      have hfoundKey : keyR found = keyL row := by simpa using List.find?_some hfound
      rw [List.inj_on_of_nodup_map hright (List.mem_of_find?_eq_some hfound) hpartner
        (hfoundKey.trans hkey.symm)]
  rw [probe, hfind]

theorem probe_of_absent {row : α} (habsent : keyL row ∉ right.map keyR) :
    probe keyL keyR right row = .onlyLeft row := by
  have hfind : right.find? (keyR · = keyL row) = none := by
    rw [List.find?_eq_none]
    intro partner hpartner hkey
    exact habsent (List.mem_map.mpr ⟨partner, hpartner, of_decide_eq_true hkey⟩)
  rw [probe, hfind]

theorem mem_outerJoin {joined : Joined α β} (h : joined ∈ outerJoin keyL keyR left right) :
    joined.Correct keyL keyR left right := by
  rcases List.mem_append.mp h with h | h
  · obtain ⟨row, hrow, rfl⟩ := List.mem_map.mp h
    cases hfind : right.find? (keyR · = keyL row) with
    | some partner =>
      simp only [probe, hfind]
      exact ⟨hrow, List.mem_of_find?_eq_some hfind, by simpa using List.find?_some hfind⟩
    | none =>
      simp only [probe, hfind]
      refine ⟨hrow, fun hkey => ?_⟩
      obtain ⟨partner, hpartner, hsame⟩ := List.mem_map.mp hkey
      have hmiss := List.find?_eq_none.mp hfind partner hpartner
      simp [hsame] at hmiss
  · obtain ⟨row, hrow, rfl⟩ := List.mem_map.mp h
    exact ⟨(List.mem_filter.mp hrow).1, of_decide_eq_true (List.mem_filter.mp hrow).2⟩

section Kinds

variable (hleft : (left.map keyL).Nodup) (hright : (right.map keyR).Nodup)
  {joined : Joined α β} (h : joined ∈ outerJoin keyL keyR left right)
include hleft hright h

theorem outerJoin_eq {other : Joined α β} (hother : other ∈ outerJoin keyL keyR left right)
    (hkey : other.key keyL keyR = joined.key keyL keyR) : other = joined :=
  List.inj_on_of_nodup_map (outerJoin_nodup hleft hright) hother h hkey

theorem both_iff {holds : α → β → Prop} :
    (∃ row partner, joined = .both row partner ∧ holds row partner) ↔
      ∃ row ∈ left, ∃ partner ∈ right, keyL row = joined.key keyL keyR ∧
        keyR partner = joined.key keyL keyR ∧ holds row partner := by
  constructor
  · rintro ⟨row, partner, rfl, hholds⟩
    obtain ⟨hrow, hpartner, hkey⟩ := mem_outerJoin h
    exact ⟨row, hrow, partner, hpartner, rfl, hkey, hholds⟩
  · rintro ⟨row, hrow, partner, hpartner, hkey, hpartnerKey, hholds⟩
    refine ⟨row, partner, ?_, hholds⟩
    have hprobe := probe_of_mem hright hpartner (hpartnerKey.trans hkey.symm)
    have hmem : Joined.both row partner ∈ outerJoin keyL keyR left right :=
      List.mem_append_left _ (List.mem_map.mpr ⟨row, hrow, hprobe⟩)
    exact (outerJoin_eq hleft hright h hmem hkey).symm

theorem onlyLeft_iff :
    (∃ row, joined = .onlyLeft row) ↔
      joined.key keyL keyR ∈ left.map keyL ∧ joined.key keyL keyR ∉ right.map keyR := by
  constructor
  · rintro ⟨row, rfl⟩
    obtain ⟨hrow, habsent⟩ := mem_outerJoin h
    exact ⟨List.mem_map_of_mem hrow, habsent⟩
  · rintro ⟨hkey, habsent⟩
    obtain ⟨row, hrow, hrowKey⟩ := List.mem_map.mp hkey
    refine ⟨row, ?_⟩
    rw [← hrowKey] at habsent
    have hmem : Joined.onlyLeft row ∈ outerJoin keyL keyR left right :=
      List.mem_append_left _ (List.mem_map.mpr ⟨row, hrow, probe_of_absent habsent⟩)
    exact (outerJoin_eq hleft hright h hmem hrowKey).symm

theorem onlyRight_iff :
    (∃ row, joined = .onlyRight row) ↔
      joined.key keyL keyR ∉ left.map keyL ∧ joined.key keyL keyR ∈ right.map keyR := by
  constructor
  · rintro ⟨row, rfl⟩
    obtain ⟨hrow, habsent⟩ := mem_outerJoin h
    exact ⟨habsent, List.mem_map_of_mem hrow⟩
  · rintro ⟨habsent, hkey⟩
    obtain ⟨row, hrow, hrowKey⟩ := List.mem_map.mp hkey
    refine ⟨row, ?_⟩
    rw [← hrowKey] at habsent
    have hmem : Joined.onlyRight row ∈ outerJoin keyL keyR left right :=
      List.mem_append_right _ (List.mem_map.mpr
        ⟨row, List.mem_filter.mpr ⟨hrow, decide_eq_true habsent⟩, rfl⟩)
    exact (outerJoin_eq hleft hright h hmem hrowKey).symm

end Kinds

end Goshop.Lib.OuterJoin
