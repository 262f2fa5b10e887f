import Goshop.Lib.Table
import Mathlib.Data.List.Chain
import Mathlib.Data.List.Nodup

/-! Journals of state changes. Many objects share one journal; an entry names its object
and the state it has left and the one it has entered. A journal is faithful when the
entries of each object lead from the initial state to the current one. -/
namespace Goshop.Lib.Journal

variable {ε κ σ : Type} [DecidableEq κ]

section History

variable (source target : ε → σ) (allowed : σ → σ → Prop) (initial : σ)

/-- The entries lead, one after the other, from the initial state to the final one. -/
structure Tells (entries : List ε) (final : σ) : Prop where
  first : entries.head?.map source = some initial
  chained : entries.IsChain fun entry next => source next = target entry
  allowed : ∀ entry ∈ entries, allowed (source entry) (target entry)
  last : entries.getLast?.map target = some final

variable {source target allowed initial}

theorem Tells.single {entry : ε} (hsource : source entry = initial)
    (hallowed : allowed (source entry) (target entry)) :
    Tells source target allowed initial [entry] (target entry) where
  first := by simp [hsource]
  chained := .singleton entry
  allowed := by simpa using hallowed
  last := rfl

theorem Tells.append {entries : List ε} {entry : ε}
    (h : Tells source target allowed initial entries (source entry))
    (hallowed : allowed (source entry) (target entry)) :
    Tells source target allowed initial (entries ++ [entry]) (target entry) where
  first := by
    have hfirst := h.first
    cases entries with
    | nil => simp at hfirst
    | cons head rest => simpa using hfirst
  chained := by
    rw [List.isChain_append]
    refine ⟨h.chained, .singleton entry, ?_⟩
    intro previous hprevious next hnext
    have hlast := h.last
    rw [Option.mem_def.mp hprevious] at hlast
    cases hnext
    exact (Option.some.inj hlast).symm
  allowed := by
    intro other hother
    obtain hother | hother := List.mem_append.mp hother
    · exact h.allowed other hother
    · rw [List.mem_singleton.mp hother]
      exact hallowed
  last := by simp

end History

section Shared

variable (key : ε → κ)

def history (object : κ) (journal : List ε) : List ε :=
  journal.filter (key · = object)

theorem history_append_other {object : κ} {entry : ε} (h : key entry ≠ object)
    (journal : List ε) : history key object (journal ++ [entry]) = history key object journal := by
  simp [history, h]

theorem history_append_self {object : κ} {entry : ε} (h : key entry = object)
    (journal : List ε) :
    history key object (journal ++ [entry]) = history key object journal ++ [entry] := by
  simp [history, h]

variable (source target : ε → σ) (allowed : σ → σ → Prop) (initial : σ)

/-- The journal accounts for the current state of every object. -/
structure Faithful (journal : List ε) (current : List (κ × σ)) : Prop where
  keys : (current.map Prod.fst).Nodup
  owned : ∀ entry ∈ journal, key entry ∈ current.map Prod.fst
  tells : ∀ object ∈ current,
    Tells source target allowed initial (history key object.1 journal) object.2

variable {key source target allowed initial} {journal : List ε} {current : List (κ × σ)}
  {entry : ε}

theorem Faithful.enter (h : Faithful key source target allowed initial journal current)
    (hnew : key entry ∉ current.map Prod.fst) (hsource : source entry = initial)
    (hallowed : allowed (source entry) (target entry)) :
    Faithful key source target allowed initial (journal ++ [entry])
      (current ++ [(key entry, target entry)]) where
  keys := by
    apply Table.nodup_snoc h.keys
    intro other hother hsame
    exact hnew (List.mem_map.mpr ⟨other, hother, hsame⟩)
  owned := by
    intro other hother
    rw [List.map_append]
    obtain hother | hother := List.mem_append.mp hother
    · exact List.mem_append_left _ (h.owned other hother)
    · rw [List.mem_singleton.mp hother]
      exact List.mem_append_right _ List.mem_cons_self
  tells := by
    intro object hobject
    obtain hobject | hobject := List.mem_append.mp hobject
    · rw [history_append_other]
      · exact h.tells object hobject
      · intro hkey
        exact hnew (hkey ▸ List.mem_map_of_mem hobject)
    · obtain rfl := List.mem_singleton.mp hobject
      have hnone : history key (key entry) journal = [] := by
        rw [history, List.filter_eq_nil_iff]
        intro other hother hkey
        exact hnew (of_decide_eq_true hkey ▸ h.owned other hother)
      rw [history_append_self key rfl, hnone]
      exact .single hsource hallowed

theorem Faithful.move (h : Faithful key source target allowed initial journal current)
    (hcurrent : (key entry, source entry) ∈ current)
    (hallowed : allowed (source entry) (target entry)) :
    Faithful key source target allowed initial (journal ++ [entry])
      (current.map fun object =>
        if object.1 = key entry then (object.1, target entry) else object) := by
  have hkeys : (current.map fun object =>
      if object.1 = key entry then (object.1, target entry) else object).map Prod.fst =
        current.map Prod.fst := by
    rw [List.map_map]
    apply List.map_congr_left
    intro object _
    rw [Function.comp_apply]
    split <;> rfl
  constructor
  case keys =>
    rw [hkeys]
    exact h.keys
  case owned =>
    intro other hother
    rw [hkeys]
    obtain hother | hother := List.mem_append.mp hother
    · exact h.owned other hother
    · rw [List.mem_singleton.mp hother]
      exact List.mem_map_of_mem hcurrent
  case tells =>
    intro object hobject
    obtain ⟨before, hbefore, rfl⟩ := List.mem_map.mp hobject
    by_cases hsame : before.1 = key entry
    · have hbeforeEq : before = (key entry, source entry) :=
        List.inj_on_of_nodup_map h.keys hbefore hcurrent hsame
      rw [if_pos hsame]
      change Tells source target allowed initial (history key before.1 (journal ++ [entry])) _
      rw [history_append_self key hsame.symm]
      subst hbeforeEq
      exact (h.tells _ hcurrent).append hallowed
    · rw [if_neg hsame, history_append_other key fun hkey => hsame hkey.symm]
      exact h.tells before hbefore

end Shared

end Goshop.Lib.Journal
