import Goshop.Authz.Roles
import Goshop.Lib.GoText

/-! Resource scopes: which store, team or single resource of a business domain a
member of staff may touch. A token carries each scope as one text, its fields
joined by a separator. -/
namespace Goshop.Authz.Scope

open Goshop.Lib Goshop.Lib.GoText Goshop.Authz.Roles

@[ext] structure ResourceScope where
  domain : String
  storeID : String := ""
  teamID : String := ""
  resourceType : String := ""
  resourceID : String := ""
deriving DecidableEq, Repr

def scopeBindingSeparator : Char := '\x1f'

def resourceScopeMatchesDomain (domain : BusinessDomain) (storeID teamID : String) : Bool :=
  let storeID := trimSpace storeID
  let teamID := trimSpace teamID
  match domain with
  | .platform => storeID = "" ∧ teamID = ""
  | .operations => (storeID ≠ "" ∧ teamID = "") ∨ (storeID = "" ∧ teamID ≠ "")
  | _ => storeID ≠ "" ∧ teamID = ""

def ResourceScope.fields (scope : ResourceScope) : List String :=
  [scope.domain, scope.storeID, scope.teamID, scope.resourceType, scope.resourceID]

def ResourceScope.hasSeparator (scope : ResourceScope) : Bool :=
  scope.fields.any fun field => scopeBindingSeparator ∈ field.toList

/-- The scope of the whole store or team that a resource belongs to. -/
def ResourceScope.whole (scope : ResourceScope) : ResourceScope :=
  { scope with resourceType := "", resourceID := "" }

@[simp] theorem ResourceScope.whole_whole (scope : ResourceScope) :
    scope.whole.whole = scope.whole := rfl

theorem ResourceScope.hasSeparator_whole {scope : ResourceScope} :
    scope.whole.hasSeparator = false ↔
      scopeBindingSeparator ∉ scope.domain.toList ∧ scopeBindingSeparator ∉ scope.storeID.toList ∧
        scopeBindingSeparator ∉ scope.teamID.toList := by
  simp [ResourceScope.hasSeparator, ResourceScope.fields, ResourceScope.whole]

variable (table : CaseTable)

def normalizeResourceScope (scope : ResourceScope) : ResourceScope where
  domain := table.lowerTrim scope.domain
  storeID := trimSpace scope.storeID
  teamID := trimSpace scope.teamID
  resourceType := table.lowerTrim scope.resourceType
  resourceID := trimSpace scope.resourceID

@[simp] theorem normalizeResourceScope_twice (scope : ResourceScope) :
    normalizeResourceScope table (normalizeResourceScope table scope) =
      normalizeResourceScope table scope := by
  simp [normalizeResourceScope]

def joinFields (fields : List String) : String :=
  String.ofList ([scopeBindingSeparator].intercalate (fields.map (·.toList)))

def encodeResourceScope (scope : ResourceScope) : String :=
  joinFields (normalizeResourceScope table scope).fields

def splitFields (value : String) : List String :=
  (value.toList.splitOn scopeBindingSeparator).map String.ofList

/-- Missing fields are empty, further ones are dropped. -/
def decodeResourceScope (value : String) : ResourceScope :=
  let parts := splitFields value
  normalizeResourceScope table
    ⟨parts.getD 0 "", parts.getD 1 "", parts.getD 2 "", parts.getD 3 "", parts.getD 4 ""⟩

def scopeCovers (granted requested : ResourceScope) : Bool :=
  granted.domain = requested.domain ∧ granted.storeID = requested.storeID ∧
    granted.teamID = requested.teamID ∧
      ((granted.resourceType = "" ∧ granted.resourceID = "") ∨
        (granted.resourceType = requested.resourceType ∧
          granted.resourceID = requested.resourceID))

def resourceScopeAllows (granted : List ResourceScope) (requested : ResourceScope) : Bool :=
  granted.any fun item =>
    scopeCovers (normalizeResourceScope table item) (normalizeResourceScope table requested)

/-- A grant covers what lies in its store or team, if it is for the whole of it or
for the very resource. -/
theorem scopeCovers_iff {granted requested : ResourceScope} :
    scopeCovers granted requested = true ↔
      granted.whole = requested.whole ∧ (granted.whole = granted ∨ granted = requested) := by
  simp only [scopeCovers, decide_eq_true_eq, ResourceScope.whole, ResourceScope.ext_iff]
  grind

theorem resourceScopeAllows_iff {granted : List ResourceScope}
    (hnormal : ∀ scope ∈ granted, normalizeResourceScope table scope = scope)
    (requested : ResourceScope) :
    resourceScopeAllows table granted requested = true ↔
      ∃ scope ∈ granted, scopeCovers scope (normalizeResourceScope table requested) = true := by
  simp only [resourceScopeAllows, List.any_eq_true]
  constructor
  · rintro ⟨scope, hscope, hcovers⟩
    exact ⟨scope, hscope, by rwa [hnormal scope hscope] at hcovers⟩
  · rintro ⟨scope, hscope, hcovers⟩
    exact ⟨scope, hscope, by rwa [hnormal scope hscope]⟩

theorem splitFields_joinFields {fields : List String} (hne : fields ≠ [])
    (hplain : ∀ field ∈ fields, scopeBindingSeparator ∉ field.toList) :
    splitFields (joinFields fields) = fields := by
  have hchars : ∀ chars ∈ fields.map (·.toList), scopeBindingSeparator ∉ chars := by
    simpa using hplain
  unfold splitFields joinFields
  rw [String.toList_ofList, List.splitOn_intercalate _ hchars (by simpa using hne), List.map_map]
  conv_rhs => rw [← List.map_id fields]
  congr 1
  funext field
  exact String.ofList_toList

theorem separator_notMem_of_mem_splitFields {value field : String}
    (h : field ∈ splitFields value) : scopeBindingSeparator ∉ field.toList := by
  obtain ⟨chars, hchars, rfl⟩ := List.mem_map.mp h
  rw [String.toList_ofList]
  exact notMem_of_mem_splitOn hchars

theorem decodeResourceScope_plain (value : String) :
    (decodeResourceScope table value).hasSeparator = false := by
  have hpart (index : Nat) :
      scopeBindingSeparator ∉ ((splitFields value)[index]?.getD "").toList := by
    cases hget : (splitFields value)[index]? with
    | none => simp
    | some field => exact separator_notMem_of_mem_splitFields (List.mem_of_getElem? hget)
  have htrim (index : Nat) :
      scopeBindingSeparator ∉ (trimSpace ((splitFields value)[index]?.getD "")).toList :=
    fun hmem => hpart index (mem_of_mem_trimSpace hmem)
  have hlower (index : Nat) :
      scopeBindingSeparator ∉ (table.lowerTrim ((splitFields value)[index]?.getD "")).toList :=
    fun hmem => hpart index (table.mem_of_mem_lowerTrim (by decide) hmem)
  simp [ResourceScope.hasSeparator, ResourceScope.fields, decodeResourceScope,
    normalizeResourceScope, htrim, hlower]

theorem decode_encode {scope : ResourceScope}
    (hplain : (normalizeResourceScope table scope).hasSeparator = false) :
    decodeResourceScope table (encodeResourceScope table scope) =
      normalizeResourceScope table scope := by
  have hsplit : splitFields (encodeResourceScope table scope) =
      (normalizeResourceScope table scope).fields := by
    apply splitFields_joinFields
    · simp [ResourceScope.fields]
    · simpa [ResourceScope.hasSeparator] using hplain
  unfold decodeResourceScope
  rw [hsplit]
  exact normalizeResourceScope_twice table scope

theorem splitFields_joinFields_cons {field next : String} {rest : List String}
    (hplain : scopeBindingSeparator ∉ field.toList) :
    splitFields (joinFields (field :: next :: rest)) =
      field :: splitFields (joinFields (next :: rest)) := by
  simp only [splitFields, joinFields, String.toList_ofList, List.map_cons,
    List.intercalate_cons_cons, List.append_assoc, List.singleton_append]
  rw [List.splitOn_append_cons_self_of_not_mem hplain, List.map_cons, String.ofList_toList]

/-- A separator in the resource fields leaves the store and the team as they are. -/
theorem whole_decode_encode {scope : ResourceScope}
    (hdomain : scopeBindingSeparator ∉ (normalizeResourceScope table scope).domain.toList)
    (hstore : scopeBindingSeparator ∉ (normalizeResourceScope table scope).storeID.toList)
    (hteam : scopeBindingSeparator ∉ (normalizeResourceScope table scope).teamID.toList) :
    (decodeResourceScope table (encodeResourceScope table scope)).whole =
      (normalizeResourceScope table scope).whole := by
  unfold decodeResourceScope encodeResourceScope ResourceScope.fields
  rw [splitFields_joinFields_cons hdomain, splitFields_joinFields_cons hstore,
    splitFields_joinFields_cons hteam]
  simp [ResourceScope.whole, normalizeResourceScope]

end Goshop.Authz.Scope
