import Goshop.Admin.Staff

/-! The resource scopes of a staff token against those stored for its user. A
token carries each scope as one text, so it grants what is stored only as far as
every stored scope can be read back from its text. -/
namespace Goshop.Admin.ScopeClaims

open Goshop.Errors Goshop.Lib Goshop.Lib.GoText Goshop.Lib.Process
open Goshop.Authz.Principal Goshop.Authz.Roles Goshop.Authz.Scope
open Goshop.User.Accounts Goshop.Admin.Access Goshop.Admin.Staff

section Login

variable {table : CaseTable} {timeout : Int} {choices : List Choice} {world world' : World}

theorem createToken_ok {user : UserAuthDO} {sessionID : String} {claims : Claims}
    (h : runAlone exec (createToken table user sessionID) choices world =
      (some (.ok claims), world')) :
    ∃ version, claims = staffClaims table user version sessionID := by
  obtain ⟨version, mid, rest, -, h⟩ := runAlone_bind_some h
  obtain ⟨current, -, h⟩ := runAlone_attempt_ok h
  obtain ⟨choice, rest, h⟩ := runAlone_call_some h
  obtain ⟨signed, -, h⟩ := runAlone_attempt_ok h
  rw [runAlone_ret] at h
  cases h
  exact ⟨current, rfl⟩

theorem login_ok {request : LoginRequest} {response : LoginResponse}
    (h : runAlone exec (login table timeout request) choices world =
      (some (.ok response), world')) :
    ∃ user version sessionID,
      getAuthByUsername world.accounts (lowerTrim request.username) = .ok user ∧
        response.token = staffClaims table user version sessionID := by
  obtain ⟨first, rest, user, mid, hfound, h⟩ := runAlone_orFail h
  obtain ⟨account, -, h⟩ := runAlone_attempt_ok h
  obtain ⟨second, rest, h⟩ := runAlone_call_some h
  obtain ⟨password, -, h⟩ := runAlone_attempt_ok h
  obtain ⟨third, rest, sessionID, mid, -, h⟩ := runAlone_orFail h
  obtain ⟨token, mid, rest, htoken, h⟩ := runAlone_bind_some h
  cases token with
  | error err => cases (runAlone_attempt_ok h).choose_spec.1
  | ok claims =>
    obtain ⟨fourth, rest, logged, mid, -, h⟩ := runAlone_orFail h
    rw [runAlone_ret] at h
    cases h
    obtain ⟨version, hclaims⟩ := createToken_ok htoken
    simp only [serve, Prod.mk.injEq] at hfound
    exact ⟨user, version, sessionID, hfound.1, hclaims⟩

end Login

section Main

variable (table : CaseTable)

/-- A separator in a stored scope does no harm only inside the resource fields,
and only beside the scope of the whole store or team. -/
def Readable (stored : List ResourceScope) : Prop :=
  ∀ scope ∈ stored, scope.hasSeparator = true →
    scopeBindingSeparator ∉ scope.storeID.toList ∧ scopeBindingSeparator ∉ scope.teamID.toList ∧
      scope.whole ∈ stored

instance (stored : List ResourceScope) : Decidable (Readable stored) :=
  inferInstanceAs (Decidable (∀ scope ∈ stored, scope.hasSeparator = true →
    scopeBindingSeparator ∉ scope.storeID.toList ∧ scopeBindingSeparator ∉ scope.teamID.toList ∧
      scope.whole ∈ stored))

def rereadScopes (stored : List ResourceScope) : List ResourceScope :=
  stored.map fun scope => decodeResourceScope table (encodeResourceScope table scope)

theorem claimsAllowScope_eq {claims : Claims} {stored : List ResourceScope}
    (hclaims : claims.resourceScopes = stored.map (encodeResourceScope table))
    (hne : stored ≠ []) (requested : ResourceScope) :
    claimsAllowScope table claims requested =
      resourceScopeAllows table (rereadScopes table stored) requested := by
  rw [claimsAllowScope, hclaims, if_pos (by simpa using hne), parseResourceScopes, List.map_map]
  rfl

variable {table} {stored : List ResourceScope}

theorem normalize_of_mem_reread {scope : ResourceScope} (h : scope ∈ rereadScopes table stored) :
    normalizeResourceScope table scope = scope := by
  obtain ⟨given, -, rfl⟩ := List.mem_map.mp h
  exact normalizeResourceScope_twice table _

theorem mem_reread_of_plain {scope : ResourceScope} (hmem : scope ∈ stored)
    (hnormal : normalizeResourceScope table scope = scope) (hplain : scope.hasSeparator = false) :
    scope ∈ rereadScopes table stored := by
  refine List.mem_map.mpr ⟨scope, hmem, ?_⟩
  rw [decode_encode table (by rwa [hnormal]), hnormal]

/-- Nothing that is read back holds a separator, so a stored scope with one is
granted only through its whole store or team. -/
theorem readable_of_same_grants
    (hnormal : ∀ scope ∈ stored, normalizeResourceScope table scope = scope)
    (hsame : ∀ requested, resourceScopeAllows table (rereadScopes table stored) requested =
      resourceScopeAllows table stored requested) :
    Readable stored := by
  intro scope hscope hseparator
  have hallowed : resourceScopeAllows table stored scope = true := by
    rw [resourceScopeAllows_iff table hnormal]
    exact ⟨scope, hscope, by rw [hnormal scope hscope, scopeCovers_iff]; exact ⟨rfl, .inr rfl⟩⟩
  rw [← hsame, resourceScopeAllows_iff table fun _ => normalize_of_mem_reread,
    hnormal scope hscope] at hallowed
  obtain ⟨reread, hreread, hcovers⟩ := hallowed
  obtain ⟨given, -, hgiven⟩ := List.mem_map.mp hreread
  have hplain : reread.hasSeparator = false := by
    rw [← hgiven]
    exact decodeResourceScope_plain table _
  obtain ⟨hwhole, hkind⟩ := scopeCovers_iff.mp hcovers
  have hread : reread = scope.whole := by
    rcases hkind with hkind | rfl
    · rw [← hkind, hwhole]
    · rw [hplain] at hseparator
      cases hseparator
  rw [hread] at hplain hreread
  obtain ⟨-, hstore, hteam⟩ := ResourceScope.hasSeparator_whole.mp hplain
  have hgranted : resourceScopeAllows table stored scope.whole = true := by
    rw [← hsame, resourceScopeAllows_iff table fun _ => normalize_of_mem_reread,
      normalize_of_mem_reread hreread]
    exact ⟨scope.whole, hreread, scopeCovers_iff.mpr ⟨rfl, .inr rfl⟩⟩
  rw [resourceScopeAllows_iff table hnormal, normalize_of_mem_reread hreread] at hgranted
  obtain ⟨wide, hwide, hcovers⟩ := hgranted
  obtain ⟨hwhole, hkind⟩ := scopeCovers_iff.mp hcovers
  rcases hkind with hkind | rfl
  · rw [hkind, ResourceScope.whole_whole] at hwhole
    exact ⟨hstore, hteam, hwhole ▸ hwide⟩
  · exact ⟨hstore, hteam, hwide⟩

/-- A scope that covers a request has a counterpart on the other side: itself, or
the scope of its whole store or team. -/
theorem same_grants_of_readable
    (hnormal : ∀ scope ∈ stored, normalizeResourceScope table scope = scope)
    (hdomain : ∀ scope ∈ stored, scopeBindingSeparator ∉ scope.domain.toList)
    (hreadable : Readable stored) (requested : ResourceScope) :
    resourceScopeAllows table (rereadScopes table stored) requested =
      resourceScopeAllows table stored requested := by
  rw [Bool.eq_iff_iff, resourceScopeAllows_iff table fun _ => normalize_of_mem_reread,
    resourceScopeAllows_iff table hnormal]
  constructor
  · rintro ⟨reread, hreread, hcovers⟩
    obtain ⟨scope, hscope, rfl⟩ := List.mem_map.mp hreread
    cases hseparator : scope.hasSeparator with
    | false =>
      rw [decode_encode table (by rwa [hnormal scope hscope]), hnormal scope hscope] at hcovers
      exact ⟨scope, hscope, hcovers⟩
    | true =>
      obtain ⟨hstore, hteam, hwhole⟩ := hreadable scope hscope hseparator
      have hread := @whole_decode_encode table scope
      rw [hnormal scope hscope] at hread
      refine ⟨scope.whole, hwhole, scopeCovers_iff.mpr ⟨?_, .inl rfl⟩⟩
      rw [ResourceScope.whole_whole, ← hread (hdomain scope hscope) hstore hteam]
      exact (scopeCovers_iff.mp hcovers).1
  · rintro ⟨scope, hscope, hcovers⟩
    cases hseparator : scope.hasSeparator with
    | false => exact ⟨scope, mem_reread_of_plain hscope (hnormal scope hscope) hseparator, hcovers⟩
    | true =>
      obtain ⟨hstore, hteam, hwhole⟩ := hreadable scope hscope hseparator
      have hplain := ResourceScope.hasSeparator_whole.mpr ⟨hdomain scope hscope, hstore, hteam⟩
      refine ⟨scope.whole, mem_reread_of_plain hwhole (hnormal _ hwhole) hplain, ?_⟩
      exact scopeCovers_iff.mpr ⟨(scopeCovers_iff.mp hcovers).1, .inl rfl⟩

theorem domain_plain {text : String} {domain : BusinessDomain}
    (h : BusinessDomain.ofText text = some domain) : scopeBindingSeparator ∉ text.toList := by
  have htext : domain.text = text := by simpa using List.find?_some h
  rw [← htext]
  cases domain <;> decide

/-- Once a list of scopes has been stored for a user and not been replaced since,
a staff token of a later login grants exactly the stored scopes if and only if
the stored scopes are readable. -/
theorem token_grants_stored_scopes_iff {userID timeout : Int} {scopes : List ResourceScope}
    {db db' : UserDB} {request : LoginRequest} {response : LoginResponse}
    {choices : List Choice} {world world' : World}
    (hreplace : replaceResourceScopes table userID scopes db = .ok (stored, db'))
    (hne : scopes ≠ [])
    (hkept : scopesOf world.accounts userID = scopesOf db' userID)
    (hlogin : runAlone exec (login table timeout request) choices world =
      (some (.ok response), world'))
    (huser : response.token.id = userID) :
    (∀ requested, claimsAllowScope table response.token requested =
      resourceScopeAllows table stored requested) ↔ Readable stored := by
  obtain ⟨hstored, hnonempty, hchecked⟩ := replaceResourceScopes_ok table hreplace
  obtain ⟨user, version, sessionID, hauth, htoken⟩ := login_ok hlogin
  have hscopes : response.token.resourceScopes = stored.map (encodeResourceScope table) := by
    have hread := getAuthByUsername_scopes hauth
    rw [htoken] at huser ⊢
    change user.user.id = userID at huser
    rw [huser, hkept, hstored] at hread
    rw [← hread]
    rfl
  have hnormal : ∀ scope ∈ stored, normalizeResourceScope table scope = scope := by
    intro scope hscope
    obtain ⟨given, hgiven⟩ := hchecked scope hscope
    rw [(checkResourceScope_ok table hgiven).1, normalizeResourceScope_twice]
  have hdomain : ∀ scope ∈ stored, scopeBindingSeparator ∉ scope.domain.toList := by
    intro scope hscope
    obtain ⟨given, hgiven⟩ := hchecked scope hscope
    exact domain_plain (checkResourceScope_ok table hgiven).2.choose_spec
  simp only [claimsAllowScope_eq table hscopes (hnonempty hne)]
  exact ⟨readable_of_same_grants hnormal, same_grants_of_readable hnormal hdomain⟩

end Main

section Examples

def supportRole : RoleDO := ⟨1, "support", "customer support", ["order:read:any"], ["support"]⟩

def staffAccounts : UserDB where
  users := [{ id := 7, mobile := "13800000000", password := "hash" }]
  roles := [supportRole]
  userRoles := [⟨7, 1⟩]
  resourceScopes := []

def supportLogin : LoginRequest := ⟨"13800000000", "secret", ""⟩

def withScopes (scopes : List ResourceScope) : UserDB :=
  { staffAccounts with resourceScopes := scopes.map fun scope => ⟨7, scope⟩ }

def supportToken (scopes : List ResourceScope) : Claims :=
  staffClaims asciiTable ⟨{ id := 7, mobile := "13800000000", password := "hash" }, ["support"],
    ["order:read:any"], ["support"], ["store-a"], [], scopes⟩ 1 "session"

def loginWith (scopes : List ResourceScope) : Option (Result LoginResponse) × World :=
  runAlone exec (login asciiTable 3600 supportLogin)
    [{}, {}, { sessionID := "session" }, {}, {}, {}]
    ⟨withScopes scopes, ⟨[], []⟩, fun _ => 1, []⟩

def wholeStore : ResourceScope := { domain := "support", storeID := "store-a" }

def oneTicket : ResourceScope :=
  { wholeStore with resourceType := "\x1f\x1fticket", resourceID := "42" }

def oneOrder : ResourceScope :=
  { wholeStore with resourceType := "order", resourceID := "7" }

/-- The grant of one ticket is stored with two separators before its type. The
token of the next login opens every order of the store. -/
theorem separator_widens_grant :
    replaceResourceScopes asciiTable 7 [oneTicket] staffAccounts =
        .ok ([oneTicket], withScopes [oneTicket]) ∧
      (loginWith [oneTicket]).1 =
        some (.ok ⟨supportToken [oneTicket], ["support"], ["order:read:any"]⟩) ∧
      claimsAllowScope asciiTable (supportToken [oneTicket]) oneOrder = true ∧
      resourceScopeAllows asciiTable [oneTicket] oneOrder = false := by
  decide +kernel

/-- Beside the scope of the whole store the same grant is harmless. -/
theorem token_grants_stored_scopes_whole_store :
    (loginWith [wholeStore, oneTicket]).1 = some (.ok
        ⟨supportToken [wholeStore, oneTicket], ["support"], ["order:read:any"]⟩) ∧
      ∀ requested, claimsAllowScope asciiTable (supportToken [wholeStore, oneTicket]) requested =
        resourceScopeAllows asciiTable [wholeStore, oneTicket] requested := by
  have hreplace : replaceResourceScopes asciiTable 7 [wholeStore, oneTicket] staffAccounts =
      .ok ([wholeStore, oneTicket], withScopes [wholeStore, oneTicket]) := by
    decide +kernel
  have hanswer : (loginWith [wholeStore, oneTicket]).1 = some (.ok
      ⟨supportToken [wholeStore, oneTicket], ["support"], ["order:read:any"]⟩) := by
    decide +kernel
  have hlogin : loginWith [wholeStore, oneTicket] =
      (some (.ok ⟨supportToken [wholeStore, oneTicket], ["support"], ["order:read:any"]⟩),
        (loginWith [wholeStore, oneTicket]).2) :=
    Prod.ext hanswer rfl
  exact ⟨hanswer, (token_grants_stored_scopes_iff hreplace (by decide) rfl hlogin rfl).mpr
    (by decide +kernel)⟩

end Examples

end Goshop.Admin.ScopeClaims
