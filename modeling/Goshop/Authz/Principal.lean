import Goshop.Errors
import Goshop.Lib.GoText

/-! Who makes a request: the kinds of principals, the status of an account, and
the claims of an access token. -/
namespace Goshop.Authz.Principal

open Goshop.Errors Goshop.Lib

inductive PrincipalType where
  | anonymous
  | customer
  | staff
  | adminBootstrap
  | internalService
  | other (text : String)
deriving DecidableEq, Repr

def PrincipalType.text : PrincipalType → String
  | .anonymous => "anonymous"
  | .customer => "customer"
  | .staff => "staff"
  | .adminBootstrap => "admin_bootstrap"
  | .internalService => "internal_service"
  | .other text => text

inductive AccountStatus where
  | active
  | disabled
  | locked
  | deletionPending
  | deleted
  | other (text : String)
deriving DecidableEq, Repr

def normalizeAccountStatus (status : String) : AccountStatus :=
  let status := GoText.toLower (GoText.trimSpace status)
  if status = "" then .active
  else if status = "active" then .active
  else if status = "disabled" then .disabled
  else if status = "locked" then .locked
  else if status = "deletion_pending" then .deletionPending
  else if status = "deleted" then .deleted
  else .other status

structure Claims where
  id : Int
  roles : List String := []
  principalType : PrincipalType
  accountStatus : String
  scope : List String := []
  tokenVersion : Int := 0
  sessionID : String := ""
  resourceDomains : List String := []
  resourceStores : List String := []
  resourceTeams : List String := []
  resourceScopes : List String := []
deriving DecidableEq, Repr

/-- What `newJWTAuth` learns from its stores about one token. A store that is
not configured is `none`. -/
structure AuthBackend where
  isRevoked : Option (Except AppError Bool)
  userStatus : Option (Int → Except AppError String)
  validateSession : Option (Int → String → Except AppError Bool)
  currentVersion : Option (Int → Except AppError Int)

def newJWTAuth (backend : AuthBackend) (claims : Claims) : Bool :=
  let notRevoked :=
    match backend.isRevoked with
    | none | some (.ok false) => true
    | some (.ok true) | some (.error _) => false
  let userActive :=
    match backend.userStatus with
    | none => false
    | some get =>
      match get claims.id with
      | .ok status => normalizeAccountStatus status = .active
      | .error _ => false
  let sessionActive :=
    if claims.sessionID = "" then true
    else
      match backend.validateSession with
      | none => false
      | some validate =>
        match validate claims.id claims.sessionID with
        | .ok active => active
        | .error _ => false
  let versionCurrent :=
    match backend.currentVersion with
    | none => true
    | some current =>
      match current claims.id with
      | .ok version => version = claims.tokenVersion
      | .error _ => false
  notRevoked && userActive && sessionActive && versionCurrent

theorem newJWTAuth_session {backend : AuthBackend} {claims : Claims}
    {validate : Int → String → Except AppError Bool}
    (hvalidate : backend.validateSession = some validate) (hsession : claims.sessionID ≠ "")
    (hover : validate claims.id claims.sessionID = .ok false) :
    newJWTAuth backend claims = false := by
  simp [newJWTAuth, hvalidate, hsession, hover]

end Goshop.Authz.Principal
