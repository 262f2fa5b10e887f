import Goshop.ErrorContract.Tree
import Goshop.Lib.Strconv

/-! Errors on their way to the client: a service maps its errors to gRPC statuses,
and the gateway makes HTTP responses from the statuses it gets. The texts of errors
that are not public are given by `errorText`, which nothing here looks into. -/
namespace Goshop.ErrorContract.Wire

open Goshop.Lib Goshop.Lib.Strconv Goshop.ErrorContract.Catalog Goshop.ErrorContract.Tree

section Codes

def errValidation : Int := 100004
def errTokenInvalid : Int := 100005
def errPageNotFound : Int := 100006
def errConflict : Int := 100007
def errServiceUnavailable : Int := 100008
def errTimeout : Int := 100009
def errPermissionDenied : Int := 100207
def errUserNotFound : Int := 100401
def errUserAlreadyExists : Int := 100402

end Codes

section Grpc

variable (registry : Registry) (errorText : Err → String)

def statusOfLabel (label : Label) : Option Status :=
  match label.content with
  | .status status => some status
  | _ => none

def isError (content : Content) (err : Err) : Bool :=
  err.parts.any fun part => part.label.content = content

def innerStatus (err : Err) : Option Status :=
  err.parts.findSome? fun part => statusOfLabel part.label

/-- `status.FromError`. The status of a wrapped error gets the text of the wrapper. -/
def fromError (err : Err) : Option Status :=
  match err.label.content with
  | .status status => some status
  | _ => (innerStatus err).map fun status => { status with message := errorText err }

def codeForKind : Kind → GrpcCode
  | .invalidArgument => .invalidArgument
  | .unauthenticated => .unauthenticated
  | .permissionDenied => .permissionDenied
  | .notFound => .notFound
  | .conflict => .aborted
  | .rateLimited => .resourceExhausted
  | .unavailable => .unavailable
  | .timeout => .deadlineExceeded
  | .internal | .other _ => .internal

def businessInfo (spec : Spec) : Detail :=
  .errorInfo "GOSHOP_BUSINESS_ERROR" "goshop"
    [("business_code", itoa spec.code), ("public_message", spec.message)]

def statusError (pointer : Nat) (status : Status) : Err :=
  .node ⟨some pointer, .status status⟩ []

def parsedSpec (err : Err) : Spec :=
  specForCode registry (parseCoder registry err).code

def sentSpec (err : Err) : Spec :=
  match specOf err with
  | some spec => if spec.kind = .other "" then parsedSpec registry err else spec
  | none => parsedSpec registry err

def mapError (pointer : Nat) (err : Err) : Err :=
  if isError .canceled err then statusError pointer ⟨.canceled, "context canceled", []⟩
  else if isError .deadlineExceeded err then
    statusError pointer ⟨.deadlineExceeded, "context deadline exceeded", []⟩
  else
    match fromError errorText err with
    | some _ => err
    | none =>
      let spec := sentSpec registry err
      statusError pointer ⟨codeForKind spec.kind, spec.message, [businessInfo spec]⟩

/-- The status that the server puts on the wire for the error of a handler. -/
def sentStatus (err : Err) : Status :=
  let mapped := mapError registry errorText 0 err
  (fromError errorText mapped).getD ⟨.unknown, errorText mapped, []⟩

def received (err : Err) : Err :=
  statusError 0 (sentStatus registry errorText err)

end Grpc

section Http

variable (registry : Registry) (errorText : Err → String)

structure Response where
  status : Nat
  code : Int
  message : String
deriving DecidableEq, Repr

def statusForKind : Kind → Nat
  | .invalidArgument => 400
  | .unauthenticated => 401
  | .permissionDenied => 403
  | .notFound => 404
  | .conflict => 409
  | .rateLimited => 429
  | .unavailable => 503
  | .timeout => 504
  | .internal | .other _ => 500

def metadataValue (metadata : List (String × String)) (key : String) : String :=
  (metadata.lookup key).getD ""

def trustedSpec (metadata : List (String × String)) : Option Spec :=
  match atoi (metadataValue metadata "business_code") with
  | none => none
  | some code =>
    if code ≤ 0 then none
    else
      let spec := specForCode registry code
      if spec.code = 1 then none
      else if spec.code = errValidation ∧ metadataValue metadata "public_message" ≠ "" then
        some { spec with message := metadataValue metadata "public_message" }
      else some spec

/-- The loop over the details, which looks no further than the first trusted one. -/
def detailSpec : List Detail → Option Spec
  | [] => none
  | .other :: rest => detailSpec rest
  | .errorInfo reason domain metadata :: rest =>
    if domain ≠ "goshop" ∨ reason ≠ "GOSHOP_BUSINESS_ERROR" then detailSpec rest
    else trustedSpec registry metadata

def genericSpec : GrpcCode → Option Spec
  | .invalidArgument | .failedPrecondition | .outOfRange =>
    some (specForCode registry errValidation)
  | .notFound => some (specForCode registry errPageNotFound)
  | .aborted | .alreadyExists => some (specForCode registry errConflict)
  | .permissionDenied => some (specForCode registry errPermissionDenied)
  | .unauthenticated => some (specForCode registry errTokenInvalid)
  | .deadlineExceeded => some (specForCode registry errTimeout)
  | .unavailable => some (specForCode registry errServiceUnavailable)
  | .canceled | .unknown | .resourceExhausted | .unimplemented | .internal | .dataLoss => none

def statusSpec (status : Status) : Option Spec :=
  (detailSpec registry status.details).or (genericSpec registry status.code)

def specFromGRPC (err : Err) : Option Spec :=
  (fromError errorText err).bind (statusSpec registry)

def fallbackSpec (err : Err) : Spec :=
  (specFromGRPC registry errorText err).getD (parsedSpec registry err)

def responseSpec (err : Err) : Spec :=
  match specOf err with
  | some spec => if spec.kind = .other "" then fallbackSpec registry errorText err else spec
  | none => fallbackSpec registry errorText err

def responseOf (spec : Spec) : Response :=
  ⟨statusForKind spec.kind, spec.code, spec.message⟩

def responseFor (err : Err) : Response :=
  responseOf (responseSpec registry errorText err)

end Http

section Status

variable {registry : Registry} {errorText : Err → String} {err : Err} {status : Status}

theorem fromError_none : fromError errorText err = none ↔ innerStatus err = none := by
  cases err with
  | node label children =>
    simp only [fromError, innerStatus, Rose.parts, List.findSome?_cons, Rose.label, statusOfLabel]
    cases label.content <;> simp

theorem fromError_some (errorText : Err → String) (h : innerStatus err = some status) :
    ∃ message, fromError errorText err = some { status with message } := by
  cases err with
  | node label children =>
    cases hcontent : label.content with
    | status own =>
      simp only [innerStatus, Rose.parts, List.findSome?_cons, Rose.label, statusOfLabel, hcontent,
        Option.some.injEq] at h
      subst h
      exact ⟨own.message, by simp [fromError, Rose.label, hcontent]⟩
    | text | coded | aggregate | canceled | deadlineExceeded =>
      exact ⟨errorText (.node label children), by simp [fromError, Rose.label, hcontent, h]⟩

theorem sentStatus_eq : sentStatus registry errorText err =
    if isError .canceled err then ⟨.canceled, "context canceled", []⟩
    else if isError .deadlineExceeded err then
      ⟨.deadlineExceeded, "context deadline exceeded", []⟩
    else
      (fromError errorText err).getD
        (let spec := sentSpec registry err
        ⟨codeForKind spec.kind, spec.message, [businessInfo spec]⟩) := by
  unfold sentStatus mapError
  split
  · rfl
  · split
    · rfl
    · cases hstatus : fromError errorText err with
      | some status => simp [hstatus]
      | none => rfl

theorem specOf_statusError (pointer : Nat) : specOf (statusError pointer status) = none :=
  rfl

/-- The message of a status has no part in the response. -/
theorem responseFor_statusError (pointer : Nat) :
    responseFor registry errorText (statusError pointer status) =
      responseOf ((statusSpec registry status).getD unknownSpec) := by
  have hunknown : parsedSpec registry (statusError pointer status) = unknownSpec := by
    simp [parsedSpec, parseCoder, specOf_statusError, specForCode, unknownSpec,
      registry.lookup_unknown]
  have hspec : responseSpec registry errorText (statusError pointer status) =
      fallbackSpec registry errorText (statusError pointer status) := rfl
  have hstatus : specFromGRPC registry errorText (statusError pointer status) =
      statusSpec registry status := rfl
  rw [responseFor, hspec, fallbackSpec, hunknown, hstatus]

end Status

end Goshop.ErrorContract.Wire
