import Goshop.Gateway
import Goshop.Lib.GoText
import Goshop.Lib.Process

/-! The HTTP handler of payment callbacks: the signature and the age of a request,
the reservation of its nonce, and the call of the payment service. Times are in
nanoseconds, and time may pass before every step. -/
namespace Goshop.Callback.Handler

open Goshop.Errors Goshop.Gateway Goshop.Lib Goshop.Lib.GoText Goshop.Lib.Process
open Goshop.Lib.Transaction

section Values

structure Duration where
  ns : Int
  inRange : -2 ^ 63 ≤ ns ∧ ns < 2 ^ 63
deriving DecidableEq, Repr

/-- What `int64` arithmetic leaves of a number. -/
def wrap (value : Int) : Int :=
  value.bmod (2 ^ 64)

/-- `Time.Sub`, which stops at the ends of the range. -/
def timeSub (time other : Int) : Int :=
  max (-2 ^ 63) (min (2 ^ 63 - 1) (time - other))

def digitsValue (digits : List Char) : Option Nat :=
  if digits = [] ∨ !digits.all Char.isDigit then none
  else some (digits.foldl (fun value digit => value * 10 + (digit.toNat - '0'.toNat)) 0)

def parseInt (text : String) : Option Int :=
  match text.toList with
  | '-' :: digits => (digitsValue digits).bind fun value =>
      if value ≤ 2 ^ 63 then some (-value) else none
  | '+' :: digits => (digitsValue digits).bind fun value =>
      if value < 2 ^ 63 then some value else none
  | digits => (digitsValue digits).bind fun value =>
      if value < 2 ^ 63 then some value else none

def hexDigit (char : Char) : Option Nat :=
  if char.isDigit then some (char.toNat - '0'.toNat)
  else if 'a' ≤ char ∧ char ≤ 'f' then some (char.toNat - 'a'.toNat + 10)
  else if 'A' ≤ char ∧ char ≤ 'F' then some (char.toNat - 'A'.toNat + 10)
  else none

def decodeHex : List Char → Option (List UInt8)
  | [] => some []
  | [_] => none
  | high :: low :: rest => do
    let high ← hexDigit high
    let low ← hexDigit low
    let bytes ← decodeHex rest
    return UInt8.ofNat (16 * high + low) :: bytes

end Values

structure CallbackPayload where
  eventID : String
  eventType : String
  orderSN : String
  tradeNo : String
  amountFen : Int
deriving DecidableEq, Repr

/-- The libraries that the handler uses: Unicode case, HMAC-SHA256 with its secret,
and JSON. -/
structure Codec where
  table : CaseTable
  hmac : String → List UInt8 → List UInt8
  unmarshal : List UInt8 → Option CallbackPayload

structure PaymentOptions where
  enabled : Bool := true
  callbackSecret : String
  callbackMaxSkew : Duration
deriving DecidableEq, Repr

structure CallbackHandler where
  opts : PaymentOptions
  hasService : Bool := true
  hasNonces : Bool := true
deriving DecidableEq, Repr

structure Request where
  provider : String
  timestamp : String
  nonce : String
  signature : String
  body : List UInt8
deriving DecidableEq, Repr

variable {ι : Type}

section World

/-- The clock, when the key of each nonce disappears, and which arrivals have set
one and have reached the service. -/
structure World (ι : Type) where
  clock : Int
  nonces : String → Option Int := fun _ => none
  granted : List ι := []
  processed : List ι := []

structure Choice where
  elapsed : Nat := 0
  outcome : Outcome := .ok
  answer : Except AppError Bool := .ok false

inductive Call (ι : Type) where
  | readBody
  | now
  | reserve (arrival : ι) (nonce : String) (ttl : Int)
  | processPayCallback (arrival : ι) (req : CallbackRequest)

abbrev Reply : Call ι → Type
  | .readBody => Except AppError Unit
  | .now => Int
  | .reserve _ _ _ => Except AppError Bool
  | .processPayCallback _ _ => Except AppError Bool

abbrev Program (ι : Type) := Proc (Call ι) Reply

def invalidNonce : AppError := newCode .errUnknown "invalid payment callback nonce"

def callFailed : AppError := newCode .errUnknown "call failed"

/-- `Reserve`: the key is set if it is not there, and disappears after its time. -/
def reserve (arrival : ι) (nonce : String) (ttl : Int) (world : World ι) :
    Except AppError Bool × World ι :=
  if trimSpace nonce = "" ∨ ttl ≤ 0 then (.error invalidNonce, world)
  else if (world.nonces nonce).any (world.clock < ·) then (.ok false, world)
  else (.ok true, { world with
    nonces := Function.update world.nonces nonce (some (world.clock + ttl))
    granted := arrival :: world.granted })

def serve : (request : Call ι) → Choice → World ι → Reply request × World ι
  | .readBody, choice, world => call callFailed choice.outcome (fun world => (.ok (), world)) world
  | .now, _, world => (world.clock, world)
  | .reserve arrival nonce ttl, choice, world =>
    call callFailed choice.outcome (reserve arrival nonce ttl) world
  | .processPayCallback arrival _, choice, world =>
    (choice.answer, { world with processed := arrival :: world.processed })

def stepTime (choice : Choice) (world : World ι) : Int :=
  world.clock + choice.elapsed

def exec (request : Call ι) (choice : Choice) (world : World ι) : Reply request × World ι :=
  serve request choice { world with clock := stepTime choice world }

end World

section Handler

variable (codec : Codec) (handler : CallbackHandler) (req : Request)

def providerName : String := codec.table.lowerTrim req.provider

def nonceText : String := trimSpace req.nonce

/-- The part of `verify` after its clock read. -/
def verifyAt (provider nonce : String) (unix now : Int) : Bool :=
  let skew := handler.opts.callbackMaxSkew.ns
  let delta := timeSub now (unix * 10 ^ 9)
  if skew < delta ∨ delta < wrap (-skew) then false
  else
    match decodeHex req.signature.toList with
    | none => false
    | some provided =>
      let header := req.timestamp ++ "\n" ++ provider ++ "\n" ++ nonce ++ "\n"
      provided = codec.hmac handler.opts.callbackSecret (header.toUTF8.toList ++ req.body)

def verify (provider nonce : String) : Program ι Bool :=
  match parseInt req.timestamp with
  | none => .ret false
  | some unix => do
    let now ← Proc.send Call.now
    .ret (verifyAt codec handler req provider nonce unix now)

def nonceKey : String := providerName codec req ++ ":" ++ nonceText req

def invalidSignature : AppError := newCode .errSignatureInvalid "invalid callback signature"

def replayUnavailable : AppError :=
  newCode .errServiceUnavailable "callback replay protection unavailable"

def invalidPayload (payload : CallbackPayload) : Bool :=
  payload.eventID = "" ∨ payload.eventType = "" ∨ payload.orderSN = "" ∨ payload.amountFen < 0

def finish (arrival : ι) : Program ι (Except AppError Bool) :=
  match codec.unmarshal req.body with
  | none => .ret (.error (newCode .errValidation "invalid callback payload"))
  | some payload =>
    if invalidPayload payload then
      .ret (.error (newCode .errValidation "invalid callback payload"))
    else do
      let result ← Proc.send (Call.processPayCallback arrival
        { provider := providerName codec req, eventID := payload.eventID
          eventType := payload.eventType, orderSN := payload.orderSN, tradeNo := payload.tradeNo
          amountFen := payload.amountFen })
      match result with
      | .error _ => .ret (.error (newCode .errConflict "payment callback rejected"))
      | .ok duplicate => .ret (.ok duplicate)

def replayGuard (arrival : ι) : Program ι (Except AppError Bool) :=
  if !handler.hasNonces then .ret (.error replayUnavailable)
  else do
    let reserved ← Proc.send (Call.reserve arrival (nonceKey codec req)
      (wrap (2 * handler.opts.callbackMaxSkew.ns)))
    match reserved with
    | .error _ => .ret (.error replayUnavailable)
    | .ok false => .ret (.error (newCode .errConflict "callback nonce replayed"))
    | .ok true => finish codec req arrival

/-- `Handle`; the body is what the reader lets through, a mebibyte at most. -/
def handle (arrival : ι) : Program ι (Except AppError Bool) :=
  if !handler.opts.enabled ∨ !handler.hasService then
    .ret (.error (newCode .errServiceUnavailable "payment callback unavailable"))
  else do
    match ← Proc.send Call.readBody with
    | .error _ => .ret (.error (newCode .errValidation "invalid callback body"))
    | .ok _ =>
      if nonceText req = "" then .ret (.error invalidSignature)
      else do
        let verified ← verify codec handler req (providerName codec req) (nonceText req)
        if verified then replayGuard codec handler req arrival else .ret (.error invalidSignature)

end Handler

end Goshop.Callback.Handler
