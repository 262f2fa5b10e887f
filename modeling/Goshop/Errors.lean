import Mathlib.Data.List.Basic

/-! The error contract of the services: a stable code that callers branch on,
and a message. The text a database driver puts behind a wrapped error is not
read by any caller and is left out. -/
namespace Goshop.Errors

inductive Code where
  | errUnknown
  | errValidation
  | errConflict
  | errTokenInvalid
  | errSignatureInvalid
  | errPageNotFound
  | errPermissionDenied
  | errServiceUnavailable
  | errDatabase
  | errConnectGRPC
  | errGoodsNotFound
  | errGoodsInvalid
  | errBrandNotFound
  | errCategoryNotFound
  | errInventoryNotFound
  | errInvSellDetailNotFound
  | errInvNotEnough
  | errShopCartItemNotFound
  | errSubmitOrder
  | errNoGoodsSelect
  | errOrderNotFound
  | errOrderConflict
  | errOrderStatusInvalid
  | errUserNotFound
  | errUserAccountInactive
  | errUsernameAlreadyExists
  | errUserMobileAlreadyExists
  | errUserEmailAlreadyExists
  | errEncrypt
  | errSmsSend
  | errSmsRateLimited
  | errSmsVerifyLocked
  | errCodeNotExist
  | errCodeInCorrect
deriving DecidableEq, Repr

structure AppError where
  code : Code
  message : String
deriving DecidableEq, Repr

def newCode (code : Code) (message : String) : AppError := ⟨code, message⟩

/-- `errorcontract.WrapDatabase`: a storage failure under the stable database code. -/
def wrapDatabase (operation : String) : AppError := newCode .errDatabase operation

/-- `fmt.Errorf("context: %w", err)`: the code stays visible through the wrapping. -/
def AppError.wrap (context : String) (err : AppError) : AppError :=
  { err with message := context ++ ": " ++ err.message }

end Goshop.Errors
