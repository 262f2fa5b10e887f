import Goshop.Lib.Patterns
import Goshop.User.Accounts

/-! The checks on a new account. The pattern for mobiles is meant for phone numbers,
but two of its alternatives are one character longer than the others, and one admits
any character in the third place. -/
namespace Goshop.User.Registration

open Goshop.Errors Goshop.Lib Goshop.Lib.GoText Goshop.Lib.Patterns Goshop.Lib.Transaction
open Goshop.User.Accounts

section Patterns

def inRange (low high c : Char) : Bool :=
  low.toNat ≤ c.toNat ∧ c.toNat ≤ high.toNat

def isDigit (c : Char) : Bool :=
  inRange '0' '9' c

def oneOf (members : List Char) : Pattern Char :=
  .symbol (· ∈ members)

def digit : Pattern Char := .symbol isDigit

/-- `^[A-Za-z][A-Za-z0-9_]{2,31}$` -/
def usernamePattern : Pattern Char :=
  let letter := fun c => inRange 'A' 'Z' c || inRange 'a' 'z' c
  let word := .symbol fun c => letter c || isDigit c || c = '_'
  .seq (.symbol letter) (.seq (Pattern.times word 2) (Pattern.upTo word 29))

def carrier : Pattern Char :=
  .alt (.seq (oneOf ['3', '8']) digit)
    (.alt (.seq (oneOf ['1']) (.seq (oneOf ['4']) (oneOf ['5', '7', '9'])))
      (.alt (.seq (oneOf ['5']) (.symbol (· ≠ '4')))
        (.alt (.seq (oneOf ['1']) (.seq (oneOf ['6']) (oneOf ['6'])))
          (.alt (.seq (oneOf ['7']) (.symbol fun c => inRange '1' '3' c || inRange '5' '8' c))
            (.seq (oneOf ['9']) (oneOf ['1', '8', '9']))))))

/-- `^1([38][0-9]|14[579]|5[^4]|16[6]|7[1-35-8]|9[189])\d{8}$` -/
def mobilePattern : Pattern Char :=
  .seq (oneOf ['1']) (.seq carrier (digit.times 8))

end Patterns

section Model

structure UserDTO extends UserDO where
  gender : String := ""
deriving DecidableEq, Repr

/-- What the user service works with: the tables of `unicode`, the parser of mail
addresses, the lookups of its store, and bcrypt. -/
structure UserService where
  table : CaseTable
  isUpper : Char → Bool
  isLower : Char → Bool
  isDecimal : Char → Bool
  /-- The name and the address. -/
  parseAddress : String → Option (String × String)
  getByUsername : String → Except AppError UserDO
  getByMobile : String → Except AppError UserDO
  encrypt : String → Option String

variable (service : UserService)

def newValidationError (message : String) : AppError := newCode .errValidation message

def isEmailAddress (value : String) : Bool :=
  match service.parseAddress value with
  | some (name, address) => name = "" ∧ address = value
  | none => false

def normalizeIdentifier (value : Option String) : Option String :=
  let value := service.table.lowerTrim (value.getD "")
  if value = "" then none else some value

def normalizeUserIdentifiers (user : UserDTO) : Except AppError UserDTO :=
  let user := { user with
    mobile := trimSpace user.mobile
    username := normalizeIdentifier service user.username
    email := normalizeIdentifier service user.email }
  if user.username.any fun username => !usernamePattern.accepts username.toList then
    .error (newValidationError "用户名格式错误")
  else if user.email.any fun email => !isEmailAddress service email then
    .error (newValidationError "邮箱格式错误")
  else .ok user

/-- The role is an `int` and is checked as an `int32`. -/
def validateLegacyRole (role : Int) : Except AppError Unit :=
  if role.bmod (2 ^ 32) = 1 ∨ role.bmod (2 ^ 32) = 2 then .ok ()
  else .error (newCode .errValidation "legacy role must be one of: 1(customer), 2(admin)")

structure PasswordKinds where
  hasUpper : Bool := false
  hasLower : Bool := false
  hasDigit : Bool := false
  hasSpecial : Bool := false

def countRune (kinds : PasswordKinds) (r : Char) : Option PasswordKinds :=
  if isSpace r then none
  else if service.isUpper r then some { kinds with hasUpper := true }
  else if service.isLower r then some { kinds with hasLower := true }
  else if service.isDecimal r then some { kinds with hasDigit := true }
  else some { kinds with hasSpecial := true }

def minPasswordLength : Nat := 8

def maxPasswordBytes : Nat := 72

def isStrongPassword (password : String) : Bool :=
  if password.length < minPasswordLength ∨ maxPasswordBytes < password.utf8ByteSize then false
  else
    match password.toList.foldlM (countRune service) {} with
    | none => false
    | some kinds => kinds.hasUpper && kinds.hasLower && kinds.hasDigit && kinds.hasSpecial

def checkUnused (found : Except AppError UserDO) (taken : AppError) : Except AppError Unit :=
  match found with
  | .ok _ => .error taken
  | .error err => if err.code = .errUserNotFound then .ok () else .error err

def checkIdentifiers (user : UserDTO) : Except AppError Unit := do
  if let some username := user.username then
    checkUnused (service.getByUsername username)
      (newCode .errUsernameAlreadyExists "用户名已存在")
  checkUnused (service.getByMobile user.mobile) (newCode .errUserMobileAlreadyExists "手机号已存在")
  if let some email := user.email then
    checkUnused (service.getByUsername email) (newCode .errUserEmailAlreadyExists "邮箱已存在")

def checkFormats (user : UserDTO) : Except AppError Unit :=
  if !mobilePattern.accepts user.mobile.toList then
    .error (newValidationError "手机号格式错误")
  else if !isStrongPassword service user.password then
    .error (newValidationError "密码长度必须为8-24，并包含大小写字母、数字和特殊字符")
  else .ok ()

def withRole (legacyRole : Int) (user : UserDTO) : UserDTO :=
  { user with role := if user.role = 0 then legacyRole else user.role }

def defaultGender : String := "unknown"

def withDefaults (defaultStatus : String) (user : UserDTO) : UserDTO :=
  { user with
    status := if trimSpace user.status = "" then defaultStatus else user.status
    gender := if trimSpace user.gender = "" then defaultGender else user.gender }

def encryptPassword (user : UserDTO) : Except AppError UserDTO :=
  match service.encrypt user.password with
  | none => .error (newCode .errEncrypt "加密密码失败")
  | some encryptedPassword => .ok { user with password := encryptedPassword }

def prepareNewUser (user : UserDTO) (legacyRole : Int) (defaultStatus : String) :
    Except AppError UserDTO := do
  let user ← normalizeUserIdentifiers service user
  let user := withRole legacyRole user
  validateLegacyRole user.role
  checkFormats service user
  let user := withDefaults defaultStatus user
  checkIdentifiers service user
  encryptPassword service user

end Model

section Mobiles

variable {service : UserService} {user prepared : UserDTO}

theorem checkFormats_ok (h : checkFormats service user = .ok ()) :
    user.mobile.toList ∈ mobilePattern.language := by
  unfold checkFormats at h
  split at h
  · cases h
  · rename_i haccepts
    exact Pattern.accepts_iff.mp (by simpa using haccepts)

theorem normalizeUserIdentifiers_mobile
    (h : normalizeUserIdentifiers service user = .ok prepared) :
    prepared.mobile = trimSpace user.mobile := by
  unfold normalizeUserIdentifiers at h
  dsimp only at h
  split at h
  · cases h
  · split at h
    · cases h
    · cases h
      rfl

theorem withDefaults_mobile (defaultStatus : String) (user : UserDTO) :
    (withDefaults defaultStatus user).mobile = user.mobile := by
  simp only [withDefaults]

theorem encryptPassword_ok (h : encryptPassword service user = .ok prepared) :
    prepared.mobile = user.mobile := by
  unfold encryptPassword at h
  split at h
  · cases h
  · cases h
    rfl

theorem prepareNewUser_ok {legacyRole : Int} {defaultStatus : String}
    (h : prepareNewUser service user legacyRole defaultStatus = .ok prepared) :
    prepared.mobile = trimSpace user.mobile ∧
      (trimSpace user.mobile).toList ∈ mobilePattern.language := by
  unfold prepareNewUser at h
  obtain ⟨normalized, hnormalized, h⟩ := except_bind_ok.mp h
  obtain ⟨⟨⟩, -, h⟩ := except_bind_ok.mp h
  obtain ⟨⟨⟩, hformats, h⟩ := except_bind_ok.mp h
  obtain ⟨⟨⟩, -, h⟩ := except_bind_ok.mp h
  have hmobile := normalizeUserIdentifiers_mobile hnormalized
  rw [encryptPassword_ok h, withDefaults_mobile]
  exact ⟨hmobile, hmobile ▸ checkFormats_ok hformats⟩

def PhoneNumber (mobile : String) : Prop :=
  mobile.toList.length = 11 ∧ (∀ c ∈ mobile.toList, isDigit c = true) ∧
    mobile.toList.head? = some '1'

instance (mobile : String) : Decidable (PhoneNumber mobile) :=
  have : Decidable (∀ c ∈ mobile.toList, isDigit c = true) := List.decidableBAll _ _
  inferInstanceAs (Decidable (_ ∧ _ ∧ _))

/-- Neither of the longer alternatives, which both go on with a 1, and a digit in
the third place. -/
def ProperCarrier (mobile : String) : Prop :=
  mobile.toList[1]? ≠ some '1' ∧ ∀ c ∈ mobile.toList[2]?, isDigit c = true

theorem short_carrier {members text : List Char} {test : Char → Bool}
    (digits : members.all (fun c => c ≠ '1' && isDigit c) = true)
    (h : text ∈ (Pattern.seq (oneOf members) (.symbol test)).language) :
    ∃ second third, text = [second, third] ∧ second ≠ '1' ∧ isDigit second = true := by
  obtain ⟨second, rest, hsecond, ⟨third, -, rfl⟩, rfl⟩ := Pattern.mem_language_symbol_seq.mp h
  have hdigit := List.all_eq_true.mp digits second (of_decide_eq_true hsecond)
  exact ⟨second, third, rfl, by simpa using hdigit⟩

theorem long_carrier {members members' text : List Char}
    (h : text ∈ (Pattern.seq (oneOf ['1']) (.seq (oneOf members) (oneOf members'))).language) :
    ∃ third fourth, text = ['1', third, fourth] := by
  obtain ⟨second, rest, hsecond, hrest, rfl⟩ := Pattern.mem_language_symbol_seq.mp h
  obtain ⟨third, last, -, ⟨fourth, -, rfl⟩, rfl⟩ := Pattern.mem_language_symbol_seq.mp hrest
  rw [List.mem_singleton.mp (of_decide_eq_true hsecond)]
  exact ⟨third, fourth, rfl⟩

/-- What stands between the 1 and the last eight digits. -/
theorem carrier_cases {text : List Char} (h : text ∈ carrier.language) :
    (∃ second third, text = [second, third] ∧ second ≠ '1' ∧ isDigit second = true) ∨
      ∃ third fourth, text = ['1', third, fourth] := by
  simp only [carrier, Pattern.mem_language_alt] at h
  rcases h with h | h | h | h | h | h
  · exact .inl (short_carrier (by decide) h)
  · exact .inr (long_carrier h)
  · exact .inl (short_carrier (by decide) h)
  · exact .inr (long_carrier h)
  · exact .inl (short_carrier (by decide) h)
  · exact .inl (short_carrier (by decide) h)

theorem mobile_cases {text : List Char} (h : text ∈ mobilePattern.language) :
    ∃ number rest, text = '1' :: (number ++ rest) ∧ number ∈ carrier.language ∧
      rest.length = 8 ∧ ∀ c ∈ rest, isDigit c = true := by
  obtain ⟨first, rest, hfirst, hrest, rfl⟩ := Pattern.mem_language_symbol_seq.mp h
  obtain ⟨number, hnumber, digits, hdigits, rfl⟩ := Pattern.mem_language_seq.mp hrest
  rw [List.mem_singleton.mp (of_decide_eq_true hfirst)]
  exact ⟨number, digits, rfl, hnumber, Pattern.mem_language_times.mp hdigits⟩

/-- A mobile that is accepted is a phone number if and only if it has none of the
longer carriers and a digit in the third place. -/
theorem mobile_phone_iff (service : UserService) (user prepared : UserDTO) (legacyRole : Int)
    (defaultStatus : String)
    (h : prepareNewUser service user legacyRole defaultStatus = .ok prepared) :
    PhoneNumber prepared.mobile ↔ ProperCarrier (trimSpace user.mobile) := by
  obtain ⟨hmobile, hmatch⟩ := prepareNewUser_ok h
  obtain ⟨number, rest, htext, hnumber, hlength, hdigits⟩ := mobile_cases hmatch
  have hone : isDigit '1' = true := by decide
  unfold PhoneNumber ProperCarrier
  rw [hmobile, htext]
  rcases carrier_cases hnumber with ⟨second, third, rfl, hne, hsecond⟩ | ⟨third, fourth, rfl⟩
  · have hall : (∀ c ∈ '1' :: ([second, third] ++ rest), isDigit c = true) ↔
        isDigit third = true := by
      simp only [List.cons_append, List.nil_append, List.forall_mem_cons, hone, hsecond, true_and]
      exact and_iff_left hdigits
    rw [hall]
    simp [hlength, hne]
  · simp [hlength]

def asciiService : UserService where
  table := asciiTable
  isUpper := Char.isUpper
  isLower := Char.isLower
  isDecimal := Char.isDigit
  parseAddress value := some ("", value)
  getByUsername := Accounts.getByUsername ⟨[], [], [], [], []⟩
  getByMobile := Accounts.getByMobile ⟨[], [], [], [], []⟩
  encrypt password := some ("hash of " ++ password)

def withMobile (mobile : String) : UserDTO where
  id := 0
  username := some " Anna_7 "
  mobile := mobile
  password := "Goshop#2024"
  role := 0
  status := ""

theorem mobile_phone_trimmed :
    ∃ prepared, prepareNewUser asciiService (withMobile " 13800138000 ") 1 "active" =
        .ok prepared ∧
      (PhoneNumber prepared.mobile ↔ ProperCarrier (trimSpace " 13800138000 ")) := by
  refine ⟨{ withMobile "13800138000" with
    username := some "anna_7"
    password := "hash of Goshop#2024"
    role := 1
    status := "active"
    gender := "unknown" }, by decide +kernel, ?_⟩
  exact mobile_phone_iff asciiService (withMobile " 13800138000 ") _ 1 "active" (by decide +kernel)

/-- Twelve digits, and eleven characters with a letter. -/
theorem malformed_mobiles_accepted :
    ((prepareNewUser asciiService (withMobile "114512345678") 1 "active").map (·.mobile) =
        .ok "114512345678" ∧ ¬PhoneNumber "114512345678") ∧
      (prepareNewUser asciiService (withMobile "15x12345678") 1 "active").map (·.mobile) =
        .ok "15x12345678" ∧ ¬PhoneNumber "15x12345678" := by
  decide +kernel

end Mobiles

end Goshop.User.Registration
