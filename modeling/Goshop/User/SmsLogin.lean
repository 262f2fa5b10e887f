import Goshop.Errors
import Goshop.Lib.Expiring
import Goshop.Lib.Process
import Goshop.Lib.Transaction

/-! `SmsLogin` reads the stored code, compares it and deletes the key by separate
Redis commands, and `SendSms` may store a newer code in between. A code is used
once, and only by a login that presents it, as long as each login deletes the
code that it has compared. -/
namespace Goshop.User.SmsLogin

open Goshop.Errors Goshop.Lib Goshop.Lib.Transaction Goshop.Lib.Process Goshop.Lib.Run
open Goshop.Lib.Expiring

inductive CodeType
  | register
  | login
deriving DecidableEq, Repr

def CodeType.number : CodeType → Nat
  | .register => 1
  | .login => 2

def key (mobile : String) (codeType : CodeType) : String :=
  "sms:" ++ toString codeType.number ++ ":" ++ mobile

def loginKey (mobile : String) : String := key mobile .login

def defaultTTL : Int := 5 * 60 * 1000

inductive StoreError
  | keyNotFound
  | other (err : AppError)
deriving DecidableEq, Repr

/-- The calls of the two operations to Redis and to the other services. The
delete names its login, so that the world can record what it removed. -/
inductive Call (ι : Type)
  | verifyCaptcha
  | take (mobile : String) (codeType : CodeType)
  | setCode (key code : String)
  | deliver (mobile code : String)
  | deleteIfValue (key code : String)
  | isLocked (mobile : String) (codeType : CodeType)
  | recordFailure (mobile : String) (codeType : CodeType)
  | reset (mobile : String) (codeType : CodeType)
  | getCode (key : String)
  | getAuthByUsername (username : String)
  | deleteCode (login : ι) (key : String)
  | createToken (userID : Nat)

abbrev Reply {ι : Type} : Call ι → Type
  | .verifyCaptcha => Bool
  | .take _ _ | .isLocked _ _ | .recordFailure _ _ => Except AppError Bool
  | .setCode _ _ | .deliver _ _ | .reset _ _ => Except AppError Unit
  | .deleteIfValue _ _ | .deleteCode _ _ => Except AppError Bool
  | .getCode _ => Except StoreError String
  | .getAuthByUsername _ => Except AppError Nat
  | .createToken _ => Except AppError String

structure Choice where
  now : Int := 0
  outcome : Outcome := .ok
  captcha : Bool := true
  allowed : Except AppError Bool := .ok true
  locked : Except AppError Bool := .ok false
  delivered : Except AppError Unit := .ok ()
  user : Except AppError Nat := .ok 1
  token : Except AppError String := .ok "token"

/-- The codes in Redis, and the code that the delete of each login removed. -/
structure World (ι : Type) where
  codes : Store String String
  removed : ι → Option String

def redisIsDown : AppError :=
  newCode .errUnknown "storage: Redis is either down or not configured"

section Commands

variable {ι : Type}

def getCode (key : String) (now : Int) (world : World ι) : Except StoreError String × World ι :=
  match find world.codes key now with
  | some code => (.ok code, world)
  | none => (.error .keyNotFound, world)

def setCode (key code : String) (now : Int) (world : World ι) : Except AppError Unit × World ι :=
  (.ok (), { world with codes := put world.codes key ⟨code, some (now + defaultTTL)⟩ })

def deleteIfValue (key code : String) (now : Int) (world : World ι) :
    Except AppError Bool × World ι :=
  if find world.codes key now = some code then
    (.ok true, { world with codes := delete world.codes key })
  else (.ok false, world)

def deleteCode [DecidableEq ι] (login : ι) (key : String) (now : Int) (world : World ι) :
    Except AppError Bool × World ι :=
  match find world.codes key now with
  | some code => (.ok true, {
      codes := delete world.codes key
      removed := Function.update world.removed login (some code) })
  | none => (.ok false, world)

def exec [DecidableEq ι] (request : Call ι) (choice : Choice) (world : World ι) :
    Reply request × World ι :=
  match request with
  | .verifyCaptcha => (choice.captcha, world)
  | .take _ _ => (choice.allowed, world)
  | .isLocked _ _ => (choice.locked, world)
  | .recordFailure _ _ => (choice.locked, world)
  | .reset _ _ => (.ok (), world)
  | .deliver _ _ => (choice.delivered, world)
  | .getAuthByUsername _ => (choice.user, world)
  | .createToken _ => (choice.token, world)
  | .getCode key => call (.other redisIsDown) choice.outcome (getCode key choice.now) world
  | .setCode key code => call redisIsDown choice.outcome (setCode key code choice.now) world
  | .deleteIfValue key code =>
    call redisIsDown choice.outcome (deleteIfValue key code choice.now) world
  | .deleteCode login key =>
    call redisIsDown choice.outcome (deleteCode login key choice.now) world

end Commands

structure UserDTO where
  userID : Nat
  token : String
deriving DecidableEq, Repr

inductive Response
  | sent
  | user (dto : UserDTO)
deriving DecidableEq, Repr

abbrev Program (ι : Type) := Proc (Call ι) Reply (Except AppError Response)

section Programs

variable {ι : Type}

def smsLimit (taken : Except AppError Bool) : Except AppError Unit :=
  match taken with
  | .error _ => .error (newCode .errSmsRateLimited "短信发送暂时不可用，请稍后重试")
  | .ok false => .error (newCode .errSmsRateLimited "短信发送过于频繁，请稍后重试")
  | .ok true => .ok ()

def sendFailed (err : AppError) : AppError := newCode .errSmsSend err.message

def sendSms (mobile : String) (codeType : CodeType) (code : String) : Program ι :=
  .call .verifyCaptcha fun verified =>
    if verified then
      .call (.take mobile codeType) fun taken =>
        Proc.attempt (smsLimit taken) fun _ =>
          .call (.setCode (key mobile codeType) code) fun stored =>
            Proc.attempt (stored.mapError sendFailed) fun _ =>
              .call (.deliver mobile code) fun delivered =>
                match delivered with
                | .ok _ => .ret (.ok .sent)
                | .error err =>
                  .call (.deleteIfValue (key mobile codeType) code) fun deleted =>
                    Proc.attempt (deleted.mapError sendFailed) fun _ =>
                      .ret (.error (sendFailed err))
    else .ret (.error (newCode .errCodeInCorrect "验证码错误"))

def unlocked (operation : String) (locked : Except AppError Bool) : Except AppError Unit :=
  match locked with
  | .error _ => .error (newCode .errSmsVerifyLocked operation)
  | .ok true => .error (newCode .errSmsVerifyLocked "sms verification attempts exceeded")
  | .ok false => .ok ()

def ensureSmsCodeAllowed : Except AppError Bool → Except AppError Unit :=
  unlocked "check sms verification attempts"

def recordSmsCodeFailure : Except AppError Bool → Except AppError Unit :=
  unlocked "record sms verification failure"

def codeNotExist : AppError := newCode .errCodeNotExist "sms verification code was not found"

def codeIncorrect : AppError := newCode .errCodeInCorrect "sms verification code did not match"

def rejectCode (mobile : String) (err : AppError) : Program ι :=
  .call (.recordFailure mobile .login) fun locked =>
    Proc.attempt (recordSmsCodeFailure locked) fun _ => .ret (.error err)

def acceptCode (login : ι) (mobile : String) : Program ι :=
  .call (.reset mobile .login) fun _ =>
    .call (.getAuthByUsername mobile) fun found =>
      Proc.attempt found fun userID =>
        .call (.deleteCode login (loginKey mobile)) fun deleted =>
          Proc.attempt deleted fun removed =>
            if removed then
              .call (.createToken userID) fun issued =>
                Proc.attempt issued fun token => .ret (.ok (.user ⟨userID, token⟩))
            else .ret (.error codeNotExist)

def smsLogin (login : ι) (mobile smsCode : String) : Program ι :=
  .call (.isLocked mobile .login) fun locked =>
    Proc.attempt (ensureSmsCodeAllowed locked) fun _ =>
      .call (.getCode (loginKey mobile)) fun stored =>
        match stored with
        | .error (.other err) => .ret (.error err)
        | .error .keyNotFound => rejectCode mobile codeNotExist
        | .ok value =>
          if value = smsCode then acceptCode login mobile else rejectCode mobile codeIncorrect

end Programs

inductive Operation
  | sendSms (mobile : String) (codeType : CodeType) (code : String)
  | smsLogin (mobile smsCode : String)
deriving DecidableEq, Repr

def program {ι : Type} (thread : ι) : Operation → Program ι
  | .sendSms mobile codeType code => sendSms mobile codeType code
  | .smsLogin mobile smsCode => smsLogin thread mobile smsCode

theorem loginKey_eq {mobile other : String} {codeType : CodeType}
    (h : key mobile codeType = loginKey other) : mobile = other ∧ codeType = .login := by
  have hlist := congrArg String.toList h
  cases codeType with
  | register =>
    have hone : Nat.toDigits 10 1 = ['1'] := by decide
    have htwo : Nat.toDigits 10 2 = ['2'] := by decide
    simp [key, loginKey, CodeType.number, hone, htwo] at hlist
  | login => exact ⟨by simpa [key, loginKey] using h, rfl⟩

section Codes

variable {ι : Type} (operations : ι → Operation) (mobile : String)

def Presents (login : ι) (smsCode : String) : Prop :=
  operations login = .smsLogin mobile smsCode

def Sends (thread : ι) (code : String) : Prop :=
  operations thread = .sendSms mobile .login code

structure Unseen (code : String) (world : World ι) : Prop where
  stored : ∀ entry ∈ world.codes (loginKey mobile), entry.value ≠ code
  removed : ∀ login smsCode, Presents operations mobile login smsCode →
    world.removed login ≠ some code

/-- Each login of the mobile has removed what it presents, no code has been
removed twice, and the stored one not at all. -/
structure SingleUse (world : World ι) : Prop where
  presented : ∀ login smsCode code, Presents operations mobile login smsCode →
    world.removed login = some code → code = smsCode
  once : ∀ first second smsCode smsCode' code, Presents operations mobile first smsCode →
    Presents operations mobile second smsCode' → world.removed first = some code →
    world.removed second = some code → first = second
  unused : ∀ login smsCode entry, Presents operations mobile login smsCode →
    world.codes (loginKey mobile) = some entry → world.removed login ≠ some entry.value

/-- A delete that takes effect finds, if anything, the code of its own login. -/
def Compared : Call ι → Choice → World ι → Prop
  | .deleteCode login key, choice, world =>
    key = loginKey mobile → choice.outcome ≠ .failBefore →
      ∀ code ∈ find world.codes key choice.now, Presents operations mobile login code
  | _, _, _ => True

instance (login : ι) (smsCode : String) : Decidable (Presents operations mobile login smsCode) :=
  inferInstanceAs (Decidable (operations login = _))

instance (request : Call ι) (choice : Choice) (world : World ι) :
    Decidable (Compared operations mobile request choice world) :=
  match request with
  | .deleteCode login key => inferInstanceAs (Decidable (key = loginKey mobile →
      choice.outcome ≠ .failBefore →
        ∀ code ∈ find world.codes key choice.now, Presents operations mobile login code))
  | .verifyCaptcha | .take _ _ | .setCode _ _ | .deliver _ _ | .deleteIfValue _ _
  | .isLocked _ _ | .recordFailure _ _ | .reset _ _ | .getCode _ | .getAuthByUsername _
  | .createToken _ => inferInstanceAs (Decidable True)

/-- What a step of one thread does not break: codes are single use, and a code
comes into being only by the thread that sends it. -/
structure Guarantee (thread : ι) (world world' : World ι) : Prop where
  single : SingleUse operations mobile world → SingleUse operations mobile world'
  unseen : ∀ code, ¬Sends operations mobile thread code → Unseen operations mobile code world →
    Unseen operations mobile code world'
  removed : ∀ other, other ≠ thread → world'.removed other = world.removed other

structure Rely (thread : ι) (world world' : World ι) : Prop where
  unseen : ∀ code, Sends operations mobile thread code → Unseen operations mobile code world →
    Unseen operations mobile code world'
  removed : world'.removed thread = world.removed thread

def Unsent (thread : ι) (world : World ι) : Prop :=
  ∀ code, Sends operations mobile thread code → Unseen operations mobile code world

variable {operations mobile} {thread : ι} {world : World ι}

theorem guarantee_refl (thread : ι) (world : World ι) :
    Guarantee operations mobile thread world world :=
  ⟨id, fun _ _ => id, fun _ _ => rfl⟩

theorem unsent_stable : Stable (Rely operations mobile thread) (Unsent operations mobile thread) :=
  fun _ _ h hstep code hsends => hstep.unseen code hsends (h code hsends)

theorem true_stable : Stable (Rely operations mobile thread) fun _ : World ι => True :=
  fun _ _ _ _ => trivial

theorem removed_stable :
    Stable (Rely operations mobile thread) fun world => (world.removed thread).isSome = true := by
  intro _ _ h hstep
  rw [hstep.removed]
  exact h

theorem guarantee_of_less {world' : World ι}
    (hcodes : ∀ entry, world'.codes (loginKey mobile) = some entry →
      world.codes (loginKey mobile) = some entry)
    (hlogins : ∀ login smsCode, Presents operations mobile login smsCode →
      world'.removed login = world.removed login)
    (hothers : ∀ other, other ≠ thread → world'.removed other = world.removed other) :
    Guarantee operations mobile thread world world' := by
  refine ⟨fun h => ⟨?_, ?_, ?_⟩, fun code _ h => ⟨?_, ?_⟩, hothers⟩
  · intro login smsCode code hlogin
    rw [hlogins login smsCode hlogin]
    exact h.presented login smsCode code hlogin
  · intro first second smsCode smsCode' code hfirst hsecond
    rw [hlogins first smsCode hfirst, hlogins second smsCode' hsecond]
    exact h.once first second smsCode smsCode' code hfirst hsecond
  · intro login smsCode entry hlogin hentry
    rw [hlogins login smsCode hlogin]
    exact h.unused login smsCode entry hlogin (hcodes entry hentry)
  · intro entry hentry
    exact h.stored entry (hcodes entry hentry)
  · intro login smsCode hlogin
    rw [hlogins login smsCode hlogin]
    exact h.removed login smsCode hlogin

theorem guarantee_delete (key : String) :
    Guarantee operations mobile thread world
      { world with codes := delete world.codes key } := by
  refine guarantee_of_less ?_ (fun _ _ _ => rfl) fun _ _ => rfl
  intro entry hentry
  by_cases hkey : key = loginKey mobile
  · simp [hkey] at hentry
  · simpa [Ne.symm hkey] using hentry

theorem guarantee_setCode {number code : String} {codeType : CodeType} {now : Int}
    (hsends : operations thread = .sendSms number codeType code)
    (hunsent : Unsent operations mobile thread world) :
    Guarantee operations mobile thread world (setCode (key number codeType) code now world).2 := by
  by_cases hkey : key number codeType = loginKey mobile
  · obtain ⟨rfl, rfl⟩ := loginKey_eq hkey
    have hfresh := hunsent code hsends
    have hcodes : (setCode (key number .login) code now world).2.codes (loginKey number) =
      some ⟨code, some (now + defaultTTL)⟩ := put_same _
    refine ⟨fun h => ⟨h.presented, h.once, ?_⟩, fun other hother h => ⟨?_, h.removed⟩,
      fun _ _ => rfl⟩
    · intro login smsCode entry hlogin hentry
      cases hcodes.symm.trans hentry
      exact hfresh.removed login smsCode hlogin
    · intro entry hentry hvalue
      cases hcodes.symm.trans hentry
      subst hvalue
      exact hother hsends
  · have hne : loginKey mobile ≠ key number codeType := fun h => hkey h.symm
    have hcodes : (setCode (key number codeType) code now world).2.codes (loginKey mobile) =
        world.codes (loginKey mobile) := by
      rw [setCode]
      exact put_other _ hne
    refine guarantee_of_less ?_ (fun _ _ _ => rfl) fun _ _ => rfl
    intro entry hentry
    rwa [hcodes] at hentry

theorem guarantee_consume {world' : World ι} {entry : Expiring.Entry String}
    (hentry : world.codes (loginKey mobile) = some entry)
    (hpresents : Presents operations mobile thread entry.value)
    (hgone : world'.codes (loginKey mobile) = none)
    (hremoved : world'.removed thread = some entry.value)
    (hothers : ∀ other, other ≠ thread → world'.removed other = world.removed other) :
    Guarantee operations mobile thread world world' := by
  have hcases : ∀ login code, world'.removed login = some code →
      login = thread ∧ code = entry.value ∨ world.removed login = some code := by
    intro login code hcode
    by_cases hlogin : login = thread
    · rw [hlogin, hremoved, Option.some.injEq] at hcode
      exact .inl ⟨hlogin, hcode.symm⟩
    · rw [hothers login hlogin] at hcode
      exact .inr hcode
  refine ⟨fun h => ⟨?_, ?_, ?_⟩, fun code _ h => ⟨?_, ?_⟩, hothers⟩
  · intro login smsCode code hlogin hcode
    rcases hcases login code hcode with ⟨rfl, rfl⟩ | hbefore
    · rw [Presents, hpresents, Operation.smsLogin.injEq] at hlogin
      exact hlogin.2
    · exact h.presented login smsCode code hlogin hbefore
  · intro first second smsCode smsCode' code hfirst hsecond hcode hcode'
    rcases hcases first code hcode with ⟨rfl, rfl⟩ | hbefore <;>
      rcases hcases second _ hcode' with ⟨rfl, hvalue⟩ | hbefore'
    · rfl
    · exact absurd hbefore' (h.unused second smsCode' entry hsecond hentry)
    · exact absurd (hvalue ▸ hbefore) (h.unused first smsCode entry hfirst hentry)
    · exact h.once first second smsCode smsCode' code hfirst hsecond hbefore hbefore'
  · intro login smsCode stored _ hstored
    cases hgone.symm.trans hstored
  · intro stored hstored
    cases hgone.symm.trans hstored
  · intro login smsCode hlogin hcode
    rcases hcases login code hcode with ⟨rfl, rfl⟩ | hbefore
    · exact h.stored entry hentry rfl
    · exact h.removed login smsCode hlogin hbefore

theorem guarantee_deleteCode [DecidableEq ι] {number smsCode : String}
    (hlogin : operations thread = .smsLogin number smsCode) {now : Int}
    (hcompared : loginKey number = loginKey mobile →
      ∀ code ∈ find world.codes (loginKey number) now, Presents operations mobile thread code) :
    Guarantee operations mobile thread world
      (deleteCode thread (loginKey number) now world).2 := by
  unfold deleteCode
  cases hfound : find world.codes (loginKey number) now with
  | none => exact guarantee_refl thread world
  | some code =>
    have hothers : ∀ other, other ≠ thread →
        Function.update world.removed thread (some code) other = world.removed other :=
      fun other hne => Function.update_of_ne hne _ _
    by_cases hkey : loginKey number = loginKey mobile
    · obtain ⟨entry, hentry, rfl⟩ := entry_of_find hfound
      rw [hkey] at hentry
      refine guarantee_consume hentry (hcompared hkey _ hfound) ?_ (Function.update_self _ _ _)
        hothers
      rw [hkey]
      exact delete_same
    · refine guarantee_of_less ?_ ?_ hothers
      · intro entry hentry
        exact (delete_other (Ne.symm hkey)).symm.trans hentry
      · intro login given hgiven
        apply hothers
        rintro rfl
        rw [Presents, hlogin, Operation.smsLogin.injEq] at hgiven
        exact hkey (congrArg loginKey hgiven.1)

theorem removed_of_deleted [DecidableEq ι] {key : String} {now : Int}
    (h : (deleteCode thread key now world).1 = .ok true) :
    ((deleteCode thread key now world).2.removed thread).isSome = true := by
  unfold deleteCode at h ⊢
  split at h
  · simp
  · cases h

end Codes

section Safety

variable {ι : Type} [DecidableEq ι] {operations : ι → Operation} {mobile : String} {thread : ι}

def Accepts (thread : ι) (value : Except AppError Response) (world : World ι) : Prop :=
  ∀ dto, value = .ok (.user dto) → (world.removed thread).isSome = true

abbrev ThreadSafe (operations : ι → Operation) (mobile : String) (thread : ι) :=
  Safe exec (Compared operations mobile) (Rely operations mobile thread)
    (Guarantee operations mobile thread) (Accepts thread)

theorem error_safe {pre : World ι → Prop} (stable : Stable (Rely operations mobile thread) pre)
    (err : AppError) : ThreadSafe operations mobile thread pre (.ret (.error err)) :=
  .ret stable fun _ _ _ h => by cases h

theorem attempt_safe {α : Type} {pre : World ι → Prop} {result : Except AppError α}
    {next : α → Program ι} (stable : Stable (Rely operations mobile thread) pre)
    (taken : ∀ value, result = .ok value → ThreadSafe operations mobile thread pre (next value)) :
    ThreadSafe operations mobile thread pre (Proc.attempt result next) :=
  .attempt stable (fun _ _ _ _ h => by cases h) taken

theorem read_safe {pre : World ι → Prop} {request : Call ι} {next : Reply request → Program ι}
    (reads : ∀ choice world, (exec request choice world).2 = world)
    (stable : Stable (Rely operations mobile thread) pre)
    (rest : ∀ reply, ThreadSafe operations mobile thread pre (next reply)) :
    ThreadSafe operations mobile thread pre (.call request next) :=
  .reading reads (guarantee_refl thread) stable rest

theorem getCode_reads (key : String) (choice : Choice) (world : World ι) :
    (exec (.getCode key) choice world).2 = world := by
  have hread : (getCode key choice.now world).2 = world := by
    unfold getCode
    split <;> rfl
  exact call_reads hread

theorem sendSms_safe {number code : String} {codeType : CodeType}
    (hsends : operations thread = .sendSms number codeType code) :
    ThreadSafe operations mobile thread (Unsent operations mobile thread)
      (sendSms number codeType code) := by
  refine read_safe (fun _ _ => rfl) unsent_stable fun verified => ?_
  split
  · refine read_safe (fun _ _ => rfl) unsent_stable fun taken => ?_
    refine attempt_safe unsent_stable fun _ _ => ?_
    refine .call (fun _ _ => True) unsent_stable ?_ fun stored => ?_
    · intro world choice hunsent _
      exact ⟨call_preserves _ _ (guarantee_refl thread world)
        (guarantee_setCode hsends hunsent), trivial⟩
    refine attempt_safe true_stable fun _ _ => ?_
    refine read_safe (fun _ _ => rfl) true_stable fun delivered => ?_
    cases delivered with
    | ok _ => exact .ret true_stable fun _ _ _ h => by cases h
    | error err =>
      refine .call (fun _ _ => True) true_stable ?_ fun deleted => ?_
      · intro world choice _ _
        refine ⟨call_preserves _ _ (guarantee_refl thread world) ?_, trivial⟩
        unfold deleteIfValue
        split
        · exact guarantee_delete _
        · exact guarantee_refl thread world
      exact attempt_safe true_stable fun _ _ => error_safe true_stable _
  · exact error_safe unsent_stable _

theorem rejectCode_safe (number : String) (err : AppError) :
    ThreadSafe operations mobile thread (fun _ => True) (rejectCode number err) :=
  read_safe (fun _ _ => rfl) true_stable fun _ =>
    attempt_safe true_stable fun _ _ => error_safe true_stable _

theorem exec_deleteCode {number smsCode : String}
    (hlogin : operations thread = .smsLogin number smsCode) {choice : Choice} {world : World ι}
    (hcompared : Compared operations mobile (.deleteCode thread (loginKey number)) choice world) :
    Guarantee operations mobile thread world
        (exec (.deleteCode thread (loginKey number)) choice world).2 ∧
      ((exec (.deleteCode thread (loginKey number)) choice world).1 = .ok true →
        ((exec (.deleteCode thread (loginKey number)) choice world).2.removed thread).isSome =
          true) := by
  simp only [exec]
  cases houtcome : choice.outcome with
  | failBefore => exact ⟨guarantee_refl thread world, fun h => by cases h⟩
  | failAfter =>
    refine ⟨guarantee_deleteCode hlogin fun hkey => hcompared hkey ?_, fun h => by cases h⟩
    rw [houtcome]
    decide
  | ok =>
    refine ⟨guarantee_deleteCode hlogin fun hkey => hcompared hkey ?_, removed_of_deleted⟩
    rw [houtcome]
    decide

theorem acceptCode_safe {number smsCode : String}
    (hlogin : operations thread = .smsLogin number smsCode) :
    ThreadSafe operations mobile thread (fun _ => True) (acceptCode thread number) := by
  refine read_safe (fun _ _ => rfl) true_stable fun _ => ?_
  refine read_safe (fun _ _ => rfl) true_stable fun found => ?_
  refine attempt_safe true_stable fun userID _ => ?_
  have hstable : ∀ deleted : Except AppError Bool, Stable (Rely operations mobile thread)
      fun world => deleted = .ok true → (world.removed thread).isSome = true :=
    fun _ _ _ h hstep hdeleted => removed_stable _ _ (h hdeleted) hstep
  refine .call (fun deleted world => deleted = .ok true → (world.removed thread).isSome = true)
    true_stable ?_ fun deleted => ?_
  · intro world choice _ hcompared
    exact exec_deleteCode hlogin hcompared
  refine attempt_safe (hstable deleted) fun removed hremoved => ?_
  subst hremoved
  split
  · rename_i htrue
    subst htrue
    refine read_safe (fun _ _ => rfl) (hstable _) fun issued => ?_
    refine attempt_safe (hstable _) fun token _ => ?_
    exact .ret (hstable _) fun _ h _ _ => h rfl
  · exact error_safe (hstable _) _

theorem smsLogin_safe {number smsCode : String}
    (hlogin : operations thread = .smsLogin number smsCode) :
    ThreadSafe operations mobile thread (fun _ => True) (smsLogin thread number smsCode) := by
  refine read_safe (fun _ _ => rfl) true_stable fun locked => ?_
  refine attempt_safe true_stable fun _ _ => ?_
  refine read_safe (getCode_reads _) true_stable fun stored => ?_
  split
  · exact error_safe true_stable _
  · exact rejectCode_safe _ _
  · split
    · exact acceptCode_safe hlogin
    · exact rejectCode_safe _ _

theorem program_safe (thread : ι) :
    ThreadSafe operations mobile thread (Unsent operations mobile thread)
      (program thread (operations thread)) := by
  cases hoperation : operations thread with
  | sendSms number codeType code => exact sendSms_safe hoperation
  | smsLogin number smsCode =>
    exact (smsLogin_safe hoperation).weaken unsent_stable fun _ _ => trivial

end Safety

section Run

variable {ι : Type} [DecidableEq ι]

def start (codes : Store String String) (operations : ι → Operation) :
    Config (World ι) ι (Call ι) Reply (Except AppError Response) :=
  ⟨⟨codes, fun _ => none⟩, fun thread => program thread (operations thread)⟩

omit [DecidableEq ι] in
theorem start_singleUse {codes : Store String String} {operations : ι → Operation}
    {mobile : String} : SingleUse operations mobile (start codes operations).shared := by
  constructor
  · intro _ _ _ _ h
    cases h
  · intro _ _ _ _ _ _ _ h
    cases h
  · intro _ _ _ _ _ h
    cases h

/-- Any number of codes being sent and of logins, for any mobiles, interleaved in
any way, with Redis calls that may get lost before or after they take effect. The
codes sent for one mobile are distinct, and new to Redis. In every run in which
each delete of a login of the mobile finds no code but the one that the login has
compared, a login that returns a token has removed the code it presents, and no
two logins return a token for one code. -/
theorem sms_code_single_use (operations : ι → Operation) (mobile : String)
    (distinct : ∀ first second code, operations first = .sendSms mobile .login code →
      operations second = .sendSms mobile .login code → first = second)
    (codes : Store String String)
    (hnew : ∀ thread code, operations thread = .sendSms mobile .login code →
      ∀ entry ∈ codes (loginKey mobile), entry.value ≠ code)
    (labels : List (ι × Choice))
    (hsteps : Along (move exec) (Admitted fun _ => Compared operations mobile)
      (start codes operations) labels) :
    (∀ login smsCode dto, operations login = .smsLogin mobile smsCode →
      (run (move exec) (start codes operations) labels).threads login = .ret (.ok (.user dto)) →
      (run (move exec) (start codes operations) labels).shared.removed login = some smsCode) ∧
    ∀ first second smsCode dto dto', operations first = .smsLogin mobile smsCode →
      operations second = .smsLogin mobile smsCode →
      (run (move exec) (start codes operations) labels).threads first = .ret (.ok (.user dto)) →
      (run (move exec) (start codes operations) labels).threads second =
        .ret (.ok (.user dto')) →
      first = second := by
  have hsafe : EachSafe exec (fun _ => Compared operations mobile) (Rely operations mobile)
      (Guarantee operations mobile) Accepts (start codes operations) := by
    intro thread
    refine ⟨Unsent operations mobile thread, ?_, program_safe thread⟩
    intro code hsends
    exact ⟨hnew thread code hsends, fun _ _ _ h => by cases h⟩
  have hcompatible : ∀ thread other world world', other ≠ thread →
      Guarantee operations mobile thread world world' →
      Rely operations mobile other world world' := by
    intro thread other world world' hother hstep
    refine ⟨fun code hsends => hstep.unseen code ?_, hstep.removed other hother⟩
    intro hsame
    exact hother (distinct other thread code hsends hsame)
  have hsingle : SingleUse operations mobile
      (run (move exec) (start codes operations) labels).shared :=
    hsafe.invariant guarantee_refl hcompatible (fun _ _ _ hstep => hstep.single) hsteps
      start_singleUse
  have hend := hsafe.run guarantee_refl hcompatible hsteps
  have hpresented : ∀ login smsCode dto, operations login = .smsLogin mobile smsCode →
      (run (move exec) (start codes operations) labels).threads login = .ret (.ok (.user dto)) →
      (run (move exec) (start codes operations) labels).shared.removed login = some smsCode := by
    intro login smsCode dto hlogin hreturned
    obtain ⟨code, hcode⟩ := Option.isSome_iff_exists.mp (hend.returned hreturned dto rfl)
    rw [hcode, hsingle.presented login smsCode code hlogin hcode]
  refine ⟨hpresented, ?_⟩
  intro first second smsCode dto dto' hfirst hsecond hreturned hreturned'
  exact hsingle.once first second smsCode smsCode smsCode hfirst hsecond
    (hpresented first smsCode dto hfirst hreturned)
    (hpresented second smsCode dto' hsecond hreturned')

/-- Two logins compare the code 111111. The first one deletes it and gets its
token; then 222222 is stored, and the second login deletes that one and gets a
token for 111111. -/
theorem newer_code_consumed :
    let operations : Fin 4 → Operation := fun thread =>
      if thread = 0 then .sendSms "13800138000" .login "111111"
      else if thread = 3 then .sendSms "13800138000" .login "222222"
      else .smsLogin "13800138000" "111111"
    let final := run (move exec) (start (fun _ => none) operations)
      ([0, 0, 0, 0, 1, 1, 2, 2, 1, 1, 1, 1, 3, 3, 3, 3, 2, 2, 2, 2].map fun thread => (thread, {}))
    (final.threads 1).result = some (.ok (.user ⟨1, "token"⟩)) ∧
      (final.threads 2).result = some (.ok (.user ⟨1, "token"⟩)) ∧
      final.shared.removed 1 = some "111111" ∧ final.shared.removed 2 = some "222222" := by
  decide +kernel

/-- The same two logins, when nothing is sent in between: the second one finds no
code to delete. -/
theorem sms_code_single_use_two_logins :
    let operations : Fin 3 → Operation := fun thread =>
      if thread = 0 then .sendSms "13800138000" .login "111111"
      else .smsLogin "13800138000" "111111"
    let labels := [0, 0, 0, 0, 1, 1, 2, 2, 1, 1, 1, 1, 2, 2, 2].map fun thread => (thread, {})
    let final := run (move exec) (start (fun _ => none) operations) labels
    (final.threads 2).result = some (.error codeNotExist) ∧
      final.shared.removed 1 = some "111111" := by
  intro operations labels
  have hsteps : Along (move exec) (Admitted fun _ => Compared operations "13800138000")
      (start (fun _ => none) operations) labels := by
    decide +kernel
  have hsender : ∀ thread code, operations thread = .sendSms "13800138000" .login code →
      thread = 0 := by
    intro thread code h
    by_contra hthread
    simp [operations, hthread] at h
  have hdistinct : ∀ first second code, operations first = .sendSms "13800138000" .login code →
      operations second = .sendSms "13800138000" .login code → first = second :=
    fun first second code h h' => (hsender first code h).trans (hsender second code h').symm
  have hreturned : (run (move exec) (start (fun _ => none) operations) labels).threads 1 =
      .ret (.ok (.user ⟨1, "token"⟩)) := Proc.result_eq_some.mp (by decide +kernel)
  have hlogin : operations 1 = .smsLogin "13800138000" "111111" := by decide
  have hpresented := (sms_code_single_use operations "13800138000" hdistinct (fun _ => none)
    (fun _ _ _ _ h => by cases h) labels hsteps).1
  have hremoved := hpresented 1 "111111" ⟨1, "token"⟩ hlogin hreturned
  dsimp only
  exact ⟨by decide +kernel, hremoved⟩

end Run

end Goshop.User.SmsLogin
