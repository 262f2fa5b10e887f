import Goshop.Lib.Table
import Goshop.Lib.Transaction

/-! The public error contracts. A code stands for one contract, which the catalogs
of the services declare and a process-wide registry holds; the registry can only
grow, and no contract in it is ever replaced. -/
namespace Goshop.ErrorContract.Catalog

open Goshop.Lib

inductive Kind where
  | invalidArgument
  | unauthenticated
  | permissionDenied
  | notFound
  | conflict
  | rateLimited
  | unavailable
  | timeout
  | internal
  | other (text : String)
deriving DecidableEq, Repr

def Kind.valid : Kind → Bool
  | .other _ => false
  | _ => true

/-- A code is an `int`. -/
structure Spec where
  code : Int
  kind : Kind := .other ""
  message : String := ""
  reference : String := ""
  fits : code ≤ 9223372036854775807 := by decide
deriving DecidableEq, Repr

inductive Refusal where
  | codeNotPositive
  | kindInvalid (kind : Kind)
  | messageEmpty
  | duplicate (code : Int)
  | alreadyExists (code : Int)
deriving DecidableEq, Repr

def Spec.validate (spec : Spec) : Except Refusal Unit :=
  if spec.code ≤ 0 then .error .codeNotPositive
  else if !spec.kind.valid then .error (.kindInvalid spec.kind)
  else if spec.message = "" then .error .messageEmpty
  else .ok ()

structure Spec.Valid (spec : Spec) : Prop where
  code : 0 < spec.code
  kind : spec.kind.valid = true
  message : spec.message ≠ ""

theorem validate_ok {spec : Spec} : spec.validate = .ok () ↔ spec.Valid := by
  unfold Spec.validate
  constructor
  · intro h
    split at h
    · cases h
    · split at h
      · cases h
      · split at h
        · cases h
        · exact ⟨by omega, by simp_all, by assumption⟩
  · rintro ⟨hcode, hkind, hmessage⟩
    rw [if_neg (by omega), if_neg (by simp [hkind]), if_neg hmessage]

def unknownSpec : Spec where
  code := 1
  kind := .internal
  message := "An internal server error occurred"
  reference := "http://goshop/pkg/errors/README.md"

theorem unknownSpec_valid : unknownSpec.Valid :=
  ⟨by decide, rfl, by decide⟩

/-- The map of codes. The contract of unknown errors is in it from the start. -/
structure Registry where
  specs : List Spec
  unique : (specs.map (·.code)).Nodup
  valid : ∀ spec ∈ specs, spec.Valid
  unknown : unknownSpec ∈ specs

def Registry.initial : Registry where
  specs := [unknownSpec]
  unique := by decide
  valid := by simpa using unknownSpec_valid
  unknown := by simp

namespace Registry

variable {registry registry' : Registry} {spec : Spec} {code : Int}

def lookup (registry : Registry) (code : Int) : Option Spec :=
  registry.specs.find? (·.code = code)

theorem lookup_eq_some : registry.lookup code = some spec ↔ spec ∈ registry.specs ∧
    spec.code = code := by
  constructor
  · intro h
    exact ⟨List.mem_of_find?_eq_some h, by simpa using List.find?_some h⟩
  · rintro ⟨hspec, rfl⟩
    exact Table.find_of_mem registry.unique hspec

theorem lookup_unknown (registry : Registry) : registry.lookup 1 = some unknownSpec :=
  lookup_eq_some.mpr ⟨registry.unknown, rfl⟩

def add (registry : Registry) (spec : Spec) (valid : spec.Valid)
    (free : registry.lookup spec.code = none) : Registry where
  specs := registry.specs ++ [spec]
  unique := by
    refine Table.nodup_snoc registry.unique fun other hother hcode => ?_
    have hnone := List.find?_eq_none.mp free other hother
    exact hnone (decide_eq_true hcode)
  valid := by
    intro other hother
    rcases List.mem_append.mp hother with hold | hnew
    · exact registry.valid other hold
    · rw [List.mem_singleton.mp hnew]
      exact valid
  unknown := List.mem_append_left _ registry.unknown

theorem lookup_add (valid : spec.Valid) (free : registry.lookup spec.code = none) :
    (registry.add spec valid free).lookup code =
      (registry.lookup code).or (if spec.code = code then some spec else none) := by
  simp only [lookup, add, List.find?_append, List.find?_singleton, decide_eq_true_eq]

end Registry

section Register

variable {registry registry' : Registry} {spec : Spec}

/-- `MustRegister`; an error is a panic of the source. -/
def mustRegister (registry : Registry) (spec : Spec) : Except Refusal Registry :=
  match hvalid : spec.validate with
  | .error refusal => .error refusal
  | .ok _ =>
    match hlookup : registry.lookup spec.code with
    | some existing =>
      if existing = spec then .ok registry else .error (.alreadyExists spec.code)
    | none => .ok (registry.add spec (validate_ok.mp hvalid) hlookup)

def validateFrom (seen : List Int) : List Spec → Except Refusal Unit
  | [] => .ok ()
  | spec :: rest => do
    spec.validate
    if spec.code ∈ seen then throw (.duplicate spec.code)
    validateFrom (spec.code :: seen) rest

def registerEach (registry : Registry) : List Spec → Except Refusal Registry
  | [] => .ok registry
  | spec :: rest => do registerEach (← mustRegister registry spec) rest

def registerAll (registry : Registry) (catalog : List Spec) : Except Refusal Registry := do
  validateFrom [] catalog
  registerEach registry catalog

theorem mustRegister_ok (h : mustRegister registry spec = .ok registry') :
    spec.Valid ∧ (∀ other, registry.lookup spec.code = some other → other = spec) ∧
      ∀ code, registry'.lookup code =
        (registry.lookup code).or (if spec.code = code then some spec else none) := by
  unfold mustRegister at h
  split at h
  · cases h
  next hvalid =>
    refine ⟨validate_ok.mp hvalid, ?_⟩
    split at h
    next existing hexisting =>
      split at h
      next hsame =>
        cases h
        subst hsame
        refine ⟨fun other hother => Option.some.inj (hother.symm.trans hexisting), fun code => ?_⟩
        by_cases hcode : existing.code = code
        · rw [← hcode, hexisting, Option.some_or]
        · rw [if_neg hcode, Option.or_none]
      next => cases h
    next hfree =>
      cases h
      refine ⟨fun other hother => ?_, fun code => Registry.lookup_add _ _⟩
      rw [hfree] at hother
      cases hother

theorem mustRegister_known (hknown : registry.lookup spec.code = some spec)
    (hvalid : spec.Valid) : mustRegister registry spec = .ok registry := by
  unfold mustRegister
  split
  next hinvalid =>
    rw [validate_ok.mpr hvalid] at hinvalid
    cases hinvalid
  next =>
    split
    next existing hexisting =>
      rw [hknown] at hexisting
      rw [if_pos (Option.some.inj hexisting).symm]
    next hfree =>
      rw [hknown] at hfree
      cases hfree

theorem mustRegister_total (hvalid : spec.Valid)
    (hagrees : ∀ other, registry.lookup spec.code = some other → other = spec) :
    ∃ registry', mustRegister registry spec = .ok registry' := by
  cases hlookup : registry.lookup spec.code with
  | some existing =>
    obtain rfl := hagrees existing hlookup
    exact ⟨registry, mustRegister_known hlookup hvalid⟩
  | none =>
    unfold mustRegister
    split
    next hinvalid =>
      rw [validate_ok.mpr hvalid] at hinvalid
      cases hinvalid
    next =>
      split
      next existing hexisting =>
        rw [hlookup] at hexisting
        cases hexisting
      next => exact ⟨_, rfl⟩

structure Admits (registry : Registry) (specs : List Spec) : Prop where
  valid : ∀ spec ∈ specs, spec.Valid
  agrees : ∀ spec ∈ specs, ∀ other, registry.lookup spec.code = some other → other = spec
  single : ∀ spec ∈ specs, ∀ other ∈ specs, other.code = spec.code → other = spec

theorem find_cons_or (specs : List Spec) (code : Int) :
    (spec :: specs).find? (·.code = code) =
      (if spec.code = code then some spec else none).or (specs.find? (·.code = code)) := by
  by_cases hcode : spec.code = code <;> simp [hcode]

theorem registerEach_ok {specs : List Spec} (h : registerEach registry specs = .ok registry') :
    Admits registry specs ∧ ∀ code, registry'.lookup code =
      (registry.lookup code).or (specs.find? (·.code = code)) := by
  induction specs generalizing registry with
  | nil =>
    cases h
    exact ⟨⟨by simp, by simp, by simp⟩, by simp⟩
  | cons spec rest ih =>
    obtain ⟨middle, hfirst, hrest⟩ := Transaction.except_bind_ok.mp h
    obtain ⟨hvalid, hagrees, hlookup⟩ := mustRegister_ok hfirst
    obtain ⟨hadmits, hend⟩ := ih hrest
    have hmiddle : middle.lookup spec.code = some spec := by
      rw [hlookup]
      cases hold : registry.lookup spec.code with
      | some other => rw [hagrees other hold, Option.some_or]
      | none => simp
    have hmeets : ∀ other ∈ rest, other.code = spec.code → other = spec := by
      intro other hother hcode
      rw [← hcode] at hmiddle
      exact (hadmits.agrees other hother spec hmiddle).symm
    refine ⟨⟨?_, ?_, ?_⟩, ?_⟩
    · simpa using ⟨hvalid, hadmits.valid⟩
    · intro entry hentry other hother
      rcases List.mem_cons.mp hentry with rfl | hentry
      · exact hagrees other hother
      · refine hadmits.agrees entry hentry other ?_
        rw [hlookup, hother, Option.some_or]
    · intro entry hentry other hother hcode
      rcases List.mem_cons.mp hentry with rfl | hlater
      · rcases List.mem_cons.mp hother with rfl | hlater
        · rfl
        · exact hmeets other hlater hcode
      · rcases List.mem_cons.mp hother with rfl | hlater'
        · exact (hmeets entry hlater hcode.symm).symm
        · exact hadmits.single entry hlater other hlater' hcode
    · intro code
      rw [hend, hlookup, find_cons_or, Option.or_assoc]

theorem registerEach_total {specs : List Spec} (h : Admits registry specs) :
    ∃ registry', registerEach registry specs = .ok registry' := by
  induction specs generalizing registry with
  | nil => exact ⟨registry, rfl⟩
  | cons spec rest ih =>
    obtain ⟨middle, hfirst⟩ := mustRegister_total (h.valid spec List.mem_cons_self)
      (h.agrees spec List.mem_cons_self)
    obtain ⟨-, -, hlookup⟩ := mustRegister_ok hfirst
    have hadmits : Admits middle rest := by
      refine ⟨fun entry hentry => h.valid entry (List.mem_cons_of_mem spec hentry), ?_,
        fun entry hentry other hother => h.single entry (List.mem_cons_of_mem spec hentry) other
          (List.mem_cons_of_mem spec hother)⟩
      intro entry hentry other hother
      rw [hlookup] at hother
      cases hold : registry.lookup entry.code with
      | some existing =>
        rw [hold, Option.some_or] at hother
        cases hother
        exact h.agrees entry (List.mem_cons_of_mem spec hentry) _ hold
      | none =>
        rw [hold, Option.none_or, Option.ite_none_right_eq_some] at hother
        obtain ⟨hcode, hsame⟩ := hother
        cases hsame
        exact h.single entry (List.mem_cons_of_mem _ hentry) _ List.mem_cons_self hcode
    obtain ⟨registry', hrest⟩ := ih hadmits
    exact ⟨registry', Transaction.except_bind_ok.mpr ⟨middle, hfirst, hrest⟩⟩

theorem registerEach_known {specs : List Spec} (hvalid : ∀ spec ∈ specs, spec.Valid)
    (hknown : ∀ spec ∈ specs, registry.lookup spec.code = some spec) :
    registerEach registry specs = .ok registry := by
  induction specs with
  | nil => rfl
  | cons spec rest ih =>
    have hfirst := mustRegister_known (hknown spec List.mem_cons_self)
      (hvalid spec List.mem_cons_self)
    refine Transaction.except_bind_ok.mpr ⟨registry, hfirst, ih ?_ ?_⟩
    · exact fun other hother => hvalid other (List.mem_cons_of_mem spec hother)
    · exact fun other hother => hknown other (List.mem_cons_of_mem spec hother)

def registerCatalogs (registry : Registry) : List (List Spec) → Except Refusal Registry
  | [] => .ok registry
  | catalog :: rest => do registerCatalogs (← registerAll registry catalog) rest

theorem registerAll_ok {catalog : List Spec} :
    registerAll registry catalog = .ok registry' ↔
      validateFrom [] catalog = .ok () ∧ registerEach registry catalog = .ok registry' := by
  unfold registerAll
  rw [Transaction.except_bind_ok]
  constructor
  · rintro ⟨⟨⟩, hvalid, heach⟩
    exact ⟨hvalid, heach⟩
  · rintro ⟨hvalid, heach⟩
    exact ⟨(), hvalid, heach⟩

theorem registerEach_append {first second : List Spec} :
    registerEach registry (first ++ second) = .ok registry' ↔
      ∃ middle, registerEach registry first = .ok middle ∧
        registerEach middle second = .ok registry' := by
  induction first generalizing registry with
  | nil => simp [registerEach]
  | cons spec rest ih =>
    simp only [List.cons_append, registerEach, Transaction.except_bind_ok, ih]
    constructor
    · rintro ⟨start, hstart, middle, hmiddle, hend⟩
      exact ⟨middle, ⟨start, hstart, hmiddle⟩, hend⟩
    · rintro ⟨middle, ⟨start, hstart, hmiddle⟩, hend⟩
      exact ⟨start, hstart, middle, hmiddle, hend⟩

theorem registerCatalogs_ok {catalogs : List (List Spec)} :
    registerCatalogs registry catalogs = .ok registry' ↔
      (∀ catalog ∈ catalogs, validateFrom [] catalog = .ok ()) ∧
        registerEach registry catalogs.flatten = .ok registry' := by
  induction catalogs generalizing registry with
  | nil => simp [registerCatalogs, registerEach]
  | cons catalog rest ih =>
    simp only [registerCatalogs, Transaction.except_bind_ok, registerAll_ok, ih,
      List.flatten_cons, registerEach_append, List.forall_mem_cons]
    constructor
    · rintro ⟨middle, ⟨hvalid, hmiddle⟩, hrest, hend⟩
      exact ⟨⟨hvalid, hrest⟩, middle, hmiddle, hend⟩
    · rintro ⟨⟨hvalid, hrest⟩, middle, hmiddle, hend⟩
      exact ⟨middle, ⟨hvalid, hmiddle⟩, hrest, hend⟩

theorem Admits.perm {specs specs' : List Spec} (hperm : specs.Perm specs')
    (h : Admits registry specs) : Admits registry specs' where
  valid spec hspec := h.valid spec (hperm.mem_iff.mpr hspec)
  agrees spec hspec := h.agrees spec (hperm.mem_iff.mpr hspec)
  single spec hspec other hother :=
    h.single spec (hperm.mem_iff.mpr hspec) other (hperm.mem_iff.mpr hother)

/-- Among contracts with one for each code, the one that a search finds does not
depend on the order. -/
theorem Admits.find_eq {specs : List Spec} (h : Admits registry specs) {spec : Spec}
    (hspec : spec ∈ specs) : specs.find? (·.code = spec.code) = some spec := by
  cases hfind : specs.find? (·.code = spec.code) with
  | none => simpa using List.find?_eq_none.mp hfind spec hspec
  | some found =>
    have hcode : found.code = spec.code := by simpa using List.find?_some hfind
    rw [h.single spec hspec found (List.mem_of_find?_eq_some hfind) hcode]

theorem Admits.find_perm {specs specs' : List Spec} (hperm : specs.Perm specs')
    (h : Admits registry specs) (code : Int) :
    specs'.find? (·.code = code) = specs.find? (·.code = code) := by
  cases hfind : specs.find? (·.code = code) with
  | none =>
    rw [List.find?_eq_none] at hfind ⊢
    exact fun spec hspec => hfind spec (hperm.mem_iff.mpr hspec)
  | some found =>
    have hcode : found.code = code := by simpa using List.find?_some hfind
    rw [← hcode]
    exact (h.perm hperm).find_eq (hperm.mem_iff.mp (List.mem_of_find?_eq_some hfind))

/-- Components may register their catalogs in any order, and more than once: the
codes come to mean the same, and none that had a meaning gets another one. -/
theorem registration_order_independent {catalogs catalogs' : List (List Spec)}
    (hperm : catalogs.Perm catalogs')
    (h : registerCatalogs registry catalogs = .ok registry') :
    (∃ other, registerCatalogs registry catalogs' = .ok other ∧
      ∀ code, other.lookup code = registry'.lookup code) ∧
    (∀ code spec, registry.lookup code = some spec → registry'.lookup code = some spec) ∧
    ∀ catalog ∈ catalogs, registerAll registry' catalog = .ok registry' := by
  obtain ⟨hvalid, heach⟩ := registerCatalogs_ok.mp h
  obtain ⟨hadmits, hlookup⟩ := registerEach_ok heach
  have hflatten := hperm.flatten
  refine ⟨?_, ?_, ?_⟩
  · obtain ⟨other, hother⟩ := registerEach_total (hadmits.perm hflatten)
    have hvalid' : ∀ catalog ∈ catalogs', validateFrom [] catalog = .ok () :=
      fun catalog hcatalog => hvalid catalog (hperm.mem_iff.mpr hcatalog)
    refine ⟨other, registerCatalogs_ok.mpr ⟨hvalid', hother⟩, fun code => ?_⟩
    rw [(registerEach_ok hother).2, hlookup, hadmits.find_perm hflatten]
  · intro code spec hspec
    rw [hlookup, hspec, Option.some_or]
  · intro catalog hcatalog
    have hmem : ∀ spec ∈ catalog, spec ∈ catalogs.flatten :=
      fun spec hspec => List.mem_flatten.mpr ⟨catalog, hcatalog, hspec⟩
    refine registerAll_ok.mpr ⟨hvalid catalog hcatalog, registerEach_known ?_ ?_⟩
    · exact fun spec hspec => hadmits.valid spec (hmem spec hspec)
    · intro spec hspec
      rw [hlookup, hadmits.find_eq (hmem spec hspec)]
      cases hold : registry.lookup spec.code with
      | none => rfl
      | some other => rw [hadmits.agrees spec (hmem spec hspec) other hold, Option.some_or]


end Register

section Application

def validationSpec (message : String) : Spec where
  code := 100004
  kind := .invalidArgument
  message := message

def invNotEnoughSpec : Spec where
  code := 100603
  kind := .conflict
  message := "库存不足"

def frameworkCatalog : List Spec :=
  [
    { code := 100002, kind := .internal, message := "Internal server error" },
    { code := 100003, kind := .invalidArgument,
      message := "Error occurred while binding the request body to the struct" },
    validationSpec "Validation failed",
    { code := 100005, kind := .unauthenticated, message := "Token invalid" },
    { code := 100006, kind := .notFound, message := "Page not found" },
    { code := 100007, kind := .conflict,
      message := "Request conflicts with the current resource state" },
    { code := 100008, kind := .unavailable,
      message := "Required service is temporarily unavailable" },
    { code := 100009, kind := .timeout, message := "Required service response timed out" },
    { code := 100010, kind := .rateLimited,
      message := "Too many requests, please try again later" },
    { code := 100101, kind := .unavailable, message := "Database error" },
    { code := 100201, kind := .internal,
      message := "Error occurred while encrypting the user password" },
    { code := 100202, kind := .unauthenticated, message := "Signature is invalid" },
    { code := 100203, kind := .unauthenticated, message := "Token expired" },
    { code := 100204, kind := .unauthenticated, message := "Invalid authorization header" },
    { code := 100205, kind := .unauthenticated, message := "The `Authorization` header was empty" },
    { code := 100206, kind := .unauthenticated, message := "Password was incorrect" },
    { code := 100207, kind := .permissionDenied, message := "Permission denied" },
    { code := 100301, kind := .internal,
      message := "Encoding failed due to an error with the data" },
    { code := 100302, kind := .internal,
      message := "Encoding failed due to an error with the data" },
    { code := 100303, kind := .invalidArgument, message := "Data is not valid JSON" },
    { code := 100304, kind := .internal, message := "JSON data could not be encoded" },
    { code := 100305, kind := .invalidArgument, message := "JSON data could not be decoded" },
    { code := 100306, kind := .invalidArgument, message := "Data is not valid Yaml" },
    { code := 100307, kind := .internal, message := "Yaml data could not be encoded" },
    { code := 100308, kind := .invalidArgument, message := "Yaml data could not be decoded" }
  ]

def businessCatalog : List Spec :=
  [
    { code := 100801, kind := .unavailable, message := "数据库服务暂不可用" },
    { code := 100802, kind := .unavailable, message := "远程服务暂不可用" },
    { code := 100401, kind := .notFound, message := "用户不存在" },
    { code := 100402, kind := .conflict, message := "用户已存在" },
    { code := 100403, kind := .unauthenticated, message := "用户名或密码错误" },
    { code := 100404, kind := .unavailable, message := "短信发送失败" },
    { code := 100405, kind := .invalidArgument, message := "短信验证码错误或已过期" },
    { code := 100406, kind := .invalidArgument, message := "短信验证码错误" },
    { code := 100416, kind := .invalidArgument, message := "两次输入的密码不一致" },
    { code := 100417, kind := .invalidArgument, message := "图形验证码错误或已过期" },
    { code := 100418, kind := .unavailable, message := "设备获取失败，请稍后重试" },
    { code := 100407, kind := .rateLimited, message := "用户登录已被暂时锁定" },
    { code := 100408, kind := .rateLimited, message := "短信发送过于频繁，请稍后再试" },
    { code := 100409, kind := .rateLimited, message := "短信验证码校验已被暂时锁定" },
    { code := 100410, kind := .permissionDenied, message := "用户账号未启用" },
    { code := 100411, kind := .conflict, message := "账号存在未完成的订单、退款或售后事项，暂时无法注销" },
    { code := 100412, kind := .unavailable, message := "邮箱验证服务暂不可用" },
    { code := 100413, kind := .conflict, message := "手机号已存在" },
    { code := 100414, kind := .conflict, message := "邮箱已存在" },
    { code := 100415, kind := .conflict, message := "用户名已存在" },
    { code := 100501, kind := .notFound, message := "商品不存在" },
    { code := 100504, kind := .invalidArgument, message := "商品请求参数无效" },
    { code := 100502, kind := .notFound, message := "商品分类不存在" },
    { code := 100505, kind := .notFound, message := "品牌不存在" },
    { code := 100506, kind := .notFound, message := "轮播图不存在" },
    { code := 100507, kind := .notFound, message := "商品分类与品牌关系不存在" },
    { code := 100503, kind := .internal, message := "搜索服务数据解析失败" },
    { code := 100601, kind := .notFound, message := "库存不存在" },
    { code := 100602, kind := .invalidArgument, message := "库存扣减明细不存在" },
    invNotEnoughSpec,
    { code := 100701, kind := .notFound, message := "购物车商品不存在" },
    { code := 100702, kind := .conflict, message := "提交订单失败" },
    { code := 100703, kind := .invalidArgument, message := "未选择商品" },
    { code := 100704, kind := .notFound, message := "订单不存在" },
    { code := 100705, kind := .conflict, message := "订单数据冲突" },
    { code := 100706, kind := .conflict, message := "订单状态无效" }
  ]

def catalog : List Spec :=
  frameworkCatalog ++ businessCatalog

/-- The contracts of the application are registered, whatever else is. -/
def Loaded (registry : Registry) : Prop :=
  ∀ spec ∈ catalog, registry.lookup spec.code = some spec

theorem catalog_codes : (1 :: catalog.map (·.code)).Nodup := by
  decide

theorem catalog_valid : validateFrom [] catalog = .ok () := by
  decide

theorem catalog_admitted : Admits .initial catalog where
  valid := by
    have h : ∀ spec ∈ catalog, spec.validate = .ok () := by decide
    exact fun spec hspec => validate_ok.mp (h spec hspec)
  agrees := by
    intro spec hspec other hother
    obtain ⟨hmem, hcode⟩ := Registry.lookup_eq_some.mp hother
    obtain rfl := List.mem_singleton.mp hmem
    have hone : spec.code ∉ catalog.map (·.code) := hcode ▸ (List.nodup_cons.mp catalog_codes).1
    exact absurd (List.mem_map_of_mem hspec) hone
  single := by
    intro spec hspec other hother hcode
    exact List.inj_on_of_nodup_map (List.nodup_cons.mp catalog_codes).2 hother hspec hcode

/-- The two catalogs of the application, either of them first. -/
theorem registration_order_independent_application :
    ∃ registry, registerCatalogs .initial [frameworkCatalog, businessCatalog] = .ok registry ∧
      ∃ other, registerCatalogs .initial [businessCatalog, frameworkCatalog] = .ok other ∧
        ∀ code, other.lookup code = registry.lookup code := by
  obtain ⟨registry, hregistry⟩ := registerEach_total catalog_admitted
  have hvalid : ∀ part ∈ [frameworkCatalog, businessCatalog], validateFrom [] part = .ok () := by
    decide
  have hordered : registerCatalogs .initial [frameworkCatalog, businessCatalog] = .ok registry :=
    registerCatalogs_ok.mpr ⟨hvalid, by simpa [catalog] using hregistry⟩
  exact ⟨registry, hordered,
    (registration_order_independent (.swap businessCatalog frameworkCatalog []) hordered).1⟩

theorem catalog_registers : ∃ registry, registerAll .initial catalog = .ok registry ∧
    Loaded registry := by
  obtain ⟨registry, hregistry⟩ := registerEach_total catalog_admitted
  refine ⟨registry, registerAll_ok.mpr ⟨catalog_valid, hregistry⟩, fun spec hspec => ?_⟩
  rw [(registerEach_ok hregistry).2, catalog_admitted.find_eq hspec]
  cases hold : Registry.initial.lookup spec.code with
  | none => rfl
  | some other => rw [catalog_admitted.agrees spec hspec other hold, Option.some_or]

end Application

end Goshop.ErrorContract.Catalog
