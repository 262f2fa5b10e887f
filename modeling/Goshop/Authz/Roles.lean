import Goshop.Lib.GoText

/-! The vocabulary of staff authorization: the built-in roles with their
business domains, and the permissions a role can hold. Roles and permissions
are stored and sent as texts; a text outside the vocabulary is a custom role or
is refused. -/
namespace Goshop.Authz.Roles

open Goshop.Lib

inductive StaffRole where
  | support
  | ops
  | finance
  | catalog
  | review
  | admin
  | superAdmin
deriving DecidableEq, Repr

def StaffRole.text : StaffRole → String
  | .support => "support"
  | .ops => "ops"
  | .finance => "finance"
  | .catalog => "catalog"
  | .review => "review"
  | .admin => "admin"
  | .superAdmin => "super_admin"

inductive BusinessDomain where
  | support
  | operations
  | finance
  | catalog
  | review
  | platform
deriving DecidableEq, Repr

def BusinessDomain.text : BusinessDomain → String
  | .support => "support"
  | .operations => "operations"
  | .finance => "finance"
  | .catalog => "catalog"
  | .review => "review"
  | .platform => "platform"

theorem BusinessDomain.text_injective : Function.Injective BusinessDomain.text := by
  intro first second h
  cases first <;> cases second <;> simp_all [BusinessDomain.text]

def allBusinessDomains : List BusinessDomain :=
  [.support, .operations, .finance, .catalog, .review, .platform]

def isValidBusinessDomain (value : String) : Bool :=
  allBusinessDomains.any fun domain => domain.text = value

def BusinessDomain.ofText (value : String) : Option BusinessDomain :=
  allBusinessDomains.find? fun domain => domain.text = value

inductive Permission where
  | userProfileReadSelf
  | userProfileUpdateSelf
  | userAccountDeleteSelf
  | userDeviceBlacklistReadSelf
  | userDeviceBlacklistWriteSelf
  | cartReadSelf
  | cartWriteSelf
  | orderCreateSelf
  | orderReadSelf
  | orderPaySelf
  | orderStatusLogReadSelf
  | inventoryReadPublic
  | reviewCreateSelf
  | reviewAppendSelf
  | reviewReadPublic
  | userCreateAny
  | userListAny
  | userReadAny
  | userDisableAny
  | goodsReadAny
  | goodsWriteAny
  | inventoryReadAny
  | inventoryWriteAny
  | inventoryAuditReadAny
  | orderReadAny
  | orderCloseAny
  | orderRefundAny
  | staffSessionReadAny
  | staffSessionRevokeAny
  | breakGlassApproveAny
  | paymentReconcileReadAny
  | refundDeadJobRetryAny
  | paymentCallbackSimulate
  | auditReadAny
  | roleReadAny
  | roleAssignAny
  | roleWriteAny
  | reviewModerateAny
  | reviewReplyAny
  | reviewAggregateRebuild
deriving DecidableEq, Repr

def Permission.text : Permission → String
  | .userProfileReadSelf => "user:profile:read:self"
  | .userProfileUpdateSelf => "user:profile:update:self"
  | .userAccountDeleteSelf => "user:account:delete:self"
  | .userDeviceBlacklistReadSelf => "user:device_blacklist:read:self"
  | .userDeviceBlacklistWriteSelf => "user:device_blacklist:write:self"
  | .cartReadSelf => "cart:read:self"
  | .cartWriteSelf => "cart:write:self"
  | .orderCreateSelf => "order:create:self"
  | .orderReadSelf => "order:read:self"
  | .orderPaySelf => "order:pay:self"
  | .orderStatusLogReadSelf => "order:status_log:read:self"
  | .inventoryReadPublic => "inventory:read:public"
  | .reviewCreateSelf => "review:create:self"
  | .reviewAppendSelf => "review:append:self"
  | .reviewReadPublic => "review:read:public"
  | .userCreateAny => "user:create:any"
  | .userListAny => "user:list:any"
  | .userReadAny => "user:read:any"
  | .userDisableAny => "user:disable:any"
  | .goodsReadAny => "goods:read:any"
  | .goodsWriteAny => "goods:write:any"
  | .inventoryReadAny => "inventory:read:any"
  | .inventoryWriteAny => "inventory:write:any"
  | .inventoryAuditReadAny => "inventory:audit:read:any"
  | .orderReadAny => "order:read:any"
  | .orderCloseAny => "order:close:any"
  | .orderRefundAny => "order:refund:any"
  | .staffSessionReadAny => "staff_session:read:any"
  | .staffSessionRevokeAny => "staff_session:revoke:any"
  | .breakGlassApproveAny => "break_glass:approve:any"
  | .paymentReconcileReadAny => "payment:reconciliation:read:any"
  | .refundDeadJobRetryAny => "refund:dead_job:retry:any"
  | .paymentCallbackSimulate => "payment:callback:simulate"
  | .auditReadAny => "audit:read:any"
  | .roleReadAny => "role:read:any"
  | .roleAssignAny => "role:assign:any"
  | .roleWriteAny => "role:write:any"
  | .reviewModerateAny => "review:moderate:any"
  | .reviewReplyAny => "review:reply:any"
  | .reviewAggregateRebuild => "review:aggregate:rebuild:any"

def allPermissions : List Permission :=
  [.userProfileReadSelf, .userProfileUpdateSelf, .userAccountDeleteSelf,
    .userDeviceBlacklistReadSelf, .userDeviceBlacklistWriteSelf, .cartReadSelf, .cartWriteSelf,
    .orderCreateSelf, .orderReadSelf, .orderPaySelf, .orderStatusLogReadSelf,
    .inventoryReadPublic, .reviewCreateSelf, .reviewAppendSelf, .reviewReadPublic,
    .userCreateAny, .userListAny, .userReadAny, .userDisableAny, .goodsReadAny, .goodsWriteAny,
    .inventoryReadAny, .inventoryWriteAny, .inventoryAuditReadAny, .orderReadAny, .orderCloseAny,
    .orderRefundAny, .staffSessionReadAny, .staffSessionRevokeAny, .breakGlassApproveAny,
    .paymentReconcileReadAny, .refundDeadJobRetryAny, .paymentCallbackSimulate, .auditReadAny,
    .roleReadAny, .roleAssignAny, .roleWriteAny, .reviewModerateAny, .reviewReplyAny,
    .reviewAggregateRebuild]

def isValidPermission (value : String) : Bool :=
  allPermissions.any fun permission => permission.text = GoText.trimSpace value

structure RoleDefinition where
  name : StaffRole
  domains : List BusinessDomain
deriving DecidableEq, Repr

def builtinRoleDefinitions : List RoleDefinition :=
  [⟨.support, [.support]⟩, ⟨.ops, [.operations]⟩, ⟨.finance, [.finance]⟩,
    ⟨.catalog, [.catalog]⟩, ⟨.review, [.review]⟩, ⟨.admin, [.platform]⟩,
    ⟨.superAdmin, [.platform]⟩]

def builtinRoleDefinition (roleName : String) : Option RoleDefinition :=
  builtinRoleDefinitions.find? fun definition => definition.name.text = roleName

def isValidStaffRole (role : String) : Bool :=
  (builtinRoleDefinition role).isSome

def domainsFromDefinition (definition : RoleDefinition) : List String :=
  GoText.sortedSet (definition.domains.map (·.text))

/-- The domains of the built-in roles among the names; a custom role has none. -/
def domainsForRoles (roleNames : List String) : List BusinessDomain :=
  (roleNames.flatMap fun roleName =>
    (builtinRoleDefinition roleName).elim [] (·.domains)).dedup.insertionSort
      fun first second => first.text ≤ second.text

def hasRole (roleNames : List String) (required : StaffRole) : Bool :=
  roleNames.any fun roleName => roleName = required.text

def reservedNonStaffRoleNames : List String :=
  ["admin_bootstrap", "basic", "business_admin", "normal_permission", "primary_admin"]

def isReservedNonStaffRoleName (roleName : String) : Bool :=
  reservedNonStaffRoleNames.contains roleName

end Goshop.Authz.Roles
