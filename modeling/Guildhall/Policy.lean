/-
Guildhall/Policy.lean

Who may run which operation.  Every operation has a policy; the decision
looks at the claims of the caller, the subject of the call and the clock,
and never at the storage.  The checks are made in a fixed order: public
operations, the credential, its expiry, the privileged operations, and last
the policy itself.
-/
import Guildhall.Claims
import Guildhall.Stop

namespace Guildhall

/-- Who may run an operation. -/
inductive Policy
  | everyone
  | authenticated
  | selfOrAdmin
  /-- The subject may also be the caller's name or email address. -/
  | selfAliasOrAdmin
  | selfOrAdminOrService
  | privileged
  deriving DecidableEq, Repr

namespace Policy

/-- Every policy. -/
def all : List Policy :=
  [everyone, authenticated, selfOrAdmin, selfAliasOrAdmin, selfOrAdminOrService, privileged]

/-- The word for a policy. -/
def word : Policy → String
  | everyone => "public"
  | authenticated => "authenticated"
  | selfOrAdmin => "self_or_admin"
  | selfAliasOrAdmin => "self_alias_or_admin"
  | selfOrAdminOrService => "self_or_admin_or_service"
  | privileged => "high_privilege"

/-- The name of a policy in messages. -/
def label : Policy → String
  | everyone => "Policy.PUBLIC"
  | authenticated => "Policy.AUTHENTICATED"
  | selfOrAdmin => "Policy.SELF_OR_ADMIN"
  | selfAliasOrAdmin => "Policy.SELF_ALIAS_OR_ADMIN"
  | selfOrAdminOrService => "Policy.SELF_OR_ADMIN_OR_SERVICE"
  | privileged => "Policy.HIGH_PRIVILEGE"

/-- The policy of a word. -/
def ofWord? (w : String) : Option Policy := all.find? (·.word == w)

end Policy

/-! ### Operations -/

/-- The operations of the gateway and their policies. -/
def operationPolicies : List (String × Policy) :=
  [("Users/Create", .everyone), ("Users/Login", .everyone), ("Users/Read", .selfAliasOrAdmin),
    ("Users/Delete", .selfOrAdmin), ("Users/Update", .selfOrAdmin),
    ("Users/List", .authenticated), ("Users/GrantCurrencies", .privileged),
    ("UsersService/GetVersion", .privileged), ("StoreItems/Create", .privileged),
    ("StoreItems/Read", .authenticated), ("StoreItems/Update", .privileged),
    ("StoreItems/Delete", .privileged), ("StoreItems/List", .authenticated),
    ("StoreItems/BuyByUser", .selfOrAdmin), ("StoreItems/EquipByUser", .selfOrAdmin),
    ("StoreItems/ThrowAwayByUser", .privileged),
    ("StoreItems/GetUserItemsIds", .selfOrAdminOrService),
    ("StoreItems/GetEquippedUserItemsIds", .selfOrAdminOrService),
    ("UsersStats/GetStats", .authenticated), ("UsersStats/UpdateStats", .privileged),
    ("NewsService/Create", .privileged), ("NewsService/Read", .authenticated),
    ("NewsService/List", .authenticated), ("NewsService/Update", .privileged)]

/-- The operations that need no credential. -/
def publicOperations : List String := ["Users/Create", "Users/Login"]

/-- The operations that only administrators and services may run. -/
def privilegedOperations : List String :=
  ["Users/GrantCurrencies", "UsersService/GetVersion", "StoreItems/Create", "StoreItems/Update",
    "StoreItems/ThrowAwayByUser", "StoreItems/Delete", "UsersStats/UpdateStats",
    "NewsService/Create", "NewsService/Update"]

/-! ### Decisions -/

namespace Policy

/-- Whether the caller is the subject. -/
def isSelf (c : Claims) (subject : Option String) : Bool :=
  !c.userId.isEmpty && subject == some c.userId

/-- Whether the subject is the caller's name or email address. -/
def isAlias (c : Claims) (subject : Option String) : Bool :=
  match subject with
  | some s => !s.isEmpty && (s == c.username || s == c.userEmail)
  | none => false

/-- Allows on a condition; otherwise denies for a reason. -/
def allowIf (condition : Bool) (denial : Denial) : Except Stop (Option Denial) :=
  .ok (if condition then none else some denial)

/-- What a policy itself says of claims and a subject: nothing if it allows.
Public access is no question for claims, unless they are an
administrator's. -/
def judge (policy : Policy) (c : Claims) (subject : Option String) :
    Except Stop (Option Denial) :=
  match policy with
  | authenticated => .ok none
  | privileged => allowIf c.isPrivileged .privilegeRequired
  | selfOrAdmin => allowIf (c.isAdmin || isSelf c subject) .notSelf
  | selfAliasOrAdmin => allowIf (c.isAdmin || isSelf c subject || isAlias c subject) .notSelf
  | selfOrAdminOrService =>
    allowIf (c.isAdmin || isSelf c subject || c.hasAudience Claims.serviceAudience) .notSelf
  | everyone =>
    if c.isAdmin then .ok none else .error (.badValue ("unknown policy: " ++ everyone.label))

/-- Whether a caller may run an operation on a subject: nothing if allowed. -/
def authorize (policy : Policy) (claims : Option Claims) (subject operation : Option String)
    (now : Instant) : Except Stop (Option Denial) :=
  if policy = everyone || operation.any publicOperations.contains then .ok none
  else
    match claims with
    | none => .ok (some .invalidCredential)
    | some c =>
      if c.isExpired now then .ok (some .tokenExpired)
      else if operation.any privilegedOperations.contains && !c.isPrivileged then
        .ok (some .privilegeRequired)
      else policy.judge c subject

/-- Stops unless a caller may run an operation on a subject. -/
def enforce (policy : Policy) (claims : Option Claims) (subject operation : Option String)
    (now : Instant) : Except Stop Unit := do
  match ← policy.authorize claims subject operation now with
  | none => return ()
  | some denial => fail (.unauthenticated denial)

end Policy

end Guildhall
