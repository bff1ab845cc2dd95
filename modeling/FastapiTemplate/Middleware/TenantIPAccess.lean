import FastapiTemplate.Middleware.Stack
import FastapiTemplate.Python.IpAddress
import Mathlib.Data.List.Sort

/-!
# Tenants and their address rules

`TenantMiddleware`, which puts the tenant of a request into the context, and `TenantIPAccessMiddleware`, which looks up
the rules of the tenant in the context.
-/

namespace FastapiTemplate.Middleware

open Python

inductive Environment where
  | development
  | staging
  | production
  | test
  deriving DecidableEq, Repr

/-- The names of the headers are in lower case; `form` is what `request.form()` returns, with `none` for a file, or
raises. -/
structure Request where
  method : String
  path : String
  headers : List (String × String)
  client : Option String := none
  cookies : List (String × String) := []
  form : Option (List (String × Option String)) := some []

/-- `request.headers.get(name)` -/
def Request.header (request : Request) (name : String) : Option String := request.headers.lookup name.toLower

structure Response where
  status : ℕ
  body : String
  headers : List (String × String) := []

/-! ### The tenant -/

/-- `c.isdigit()`, for the characters of a header. -/
def isdigit (c : Char) : Bool := c.isDigit || [0xb2, 0xb3, 0xb9].contains c.toNat

/-- The `X-Tenant-ID`, if it is one; `int` reads no more than 4300 digits, and no superscripts. -/
def headerTenant (request : Request) : Except BuiltinError (Option ℤ) :=
  match request.header "X-Tenant-ID" with
  | none => .ok none
  | some text =>
    if text != "" && text.toList.all isdigit then
      if text.length ≤ 4300 then some <$> pyInt text else .error .valueError
    else .ok none

/-- `TenantMiddleware.dispatch`, with the cached default. -/
def tenantMiddleware (defaultTenantId : Option ℤ) : Layer (Option ℤ) Request Response where
  enter _ request :=
    match headerTenant request with
    | .error _ => .raise
    | .ok (some tenantId) => .pass (some tenantId)
    | .ok none => .pass defaultTenantId

/-! ### The rules -/

inductive Action where
  | allow
  | deny
  deriving DecidableEq, Repr

structure TenantIPRule where
  tenantId : ℤ
  ipOrCidr : String
  action : Action
  priority : ℤ

/-- `_parse_forwarded_for` -/
def parseForwardedFor (request : Request) : Option String :=
  match request.header "X-Forwarded-For" with
  | some forwarded => if forwarded = "" then request.client else ((split ',' forwarded).head?).map strip
  | none => request.client

/-- `_ip_matches_rule` -/
def ipMatchesRule (clientIp : String) (rule : TenantIPRule) : Bool :=
  if rule.ipOrCidr.toList.contains '/' then
    match ipAddress clientIp, ipNetwork rule.ipOrCidr with
    | some address, some network => network.contains address
    | _, _ => false
  else
    match ipAddress clientIp, ipAddress rule.ipOrCidr with
    | some address, some address' => address == address'
    | _, _ => false

/-- The rules of a tenant, the highest priority first. -/
def rulesOf (rules : List TenantIPRule) (tenantId : ℤ) : List TenantIPRule :=
  (rules.filter fun rule => rule.tenantId = tenantId).mergeSort fun r r' => decide (r'.priority ≤ r.priority)

/-- A rule with this action matches. -/
def matched (action : Action) (clientIp : String) (rules : List TenantIPRule) : Bool :=
  (rules.filter fun rule => rule.action = action).any (ipMatchesRule clientIp)

def accessDenied : Response where
  status := 403
  body := "Access denied by IP rule"

/-- `TenantIPAccessMiddleware.dispatch` -/
def tenantIPAccessMiddleware (environment : Environment) (rules : List TenantIPRule) :
    Layer (Option ℤ) Request Response where
  enter currentTenant request :=
    if environment = .test then .pass currentTenant
    else
      match currentTenant, parseForwardedFor request with
      | some tenantId, some clientIp =>
        if clientIp = "" then .pass currentTenant
        else if rulesOf rules tenantId = [] then .pass currentTenant
        else if matched .deny clientIp (rulesOf rules tenantId) then .answer accessDenied
        else if !matched .allow clientIp (rulesOf rules tenantId) then .answer accessDenied
        else .pass currentTenant
      | _, _ => .pass currentTenant

/-- The request names a tenant, its client has an address, and the rules of the tenant deny it. -/
def Denied (rules : List TenantIPRule) (tenantId : ℤ) (request : Request) : Prop :=
  headerTenant request = .ok (some tenantId) ∧ ∃ clientIp, parseForwardedFor request = some clientIp ∧ clientIp ≠ "" ∧
    rulesOf rules tenantId ≠ [] ∧ (matched .deny clientIp (rulesOf rules tenantId) = true ∨
      matched .allow clientIp (rulesOf rules tenantId) = false)

variable {environment : Environment} {rules : List TenantIPRule} {tenantId : ℤ} {request : Request}

/-- **The rules are enforced for the tenant in the context.** -/
theorem answer_of_denied (henvironment : environment ≠ .test) (h : Denied rules tenantId request) :
    (tenantIPAccessMiddleware environment rules).enter (some tenantId) request = .answer accessDenied := by
  obtain ⟨-, clientIp, hip, hknown, hrules, hdenied⟩ := h
  unfold tenantIPAccessMiddleware
  dsimp only
  rw [if_neg henvironment, hip]
  dsimp only
  rw [if_neg hknown, if_neg hrules]
  rcases hdenied with hdeny | hallow
  · rw [if_pos hdeny]
  · split
    · rfl
    · rw [hallow]
      rfl

/-- Without a tenant in the context, every request is passed on. -/
lemma pass_of_none : (tenantIPAccessMiddleware environment rules).enter none request = .pass none := by
  unfold tenantIPAccessMiddleware
  dsimp only
  split <;> rfl

end FastapiTemplate.Middleware
