import FastapiTemplate.Billing.Dunning

/-!
# Invoices: state machine, issue, payment, voiding

The state machine of invoices, `issue`, `mark_paid` and `void` of `billing.services.invoicing`, and the
endpoints that call them.
-/

namespace FastapiTemplate.Billing

open Core Database Python Effects Script

variable {S : Schema}

/-! ### Permissions -/

/-- `has_permission` -/
def hasPermission (user : User) (required : List String) : Bool :=
  if user.isSuperuser then true
  else if user.roles.isEmpty then false
  else required.all fun p => user.permissions.contains p

/-- The caller of an endpoint: the user and, if it came with an API key, the scopes of the key. -/
structure Caller where
  user : User
  apiKeyScopes : Option (List String) := none

/-- `PermissionChecker(required)` -/
def permissionChecker (required : List String) (caller : Caller) : Except Exn Unit :=
  if !hasPermission caller.user required then .error (.http 403 "Not enough permissions")
  else match caller.apiKeyScopes with
    | some scopes =>
      if required.all fun p => scopes.contains p then .ok ()
      else .error (.http 403 "API key does not have the required scopes")
    | none => .ok ()

/-! ### The service -/

/-- `ALLOWED_TRANSITIONS` of invoices -/
def allowedInvoiceTransitions : InvoiceStatus → List InvoiceStatus
  | .draft => [.open, .void]
  | .open => [.paid, .void]
  | .paid => []
  | .void => []

def assertInvoiceTransition (current target : InvoiceStatus) : Except Exn Unit :=
  if target ∈ allowedInvoiceTransitions current then .ok ()
  else .error (.illegalInvoiceTransition current target)

/-- `crud_invoice.get` -/
def getInvoice (id : ℤ) : Py S (Option Invoice) := do
  let rows ← select (fun d => d.invoices.rows) Invoice.tenantId fun i => i.id == id
  ofExcept (scalarOneOrNone rows)

/-- `db.get(Subscription, id)` -/
def getSubscription (id : ℤ) : Py S (Option Subscription) := do
  let rows ← select (fun d => d.subscriptions.rows) Subscription.tenantId fun s => s.id == id
  ofExcept (scalarOneOrNone rows)

def refreshInvoice (id : ℤ) : Py S Invoice :=
  refresh (fun d => d.invoices.rows) Invoice.tenantId fun i => i.id == id

def invoiceEvent (eventSuffix : String) (inv : Invoice) (userId : Option ℤ) : Event where
  eventType := "billing.invoice." ++ eventSuffix
  payload := .dict [
    ("invoice_id", .int inv.id),
    ("tenant_id", optInt inv.tenantId),
    ("subscription_id", .int inv.subscriptionId),
    ("status", .str inv.status.value),
    ("total_cents", .int inv.totalCents),
    ("currency", .str inv.currency),
    ("period_start", .str (isoformat inv.periodStart)),
    ("period_end", .str (isoformat inv.periodEnd))]
  userId := userId

/-- open -> paid. A subscription in dunning is recovered in the same transaction. The column
`subscription_id` is never null, so its test is left out. -/
def markPaid (invoiceId : ℤ) (bus : Option EventBus := none) : Py S Invoice := do
  match ← getInvoice invoiceId with
  | none => throw (.notFound "Invoice not found")
  | some inv =>
    ofExcept (assertInvoiceTransition inv.status .paid)
    let now ← datetimeNow
    add (.updateInvoice inv { inv with status := .paid, paidAt := some now })
    match ← getSubscription inv.subscriptionId with
    | some sub =>
      if isDunning sub && sub.status == .pastDue then
        let _sub ← recoverSubscription bus (.of sub)
    | none => pure ()
    let _keys ← commit
    refreshInvoice inv.id

/-- draft -> open. A query gives the object the session still holds, if it holds one; only the sweep
holds the invoice it issues. -/
def issue (invoiceId : ℤ) (held : Option Invoice := none) : Py S Invoice := do
  match ← getInvoice invoiceId with
  | none => throw (.notFound "Invoice not found")
  | some row =>
    let inv := held.getD row
    ofExcept (assertInvoiceTransition inv.status .open)
    let now ← datetimeNow
    add (.updateInvoice inv { inv with status := .open, issuedAt := some now })
    let _keys ← commit
    refreshInvoice inv.id

/-- draft or open -> void; the period is free again. -/
def void (invoiceId : ℤ) : Py S Invoice := do
  match ← getInvoice invoiceId with
  | none => throw (.notFound "Invoice not found")
  | some inv =>
    ofExcept (assertInvoiceTransition inv.status .void)
    add (.updateInvoice inv { inv with status := .void })
    let _keys ← commit
    refreshInvoice inv.id

/-! ### The endpoints -/

/-- `_ensure_tenant_invoice` -/
def ensureTenantInvoice (invoiceId : ℤ) (user : User) : Py S Unit := do
  match user.tenantId with
  | none => throw (.notFound "Invoice not found")
  | some tenantId =>
    let rows ← select (fun d => d.invoices.rows) Invoice.tenantId
      fun i => i.id == invoiceId && i.tenantId == some tenantId
    match ← ofExcept (scalarOneOrNone rows) with
    | none => throw (.notFound "Invoice not found")
    | some _ => return ()

/-- `pay_invoice`: manual payment capture. -/
def payInvoice (caller : Caller) (invoiceId : ℤ) (bus : EventBus) : Py S Invoice := do
  ofExcept (permissionChecker ["billing:write"] caller)
  ensureTenantInvoice invoiceId caller.user
  let inv ← markPaid invoiceId
  bus.publish (invoiceEvent "paid" inv (some caller.user.id))
  return inv

/-- `issue_invoice` -/
def issueInvoice (caller : Caller) (invoiceId : ℤ) (bus : EventBus) : Py S Invoice := do
  ofExcept (permissionChecker ["billing:write"] caller)
  ensureTenantInvoice invoiceId caller.user
  let inv ← issue invoiceId
  bus.publish (invoiceEvent "issued" inv (some caller.user.id))
  return inv

/-- `void_invoice` -/
def voidInvoice (caller : Caller) (invoiceId : ℤ) (bus : EventBus) : Py S Invoice := do
  ofExcept (permissionChecker ["billing:write"] caller)
  ensureTenantInvoice invoiceId caller.user
  let inv ← void invoiceId
  bus.publish (invoiceEvent "voided" inv (some caller.user.id))
  return inv

end FastapiTemplate.Billing
