import FastapiTemplate.Python.Time
import FastapiTemplate.Store.Table

/-!
# The rows of the billing tables

Subscriptions, plans, invoices with their lines, users and the ledger of Stripe events, each with the
columns that the modelled functions read or write. `updated_at` is left out, and `created_at` of every
table but the invoices, which take their number from it.
-/

namespace FastapiTemplate.Database

open Python Store

/-! ### Enumerations -/

inductive SubscriptionStatus where
  | trialing
  | active
  | pastDue
  | canceled
  | suspended
  deriving DecidableEq, Repr

namespace SubscriptionStatus

/-- The members in the order of the class. -/
def members : List SubscriptionStatus := [trialing, active, pastDue, canceled, suspended]

/-- The stored value, which is also what `str` gives. -/
def value : SubscriptionStatus → String
  | trialing => "trialing"
  | active => "active"
  | pastDue => "past_due"
  | canceled => "canceled"
  | suspended => "suspended"

/-- `SubscriptionStatus(raw)`; `none` is the `ValueError`. -/
def ofValue? (raw : String) : Option SubscriptionStatus := members.find? fun s => s.value == raw

/-- `LIVE_STATUSES` -/
def isLive : SubscriptionStatus → Bool
  | trialing | active | pastDue => true
  | canceled | suspended => false

end SubscriptionStatus

inductive PlanInterval where
  | monthly
  | yearly
  deriving DecidableEq, Repr

inductive InvoiceStatus where
  | draft
  | open
  | paid
  | void
  deriving DecidableEq, Repr

def InvoiceStatus.value : InvoiceStatus → String
  | draft => "draft"
  | .open => "open"
  | paid => "paid"
  | void => "void"

/-! ### Rows -/

/-- A plan; `metering` is the JSON of that column. -/
structure Plan where
  id : ℤ
  name : String := ""
  priceCents : ℤ
  currency : String
  interval : PlanInterval
  trialDays : ℤ
  isActive : Bool
  metering : Value := .none

/-- A user, with the names of its roles and of the permissions of all its roles. -/
structure User where
  id : ℤ
  tenantId : Option ℤ
  isActive : Bool
  isSuperuser : Bool
  roles : List String
  permissions : List String
  deriving DecidableEq

structure Subscription where
  id : ℤ := 0
  tenantId : Option ℤ
  planId : ℤ
  status : SubscriptionStatus
  currentPeriodStart : Datetime
  currentPeriodEnd : Datetime
  trialEnd : Option Datetime := none
  cancelAtPeriodEnd : Bool := false
  pendingPlanId : Option ℤ := none
  canceledAt : Option Datetime := none
  stripeSubscriptionId : Option String := none
  failedPaymentCount : ℤ := 0
  lastPaymentFailureAt : Option Datetime := none
  nextRetryAt : Option Datetime := none
  suspendedAt : Option Datetime := none
  deriving DecidableEq

/-- A billed line; its amounts are in minor units, its tax rate in basis points. -/
structure InvoiceLine where
  description : String
  quantity : ℤ
  unitAmountCents : ℤ
  taxRateBps : ℤ
  amountCents : ℤ
  deriving DecidableEq

/-- An invoice with its lines, which no modelled function changes after the invoice is made. -/
structure Invoice where
  id : ℤ := 0
  createdAt : Datetime := 0
  tenantId : Option ℤ
  subscriptionId : ℤ
  status : InvoiceStatus
  currency : String
  subtotalCents : ℤ := 0
  taxCents : ℤ := 0
  totalCents : ℤ
  periodStart : Datetime
  periodEnd : Datetime
  issuedAt : Option Datetime := none
  paidAt : Option Datetime := none
  lines : List InvoiceLine := []
  deriving DecidableEq

structure StripeEvent where
  id : ℤ := 0
  eventId : String
  eventType : String
  processedAt : Option Datetime := none
  deriving DecidableEq

def Subscription.isLive (s : Subscription) : Bool := s.status.isLive

instance : Keyed Plan := ⟨Plan.id, fun k r => { r with id := k }, fun _ _ => rfl⟩
instance : Keyed User := ⟨User.id, fun k r => { r with id := k }, fun _ _ => rfl⟩
instance : Keyed Subscription := ⟨Subscription.id, fun k r => { r with id := k }, fun _ _ => rfl⟩
instance : Keyed Invoice := ⟨Invoice.id, fun k r => { r with id := k }, fun _ _ => rfl⟩
instance : Keyed StripeEvent := ⟨StripeEvent.id, fun k r => { r with id := k }, fun _ _ => rfl⟩

@[simp] lemma key_subscription (s : Subscription) : Keyed.key s = s.id := rfl
@[simp] lemma key_invoice (i : Invoice) : Keyed.key i = i.id := rfl
@[simp] lemma key_stripeEvent (e : StripeEvent) : Keyed.key e = e.id := rfl

/-! ### Write-backs

The row stored after an `UPDATE` of the columns that differ between the image loaded and the image in
the session, over the row that is stored by then. -/

def Subscription.writeBack (loaded cur stored : Subscription) : Subscription where
  id := stored.id
  tenantId := column loaded.tenantId cur.tenantId stored.tenantId
  planId := column loaded.planId cur.planId stored.planId
  status := column loaded.status cur.status stored.status
  currentPeriodStart :=
    column loaded.currentPeriodStart cur.currentPeriodStart stored.currentPeriodStart
  currentPeriodEnd := column loaded.currentPeriodEnd cur.currentPeriodEnd stored.currentPeriodEnd
  trialEnd := column loaded.trialEnd cur.trialEnd stored.trialEnd
  cancelAtPeriodEnd :=
    column loaded.cancelAtPeriodEnd cur.cancelAtPeriodEnd stored.cancelAtPeriodEnd
  pendingPlanId := column loaded.pendingPlanId cur.pendingPlanId stored.pendingPlanId
  canceledAt := column loaded.canceledAt cur.canceledAt stored.canceledAt
  stripeSubscriptionId :=
    column loaded.stripeSubscriptionId cur.stripeSubscriptionId stored.stripeSubscriptionId
  failedPaymentCount :=
    column loaded.failedPaymentCount cur.failedPaymentCount stored.failedPaymentCount
  lastPaymentFailureAt :=
    column loaded.lastPaymentFailureAt cur.lastPaymentFailureAt stored.lastPaymentFailureAt
  nextRetryAt := column loaded.nextRetryAt cur.nextRetryAt stored.nextRetryAt
  suspendedAt := column loaded.suspendedAt cur.suspendedAt stored.suspendedAt

def Invoice.writeBack (loaded cur stored : Invoice) : Invoice where
  id := stored.id
  createdAt := column loaded.createdAt cur.createdAt stored.createdAt
  tenantId := column loaded.tenantId cur.tenantId stored.tenantId
  subscriptionId := column loaded.subscriptionId cur.subscriptionId stored.subscriptionId
  status := column loaded.status cur.status stored.status
  currency := column loaded.currency cur.currency stored.currency
  subtotalCents := column loaded.subtotalCents cur.subtotalCents stored.subtotalCents
  taxCents := column loaded.taxCents cur.taxCents stored.taxCents
  totalCents := column loaded.totalCents cur.totalCents stored.totalCents
  periodStart := column loaded.periodStart cur.periodStart stored.periodStart
  periodEnd := column loaded.periodEnd cur.periodEnd stored.periodEnd
  issuedAt := column loaded.issuedAt cur.issuedAt stored.issuedAt
  paidAt := column loaded.paidAt cur.paidAt stored.paidAt
  lines := column loaded.lines cur.lines stored.lines

def StripeEvent.writeBack (loaded cur stored : StripeEvent) : StripeEvent where
  id := stored.id
  eventId := column loaded.eventId cur.eventId stored.eventId
  eventType := column loaded.eventType cur.eventType stored.eventType
  processedAt := column loaded.processedAt cur.processedAt stored.processedAt

/-- Writing back over the very row that was loaded stores the session's image. -/
theorem Subscription.writeBack_loaded {loaded cur : Subscription} (h : cur.id = loaded.id) :
    writeBack loaded cur loaded = cur := by
  cases cur
  simp_all [writeBack]

theorem Invoice.writeBack_loaded {loaded cur : Invoice} (h : cur.id = loaded.id) :
    writeBack loaded cur loaded = cur := by
  cases cur
  simp_all [writeBack]

theorem SubscriptionStatus.ofValue?_value (s : SubscriptionStatus) : ofValue? s.value = some s := by
  cases s <;> decide

end FastapiTemplate.Database
