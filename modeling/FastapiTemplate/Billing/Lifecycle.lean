import FastapiTemplate.Core.Runtime

/-!
# The subscription lifecycle

The pure domain logic of `billing.services.billing`: the state machine of subscriptions, the billing
periods, proration, and the events of the lifecycle.

Fractions of a period are rationals here; the source computes them as floats.
-/

namespace FastapiTemplate.Billing

open Core Database Python

/-! ### The state machine -/

/-- `ALLOWED_TRANSITIONS` -/
def allowedTransitions : SubscriptionStatus → List SubscriptionStatus
  | .trialing => [.active, .pastDue, .canceled]
  | .active => [.pastDue, .canceled]
  | .pastDue => [.active, .canceled, .suspended]
  | .canceled => []
  | .suspended => []

def assertTransition (current target : SubscriptionStatus) : Except Exn Unit :=
  if target ∈ allowedTransitions current then .ok ()
  else .error (.illegalTransition current target)

/-! ### Periods -/

/-- `INTERVAL_DELTA` -/
def intervalDelta : PlanInterval → Timedelta
  | .monthly => days 30
  | .yearly => days 365

def nextPeriodEnd (plan : Plan) (start : Datetime) : Datetime := start + intervalDelta plan.interval

/-- The fraction of the period still unelapsed at `now`, clamped to `[0, 1]`. -/
def fractionRemaining (periodStart periodEnd now : Datetime) : ℚ :=
  let total := periodEnd - periodStart
  if total ≤ 0 then 0 else max 0 (min 1 ((periodEnd - now : ℤ) / (total : ℚ)))

/-! ### Proration -/

structure PlanChangePreview where
  creditCents : ℤ
  chargeCents : ℤ
  netCents : ℤ
  deriving DecidableEq

/-- `PlanChangeDecision`; `effective` is `"immediate"` exactly when there is a preview. -/
inductive PlanChangeDecision where
  | immediate (preview : PlanChangePreview)
  | scheduled (pendingPlanId : ℤ)

def computeUnusedCredit (plan : Plan) (sub : Subscription) (now : Datetime) : ℤ :=
  roundHalfEven (plan.priceCents * fractionRemaining sub.currentPeriodStart sub.currentPeriodEnd now)

def computeProratedCharge (plan : Plan) (start stop now : Datetime) : ℤ :=
  roundHalfEven (plan.priceCents * fractionRemaining start stop now)

/-- An upgrade is immediate, a downgrade or a plan of equal price waits for the end of the period. -/
def decidePlanChange (currentPlan newPlan : Plan) (sub : Subscription) (now : Datetime) :
    Except Exn PlanChangeDecision :=
  if newPlan.currency ≠ currentPlan.currency then
    .error (.valueError "cannot change plans across currencies")
  else if newPlan.priceCents > currentPlan.priceCents then
    let credit := computeUnusedCredit currentPlan sub now
    let charge := computeProratedCharge newPlan sub.currentPeriodStart sub.currentPeriodEnd now
    .ok (.immediate ⟨credit, charge, charge - credit⟩)
  else .ok (.scheduled newPlan.id)

/-! ### Events -/

/-- An optional integer in a payload. -/
def optInt : Option ℤ → Value
  | some n => .int n
  | none => .none

/-- `subscription_event` -/
def subscriptionEvent (eventSuffix : String) (sub : Subscription) (userId : Option ℤ) : Event where
  eventType := "billing.subscription." ++ eventSuffix
  payload := .dict [
    ("subscription_id", .int sub.id),
    ("tenant_id", optInt sub.tenantId),
    ("plan_id", .int sub.planId),
    ("status", .str sub.status.value),
    ("cancel_at_period_end", .bool sub.cancelAtPeriodEnd),
    ("pending_plan_id", optInt sub.pendingPlanId),
    ("current_period_end", .str (isoformat sub.currentPeriodEnd))]
  userId := userId

/-! ### Facts about the state machine -/

theorem assertTransition_ok {s t : SubscriptionStatus} {u : Unit}
    (h : assertTransition s t = .ok u) : t ∈ allowedTransitions s := by
  unfold assertTransition at h
  split at h
  · assumption
  · cases h

/-- The two terminal statuses are the ones with no way out. -/
theorem allowedTransitions_eq_nil {s : SubscriptionStatus} :
    allowedTransitions s = [] ↔ s = .canceled ∨ s = .suspended := by
  cases s <;> simp [allowedTransitions]

/-- Nothing may enter `trialing`. -/
theorem trialing_not_mem_allowedTransitions (s : SubscriptionStatus) :
    .trialing ∉ allowedTransitions s := by
  cases s <;> simp [allowedTransitions]

end FastapiTemplate.Billing
