import FastapiTemplate.Billing.StripeEvents
import FastapiTemplate.Billing.Usage

/-!
# Quota enforcement

`billing.api.deps`: the entitlements of a tenant, remembered for a minute by each worker process, and
the dependency that counts a request and refuses it when the allowance is spent.
-/

namespace FastapiTemplate.Billing

open Core Database Python Effects Script

variable {S : Schema}

/-- `ENTITLEMENTS_TTL_SECONDS` -/
def entitlementsTtlSeconds : ℤ := 60

/-- The remembered entitlements, if they are fresh. -/
def recallFresh (worker : ℕ) (tenantId : ℤ) : Py S (Option Entitlements) := do
  let cached : Option Entitlements ← perform (Eff.recollect worker tenantId)
  match cached with
  | none => return none
  | some e => return if e.fresh (← datetimeNow) then some e else none

/-- The tenant's live subscription, the latest, with its plan. -/
def liveWithPlan (tenantId : ℤ) : Py S (Option (Subscription × Option Plan)) := do
  match ← getLiveForTenant (some tenantId) with
  | none => return none
  | some sub => do
    let plans ← execute fun d => d.plans.rows.filter fun p => p.id == sub.planId
    return some (sub, plans.head?)

/-- Remembers entitlements for a minute. -/
def rememberFor (worker : ℕ) (tenantId : ℤ) (config : List (String × DimensionConfig))
    (periodStart periodEnd : Option Datetime) : Py S Entitlements := do
  let now ← datetimeNow
  let ent : Entitlements := ⟨config, periodStart, periodEnd, now + entitlementsTtlSeconds * second⟩
  let () ← perform (Eff.remember worker tenantId ent)
  return ent

/-- The metering of a tenant's live subscription; that there is none is remembered too. -/
def resolveEntitlements (worker : ℕ) (tenantId : ℤ) : Py S (Option Entitlements) := do
  match ← recallFresh worker tenantId with
  | some ent => return if ent.periodStart.isSome then some ent else none
  | none =>
    match ← liveWithPlan tenantId with
    | none =>
      let _sentinel ← rememberFor worker tenantId [] none none
      return none
    | some (sub, plan) =>
      let config ← ofExcept (liftBuiltin (extractMetering (plan.elim .none Plan.metering)))
      let ent ← rememberFor worker tenantId config (some sub.currentPeriodStart)
        (some sub.currentPeriodEnd)
      return some ent

/-- The body of the `try`: counts the request and says whether it is over the quota. -/
def countRequest (worker : ℕ) (tenantId : ℤ) : Py S Bool := do
  match ← resolveEntitlements worker tenantId with
  | none => return false
  | some ent =>
    match ent.config.lookup defaultDimension, ent.periodStart, ent.periodEnd with
    | some cfg, some periodStart, some periodEnd =>
      match ← increment tenantId defaultDimension periodStart periodEnd with
      | some used => return decide (used > cfg.includedQuantity)
      | none => return false
    | _, _, _ => return false

/-- Counts one API request of the caller in a worker process, and refuses it when the allowance is
spent. -/
def enforceApiQuota (billingQuotaEnabled : Bool) (worker : ℕ) (currentUser : Option User) :
    Py S Unit :=
  if !billingQuotaEnabled then return ()
  else match currentUser.bind User.tenantId with
    | none => return ()
    | some tenantId => do
      let overQuota ← tryCatch (countRequest worker tenantId) fun _ => pure false
      if overQuota then throw (.rateLimit "Plan quota exceeded for this billing period")

end FastapiTemplate.Billing
