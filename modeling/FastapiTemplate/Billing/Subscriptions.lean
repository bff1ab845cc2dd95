import FastapiTemplate.Billing.Invoicing
import FastapiTemplate.Billing.StripeEvents

/-!
# Subscription endpoints

The tenant's own lifecycle endpoints and the two admin actions on a subscription.
-/

namespace FastapiTemplate.Billing

open Core Database Python Effects Script

variable {S : Schema}

/-! ### Authentication -/

/-- `get_current_user`, the token having been checked: the users are selected in the tenant context of
the request, as everything else is. -/
def getCurrentUser (userId : ℤ) : Py S User := do
  let rows ← select (fun d => d.users.rows) User.tenantId fun u => u.id == userId
  match ← ofExcept (scalarOneOrNone rows) with
  | none => throw (.http 404 "User not found")
  | some user => if !user.isActive then throw (.http 400 "Inactive user") else return user

/-- The answer of the lifecycle endpoints. -/
structure SubscriptionActionResponse where
  subscription : Subscription
  preview : Option PlanChangePreview := none
  appliedPlanId : Option ℤ := none

def requireLiveSubscription (tenantId : Option ℤ) : Py S Subscription := do
  match ← getLiveForTenant tenantId with
  | some sub => return sub
  | none => throw (.notFound "No active subscription found")

def requireTenant (user : User) : Except Exn (Option ℤ) :=
  if user.tenantId = none ∧ !user.isSuperuser then
    .error (.badRequest "Billing requires a tenant membership")
  else .ok user.tenantId

lemma requireTenant_ok {user : User} {tenantId : Option ℤ} (h : requireTenant user = .ok tenantId) :
    tenantId = user.tenantId := by
  unfold requireTenant at h
  split at h
  · cases h
  · exact (Except.ok.inj h).symm

def requireActivePlan (planId : ℤ) : Py S Plan := do
  match ← getPlan planId with
  | some plan => if plan.isActive then return plan else throw (.badRequest "Plan is not available")
  | none => throw (.badRequest "Plan is not available")

/-! ### The tenant's endpoints -/

def subscribe (user : User) (planId : ℤ) (bus : EventBus) : Py S SubscriptionActionResponse := do
  let tenantId ← ofExcept (requireTenant user)
  let planObj ← requireActivePlan planId
  match ← getLiveForTenant tenantId with
  | some _ => throw (.conflict "Tenant already has an active subscription")
  | none =>
    let now ← datetimeNow
    let trialEnd := if planObj.trialDays > 0 then some (now + days planObj.trialDays) else none
    add (.insertSubscription
      { tenantId := tenantId, planId := planObj.id,
        status := if trialEnd = none then .active else .trialing,
        currentPeriodStart := now, currentPeriodEnd := nextPeriodEnd planObj now,
        trialEnd := trialEnd })
    let keys ← commit
    let sub ← refreshSubscription (keys.headD 0)
    bus.publish
      (subscriptionEvent (if trialEnd = none then "started" else "trial_started") sub (some user.id))
    return { subscription := sub }

def changePlan (user : User) (planId : ℤ) (bus : EventBus) : Py S SubscriptionActionResponse := do
  let sub ← requireLiveSubscription user.tenantId
  let newPlan ← requireActivePlan planId
  match ← getPlan sub.planId with
  | none => throw (.notFound "Current plan no longer exists")
  | some currentPlan =>
    if newPlan.id = currentPlan.id then
      throw (.badRequest "Subscription is already on this plan")
    else
      let asked ← datetimeNow
      match decidePlanChange currentPlan newPlan sub asked with
      | .error e => throw (.badRequest e.str)
      | .ok decision =>
        let now ← datetimeNow
        match decision with
        | .immediate preview =>
          add (.updateSubscription sub
            { sub with
              planId := newPlan.id, pendingPlanId := none, currentPeriodStart := now,
              currentPeriodEnd := nextPeriodEnd newPlan now })
          let _keys ← commit
          let sub ← refreshSubscription sub.id
          bus.publish (subscriptionEvent "plan_changed" sub (some user.id))
          return { subscription := sub, preview := some preview }
        | .scheduled _ =>
          add (.updateSubscription sub { sub with pendingPlanId := some newPlan.id })
          let _keys ← commit
          let sub ← refreshSubscription sub.id
          bus.publish (subscriptionEvent "plan_changed" sub (some user.id))
          return { subscription := sub, appliedPlanId := some newPlan.id }

def cancelSubscription (user : User) (immediate : Bool) (bus : EventBus) :
    Py S SubscriptionActionResponse := do
  let sub ← requireLiveSubscription user.tenantId
  if immediate then
    match assertTransition sub.status .canceled with
    | .error e => throw (.conflict e.str)
    | .ok () =>
      let now ← datetimeNow
      add (.updateSubscription sub
        { sub with
          status := .canceled, canceledAt := some now, cancelAtPeriodEnd := false,
          pendingPlanId := none })
      let _keys ← commit
      let sub ← refreshSubscription sub.id
      bus.publish (subscriptionEvent "canceled" sub (some user.id))
      return { subscription := sub }
  else if sub.status = .trialing then
    throw (.badRequest "Trials must be canceled immediately")
  else
    add (.updateSubscription sub { sub with cancelAtPeriodEnd := true })
    let _keys ← commit
    let sub ← refreshSubscription sub.id
    bus.publish (subscriptionEvent "cancel_scheduled" sub (some user.id))
    return { subscription := sub }

def resumeSubscription (user : User) (bus : EventBus) : Py S SubscriptionActionResponse := do
  let sub ← requireLiveSubscription user.tenantId
  if !sub.cancelAtPeriodEnd then
    throw (.badRequest "Subscription is not scheduled for cancellation")
  else
    add (.updateSubscription sub { sub with cancelAtPeriodEnd := false })
    let _keys ← commit
    let sub ← refreshSubscription sub.id
    bus.publish (subscriptionEvent "resumed" sub (some user.id))
    return { subscription := sub }

/-! ### The admin actions -/

/-- `require_admin` and `_require_billing_action`, for the actions that subscriptions declare. -/
def requireAdminAction (user : User) : Except Exn Unit :=
  if !user.isSuperuser && !user.roles.contains "admin" then
    .error (.http 403 "Admin access required")
  else if !hasPermission user ["subscription:admin"] then .error (.http 403 "Forbidden")
  else .ok ()

/-- `override-plan`; `planId` is the form field as text. -/
def adminSubscriptionOverridePlan (user : User) (id : ℤ) (planId : String) (bus : EventBus) :
    Py S Unit := do
  ofExcept (requireAdminAction user)
  match ← getSubscription id with
  | none => throw (.http 404 "Subscription not found")
  | some sub =>
    let newPlanId ← ofExcept (liftBuiltin (pyInt planId))
    match ← getPlan newPlanId with
    | none => throw (.http 404 "Plan not found or inactive")
    | some newPlan =>
      if !newPlan.isActive then throw (.http 404 "Plan not found or inactive")
      else
        let now ← datetimeNow
        let cur : Subscription :=
          { sub with
            planId := newPlan.id, pendingPlanId := none, currentPeriodStart := now,
            currentPeriodEnd := nextPeriodEnd newPlan now }
        add (.updateSubscription sub cur)
        let _keys ← commit
        bus.publish (subscriptionEvent "plan_changed" cur (some user.id))

/-- The row after `set-status`, the transition having been checked. -/
def setStatus (now : Datetime) (target : SubscriptionStatus) (sub : Subscription) : Subscription :=
  match target with
  | .canceled =>
    { sub with
      status := .canceled, canceledAt := some now, cancelAtPeriodEnd := false, pendingPlanId := none }
  | .suspended => { sub with status := .suspended, suspendedAt := some now, nextRetryAt := none }
  | .active =>
    if sub.status = .pastDue then { (resetDunning sub).2 with status := .active }
    else { sub with status := .active }
  | target => { sub with status := target }

/-- `set-status`; `rawStatus` is the form field as text. -/
def adminSubscriptionSetStatus (user : User) (id : ℤ) (rawStatus : String) (bus : EventBus) :
    Py S Unit := do
  ofExcept (requireAdminAction user)
  match ← getSubscription id with
  | none => throw (.http 404 "Subscription not found")
  | some sub =>
    match SubscriptionStatus.ofValue? rawStatus with
    | none => throw (.http 400 ("Unknown status " ++ quoted rawStatus))
    | some target =>
      match assertTransition sub.status target with
      | .error _ =>
        let allowed := (allowedTransitions sub.status).map SubscriptionStatus.value
        throw (.http 400
          ("Allowed: " ++ ", ".intercalate (allowed.mergeSort fun a b => decide (a ≤ b))))
      | .ok () =>
        let now ← datetimeNow
        let cur := setStatus now target sub
        add (.updateSubscription sub cur)
        let _keys ← commit
        bus.publish (subscriptionEvent "status_changed" cur (some user.id))

end FastapiTemplate.Billing
