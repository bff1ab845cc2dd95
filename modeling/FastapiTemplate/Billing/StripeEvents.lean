import FastapiTemplate.Billing.Dunning

/-!
# Inbound Stripe events

`billing.services.stripe_events`: the ledger of event ids, the reading of Stripe's objects, the three
domain handlers and the dispatch. A Stripe object is any JSON value.

Where a function reads the clock only on some paths, it is read here at the start.
-/

namespace FastapiTemplate.Billing

open Core Database Python Effects Script

variable {S : Schema}

/-! ### The ledger -/

/-- `select(StripeEvent).where(event_id == ...)`, with `scalar_one_or_none`. -/
def findStripeEvent (eventId : String) : Py S (Option StripeEvent) := do
  let rows ← execute fun d => d.stripeEvents.rows.filter fun e => e.eventId == eventId
  ofExcept (scalarOneOrNone rows)

/-- Inserts the event row; `false` if the event was seen before. -/
def recordEvent (eventId eventType : String) : Py S Bool := do
  match ← findStripeEvent eventId with
  | some _ => return false
  | none =>
    add (.insertStripeEvent { eventId := eventId, eventType := eventType })
    tryCatch
      (do
        let _keys ← commit
        return true)
      fun e => do
        if e = .integrityError then
          rollback
          return false
        else throw e

def markProcessed (eventId : String) : Py S Unit := do
  match ← findStripeEvent eventId with
  | none => return ()
  | some row =>
    let now ← datetimeNow
    add (.updateStripeEvent row { row with processedAt := some now })
    let _keys ← commit
    return ()

def getSubscriptionByStripeId (stripeSubscriptionId : String) : Py S (Option Subscription) := do
  let rows ← select (fun d => d.subscriptions.rows) Subscription.tenantId
    fun s => s.stripeSubscriptionId == some stripeSubscriptionId
  ofExcept (scalarOneOrNone rows)

/-! ### Reading a subscription object -/

/-- `to_dt` of `_period_from_stripe` -/
def toDt (value : Value) (fallback : Datetime) : Except BuiltinError Datetime :=
  match value.positive? with
  | some x => fromTimestamp x
  | none => .ok fallback

/-- `_period_from_stripe`, the clock showing `now`. -/
def periodAt (now : Datetime) (subObj : Value) : Except BuiltinError (Datetime × Datetime) := do
  let start ← subObj.get "current_period_start"
  let stop ← subObj.get "current_period_end"
  let periodStart ← toDt start now
  let fallback ← addChecked periodStart (days 30)
  let periodEnd ← toDt stop fallback
  let least ← addChecked periodStart (minutes 1)
  return (periodStart, max periodEnd least)

def periodFromStripe (subObj : Value) : Py S (Datetime × Datetime) := do
  let now ← datetimeNow
  ofExcept (liftBuiltin (periodAt now subObj))

/-- `STRIPE_STATUS_MAP` -/
def stripeStatusMap : List (String × SubscriptionStatus) :=
  [("active", .active), ("past_due", .pastDue), ("canceled", .canceled), ("unpaid", .pastDue)]

/-- `_status_from_stripe`, the clock showing `now`: a trial that has ended counts as active. -/
def statusAt (now : Datetime) (subObj : Value) : Except Exn SubscriptionStatus := do
  let status := (← liftBuiltin (subObj.get "status" (.str ""))).toStr
  if status = "trialing" then
    let trialEnd ← liftBuiltin (subObj.get "trial_end")
    match trialEnd.positive? with
    | some x =>
      let ends ← liftBuiltin (fromTimestamp x)
      return if ends ≤ now then .active else .trialing
    | none => return .trialing
  else match stripeStatusMap.lookup status with
    | some mapped => return mapped
    | none => throw (.valueError ("unmapped Stripe subscription status: " ++ quoted status))

def statusFromStripe (subObj : Value) : Py S SubscriptionStatus := do
  let now ← datetimeNow
  ofExcept (statusAt now subObj)

/-! ### The handlers -/

/-- `crud_subscription.get_live_for_tenant` -/
def getLiveForTenant (tenantId : Option ℤ) : Py S (Option Subscription) := do
  let rows ← select (fun d => d.subscriptions.rows) Subscription.tenantId
    fun s => s.tenantId == tenantId && s.isLive
  return rows.getLast?

/-- `crud_plan.get` -/
def getPlan (id : ℤ) : Py S (Option Plan) := do
  let rows ← execute fun d => d.plans.rows.filter fun p => p.id == id
  ofExcept (scalarOneOrNone rows)

/-- Status, period and trial end of a subscription that a checkout creates. -/
def checkoutTerms (stripeSub : Value) :
    Py S (SubscriptionStatus × (Datetime × Datetime) × Option Datetime) := do
  if stripeSub.isDict then
    let status ← statusFromStripe stripeSub
    let period ← periodFromStripe stripeSub
    let trialEnd ← ofExcept (liftBuiltin (stripeSub.get "trial_end"))
    match trialEnd.positive? with
    | some x =>
      let trialEndDt ← ofExcept (liftBuiltin (fromTimestamp x))
      return (status, period, some trialEndDt)
    | none => return (status, period, none)
  else
    let period ← periodFromStripe (.dict [])
    return (.active, period, none)

/-- `checkout.session.completed`: creates or links the local subscription. -/
def handleCheckoutCompleted (sessionObj : Value) : Py S String := do
  let metadata := (← ofExcept (liftBuiltin (sessionObj.get "metadata"))).or (.dict [])
  let metadata := if metadata.isDict then metadata else .dict []
  let reference ← ofExcept (liftBuiltin (sessionObj.get "client_reference_id"))
  let tenantRaw := (← ofExcept (liftBuiltin (metadata.get "tenant_id"))).or reference
  let planRaw ← ofExcept (liftBuiltin (metadata.get "plan_id"))
  let stripeSubId ← ofExcept (liftBuiltin (sessionObj.get "subscription"))
  match tenantRaw, planRaw, stripeSubId with
  | .none, _, _ => return "skipped"
  | _, .none, _ => return "skipped"
  | tenantRaw, planRaw, .str stripeSubId =>
    let tenantId ← ofExcept (liftBuiltin (pyInt tenantRaw.toStr))
    let planId ← ofExcept (liftBuiltin (pyInt planRaw.toStr))
    match ← getPlan planId with
    | none => return "skipped"
    | some planRow =>
      match ← getLiveForTenant (some tenantId) with
      | some live =>
        if live.stripeSubscriptionId = none then
          add (.updateSubscription live { live with stripeSubscriptionId := some stripeSubId })
          let _keys ← commit
          let _row ← refreshSubscription live.id
          return "linked"
        else return "duplicate"
      | none =>
        let stripeSub ← ofExcept (liftBuiltin (sessionObj.get "stripe_subscription_object"))
        let (status, (periodStart, periodEnd), trialEnd) ← checkoutTerms stripeSub
        add (.insertSubscription
          { tenantId := some tenantId, planId := planRow.id, status := status,
            currentPeriodStart := periodStart, currentPeriodEnd := periodEnd,
            trialEnd := trialEnd, stripeSubscriptionId := some stripeSubId })
        let keys ← commit
        let _row ← refreshSubscription (keys.headD 0)
        return "created"
  | _, _, _ => return "skipped"

/-- What `handle_subscription_sync` assigns before the status and the period; only three of the
targets are checked against the state machine. -/
def syncBranch (target : SubscriptionStatus) (sub : Entity Subscription) :
    Py S (Entity Subscription) := do
  match target with
  | .canceled =>
    ofExcept (assertTransition sub.cur.status .canceled)
    let now ← datetimeNow
    return sub.set fun s =>
      { s with canceledAt := some now, cancelAtPeriodEnd := false, pendingPlanId := none }
  | .pastDue =>
    ofExcept (assertTransition sub.cur.status .pastDue)
    return sub
  | .active =>
    ofExcept (assertTransition sub.cur.status .active)
    return if sub.cur.status = .pastDue then sub.set fun s => (resetDunning s).2 else sub
  | _ => return sub

/-- `customer.subscription.updated` and `deleted`: takes the status over into the local row. -/
def handleSubscriptionSync (stripeSub : Value) : Py S String := do
  let stripeId := (← ofExcept (liftBuiltin (stripeSub.get "id" (.str "")))).toStr
  match ← getSubscriptionByStripeId stripeId with
  | none => return "unknown"
  | some row =>
    let targetStatus ← statusFromStripe stripeSub
    if targetStatus = row.status then return "unchanged"
    else
      let sub ← syncBranch targetStatus (.of row)
      let (periodStart, periodEnd) ← periodFromStripe stripeSub
      let sub := sub.set fun s =>
        { s with
          status := targetStatus, currentPeriodStart := periodStart, currentPeriodEnd := periodEnd }
      add (.updateSubscription sub.loaded sub.cur)
      tryCatch
        (do
          let _keys ← commit
          return ())
        fun e => do
          rollback
          throw (.conflict ("subscription sync failed: " ++ e.str))
      let _row ← refreshSubscription sub.cur.id
      return "synced"

/-- `invoice.payment_failed`: records a failure on the dunning schedule. -/
def handlePaymentFailed (cfg : Settings) (invoiceObj : Value) (bus : Option EventBus) :
    Py S String := do
  match ← ofExcept (liftBuiltin (invoiceObj.get "subscription")) with
  | .str raw =>
    match ← getSubscriptionByStripeId raw with
    | none => return "unknown"
    | some row =>
      let sub ← recordPaymentFailure cfg bus (.of row)
      let _keys ← commit
      let _row ← refreshSubscription sub.cur.id
      return "past_due"
  | _ => return "skipped"

/-! ### The dispatch -/

/-- The event types with a domain handler. -/
inductive DomainEvent where
  | checkoutCompleted
  | subscriptionUpdated
  | subscriptionDeleted
  | paymentFailed

def DomainEvent.ofType? (eventType : String) : Option DomainEvent :=
  if eventType = "checkout.session.completed" then some .checkoutCompleted
  else if eventType = "customer.subscription.updated" then some .subscriptionUpdated
  else if eventType = "customer.subscription.deleted" then some .subscriptionDeleted
  else if eventType = "invoice.payment_failed" then some .paymentFailed
  else none

/-- `str(event.get(key, ""))` -/
def eventField (event : Value) (key : String) : Except Exn String :=
  match event.get key (.str "") with
  | .ok v => .ok v.toStr
  | .error e => .error (.builtin e)

/-- `event["data"]["object"]`, where anything missing is an empty object. -/
def eventObject (event : Value) : Except Exn Value := do
  let dataObj := (← liftBuiltin (event.get "data")).or (.dict [])
  if dataObj.isDict then liftBuiltin (dataObj.get "object" (.dict [])) else return .dict []

/-- The object a handler is called with. -/
def handlerObject (inner : Value) : DomainEvent → Except Exn Value
  | .subscriptionDeleted => liftBuiltin (inner.withItem "status" (.str "canceled"))
  | _ => .ok inner

def runHandler (cfg : Settings) (bus : Option EventBus) (obj : Value) : DomainEvent → Py S String
  | .checkoutCompleted => handleCheckoutCompleted obj
  | .subscriptionUpdated | .subscriptionDeleted => handleSubscriptionSync obj
  | .paymentFailed => handlePaymentFailed cfg obj bus

/-- The `if` chain of `process_event`. Entering a handler is recorded. -/
def dispatch (cfg : Settings) (bus : Option EventBus) (eventId eventType : String) (inner : Value) :
    Py S String := do
  match DomainEvent.ofType? eventType with
  | none => return "ignored"
  | some kind =>
    let obj ← ofExcept (handlerObject inner kind)
    let () ← perform (Eff.enter eventId)
    runHandler cfg bus obj kind

/-- Dispatches one verified Stripe event: ledger, handler, processed stamp. -/
def processEvent (cfg : Settings) (event : Value) (bus : Option EventBus := none) :
    Py S String := do
  let eventId ← ofExcept (eventField event "id")
  let eventType ← ofExcept (eventField event "type")
  if eventId = "" ∨ eventType = "" then return "invalid"
  else
    let fresh ← recordEvent eventId eventType
    if !fresh then return "duplicate"
    else
      let inner ← ofExcept (eventObject event)
      let outcome ← dispatch cfg bus eventId eventType inner
      markProcessed eventId
      return outcome

end FastapiTemplate.Billing
