import FastapiTemplate.Billing.Subscriptions

/-!
# Requests

The Stripe webhook endpoint, and all the requests that write a subscription row, each with the script
that serves it. `Served` is one request with what the environment decides while it is served;
`serveAll` serves any number of them one after another.
-/

namespace FastapiTemplate.Billing

open Core Database Python Effects Script

variable {S : Schema}

/-! ### The webhook endpoint -/

/-- A webhook request: whether Stripe is configured, whether the signature verifies, and the body as
JSON, if it is. -/
structure WebhookRequest where
  configured : Bool := true
  verified : Bool := true
  json : Option Value

structure Response where
  statusCode : ℕ
  content : Value

def Response.detail (statusCode : ℕ) (detail : String) : Response :=
  ⟨statusCode, .dict [("detail", .str detail)]⟩

/-- `stripe_webhook`: a verified event is acknowledged whatever its processing raises. -/
def stripeWebhook (cfg : Settings) (request : WebhookRequest) (bus : EventBus) : Py S Response := do
  if !request.configured then throw (.http 503 "Billing provider not configured")
  else if !request.verified then return .detail 400 "Invalid signature"
  else match request.json with
    | none => return .detail 400 "Invalid JSON"
    | some event =>
      let eventId ← ofExcept (eventField event "id")
      let eventType ← ofExcept (eventField event "type")
      if eventId = "" ∨ eventType = "" then return .detail 400 "Missing id/type"
      else
        let outcome ← tryCatch (processEvent cfg event (some bus)) fun e =>
          match e with
          | .illegalTransition _ _ => pure "rejected"
          | _ => pure "error"
        return ⟨200, .dict [("received", .bool true), ("outcome", .str outcome)]⟩

/-! ### Requests -/

/-- The requests that write a subscription row. -/
inductive Request where
  | subscribe (user : User) (planId : ℤ)
  | changePlan (user : User) (planId : ℤ)
  | cancel (user : User) (immediate : Bool)
  | resume (user : User)
  | overridePlan (user : User) (id : ℤ) (planId : String)
  | setStatus (user : User) (id : ℤ) (rawStatus : String)
  | webhook (request : WebhookRequest)
  | processEvent (event : Value) (bus : Option EventBus)
  | payInvoice (caller : Caller) (invoiceId : ℤ)
  | markPaid (invoiceId : ℤ) (bus : Option EventBus)
  | dunningSweep

/-- The script that serves a request; its answer is left out. -/
def Request.script (cfg : Settings) : Request → Py S Unit
  | .subscribe user planId => do let _ ← Billing.subscribe user planId {}
  | .changePlan user planId => do let _ ← Billing.changePlan user planId {}
  | .cancel user immediate => do let _ ← cancelSubscription user immediate {}
  | .resume user => do let _ ← resumeSubscription user {}
  | .overridePlan user id planId => adminSubscriptionOverridePlan user id planId {}
  | .setStatus user id rawStatus => adminSubscriptionSetStatus user id rawStatus {}
  | .webhook request => do let _ ← stripeWebhook cfg request {}
  | .processEvent event bus => do let _ ← Billing.processEvent cfg event bus
  | .payInvoice caller invoiceId => do let _ ← Billing.payInvoice caller invoiceId {}
  | .markPaid invoiceId bus => do let _ ← Billing.markPaid invoiceId bus
  | .dunningSweep => do let _ ← processDunning cfg

/-- A request, the tenant context it runs in, and what the environment decides meanwhile. -/
structure Served where
  request : Request
  tenant : Option ℤ := none
  env : Env

/-- The world a request starts in. -/
def World.start (db : Db S) (env : Env) : World S := { db := db, env := env }

/-- The world after a request; whatever its session had not committed is dropped. -/
def serveOne (cfg : Settings) (db : Db S) (s : Served) : World S :=
  ((s.request.script cfg).exec serve { tenant := s.tenant } (World.start db s.env)).world

/-- The database after a sequence of requests. -/
def serveAll (cfg : Settings) : Db S → List Served → Db S
  | db, [] => db
  | db, s :: rest => serveAll cfg (serveOne cfg db s).db rest

/-! ### A small world

Settings, rows, events and an environment without faults, for the concrete runs of other modules. -/

namespace Sample

def settings : Settings where
  billingDunningEnabled := true
  dunningMaxAttempts := 4
  dunningBaseDelayMinutes := 60
  one_le_maxAttempts := by decide
  maxAttempts_le := by decide
  one_le_baseDelay := by decide

/-- A clock that stands still, and no faults. -/
def env (now : Datetime) : Env where
  clock _ := now
  dbFails _ := false
  busFails _ := false
  redisFails _ := false

/-- A monthly plan. -/
def plan : Plan where
  id := 1
  priceCents := 1000
  currency := "usd"
  interval := .monthly
  trialDays := 0
  isActive := true

/-- A subscription of tenant 1, linked to `sub_1` at Stripe. -/
def row (status : SubscriptionStatus) (failures : ℤ) (nextRetry : Option Datetime) : Subscription where
  tenantId := some 1
  planId := 1
  status := status
  currentPeriodStart := 0
  currentPeriodEnd := days 30
  stripeSubscriptionId := some "sub_1"
  failedPaymentCount := failures
  nextRetryAt := nextRetry

/-- An open invoice of that subscription. -/
def openInvoice : Invoice where
  tenantId := some 1
  subscriptionId := 1
  status := .open
  currency := "usd"
  totalCents := 1000
  periodStart := 0
  periodEnd := days 30

def event (eventId eventType : String) (obj : List (String × Value)) : Value :=
  .dict [("id", .str eventId), ("type", .str eventType), ("data", .dict [("object", .dict obj)])]

/-- An active superuser of tenant 1. -/
def admin : User where
  id := 1
  tenantId := some 1
  isActive := true
  isSuperuser := true
  roles := []
  permissions := []

/-- Tenant 1 with a subscription in dunning, an open invoice, and one active user. -/
def owed : Db .metadata where
  tables := .seed [] [admin] [row .pastDue 1 (some 500)] [openInvoice]
  admitted := by decide

/-- `customer.subscription.updated` of `sub_1`. -/
def updated (eventId status : String) : Value :=
  event eventId "customer.subscription.updated" [("id", .str "sub_1"), ("status", .str status)]

/-- `invoice.payment_failed` for `sub_1`. -/
def paymentFailed (eventId : String) : Value :=
  event eventId "invoice.payment_failed" [("subscription", .str "sub_1")]

/-- A verified delivery of an event to the webhook. -/
def deliver (event : Value) : Served := { request := .webhook { json := some event }, env := env 1000 }

end Sample

end FastapiTemplate.Billing
