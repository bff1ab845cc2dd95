import FastapiTemplate.Billing.Generation

/-!
# The invoice sweep

The Celery task `tasks.invoicing`: an open invoice for every live subscription whose period has ended.
All of it runs in one session. The rows are loaded once, at the start; reading an attribute of one,
which the log line of a failure does too, raises when they have been expired since.
-/

namespace FastapiTemplate.Billing

open Core Database Python Effects Script

variable {S : Schema}

/-- The counts the sweep returns. -/
structure InvoiceSweepStats where
  generated : ℕ := 0
  skipped : ℕ := 0
  failed : ℕ := 0
  deriving DecidableEq

/-- What one subscription came to; `none` is a failure. -/
inductive Billed where
  | generated
  | skipped
  deriving DecidableEq

def InvoiceSweepStats.count (st : InvoiceSweepStats) : Option Billed → InvoiceSweepStats
  | some .generated => { st with generated := st.generated + 1 }
  | some .skipped => { st with skipped := st.skipped + 1 }
  | none => { st with failed := st.failed + 1 }

/-- The sweep's `WHERE` clause. -/
def hasEnded (now : Datetime) (sub : Subscription) : Bool :=
  sub.isLive && decide (sub.currentPeriodEnd ≤ now)

/-- The order in which the database returns the rows, which the query leaves open. -/
structure RowOrder where
  arrange : List Subscription → List Subscription
  perm : ∀ subs, (arrange subs).Perm subs

/-- The body of the sweep's `try`. -/
def invoiceDue (sub : Subscription) (plan : Plan) : Py S Billed := do
  match ← findBlockingForPeriod sub.id sub.currentPeriodStart with
  | some _ => return .skipped
  | none =>
    let inv ← generateInvoice sub plan
    if inv.status = .draft then
      let _inv ← issue inv.id (some inv)
      return .generated
    else return .generated

/-- `sub.plan or await db.get(Plan, sub.plan_id)` -/
def planOf (plans : List Plan) (sub : Subscription) : Py S (Option Plan) :=
  match plans.find? fun p => p.id == sub.planId with
  | some plan => return some plan
  | none => getPlan sub.planId

/-- One subscription, unless a raise ends the sweep. -/
def invoiceOne (loaded : ℕ) (plans : List Plan) (sub : Subscription) : Py S (Option Billed) := do
  attributes loaded
  match ← planOf plans sub with
  | none => return none
  | some plan =>
    tryCatch (some <$> invoiceDue sub plan) fun _ => do
      attributes loaded
      return none

/-- The loop of the sweep. -/
def invoiceEach (loaded : ℕ) (plans : List Plan) :
    InvoiceSweepStats → List Subscription → Py S InvoiceSweepStats
  | st, [] => return st
  | st, sub :: subs => do
    let outcome ← invoiceOne loaded plans sub
    invoiceEach loaded plans (st.count outcome) subs

/-- `selectinload(Subscription.plan)` -/
def loadPlans (subs : List Subscription) : Py S (List Plan) :=
  if subs.isEmpty then return []
  else execute fun d => d.plans.rows.filter fun p => (subs.map Subscription.planId).contains p.id

/-- `_generate_due_invoices_async` -/
def generateDueInvoicesAsync (order : RowOrder) : Py S InvoiceSweepStats := do
  let now ← datetimeNow
  let rows ← select (fun d => d.subscriptions.rows) Subscription.tenantId (hasEnded now)
  let subs := order.arrange rows
  let plans ← loadPlans subs
  let loaded := (← getState).expirations
  invoiceEach loaded plans {} subs

end FastapiTemplate.Billing
