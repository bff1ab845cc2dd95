import FastapiTemplate.Billing.StripeEvents
import FastapiTemplate.Billing.Invoicing
import FastapiTemplate.Billing.Usage

/-!
# Generating invoices

`generate_invoice` of `billing.services.invoicing` with what it computes and stores, and the endpoint
that calls it. A requested period is in UTC, like every other date.
-/

namespace FastapiTemplate.Billing

open Core Database Python Effects Script

variable {S : Schema}

/-! ### Lines and totals -/

def lineAmount (line : InvoiceLine) : ℤ := line.quantity * line.unitAmountCents

/-- The tax of a line; the source divides floats. -/
def lineTax (line : InvoiceLine) : ℤ := roundHalfEven (lineAmount line * line.taxRateBps / 10000)

def computeTotals (lines : List InvoiceLine) : ℤ × ℤ :=
  ((lines.map lineAmount).sum, (lines.map lineTax).sum)

def applyTotals (inv : Invoice) : Invoice :=
  let (subtotal, tax) := computeTotals inv.lines
  { inv with subtotalCents := subtotal, taxCents := tax, totalCents := subtotal + tax }

/-- The price of the plan. -/
def planLine (plan : Plan) : InvoiceLine where
  description := plan.name ++ " — subscription period"
  quantity := 1
  unitAmountCents := plan.priceCents
  taxRateBps := 0
  amountCents := plan.priceCents

def overageDescription (dimension : String) (billableUnits unitAmountCents : ℤ) : String :=
  dimension ++ (" overage (" ++ toString billableUnits ++ " units @ " ++ toString unitAmountCents ++
    " cents)")

/-- The line of a dimension, if the overage costs anything. -/
def overageLine (dimension : String) (cfg : DimensionConfig) (used : ℤ) : Option InvoiceLine :=
  let overageCents := computeOverage used cfg.includedQuantity cfg.unitAmountCents
  if overageCents ≤ 0 then none
  else
    let billableUnits := used - cfg.includedQuantity
    some
      { description := overageDescription dimension billableUnits cfg.unitAmountCents
        quantity := billableUnits
        unitAmountCents := cfg.unitAmountCents
        taxRateBps := 0
        amountCents := overageCents }

/-- The loop of `append_metered_lines`. -/
def meterEach (tenantId : ℤ) (periodStart : Datetime) :
    List (String × DimensionConfig) → Py S (List InvoiceLine)
  | [] => return []
  | (dimension, cfg) :: rest => do
    let used ← getUsage tenantId dimension periodStart
    let lines ← meterEach tenantId periodStart rest
    return (overageLine dimension cfg used).toList ++ lines

/-- The lines that `append_metered_lines` appends. -/
def appendMeteredLines (plan : Plan) (tenantId : Option ℤ) (periodStart : Datetime) :
    Py S (List InvoiceLine) :=
  match tenantId with
  | none => return []
  | some tenantId => do
    let configs ← ofExcept (liftBuiltin (extractMetering plan.metering))
    meterEach tenantId periodStart configs

/-! ### The rows -/

/-- `Invoice.number` -/
def invoiceNumber (inv : Invoice) : String :=
  "INV-" ++ toString (civil (inv.createdAt / days 1)).1 ++ "-" ++ padded 6 inv.id

/-- `BLOCKING_STATUSES` -/
def blockingStatuses : List InvoiceStatus := [.draft, .open, .paid]

def findBlockingForPeriod (subscriptionId : ℤ) (periodStart : Datetime) : Py S (Option Invoice) := do
  let rows ← select (fun d => d.invoices.rows) Invoice.tenantId fun i =>
    i.subscriptionId == subscriptionId && i.periodStart == periodStart &&
      blockingStatuses.contains i.status
  ofExcept (scalarOneOrNone rows)

/-- `crud_invoice.create`; the database fills `created_at` in. -/
def createInvoice (inv : Invoice) : Py S Invoice := do
  let now ← datetimeNow
  add (.insertInvoice { inv with createdAt := now })
  let keys ← commit
  refreshInvoice (keys.headD 0)

/-- A draft invoice for one billing period of a subscription. -/
def generateInvoice (subscription : Subscription) (plan : Plan)
    (periodStart periodEnd : Option Datetime := none) : Py S Invoice := do
  if !subscription.isLive then throw (.conflict "Cannot invoice a non-live subscription")
  else
    let start := periodStart.getD subscription.currentPeriodStart
    let stop := periodEnd.getD subscription.currentPeriodEnd
    if stop ≤ start then throw (.valueError "period_end must be after period_start")
    else
      match ← findBlockingForPeriod subscription.id start with
      | some existing =>
        throw (.conflict ("Invoice " ++ invoiceNumber existing ++ " already covers this period"))
      | none =>
        let metered ← appendMeteredLines plan subscription.tenantId start
        let inv := applyTotals
          { tenantId := subscription.tenantId, subscriptionId := subscription.id, status := .draft,
            currency := plan.currency, totalCents := 0, periodStart := start, periodEnd := stop,
            lines := planLine plan :: metered }
        tryCatch (createInvoice inv) fun e => do
          if e = .integrityError then
            rollback
            throw (.conflict "An invoice already covers this period")
          else throw e

/-! ### The endpoint -/

/-- `generate_invoice` of the API. -/
def generateInvoiceEndpoint (caller : Caller) (periodStart periodEnd : Option Datetime)
    (bus : EventBus) : Py S Invoice := do
  ofExcept (permissionChecker ["billing:write"] caller)
  match caller.user.tenantId with
  | none => throw (.badRequest "Invoicing requires a tenant membership")
  | some tenantId =>
    match ← getLiveForTenant (some tenantId) with
    | none => throw (.notFound "No live subscription to invoice")
    | some sub =>
      match ← getPlan sub.planId with
      | none => throw (.notFound "Subscription plan not found")
      | some plan =>
        let inv ← generateInvoice sub plan periodStart periodEnd
        bus.publish (invoiceEvent "generated" inv (some caller.user.id))
        return inv

/-! ### Facts about the rows -/

/-- The statuses that block a period are those the unique index covers. -/
theorem mem_blockingStatuses {status : InvoiceStatus} : status ∈ blockingStatuses ↔ status ≠ .void := by
  cases status <;> simp [blockingStatuses]

@[simp] lemma applyTotals_lines (inv : Invoice) : (applyTotals inv).lines = inv.lines := rfl

@[simp] lemma applyTotals_status (inv : Invoice) : (applyTotals inv).status = inv.status := rfl

@[simp] lemma applyTotals_subscriptionId (inv : Invoice) :
    (applyTotals inv).subscriptionId = inv.subscriptionId := rfl

@[simp] lemma applyTotals_periodStart (inv : Invoice) : (applyTotals inv).periodStart = inv.periodStart := rfl

@[simp] lemma applyTotals_periodEnd (inv : Invoice) : (applyTotals inv).periodEnd = inv.periodEnd := rfl

end FastapiTemplate.Billing
