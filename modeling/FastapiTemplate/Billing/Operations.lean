import FastapiTemplate.Billing.InvoiceSweep
import FastapiTemplate.Billing.Requests
import FastapiTemplate.Core.Pace

/-!
# The operations of billing

All the requests and tasks that write subscriptions or invoices: those of `Requests`, and the ones about
invoices. Any number of them run interleaved (`operationPool`).

`Lawful` is what a change of such an operation does to a row, whatever the operation has read: a
subscription keeps its tenant, only one with a tenant gets a Stripe id, an invoice is born as a draft
with a period that is not empty, and goes from status to status as the table allows.
-/

namespace FastapiTemplate.Billing

open Core Database Python Effects Script

variable {S : Schema}

inductive Operation where
  | request (r : Request)
  | generateInvoice (caller : Caller) (periodStart periodEnd : Option Datetime)
  | issueInvoice (caller : Caller) (invoiceId : ℤ)
  | voidInvoice (caller : Caller) (invoiceId : ℤ)
  | invoiceSweep (order : RowOrder)

/-- The script that serves an operation; its answer is left out. -/
def Operation.script (cfg : Settings) : Operation → Py S Unit
  | .request r => r.script cfg
  | .generateInvoice caller periodStart periodEnd => do
    let _ ← generateInvoiceEndpoint caller periodStart periodEnd {}
  | .issueInvoice caller invoiceId => do let _ ← Billing.issueInvoice caller invoiceId {}
  | .voidInvoice caller invoiceId => do let _ ← Billing.voidInvoice caller invoiceId {}
  | .invoiceSweep order => do let _ ← generateDueInvoicesAsync order

/-- Operations that are about to be served, each in its tenant context. -/
def operationPool {ι : Type} (cfg : Settings) (w : World S) (op : ι → Operation)
    (tenant : ι → Option ℤ) : Pool ι Eff (Answer S) (World S) (Except Exn Unit × Session) where
  world := w
  procs i := some ((op i).script cfg { tenant := tenant i })

/-! ### Lawful changes -/

/-- The operation opens a subscription for a caller without a tenant. -/
def Operation.Subscribes (op : Operation) : Prop :=
  ∃ user planId, op = .request (.subscribe user planId) ∧ user.tenantId = none

/-- The operation voids an invoice. -/
def Operation.Voids (op : Operation) : Prop := ∃ caller invoiceId, op = .voidInvoice caller invoiceId

/-- The operation makes invoices. -/
def Operation.Bills : Operation → Prop
  | .generateInvoice _ _ _ | .invoiceSweep _ => True
  | _ => False

/-- The row stays with its tenant, and gets a Stripe id only if it has one. -/
structure KeepsLink (loaded cur : Subscription) : Prop where
  id : cur.id = loaded.id
  tenant : cur.tenantId = loaded.tenantId
  stripe : cur.stripeSubscriptionId = loaded.stripeSubscriptionId ∨ loaded.tenantId ≠ none

/-- The invoice changes its status, by the table, and the dates that go with it. -/
structure Transits (loaded cur : Invoice) : Prop where
  allowed : cur.status ∈ allowedInvoiceTransitions loaded.status
  rest : cur = { loaded with status := cur.status, issuedAt := cur.issuedAt, paidAt := cur.paidAt }

def Lawful (op : Operation) : Change → Prop
  | .insertSubscription row =>
    row.tenantId = none → row.stripeSubscriptionId = none ∧ op.Subscribes
  | .updateSubscription loaded cur => KeepsLink loaded cur
  | .insertInvoice row => row.status = .draft ∧ row.periodStart < row.periodEnd ∧ op.Bills
  | .updateInvoice loaded cur => Transits loaded cur ∧ (cur.status = .void → op.Voids)
  | .insertStripeEvent _ => True
  | .updateStripeEvent loaded cur => cur.eventId = loaded.eventId

/-- A lawful change of the invoices alone. -/
def LawfulBill (op : Operation) (c : Change) : Prop := Lawful op c ∧ writes c = false

theorem assertInvoiceTransition_ok {s t : InvoiceStatus} {u : Unit}
    (h : assertInvoiceTransition s t = .ok u) : t ∈ allowedInvoiceTransitions s := by
  unfold assertInvoiceTransition at h
  split at h
  · assumption
  · cases h

namespace Sample

/-- The order of the keys. -/
def inOrder : RowOrder := ⟨id, fun _ => .refl _⟩

end Sample

end FastapiTemplate.Billing
