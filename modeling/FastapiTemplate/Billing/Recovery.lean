import FastapiTemplate.Billing.Voices
import FastapiTemplate.Billing.Transitions

/-!
# Who hears of a recovery

A payment takes a subscription out of dunning through the pay-invoice endpoint or through a Stripe
sync. Neither path hands an event bus to the recovery: `mark_paid` is called without one, and the sync
resets the dunning fields by itself. So nobody is told (`says_request`), and the announcement that
`recover_subscription` makes reaches every active user exactly where there is none
(`recovery_announced_iff`).
-/

namespace FastapiTemplate.Billing

open Core Database Python Effects Script

variable {S : Schema}

/-- A payment: of an invoice through the endpoint, or reported by Stripe. -/
inductive Payment where
  | invoice (caller : Caller) (invoiceId : ℤ)
  | stripe (request : WebhookRequest)

def Payment.request : Payment → Request
  | .invoice caller invoiceId => .payInvoice caller invoiceId
  | .stripe request => .webhook request

def isRecovered (e : Event) : Bool := e.eventType == "billing.dunning.recovered"

/-- No payment tells anybody of a recovery. -/
theorem says_request (cfg : Settings) (p : Payment) :
    Says (fun e => isRecovered e = false) (p.request.script cfg : Py S Unit) := by
  cases p with
  | invoice caller invoiceId =>
    have hpaid : ("billing.invoice." ++ "paid" == "billing.dunning.recovered") = false := by decide
    exact (says_payInvoice caller invoiceId {} fun _ _ => hpaid).bind fun _ => .pure _
  | stripe request =>
    have hfailed : ("billing.dunning." ++ "payment_failed" == "billing.dunning.recovered") = false := by
      decide
    exact (says_stripeWebhook request {} fun _ _ => hfailed).bind fun _ => .pure _

/-- The subscription has left dunning by the commits between two states. -/
def PaidOut (b d : Db S) (x : Subscription) : Prop :=
  x ∈ b.subscriptions.rows ∧ x.status = .pastDue ∧
    ∃ x' ∈ d.subscriptions.rows, x'.id = x.id ∧ x'.status = .active

/-- How many events tell a user of a recovery. -/
def heardBy (events : List Event) (uid : ℤ) : ℕ :=
  events.countP fun e => isRecovered e && e.userId == some uid

/-- Nobody hears of a recovery from a payment. -/
theorem heardBy_payment (cfg : Settings) (db : Db S) (p : Payment) (tenant : Option ℤ) (env : Env) (uid : ℤ) :
    heardBy (serveOne cfg db { request := p.request, tenant := tenant, env := env }).published uid = 0 := by
  obtain ⟨events, heq, hall⟩ := (says_request (S := S) cfg p).published { tenant := tenant }
    (World.start db env)
  have hpublished : (serveOne cfg db
      { request := p.request, tenant := tenant, env := env }).published = events := heq
  rw [hpublished]
  refine List.countP_eq_zero.2 fun e he => ?_
  rw [hall e he]
  simp

/-- **Who hears of a recovery.** When a payment takes a subscription out of dunning, every active user
of its tenant gets exactly one event of it if and only if the tenant has no active users. -/
theorem recovery_announced_iff (cfg : Settings) (db : Db S) (p : Payment) (tenant : Option ℤ) (env : Env)
    {x : Subscription}
    (_hx : PaidOut db (serveOne cfg db { request := p.request, tenant := tenant, env := env }).db x) :
    (∀ uid ∈ audience db x, heardBy (serveOne cfg db
      { request := p.request, tenant := tenant, env := env }).published uid = 1) ↔ audience db x = [] := by
  constructor
  · intro h
    refine List.eq_nil_iff_forall_not_mem.2 fun uid huid => ?_
    have hone := h uid huid
    rw [heardBy_payment] at hone
    cases hone
  · intro h uid huid
    rw [h] at huid
    cases huid

namespace Sample

/-- Two payments that take the subscription out of dunning. -/
def payments : List Payment :=
  [.invoice ⟨admin, none⟩ 1, .stripe { json := some (updated "evt_1" "active") }]

end Sample

/-- Both payments take the subscription out of dunning. -/
lemma Sample.paidOut : ∀ p ∈ Sample.payments,
    PaidOut Sample.owed
      (serveOne Sample.settings Sample.owed { request := p.request, env := Sample.env 1000 }).db
      { Sample.row .pastDue 1 (some 500) with id := 1 } := by
  have hpaid : ∀ p ∈ Sample.payments, ∃ x' ∈ (serveOne Sample.settings Sample.owed
      { request := p.request, env := Sample.env 1000 }).db.subscriptions.rows,
      x'.id = 1 ∧ x'.status = .active := by decide +kernel
  exact fun p hp => ⟨by decide, rfl, hpaid p hp⟩

/-- For a tenant with one active user. -/
theorem recovery_announced_iff_owed :
    let x : Subscription := { Sample.row .pastDue 1 (some 500) with id := 1 }
    (∀ uid ∈ audience Sample.owed x, heardBy (serveOne Sample.settings Sample.owed
      { request := .payInvoice ⟨Sample.admin, none⟩ 1, env := Sample.env 1000 }).published uid = 1) ↔
      audience Sample.owed x = [] :=
  recovery_announced_iff Sample.settings Sample.owed (.invoice ⟨Sample.admin, none⟩ 1) none
    (Sample.env 1000) (Sample.paidOut _ List.mem_cons_self)

/-- Both payments take the subscription out of dunning, and its user hears nothing. -/
theorem recovery_unannounced :
    ¬∃ p ∈ Sample.payments,
      let w := serveOne Sample.settings Sample.owed { request := p.request, env := Sample.env 1000 }
      ∀ x, PaidOut Sample.owed w.db x → ∀ uid ∈ audience Sample.owed x, heardBy w.published uid = 1 := by
  rintro ⟨p, hp, h⟩
  have hone := h _ (Sample.paidOut p hp) 1 (by decide)
  rw [heardBy_payment] at hone
  cases hone

end FastapiTemplate.Billing
