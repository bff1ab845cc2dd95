import FastapiTemplate.Core.Voice
import FastapiTemplate.Billing.Publishing
import FastapiTemplate.Billing.Requests

/-!
# What the services publish

For each service the events it may publish, whatever the database, the clock and the bus answer. A Stripe
event is announced if it is a failed payment, and `mark_paid` announces a recovery if it is given a bus;
the rest is silent.
-/

namespace FastapiTemplate.Billing

open Core Database Python Effects Script

variable {S : Schema} {cfg : Settings} {P : Event → Prop}

/-! ### Dunning -/

lemma says_resolveRecipients (tenantId : Option ℤ) :
    Says P (resolveRecipients tenantId : Py S (List ℤ)) := by
  unfold resolveRecipients
  split
  · exact .pure []
  · exact (Says.select _ _ _).bind fun _ => .pure _

lemma says_publishEach (bus : EventBus) {suffix : String} {sub : Subscription}
    (h : ∀ uid, P (dunningEvent suffix sub (some uid))) (uids : List ℤ) :
    Says P (publishEach bus suffix sub uids : Py S Unit) := by
  induction uids with
  | nil => exact .pure ()
  | cons uid uids ih => exact (Says.publish bus (h uid)).bind fun _ => ih

lemma says_publishToRecipients {bus : Option EventBus} {suffix : String} {sub : Subscription}
    (h : bus = none ∨ ∀ uid, P (dunningEvent suffix sub (some uid))) :
    Says P (publishToRecipients bus suffix sub : Py S ℕ) := by
  cases bus with
  | none => exact .pure 0
  | some bus =>
    have h' : ∀ uid, P (dunningEvent suffix sub (some uid)) := h.resolve_left nofun
    exact (says_resolveRecipients _).bind fun uids =>
      (says_publishEach bus h' uids).bind fun _ => .pure _

lemma says_recordPaymentFailure {bus : Option EventBus} (sub : Entity Subscription)
    (h : bus = none ∨ ∀ sub uid, P (dunningEvent "payment_failed" sub (some uid))) :
    Says P (recordPaymentFailure cfg bus sub : Py S (Entity Subscription)) := by
  refine Says.datetimeNow.bind fun now => ?_
  have hrest : ∀ sub : Entity Subscription, Says P (do
      add (.updateSubscription sub.loaded sub.cur)
      let _sent ← publishToRecipients bus "payment_failed" sub.cur
      return sub : Py S (Entity Subscription)) := fun sub =>
    (Says.add _).bind fun _ => (says_publishToRecipients (h.imp id fun h => h _)).bind fun _ => .pure _
  show Says P (if _ then _ else _)
  split
  · exact (Says.ofExcept _).bind fun _ => hrest _
  · exact hrest _

lemma says_recoverSubscription (sub : Entity Subscription) :
    Says P (recoverSubscription none sub : Py S (Entity Subscription)) := by
  have hrest : ∀ hadDunning (sub : Entity Subscription),
      Says P (if hadDunning || sub.cur.status == .active then do
        add (.updateSubscription sub.loaded sub.cur)
        let _sent ← publishToRecipients none "recovered" sub.cur
        return sub
      else return sub : Py S (Entity Subscription)) := by
    intro hadDunning sub
    split
    · exact (Says.add _).bind fun _ => (says_publishToRecipients (.inl rfl)).bind fun _ => .pure _
    · exact .pure sub
  unfold recoverSubscription
  split
  · exact (Says.ofExcept _).bind fun _ => hrest _ _
  · exact hrest _ _

/-- Without a bus, `mark_paid` is silent. -/
theorem says_markPaid (invoiceId : ℤ) : Says P (markPaid invoiceId none : Py S Invoice) := by
  unfold markPaid
  refine (Says.selectOne _ _ _).bind fun inv => ?_
  cases inv with
  | none => exact .throw _
  | some inv =>
    refine (Says.ofExcept _).bind fun _ => Says.datetimeNow.bind fun now => (Says.add _).bind fun _ =>
      (Says.selectOne _ _ _).bind fun sub => ?_
    have hrest : Says P (do let _keys ← commit; refreshInvoice inv.id : Py S Invoice) :=
      Says.commit.bind fun _ => .refresh _ _ _
    cases sub with
    | none => exact hrest
    | some sub =>
      show Says P (if _ then _ else _)
      split
      · exact (says_recoverSubscription _).bind fun _ => hrest
      · exact hrest

lemma says_ensureTenantInvoice (invoiceId : ℤ) (user : User) :
    Says P (ensureTenantInvoice invoiceId user : Py S Unit) := by
  unfold ensureTenantInvoice
  split
  · exact .throw _
  · refine (Says.select _ _ _).bind fun rows => (Says.ofExcept _).bind fun inv => ?_
    cases inv with
    | none => exact .throw _
    | some inv => exact .pure ()

/-- The pay-invoice endpoint publishes an event of the invoice and nothing else. -/
theorem says_payInvoice (caller : Caller) (invoiceId : ℤ) (bus : EventBus)
    (h : ∀ inv uid, P (invoiceEvent "paid" inv uid)) :
    Says P (payInvoice caller invoiceId bus : Py S Invoice) :=
  (Says.ofExcept _).bind fun _ => (says_ensureTenantInvoice _ _).bind fun _ =>
    (says_markPaid _).bind fun _ => (Says.publish bus (h _ _)).bind fun _ => .pure _

/-! ### Stripe events -/

lemma says_findStripeEvent (eventId : String) :
    Says P (findStripeEvent eventId : Py S (Option StripeEvent)) :=
  (Says.execute _).bind fun _ => .ofExcept _

lemma says_recordEvent (eventId eventType : String) :
    Says P (recordEvent eventId eventType : Py S Bool) := by
  refine (says_findStripeEvent eventId).bind fun row => ?_
  cases row with
  | some row => exact .pure false
  | none =>
    refine (Says.add _).bind fun _ => .tryCatch (Says.commit.bind fun _ => .pure true) fun e => ?_
    split
    · exact Says.rollback.bind fun _ => .pure false
    · exact .throw e

lemma says_markProcessed (eventId : String) : Says P (markProcessed eventId : Py S Unit) := by
  refine (says_findStripeEvent eventId).bind fun row => ?_
  cases row with
  | none => exact .pure ()
  | some row =>
    exact Says.datetimeNow.bind fun _ => (Says.add _).bind fun _ => Says.commit.bind fun _ => .pure ()

lemma says_statusFromStripe (obj : Value) :
    Says P (statusFromStripe obj : Py S SubscriptionStatus) :=
  Says.datetimeNow.bind fun _ => .ofExcept _

lemma says_periodFromStripe (obj : Value) :
    Says P (periodFromStripe obj : Py S (Datetime × Datetime)) :=
  Says.datetimeNow.bind fun _ => .ofExcept _

lemma says_checkoutTerms (stripeSub : Value) : Says P (checkoutTerms stripeSub :
    Py S (SubscriptionStatus × (Datetime × Datetime) × Option Datetime)) := by
  unfold checkoutTerms
  split
  · refine (says_statusFromStripe _).bind fun _ => (says_periodFromStripe _).bind fun _ =>
      (Says.ofExcept _).bind fun trialEnd => ?_
    split
    · exact (Says.ofExcept _).bind fun _ => .pure _
    · exact .pure _
  · exact (says_periodFromStripe _).bind fun _ => .pure _

lemma says_handleCheckoutCompleted (obj : Value) :
    Says P (handleCheckoutCompleted obj : Py S String) := by
  unfold handleCheckoutCompleted
  refine (Says.ofExcept _).bind fun _ => (Says.ofExcept _).bind fun _ =>
    (Says.ofExcept _).bind fun _ => (Says.ofExcept _).bind fun _ => (Says.ofExcept _).bind fun _ => ?_
  split
  · exact .pure _
  · exact .pure _
  swap
  · exact .pure _
  refine (Says.ofExcept _).bind fun _ => (Says.ofExcept _).bind fun _ => ?_
  refine ((Says.execute _).bind fun _ => .ofExcept _).bind fun plan => ?_
  cases plan with
  | none => exact .pure _
  | some plan =>
    refine ((Says.select _ _ _).bind fun _ => .pure _).bind fun live => ?_
    cases live with
    | some live =>
      show Says P (if _ then _ else _)
      split
      · exact (Says.add _).bind fun _ => Says.commit.bind fun _ => (Says.refresh _ _ _).bind fun _ => .pure _
      · exact .pure _
    | none =>
      exact (Says.ofExcept _).bind fun _ => (says_checkoutTerms _).bind fun _ => (Says.add _).bind fun _ =>
        Says.commit.bind fun _ => (Says.refresh _ _ _).bind fun _ => .pure _

lemma says_syncBranch (target : SubscriptionStatus) (sub : Entity Subscription) :
    Says P (syncBranch target sub : Py S (Entity Subscription)) := by
  cases target with
  | canceled => exact (Says.ofExcept _).bind fun _ => Says.datetimeNow.bind fun _ => .pure _
  | pastDue => exact (Says.ofExcept _).bind fun _ => .pure _
  | active => exact (Says.ofExcept _).bind fun _ => .pure _
  | _ => exact .pure _

/-- A Stripe sync is silent, whatever it changes. -/
theorem says_handleSubscriptionSync (obj : Value) :
    Says P (handleSubscriptionSync obj : Py S String) := by
  refine (Says.ofExcept _).bind fun _ => (Says.selectOne _ _ _).bind fun row => ?_
  cases row with
  | none => exact .pure _
  | some row =>
    refine (says_statusFromStripe _).bind fun target => ?_
    split
    · exact .pure _
    · exact (says_syncBranch _ _).bind fun _ => (says_periodFromStripe _).bind fun _ =>
        (Says.add _).bind fun _ => (Says.tryCatch (Says.commit.bind fun _ => .pure _) fun e =>
          Says.rollback.bind fun _ => .throw _).bind fun _ => (Says.refresh _ _ _).bind fun _ => .pure _

lemma says_handlePaymentFailed {bus : Option EventBus} (obj : Value)
    (h : bus = none ∨ ∀ sub uid, P (dunningEvent "payment_failed" sub (some uid))) :
    Says P (handlePaymentFailed cfg obj bus : Py S String) := by
  refine (Says.ofExcept _).bind fun raw => ?_
  split
  · refine (Says.selectOne _ _ _).bind fun row => ?_
    cases row with
    | none => exact .pure _
    | some row =>
      exact (says_recordPaymentFailure _ h).bind fun _ => Says.commit.bind fun _ =>
        (Says.refresh _ _ _).bind fun _ => .pure _
  · exact .pure _

/-- Of all Stripe events only a failed payment is announced. -/
theorem says_processEvent (event : Value) (bus : Option EventBus)
    (h : bus = none ∨ ∀ sub uid, P (dunningEvent "payment_failed" sub (some uid))) :
    Says P (processEvent cfg event bus : Py S String) := by
  refine (Says.ofExcept _).bind fun eventId => (Says.ofExcept _).bind fun eventType => ?_
  split
  · exact .pure _
  refine (says_recordEvent _ _).bind fun fresh => ?_
  split
  · exact .pure _
  refine (Says.ofExcept _).bind fun inner => ?_
  have hdispatch : Says P (dispatch cfg bus eventId eventType inner : Py S String) := by
    unfold dispatch
    split
    · exact .pure _
    · rename_i kind _
      refine (Says.ofExcept _).bind fun obj => (Says.enter _).bind fun _ => ?_
      cases kind with
      | checkoutCompleted => exact says_handleCheckoutCompleted obj
      | subscriptionUpdated => exact says_handleSubscriptionSync obj
      | subscriptionDeleted => exact says_handleSubscriptionSync obj
      | paymentFailed => exact says_handlePaymentFailed obj h
  exact hdispatch.bind fun _ => (says_markProcessed _).bind fun _ => .pure _

theorem says_stripeWebhook (request : WebhookRequest) (bus : EventBus)
    (h : ∀ sub uid, P (dunningEvent "payment_failed" sub (some uid))) :
    Says P (stripeWebhook cfg request bus : Py S Response) := by
  unfold stripeWebhook
  split
  · exact .throw _
  split
  · exact .pure _
  split
  · exact .pure _
  · refine (Says.ofExcept _).bind fun eventId => (Says.ofExcept _).bind fun eventType => ?_
    split
    · exact .pure _
    · refine (Says.tryCatch (says_processEvent _ _ (.inr h)) fun e => ?_).bind fun _ => .pure _
      split <;> exact .pure _

end FastapiTemplate.Billing
