import FastapiTemplate.Billing.Requests
import FastapiTemplate.Billing.Standing
import FastapiTemplate.Core.Watch

/-!
# The writers of a subscription

What each request may commit, whatever the database, the clock and the bus answer: at most one commit
with a change of a subscription, in which every row is changed by a move that the request offers and
that the row as read allows; and into the ledger of Stripe events one event at a time. `conforms` is
that statement for every request; it says nothing about the world the request runs in, so it holds
alone and under interleaving.
-/

namespace FastapiTemplate.Billing

open Core Database Python Effects Script

variable {S : Schema}

/-! ### What an event asks for -/

/-- The event a request hands to `process_event`. -/
def Request.event? : Request → Option Value
  | .webhook request => if request.configured && request.verified then request.json else none
  | .processEvent event _ => some event
  | _ => none

/-- The handler an event reaches and the object it is called with, if the event is well formed and
not yet in the ledger. -/
def handled (d : Db S) (event : Value) : Option (DomainEvent × Value) :=
  match eventField event "id", eventField event "type", eventObject event with
  | .ok eventId, .ok eventType, .ok inner =>
    if eventId = "" ∨ eventType = "" then none
    else if d.stripeEvents.rows.any fun e => e.eventId == eventId then none
    else match DomainEvent.ofType? eventType with
      | none => none
      | some kind =>
        match handlerObject inner kind with
        | .ok obj => some (kind, obj)
        | .error _ => none
  | _, _, _ => none

/-- The handler is chosen by the event's type. -/
lemma handled_kind {d : Db S} {event obj : Value} {kind : DomainEvent}
    (h : handled d event = some (kind, obj)) :
    ∃ eventType, eventField event "type" = .ok eventType ∧ DomainEvent.ofType? eventType = some kind := by
  unfold handled at h
  split at h
  swap
  · cases h
  rename_i eventId eventType inner _ hty _
  refine ⟨eventType, hty, ?_⟩
  split at h
  · cases h
  split at h
  · cases h
  split at h
  · cases h
  rename_i kind' hkind
  split at h
  · cases h
    exact hkind
  · cases h

/-- The Stripe id by which a handler looks its subscription up. -/
def DomainEvent.reference (obj : Value) : DomainEvent → Option String
  | .checkoutCompleted => none
  | .subscriptionUpdated | .subscriptionDeleted =>
    match obj.get "id" (.str "") with
    | .ok v => some v.toStr
    | .error _ => none
  | .paymentFailed =>
    match obj.get "subscription" with
    | .ok (.str raw) => some raw
    | _ => none

/-- The object names the row. -/
def Names (kind : DomainEvent) (obj : Value) (row : Subscription) : Prop :=
  ∃ key, kind.reference obj = some key ∧ row.stripeSubscriptionId = some key

/-- Taking over a status of Stripe. -/
def syncMove : SubscriptionStatus → Move
  | .trialing => .trial
  | target => .assign target

/-- What a handler may do to a row; `asked` is its first reading of the clock. -/
def DomainEvent.Offers (obj : Value) (asked : Option Datetime) (row : Subscription) (mv : Move) :
    DomainEvent → Prop
  | .checkoutCompleted => mv = .edit
  | .paymentFailed => Names .paymentFailed obj row ∧ ∃ now, mv = .fail now
  | kind => Names kind obj row ∧ ∃ t target, asked = some t ∧ statusAt t obj = .ok target ∧
      mv = syncMove target

/-- What a request may do to a row; `start` is the first state of the database it read. -/
def Request.Offers (start : Option (Db S)) (asked : Option Datetime) (row : Subscription) (mv : Move) :
    Request → Prop
  | .subscribe _ _ => False
  | .changePlan _ _ | .resume _ | .overridePlan _ _ _ => mv = .edit
  | .cancel _ immediate => mv = if immediate then .assign .canceled else .edit
  | .setStatus user id rawStatus => requireAdminAction user = .ok () ∧ row.id = id ∧
    ∃ target, SubscriptionStatus.ofValue? rawStatus = some target ∧ mv = .assign target
  | .payInvoice _ _ | .markPaid _ _ => mv = .recover
  | .dunningSweep => mv = .expire ∨ ∃ now, mv = .remind now
  | r => ∃ d event kind obj, start = some d ∧ r.event? = some event ∧
      handled d event = some (kind, obj) ∧ kind.Offers obj asked row mv

/-- The subscription object a checkout carries reads as `target`. -/
def CheckoutStatus (obj : Value) (asked : Option Datetime) (target : SubscriptionStatus) : Prop :=
  ∃ t stripeSub, asked = some t ∧ obj.get "stripe_subscription_object" = .ok stripeSub ∧
    stripeSub.isDict = true ∧ statusAt t stripeSub = .ok target

/-- The standing in which a request may open a subscription. -/
def Request.Opens (start : Option (Db S)) (asked : Option Datetime) (x : Standing) (r : Request) :
    Prop :=
  x.failures = 0 ∧ x.nextRetry = none ∧
    match r with
    | .subscribe _ _ => x.status = .active ∨ x.status = .trialing
    | r => ∃ d event obj, start = some d ∧ r.event? = some event ∧
        handled d event = some (.checkoutCompleted, obj) ∧
        (x.status = .active ∨ CheckoutStatus obj asked x.status)

section Offers

variable {r : Request} {start : Option (Db S)} {asked : Option Datetime}

/-- A request with an event offers what the handler of the event does. -/
lemma Request.Offers.event {row : Subscription} {mv : Move} (h : r.Offers start asked row mv)
    {event : Value} (he : r.event? = some event) :
    ∃ d kind obj, start = some d ∧ handled d event = some (kind, obj) ∧ kind.Offers obj asked row mv := by
  have hevent : (∃ d event kind obj, start = some d ∧ r.event? = some event ∧
      handled d event = some (kind, obj) ∧ kind.Offers obj asked row mv) →
      ∃ d kind obj, start = some d ∧ handled d event = some (kind, obj) ∧ kind.Offers obj asked row mv := by
    rintro ⟨d, event', kind, obj, hd, he', hh, ho⟩
    rw [he] at he'
    cases he'
    exact ⟨d, kind, obj, hd, hh, ho⟩
  cases r with
  | webhook request => exact hevent h
  | processEvent event' bus => exact hevent h
  | _ => cases he

/-- A subscription is opened by the endpoint or by a checkout. -/
lemma Request.Opens.cases {x : Standing} (h : r.Opens start asked x) :
    (∃ user planId, r = .subscribe user planId ∧ (x.status = .active ∨ x.status = .trialing)) ∨
      ∃ d event obj, start = some d ∧ r.event? = some event ∧
        handled d event = some (.checkoutCompleted, obj) ∧
        (x.status = .active ∨ CheckoutStatus obj asked x.status) := by
  obtain ⟨-, -, ho⟩ := h
  cases r with
  | subscribe user planId => exact .inl ⟨user, planId, rfl, ho⟩
  | _ => exact .inr ho

end Offers

/-! ### What a request may commit -/

def standing (x : Subscription) : Standing := ⟨x.status, x.failedPaymentCount, x.nextRetryAt⟩

/-- The change of a row is an allowed move. -/
def Moves (P : Policy) (offer : Move → Prop) (loaded cur : Subscription) : Prop :=
  cur.id = loaded.id ∧ ∃ mv, offer mv ∧ mv.Allowed P (standing loaded) ∧
    standing cur = mv.apply P (standing loaded)

/-- The row was read, and not before the last commit. -/
def Seen (m : View S) (row : Subscription) : Prop := ∃ d ∈ m.reads, row ∈ d.subscriptions.rows

/-- The commits of a request. -/
structure Proper (cfg : Settings) (r : Request) (m : View S) (cs : List Change) : Prop where
  informed : m.start ≠ none
  once : cs.any writes = true → m.wrote = false
  apart : (targets cs).Nodup
  updates : ∀ loaded cur, .updateSubscription loaded cur ∈ cs →
    Seen m loaded ∧ Moves cfg.policy (fun mv => r.Offers m.start m.asked loaded mv) loaded cur
  opens : ∀ row, .insertSubscription row ∈ cs →
    cs = [.insertSubscription row] ∧ r.Opens m.start m.asked (standing row)
  ledger : ∀ row, .insertStripeEvent row ∈ cs → cs = [.insertStripeEvent row]
  stamps : ∀ loaded cur, .updateStripeEvent loaded cur ∈ cs → cur.eventId = loaded.eventId

lemma Seen.informed {m : View S} {row : Subscription} (h : Seen m row) : m.start ≠ none := by
  obtain ⟨d, hd, -⟩ := h
  exact m.informed (List.ne_nil_of_mem hd)

lemma Seen.grows {m m' : View S} {row : Subscription} (h : Seen m row) (hm : View.Grows m m') :
    Seen m' row := by
  obtain ⟨d, hd, hrow⟩ := h
  exact ⟨d, hm.reads d hd, hrow⟩

namespace Proper

variable {cfg : Settings} {r : Request} {m : View S}

/-- No subscription is written. -/
lemma quiet {c : Change} (hin : m.start ≠ none) (h : writes c = false)
    (hst : ∀ loaded cur, c = .updateStripeEvent loaded cur → cur.eventId = loaded.eventId) :
    Proper cfg r m [c] where
  informed := hin
  once hw := by simp [h] at hw
  apart := by
    have ht : c.target = none := by
      simp only [writes, Bool.or_eq_false_iff] at h
      simpa using h.1
    simp [targets, ht]
  updates l k hc := by
    cases List.mem_singleton.1 hc
    simp [writes, Change.target] at h
  opens row hc := by
    cases List.mem_singleton.1 hc
    simp [writes, Change.opened] at h
  ledger row hc := by rw [← List.mem_singleton.1 hc]
  stamps l k hc := hst l k (List.mem_singleton.1 hc).symm

/-- One row is changed. -/
lemma single {loaded cur : Subscription} (hw : m.wrote = false) (hseen : Seen m loaded)
    (hmv : Moves cfg.policy (fun mv => r.Offers m.start m.asked loaded mv) loaded cur) :
    Proper cfg r m [.updateSubscription loaded cur] where
  informed := hseen.informed
  once _ := hw
  apart := by simp [targets, Change.target]
  updates l k hc := by
    cases List.mem_singleton.1 hc
    exact ⟨hseen, hmv⟩
  opens row hc := by cases List.mem_singleton.1 hc
  ledger row hc := by cases List.mem_singleton.1 hc
  stamps l k hc := by cases List.mem_singleton.1 hc

/-- An invoice is changed together with rows. -/
lemma withInvoice {loaded cur : Invoice} {cs : List Change} (h : Proper cfg r m cs)
    (hcs : ∀ c ∈ cs, c.target.isSome = true) : Proper cfg r m (.updateInvoice loaded cur :: cs) where
  informed := h.informed
  once hw := h.once (by simpa [writes, Change.target, Change.opened] using hw)
  apart := h.apart
  updates l k hlk := by
    rcases List.mem_cons.1 hlk with hlk | hlk
    · cases hlk
    · exact h.updates l k hlk
  opens row hrow := by
    rcases List.mem_cons.1 hrow with hrow | hrow
    · cases hrow
    · cases hcs _ hrow
  ledger row hrow := by
    rcases List.mem_cons.1 hrow with hrow | hrow
    · cases hrow
    · cases hcs _ hrow
  stamps l k hlk := by
    rcases List.mem_cons.1 hlk with hlk | hlk
    · cases hlk
    · exact h.stamps l k hlk

/-- One row is opened. -/
lemma opening {row : Subscription} (hin : m.start ≠ none) (hw : m.wrote = false)
    (ho : r.Opens m.start m.asked (standing row)) : Proper cfg r m [.insertSubscription row] where
  informed := hin
  once _ := hw
  apart := List.nodup_nil
  updates l k hc := by cases List.mem_singleton.1 hc
  opens row' hc := by
    cases List.mem_singleton.1 hc
    exact ⟨rfl, ho⟩
  ledger row' hc := by cases List.mem_singleton.1 hc
  stamps l k hc := by cases List.mem_singleton.1 hc

end Proper

/-! ### The moves of the code -/

lemma standing_setStatus (P : Policy) (now : Datetime) (target : SubscriptionStatus)
    (x : Subscription) : standing (setStatus now target x) = (Move.assign target).apply P (standing x) := by
  cases target with
  | active =>
    simp only [setStatus, Move.apply]
    obtain ⟨hc, hn⟩ := resetDunning_clear x
    split <;> rename_i h
    · rw [if_pos (show (standing x).status = .pastDue from h)]
      simp [standing, hc, hn]
    · rw [if_neg (show (standing x).status ≠ .pastDue from h)]
      rfl
  | _ => rfl

end FastapiTemplate.Billing
