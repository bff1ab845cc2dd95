import FastapiTemplate.Billing.Transitions

/-!
# Status and schedule agree along a run

`coherent_history`: a row past due is on the dunning schedule, and a row active or in trial has nothing
left of it, in every committed state of a run whose requests all keep the two together. Four writers
set a status and not the schedule (`Served.Uncoordinated`); `sync_pastDue_unscheduled` is one of them
at work.
-/

namespace FastapiTemplate.Billing

open Core Database Python Effects

variable {S : Schema} {cfg : Settings}

/-- Every row of the database is coherent. -/
def CoherentDb (d : Db S) : Prop := ∀ x ∈ d.subscriptions.rows, (standing x).Coherent

instance (d : Db S) : Decidable (CoherentDb d) :=
  inferInstanceAs (Decidable (∀ x ∈ d.subscriptions.rows, (standing x).Coherent))

/-- The request writes a status without the schedule that belongs to it. -/
inductive Served.Uncoordinated (start : Db S) (s : Served) : Prop where
  /-- Stripe's `past_due` is taken over, which leaves count and next retry as they are. -/
  | syncPastDue (row : Subscription) (hrow : row ∈ start.subscriptions.rows)
      (hstatus : .pastDue ∈ allowedTransitions row.status) (hsync : s.SyncsTo start .pastDue row)
  /-- Stripe's `trialing` is taken over while there is a schedule. -/
  | syncTrialing (row : Subscription) (hrow : row ∈ start.subscriptions.rows)
      (hstatus : row.status ≠ .trialing)
      (hleft : ¬(row.failedPaymentCount = 0 ∧ row.nextRetryAt = none))
      (hsync : s.SyncsTo start .trialing row)
  /-- An admin sets `past_due`. -/
  | adminPastDue (row : Subscription) (hrow : row ∈ start.subscriptions.rows)
      (hstatus : .pastDue ∈ allowedTransitions row.status) (user : User) (rawStatus : String)
      (hreq : s.request = .setStatus user row.id rawStatus) (hadmin : requireAdminAction user = .ok ())
      (hraw : SubscriptionStatus.ofValue? rawStatus = some .pastDue)
  /-- A checkout creates a subscription that Stripe has as `past_due`. -/
  | checkoutPastDue (event obj : Value) (hevent : s.request.event? = some event)
      (hhandled : handled start event = some (.checkoutCompleted, obj))
      (hstatus : CheckoutStatus obj (some (s.env.clock 0)) .pastDue)

/-- An offered move keeps status and schedule together, the request being coordinated. -/
lemma Served.Offers.schedules {s : Served} {start : Db S} {row : Subscription} {mv : Move}
    (hs : ¬s.Uncoordinated start) (hrow : row ∈ start.subscriptions.rows) (h : s.Offers start row mv)
    (hallowed : mv.Allowed cfg.policy (standing row)) : mv.Schedules (standing row) := by
  cases mv with
  | trial =>
    by_contra hleft
    rcases h.syncsTo (.inl rfl) with hsync | ⟨_, _, _, _, hmv, _⟩
    · exact hs (.syncTrialing row hrow hallowed hleft hsync)
    · cases hmv
  | assign target =>
    rintro rfl
    rcases h.syncsTo (.inr rfl) with hsync | ⟨user, raw, hreq, hadmin, -, hraw⟩
    · exact hs (.syncPastDue row hrow hallowed hsync)
    · exact hs (.adminPastDue row hrow hallowed user raw hreq hadmin hraw)
  | _ => trivial

/-- A subscription that a coordinated request opens is coherent. -/
lemma Served.Opens.coherent {s : Served} {start : Db S} {x : Standing} (hs : ¬s.Uncoordinated start)
    (h : s.Opens start x) : x.Coherent := by
  refine ⟨fun hpd => ?_, fun _ => ⟨h.1, h.2.1⟩⟩
  exfalso
  rcases Request.Opens.cases h with ⟨user, planId, -, hst⟩ | ⟨d, event, obj, hd, he, hh, hst⟩
  · rw [hpd] at hst
    rcases hst with hst | hst <;> cases hst
  · cases hd
    rw [hpd] at hst
    rcases hst with hst | hst
    · cases hst
    · exact hs (.checkoutPastDue event obj he hh hst)

/-- **Status and schedule agree along every run.** From a coherent database, and if no request of the
run writes a status without its schedule, every committed row is coherent. -/
theorem coherent_history {db : Db S} {steps : List Served} (hdb : CoherentDb db)
    (h : Along (fun start s => ¬s.Uncoordinated start) cfg db steps) :
    ∀ d ∈ history cfg db steps, CoherentDb d := by
  refine h.journal.invariant ?_ hdb
  rintro b cs d ⟨start, s, hs, hc⟩ hb x' hx'
  rcases hc.origin hx' with ⟨x, hx, -, hst⟩ | hopen
  · rcases hst with hst | ⟨hstart, mv, hoffer, hallowed, happly⟩
    · rw [hst]
      exact hb x hx
    · rw [happly]
      exact Move.coherent (hoffer.schedules hs hstart hallowed) hallowed (hb x hx)
  · exact hopen.coherent hs

/-- A run the theorem is about: a failed payment of an active subscription. -/
theorem coherent_history_failure :
    CoherentDb (Sample.db (Sample.row .active 0 none) (by decide)) ∧
    ∀ d ∈ history Sample.settings (Sample.db (Sample.row .active 0 none) (by decide))
      [Sample.deliver (Sample.paymentFailed "evt_1")], CoherentDb d := by
  refine ⟨by decide +kernel, coherent_history (by decide +kernel) ⟨?_, trivial⟩⟩
  have hkind : ∀ {event kind obj}, (Sample.deliver (Sample.paymentFailed "evt_1")).request.event?
      = some event → handled (Sample.db (Sample.row .active 0 none) (by decide)) event
      = some (kind, obj) → kind = .paymentFailed := by
    intro event kind obj he hh
    cases he
    cases hh
    rfl
  rintro (⟨_, _, _, _, _, _, he, hh, hk, -⟩ | ⟨_, _, _, _, _, _, _, he, hh, hk, -⟩ |
    ⟨_, _, _, _, _, hreq, _, _⟩ | ⟨_, _, he, hh, _⟩)
  · rcases hk with rfl | rfl <;> cases hkind he hh
  · rcases hk with rfl | rfl <;> cases hkind he hh
  · cases hreq
  · cases hkind he hh

/-- Stripe's `past_due` leaves a subscription past due that no sweep will ever see. -/
theorem sync_pastDue_unscheduled :
    CoherentDb (Sample.db (Sample.row .active 0 none) (by decide)) ∧
    ¬∀ d ∈ history Sample.settings (Sample.db (Sample.row .active 0 none) (by decide))
      [Sample.deliver (Sample.updated "evt_1" "past_due")], CoherentDb d := by
  decide +kernel

end FastapiTemplate.Billing
