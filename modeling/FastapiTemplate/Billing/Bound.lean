import FastapiTemplate.Billing.Termination

/-!
# The bound on the schedule

Failed payments, ticks of the sweep and recoveries in any order. A tick looks at the limit and a
failed payment does not, so `schedule_bounded` asks for one thing: that no failure comes for a row
that is at the limit. `failures_pass_limit` is a run where one does.
-/

namespace FastapiTemplate.Billing

open Core Database Python Effects Script

variable {S : Schema} {cfg : Settings}

/-- Every row in dunning is within the limit. -/
def BoundedDb (cfg : Settings) (d : Db S) : Prop :=
  ∀ x ∈ d.subscriptions.rows, (standing x).Bounded cfg.policy

instance (cfg : Settings) (d : Db S) : Decidable (BoundedDb cfg d) :=
  inferInstanceAs (Decidable (∀ x ∈ d.subscriptions.rows, (standing x).Bounded cfg.policy))

/-- A row at the limit stays where it is, is suspended, or recovers. -/
def HoldsLimit (cfg : Settings) (b d : Db S) : Prop :=
  ∀ x ∈ b.subscriptions.rows, x.status = .pastDue → cfg.dunningMaxAttempts ≤ x.failedPaymentCount →
    ∃ x' ∈ d.subscriptions.rows, x'.id = x.id ∧
      (standing x' = standing x ∨ x'.status = .suspended ∨
        x'.status = .active ∧ x'.failedPaymentCount = 0)

/-- A failed payment, a run of the task, or a payment of an invoice. -/
def Served.Dunning (start : Db S) (s : Served) : Prop :=
  match s.request with
  | .dunningSweep | .markPaid _ _ | .payInvoice _ _ => True
  | r => ∃ event, r.event? = some event ∧
      ∀ kind obj, handled start event = some (kind, obj) → kind = .paymentFailed

/-- A fresh `invoice.payment_failed` comes for a live row whose count has reached the limit. -/
def Served.FailsAtLimit (cfg : Settings) (start : Db S) (s : Served) : Prop :=
  ∃ event obj, s.request.event? = some event ∧ handled start event = some (.paymentFailed, obj) ∧
    ∃ row ∈ start.subscriptions.rows, Names .paymentFailed obj row ∧
      (row.status = .pastDue ∨ .pastDue ∈ allowedTransitions row.status) ∧
      cfg.dunningMaxAttempts ≤ row.failedPaymentCount

/-- The moves of the three. -/
lemma Served.Dunning.moves {s : Served} {start : Db S} (hs : s.Dunning start) {row : Subscription}
    {mv : Move} (h : s.Offers start row mv) :
    mv = .recover ∨ mv = .expire ∨ (∃ now, mv = .remind now) ∨
      ∃ now event obj, mv = .fail now ∧ s.request.event? = some event ∧
        handled start event = some (.paymentFailed, obj) ∧ Names .paymentFailed obj row := by
  have hevent : (∃ event, s.request.event? = some event ∧
        ∀ kind obj, handled start event = some (kind, obj) → kind = .paymentFailed) →
      ∃ now event obj, mv = .fail now ∧ s.request.event? = some event ∧
        handled start event = some (.paymentFailed, obj) ∧ Names .paymentFailed obj row := by
    rintro ⟨event, he, hkind⟩
    obtain ⟨d, kind, obj, hd, hh, hoffer⟩ := Request.Offers.event h he
    cases hd
    have hk := hkind kind obj hh
    subst hk
    obtain ⟨hn, now, hfail⟩ := hoffer
    exact ⟨now, event, obj, hfail, he, hh, hn⟩
  unfold Served.Offers at h
  unfold Served.Dunning at hs
  cases hr : s.request with
  | dunningSweep =>
    rw [hr] at h
    rcases h with h | h
    · exact .inr (.inl h)
    · exact .inr (.inr (.inl h))
  | markPaid invoiceId bus =>
    rw [hr] at h
    exact .inl h
  | payInvoice caller invoiceId =>
    rw [hr] at h
    exact .inl h
  | _ =>
    rw [hr] at hs hevent
    exact .inr (.inr (.inr (hevent hs)))

/-- None of the three opens a subscription. -/
lemma Served.Dunning.opens {s : Served} {start : Db S} (hs : s.Dunning start) {x : Standing} :
    ¬s.Opens start x := by
  intro ho
  unfold Served.Dunning at hs
  rcases Request.Opens.cases ho with ⟨user, planId, hr, -⟩ | ⟨d, event, obj, hd, he, hh, -⟩
  · rw [hr] at hs
    obtain ⟨event, he, -⟩ := hs
    cases he
  · cases hd
    have hevent : (∃ event, s.request.event? = some event ∧
        ∀ kind obj, handled start event = some (kind, obj) → kind = .paymentFailed) → False := by
      rintro ⟨event', he', hkind⟩
      rw [he] at he'
      cases he'
      cases hkind _ obj hh
    cases hr : s.request with
    | webhook request =>
      rw [hr] at hs hevent
      exact hevent hs
    | processEvent event' bus =>
      rw [hr] at hs hevent
      exact hevent hs
    | _ =>
      rw [hr] at he
      cases he

section Step

variable {s : Served} {start b d : Db S} {cs : List Change}

lemma Committed.bounded (hs : s.Dunning start) (hlim : ¬s.FailsAtLimit cfg start)
    (h : Committed cfg s start b cs d) (hb : BoundedDb cfg b) : BoundedDb cfg d := by
  intro x' hx'
  rcases h.origin hx' with ⟨x, hx, -, hst⟩ | hopen
  · rcases hst with hst | ⟨hstart, mv, hoffer, hallowed, happly⟩
    · rw [hst]
      exact hb x hx
    · rw [happly]
      refine Move.bounded ?_ hallowed (hb x hx)
      rcases hs.moves hoffer with rfl | rfl | ⟨now, rfl⟩ | ⟨now, event, obj, rfl, he, hh, hn⟩
      · trivial
      · trivial
      · trivial
      · by_contra hl
        exact hlim ⟨event, obj, he, hh, x, hstart, hn, hallowed, not_lt.1 hl⟩
  · exact absurd hopen hs.opens

lemma Committed.holdsLimit (hs : s.Dunning start) (hlim : ¬s.FailsAtLimit cfg start)
    (h : Committed cfg s start b cs d) : HoldsLimit cfg b d := by
  intro x hx hpd hl
  obtain ⟨x', hx', hid, hst⟩ := h.kept hx
  refine ⟨x', hx', hid, hst.imp id ?_⟩
  rintro ⟨hstart, mv, hoffer, hallowed, happly⟩
  rcases hs.moves hoffer with rfl | rfl | ⟨now, rfl⟩ | ⟨now, event, obj, rfl, he, hh, hn⟩
  · exact .inr ⟨congrArg Standing.status happly, congrArg Standing.failures happly⟩
  · exact .inl (congrArg Standing.status happly)
  · have hbelow : x.failedPaymentCount < cfg.dunningMaxAttempts := hallowed.2
    omega
  · exact absurd ⟨event, obj, he, hh, x, hstart, hn, hallowed, hl⟩ hlim

end Step

/-! ### The task among the requests -/

/-- An enabled task outside any tenant context is the sweep. -/
lemma serveOne_sweep {db : Db S} {s : Served} (hr : s.request = .dunningSweep) (ht : s.tenant = none)
    (hon : cfg.billingDunningEnabled = true) :
    (serveOne cfg db s).db = (sweep cfg db s.env).world.db := by
  unfold serveOne
  rw [hr, ht]
  show ((do let _ ← processDunning cfg : Py S Unit).exec serve _ _).world.db = _
  unfold processDunning
  rw [if_pos hon, exec_bind, exec_map]
  show _ = ((processDunningAsync cfg).exec serve _ _).world.db
  rcases (processDunningAsync cfg).exec serve {} (World.start db s.env) with ⟨_ | _, s', w'⟩ <;> rfl

lemma serveAll_snoc (db : Db S) (before : List Served) (s : Served) :
    serveAll cfg db (before ++ [s]) = (serveOne cfg (serveAll cfg db before) s).db := by
  induction before generalizing db with
  | nil => rfl
  | cons e before ih => exact ih _

/-- **The schedule stays within the limit.** Over failed payments, runs of the task and recoveries in
any order, if no failure comes for a live row that is at the limit: in every committed state a row past
due has a count within the limit, a row at the limit is left alone, suspended or recovered, and a run
of the task that returns suspends every due row at the limit. -/
theorem schedule_bounded {db : Db S} {steps : List Served} (hdb : BoundedDb cfg db)
    (h : Along (fun start s => s.Dunning start ∧ ¬s.FailsAtLimit cfg start) cfg db steps) :
    (∀ d ∈ history cfg db steps, BoundedDb cfg d) ∧
    (history cfg db steps).IsChain (HoldsLimit cfg) ∧
    ∀ before s after, steps = before ++ s :: after → s.request = .dunningSweep → s.tenant = none →
      cfg.billingDunningEnabled = true →
      (∃ st, (sweep cfg (serveAll cfg db before) s.env).result = .ok st) →
      ∀ x ∈ dueRows (serveAll cfg db before) (s.env.clock 0),
        cfg.dunningMaxAttempts ≤ x.failedPaymentCount →
        ∃ x' ∈ (serveAll cfg db (before ++ [s])).subscriptions.rows,
          x'.id = x.id ∧ x'.status = .suspended := by
  refine ⟨h.journal.invariant ?_ hdb, h.journal.isChain ?_, ?_⟩
  · rintro b cs d ⟨start, s, ⟨hs, hlim⟩, hc⟩ hb
    exact hc.bounded hs hlim hb
  · rintro b cs d ⟨start, s, ⟨hs, hlim⟩, hc⟩
    exact hc.holdsLimit hs hlim
  · rintro before s after - hr ht hon ⟨st, hst⟩ x hx hl
    obtain ⟨hmem, hdue⟩ := isDue_of_mem hx
    obtain ⟨x', hx', hid, hswept, -⟩ := sweep_swept hst x hmem
    rw [serveAll_snoc, serveOne_sweep hr ht hon]
    have hlimit : cfg.policy.limit ≤ (standing x).failures := hl
    rw [Standing.swept_limit hdue hlimit] at hswept
    exact ⟨x', hx', hid, congrArg Standing.status hswept⟩

/-- A run of the theorem: two failed payments. -/
theorem schedule_bounded_failures :
    (∀ d ∈ history Sample.settings (Sample.db (Sample.row .active 0 none) (by decide))
      [Sample.deliver (Sample.paymentFailed "evt_1"), Sample.deliver (Sample.paymentFailed "evt_2")],
      BoundedDb Sample.settings d) ∧
    (history Sample.settings (Sample.db (Sample.row .active 0 none) (by decide))
      [Sample.deliver (Sample.paymentFailed "evt_1"), Sample.deliver (Sample.paymentFailed "evt_2")]).IsChain
      (HoldsLimit Sample.settings) := by
  have hstep : ∀ (start : Db .metadata) (eventId : String),
      (∀ x ∈ start.subscriptions.rows, x.failedPaymentCount < 4) →
      (Sample.deliver (Sample.paymentFailed eventId)).Dunning start ∧
        ¬(Sample.deliver (Sample.paymentFailed eventId)).FailsAtLimit Sample.settings start := by
    intro start eventId hcount
    refine ⟨⟨_, rfl, fun kind obj hh => ?_⟩, ?_⟩
    · obtain ⟨eventType, hty, hkind⟩ := handled_kind hh
      cases hty
      exact (Option.some.inj hkind).symm
    · rintro ⟨event, obj, -, -, row, hrow, -, -, hl⟩
      exact absurd (hcount row hrow) (not_lt.2 hl)
  have halong : Along (fun start s => s.Dunning start ∧ ¬s.FailsAtLimit Sample.settings start)
      Sample.settings (Sample.db (Sample.row .active 0 none) (by decide))
      [Sample.deliver (Sample.paymentFailed "evt_1"), Sample.deliver (Sample.paymentFailed "evt_2")] :=
    ⟨hstep _ "evt_1" (by decide +kernel), hstep _ "evt_2" (by decide +kernel), trivial⟩
  obtain ⟨hbounded, hholds, -⟩ := schedule_bounded (by decide +kernel) halong
  exact ⟨hbounded, hholds⟩

/-- Five failures in a row pass a limit of four, and the subscription is not suspended. -/
theorem failures_pass_limit :
    ¬∀ d ∈ history Sample.settings (Sample.db (Sample.row .active 0 none) (by decide))
      (["evt_1", "evt_2", "evt_3", "evt_4", "evt_5"].map fun eventId =>
        Sample.deliver (Sample.paymentFailed eventId)), BoundedDb Sample.settings d := by
  decide +kernel

end FastapiTemplate.Billing
