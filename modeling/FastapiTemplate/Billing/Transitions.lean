import FastapiTemplate.Billing.Runs

/-!
# The transition table holds along a run

Every writer but one asks the transition table before it changes a status: the Stripe sync assigns
`trialing` unasked. `status_changes_legal` is the table's rule for every run in which that does not
happen, `sync_reopens_canceled` a run in which it does.
-/

namespace FastapiTemplate.Billing

open Core Database Python Effects

variable {S : Schema} {cfg : Settings}

/-- Every row is kept, and its status changes as the table allows. -/
def LegalChange (b d : Db S) : Prop :=
  ∀ x ∈ b.subscriptions.rows, ∃ x' ∈ d.subscriptions.rows, x'.id = x.id ∧ Legal x.status x'.status

/-- A row in a terminal status keeps it. -/
def KeepsTerminal (b d : Db S) : Prop :=
  ∀ x ∈ b.subscriptions.rows, x.status = .canceled ∨ x.status = .suspended →
    ∃ x' ∈ d.subscriptions.rows, x'.id = x.id ∧ x'.status = x.status

instance (b d : Db S) : Decidable (LegalChange b d) :=
  inferInstanceAs (Decidable (∀ x ∈ b.subscriptions.rows, ∃ x' ∈ d.subscriptions.rows,
    x'.id = x.id ∧ (x'.status = x.status ∨ x'.status ∈ allowedTransitions x.status)))

/-- The request takes over a status of Stripe into a row: a fresh event about the row, whose object
reads as `target`. -/
def Served.SyncsTo (s : Served) (start : Db S) (target : SubscriptionStatus) (row : Subscription) :
    Prop :=
  ∃ event kind obj, s.request.event? = some event ∧ handled start event = some (kind, obj) ∧
    (kind = .subscriptionUpdated ∨ kind = .subscriptionDeleted) ∧ Names kind obj row ∧
    statusAt (s.env.clock 0) obj = .ok target

/-- The request syncs a row that is not in trial back to `trialing`. -/
def Served.ReopensTrial (start : Db S) (s : Served) : Prop :=
  ∃ row ∈ start.subscriptions.rows, row.status ≠ .trialing ∧ s.SyncsTo start .trialing row

/-- The two moves that a sync can be, with the event behind them. -/
lemma Served.Offers.syncsTo {s : Served} {start : Db S} {row : Subscription} {mv : Move}
    (h : s.Offers start row mv) (hmv : mv = .trial ∨ mv = .assign .pastDue) :
    s.SyncsTo start (if mv = .trial then .trialing else .pastDue) row ∨
      ∃ user rawStatus, s.request = .setStatus user row.id rawStatus ∧
        requireAdminAction user = .ok () ∧ mv = .assign .pastDue ∧
        SubscriptionStatus.ofValue? rawStatus = some .pastDue := by
  have hevent : ∀ event, s.request.event? = some event →
      s.SyncsTo start (if mv = .trial then .trialing else .pastDue) row := by
    intro event he
    obtain ⟨d, kind, obj, hd, hh, ho⟩ := Request.Offers.event h he
    cases hd
    have hsync : ∀ {t target}, some (s.env.clock 0) = some t → statusAt t obj = .ok target →
        mv = syncMove target →
        statusAt (s.env.clock 0) obj = .ok (if mv = .trial then .trialing else .pastDue) := by
      rintro t target ht hst rfl
      cases ht
      rw [hst]
      cases target <;> simp_all [syncMove]
    cases kind with
    | checkoutCompleted =>
      have hedit : mv = .edit := ho
      rcases hmv with rfl | rfl <;> cases hedit
    | paymentFailed =>
      obtain ⟨-, now, hfail⟩ := ho
      rcases hmv with rfl | rfl <;> cases hfail
    | subscriptionUpdated =>
      obtain ⟨hn, t, target, ht, hst, hm⟩ := ho
      exact ⟨event, _, obj, he, hh, .inl rfl, hn, hsync ht hst hm⟩
    | subscriptionDeleted =>
      obtain ⟨hn, t, target, ht, hst, hm⟩ := ho
      exact ⟨event, _, obj, he, hh, .inr rfl, hn, hsync ht hst hm⟩
  unfold Served.Offers at h
  cases hr : s.request with
  | webhook request =>
    rw [hr] at h hevent
    obtain ⟨-, event, -, -, -, he, -⟩ := h
    exact .inl (hevent event he)
  | processEvent event bus =>
    rw [hr] at h hevent
    exact .inl (hevent event rfl)
  | setStatus user id rawStatus =>
    rw [hr] at h
    obtain ⟨hadmin, hid, target, htarget, hm⟩ := h
    right
    rcases hmv with rfl | rfl
    · cases hm
    · cases hm
      exact ⟨user, rawStatus, by rw [hid], hadmin, rfl, htarget⟩
  | cancel user immediate =>
    rw [hr] at h
    have hm : mv = if immediate then .assign .canceled else .edit := h
    rcases hmv with rfl | rfl <;> cases immediate <;> cases hm
  | dunningSweep =>
    rw [hr] at h
    rcases h with h | ⟨now, h⟩ <;> rcases hmv with rfl | rfl <;> cases h
  | _ =>
    rw [hr] at h
    first
      | exact h.elim
      | (rcases hmv with rfl | rfl <;> cases h)

/-- One commit, in a run where no row is reopened. -/
lemma Committed.not_trial {s : Served} {start b d : Db S} {cs : List Change}
    (hs : ¬s.ReopensTrial start) (h : Committed cfg s start b cs d) {x : Subscription}
    (hx : x ∈ b.subscriptions.rows) : ∃ x' ∈ d.subscriptions.rows, x'.id = x.id ∧
      (standing x' = standing x ∨ ∃ mv : Move, mv ≠ .trial ∧ mv.Allowed cfg.policy (standing x) ∧
        standing x' = mv.apply cfg.policy (standing x)) := by
  obtain ⟨x', hx', hid, hcarried⟩ := h.kept hx
  refine ⟨x', hx', hid, hcarried.imp id ?_⟩
  rintro ⟨hstart, mv, hoffer, hallowed, happly⟩
  refine ⟨mv, ?_, hallowed, happly⟩
  rintro rfl
  rcases hoffer.syncsTo (.inl rfl) with hsync | ⟨_, _, _, _, hmv, _⟩
  · exact hs ⟨x, hstart, hallowed, hsync⟩
  · cases hmv

/-- **The transition table holds along every run.** If no request of the run syncs a row that is not
in trial to `trialing`, every change of a stored status is one the table allows, and a row once
canceled or suspended stays so. -/
theorem status_changes_legal {db : Db S} {steps : List Served}
    (h : Along (fun start s => ¬s.ReopensTrial start) cfg db steps) :
    (history cfg db steps).IsChain LegalChange ∧ (history cfg db steps).Pairwise KeepsTerminal := by
  constructor
  · refine h.journal.isChain ?_
    rintro b cs d ⟨start, s, hs, hc⟩ x hx
    obtain ⟨x', hx', hid, hst⟩ := hc.not_trial hs hx
    refine ⟨x', hx', hid, ?_⟩
    rcases hst with hst | ⟨mv, hmv, hallowed, happly⟩
    · exact .inl (congrArg Standing.status hst)
    · have hlegal := Move.legal hmv hallowed
      rw [← happly] at hlegal
      exact hlegal
  · refine h.journal.pairwise ?_ ?_
    · rintro b cs d ⟨start, s, hs, hc⟩ x hx hterm
      obtain ⟨x', hx', hid, hst⟩ := hc.not_trial hs hx
      refine ⟨x', hx', hid, ?_⟩
      rcases hst with hst | ⟨mv, hmv, hallowed, happly⟩
      · exact congrArg Standing.status hst
      · have hfinal : (standing x).Final := allowedTransitions_eq_nil.2 hterm
        rw [Move.final hmv hfinal hallowed] at happly
        exact congrArg Standing.status happly
    · intro a b c hab hbc x hx hterm
      obtain ⟨x', hx', hid, hst⟩ := hab x hx hterm
      obtain ⟨x'', hx'', hid', hst'⟩ := hbc x' hx' (by rwa [hst])
      exact ⟨x'', hx'', hid'.trans hid, hst'.trans hst⟩

/-- Tenant 1 with one subscription. -/
def Sample.db (row : Subscription) (h : Schema.metadata.admits (.seed [] [] [row] []) = true) :
    Db .metadata := ⟨.seed [] [] [row] [], h⟩

/-- A run the theorem is about: Stripe cancels an active subscription. -/
theorem status_changes_legal_canceled :
    (history Sample.settings (Sample.db (Sample.row .active 0 none) (by decide))
      [Sample.deliver (Sample.updated "evt_1" "canceled")]).IsChain LegalChange ∧
    (history Sample.settings (Sample.db (Sample.row .active 0 none) (by decide))
      [Sample.deliver (Sample.updated "evt_1" "canceled")]).Pairwise KeepsTerminal := by
  refine status_changes_legal ⟨?_, trivial⟩
  rintro ⟨row, -, -, event, kind, obj, he, hh, -, -, hst⟩
  cases he
  cases hh
  revert hst
  decide +kernel

/-- The one way round the table: a subscription that Stripe canceled goes back on trial. -/
theorem sync_reopens_canceled :
    ¬(history Sample.settings (Sample.db (Sample.row .active 0 none) (by decide))
      [Sample.deliver (Sample.updated "evt_1" "canceled"),
        Sample.deliver (Sample.updated "evt_2" "trialing")]).IsChain LegalChange := by
  decide +kernel

end FastapiTemplate.Billing
