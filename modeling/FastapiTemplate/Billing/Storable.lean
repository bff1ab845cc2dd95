import FastapiTemplate.Billing.Sweep
import FastapiTemplate.Billing.Transitions

/-!
# What a sweep persists under the migrated schema

The `CHECK` of the migrations does not list `suspended`, and a sweep is one transaction. So a sweep
persists what it computed for its rows exactly if it suspends none of them (`sweep_persists_iff`);
otherwise it persists nothing at all (`sweep_refused`), and since nothing changes, no later sweep does.
-/

namespace FastapiTemplate.Billing

open Core Database Python Effects

variable {S : Schema} {cfg : Settings}

/-- Every due row is stored with the outcome of its tick: one position further on, or suspended. -/
def Persists (cfg : Settings) (now : Datetime) (b d : Db S) : Prop :=
  ∀ x ∈ dueRows b now, ∃ x' ∈ d.subscriptions.rows, x'.id = x.id ∧
    standing x' = (standing x).swept cfg.policy now

instance (cfg : Settings) (now : Datetime) (b d : Db S) : Decidable (Persists cfg now b d) :=
  inferInstanceAs (Decidable (∀ x ∈ dueRows b now, ∃ x' ∈ d.subscriptions.rows, x'.id = x.id ∧
    standing x' = (standing x).swept cfg.policy now))

/-- A schema that does not accept `suspended` refuses every sweep with a row at the limit. -/
theorem sweep_refused (hS : S.accepts .suspended = false) {db : Db S} {env : Env} {x : Subscription}
    (hx : x ∈ dueRows db (env.clock 0)) (hl : cfg.dunningMaxAttempts ≤ x.failedPaymentCount) :
    (sweep cfg db env).world.db = db := by
  obtain ⟨cs, hcs, hcases, -⟩ := sweep_cases cfg db env
  rcases hcases with ⟨-, hdb⟩ | ⟨ids, d, st, hc, -, hdb⟩
  · exact hdb
  · have hacc := accepts_of_commit hcs hc hx hl
    rw [hS] at hacc
    cases hacc

/-- **What one run of the dunning task persists under the migrated schema.** With no fault of the
database, the outcome of every due row is stored if and only if no due row is at the limit. -/
theorem sweep_persists_iff (db : Db .migrated) (env : Env) (hup : ∀ n, env.dbFails n = false) :
    Persists cfg (env.clock 0) db (sweep cfg db env).world.db ↔
      ∀ x ∈ dueRows db (env.clock 0), x.failedPaymentCount < cfg.dunningMaxAttempts := by
  constructor
  · intro h x hx
    by_contra hl
    have hlimit : cfg.policy.limit ≤ (standing x).failures := not_lt.1 hl
    obtain ⟨hmem, hdue⟩ := isDue_of_mem hx
    obtain ⟨x', hx', hid, hst⟩ := h x hx
    rw [sweep_refused (by decide) hx (not_lt.1 hl)] at hx'
    -- the row is stored as it was, past due and not suspended
    have hsame : x' = x := db.subscriptions.key_injOn hx' hmem hid
    rw [hsame, Standing.swept_limit hdue hlimit] at hst
    have hstatus : x.status = .suspended := congrArg Standing.status hst
    have hpd : x.status = .pastDue := Standing.due_pastDue hdue
    rw [hpd] at hstatus
    cases hstatus
  · intro h x hx
    have hacc : ∀ y ∈ dueRows db (env.clock 0), cfg.dunningMaxAttempts ≤ y.failedPaymentCount →
        Schema.migrated.accepts .suspended = true := fun y hy hl => absurd (h y hy) (not_lt.2 hl)
    obtain ⟨st, hst⟩ := sweep_returns hup hacc
    obtain ⟨x', hx', hid, hswept, -⟩ := sweep_swept hst x (isDue_of_mem hx).1
    exact ⟨x', hx', hid, hswept⟩

/-- Two tenants past due, one below the limit and one at it. -/
def Sample.twoDue : Db .migrated where
  tables := .seed [] []
    [{ Sample.row .pastDue 1 (some 500) with stripeSubscriptionId := none },
      { Sample.row .pastDue 4 (some 500) with tenantId := some 2 }] []
  admitted := by decide

/-- A sweep the theorem is about, which persists nothing. -/
theorem sweep_persists_iff_twoDue :
    Persists Sample.settings 1000 Sample.twoDue
        (sweep Sample.settings Sample.twoDue (Sample.env 1000)).world.db ↔
      ∀ x ∈ dueRows Sample.twoDue 1000, x.failedPaymentCount < 4 :=
  sweep_persists_iff Sample.twoDue (Sample.env 1000) fun _ => rfl

/-- The tenant at the limit is not suspended, and undoes the progress of the other one. -/
theorem suspension_not_storable :
    ¬Persists Sample.settings 1000 Sample.twoDue
      (sweep Sample.settings Sample.twoDue (Sample.env 1000)).world.db := by
  decide +kernel

end FastapiTemplate.Billing
