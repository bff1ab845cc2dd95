import FastapiTemplate.Billing.Admission

/-!
# What is billed for refused requests

The counter that admits requests is the one that is billed, and a refused request has been counted. So
the invoice of the period bills refused requests too; `refused_billed_iff` says when it does not bill more
than was admitted over the allowance.
-/

namespace FastapiTemplate.Billing

open Core Database Python Effects Script Store

variable {S : Schema} {w₀ : World S} {T : Terms w₀}

namespace Terms

/-- Which of the configured dimensions the requests are. -/
def position (T : Terms w₀) : ℕ := T.configs.findIdx fun p => p.1 == defaultDimension

/-- A dimension that is looked up is found where it stands first. -/
lemma getElem?_findIdx_of_lookup {dimension : String} {cfg : DimensionConfig}
    {configs : List (String × DimensionConfig)} (h : configs.lookup dimension = some cfg) :
    configs[configs.findIdx fun p => p.1 == dimension]? = some (dimension, cfg) := by
  induction configs with
  | nil => cases h
  | cons p configs ih =>
    obtain ⟨name, cfg'⟩ := p
    by_cases hname : name = dimension
    · subst hname
      simp only [List.lookup_cons, beq_self_eq_true, Option.some.injEq] at h
      simp [List.findIdx_cons, h]
    · simp only [List.lookup_cons, beq_eq_false_iff_ne.2 (Ne.symm hname)] at h
      simp [List.findIdx_cons, beq_eq_false_iff_ne.2 hname, ih h]

lemma getElem?_position (T : Terms w₀) : T.configs[T.position]? = some (defaultDimension, T.cfg) :=
  getElem?_findIdx_of_lookup T.metered

/-- The subscription is the tenant's. -/
lemma sub_tenantId (T : Terms w₀) : T.sub.tenantId = some T.tenantId := by
  have hmem := List.mem_of_getLast? T.live
  exact beq_iff_eq.1 (Bool.and_eq_true_iff.1 (List.mem_filter.1 hmem).2).1

end Terms

/-- Of `k` counted requests, with `n` in all: more than the allowance is billed as over it, and of what is
billed no more than what was let through uncounted has been admitted. -/
lemma overageUnits_le_iff {cfg : DimensionConfig} {k n : ℕ} (hk : k ≤ n) :
    overageUnits cfg k ≤
        max 0 ((min k cfg.includedQuantity.toNat + (n - k) : ℕ) - cfg.includedQuantity) ↔
      cfg.unitAmountCents ≤ 0 ∨ (k : ℤ) - max 0 cfg.includedQuantity ≤ n - k := by
  unfold overageUnits
  split <;> omega

/-- Nothing counted: what is billed is what the allowance is below zero. -/
lemma overageUnits_zero_le {cfg : DimensionConfig} (admitted : ℕ) :
    overageUnits cfg 0 ≤ max 0 (admitted - cfg.includedQuantity) := by
  unfold overageUnits
  split <;> omega

/-- **When refused requests are not billed.** Requests of a tenant in a period, in whatever order their
effects come, have been answered; later, with the counters as they left them, an invoice is generated for the
period. It bills no more units over the allowance than requests were admitted over it exactly when a unit
costs nothing, or the counter is gone, or of the `k` requests that were counted no more are over the allowance
than were let through uncounted: all of them are counted, unless the database fails one. -/
theorem refused_billed_iff (hT : T.Begins) {ι : Type} [Fintype ι] [DecidableEq ι] (r : ι → MemberRequest T)
    (ms : List (Effects.Move ι)) (hms : (quotaPool T r).Meets serve T.InPeriod ms)
    (answer : ι → Except Exn Unit) (hanswer : Answered ((quotaPool T r).run serve ms) answer) (w : World S)
    (hredis : w.redis = ((quotaPool T r).run serve ms).world.redis) (henv : w.env = w₀.env)
    (hlater : ((quotaPool T r).run serve ms).world.clockReads ≤ w.clockReads) (s : Session)
    (hs : s.pending = []) (periodEnd : Option Datetime) (inv : Invoice)
    (hinv : ((generateInvoice T.sub T.plan none periodEnd).exec serve s w).result = .ok inv) :
    ∃ k : ℕ, ((quotaPool T r).run serve ms).world.redisCalls = w₀.redisCalls + k ∧
      ((∀ n, w₀.env.dbFails n = false) → k = Fintype.card ι) ∧
      (billedUnits defaultDimension inv ≤
          max 0 ((Finset.univ.filter fun i => answer i = .ok ()).card - T.cfg.includedQuantity) ↔
        T.cfg.unitAmountCents ≤ 0 ∨
        w.redis.read (w.env.clock (w.clockReads + T.position)) T.meter.key = none ∨
        (k : ℤ) - max 0 T.cfg.includedQuantity ≤ Fintype.card ι - k) := by
  obtain ⟨k, hle, hup, hcalls, henv', hreads, hholds, hcard, -⟩ := outcome_of_requests hT r hms hanswer
  refine ⟨k, hcalls, hup, ?_⟩
  have hredisUp : Env.RedisUp w.env := by
    rw [henv]
    exact hT.redisUp
  have hkey : counterKey T.tenantId defaultDimension (Option.getD none T.sub.currentPeriodStart) =
      T.meter.key := rfl
  have hbilled := billedUnits_generateInvoice hredisUp hs T.sub_tenantId T.metering T.getElem?_position hinv
  have htime : w₀.env.clock w₀.clockReads ≤ w.env.clock (w.clockReads + T.position) := by
    rw [henv]
    exact hT.monotone (by omega)
  rw [hbilled, hkey, hcard, Counters.value]
  rcases hholds.read _ htime with hgone | hread
  · rw [← hredis] at hgone
    rw [hgone]
    exact iff_of_true (overageUnits_zero_le _) (.inr (.inl rfl))
  · rw [← hredis] at hread
    rw [hread, Option.getD_some, overageUnits_le_iff hle]
    simp

/-! ### One of two -/

namespace Sample

/-- The world after the two requests. -/
def afterTwo : World .metadata := ((quotaPool quotaTerms callers).run serve inTurns).world

/-- The invoice made then bills the refused one. -/
lemma exists_invoice_afterTwo :
    ∃ inv, ((generateInvoice quotaTerms.sub quotaTerms.plan none none).exec serve {} afterTwo).result = .ok inv ∧
      billedUnits "api_requests" inv = 1 := by
  have hunits : ((generateInvoice quotaTerms.sub quotaTerms.plan none none).exec serve {}
      afterTwo).result.map (billedUnits "api_requests") = .ok 1 := by decide +kernel
  rcases hrun : ((generateInvoice quotaTerms.sub quotaTerms.plan none none).exec serve {} afterTwo).result
    with e | inv
  · rw [hrun] at hunits
    cases hunits
  · rw [hrun] at hunits
    exact ⟨inv, rfl, Except.ok.inj hunits⟩

end Sample

/-- Of two requests one is free; the other is refused, and billed. -/
theorem refused_billed :
    Answered ((quotaPool Sample.quotaTerms Sample.callers).run serve Sample.inTurns) Sample.firstOnly ∧
    ∃ inv, ((generateInvoice Sample.quotaTerms.sub Sample.quotaTerms.plan none none).exec serve {}
        Sample.afterTwo).result = .ok inv ∧
      ¬billedUnits defaultDimension inv ≤
        max 0 ((Finset.univ.filter fun i => Sample.firstOnly i = .ok ()).card - 1) := by
  refine ⟨Sample.inTurns_answered, ?_⟩
  obtain ⟨inv, hinv, hunits⟩ := Sample.exists_invoice_afterTwo
  refine ⟨inv, hinv, ?_⟩
  rw [defaultDimension, hunits]
  decide

/-- The condition fails for them. -/
theorem refused_billed_iff_two :
    ∃ inv, ((generateInvoice Sample.quotaTerms.sub Sample.quotaTerms.plan none none).exec serve {}
        Sample.afterTwo).result = .ok inv ∧
      ∃ k : ℕ, Sample.afterTwo.redisCalls = 0 + k ∧
        ((∀ n, (Sample.env 1000).dbFails n = false) → k = Fintype.card (Fin 2)) ∧
        (billedUnits defaultDimension inv ≤
            max 0 ((Finset.univ.filter fun i => Sample.firstOnly i = .ok ()).card - 1) ↔
          (5 : ℤ) ≤ 0 ∨
          Sample.afterTwo.redis.read
            (Sample.afterTwo.env.clock (Sample.afterTwo.clockReads + Sample.quotaTerms.position))
            Sample.quotaTerms.meter.key = none ∨
          (k : ℤ) - max 0 1 ≤ Fintype.card (Fin 2) - k) := by
  obtain ⟨inv, hinv, -⟩ := Sample.exists_invoice_afterTwo
  exact ⟨inv, hinv, refused_billed_iff Sample.quotaTerms_begins Sample.callers Sample.inTurns
    Sample.inTurns_meets Sample.firstOnly Sample.inTurns_answered Sample.afterTwo rfl rfl le_rfl {} rfl none inv hinv⟩

end FastapiTemplate.Billing
