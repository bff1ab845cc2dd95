import FastapiTemplate.Billing.Lifecycle
import FastapiTemplate.Python.Rounding

/-!
# Proration

The money of a change of plan. Credit and charge are the prices times the fraction of the period that is left, each
rounded on its own; rounding keeps the order, so the larger price gives the larger amount (`prorated`).
-/

namespace FastapiTemplate.Billing

open Core Database Python

/-! ### The fraction -/

section Fraction

variable {start stop now now' : Datetime}

lemma fractionRemaining_nonneg (start stop now : Datetime) : 0 ≤ fractionRemaining start stop now := by
  unfold fractionRemaining
  dsimp only
  split
  · exact le_rfl
  · exact le_max_left _ _

lemma fractionRemaining_le_one (start stop now : Datetime) : fractionRemaining start stop now ≤ 1 := by
  unfold fractionRemaining
  dsimp only
  split
  · exact zero_le_one
  · exact max_le zero_le_one (min_le_left _ _)

lemma fractionRemaining_antitone (start stop : Datetime) (h : now ≤ now') :
    fractionRemaining start stop now' ≤ fractionRemaining start stop now := by
  unfold fractionRemaining
  dsimp only
  split
  · exact le_rfl
  · rename_i hpos
    have hlen : (0 : ℚ) < (stop - start : ℤ) := by exact_mod_cast not_le.1 hpos
    have hleft : ((stop - now' : ℤ) : ℚ) ≤ (stop - now : ℤ) := by exact_mod_cast Int.sub_le_sub_left h stop
    gcongr

/-- Before the period all of it is left. -/
lemma fractionRemaining_eq_one (hlen : start < stop) (h : now ≤ start) : fractionRemaining start stop now = 1 := by
  have hpos : (0 : ℚ) < (stop - start : ℤ) := by exact_mod_cast Int.sub_pos.2 hlen
  have hleft : ((stop - start : ℤ) : ℚ) ≤ (stop - now : ℤ) := by exact_mod_cast Int.sub_le_sub_left h stop
  have hlong : ¬stop - start ≤ 0 := not_le.2 (Int.sub_pos.2 hlen)
  unfold fractionRemaining
  dsimp only
  rw [if_neg hlong, min_eq_left ((one_le_div hpos).2 hleft)]
  exact max_eq_right zero_le_one

/-- After the period none of it is left. -/
lemma fractionRemaining_eq_zero (h : stop ≤ now) : fractionRemaining start stop now = 0 := by
  unfold fractionRemaining
  dsimp only
  split
  · rfl
  · rename_i hpos
    have hlen : (0 : ℚ) ≤ (stop - start : ℤ) := by exact_mod_cast (not_le.1 hpos).le
    have hleft : ((stop - now : ℤ) : ℚ) ≤ 0 := by exact_mod_cast Int.sub_nonpos_of_le h
    exact max_eq_left ((min_le_right _ _).trans (div_nonpos_of_nonpos_of_nonneg hleft hlen))

end Fraction

/-! ### Credit and charge -/

section Charge

variable {plan plan' : Plan} {start stop now now' : Datetime}

/-- The credit is what the old plan would be charged. -/
lemma computeUnusedCredit_eq (plan : Plan) (sub : Subscription) (now : Datetime) :
    computeUnusedCredit plan sub now =
      computeProratedCharge plan sub.currentPeriodStart sub.currentPeriodEnd now := rfl

lemma computeProratedCharge_bounds (h : 0 ≤ plan.priceCents) (start stop now : Datetime) :
    0 ≤ computeProratedCharge plan start stop now ∧ computeProratedCharge plan start stop now ≤ plan.priceCents := by
  have hprice : (0 : ℚ) ≤ plan.priceCents := by exact_mod_cast h
  refine ⟨le_roundHalfEven ?_, roundHalfEven_le ?_⟩
  · exact_mod_cast mul_nonneg hprice (fractionRemaining_nonneg start stop now)
  · exact mul_le_of_le_one_right hprice (fractionRemaining_le_one start stop now)

lemma computeProratedCharge_antitone (h : 0 ≤ plan.priceCents) (start stop : Datetime) (hnow : now ≤ now') :
    computeProratedCharge plan start stop now' ≤ computeProratedCharge plan start stop now := by
  have hprice : (0 : ℚ) ≤ plan.priceCents := by exact_mod_cast h
  exact roundHalfEven_mono (mul_le_mul_of_nonneg_left (fractionRemaining_antitone start stop hnow) hprice)

/-- The larger price has the larger charge, at any time. -/
lemma computeProratedCharge_le (h : plan.priceCents ≤ plan'.priceCents) (start stop now : Datetime) :
    computeProratedCharge plan start stop now ≤ computeProratedCharge plan' start stop now := by
  have hprice : (plan.priceCents : ℚ) ≤ plan'.priceCents := by exact_mod_cast h
  exact roundHalfEven_mono (mul_le_mul_of_nonneg_right hprice (fractionRemaining_nonneg start stop now))

lemma computeProratedCharge_full (hlen : start < stop) (h : now ≤ start) :
    computeProratedCharge plan start stop now = plan.priceCents := by
  rw [computeProratedCharge, fractionRemaining_eq_one hlen h, mul_one]
  exact roundHalfEven_intCast plan.priceCents

lemma computeProratedCharge_zero (h : stop ≤ now) : computeProratedCharge plan start stop now = 0 := by
  rw [computeProratedCharge, fractionRemaining_eq_zero h, mul_zero]
  exact roundHalfEven_zero

end Charge

/-! ### The decision -/

/-- What is promised of a change from one plan to another at a given time. -/
structure Prorated (currentPlan newPlan : Plan) (sub : Subscription) (now : Datetime) (credit charge : ℤ) : Prop where
  credit_bounds : 0 ≤ credit ∧ credit ≤ currentPlan.priceCents
  charge_bounds : 0 ≤ charge ∧ charge ≤ newPlan.priceCents
  full : sub.currentPeriodStart < sub.currentPeriodEnd → now ≤ sub.currentPeriodStart →
    credit = currentPlan.priceCents ∧ charge = newPlan.priceCents
  ended : sub.currentPeriodEnd ≤ now → credit = 0 ∧ charge = 0
  later : ∀ now', now ≤ now' → computeUnusedCredit currentPlan sub now' ≤ credit ∧
    computeProratedCharge newPlan sub.currentPeriodStart sub.currentPeriodEnd now' ≤ charge
  /-- An upgrade moves the difference, which is no payout; anything else moves nothing. -/
  decision : (currentPlan.priceCents < newPlan.priceCents ∧ credit ≤ charge ∧ 0 ≤ charge - credit ∧
      decidePlanChange currentPlan newPlan sub now = .ok (.immediate ⟨credit, charge, charge - credit⟩)) ∨
    (newPlan.priceCents ≤ currentPlan.priceCents ∧
      decidePlanChange currentPlan newPlan sub now = .ok (.scheduled newPlan.id))

/-- **Proration.** Bounds, monotonicity and sign of the amounts of a change of plan, for any two prices, any period and
any time. -/
theorem prorated (currentPlan newPlan : Plan) (sub : Subscription) (now : Datetime)
    (hcurrency : newPlan.currency = currentPlan.currency) (hcurrent : 0 ≤ currentPlan.priceCents)
    (hnew : 0 ≤ newPlan.priceCents) :
    Prorated currentPlan newPlan sub now (computeUnusedCredit currentPlan sub now)
      (computeProratedCharge newPlan sub.currentPeriodStart sub.currentPeriodEnd now) where
  credit_bounds := computeProratedCharge_bounds hcurrent _ _ now
  charge_bounds := computeProratedCharge_bounds hnew _ _ now
  full hlen h := ⟨computeProratedCharge_full hlen h, computeProratedCharge_full hlen h⟩
  ended h := ⟨computeProratedCharge_zero h, computeProratedCharge_zero h⟩
  later _ h := ⟨computeProratedCharge_antitone hcurrent _ _ h, computeProratedCharge_antitone hnew _ _ h⟩
  decision := by
    unfold decidePlanChange
    rw [if_neg (not_not.2 hcurrency)]
    by_cases hprice : currentPlan.priceCents < newPlan.priceCents
    · have hle : computeUnusedCredit currentPlan sub now ≤
          computeProratedCharge newPlan sub.currentPeriodStart sub.currentPeriodEnd now := by
        rw [computeUnusedCredit_eq]
        exact computeProratedCharge_le hprice.le _ _ now
      exact .inl ⟨hprice, hle, Int.sub_nonneg_of_le hle, if_pos hprice⟩
    · exact .inr ⟨not_lt.1 hprice, if_neg hprice⟩

namespace Sample

/-- A plan at a given price. -/
def priced (id priceCents : ℤ) : Plan where
  id := id
  priceCents := priceCents
  currency := "usd"
  interval := .monthly
  trialDays := 0
  isActive := true

/-- A month from the epoch on. -/
def firstMonth : Subscription where
  tenantId := some 1
  planId := 1
  status := .active
  currentPeriodStart := 0
  currentPeriodEnd := days 30

end Sample

/-- An upgrade in the middle of a month; both amounts are halved. -/
theorem prorated_halfway :
    Prorated (Sample.priced 1 1001) (Sample.priced 2 3000) Sample.firstMonth (days 15) 500 1500 := by
  have hprorated := prorated (Sample.priced 1 1001) (Sample.priced 2 3000) Sample.firstMonth (days 15) rfl (by decide)
    (by decide)
  have hcredit : computeUnusedCredit (Sample.priced 1 1001) Sample.firstMonth (days 15) = 500 := by decide +kernel
  have hcharge : computeProratedCharge (Sample.priced 2 3000) Sample.firstMonth.currentPeriodStart
      Sample.firstMonth.currentPeriodEnd (days 15) = 1500 := by decide +kernel
  rw [hcredit, hcharge] at hprorated
  exact hprorated

end FastapiTemplate.Billing
