import FastapiTemplate.Billing.Proration
import FastapiTemplate.Billing.Subscriptions
import FastapiTemplate.Core.Exec
import FastapiTemplate.Database.Flush

/-!
# What an upgrade charges

`change_plan` prorates the new price over the period that is running, and then starts a new period of full length. It
charges for the time it grants only if the old period has hardly begun (`charge_granted_iff`).
-/

namespace FastapiTemplate.Billing

open Core Database Python Effects Script Store

variable {S : Schema}

/-! ### The charge -/

/-- The price of the time from `now` to the end of a period, an interval of the plan having the plan's price. -/
def grantedCharge (plan : Plan) (periodEnd now : Datetime) : ℤ :=
  roundHalfEven (plan.priceCents * ((periodEnd - now : ℤ) / (intervalDelta plan.interval : ℤ)))

/-- So little of the period is over that its share of the price is less than half a cent, or half a cent that is
rounded away because the price is even. -/
def HardlyBegun (priceCents : ℤ) (start stop now : Datetime) : Prop :=
  start < stop ∧ (2 * (priceCents * (now - start)) < stop - start ∨
    (2 * (priceCents * (now - start)) = stop - start ∧ priceCents % 2 = 0))

instance (priceCents : ℤ) (start stop now : Datetime) : Decidable (HardlyBegun priceCents start stop now) :=
  inferInstanceAs (Decidable (_ ∧ _))

section Charge

variable {plan : Plan} {start stop now : Datetime}

lemma intervalDelta_pos (interval : PlanInterval) : 0 < intervalDelta interval := by
  cases interval <;> decide

/-- A new period is worth the price. -/
lemma grantedCharge_nextPeriodEnd : grantedCharge plan (nextPeriodEnd plan now) now = plan.priceCents := by
  have hpos : (0 : ℚ) < (intervalDelta plan.interval : ℤ) := by exact_mod_cast intervalDelta_pos plan.interval
  have hlen : nextPeriodEnd plan now - now = intervalDelta plan.interval := add_sub_cancel_left now _
  unfold grantedCharge
  rw [hlen, div_self hpos.ne', mul_one]
  exact roundHalfEven_intCast plan.priceCents

lemma fractionRemaining_within (hstart : start ≤ now) (hstop : now ≤ stop) (hlen : start < stop) :
    fractionRemaining start stop now = ((stop - now : ℤ) : ℚ) / ((stop - start : ℤ) : ℚ) := by
  have hpos : (0 : ℚ) < (stop - start : ℤ) := by exact_mod_cast Int.sub_pos.2 hlen
  have hleft : (0 : ℚ) ≤ (stop - now : ℤ) := by exact_mod_cast Int.sub_nonneg_of_le hstop
  have hle : ((stop - now : ℤ) : ℚ) ≤ (stop - start : ℤ) := by exact_mod_cast Int.sub_le_sub_left hstart stop
  have hlong : ¬stop - start ≤ 0 := not_le.2 (Int.sub_pos.2 hlen)
  unfold fractionRemaining
  dsimp only
  rw [if_neg hlong, min_eq_right ((div_le_one hpos).2 hle), max_eq_right (div_nonneg hleft hpos.le)]

/-- **When the prorated charge is the price.** -/
theorem computeProratedCharge_eq_price_iff (hprice : 0 < plan.priceCents) :
    computeProratedCharge plan start stop now = plan.priceCents ↔
      HardlyBegun plan.priceCents start stop now := by
  by_cases hlen : start < stop
  · by_cases hbefore : now ≤ start
    · refine iff_of_true (computeProratedCharge_full hlen hbefore) ⟨hlen, .inl ?_⟩
      have hneg : plan.priceCents * (now - start) ≤ 0 :=
        mul_nonpos_of_nonneg_of_nonpos hprice.le (Int.sub_nonpos_of_le hbefore)
      linarith
    · have hstart := not_le.1 hbefore
      by_cases hafter : stop ≤ now
      · rw [computeProratedCharge_zero hafter]
        refine iff_of_false hprice.ne fun hbegun => ?_
        have hmul : 1 * (now - start) ≤ plan.priceCents * (now - start) :=
          mul_le_mul_of_nonneg_right hprice (Int.sub_nonneg_of_le hstart.le)
        rcases hbegun.2 with h | ⟨h, -⟩
        · linarith
        · linarith
      · have hstop := not_le.1 hafter
        have hpos : (0 : ℚ) < (stop - start : ℤ) := by exact_mod_cast Int.sub_pos.2 hlen
        have hrest : (plan.priceCents : ℚ) - plan.priceCents * (((stop - now : ℤ) : ℚ) / ((stop - start : ℤ) : ℚ)) =
            ((plan.priceCents * (now - start) : ℤ) : ℚ) / ((stop - start : ℤ) : ℚ) := by
          rw [eq_div_iff hpos.ne', sub_mul, mul_assoc, div_mul_cancel₀ _ hpos.ne']
          push_cast
          ring
        have hle : plan.priceCents * (((stop - now : ℤ) : ℚ) / ((stop - start : ℤ) : ℚ)) ≤ plan.priceCents := by
          have hnonneg : (0 : ℚ) ≤ ((plan.priceCents * (now - start) : ℤ) : ℚ) / ((stop - start : ℤ) : ℚ) := by
            refine div_nonneg ?_ hpos.le
            exact_mod_cast mul_nonneg hprice.le (Int.sub_nonneg_of_le hstart.le)
          linarith
        have hlt : ((plan.priceCents * (now - start) : ℤ) : ℚ) / ((stop - start : ℤ) : ℚ) < 1 / 2 ↔
            2 * (plan.priceCents * (now - start)) < stop - start := by
          rw [div_lt_iff₀ hpos, one_div_mul_eq_div, lt_div_iff₀ two_pos, mul_comm]
          exact_mod_cast Iff.rfl
        have heq : ((plan.priceCents * (now - start) : ℤ) : ℚ) / ((stop - start : ℤ) : ℚ) = 1 / 2 ↔
            2 * (plan.priceCents * (now - start)) = stop - start := by
          rw [div_eq_iff hpos.ne', one_div_mul_eq_div, eq_div_iff two_ne_zero, mul_comm]
          exact_mod_cast Iff.rfl
        unfold computeProratedCharge HardlyBegun
        rw [fractionRemaining_within hstart.le hstop.le hlen, roundHalfEven_eq_iff_of_le hle, hrest, hlt, heq,
          and_iff_right hlen]
  · have hempty : computeProratedCharge plan start stop now = 0 := by
      unfold computeProratedCharge fractionRemaining
      dsimp only
      rw [if_pos (Int.sub_nonpos_of_le (not_lt.1 hlen)), mul_zero]
      exact roundHalfEven_zero
    rw [hempty]
    exact iff_of_false hprice.ne fun hbegun => hlen hbegun.1

end Charge

/-! ### The endpoint -/

/-- What `change_plan` finds where it raises the price: the subscription that is live for the tenant, its plan, and a
dearer plan of the same currency. -/
structure Upgrade (user : User) (planId : ℤ) (tenant : Option ℤ) (d : Db S) (sub : Subscription)
    (currentPlan newPlan : Plan) : Prop where
  live : (d.subscriptions.rows.filter fun r =>
    visible tenant r.tenantId && (r.tenantId == user.tenantId && r.isLive)).getLast? = some sub
  current : currentPlan ∈ d.plans.rows ∧ currentPlan.id = sub.planId
  new : newPlan ∈ d.plans.rows ∧ newPlan.id = planId
  currency : newPlan.currency = currentPlan.currency
  price : currentPlan.priceCents < newPlan.priceCents

section Endpoint

variable {s : Session} {w : World S}

lemma exec_requireLiveSubscription_of_ok {tenantId : Option ℤ} {sub found : Subscription}
    (h : ((requireLiveSubscription tenantId : Py S Subscription).exec serve s w).result = .ok found)
    (hlive : (w.db.subscriptions.rows.filter fun r =>
      visible s.tenant r.tenantId && (r.tenantId == tenantId && r.isLive)).getLast? = some sub) :
    (requireLiveSubscription tenantId : Py S Subscription).exec serve s w = ⟨.ok sub, s, w.queried⟩ := by
  unfold requireLiveSubscription getLiveForTenant at h ⊢
  rw [exec_bind, exec_bind] at h ⊢
  obtain ⟨live, hget, -⟩ := Outcome.next_result h
  obtain ⟨rows, hselect, -⟩ := Outcome.next_result hget
  rw [exec_select_of_ok hselect, Outcome.next_ok, exec_pure, Outcome.next_ok, hlive]
  rfl

/-- A look for a plan that returns. -/
lemma exec_getPlan_of_ok {id : ℤ} {plan : Plan} {found : Option Plan}
    (h : ((getPlan id : Py S (Option Plan)).exec serve s w).result = .ok found) (hplan : plan ∈ w.db.plans.rows)
    (hid : plan.id = id) :
    (getPlan id : Py S (Option Plan)).exec serve s w = ⟨.ok (some plan), s, w.queried⟩ := by
  have hrows : (w.db.plans.rows.filter fun p => p.id == id) = [plan] :=
    Table.filter_eq_singleton hplan (beq_iff_eq.2 hid) fun p _ hp => (beq_iff_eq.1 hp).trans hid.symm
  unfold getPlan at h ⊢
  rw [exec_bind] at h ⊢
  obtain ⟨rows, hselect, -⟩ := Outcome.next_result h
  rw [exec_execute_of_ok hselect, Outcome.next_ok, exec_ofExcept, hrows]
  rfl

lemma exec_requireActivePlan_of_ok {id : ℤ} {plan found : Plan}
    (h : ((requireActivePlan id : Py S Plan).exec serve s w).result = .ok found) (hplan : plan ∈ w.db.plans.rows)
    (hid : plan.id = id) :
    (requireActivePlan id : Py S Plan).exec serve s w = ⟨.ok plan, s, w.queried⟩ := by
  unfold requireActivePlan at h ⊢
  rw [exec_bind] at h ⊢
  obtain ⟨got, hget, -⟩ := Outcome.next_result h
  rw [exec_getPlan_of_ok hget hplan hid, Outcome.next_ok] at h ⊢
  dsimp only at h ⊢
  split at h
  · rename_i hactive
    rw [if_pos hactive]
    rfl
  · cases h

/-- The row that is loaded again is one with the key. -/
lemma exec_refreshSubscription_of_ok {id : ℤ} {row : Subscription}
    (h : ((refreshSubscription id : Py S Subscription).exec serve s w).result = .ok row) :
    row ∈ w.db.subscriptions.rows ∧ row.id = id := by
  unfold refreshSubscription refresh at h
  rw [exec_bind] at h
  obtain ⟨rows, hselect, h⟩ := Outcome.next_result h
  have hexec := exec_select_of_ok hselect
  rw [hexec] at hselect h
  cases hselect
  split at h
  · rename_i first rest hrows
    obtain rfl : first = row := Except.ok.inj h
    have hmem : first ∈ w.db.subscriptions.rows.filter fun r => visible s.tenant r.tenantId && r.id == id := by
      rw [hrows]
      exact List.mem_cons_self
    obtain ⟨hrow, hp⟩ := List.mem_filter.1 hmem
    exact ⟨hrow, beq_iff_eq.1 (Bool.and_eq_true_iff.1 hp).2⟩
  · cases h

/-- The row of a subscription after a commit that changes it alone. -/
lemma commit_row {sub cur row : Subscription} {d d' : Db S} {ids : List ℤ}
    (h : d.commit [.updateSubscription sub cur] = .ok (ids, d')) (hcur : cur.id = sub.id)
    (hsub : sub ∈ d.subscriptions.rows) (hrow : row ∈ d'.subscriptions.rows) (hid : row.id = sub.id) :
    row = cur := by
  have hrows := flush_rows (Db.commit_ok h) fun c hc => by rw [List.mem_singleton.1 hc]; rfl
  rw [hrows] at hrow
  obtain ⟨x, hx, rfl⟩ := List.mem_map.1 hrow
  rw [rewrite_id] at hid
  obtain rfl : x = sub := d.subscriptions.key_injOn hx hsub hid
  simp [rewrite_cons, Change.rewrite, Subscription.writeBack_loaded hcur]

/-- The subscription after the change of plan. -/
def upgraded (newPlan : Plan) (now : Datetime) (sub : Subscription) : Subscription :=
  { sub with
    planId := newPlan.id, pendingPlanId := none, currentPeriodStart := now,
    currentPeriodEnd := nextPeriodEnd newPlan now }

/-- **What an upgrade answers**: the amounts of the moment at which it is decided, and a subscription whose period
starts at the moment of the change. -/
theorem changePlan_answer {user : User} {planId : ℤ} {bus : EventBus} {sub : Subscription}
    {currentPlan newPlan : Plan} {response : SubscriptionActionResponse}
    (h : Upgrade user planId s.tenant w.db sub currentPlan newPlan) (hs : s.pending = [])
    (hresult : ((changePlan user planId bus).exec serve s w).result = .ok response) :
    (∃ credit, response.preview = some ⟨credit,
      computeProratedCharge newPlan sub.currentPeriodStart sub.currentPeriodEnd (w.env.clock w.clockReads),
      computeProratedCharge newPlan sub.currentPeriodStart sub.currentPeriodEnd (w.env.clock w.clockReads) -
        credit⟩) ∧
    response.subscription = upgraded newPlan (w.env.clock (w.clockReads + 1)) sub := by
  have hsub : sub ∈ w.db.subscriptions.rows := (List.mem_filter.1 (List.mem_of_getLast? h.live)).1
  have hid : newPlan.id ≠ currentPlan.id := by
    intro hid
    have hsame := w.db.plans.key_injOn h.new.1 h.current.1 hid
    rw [hsame] at h
    exact lt_irrefl _ h.price
  unfold changePlan at hresult
  rw [exec_bind] at hresult
  obtain ⟨_, hfound, -⟩ := Outcome.next_result hresult
  rw [exec_requireLiveSubscription_of_ok hfound h.live, Outcome.next_ok, exec_bind] at hresult
  obtain ⟨_, hfound, -⟩ := Outcome.next_result hresult
  rw [exec_requireActivePlan_of_ok hfound h.new.1 h.new.2, Outcome.next_ok, exec_bind] at hresult
  obtain ⟨_, hfound, -⟩ := Outcome.next_result hresult
  rw [exec_getPlan_of_ok hfound h.current.1 h.current.2, Outcome.next_ok] at hresult
  dsimp only at hresult
  have hdecision : ∀ asked, decidePlanChange currentPlan newPlan sub asked = .ok (.immediate
      ⟨computeUnusedCredit currentPlan sub asked,
        computeProratedCharge newPlan sub.currentPeriodStart sub.currentPeriodEnd asked,
        computeProratedCharge newPlan sub.currentPeriodStart sub.currentPeriodEnd asked -
          computeUnusedCredit currentPlan sub asked⟩) := by
    intro asked
    unfold decidePlanChange
    rw [if_neg (not_not.2 h.currency), if_pos h.price]
  rw [if_neg hid, exec_bind, exec_datetimeNow, Outcome.next_ok, hdecision] at hresult
  dsimp only at hresult
  rw [exec_bind, exec_datetimeNow, Outcome.next_ok] at hresult
  rw [exec_bind, exec_add, Outcome.next_ok, exec_bind] at hresult
  obtain ⟨ids, hcommit, -⟩ := Outcome.next_result hresult
  obtain ⟨d, hd, hcommit⟩ := exec_commit_of_ok hcommit
  rw [hcommit, Outcome.next_ok, exec_bind] at hresult
  obtain ⟨row, hrefresh, hresult⟩ := Outcome.next_result hresult
  obtain ⟨hrow, hkey⟩ := exec_refreshSubscription_of_ok hrefresh
  rw [exec_bind] at hresult
  obtain ⟨_, -, hresult⟩ := Outcome.next_result hresult
  cases hresult
  have hwrite : w.db.commit [.updateSubscription sub (upgraded newPlan (w.env.clock (w.clockReads + 1)) sub)] =
      .ok (ids, d) := by
    rw [hs] at hd
    exact hd
  exact ⟨⟨_, rfl⟩, commit_row hwrite rfl hsub hrow hkey⟩

end Endpoint

namespace Sample

/-- A tenant in its first month, on the first of two plans. -/
def firstMonthDb : Db .metadata where
  tables := .seed [priced 1 1000, priced 2 3000] [] [firstMonth] []
  admitted := by decide

/-- The middle of the month. -/
def halfway : World .metadata where
  db := firstMonthDb
  env := { clock := fun _ => days 15, dbFails := fun _ => false, busFails := fun _ => false, redisFails := fun _ => false }

def clerk : User where
  id := 1
  tenantId := some 1
  isActive := true
  isSuperuser := false
  roles := []
  permissions := []

lemma halfway_upgrade :
    Upgrade clerk 2 none halfway.db { firstMonth with id := 1 } (priced 1 1000) (priced 2 3000) where
  live := by decide +kernel
  current := ⟨List.mem_cons_self, rfl⟩
  new := ⟨List.mem_cons_of_mem _ List.mem_cons_self, rfl⟩
  currency := rfl
  price := by decide

/-- The answer of the upgrade. -/
def halfwayAnswer : SubscriptionActionResponse where
  subscription := upgraded (priced 2 3000) (days 15) { firstMonth with id := 1 }
  preview := some ⟨500, 1500, 1000⟩

lemma halfway_answers : ((changePlan clerk 2 {}).exec serve {} halfway).result = .ok halfwayAnswer := by
  with_unfolding_all rfl

end Sample

end FastapiTemplate.Billing
