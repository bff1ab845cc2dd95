import FastapiTemplate.Billing.Conforms.Services

/-!
# What the endpoints commit

The tenant's endpoints and the admin actions. Each of them reads its row, adds one change and
commits; what comes after the commit writes nothing (`wp_notify`).
-/

namespace FastapiTemplate.Billing

open Core Database Python Effects Script

variable {S : Schema} {α : Type} {cfg : Settings} {r : Request} {s : Session} {m : View S}

/-! ### The common ends -/

/-- Refreshing a row and publishing an event about it. -/
lemma wp_notify {ok : View S → List Change → Prop} (bus : EventBus) (id : ℤ)
    (event : Subscription → Event) (answer : Subscription → α) :
    Wp (watch ok) (do
      let sub ← refreshSubscription id
      bus.publish (event sub)
      return answer sub) s m (fun _ _ _ => True) fun _ _ _ => True := by
  rw [wp_bind]
  refine wp_refresh (fun _ _ _ _ => ?_) fun _ _ _ _ => trivial
  rw [wp_bind]
  exact wp_publish trivial fun _ => trivial

/-- One change, committed at once. -/
lemma wp_write {c : Change} {rest : List ℤ → Py S α} {Q : α → Session → View S → Prop}
    {X : Exn → Session → View S → Prop} (hs : s.pending = []) (hc : Proper cfg r m [c])
    (hX : ∀ e s m, X e s m)
    (hrest : ∀ keys, Wp (watch (Proper cfg r)) (rest keys) { s with pending := [] }
      (m.committed [c]) Q X) :
    Wp (watch (Proper cfg r)) (do add c; let keys ← commit; rest keys) s m Q X := by
  rw [wp_bind, wp_add, wp_bind]
  have hp : s.pending ++ [c] = [c] := by rw [hs]; rfl
  rw [hp]
  exact wp_commit hc hrest fun e a => hX _ _ _

/-! ### Reading -/

section Reads

variable {ok : View S → List Change → Prop} {X : Exn → Session → View S → Prop}

theorem wp_getLiveForTenant {Q : Option Subscription → Session → View S → Prop} {tenantId : Option ℤ}
    (hnone : ∀ d, Q none s (m.read d))
    (hsome : ∀ d, ∀ row ∈ d.subscriptions.rows, row.isLive = true → Q (some row) s (m.read d))
    (hX : ∀ e s m, X e s m) :
    Wp (watch ok) (getLiveForTenant tenantId) s m Q X := by
  unfold getLiveForTenant
  rw [wp_bind]
  refine wp_select (fun d rows hrows _ => ?_) fun e a => hX _ _ _
  rw [wp_pure]
  rcases hl : rows.getLast? with _ | row
  · exact hnone d
  · obtain ⟨hmem, hp⟩ := hrows row (List.mem_of_mem_getLast? hl)
    simp only [Bool.and_eq_true] at hp
    exact hsome d row hmem hp.2

theorem wp_requireLiveSubscription {Q : Subscription → Session → View S → Prop}
    {tenantId : Option ℤ} (hX : ∀ e s m, X e s m)
    (hok : ∀ d, ∀ row ∈ d.subscriptions.rows, row.isLive = true → Q row s (m.read d)) :
    Wp (watch ok) (requireLiveSubscription tenantId) s m Q X := by
  unfold requireLiveSubscription
  rw [wp_bind]
  exact wp_getLiveForTenant (fun d => hX _ _ _) hok hX

theorem wp_getPlan {Q : Option Plan → Session → View S → Prop} {id : ℤ} (hX : ∀ e s m, X e s m)
    (hok : ∀ d plan, Q plan s (m.read d)) : Wp (watch ok) (getPlan id) s m Q X := by
  unfold getPlan
  rw [wp_bind]
  refine wp_execute (fun d => ?_) fun e a => hX _ _ _
  exact wp_ofExcept_ok hX fun plan _ => hok d plan

theorem wp_requireActivePlan {Q : Plan → Session → View S → Prop} {id : ℤ} (hX : ∀ e s m, X e s m)
    (hok : ∀ d plan, Q plan s (m.read d)) : Wp (watch ok) (requireActivePlan id) s m Q X := by
  unfold requireActivePlan
  rw [wp_bind]
  refine wp_getPlan hX fun d plan => ?_
  split
  · split
    · exact hok d _
    · exact hX _ _ _
  · exact hX _ _ _

end Reads

/-! ### The tenant's endpoints -/

/-- The row is left where it stands. -/
lemma moves_edit {P : Policy} {loaded cur : Subscription} (hid : cur.id = loaded.id)
    (h : standing cur = standing loaded) : Moves P (fun mv => mv = .edit) loaded cur :=
  ⟨hid, .edit, rfl, trivial, h⟩

theorem wp_subscribe {user : User} {planId : ℤ} {bus : EventBus} (hs : s.pending = [])
    (hw : m.wrote = false) :
    Wp (watch (Proper cfg (.subscribe user planId))) (subscribe user planId bus) s m
      (fun _ _ _ => True) fun _ _ _ => True := by
  unfold subscribe
  rw [wp_bind]
  refine wp_ofExcept_ok (fun _ _ _ => trivial) fun tenantId _ => ?_
  rw [wp_bind]
  refine wp_requireActivePlan (fun _ _ _ => trivial) fun d plan => ?_
  rw [wp_bind]
  refine wp_getLiveForTenant (fun d' => ?_) (fun d' row _ _ => trivial) fun _ _ _ => trivial
  simp only
  rw [wp_bind, wp_datetimeNow]
  intro now
  refine wp_write hs (Proper.opening (by simp) hw ⟨rfl, rfl, ?_⟩) (fun _ _ _ => trivial) fun keys => ?_
  · exact ite_eq_or_eq _ _ _
  · exact wp_notify bus _ _ _

theorem wp_changePlan {user : User} {planId : ℤ} {bus : EventBus} (hs : s.pending = [])
    (hw : m.wrote = false) :
    Wp (watch (Proper cfg (.changePlan user planId))) (changePlan user planId bus) s m
      (fun _ _ _ => True) fun _ _ _ => True := by
  unfold changePlan
  rw [wp_bind]
  refine wp_requireLiveSubscription (fun _ _ _ => trivial) fun d row hrow _ => ?_
  rw [wp_bind]
  refine wp_requireActivePlan (fun _ _ _ => trivial) fun d' newPlan => ?_
  rw [wp_bind]
  refine wp_getPlan (fun _ _ _ => trivial) fun d'' plan => ?_
  split
  · trivial
  rename_i currentPlan
  split
  · trivial
  rw [wp_bind, wp_datetimeNow]
  intro asked
  split
  · trivial
  rw [wp_bind, wp_datetimeNow]
  intro now
  have hseen : Seen (((((m.read d).read d').read d'').tick asked).tick now) row :=
    ⟨d, by simp, hrow⟩
  split
  · refine wp_write hs (Proper.single hw hseen (moves_edit rfl rfl)) (fun _ _ _ => trivial) fun _ => ?_
    exact wp_notify bus _ _ _
  · refine wp_write hs (Proper.single hw hseen (moves_edit rfl rfl)) (fun _ _ _ => trivial) fun _ => ?_
    exact wp_notify bus _ _ _

theorem wp_cancelSubscription {user : User} {immediate : Bool} {bus : EventBus}
    (hs : s.pending = []) (hw : m.wrote = false) :
    Wp (watch (Proper cfg (.cancel user immediate))) (cancelSubscription user immediate bus) s m
      (fun _ _ _ => True) fun _ _ _ => True := by
  unfold cancelSubscription
  rw [wp_bind]
  refine wp_requireLiveSubscription (fun _ _ _ => trivial) fun d row hrow _ => ?_
  split
  · rename_i himm
    split
    · trivial
    · rename_i hok
      rw [wp_bind, wp_datetimeNow]
      intro now
      refine wp_write hs (Proper.single hw ⟨d, by simp, hrow⟩ ⟨rfl, .assign .canceled, ?_, ?_, rfl⟩)
        (fun _ _ _ => trivial) fun _ => wp_notify bus _ _ _
      · simp [Request.Offers, himm]
      · exact assertTransition_ok hok
  · rename_i himm
    split
    · trivial
    · refine wp_write hs (Proper.single hw ⟨d, by simp, hrow⟩ ⟨rfl, .edit, ?_, trivial, rfl⟩)
        (fun _ _ _ => trivial) fun _ => wp_notify bus _ _ _
      simp [Request.Offers, himm]

theorem wp_resumeSubscription {user : User} {bus : EventBus} (hs : s.pending = [])
    (hw : m.wrote = false) :
    Wp (watch (Proper cfg (.resume user))) (resumeSubscription user bus) s m
      (fun _ _ _ => True) fun _ _ _ => True := by
  unfold resumeSubscription
  rw [wp_bind]
  refine wp_requireLiveSubscription (fun _ _ _ => trivial) fun d row hrow _ => ?_
  split
  · trivial
  · exact wp_write hs (Proper.single hw ⟨d, by simp, hrow⟩ (moves_edit rfl rfl))
      (fun _ _ _ => trivial) fun _ => wp_notify bus _ _ _

/-! ### The admin actions -/

theorem wp_overridePlan {user : User} {id : ℤ} {planId : String} {bus : EventBus}
    (hs : s.pending = []) (hw : m.wrote = false) :
    Wp (watch (Proper cfg (.overridePlan user id planId)))
      (adminSubscriptionOverridePlan user id planId bus) s m
      (fun _ _ _ => True) fun _ _ _ => True := by
  unfold adminSubscriptionOverridePlan
  rw [wp_bind]
  refine wp_ofExcept_ok (fun _ _ _ => trivial) fun _ _ => ?_
  rw [wp_bind]
  refine wp_selectOne (fun _ => trivial) (fun d row hrow _ => ?_) fun _ _ _ _ => trivial
  simp only
  rw [wp_bind]
  refine wp_ofExcept_ok (fun _ _ _ => trivial) fun newPlanId _ => ?_
  rw [wp_bind]
  refine wp_getPlan (fun _ _ _ => trivial) fun d' plan => ?_
  split
  · trivial
  split
  · trivial
  rw [wp_bind, wp_datetimeNow]
  intro now
  refine wp_write hs (Proper.single hw ⟨d, by simp, hrow⟩ (moves_edit rfl rfl))
    (fun _ _ _ => trivial) fun _ => ?_
  exact wp_publish trivial fun _ => trivial

theorem wp_setStatus {user : User} {id : ℤ} {rawStatus : String} {bus : EventBus}
    (hs : s.pending = []) (hw : m.wrote = false) :
    Wp (watch (Proper cfg (.setStatus user id rawStatus)))
      (adminSubscriptionSetStatus user id rawStatus bus) s m
      (fun _ _ _ => True) fun _ _ _ => True := by
  unfold adminSubscriptionSetStatus
  rw [wp_bind]
  refine wp_ofExcept_ok (fun _ _ _ => trivial) fun _ hadmin => ?_
  rw [wp_bind]
  refine wp_selectOne (fun _ => trivial) (fun d row hrow hrowid => ?_) fun _ _ _ _ => trivial
  simp only
  split
  · trivial
  rename_i target htarget
  split
  · trivial
  rename_i hok
  rw [wp_bind, wp_datetimeNow]
  intro now
  have hid : (setStatus now target row).id = row.id := by
    unfold setStatus
    split <;> try rfl
    split
    · exact resetDunning_id row
    · rfl
  refine wp_write hs (Proper.single hw ⟨d, by simp, hrow⟩ ⟨hid, .assign target,
    ⟨hadmin, by simpa using hrowid, target, htarget, rfl⟩, assertTransition_ok hok, standing_setStatus _ now target row⟩) (fun _ _ _ => trivial) fun _ => ?_
  exact wp_publish trivial fun _ => trivial

end FastapiTemplate.Billing
