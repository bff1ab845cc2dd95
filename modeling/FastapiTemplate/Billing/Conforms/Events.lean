import FastapiTemplate.Billing.Conforms.Endpoints

/-!
# What the Stripe pipeline commits

The ledger, the handlers and the dispatch, and then `conforms`: every request keeps to `Proper`.
-/

namespace FastapiTemplate.Billing

open Core Database Python Effects Script

variable {S : Schema} {cfg : Settings} {r : Request} {s : Session} {m : View S}
  {X : Exn → Session → View S → Prop}

/-! ### The ledger -/

theorem wp_findStripeEvent {ok : View S → List Change → Prop} {eventId : String}
    {Q : Option StripeEvent → Session → View S → Prop} (hX : ∀ e s m, X e s m)
    (hnone : ∀ d, (∀ e ∈ d.stripeEvents.rows, e.eventId ≠ eventId) → Q none s (m.read d))
    (hsome : ∀ d row, Q (some row) s (m.read d)) :
    Wp (watch ok) (findStripeEvent eventId) s m Q X := by
  unfold findStripeEvent
  rw [wp_bind]
  refine wp_execute (fun d => ?_) fun e a => hX _ _ _
  refine wp_ofExcept_ok hX fun o ho => ?_
  cases o with
  | some row => exact hsome d row
  | none =>
    refine hnone d fun e he hid => ?_
    have hmem : e ∈ d.stripeEvents.rows.filter fun e => e.eventId == eventId :=
      List.mem_filter.2 ⟨he, by simpa using hid⟩
    rw [scalarOneOrNone_none ho] at hmem
    cases hmem

/-- The ledger says `true` once its row is committed, and the event was not in it before. -/
theorem wp_recordEvent {eventId eventType : String} {Q : Bool → Session → View S → Prop}
    (hs : s.pending = []) (hX : ∀ e s m, X e s m) (hfalse : ∀ s m, Q false s m)
    (htrue : ∀ d, (∀ e ∈ d.stripeEvents.rows, e.eventId ≠ eventId) →
      Q true { s with pending := [] }
        ((m.read d).committed [.insertStripeEvent { eventId := eventId, eventType := eventType }])) :
    Wp (watch (Proper cfg r)) (recordEvent eventId eventType) s m Q X := by
  unfold recordEvent
  rw [wp_bind]
  refine wp_findStripeEvent hX (fun d hd => ?_) fun d row => hfalse _ _
  simp only
  rw [wp_bind, wp_add, wp_tryCatch, wp_bind]
  have hp : s.pending ++ [.insertStripeEvent { eventId := eventId, eventType := eventType }]
      = [.insertStripeEvent { eventId := eventId, eventType := eventType }] := by rw [hs]; rfl
  rw [hp]
  refine wp_commit (Proper.quiet (by simp) rfl fun _ _ h => by cases h) (fun ids => htrue d hd) fun e a => ?_
  split
  · rw [wp_bind, wp_rollback]
    exact hfalse _ _
  · exact hX _ _ _

theorem wp_markProcessed {eventId : String} {Q : Unit → Session → View S → Prop}
    (hs : s.pending = []) (hX : ∀ e s m, X e s m) (hQ : ∀ s m, Q () s m) :
    Wp (watch (Proper cfg r)) (markProcessed eventId) s m Q X := by
  unfold markProcessed
  rw [wp_bind]
  refine wp_findStripeEvent hX (fun d _ => hQ _ _) fun d row => ?_
  simp only
  rw [wp_bind, wp_datetimeNow]
  intro now
  refine wp_write hs (Proper.quiet (by simp) rfl fun l k h => ?_) hX fun _ => hQ _ _
  cases h
  rfl

/-! ### The object of an event -/

/-- The script is handling an event: the ledger has it since the script's first read. -/
structure InHand (r : Request) (kind : DomainEvent) (obj : Value) (m : View S) : Prop where
  handled : ∃ d event, m.start = some d ∧ r.event? = some event ∧ handled d event = some (kind, obj)
  asked : m.asked = none
  wrote : m.wrote = false

lemma InHand.offers {kind : DomainEvent} {obj : Value} {m' : View S} (h : InHand r kind obj m)
    (hm : ∀ d, m.start = some d → m'.start = some d) {row : Subscription} {mv : Move}
    (ho : kind.Offers obj m'.asked row mv) : r.Offers m'.start m'.asked row mv := by
  obtain ⟨d, event, hd, he, hh⟩ := h.handled
  have hoffer : ∃ d event kind obj, m'.start = some d ∧ r.event? = some event ∧
      Billing.handled d event = some (kind, obj) ∧ kind.Offers obj m'.asked row mv :=
    ⟨d, event, kind, obj, hm d hd, he, hh, ho⟩
  cases r with
  | webhook request => exact hoffer
  | processEvent event bus => exact hoffer
  | _ => cases he

lemma InHand.opens {obj : Value} {m' : View S} (h : InHand r .checkoutCompleted obj m)
    (hm : ∀ d, m.start = some d → m'.start = some d) {x : Standing} (hf : x.failures = 0)
    (hn : x.nextRetry = none) (ho : x.status = .active ∨ CheckoutStatus obj m'.asked x.status) :
    r.Opens m'.start m'.asked x := by
  obtain ⟨d, event, hd, he, hh⟩ := h.handled
  have hopen : ∃ d event obj, m'.start = some d ∧ r.event? = some event ∧
      Billing.handled d event = some (.checkoutCompleted, obj) ∧
      (x.status = .active ∨ CheckoutStatus obj m'.asked x.status) :=
    ⟨d, event, obj, hm d hd, he, hh, ho⟩
  refine ⟨hf, hn, ?_⟩
  cases r with
  | webhook request => exact hopen
  | processEvent event bus => exact hopen
  | _ => cases he

theorem wp_getSubscriptionByStripeId {ok : View S → List Change → Prop} {key : String}
    {Q : Option Subscription → Session → View S → Prop} (hX : ∀ e s m, X e s m)
    (hnone : ∀ d, Q none s (m.read d))
    (hsome : ∀ d, ∀ row ∈ d.subscriptions.rows, row.stripeSubscriptionId = some key →
      Q (some row) s (m.read d)) :
    Wp (watch ok) (getSubscriptionByStripeId key) s m Q X :=
  wp_selectOne hnone (fun d row hrow hp => hsome d row hrow (by simpa using hp)) fun _ _ _ _ => hX _ _ _

lemma liftBuiltin_ok {α : Type} {x : Except BuiltinError α} {a : α} (h : liftBuiltin x = .ok a) :
    x = .ok a := by
  cases x with
  | ok b => exact congrArg _ (Except.ok.inj h)
  | error e => cases h

/-- Stripe has no status that reads as `suspended`. -/
theorem statusAt_ne_suspended {now : Datetime} {obj : Value} {target : SubscriptionStatus}
    (h : statusAt now obj = .ok target) : target ≠ .suspended := by
  rintro rfl
  unfold statusAt at h
  rcases hs : obj.get "status" (.str "") with e | v
  · simp [hs, liftBuiltin, bind, Except.bind] at h
  simp only [hs, liftBuiltin, bind, Except.bind] at h
  split at h
  · rcases ht : obj.get "trial_end" with e | v'
    · simp [ht] at h
    simp only [ht] at h
    split at h
    · rename_i x _
      rcases hf : fromTimestamp x with e | ends
      · simp [hf] at h
      · simp only [hf, pure, Except.pure, Except.ok.injEq] at h
        split at h <;> cases h
    · cases h
  · split at h
    · rename_i mapped hm
      obtain ⟨before, after, hsplit, -⟩ := List.lookup_eq_some_iff.1 hm
      have hmem : (v.toStr, mapped) ∈ stripeStatusMap := by rw [hsplit]; simp
      simp only [pure, Except.pure, Except.ok.injEq] at h
      subst h
      simp [stripeStatusMap] at hmem
    · cases h

/-! ### The handlers -/

section Handlers

variable {Q : String → Session → View S → Prop}

theorem wp_periodFromStripe {ok : View S → List Change → Prop} {obj : Value}
    {Q : Datetime × Datetime → Session → View S → Prop} (hX : ∀ e s m, X e s m)
    (hok : ∀ t p, Q p s (m.tick t)) : Wp (watch ok) (periodFromStripe obj) s m Q X := by
  unfold periodFromStripe
  rw [wp_bind, wp_datetimeNow]
  intro t
  exact wp_ofExcept_ok hX fun p _ => hok t p

/-- The terms of a checkout: with a subscription object its status, read at the first reading of the
clock, else `active`. -/
theorem wp_checkoutTerms {ok : View S → List Change → Prop} {obj stripeSub : Value}
    {Q : SubscriptionStatus × (Datetime × Datetime) × Option Datetime → Session → View S → Prop}
    (hobj : obj.get "stripe_subscription_object" = .ok stripeSub) (hasked : m.asked = none)
    (hX : ∀ e s m, X e s m)
    (hok : ∀ status period trialEnd m', View.Grows m m' →
      status = .active ∨ CheckoutStatus obj m'.asked status → Q (status, period, trialEnd) s m') :
    Wp (watch ok) (checkoutTerms stripeSub) s m Q X := by
  unfold checkoutTerms
  split
  · rename_i hdict
    unfold statusFromStripe
    simp only [wp_bind]
    rw [wp_datetimeNow]
    intro t
    refine wp_ofExcept_ok hX fun status hstatus => ?_
    refine wp_periodFromStripe hX fun t' period => ?_
    have hm : View.Grows m ((m.tick t).tick t') := (View.Grows.tick m t).trans (.tick _ t')
    have hct : CheckoutStatus obj ((m.tick t).tick t').asked status :=
      ⟨t, stripeSub, by simp [View.tick, hasked], hobj, hdict, hstatus⟩
    refine wp_ofExcept_ok hX fun trialEnd _ => ?_
    split
    · rw [wp_bind]
      refine wp_ofExcept_ok hX fun ends _ => ?_
      exact hok status period (some ends) _ hm (.inr hct)
    · exact hok status period none _ hm (.inr hct)
  · rw [wp_bind]
    refine wp_periodFromStripe hX fun t period => ?_
    exact hok .active period none _ (.tick m t) (.inl rfl)

theorem wp_handleCheckoutCompleted {obj : Value} (h : InHand r .checkoutCompleted obj m)
    (hs : s.pending = []) (hX : ∀ e s m, X e s m)
    (hQ : ∀ a (s : Session) m, s.pending = [] → Q a s m) :
    Wp (watch (Proper cfg r)) (handleCheckoutCompleted obj) s m Q X := by
  unfold handleCheckoutCompleted
  simp only [wp_bind]
  refine wp_ofExcept_ok hX fun metadata _ => ?_
  refine wp_ofExcept_ok hX fun reference _ => ?_
  refine wp_ofExcept_ok hX fun tenantRaw _ => ?_
  refine wp_ofExcept_ok hX fun planRaw _ => ?_
  refine wp_ofExcept_ok hX fun stripeSubId _ => ?_
  split
  · exact hQ _ _ _ hs
  · exact hQ _ _ _ hs
  swap
  · exact hQ _ _ _ hs
  rename_i key _ _ _ _
  simp only [wp_bind]
  refine wp_ofExcept_ok hX fun tenantId _ => ?_
  refine wp_ofExcept_ok hX fun planId _ => ?_
  refine wp_getPlan hX fun d plan => ?_
  split
  · exact hQ _ _ _ hs
  rename_i planRow
  rw [wp_bind]
  refine wp_getLiveForTenant (fun d' => ?_) (fun d' live hlive _ => ?_) hX
  · -- no live subscription: one is created
    simp only
    rw [wp_bind]
    refine wp_ofExcept_ok hX fun stripeSub hobj => ?_
    rw [wp_bind]
    have hasked : ((m.read d).read d').asked = none := h.asked
    refine wp_checkoutTerms (liftBuiltin_ok hobj) hasked hX fun status period trialEnd m' hm hst => ?_
    obtain ⟨periodStart, periodEnd⟩ := period
    have hm' : View.Grows m m' := ((View.Grows.read m d).trans (.read _ d')).trans hm
    have hp : Proper cfg r m' [.insertSubscription
        { tenantId := some tenantId, planId := planRow.id, status := status,
          currentPeriodStart := periodStart, currentPeriodEnd := periodEnd,
          trialEnd := trialEnd, stripeSubscriptionId := some key }] := by
      refine Proper.opening (hm.informed (by simp)) ?_ (h.opens hm'.start rfl rfl hst)
      rw [hm'.wrote]
      exact h.wrote
    refine wp_write hs hp hX fun keys => ?_
    rw [wp_bind]
    exact wp_refresh (fun _ _ _ _ => hQ _ _ _ rfl) fun _ _ _ _ => hX _ _ _
  · -- a live subscription is linked once
    simp only
    split
    · have hedit : r.Offers ((m.read d).read d').start ((m.read d).read d').asked live .edit := by
        refine h.offers (fun e he => ?_) rfl
        exact ((View.Grows.read m d).trans (.read _ d')).start e he
      refine wp_write hs (Proper.single h.wrote ⟨d', by simp, hlive⟩ ⟨rfl, .edit, hedit, trivial, rfl⟩) hX
        fun keys => ?_
      rw [wp_bind]
      exact wp_refresh (fun _ _ _ _ => hQ _ _ _ rfl) fun _ _ _ _ => hX _ _ _
    · exact hQ _ _ _ hs

/-- What `syncBranch` leads to once the status is assigned: the move of the target status, which the
three checks allow. -/
theorem wp_syncBranch {ok : View S → List Change → Prop} (P : Policy) {target : SubscriptionStatus}
    {row : Subscription} {Q : Entity Subscription → Session → View S → Prop} (hX : ∀ e s m, X e s m)
    (hne : target ≠ row.status) (hns : target ≠ .suspended)
    (hok : ∀ cur m', View.Grows m m' → cur.id = row.id →
      (syncMove target).Allowed P (standing row) →
      ⟨target, cur.failedPaymentCount, cur.nextRetryAt⟩ = (syncMove target).apply P (standing row) →
      Q ⟨row, cur⟩ s m') :
    Wp (watch ok) (syncBranch target (.of row)) s m Q X := by
  cases target with
  | trialing => exact hok row m (.refl m) rfl (fun h => hne h.symm) rfl
  | suspended => exact absurd rfl hns
  | canceled =>
    unfold syncBranch
    simp only [wp_bind]
    refine wp_ofExcept_ok hX fun _ hu => ?_
    rw [wp_datetimeNow]
    intro now
    exact hok _ _ (.tick m now) rfl (assertTransition_ok hu) rfl
  | pastDue =>
    unfold syncBranch
    simp only [wp_bind]
    refine wp_ofExcept_ok hX fun _ hu => ?_
    exact hok row m (.refl m) rfl (assertTransition_ok hu) rfl
  | active =>
    unfold syncBranch
    simp only [wp_bind]
    refine wp_ofExcept_ok hX fun _ hu => ?_
    have hallowed : (Move.assign .active).Allowed P (standing row) := assertTransition_ok hu
    rw [wp_pure]
    by_cases hpd : row.status = .pastDue
    · have hcur : (Entity.of row).cur.status = .pastDue := hpd
      rw [if_pos hcur]
      refine hok (resetDunning row).2 m (.refl m) (resetDunning_id row) hallowed ?_
      obtain ⟨hc, hn⟩ := resetDunning_clear row
      simp [syncMove, Move.apply, standing, hpd, hc, hn]
    · have hcur : ¬(Entity.of row).cur.status = .pastDue := hpd
      rw [if_neg hcur]
      refine hok row m (.refl m) rfl hallowed ?_
      simp [syncMove, Move.apply, standing, hpd]

theorem wp_handleSubscriptionSync {kind : DomainEvent} {obj : Value} (h : InHand r kind obj m)
    (hkind : kind = .subscriptionUpdated ∨ kind = .subscriptionDeleted) (hs : s.pending = [])
    (hX : ∀ e s m, X e s m) (hQ : ∀ a (s : Session) m, s.pending = [] → Q a s m) :
    Wp (watch (Proper cfg r)) (handleSubscriptionSync obj) s m Q X := by
  unfold handleSubscriptionSync
  simp only [wp_bind]
  refine wp_ofExcept_ok hX fun id hid => ?_
  refine wp_getSubscriptionByStripeId hX (fun d => hQ _ _ _ hs) fun d row hrow hkey => ?_
  simp only
  unfold statusFromStripe
  simp only [wp_bind]
  rw [wp_datetimeNow]
  intro t
  refine wp_ofExcept_ok hX fun target htarget => ?_
  split
  · exact hQ _ _ _ hs
  rename_i hne
  rw [wp_bind]
  refine wp_syncBranch cfg.policy hX hne (statusAt_ne_suspended htarget)
    fun cur m' hm hcid hallowed happly => ?_
  rw [wp_bind]
  refine wp_periodFromStripe hX fun t' period => ?_
  have hm' : View.Grows ((m.read d).tick t) (m'.tick t') := hm.trans (.tick m' t')
  have hnames : Names kind obj row := by
    refine ⟨id.toStr, ?_, hkey⟩
    rcases hkind with rfl | rfl <;> simp [DomainEvent.reference, liftBuiltin_ok hid]
  have hasked : (m'.tick t').asked = some t :=
    hm'.asked t (by simp [View.tick, View.read, h.asked])
  have hoffer : r.Offers (m'.tick t').start (m'.tick t').asked row (syncMove target) := by
    refine h.offers (fun e he => ?_) ?_
    · exact hm'.start e ((View.Grows.read m d).trans (.tick _ t) |>.start e he)
    · rcases hkind with rfl | rfl <;> exact ⟨hnames, t, target, hasked, htarget, rfl⟩
  have hproper : Proper cfg r (m'.tick t') [.updateSubscription row
      { cur with status := target, currentPeriodStart := period.1, currentPeriodEnd := period.2 }] := by
    refine Proper.single ?_ ?_ ⟨hcid, syncMove target, hoffer, hallowed, happly⟩
    · rw [hm'.wrote]
      exact h.wrote
    · exact Seen.grows ⟨d, by simp, hrow⟩ hm'
  simp only [wp_bind, wp_add, wp_tryCatch, hs, List.nil_append]
  refine wp_commit hproper (fun ids => ?_) fun e a => hX _ _ _
  exact wp_refresh (fun _ _ _ _ => hQ _ _ _ rfl) fun _ _ _ _ => hX _ _ _

theorem wp_handlePaymentFailed {obj : Value} {bus : Option EventBus}
    (h : InHand r .paymentFailed obj m) (hs : s.pending = []) (hX : ∀ e s m, X e s m)
    (hQ : ∀ a (s : Session) m, s.pending = [] → Q a s m) :
    Wp (watch (Proper cfg r)) (handlePaymentFailed cfg obj bus) s m Q X := by
  unfold handlePaymentFailed
  rw [wp_bind]
  refine wp_ofExcept_ok hX fun raw hraw => ?_
  split
  swap
  · exact hQ _ _ _ hs
  rename_i key
  rw [wp_bind]
  refine wp_getSubscriptionByStripeId hX (fun d => hQ _ _ _ hs) fun d row hrow hkey => ?_
  simp only [wp_bind]
  refine wp_recordPaymentFailure hX
    fun cur m' hm (hmv : Moves cfg.policy (fun mv => ∃ now, mv = .fail now) row cur) => ?_
  have hp : s.pending ++ [.updateSubscription row cur] = [.updateSubscription row cur] := by
    rw [hs]; rfl
  simp only [hp]
  have hnames : Names .paymentFailed obj row :=
    ⟨key, by simp [DomainEvent.reference, liftBuiltin_ok hraw], hkey⟩
  have hproper : Proper cfg r m' [.updateSubscription row cur] := by
    obtain ⟨hid, mv, hfail, hallowed, happly⟩ := hmv
    refine Proper.single ?_ (Seen.grows ⟨d, by simp, hrow⟩ hm) ⟨hid, mv, ?_, hallowed, happly⟩
    · rw [hm.wrote]
      exact h.wrote
    · exact h.offers (fun e he => hm.start e ((View.Grows.read m d).start e he)) ⟨hnames, hfail⟩
  refine wp_commit hproper (fun ids => ?_) fun e a => hX _ _ _
  exact wp_refresh (fun _ _ _ _ => hQ _ _ _ rfl) fun _ _ _ _ => hX _ _ _

theorem wp_runHandler {kind : DomainEvent} {obj : Value} {bus : Option EventBus}
    (h : InHand r kind obj m) (hs : s.pending = []) (hX : ∀ e s m, X e s m)
    (hQ : ∀ a (s : Session) m, s.pending = [] → Q a s m) :
    Wp (watch (Proper cfg r)) (runHandler cfg bus obj kind) s m Q X := by
  cases kind with
  | checkoutCompleted => exact wp_handleCheckoutCompleted h hs hX hQ
  | subscriptionUpdated => exact wp_handleSubscriptionSync h (.inl rfl) hs hX hQ
  | subscriptionDeleted => exact wp_handleSubscriptionSync h (.inr rfl) hs hX hQ
  | paymentFailed => exact wp_handlePaymentFailed h hs hX hQ

end Handlers

/-! ### The dispatch -/

lemma handled_of {d : Db S} {event inner obj : Value} {eventId eventType : String}
    {kind : DomainEvent} (hid : eventField event "id" = .ok eventId)
    (hty : eventField event "type" = .ok eventType) (hne : ¬(eventId = "" ∨ eventType = ""))
    (hfresh : ∀ e ∈ d.stripeEvents.rows, e.eventId ≠ eventId) (hin : eventObject event = .ok inner)
    (hk : DomainEvent.ofType? eventType = some kind) (hobj : handlerObject inner kind = .ok obj) :
    handled d event = some (kind, obj) := by
  have hany : d.stripeEvents.rows.any (fun e => e.eventId == eventId) = false := by
    rw [List.any_eq_false]
    intro e he
    simpa using hfresh e he
  simp [handled, hid, hty, hin, hne, hany, hk, hobj]

theorem wp_processEvent {event : Value} {bus : Option EventBus} {Q : String → Session → View S → Prop}
    (hr : r.event? = some event) (hs : s.pending = []) (hX : ∀ e s m, X e s m)
    (hQ : ∀ a s m, Q a s m) :
    Wp (watch (Proper cfg r)) (processEvent cfg event bus) s {} Q X := by
  unfold processEvent
  simp only [wp_bind]
  refine wp_ofExcept_ok hX fun eventId hid => ?_
  refine wp_ofExcept_ok hX fun eventType hty => ?_
  split
  · exact hQ _ _ _
  rename_i hne
  rw [wp_bind]
  refine wp_recordEvent hs hX (fun _ _ => hQ _ _ _) fun d hfresh => ?_
  simp only [Bool.not_true, Bool.false_eq_true, if_false, wp_bind]
  refine wp_ofExcept_ok hX fun inner hin => ?_
  have hdone : ∀ {outcome : String} {s' : Session} {m' : View S}, s'.pending = [] →
      Wp (watch (Proper cfg r)) (markProcessed eventId) s' m' (fun _ s m => Wp (watch (Proper cfg r))
        (pure outcome : Py S String) s m Q X) X := by
    intro outcome s' m' hs'
    exact wp_markProcessed hs' hX fun _ _ => hQ _ _ _
  unfold dispatch
  split
  · exact hdone rfl
  rename_i kind hk
  simp only [wp_bind]
  refine wp_ofExcept_ok hX fun obj hobj => ?_
  rw [wp_enter]
  refine ⟨rfl, ?_⟩
  refine wp_runHandler ⟨⟨d, event, rfl, hr, handled_of hid hty hne hfresh hin hk hobj⟩, rfl, rfl⟩ rfl hX
    fun outcome s' m' hs' => hdone hs'

theorem wp_stripeWebhook {request : WebhookRequest} {bus : EventBus} (hs : s.pending = []) :
    Wp (watch (Proper cfg (.webhook request))) (stripeWebhook (S := S) cfg request bus) s {}
      (fun _ _ _ => True) fun _ _ _ => True := by
  unfold stripeWebhook
  split
  · trivial
  rename_i hconf
  split
  · trivial
  rename_i hver
  split
  · trivial
  rename_i event hjson
  simp only [wp_bind]
  refine wp_ofExcept_ok (fun _ _ _ => trivial) fun eventId _ => ?_
  refine wp_ofExcept_ok (fun _ _ _ => trivial) fun eventType _ => ?_
  split
  · trivial
  rw [wp_bind, wp_tryCatch]
  have hr : (Request.webhook request).event? = some event := by
    simp only [Bool.not_eq_true, Bool.not_eq_false'] at hconf hver
    simp [Request.event?, hconf, hver, hjson]
  refine wp_processEvent hr hs (fun e s m => ?_) fun _ _ _ => trivial
  split <;> trivial

/-! ### All requests -/

/-- **Every request commits what it may**, and enters a handler only for the event in hand. -/
theorem conforms (cfg : Settings) (r : Request) (tenant : Option ℤ) :
    Wp (watch (Proper cfg r)) (r.script (S := S) cfg) { tenant := tenant } {} (fun _ _ _ => True)
      fun _ _ _ => True := by
  have hmap : ∀ {α : Type} {p : Py S α}, Wp (watch (Proper cfg r)) p { tenant := tenant } {}
      (fun _ _ _ => True) (fun _ _ _ => True) → Wp (watch (Proper cfg r)) (do let _ ← p)
        { tenant := tenant } {} (fun _ _ _ => True) fun _ _ _ => True :=
    fun h => wp_bind.2 (h.mono (fun _ _ _ _ => trivial) fun _ _ _ _ => trivial)
  cases r with
  | subscribe user planId => exact hmap (wp_subscribe rfl rfl)
  | changePlan user planId => exact hmap (wp_changePlan rfl rfl)
  | cancel user immediate => exact hmap (wp_cancelSubscription rfl rfl)
  | resume user => exact hmap (wp_resumeSubscription rfl rfl)
  | overridePlan user id planId => exact wp_overridePlan rfl rfl
  | setStatus user id rawStatus => exact wp_setStatus rfl rfl
  | webhook request => exact hmap (wp_stripeWebhook rfl)
  | processEvent event bus =>
    exact hmap (wp_processEvent rfl rfl (fun _ _ _ => trivial) fun _ _ _ => trivial)
  | payInvoice caller invoiceId => exact hmap (wp_payInvoice (fun _ _ _ _ h => h) rfl rfl)
  | markPaid invoiceId bus =>
    exact hmap (wp_markPaid (fun _ _ _ _ h => h) rfl rfl (fun _ _ _ => trivial) fun _ _ _ => trivial)
  | dunningSweep => exact hmap (wp_processDunning rfl rfl rfl)

end FastapiTemplate.Billing
