import FastapiTemplate.Billing.Operations

/-!
# The pace of the operations

Every operation keeps the pace and makes lawful changes only (`paced`), and a period is written whole
(`paced_whole`). Like `conforms` it is about the text of the scripts, so it holds under every interleaving.
-/

namespace FastapiTemplate.Billing

open Core Database Python Effects Script

variable {S : Schema} {α : Type} {P : Change → Prop} {cfg : Settings}

/-! ### Periods -/

/-- The period of the row stays, or gives way to one that is not empty. -/
def Reperiods (loaded cur : Subscription) : Prop :=
  (cur.currentPeriodStart = loaded.currentPeriodStart ∧ cur.currentPeriodEnd = loaded.currentPeriodEnd) ∨
    cur.currentPeriodStart < cur.currentPeriodEnd

/-- What a change does to the period of a subscription. -/
def Whole : Change → Prop
  | .insertSubscription row => row.currentPeriodStart < row.currentPeriodEnd
  | .updateSubscription loaded cur => Reperiods loaded cur
  | _ => True

/-- A lawful change of whole periods. -/
def Sound (op : Operation) (c : Change) : Prop := Lawful op c ∧ Whole c

lemma lt_nextPeriodEnd (plan : Plan) (start : Datetime) : start < nextPeriodEnd plan start := by
  unfold nextPeriodEnd
  have hdelta : 0 < intervalDelta plan.interval := by
    cases plan.interval <;> decide
  exact Int.lt_add_of_pos_right start hdelta

/-- Whatever an object holds, its end is at least a minute after its start. -/
lemma periodAt_lt {now : Datetime} {obj : Value} {period : Datetime × Datetime} (h : periodAt now obj = .ok period) :
    period.1 < period.2 := by
  unfold periodAt at h
  obtain ⟨start, -, h⟩ := bind_eq_ok.1 h
  obtain ⟨stop, -, h⟩ := bind_eq_ok.1 h
  obtain ⟨periodStart, -, h⟩ := bind_eq_ok.1 h
  obtain ⟨fallback, -, h⟩ := bind_eq_ok.1 h
  obtain ⟨periodEnd, -, h⟩ := bind_eq_ok.1 h
  obtain ⟨least, hleast, h⟩ := bind_eq_ok.1 h
  cases h
  unfold addChecked at hleast
  split at hleast
  · cases hleast
    exact lt_max_of_lt_right (Int.lt_add_of_pos_right periodStart (by decide))
  · cases hleast

/-! ### Reading -/

namespace Idle

lemma resolveRecipients (tenantId : Option ℤ) : Idle (Billing.resolveRecipients tenantId : Py S (List ℤ)) := by
  unfold Billing.resolveRecipients
  split
  · exact .pure trivial
  · exact .bind (.select _ _ _) fun _ _ => .pure trivial

lemma publishEach (bus : EventBus) (suffix : String) (sub : Subscription) (uids : List ℤ) :
    Idle (Billing.publishEach bus suffix sub uids : Py S Unit) := by
  induction uids with
  | nil => exact .pure trivial
  | cons uid uids ih => exact .bind (.publish bus _) fun _ _ => ih

lemma publishToRecipients (bus : Option EventBus) (suffix : String) (sub : Subscription) :
    Idle (Billing.publishToRecipients bus suffix sub : Py S ℕ) := by
  unfold Billing.publishToRecipients
  split
  · exact .pure trivial
  · exact .bind (resolveRecipients _) fun _ _ => .bind (publishEach _ _ _ _) fun _ _ => .pure trivial

lemma orNow (t : Option Datetime) : Idle (Billing.orNow t : Py S Datetime) := by
  unfold Billing.orNow
  split
  · exact .pure trivial
  · exact .datetimeNow

lemma getLiveForTenant (tenantId : Option ℤ) : Idle (Billing.getLiveForTenant tenantId : Py S (Option Subscription))
    fun o => ∀ row, o = some row → row.tenantId = tenantId := by
  refine .bind (.select _ _ _) fun rows hrows => .pure fun row hrow => ?_
  have hp := hrows row (List.mem_of_mem_getLast? hrow)
  simp only [Bool.and_eq_true, beq_iff_eq] at hp
  exact hp.1

lemma requireLiveSubscription (tenantId : Option ℤ) :
    Idle (Billing.requireLiveSubscription tenantId : Py S Subscription) := by
  refine .bind (getLiveForTenant tenantId) fun o _ => ?_
  cases o with
  | none => exact .throw _
  | some row => exact .pure trivial

lemma getPlan (id : ℤ) : Idle (Billing.getPlan id : Py S (Option Plan)) :=
  .bind (.execute _) fun _ _ => .checked _

lemma requireActivePlan (id : ℤ) : Idle (Billing.requireActivePlan id : Py S Plan) := by
  refine .bind (getPlan id) fun o _ => ?_
  cases o with
  | none => exact .throw _
  | some plan =>
    dsimp only
    split
    · exact .pure trivial
    · exact .throw _

/-- Refreshing a row and publishing an event about it. -/
lemma notify (bus : EventBus) (id : ℤ) (event : Subscription → Event) (answer : Subscription → α) :
    Idle (do
      let sub ← refreshSubscription id
      bus.publish (event sub)
      return answer sub : Py S α) :=
  .bind (.refresh _ _ _) fun _ _ => .bind (.publish bus _) fun _ _ => .pure trivial

lemma statusFromStripe (obj : Value) : Idle (Billing.statusFromStripe obj : Py S SubscriptionStatus) :=
  .bind .datetimeNow fun _ _ => .checked _

lemma periodFromStripe (obj : Value) : Idle (Billing.periodFromStripe obj : Py S (Datetime × Datetime))
    fun period => period.1 < period.2 :=
  .bind .datetimeNow fun _ _ => .ofExcept fun _ h => periodAt_lt (liftBuiltin_eq_ok.1 h)

lemma findStripeEvent (eventId : String) : Idle (Billing.findStripeEvent eventId : Py S (Option StripeEvent)) :=
  .bind (.execute _) fun _ _ => .checked _

lemma getSubscriptionByStripeId (key : String) :
    Idle (Billing.getSubscriptionByStripeId key : Py S (Option Subscription))
      fun o => ∀ row, o = some row → row.stripeSubscriptionId = some key :=
  (Core.Idle.selectOne _ _ _).mono fun o h row hrow => by simpa using h row hrow

lemma checkoutTerms (stripeSub : Value) :
    Idle (Billing.checkoutTerms stripeSub :
      Py S (SubscriptionStatus × (Datetime × Datetime) × Option Datetime)) fun terms => terms.2.1.1 < terms.2.1.2 := by
  unfold Billing.checkoutTerms
  split
  · refine .bind (statusFromStripe _) fun _ _ => .bind (periodFromStripe _) fun _ hperiod =>
      .bind (.checked _) fun trialEnd _ => ?_
    split
    · exact .bind (.checked _) fun _ _ => .pure hperiod
    · exact .pure hperiod
  · exact .bind (periodFromStripe _) fun _ hperiod => .pure hperiod

end Idle

/-! ### Rows as they are changed -/

/-- What the scripts do to a row. -/
structure Keeps (loaded cur : Subscription) : Prop extends KeepsLink loaded cur where
  period : Reperiods loaded cur

lemma KeepsLink.of_eq {loaded cur : Subscription} (hid : cur.id = loaded.id)
    (htenant : cur.tenantId = loaded.tenantId)
    (hstripe : cur.stripeSubscriptionId = loaded.stripeSubscriptionId) : KeepsLink loaded cur :=
  ⟨hid, htenant, .inl hstripe⟩

lemma Keeps.of_eq {loaded cur : Subscription} (hid : cur.id = loaded.id) (htenant : cur.tenantId = loaded.tenantId)
    (hstripe : cur.stripeSubscriptionId = loaded.stripeSubscriptionId)
    (hstart : cur.currentPeriodStart = loaded.currentPeriodStart)
    (hend : cur.currentPeriodEnd = loaded.currentPeriodEnd) : Keeps loaded cur :=
  ⟨.of_eq hid htenant hstripe, .inl ⟨hstart, hend⟩⟩

lemma keeps_resetDunning {loaded cur : Subscription} (h : Keeps loaded cur) : Keeps loaded (resetDunning cur).2 := by
  unfold resetDunning
  split <;> exact ⟨⟨h.id, h.tenant, h.stripe⟩, h.period⟩

lemma keeps_setStatus (now : Datetime) (target : SubscriptionStatus) (row : Subscription) :
    Keeps row (setStatus now target row) := by
  have hrefl : Keeps row row := .of_eq rfl rfl rfl rfl rfl
  unfold setStatus
  split
  · exact .of_eq rfl rfl rfl rfl rfl
  · exact .of_eq rfl rfl rfl rfl rfl
  · split
    · obtain ⟨⟨hid, htenant, hstripe⟩, hperiod⟩ := keeps_resetDunning hrefl
      exact ⟨⟨hid, htenant, hstripe⟩, hperiod⟩
    · exact .of_eq rfl rfl rfl rfl rfl
  · exact .of_eq rfl rfl rfl rfl rfl

/-! ### Dunning -/

section Dunning

variable (hP : ∀ loaded cur, Keeps loaded cur → P (.updateSubscription loaded cur))

include hP

lemma adds_recordPaymentFailure (bus : Option EventBus) (row : Subscription) :
    Adds P (recordPaymentFailure cfg bus (.of row) : Py S (Entity Subscription)) := by
  unfold recordPaymentFailure
  refine .bind (.of_idle (Idle.orNow _)) fun now _ => ?_
  have hrest : ∀ cur, Keeps row cur → Adds P (do
      add (.updateSubscription row cur)
      let _sent ← publishToRecipients bus "payment_failed" cur
      return (⟨row, cur⟩ : Entity Subscription) : Py S (Entity Subscription)) := fun cur h =>
    .bind (.add (hP _ _ h)) fun _ _ => .bind (.of_idle (Idle.publishToRecipients _ _ _)) fun _ _ =>
      .of_idle (.pure trivial)
  split
  · exact .bind (.of_idle (.checked _)) fun _ _ =>
      hrest _ (.of_eq rfl rfl rfl rfl rfl)
  · exact hrest _ (.of_eq rfl rfl rfl rfl rfl)

lemma adds_suspendSubscription (bus : Option EventBus) (row : Subscription) :
    Adds P (suspendSubscription bus (.of row) : Py S (Entity Subscription)) := by
  unfold suspendSubscription
  split
  · refine .bind (.of_idle (.checked _)) fun _ _ =>
      .bind (.of_idle .datetimeNow) fun now _ => ?_
    exact .bind (.add (hP _ _ (.of_eq rfl rfl rfl rfl rfl))) fun _ _ =>
      .bind (.of_idle (Idle.publishToRecipients _ _ _)) fun _ _ => .of_idle (.pure trivial)
  · exact .of_idle (.pure trivial)

lemma adds_recoverSubscription (bus : Option EventBus) (row : Subscription) :
    Adds P (recoverSubscription bus (.of row) : Py S (Entity Subscription)) := by
  have hrest : ∀ cur, Keeps row cur → Adds P (do
      add (.updateSubscription row cur)
      let _sent ← publishToRecipients bus "recovered" cur
      return (⟨row, cur⟩ : Entity Subscription) : Py S (Entity Subscription)) := fun cur h =>
    .bind (.add (hP _ _ h)) fun _ _ => .bind (.of_idle (Idle.publishToRecipients _ _ _)) fun _ _ =>
      .of_idle (.pure trivial)
  have hset : Keeps row (resetDunning { row with status := .active }).2 :=
    keeps_resetDunning (.of_eq rfl rfl rfl rfl rfl)
  unfold recoverSubscription
  by_cases hpd : row.status = .pastDue
  · simp only [Entity.of, hpd, if_true]
    refine .bind (.of_idle (.checked _)) fun _ _ => ?_
    split
    · exact hrest _ hset
    · exact .of_idle (.pure trivial)
  · simp only [Entity.of, hpd, if_false]
    split
    · exact hrest _ (keeps_resetDunning (.of_eq rfl rfl rfl rfl rfl))
    · exact .of_idle (.pure trivial)

lemma adds_tick (bus : Option EventBus) (now : Datetime) (row : Subscription) :
    Adds P (tick cfg bus now (.of row) : Py S Tick) := by
  unfold tick
  split
  · exact .bind (adds_suspendSubscription hP bus row) fun _ _ => .of_idle (.pure trivial)
  · exact .bind (.add (hP _ _ (.of_eq rfl rfl rfl rfl rfl))) fun _ _ =>
      .bind (.of_idle (Idle.publishToRecipients _ _ _)) fun _ _ => .of_idle (.pure trivial)

lemma adds_processEach (bus : Option EventBus) (now : Datetime) (subs : List Subscription)
    (st : SweepStats) : Adds P (processEach cfg bus now st subs : Py S SweepStats) := by
  induction subs generalizing st with
  | nil => exact .of_idle (.pure trivial)
  | cons sub subs ih =>
    exact .bind (Q := fun _ => True) (.tryCatch (.map (adds_tick hP bus now sub) fun _ _ => trivial)
      fun _ => .of_idle (.pure trivial)) fun _ _ => ih _

lemma once_processDunning : Once P (processDunning cfg : Py S (Option SweepStats)) := by
  unfold processDunning
  split
  swap
  · exact .pure _
  refine .andThen (.of_closes fun s hs => ?_) fun _ => .pure trivial
  refine wp_tryCatch.2 (Wp.mono (Closes.bind (Q := fun _ => True) ?_ (fun stats _ => ?_) s hs)
    (fun _ _ _ h => h) fun _ _ _ _ => trivial)
  · exact .bind (.of_idle (Idle.orNow _)) fun _ _ => .bind (.of_idle (.select _ _ _)) fun _ _ =>
      adds_processEach hP _ _ _ _
  · exact .andThen .commit fun _ => .pure trivial

end Dunning

/-! ### The endpoints -/

/-- One change, committed at once; what follows writes nothing. -/
lemma once_write {c : Change} {rest : List ℤ → Py S α} (hc : P c) (hrest : ∀ keys, Idle (rest keys)) :
    Once P (do add c; let keys ← commit; rest keys) :=
  .of_closes (.bind (.add hc) fun _ _ => .andThen .commit hrest)

section Endpoints

variable {user : User} {bus : EventBus}

lemma once_subscribe (planId : ℤ) :
    Once (Sound (.request (.subscribe user planId)))
      (subscribe user planId bus : Py S SubscriptionActionResponse) := by
  unfold subscribe
  refine .bind (.ofExcept fun _ h => requireTenant_ok h) fun tenantId htenant =>
    .bind (Idle.requireActivePlan _) fun plan _ => .bind (Idle.getLiveForTenant _) fun o _ => ?_
  cases o with
  | some live => exact .throw _
  | none =>
    exact .bind .datetimeNow fun now _ =>
      once_write ⟨fun hnone => ⟨rfl, user, planId, rfl, htenant.symm.trans hnone⟩, lt_nextPeriodEnd plan now⟩
        fun _ => Idle.notify bus _ _ _

variable (hP : ∀ loaded cur, Keeps loaded cur → P (.updateSubscription loaded cur))

include hP

lemma once_changePlan (planId : ℤ) :
    Once P (changePlan user planId bus : Py S SubscriptionActionResponse) := by
  unfold changePlan
  refine .bind (Idle.requireLiveSubscription _) fun sub _ => .bind (Idle.requireActivePlan _) fun newPlan _ =>
    .bind (Idle.getPlan _) fun o _ => ?_
  cases o with
  | none => exact .throw _
  | some currentPlan =>
    dsimp only
    split
    · exact .throw _
    refine .bind .datetimeNow fun asked _ => ?_
    split
    · exact .throw _
    refine .bind .datetimeNow fun now _ => ?_
    split
    · exact once_write (hP _ _ ⟨.of_eq rfl rfl rfl, .inr (lt_nextPeriodEnd newPlan now)⟩) fun _ =>
        Idle.notify bus _ _ _
    · exact once_write (hP _ _ (.of_eq rfl rfl rfl rfl rfl)) fun _ => Idle.notify bus _ _ _

lemma once_cancelSubscription (immediate : Bool) :
    Once P (cancelSubscription user immediate bus : Py S SubscriptionActionResponse) := by
  unfold cancelSubscription
  refine .bind (Idle.requireLiveSubscription _) fun sub _ => ?_
  split
  · split
    · exact .throw _
    · exact .bind .datetimeNow fun now _ =>
        once_write (hP _ _ (.of_eq rfl rfl rfl rfl rfl)) fun _ => Idle.notify bus _ _ _
  · split
    · exact .throw _
    · exact once_write (hP _ _ (.of_eq rfl rfl rfl rfl rfl)) fun _ => Idle.notify bus _ _ _

lemma once_resumeSubscription : Once P (resumeSubscription user bus : Py S SubscriptionActionResponse) := by
  unfold resumeSubscription
  refine .bind (Idle.requireLiveSubscription _) fun sub _ => ?_
  split
  · exact .throw _
  · exact once_write (hP _ _ (.of_eq rfl rfl rfl rfl rfl)) fun _ => Idle.notify bus _ _ _

lemma once_overridePlan (id : ℤ) (planId : String) :
    Once P (adminSubscriptionOverridePlan user id planId bus : Py S Unit) := by
  unfold adminSubscriptionOverridePlan
  refine .bind (.checked _) fun _ _ =>
    .bind (.selectOne _ _ _) fun o _ => ?_
  cases o with
  | none => exact .throw _
  | some sub =>
    refine .bind (.checked _) fun newPlanId _ =>
      .bind (Idle.getPlan _) fun o _ => ?_
    cases o with
    | none => exact .throw _
    | some newPlan =>
      dsimp only
      split
      · exact .throw _
      · exact .bind .datetimeNow fun now _ =>
          once_write (hP _ _ ⟨.of_eq rfl rfl rfl, .inr (lt_nextPeriodEnd newPlan now)⟩) fun _ => .publish bus _

lemma once_setStatus (id : ℤ) (rawStatus : String) :
    Once P (adminSubscriptionSetStatus user id rawStatus bus : Py S Unit) := by
  unfold adminSubscriptionSetStatus
  refine .bind (.checked _) fun _ _ =>
    .bind (.selectOne _ _ _) fun o _ => ?_
  cases o with
  | none => exact .throw _
  | some sub =>
    dsimp only
    split
    · exact .throw _
    split
    · exact .throw _
    · exact .bind .datetimeNow fun now _ =>
        once_write (hP _ _ (keeps_setStatus _ _ _)) fun _ => .publish bus _

end Endpoints

/-! ### The Stripe pipeline -/

lemma idle_syncBranch (target : SubscriptionStatus) (row : Subscription) :
    Idle (syncBranch target (.of row) : Py S (Entity Subscription))
      fun sub => sub.loaded = row ∧ Keeps row sub.cur := by
  have hrefl : Keeps row row := .of_eq rfl rfl rfl rfl rfl
  unfold syncBranch
  split
  · exact .bind (.checked _) fun _ _ =>
      .bind .datetimeNow fun _ _ => .pure ⟨rfl, .of_eq rfl rfl rfl rfl rfl⟩
  · exact .bind (.checked _) fun _ _ => .pure ⟨rfl, hrefl⟩
  · refine .bind (.checked _) fun _ _ => .pure ?_
    split
    · exact ⟨rfl, keeps_resetDunning hrefl⟩
    · exact ⟨rfl, hrefl⟩
  · exact .pure ⟨rfl, hrefl⟩

section Events

variable (hP : ∀ loaded cur, Keeps loaded cur → P (.updateSubscription loaded cur))

include hP

lemma once_handleCheckoutCompleted (obj : Value)
    (hopen : ∀ row : Subscription, row.tenantId ≠ none → row.currentPeriodStart < row.currentPeriodEnd →
      P (.insertSubscription row)) :
    Once P (handleCheckoutCompleted obj : Py S String) := by
  unfold handleCheckoutCompleted
  refine .bind (.checked _) fun metadata _ =>
    .bind (.checked _) fun reference _ =>
    .bind (.checked _) fun tenantRaw _ =>
    .bind (.checked _) fun planRaw _ =>
    .bind (.checked _) fun stripeSubId _ => ?_
  dsimp only
  split
  · exact .pure _
  · exact .pure _
  swap
  · exact .pure _
  refine .bind (.checked _) fun tenantId _ =>
    .bind (.checked _) fun planId _ =>
    .bind (Idle.getPlan _) fun o _ => ?_
  cases o with
  | none => exact .pure _
  | some planRow =>
    refine .bind (Idle.getLiveForTenant _) fun o ho => ?_
    cases o with
    | none =>
      refine .bind (.checked _) fun stripeSub _ =>
        .bind (Idle.checkoutTerms _) fun terms hterms => ?_
      exact once_write (hopen _ (by simp) hterms) fun _ => .bind (.refresh _ _ _) fun _ _ => .pure trivial
    | some live =>
      dsimp only
      split
      · refine once_write (hP _ _ ⟨⟨rfl, rfl, .inr ?_⟩, .inl ⟨rfl, rfl⟩⟩) fun _ =>
          .bind (.refresh _ _ _) fun _ _ => .pure trivial
        rw [ho live rfl]
        exact Option.some_ne_none _
      · exact .pure _

lemma once_handleSubscriptionSync (obj : Value) :
    Once P (handleSubscriptionSync obj : Py S String) := by
  unfold handleSubscriptionSync
  refine .bind (.checked _) fun stripeId _ =>
    .bind (Idle.getSubscriptionByStripeId _) fun o _ => ?_
  cases o with
  | none => exact .pure _
  | some row =>
    refine .bind (Idle.statusFromStripe _) fun target _ => ?_
    split
    · exact .pure _
    refine .bind (idle_syncBranch target row) fun sub hsub =>
      .bind (Idle.periodFromStripe _) fun period hperiod => .of_closes ?_
    obtain ⟨hloaded, hkeep⟩ := hsub
    refine .bind (.add (hP _ _ ?_)) fun _ _ => .andThen (.commitOrThrow fun e ok s m => ?_) fun _ =>
      .bind (.refresh _ _ _) fun _ _ => .pure trivial
    · rw [← hloaded] at hkeep
      exact ⟨⟨hkeep.id, hkeep.tenant, hkeep.stripe⟩, .inr hperiod⟩
    · exact wp_bind.2 trivial

lemma once_handlePaymentFailed (obj : Value) (bus : Option EventBus) :
    Once P (handlePaymentFailed cfg obj bus : Py S String) := by
  unfold handlePaymentFailed
  refine .bind (.checked _) fun raw _ => ?_
  split
  swap
  · exact .pure _
  refine .bind (Idle.getSubscriptionByStripeId _) fun o _ => ?_
  cases o with
  | none => exact .pure _
  | some row =>
    exact .of_closes (.bind (adds_recordPaymentFailure hP bus row) fun _ _ =>
      .andThen .commit fun _ => .bind (.refresh _ _ _) fun _ _ => .pure trivial)

end Events

/-- The ledger says `true` with its entry committed, and nothing else. -/
lemma wp_recordEvent_pace (eventId eventType : String) {s : Session} (hs : s.pending = [])
    (hP : ∀ row, P (.insertStripeEvent row)) :
    Wp (pace (Each P)) (recordEvent eventId eventType : Py S Bool) s .fresh
      (fun fresh s' m' => fresh = true → s'.pending = [] ∧ m' = .fresh) fun _ _ _ => True := by
  unfold recordEvent
  rw [wp_bind]
  refine (Idle.findStripeEvent eventId _ s .fresh).mono ?_ fun _ _ _ _ => trivial
  rintro o s' m' ⟨-, hs', rfl⟩
  cases o with
  | some row => exact fun h => by cases h
  | none =>
    simp only [wp_bind, wp_tryCatch]
    show Wp _ _ { s' with pending := s'.pending ++ _ } _ _ _
    rw [hs', hs, List.nil_append]
    refine wp_commit_pace ?_ (fun _ _ => ⟨rfl, rfl⟩) (fun e => ?_) fun e => ?_
    · intro c hc
      rw [List.mem_singleton.1 hc]
      exact hP _
    · split
      · exact wp_bind.2 fun h => by cases h
      · trivial
    · split
      · exact wp_bind.2 fun h => by cases h
      · trivial

/-- The stamp writes no subscription, so it may follow the handler's commit. -/
lemma wp_markProcessed_pace (eventId : String) {s : Session} {m : Phase} (hs : s.pending = [])
    (hm : m ≠ .refused) (hP : ∀ loaded cur, cur.eventId = loaded.eventId → P (.updateStripeEvent loaded cur)) :
    Wp (pace (Each P)) (markProcessed eventId : Py S Unit) s m (fun _ _ _ => True) fun _ _ _ => True := by
  unfold markProcessed
  rw [wp_bind]
  refine (Idle.findStripeEvent eventId _ s m).mono ?_ fun _ _ _ _ => trivial
  rintro o s' m' ⟨-, hs', rfl⟩
  cases o with
  | none => trivial
  | some row =>
    simp only [wp_bind]
    refine (Idle.datetimeNow (S := S) _ s' m').mono ?_ fun _ _ _ _ => trivial
    rintro now s'' m'' ⟨-, hs'', rfl⟩
    show Wp _ _ { s'' with pending := s''.pending ++ _ } _ _ _
    rw [hs'', hs', hs, List.nil_append]
    have hc : Each P [.updateStripeEvent row { row with processedAt := some now }] := by
      intro c hc
      rw [List.mem_singleton.1 hc]
      exact hP _ _ rfl
    refine wp_commit_pace ?_ (fun _ => trivial) (fun _ => trivial) fun _ => trivial
    cases m'' with
    | fresh => exact hc
    | settled => exact ⟨hc, rfl⟩
    | refused => exact absurd rfl hm

lemma wp_processEvent_pace (event : Value) (bus : Option EventBus) {s : Session} (hs : s.pending = [])
    (hP : ∀ loaded cur, Keeps loaded cur → P (.updateSubscription loaded cur))
    (hopen : ∀ row : Subscription, row.tenantId ≠ none → row.currentPeriodStart < row.currentPeriodEnd →
      P (.insertSubscription row))
    (hrecord : ∀ row, P (.insertStripeEvent row))
    (hstamp : ∀ loaded cur, cur.eventId = loaded.eventId → P (.updateStripeEvent loaded cur)) :
    Wp (pace (Each P)) (processEvent cfg event bus : Py S String) s .fresh (fun _ _ _ => True)
      fun _ _ _ => True := by
  have hhandler : ∀ (obj : Value) (kind : DomainEvent),
      Once P (runHandler cfg bus obj kind : Py S String) := by
    intro obj kind
    cases kind with
    | checkoutCompleted => exact once_handleCheckoutCompleted hP obj hopen
    | subscriptionUpdated => exact once_handleSubscriptionSync hP obj
    | subscriptionDeleted => exact once_handleSubscriptionSync hP obj
    | paymentFailed => exact once_handlePaymentFailed hP obj bus
  have hdispatch : ∀ (eventId eventType : String) (inner : Value),
      Once P (dispatch cfg bus eventId eventType inner : Py S String) := by
    intro eventId eventType inner
    unfold dispatch
    split
    · exact .pure _
    · exact .bind (.checked _) fun obj _ => .bind (.enter eventId) fun _ _ => hhandler obj _
  unfold processEvent
  simp only [wp_bind]
  refine (wp_ofExcept _).2 ⟨fun eventId _ => (wp_ofExcept _).2 ⟨fun eventType _ => ?_, fun _ _ => trivial⟩,
    fun _ _ => trivial⟩
  split
  · trivial
  rw [wp_bind]
  refine (wp_recordEvent_pace eventId eventType hs hrecord).mono ?_ fun _ _ _ _ => trivial
  intro fresh s' m' hfresh
  cases fresh with
  | false => trivial
  | true =>
    obtain ⟨hs', rfl⟩ := hfresh rfl
    simp only [Bool.not_true, Bool.false_eq_true, if_false, wp_bind]
    refine (wp_ofExcept _).2 ⟨fun inner _ => ?_, fun _ _ => trivial⟩
    refine (hdispatch eventId eventType inner s' hs').mono ?_ fun _ _ _ _ => trivial
    rintro outcome s'' m'' ⟨hs'', hm⟩
    exact (wp_markProcessed_pace eventId hs'' hm hstamp).mono (fun _ _ _ _ => trivial) fun _ _ _ _ => trivial

/-! ### Invoices -/

lemma idle_ensureTenantInvoice (invoiceId : ℤ) (user : User) :
    Idle (ensureTenantInvoice invoiceId user : Py S Unit) := by
  unfold ensureTenantInvoice
  split
  · exact .throw _
  · refine .bind (.select _ _ _) fun rows _ => .bind (.checked _) fun o _ => ?_
    cases o with
    | none => exact .throw _
    | some inv => exact .pure trivial

section Invoices

lemma once_markPaid (invoiceId : ℤ) (bus : Option EventBus)
    (hP : ∀ loaded cur, Keeps loaded cur → P (.updateSubscription loaded cur))
    (hpaid : ∀ loaded cur, Transits loaded cur → cur.status = .paid → P (.updateInvoice loaded cur)) :
    Once P (markPaid invoiceId bus : Py S Invoice) := by
  unfold markPaid
  refine .bind (.selectOne _ _ _) fun o _ => ?_
  cases o with
  | none => exact .throw _
  | some inv =>
    refine .bind (Q := fun _ => .paid ∈ allowedInvoiceTransitions inv.status)
      (.ofExcept fun _ h => assertInvoiceTransition_ok h) fun _ hallowed =>
      .bind .datetimeNow fun now _ => .of_closes (.bind (.add (hpaid _ _ ⟨hallowed, rfl⟩ rfl)) fun _ _ => ?_)
    refine .bind (.of_idle (.selectOne _ _ _)) fun o _ => ?_
    have hend : Closes P (do let _keys ← commit; refreshInvoice inv.id : Py S Invoice) :=
      .andThen .commit fun _ => (Core.Idle.refresh _ _ _).mono fun _ _ => trivial
    cases o with
    | none => exact hend
    | some sub =>
      dsimp only
      split
      · exact .bind (adds_recoverSubscription hP bus sub) fun _ _ => hend
      · exact hend

variable {op : Operation} (hP : ∀ c, LawfulBill op c → P c)

include hP

lemma steady_issue (invoiceId : ℤ) (held : Option Invoice) (hwrites : ∀ c, P c → writes c = false) :
    Steady P (issue invoiceId held : Py S Invoice) := by
  unfold issue
  refine .bind (.of_idle (.selectOne _ _ _)) fun o _ => ?_
  cases o with
  | none => exact .throw _
  | some row =>
    refine .bind (Q := fun _ => .open ∈ allowedInvoiceTransitions (held.getD row).status)
      (.of_idle (.ofExcept fun _ h => assertInvoiceTransition_ok h)) fun _ hallowed =>
      .bind (.of_idle .datetimeNow) fun now _ =>
      .bind (.add (hP _ ⟨⟨⟨hallowed, rfl⟩, fun h => by cases h⟩, rfl⟩)) fun _ _ =>
      .bind (.commit hwrites) fun _ _ => .of_idle ((Core.Idle.refresh _ _ _).mono fun _ _ => trivial)

lemma steady_void (hop : op.Voids) (invoiceId : ℤ) (hwrites : ∀ c, P c → writes c = false) :
    Steady P (void invoiceId : Py S Invoice) := by
  unfold void
  refine .bind (.of_idle (.selectOne _ _ _)) fun o _ => ?_
  cases o with
  | none => exact .throw _
  | some inv =>
    exact .bind (Q := fun _ => .void ∈ allowedInvoiceTransitions inv.status)
      (.of_idle (.ofExcept fun _ h => assertInvoiceTransition_ok h)) fun _ hallowed =>
      .bind (.add (hP _ ⟨⟨⟨hallowed, rfl⟩, fun _ => hop⟩, rfl⟩)) fun _ _ =>
      .bind (.commit hwrites) fun _ _ => .of_idle ((Core.Idle.refresh _ _ _).mono fun _ _ => trivial)

omit hP in
lemma idle_appendMeteredLines (plan : Plan) (tenantId : Option ℤ) (periodStart : Datetime) :
    Idle (appendMeteredLines plan tenantId periodStart : Py S (List InvoiceLine)) := by
  have heach : ∀ (t : ℤ) (configs : List (String × DimensionConfig)),
      Idle (meterEach t periodStart configs : Py S (List InvoiceLine)) := by
    intro t configs
    induction configs with
    | nil => exact .pure trivial
    | cons p configs ih =>
      refine .bind (Q := fun _ => True) ?_ fun used _ => .bind ih fun lines _ => .pure trivial
      exact .tryCatch (.bind (.redis _) fun _ _ => .pure trivial) fun _ => .pure trivial
  unfold appendMeteredLines
  split
  · exact .pure trivial
  · exact .bind (.checked _) fun configs _ => heach _ configs

lemma steady_generateInvoice (hop : op.Bills) (sub : Subscription) (plan : Plan)
    (periodStart periodEnd : Option Datetime) (hwrites : ∀ c, P c → writes c = false) :
    Steady P (generateInvoice sub plan periodStart periodEnd : Py S Invoice) := by
  unfold generateInvoice
  split
  · exact .throw _
  dsimp only
  split
  · exact .throw _
  rename_i hperiod
  refine .bind (.of_idle (.selectOne _ _ _)) fun o _ => ?_
  cases o with
  | some existing => exact .throw _
  | none =>
    refine .bind (.of_idle (idle_appendMeteredLines _ _ _)) fun metered _ => .tryCatch ?_ fun e => ?_
    · unfold createInvoice
      refine .bind (.of_idle .datetimeNow) fun now _ => .bind (.add (hP _ ⟨⟨rfl, ?_, hop⟩, rfl⟩)) fun _ _ =>
        .bind (.commit hwrites) fun _ _ => .of_idle ((Core.Idle.refresh _ _ _).mono fun _ _ => trivial)
      exact not_le.1 hperiod
    · split
      · exact .bind .rollback fun _ _ => .throw _
      · exact .throw _

lemma steady_invoiceEach (hop : op.Bills) (loaded : ℕ) (plans : List Plan) (subs : List Subscription)
    (st : InvoiceSweepStats) (hwrites : ∀ c, P c → writes c = false) :
    Steady P (invoiceEach loaded plans st subs : Py S InvoiceSweepStats) := by
  have hdue : ∀ (sub : Subscription) (plan : Plan), Steady P (invoiceDue sub plan : Py S Billed) := by
    intro sub plan
    unfold invoiceDue
    refine .bind (.of_idle (.selectOne _ _ _)) fun o _ => ?_
    cases o with
    | some existing => exact .of_idle (.pure trivial)
    | none =>
      refine .bind (steady_generateInvoice hP hop sub plan _ _ hwrites) fun inv _ => ?_
      split
      · exact .bind (steady_issue hP _ _ hwrites) fun _ _ => .of_idle (.pure trivial)
      · exact .of_idle (.pure trivial)
  have hone : ∀ sub : Subscription, Steady P (invoiceOne loaded plans sub : Py S (Option Billed)) := by
    intro sub
    unfold invoiceOne
    refine .bind (.of_idle (.attributes _)) fun _ _ => .bind (Q := fun _ => True) (.of_idle ?_) fun o _ => ?_
    · unfold planOf
      split
      · exact .pure trivial
      · exact Idle.getPlan _
    · cases o with
      | none => exact .of_idle (.pure trivial)
      | some plan =>
        exact .tryCatch (.map (hdue sub plan) fun _ _ => trivial) fun _ =>
          .of_idle (.bind (.attributes _) fun _ _ => .pure trivial)
  induction subs generalizing st with
  | nil => exact .of_idle (.pure trivial)
  | cons sub subs ih => exact .bind (hone sub) fun _ _ => ih _

lemma steady_generateInvoiceEndpoint (hop : op.Bills) (caller : Caller) (periodStart periodEnd : Option Datetime)
    (bus : EventBus) (hwrites : ∀ c, P c → writes c = false) :
    Steady P (generateInvoiceEndpoint caller periodStart periodEnd bus : Py S Invoice) := by
  unfold generateInvoiceEndpoint
  refine .bind (.of_idle (.checked _)) fun _ _ => ?_
  split
  · exact .throw _
  refine .bind (.of_idle (Idle.getLiveForTenant _)) fun o _ => ?_
  cases o with
  | none => exact .throw _
  | some sub =>
    refine .bind (.of_idle (Idle.getPlan _)) fun o _ => ?_
    cases o with
    | none => exact .throw _
    | some plan =>
      exact .bind (steady_generateInvoice hP hop sub plan _ _ hwrites) fun inv _ =>
        .of_idle (.bind (.publish _ _) fun _ _ => .pure trivial)

lemma steady_generateDueInvoices (hop : op.Bills) (order : RowOrder) (hwrites : ∀ c, P c → writes c = false) :
    Steady P (generateDueInvoicesAsync order : Py S InvoiceSweepStats) := by
  unfold generateDueInvoicesAsync
  refine .bind (.of_idle .datetimeNow) fun now _ => .bind (.of_idle (.select _ _ _)) fun rows _ =>
    .bind (Q := fun _ => True) (.of_idle ?_) fun plans _ => .bind (.of_idle .getState) fun s _ =>
      steady_invoiceEach hP hop _ _ _ _ hwrites
  unfold loadPlans
  split
  · exact .pure trivial
  · exact (Core.Idle.execute _).mono fun _ _ => trivial

end Invoices

/-! ### All operations -/

section Operations

variable {op : Operation} {tenant : Option ℤ}

lemma sound_keeps {loaded cur : Subscription} (h : Keeps loaded cur) : Sound op (.updateSubscription loaded cur) :=
  ⟨h.toKeepsLink, h.period⟩

lemma sound_paid {loaded cur : Invoice} (h : Transits loaded cur) (hpaid : cur.status = .paid) :
    Sound op (.updateInvoice loaded cur) := by
  refine ⟨⟨h, fun hvoid => ?_⟩, trivial⟩
  rw [hpaid] at hvoid
  cases hvoid

lemma sound_bill {c : Change} (h : LawfulBill op c) : Sound op c := by
  refine ⟨h.1, ?_⟩
  have hquiet := h.2
  cases c with
  | insertSubscription row => cases hquiet
  | updateSubscription loaded cur => cases hquiet
  | _ => trivial

/-- A script that writes bills only. -/
lemma paced_of_steady {p : Py S α} (hp : Steady (LawfulBill op) p) :
    Wp (pace (Each (Sound op))) (do let _ ← p) { tenant := tenant } .fresh (fun _ _ _ => True) fun _ _ _ => True := by
  refine wp_bind.2 (wp_pace_mono (fun _ => Each.mono fun _ => sound_bill) ?_)
  exact (hp { tenant := tenant } .fresh (each_nil _) (by decide)).mono (fun _ _ _ _ => trivial)
    fun _ _ _ _ => trivial

/-- A script with one commit at most. -/
lemma paced_of_once {p : Py S α} (hp : Once (Sound op) p) :
    Wp (pace (Each (Sound op))) (do let _ ← p) { tenant := tenant } .fresh (fun _ _ _ => True) fun _ _ _ => True :=
  wp_bind.2 ((hp { tenant := tenant } rfl).mono (fun _ _ _ _ => trivial) fun _ _ _ _ => trivial)

lemma paced_processEvent (cfg : Settings) (event : Value) (bus : Option EventBus) :
    Wp (pace (Each (Sound op))) (processEvent cfg event bus : Py S String) { tenant := tenant } .fresh
      (fun _ _ _ => True) fun _ _ _ => True :=
  wp_processEvent_pace event bus rfl (fun _ _ h => sound_keeps h)
    (fun _ h hlt => ⟨fun hnone => absurd hnone h, hlt⟩) (fun _ => ⟨trivial, trivial⟩) fun _ _ h => ⟨h, trivial⟩

/-- The webhook endpoint processes an event, and answers whatever that raises. -/
lemma paced_stripeWebhook (cfg : Settings) (request : WebhookRequest) (bus : EventBus) :
    Wp (pace (Each (Sound op))) (stripeWebhook cfg request bus : Py S Response) { tenant := tenant } .fresh
      (fun _ _ _ => True) fun _ _ _ => True := by
  unfold stripeWebhook
  split
  · trivial
  split
  · trivial
  split
  · trivial
  simp only [wp_bind]
  refine (wp_ofExcept _).2 ⟨fun eventId _ => (wp_ofExcept _).2 ⟨fun eventType _ => ?_,
    fun _ _ => trivial⟩, fun _ _ => trivial⟩
  split
  · trivial
  rw [wp_bind, wp_tryCatch]
  refine (paced_processEvent cfg _ _).mono (fun _ _ _ _ => trivial) fun e _ _ _ => ?_
  split <;> trivial

lemma paced_request (cfg : Settings) (r : Request) :
    Wp (pace (Each (Sound (.request r)))) (r.script (S := S) cfg) { tenant := tenant } .fresh (fun _ _ _ => True)
      fun _ _ _ => True := by
  have hkeep : ∀ loaded cur, Keeps loaded cur → Sound (.request r) (.updateSubscription loaded cur) :=
    fun _ _ h => sound_keeps h
  have hpaid : ∀ loaded cur, Transits loaded cur → cur.status = .paid →
      Sound (.request r) (.updateInvoice loaded cur) := fun _ _ h hst => sound_paid h hst
  cases r with
  | subscribe user planId => exact paced_of_once (once_subscribe planId)
  | changePlan user planId => exact paced_of_once (once_changePlan hkeep planId)
  | cancel user immediate => exact paced_of_once (once_cancelSubscription hkeep immediate)
  | resume user => exact paced_of_once (once_resumeSubscription hkeep)
  | overridePlan user id planId =>
    exact (once_overridePlan hkeep id planId { tenant := tenant } rfl).mono (fun _ _ _ _ => trivial)
      fun _ _ _ _ => trivial
  | setStatus user id rawStatus =>
    exact (once_setStatus hkeep id rawStatus { tenant := tenant } rfl).mono (fun _ _ _ _ => trivial)
      fun _ _ _ _ => trivial
  | webhook request =>
    exact wp_bind.2 ((paced_stripeWebhook cfg request {}).mono (fun _ _ _ _ => trivial) fun _ _ _ _ => trivial)
  | processEvent event bus =>
    exact wp_bind.2 ((paced_processEvent cfg event bus).mono (fun _ _ _ _ => trivial) fun _ _ _ _ => trivial)
  | payInvoice caller invoiceId =>
    exact paced_of_once (.bind (.checked _) fun _ _ => .bind (idle_ensureTenantInvoice _ _) fun _ _ =>
      .andThen (once_markPaid invoiceId none hkeep hpaid) fun inv =>
        .bind (.publish _ _) fun _ _ => .pure trivial)
  | markPaid invoiceId bus => exact paced_of_once (once_markPaid invoiceId bus hkeep hpaid)
  | dunningSweep => exact paced_of_once (once_processDunning hkeep)

end Operations

/-- **Every operation keeps the pace**, and its changes are sound. -/
theorem paced_sound (cfg : Settings) (op : Operation) (tenant : Option ℤ) :
    Wp (pace (Each (Sound op))) (op.script (S := S) cfg) { tenant := tenant } .fresh (fun _ _ _ => True)
      fun _ _ _ => True := by
  have hquiet : ∀ c, LawfulBill op c → writes c = false := fun c hc => hc.2
  cases op with
  | generateInvoice caller periodStart periodEnd =>
    have hop : (Operation.generateInvoice caller periodStart periodEnd).Bills := trivial
    exact paced_of_steady (steady_generateInvoiceEndpoint (fun _ h => h) hop caller _ _ _ hquiet)
  | issueInvoice caller invoiceId =>
    exact paced_of_steady (.bind (.of_idle (.checked _)) fun _ _ => .bind (.of_idle (idle_ensureTenantInvoice _ _))
      fun _ _ => .bind (steady_issue (fun _ h => h) _ _ hquiet) fun inv _ =>
        .of_idle (.bind (.publish _ _) fun _ _ => .pure trivial))
  | voidInvoice caller invoiceId =>
    exact paced_of_steady (.bind (.of_idle (.checked _)) fun _ _ => .bind (.of_idle (idle_ensureTenantInvoice _ _))
      fun _ _ => .bind (steady_void (fun _ h => h) ⟨caller, invoiceId, rfl⟩ _ hquiet) fun inv _ =>
        .of_idle (.bind (.publish _ _) fun _ _ => .pure trivial))
  | invoiceSweep order =>
    have hop : (Operation.invoiceSweep order).Bills := trivial
    exact paced_of_steady (steady_generateDueInvoices (fun _ h => h) hop order hquiet)
  | request r => exact paced_request cfg r

/-- Its changes are lawful. -/
theorem paced (cfg : Settings) (op : Operation) (tenant : Option ℤ) :
    Wp (pace (Each (Lawful op))) (op.script (S := S) cfg) { tenant := tenant } .fresh (fun _ _ _ => True)
      fun _ _ _ => True :=
  wp_pace_mono (fun _ => Each.mono fun _ hc => hc.1) (paced_sound cfg op tenant)

/-- It writes periods whole. -/
theorem paced_whole (cfg : Settings) (op : Operation) (tenant : Option ℤ) :
    Wp (pace (Each Whole)) (op.script (S := S) cfg) { tenant := tenant } .fresh (fun _ _ _ => True)
      fun _ _ _ => True :=
  wp_pace_mono (fun _ => Each.mono fun _ hc => hc.2) (paced_sound cfg op tenant)

end FastapiTemplate.Billing
