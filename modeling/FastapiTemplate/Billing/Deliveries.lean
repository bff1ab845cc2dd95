import FastapiTemplate.Database.Ledger
import FastapiTemplate.Billing.Conforms.Events
import FastapiTemplate.Billing.Notifications

/-!
# Acknowledged payment failures

A delivery of `invoice.payment_failed` is answered with 200 whatever its handler raises, and its event
is in the ledger before the handler runs. So a failure is counted if nothing up to the handler's commit
goes wrong (`Lands`), and is lost for good otherwise: a later delivery of the event is a duplicate.
`failures_counted_iff` says it for runs in which other requests may come in between.
-/

namespace FastapiTemplate.Billing

open Core Database Python Effects Script

variable {S : Schema} {cfg : Settings} {s : Session} {w : World S}

/-! ### The ledger -/

/-- The event is not in the ledger, and the two round trips that put it there do not fail. -/
def Intake (w : World S) (eventId : String) : Prop :=
  ¬w.db.Recorded eventId ∧ w.env.dbFails w.dbCalls = false ∧ w.env.dbFails (w.dbCalls + 1) = false

lemma exec_findStripeEvent (eventId : String) (ha : s.aborted = false) :
    (findStripeEvent eventId : Py S (Option StripeEvent)).exec serve s w =
      if w.env.dbFails w.dbCalls then
        ⟨.error .operationalError, { s with aborted := true }, w.queried⟩
      else ⟨scalarOneOrNone (w.db.stripeEvents.rows.filter fun e => e.eventId == eventId), s, w.queried⟩ := by
  unfold findStripeEvent
  rw [exec_bind, exec_execute, if_neg (by rw [ha]; exact Bool.false_ne_true)]
  split
  · rfl
  · rw [Outcome.next_ok, exec_ofExcept]

/-- The ledger has no row of an event that is not recorded. -/
lemma filter_not_recorded {d : Db S} {eventId : String} (h : ¬d.Recorded eventId) :
    (d.stripeEvents.rows.filter fun e => e.eventId == eventId) = [] := by
  refine List.filter_eq_nil_iff.2 fun e he hid => h ⟨e, he, ?_⟩
  simpa using hid

theorem exec_recordEvent_fresh (eventType : String) {eventId : String} (h : Intake w eventId)
    (ha : s.aborted = false) (hp : s.pending = []) :
    ∃ d : Db S, d.subscriptions = w.db.subscriptions ∧ d.users = w.db.users ∧
      (recordEvent eventId eventType : Py S Bool).exec serve s w =
        ⟨.ok true, s, w.queried.committed
          [.insertStripeEvent { eventId := eventId, eventType := eventType }] d⟩ := by
  obtain ⟨hfresh, hask, hgo⟩ := h
  let row : StripeEvent := { eventId := eventId, eventType := eventType }
  have hrow : ¬w.db.Recorded row.eventId := hfresh
  obtain ⟨ids, d, hd, hsubs, husers⟩ := Db.commit_record hrow
  refine ⟨d, hsubs, husers, ?_⟩
  have hup : w.queried.env.dbFails w.queried.dbCalls = false := hgo
  have hcommit : w.queried.db.commit
      (s.pending ++ [.insertStripeEvent { eventId := eventId, eventType := eventType }]) = .ok (ids, d) := by
    rw [hp]
    exact hd
  have hs : { tenant := s.tenant, flushExpires := s.flushExpires, expirations := s.expirations } = s := by
    cases s
    simp_all
  unfold recordEvent
  rw [exec_bind, exec_findStripeEvent eventId ha, hask, if_neg Bool.false_ne_true,
    filter_not_recorded hfresh]
  simp only [scalarOneOrNone, Outcome.next_ok, exec_bind, exec_add, exec_tryCatch, exec_commit, ha,
    Bool.false_eq_true, if_false, hup, hcommit, exec_pure, Outcome.rescue_ok]
  rw [hs, hp]
  rfl

theorem exec_recordEvent_stale (eventType : String) {eventId : String} (h : ¬Intake w eventId)
    (ha : s.aborted = false) :
    ((recordEvent eventId eventType : Py S Bool).exec serve s w).result ≠ .ok true ∧
      ((recordEvent eventId eventType : Py S Bool).exec serve s w).world.db = w.db := by
  unfold recordEvent
  rw [exec_bind, exec_findStripeEvent eventId ha]
  cases hask : w.env.dbFails w.dbCalls with
  | true => exact ⟨nofun, rfl⟩
  | false =>
  rw [if_neg Bool.false_ne_true]
  by_cases hrec : w.db.Recorded eventId
  · -- the event was seen before
    obtain ⟨row, hrow, hid⟩ := hrec
    have hmem : row ∈ w.db.stripeEvents.rows.filter fun e => e.eventId == eventId :=
      List.mem_filter.2 ⟨hrow, by simpa using hid⟩
    rcases hone : scalarOneOrNone (w.db.stripeEvents.rows.filter fun e => e.eventId == eventId)
      with e | _ | seen
    · rw [hone]
      exact ⟨nofun, rfl⟩
    · rw [scalarOneOrNone_none hone] at hmem
      cases hmem
    · rw [hone]
      exact ⟨nofun, rfl⟩
  · -- the commit of its row fails
    have hdown : w.queried.env.dbFails w.queried.dbCalls = true := by
      cases hgo : w.env.dbFails (w.dbCalls + 1) with
      | true => exact hgo
      | false => exact absurd ⟨hrec, hask, hgo⟩ h
    rw [filter_not_recorded hrec]
    simp only [scalarOneOrNone, Outcome.next_ok, exec_bind, exec_add, exec_tryCatch, exec_commit, ha,
      Bool.false_eq_true, if_false, hdown, if_true, Outcome.next_error, Outcome.rescue_error]
    exact ⟨nofun, rfl⟩

/-- The stamp of a processed event touches no subscription. -/
lemma exec_markProcessed (eventId : String) (hp : s.pending = []) :
    ((markProcessed eventId : Py S Unit).exec serve s w).world.db.subscriptions = w.db.subscriptions := by
  unfold markProcessed findStripeEvent
  rw [exec_bind, exec_bind, exec_execute]
  split
  · rfl
  split
  · rfl
  rw [Outcome.next_ok, exec_ofExcept]
  rcases hone : scalarOneOrNone (w.db.stripeEvents.rows.filter fun e => e.eventId == eventId)
    with e | _ | row
  · rw [hone]
    rfl
  · rw [hone]
    rfl
  rw [hone]
  simp only [Outcome.next_ok, exec_bind, exec_datetimeNow, exec_add, exec_commit, hp, List.nil_append,
    exec_pure]
  split
  · rfl
  split
  · rfl
  split
  · rfl
  · rename_i hcommit
    exact flush_keeps (Db.commit_ok hcommit) fun c hc => by
      rw [List.mem_singleton.1 hc]
      exact ⟨rfl, rfl⟩

/-! ### One delivery -/

/-- A delivery of `invoice.payment_failed` for the subscription linked to `key`: the request, the tenant
context it runs in, what the environment decides meanwhile, and what the code reads in the event. -/
structure Delivery (key : String) where
  request : WebhookRequest
  tenant : Option ℤ := none
  env : Env
  event : Value
  eventId : String
  obj : Value
  json : request.json = some event
  id : eventField event "id" = .ok eventId
  type : eventField event "type" = .ok "invoice.payment_failed"
  object : eventObject event = .ok obj
  names : obj.get "subscription" = .ok (.str key)

namespace Delivery

variable {key : String}

def served (d : Delivery key) : Served := { request := .webhook d.request, tenant := d.tenant, env := d.env }

/-- What the endpoint answers. -/
def answer (cfg : Settings) (db : Db S) (d : Delivery key) : Except Exn Response :=
  ((stripeWebhook cfg d.request {} : Py S Response).exec serve { tenant := d.tenant }
    (World.start db d.env)).result

/-- The answer is a 2xx. -/
def acknowledged (cfg : Settings) (db : Db S) (d : Delivery key) : Bool :=
  match d.answer cfg db with
  | .ok r => decide (200 ≤ r.statusCode ∧ r.statusCode < 300)
  | .error _ => false

/-- An acknowledged delivery was processed. -/
theorem processed (cfg : Settings) (db : Db S) {d : Delivery key} (h : d.acknowledged cfg db = true) :
    d.eventId ≠ "" ∧ (serveOne cfg db d.served).db =
      ((processEvent cfg d.event (some {}) : Py S String).exec serve { tenant := d.tenant }
        (World.start db d.env)).world.db := by
  have hserve : (serveOne cfg db d.served).db = ((stripeWebhook cfg d.request {} : Py S Response).exec
      serve { tenant := d.tenant } (World.start db d.env)).world.db := by
    simp only [serveOne, served, Request.script, exec_bind, exec_pure, Outcome.next_world]
  rw [hserve]
  unfold acknowledged answer at h
  unfold stripeWebhook at h ⊢
  cases hconf : d.request.configured with
  | false => simp [hconf] at h
  | true =>
  cases hver : d.request.verified with
  | false => simp [hconf, hver, Response.detail] at h
  | true =>
  by_cases hid : d.eventId = ""
  · simp [hconf, hver, d.json, d.id, d.type, hid, Response.detail] at h
  refine ⟨hid, ?_⟩
  have hne : ¬(d.eventId = "" ∨ "invoice.payment_failed" = "") := by simp [hid]
  simp only [d.json, d.id, d.type, hne, Bool.not_true, Bool.false_eq_true, if_false, exec_bind,
    exec_ofExcept, Outcome.next_ok, exec_tryCatch, exec_pure, Outcome.next_world]
  rcases ho : (processEvent cfg d.event (some {}) : Py S String).exec serve { tenant := d.tenant }
    (World.start db d.env) with ⟨e | a, s', w'⟩
  · rw [Outcome.rescue_error]
    split <;> rfl
  · rfl

/-- A handler that returns has committed what it changed. -/
lemma pending_handlePaymentFailed (d : Delivery key) {db : Db S} (hne : d.eventId ≠ "")
    (hfresh : ¬db.Recorded d.eventId) (bus : Option EventBus) (hp : s.pending = []) {outcome : String}
    (h : ((handlePaymentFailed cfg d.obj bus : Py S String).exec serve s w).result = .ok outcome) :
    ((handlePaymentFailed cfg d.obj bus : Py S String).exec serve s w).state.pending = [] := by
  have hevent : handled db d.event = some (.paymentFailed, d.obj) :=
    handled_of d.id d.type (by simp [hne]) (fun e he hid => hfresh ⟨e, he, hid⟩) d.object rfl rfl
  have hhand : InHand (.processEvent d.event bus) .paymentFailed d.obj
      ({ start := some db } : View S) := ⟨⟨db, d.event, rfl, rfl, hevent⟩, rfl, rfl⟩
  have hwp : Wp (watch (Proper cfg (.processEvent d.event bus))) (handlePaymentFailed cfg d.obj bus) s
      ({ start := some db } : View S) (fun _ s _ => s.pending = []) fun _ _ _ => True :=
    wp_handlePaymentFailed hhand hp (fun _ _ _ => trivial) fun _ _ _ h => h
  obtain ⟨m', -, hends⟩ := Wp.exec (h := serve) (I := fun _ _ => True) (fun _ _ _ _ _ => trivial) hwp
    (w := w) trivial
  rw [h] at hends
  exact hends

/-- **The run of `process_event`** for a delivery: nothing if the event does not get into the ledger, and
else what the handler does. -/
theorem exec_processEvent (cfg : Settings) (d : Delivery key) (bus : Option EventBus) (hne : d.eventId ≠ "")
    (ha : s.aborted = false) (hp : s.pending = []) :
    let o := (processEvent cfg d.event bus : Py S String).exec serve s w
    (¬Intake w d.eventId → o.world.db = w.db) ∧
    (Intake w d.eventId → ∃ w₁ : World S, w₁.db.subscriptions = w.db.subscriptions ∧
      w₁.db.users = w.db.users ∧ w₁.env = w.env ∧ w₁.dbCalls = w.dbCalls + 2 ∧
      w₁.busCalls = w.busCalls ∧ o.world.db.subscriptions =
        ((handlePaymentFailed cfg d.obj bus : Py S String).exec serve s w₁).world.db.subscriptions) := by
  intro o
  have ho : o = (processEvent cfg d.event bus : Py S String).exec serve s w := rfl
  have hid : ¬(d.eventId = "" ∨ "invoice.payment_failed" = "") := by simp [hne]
  unfold processEvent at ho
  simp only [d.id, d.type, hid, exec_bind, exec_ofExcept, Outcome.next_ok, if_false] at ho
  constructor
  · intro hstale
    obtain ⟨hres, hdb⟩ := exec_recordEvent_stale "invoice.payment_failed" hstale ha
    rcases hrec : (recordEvent d.eventId "invoice.payment_failed" : Py S Bool).exec serve s w
      with ⟨e | fresh, s', w'⟩
    · rw [hrec] at ho hdb
      rw [ho]
      exact hdb
    · rw [hrec] at ho hdb hres
      have hfalse : fresh = false := by
        cases fresh with
        | true => exact absurd rfl hres
        | false => rfl
      rw [ho, hfalse]
      exact hdb
  · intro hfresh
    obtain ⟨d', hsubs, husers, hrec⟩ := exec_recordEvent_fresh "invoice.payment_failed" hfresh ha hp
    rw [hrec] at ho
    have hkind : DomainEvent.ofType? "invoice.payment_failed" = some .paymentFailed := by
      simp [DomainEvent.ofType?]
    simp only [Outcome.next_ok, Bool.not_true, Bool.false_eq_true, if_false, exec_bind, exec_ofExcept,
      d.object, dispatch, hkind, handlerObject, exec_perform, runHandler, exec_pure] at ho
    generalize hw₁ : (serve (Eff.enter d.eventId) (w.queried.committed [.insertStripeEvent
      { eventId := d.eventId, eventType := "invoice.payment_failed" }] d')).2 = w₁ at ho
    refine ⟨w₁, ?_, ?_, ?_, ?_, ?_, ?_⟩
    · rw [← hw₁]
      exact hsubs
    · rw [← hw₁]
      exact husers
    · rw [← hw₁]
      rfl
    · rw [← hw₁]
      rfl
    · rw [← hw₁]
      rfl
    rw [ho]
    rcases hhandle : (handlePaymentFailed cfg d.obj bus : Py S String).exec serve s w₁
      with ⟨e | outcome, s', w'⟩
    · rfl
    · have hok : ((handlePaymentFailed cfg d.obj bus : Py S String).exec serve s w₁).result
          = .ok outcome := by rw [hhandle]
      have hclean := d.pending_handlePaymentFailed hne hfresh.1 bus hp hok
      rw [hhandle] at hclean
      rw [Outcome.next_ok, Outcome.next_world]
      exact exec_markProcessed d.eventId hclean

end Delivery

/-! ### The failure it brings -/

/-- A Stripe id links one row. -/
theorem linked_eq {d : Db S} {x : Subscription} (hx : x ∈ d.subscriptions.rows) {key : String}
    (hkey : x.stripeSubscriptionId = some key) (current : Option ℤ) :
    linked d current key = if visible current x.tenantId then [x] else [] := by
  have honly : ∀ y ∈ d.subscriptions.rows, y.stripeSubscriptionId = some key → y = x := by
    intro y hy hyk
    exact uniqueOn_inj d.constraints.stripe hy hx hyk hkey
  unfold linked
  split
  · rename_i hv
    have hnodup : d.subscriptions.rows.Nodup := .of_map _ d.subscriptions.nodup_keys
    refine List.perm_singleton.1 ((List.perm_ext_iff_of_nodup (hnodup.filter _)
      (List.nodup_singleton x)).2 fun y => ?_)
    simp only [List.mem_filter, Bool.and_eq_true, beq_iff_eq, List.mem_singleton]
    constructor
    · rintro ⟨hy, -, hyk⟩
      exact honly y hy hyk
    · rintro rfl
      exact ⟨hx, hv, hkey⟩
  · rename_i hv
    refine List.filter_eq_nil_iff.2 fun y hy hp => ?_
    simp only [Bool.and_eq_true, beq_iff_eq] at hp
    rw [honly y hy hp.2] at hp
    exact hv hp.1

/-- The handler finds the row, and neither a round trip nor a publication fails up to its commit. -/
def Smooth (w : World S) (current : Option ℤ) (x : Subscription) : Prop :=
  visible current x.tenantId = true ∧ w.env.dbFails w.dbCalls = false ∧
    ¬Unresolved w.queried.ticked x ∧ Clear w.queried.ticked x

/-- The row after a delivery that counts `n` failures. -/
structure Counts (x x' : Subscription) (n : ℤ) : Prop where
  id : x'.id = x.id
  link : x'.stripeSubscriptionId = x.stripeSubscriptionId
  live : x'.isLive = true
  count : x'.failedPaymentCount = x.failedPaymentCount + n

instance (x x' : Subscription) (n : ℤ) : Decidable (Counts x x' n) :=
  decidable_of_iff (x'.id = x.id ∧ x'.stripeSubscriptionId = x.stripeSubscriptionId ∧ x'.isLive = true ∧
    x'.failedPaymentCount = x.failedPaymentCount + n)
    ⟨fun ⟨h₁, h₂, h₃, h₄⟩ => ⟨h₁, h₂, h₃, h₄⟩, fun ⟨h₁, h₂, h₃, h₄⟩ => ⟨h₁, h₂, h₃, h₄⟩⟩

/-- A live subscription can always fail. -/
lemma fails_of_live {x : Subscription} (h : x.isLive = true) :
    x.status = .pastDue ∨ .pastDue ∈ allowedTransitions x.status := by
  unfold Subscription.isLive at h
  cases hst : x.status <;> simp_all [SubscriptionStatus.isLive, allowedTransitions]

/-- **The failure is counted exactly if the handler's run is smooth.** -/
theorem handlePaymentFailed_counts (hS : ∀ st : SubscriptionStatus, st.isLive = true → S.accepts st = true)
    (cfg : Settings) (bus : EventBus) {obj : Value} {key : String}
    (hkey : obj.get "subscription" = .ok (.str key)) {x : Subscription} (hx : x ∈ w.db.subscriptions.rows)
    (hlive : x.isLive = true) (hlink : x.stripeSubscriptionId = some key) (ha : s.aborted = false)
    (hp : s.pending = []) :
    let o := (handlePaymentFailed cfg obj (some bus) : Py S String).exec serve s w
    (Smooth w s.tenant x → ∃ x' ∈ o.world.db.subscriptions.rows, Counts x x' 1) ∧
    (¬Smooth w s.tenant x → o.world.db = w.db) := by
  intro o
  have hlinked := linked_eq hx hlink s.tenant
  obtain ⟨d, hd, htables⟩ := commit_failed cfg hS (w.env.clock w.clockReads) hx (fails_of_live hlive)
  constructor
  · rintro ⟨hv, hup, hquery, hclear⟩
    have hone : scalarOneOrNone (linked w.db s.tenant key) = .ok (some x) := by
      rw [hlinked, if_pos hv]
      rfl
    cases exec_handlePaymentFailed cfg bus ha hp ⟨hup, ⟨key, hkey, hone⟩, fails_of_live hlive⟩ with
    | unresolved hquery' => exact absurd hquery' hquery
    | cut hquery' hcut => exact absurd ⟨hclear, [], d, hd⟩ hcut
    | through hquery' hthrough ids d' hcommit hdb =>
      have hsame : d' = d := by
        have hboth := hcommit.symm.trans hd
        cases hboth
        rfl
      refine ⟨failed cfg (w.env.clock w.clockReads) x, ?_, ⟨rfl, rfl, rfl, rfl⟩⟩
      have hrow : rewrite [.updateSubscription x (failed cfg (w.env.clock w.clockReads) x)] x
          = failed cfg (w.env.clock w.clockReads) x := by
        rw [rewrite_cons, rewrite_nil, Change.rewrite, if_pos rfl]
        exact Subscription.writeBack_loaded rfl
      have hmem := List.mem_map_of_mem
        (f := rewrite [.updateSubscription x (failed cfg (w.env.clock w.clockReads) x)]) hx
      rw [hrow] at hmem
      rw [hdb, hsame, Db.subscriptions, htables]
      exact hmem
  · intro hrough
    by_cases hrec : ∃ y, Records w s.tenant obj y
    · obtain ⟨y, hy⟩ := hrec
      obtain ⟨hup, ⟨key', hkey', hone⟩, -⟩ := id hy
      rw [hkey] at hkey'
      cases hkey'
      have hyx : y ∈ linked w.db s.tenant key := scalarOneOrNone_some hone
      rw [hlinked] at hyx
      split at hyx
      · rename_i hv
        rw [List.mem_singleton.1 hyx] at hy
        cases exec_handlePaymentFailed cfg bus ha hp hy with
        | unresolved hquery hframe => exact hframe.db
        | cut hquery hcut hframe => exact hframe.db
        | through hquery hthrough => exact absurd ⟨hv, hup, hquery, hthrough.1⟩ hrough
      · cases hyx
    · exact (exec_handlePaymentFailed_idle cfg bus ha fun y hy => hrec ⟨y, hy⟩).1.db

section Deliver

variable {key : String} (cfg : Settings)

/-- Nothing goes wrong with a delivery up to its handler's commit: its event is new, the tenant context
sees the row, and none of the round trips and publications on the way fails. -/
def Lands (db : Db S) (x : Subscription) (d : Delivery key) : Prop :=
  ¬db.Recorded d.eventId ∧ visible d.tenant x.tenantId = true ∧
    (∀ n < if x.tenantId = none then 4 else 5, d.env.dbFails n = false) ∧
    ∀ k < (audience db x).length, d.env.busFails k = false

instance (db : Db S) (x : Subscription) (d : Delivery key) : Decidable (Lands db x d) :=
  inferInstanceAs (Decidable (_ ∧ _))

/-- The round trips of a delivery in their order: two for the ledger, two or three of the handler. -/
lemma lands_iff (db : Db S) (x : Subscription) (d : Delivery key) {w : World S}
    (husers : w.db.users = db.users) (henv : w.env = d.env) (hdb : w.dbCalls = 2) (hbus : w.busCalls = 0) :
    Lands db x d ↔ Intake (World.start db d.env) d.eventId ∧ Smooth w d.tenant x := by
  have haud : audience w.db x = audience db x := by
    unfold audience
    rw [husers]
  have hask : w.queried.ticked.dbCalls = 3 := by
    show w.dbCalls + 1 = 3
    omega
  have hcalls : (resolved w.queried.ticked x).dbCalls = if x.tenantId = none then 3 else 4 := by
    unfold resolved
    split
    · exact hask
    · show w.queried.ticked.dbCalls + 1 = 4
      omega
  have henv' : w.queried.ticked.env = d.env := henv
  have haud' : audience w.queried.ticked.db x = audience db x := haud
  have hbus' : w.queried.ticked.busCalls = 0 := hbus
  unfold Lands Intake Smooth Clear Unresolved
  rw [henv', haud', hbus', hcalls, hask, henv, hdb]
  simp only [Nat.zero_add]
  constructor
  · rintro ⟨hnew, hv, hup, hsent⟩
    have hfour : ∀ n < 4, d.env.dbFails n = false := by
      intro n hn
      refine hup n ?_
      split <;> omega
    refine ⟨⟨hnew, hfour 0 (by omega), hfour 1 (by omega)⟩, hv, hfour 2 (by omega), ?_, hsent, ?_⟩
    · rintro ⟨-, hdown⟩
      rw [hfour 3 (by omega)] at hdown
      cases hdown
    · refine hup _ ?_
      split <;> omega
  · rintro ⟨⟨hnew, h0, h1⟩, hv, h2, hquery, hsent, hcommit⟩
    refine ⟨hnew, hv, fun n hn => ?_, hsent⟩
    by_cases ht : x.tenantId = none
    · rw [if_pos ht] at hn hcommit
      obtain rfl | rfl | rfl | rfl : n = 0 ∨ n = 1 ∨ n = 2 ∨ n = 3 := by omega
      exacts [h0, h1, h2, hcommit]
    · rw [if_neg ht] at hn hcommit
      have h3 : d.env.dbFails 3 = false := Bool.eq_false_iff.2 fun hdown => hquery ⟨ht, hdown⟩
      obtain rfl | rfl | rfl | rfl | rfl : n = 0 ∨ n = 1 ∨ n = 2 ∨ n = 3 ∨ n = 4 := by omega
      exacts [h0, h1, h2, h3, hcommit]

/-- **One acknowledged delivery.** The failure is counted exactly if the delivery lands. -/
theorem deliver_counts (hS : ∀ st : SubscriptionStatus, st.isLive = true → S.accepts st = true) {db : Db S}
    {x : Subscription} (hx : x ∈ db.subscriptions.rows) (hlive : x.isLive = true)
    (hlink : x.stripeSubscriptionId = some key) {d : Delivery key} (hack : d.acknowledged cfg db = true) :
    ∃ x' ∈ (serveOne cfg db d.served).db.subscriptions.rows,
      Counts x x' (if Lands db x d then 1 else 0) := by
  obtain ⟨hne, hdb⟩ := d.processed cfg db hack
  obtain ⟨hstale, hfresh⟩ := d.exec_processEvent (s := { tenant := d.tenant })
    (w := World.start db d.env) cfg (some {}) hne rfl rfl
  have hself : Counts x x 0 := ⟨rfl, rfl, hlive, (Int.add_zero _).symm⟩
  by_cases hin : Intake (World.start db d.env) d.eventId
  swap
  · -- the event is not handled
    have hnot : ¬Lands db x d := fun h => hin ⟨h.1, h.2.2.1 0 (by split <;> omega), h.2.2.1 1 (by split <;> omega)⟩
    rw [if_neg hnot, hdb, hstale hin]
    exact ⟨x, hx, hself⟩
  obtain ⟨w, hsubs, husers, henv, hcalls, hbus, hend⟩ := hfresh hin
  have hlands := lands_iff db x d husers henv hcalls hbus
  have hx' : x ∈ w.db.subscriptions.rows := by
    rw [hsubs]
    exact hx
  obtain ⟨hsmooth, hrough⟩ := handlePaymentFailed_counts (s := { tenant := d.tenant }) hS cfg {} d.names
    hx' hlive hlink rfl rfl
  rw [hdb, hend]
  by_cases hgo : Smooth w d.tenant x
  · rw [if_pos (hlands.2 ⟨hin, hgo⟩)]
    exact hsmooth hgo
  · rw [if_neg fun h => hgo (hlands.1 h).2, hrough hgo]
    exact ⟨x, hx', hself⟩

end Deliver

/-! ### Runs of deliveries -/

/-- What comes next: a delivery, or another request. -/
inductive Turn (key : String) where
  | deliver (d : Delivery key)
  | other (s : Served)

section Runs

variable {key : String} (cfg : Settings)

def Turn.served : Turn key → Served
  | deliver d => d.served
  | other s => s

def Turn.isDelivery : Turn key → Bool
  | deliver _ => true
  | other _ => false

/-- Every delivery is acknowledged, and the other requests leave the count of the subscription alone, and
the subscription live and linked. -/
def Undisturbed : Db S → List (Turn key) → Prop
  | _, [] => True
  | db, .deliver d :: rest =>
    d.acknowledged cfg db = true ∧ Undisturbed (serveOne cfg db d.served).db rest
  | db, .other s :: rest =>
    (∀ x ∈ db.subscriptions.rows, x.stripeSubscriptionId = some key →
      ∃ x' ∈ (serveOne cfg db s).db.subscriptions.rows, Counts x x' 0) ∧
    Undisturbed (serveOne cfg db s).db rest

/-- Every delivery lands, in the state it comes in. -/
def AllLand : Db S → List (Turn key) → Prop
  | _, [] => True
  | db, .deliver d :: rest =>
    (∀ x ∈ db.subscriptions.rows, x.stripeSubscriptionId = some key → Lands db x d) ∧
      AllLand (serveOne cfg db d.served).db rest
  | db, .other s :: rest => AllLand (serveOne cfg db s).db rest

/-- How many deliveries land. -/
def landed : Db S → List (Turn key) → ℕ
  | _, [] => 0
  | db, .deliver d :: rest =>
    (if ∀ x ∈ db.subscriptions.rows, x.stripeSubscriptionId = some key → Lands db x d then 1 else 0) +
      landed (serveOne cfg db d.served).db rest
  | db, .other s :: rest => landed (serveOne cfg db s).db rest

lemma landed_le (db : Db S) (turns : List (Turn key)) : landed cfg db turns ≤ turns.countP Turn.isDelivery := by
  induction turns generalizing db with
  | nil => exact le_rfl
  | cons turn rest ih =>
    cases turn with
    | deliver d =>
      have hrest := ih (serveOne cfg db d.served).db
      unfold landed
      rw [List.countP_cons_of_pos rfl]
      split <;> omega
    | other s =>
      rw [List.countP_cons_of_neg (by simp [Turn.isDelivery])]
      exact ih (serveOne cfg db s).db

/-- All deliveries are counted exactly if all land. -/
theorem landed_eq_iff (db : Db S) (turns : List (Turn key)) :
    landed cfg db turns = turns.countP Turn.isDelivery ↔ AllLand cfg db turns := by
  induction turns generalizing db with
  | nil => exact ⟨fun _ => trivial, fun _ => rfl⟩
  | cons turn rest ih =>
    cases turn with
    | deliver d =>
      have hle := landed_le cfg (serveOne cfg db d.served).db rest
      have hrest := ih (serveOne cfg db d.served).db
      unfold landed AllLand
      rw [List.countP_cons_of_pos rfl, ← hrest]
      split
      · rename_i hland
        constructor
        · intro h
          exact ⟨hland, by omega⟩
        · rintro ⟨-, h⟩
          omega
      · rename_i hlost
        constructor
        · intro h
          omega
        · rintro ⟨hland, -⟩
          exact absurd hland hlost
    | other s =>
      rw [List.countP_cons_of_neg (by simp [Turn.isDelivery])]
      exact ih (serveOne cfg db s).db

/-- **A run of deliveries** counts those that land. -/
theorem run_counts (hS : ∀ st : SubscriptionStatus, st.isLive = true → S.accepts st = true)
    (turns : List (Turn key)) {db : Db S} {x : Subscription} (hx : x ∈ db.subscriptions.rows)
    (hlive : x.isLive = true) (hlink : x.stripeSubscriptionId = some key)
    (h : Undisturbed cfg db turns) :
    ∃ x' ∈ (serveAll cfg db (turns.map Turn.served)).subscriptions.rows,
      Counts x x' (landed cfg db turns) := by
  induction turns generalizing db x with
  | nil => exact ⟨x, hx, rfl, rfl, hlive, (Int.add_zero _).symm⟩
  | cons turn rest ih =>
    cases turn with
    | deliver d =>
      obtain ⟨hack, hrest⟩ := h
      obtain ⟨y, hy, hcount⟩ := deliver_counts cfg hS hx hlive hlink hack
      obtain ⟨x', hx', hcount'⟩ := ih hy hcount.live (hcount.link.trans hlink) hrest
      refine ⟨x', hx', hcount'.id.trans hcount.id, hcount'.link.trans hcount.link, hcount'.live, ?_⟩
      -- the row with the Stripe id is the one row the delivery is for
      have hone : (∀ z ∈ db.subscriptions.rows, z.stripeSubscriptionId = some key → Lands db z d) ↔
          Lands db x d := by
        refine ⟨fun hall => hall x hx hlink, fun hland z hz hzk => ?_⟩
        rwa [uniqueOn_inj db.constraints.stripe hz hx hzk hlink]
      have hlanded : landed cfg db (.deliver d :: rest)
          = (if Lands db x d then 1 else 0) + landed cfg (serveOne cfg db d.served).db rest := by
        rw [landed]
        simp only [hone]
      rw [hcount'.count, hcount.count, hlanded]
      split <;> push_cast <;> omega
    | other s =>
      obtain ⟨hkeep, hrest⟩ := h
      obtain ⟨y, hy, hcount⟩ := hkeep x hx hlink
      obtain ⟨x', hx', hcount'⟩ := ih hy hcount.live (hcount.link.trans hlink) hrest
      refine ⟨x', hx', hcount'.id.trans hcount.id, hcount'.link.trans hcount.link, hcount'.live, ?_⟩
      rw [hcount'.count, hcount.count, landed, Int.add_zero]

/-- **No acknowledged failure is lost** exactly if every delivery lands: the count grows by the number of
deliveries, whatever other requests come in between. -/
theorem failures_counted_iff (hS : ∀ st : SubscriptionStatus, st.isLive = true → S.accepts st = true)
    {db : Db S} {x : Subscription} (hx : x ∈ db.subscriptions.rows) (hlive : x.isLive = true)
    (hlink : x.stripeSubscriptionId = some key) (turns : List (Turn key))
    (h : Undisturbed cfg db turns) :
    ∃ x' ∈ (serveAll cfg db (turns.map Turn.served)).subscriptions.rows, x'.id = x.id ∧
      (x'.failedPaymentCount = x.failedPaymentCount + turns.countP Turn.isDelivery ↔
        AllLand cfg db turns) := by
  obtain ⟨x', hx', hcount⟩ := run_counts cfg hS turns hx hlive hlink h
  refine ⟨x', hx', hcount.id, ?_⟩
  rw [hcount.count, ← landed_eq_iff cfg db turns]
  omega

end Runs

namespace Sample

/-- A delivery of `invoice.payment_failed` for `sub_1`. -/
def delivery (eventId : String) (env : Env) : Delivery "sub_1" where
  request := { json := some (paymentFailed eventId) }
  env := env
  event := paymentFailed eventId
  eventId := eventId
  obj := .dict [("subscription", .str "sub_1")]
  json := rfl
  id := rfl
  type := rfl
  object := rfl
  names := rfl

/-- The first publication raises. -/
def mute : Env := { env 1000 with busFails := fun n => n == 0 }

end Sample

/-- Of two failures with a cancellation at period end in between, one is counted. -/
theorem failures_counted_iff_mute :
    let turns : List (Turn "sub_1") := [.deliver (Sample.delivery "evt_1" (Sample.env 1000)),
      .other { request := .cancel Sample.admin false, env := Sample.env 1000 },
      .deliver (Sample.delivery "evt_2" Sample.mute)]
    ∃ x' ∈ (serveAll Sample.settings Sample.owed (turns.map Turn.served)).subscriptions.rows, x'.id = 1 ∧
      (x'.failedPaymentCount = 1 + turns.countP Turn.isDelivery ↔
        AllLand Sample.settings Sample.owed turns) :=
  failures_counted_iff Sample.settings (fun _ _ => rfl)
    (x := { Sample.row .pastDue 1 (some 500) with id := 1 }) (by decide) rfl rfl _
    ⟨by decide +kernel, by decide +kernel, by decide +kernel, trivial⟩

/-- The one active user's notification raises: the failure is acknowledged and not counted, and a second
delivery of the event does not count it either. -/
theorem failure_lost :
    let turns : List (Turn "sub_1") := [.deliver (Sample.delivery "evt_1" Sample.mute)]
    let again : Delivery "sub_1" := Sample.delivery "evt_1" (Sample.env 2000)
    Undisturbed Sample.settings Sample.owed turns ∧
    (¬∃ x' ∈ (serveAll Sample.settings Sample.owed (turns.map Turn.served)).subscriptions.rows,
      x'.id = 1 ∧ x'.failedPaymentCount = 1 + turns.countP Turn.isDelivery) ∧
    ∀ x' ∈ (serveAll Sample.settings Sample.owed
      ((turns ++ [Turn.deliver again]).map Turn.served)).subscriptions.rows, x'.failedPaymentCount = 1 :=
  ⟨⟨by decide +kernel, trivial⟩, by decide +kernel, by decide +kernel⟩

end FastapiTemplate.Billing
