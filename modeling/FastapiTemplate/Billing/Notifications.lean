import FastapiTemplate.Billing.Voices
import FastapiTemplate.Core.Watch

/-!
# The runs of the two handlers that announce

`handle_payment_failed` and `mark_paid` with a bus, from any session and world and with every fault:
either they do not get as far as changing a subscription, and publish nothing, or they announce the
change and then commit it (`Announcement`).
-/

namespace FastapiTemplate.Billing

open Core Database Python Effects Script

variable {S : Schema} {cfg : Settings} {s : Session} {w : World S}

/-! ### A failed payment -/

/-- The row after a failed payment. -/
def failed (cfg : Settings) (now : Datetime) (x : Subscription) : Subscription :=
  { advance cfg now x with status := .pastDue, lastPaymentFailureAt := some now }

/-- The rows a handler finds by a Stripe id. -/
def linked (d : Db S) (current : Option ℤ) (key : String) : List Subscription :=
  d.subscriptions.rows.filter fun s => visible current s.tenantId && s.stripeSubscriptionId == some key

theorem exec_getSubscriptionByStripeId (key : String) (ha : s.aborted = false) :
    (getSubscriptionByStripeId key : Py S (Option Subscription)).exec serve s w =
      if w.env.dbFails w.dbCalls then
        ⟨.error .operationalError, { s with aborted := true }, w.queried⟩
      else ⟨scalarOneOrNone (linked w.db s.tenant key), s, w.queried⟩ :=
  exec_selectOne _ _ _ ha

/-- The handler gets as far as recording a failure of the row. -/
def Records (w : World S) (current : Option ℤ) (obj : Value) (x : Subscription) : Prop :=
  w.env.dbFails w.dbCalls = false ∧
  (∃ key, obj.get "subscription" = .ok (.str key) ∧
    scalarOneOrNone (linked w.db current key) = .ok (some x)) ∧
  (x.status = .pastDue ∨ .pastDue ∈ allowedTransitions x.status)

namespace Records

variable {current : Option ℤ} {obj : Value} {x x' : Subscription}

lemma mem (h : Records w current obj x) : x ∈ w.db.subscriptions.rows := by
  obtain ⟨-, ⟨key, -, hfound⟩, -⟩ := h
  exact (List.mem_filter.1 (scalarOneOrNone_some hfound)).1

lemma unique (h : Records w current obj x) (h' : Records w current obj x') : x = x' := by
  obtain ⟨-, ⟨key, hkey, hfound⟩, -⟩ := h
  obtain ⟨-, ⟨key', hkey', hfound'⟩, -⟩ := h'
  rw [hkey] at hkey'
  cases hkey'
  rw [hfound] at hfound'
  cases hfound'
  rfl

end Records

theorem exec_recordPaymentFailure (cfg : Settings) (bus : Option EventBus) {x : Subscription}
    (hx : x.status = .pastDue ∨ .pastDue ∈ allowedTransitions x.status) :
    (recordPaymentFailure cfg bus (.of x) : Py S (Entity Subscription)).exec serve s w =
      let x' := failed cfg (w.env.clock w.clockReads) x
      ((publishToRecipients bus "payment_failed" x' : Py S ℕ).exec serve
        { s with pending := s.pending ++ [.updateSubscription x x'] } w.ticked).next
        fun _ s w => ⟨.ok ⟨x, x'⟩, s, w⟩ := by
  have hrest : ∀ now, (do
      let sub := (Entity.of x).set fun s =>
        { advance cfg now s with status := .pastDue, lastPaymentFailureAt := some now }
      add (.updateSubscription sub.loaded sub.cur)
      let _sent ← publishToRecipients bus "payment_failed" sub.cur
      return sub : Py S (Entity Subscription)).exec serve s w.ticked =
      ((publishToRecipients bus "payment_failed" (failed cfg now x) : Py S ℕ).exec serve
        { s with pending := s.pending ++ [.updateSubscription x (failed cfg now x)] } w.ticked).next
        fun _ s w => ⟨.ok ⟨x, failed cfg now x⟩, s, w⟩ := by
    intro now
    have hset : ((Entity.of x).set fun s =>
        { advance cfg now s with status := .pastDue, lastPaymentFailureAt := some now })
        = ⟨x, failed cfg now x⟩ := rfl
    rw [hset]
    simp only [exec_bind, exec_add, Outcome.next_ok, exec_pure]
  unfold recordPaymentFailure orNow
  rw [exec_bind, exec_datetimeNow, Outcome.next_ok]
  split
  · rename_i hne
    have hmem : .pastDue ∈ allowedTransitions (Entity.of x).cur.status := hx.resolve_left hne
    rw [exec_bind, exec_ofExcept, assertTransition, if_pos hmem, Outcome.next_ok]
    exact hrest _
  · exact hrest _

/-- A failure that the transition table refuses. -/
lemma exec_recordPaymentFailure_illegal (cfg : Settings) (bus : Option EventBus) {x : Subscription}
    (hx : ¬(x.status = .pastDue ∨ .pastDue ∈ allowedTransitions x.status)) :
    (recordPaymentFailure cfg bus (.of x) : Py S (Entity Subscription)).exec serve s w =
      ⟨.error (.illegalTransition x.status .pastDue), s, w.ticked⟩ := by
  have hne : (Entity.of x).cur.status ≠ .pastDue := fun h => hx (.inl h)
  have hnot : .pastDue ∉ allowedTransitions (Entity.of x).cur.status := fun h => hx (.inr h)
  unfold recordPaymentFailure orNow
  rw [exec_bind, exec_datetimeNow, Outcome.next_ok, if_pos hne, exec_bind, exec_ofExcept,
    assertTransition, if_neg hnot]
  rfl

/-- **The run of `handle_payment_failed`** with a bus: the failure is announced, then committed. -/
theorem exec_handlePaymentFailed (cfg : Settings) (bus : EventBus) {obj : Value} (ha : s.aborted = false)
    (hp : s.pending = []) {x : Subscription} (h : Records w s.tenant obj x) :
    let now := w.env.clock w.clockReads
    Announcement "payment_failed" (failed cfg now x) [.updateSubscription x (failed cfg now x)]
      w.queried.ticked ((handlePaymentFailed cfg obj (some bus) : Py S String).exec serve s w).world := by
  intro now
  obtain ⟨hup, ⟨key, hget, hone⟩, hstatus⟩ := h
  have hv : visible s.tenant (failed cfg now x).tenantId = true := by
    have hmem := (List.mem_filter.1 (scalarOneOrNone_some hone)).2
    simp only [Bool.and_eq_true] at hmem
    exact hmem.1
  unfold handlePaymentFailed
  rw [exec_bind, exec_ofExcept, hget]
  simp only [liftBuiltin, Outcome.next_ok, exec_bind, exec_getSubscriptionByStripeId key ha, hup,
    Bool.false_eq_true, if_false, hone, exec_recordPaymentFailure cfg (some bus) hstatus,
    Outcome.next_next, exec_pure, hp, List.nil_append]
  exact announce_commit (w := w.queried.ticked)
    (s := { s with pending := [.updateSubscription x (failed cfg now x)] })
    bus "payment_failed" ha hv
    (K := fun _ s w => ((refreshSubscription (failed cfg now x).id : Py S Subscription).exec
      serve s w).next fun _ s w => ⟨.ok "past_due", s, w⟩)
    fun _ _ _ => by
      rw [Outcome.next_world]
      exact frame_refresh _ _ _

/-- Where no failure is recorded, nothing is committed and nobody is told. -/
theorem exec_handlePaymentFailed_idle (cfg : Settings) (bus : EventBus) {obj : Value}
    (ha : s.aborted = false) (h : ∀ x, ¬Records w s.tenant obj x) :
    Frame w ((handlePaymentFailed cfg obj (some bus) : Py S String).exec serve s w).world ∧
      ((handlePaymentFailed cfg obj (some bus) : Py S String).exec serve s w).world.published
        = w.published := by
  unfold handlePaymentFailed
  rw [exec_bind, exec_ofExcept]
  rcases hget : obj.get "subscription" with e | v
  · exact ⟨.refl w, rfl⟩
  cases v with
  | str key =>
    simp only [liftBuiltin, Outcome.next_ok, exec_bind, exec_getSubscriptionByStripeId key ha]
    cases hup : w.env.dbFails w.dbCalls with
    | true => exact ⟨.queried w, rfl⟩
    | false =>
      rw [if_neg Bool.false_ne_true]
      rcases hone : scalarOneOrNone (linked w.db s.tenant key) with e | _ | x
      · exact ⟨.queried w, rfl⟩
      · exact ⟨.queried w, rfl⟩
      · -- the row is there, so it is the transition table that refuses
        have hstatus : ¬(x.status = .pastDue ∨ .pastDue ∈ allowedTransitions x.status) :=
          fun hst => h x ⟨hup, ⟨key, hget, hone⟩, hst⟩
        simp only [Outcome.next_ok, exec_bind, exec_recordPaymentFailure_illegal cfg (some bus) hstatus,
          Outcome.next_error]
        exact ⟨(Frame.queried w).trans (.ticked _), rfl⟩
  | _ => exact ⟨.refl w, rfl⟩

/-! ### A paid invoice -/

/-- The row after a recovery. -/
def recovered (x : Subscription) : Subscription := (resetDunning { x with status := .active }).2

lemma recovered_keeps (x : Subscription) : (recovered x).id = x.id ∧ (recovered x).tenantId = x.tenantId ∧
    (recovered x).stripeSubscriptionId = x.stripeSubscriptionId := by
  unfold recovered resetDunning
  split <;> exact ⟨rfl, rfl, rfl⟩

lemma recovered_status (x : Subscription) : (recovered x).status = .active := resetDunning_status _

theorem exec_recoverSubscription (bus : Option EventBus) {x : Subscription} (hpd : x.status = .pastDue) :
    (recoverSubscription bus (.of x) : Py S (Entity Subscription)).exec serve s w =
      ((publishToRecipients bus "recovered" (recovered x) : Py S ℕ).exec serve
        { s with pending := s.pending ++ [.updateSubscription x (recovered x)] } w).next
        fun _ s w => ⟨.ok ⟨x, recovered x⟩, s, w⟩ := by
  have hcur : (Entity.of x).cur.status = .pastDue := hpd
  have hok : assertTransition (Entity.of x).cur.status .active = .ok () := by
    rw [hcur]
    rfl
  have hset : ((Entity.of x).set fun s => { s with status := .active }).set
      (fun s => (resetDunning s).2) = ⟨x, recovered x⟩ := rfl
  unfold recoverSubscription
  simp only [if_pos hcur, hok, exec_bind, exec_ofExcept, Outcome.next_ok]
  rw [hset]
  simp only [recovered_status, beq_self_eq_true, Bool.or_true, if_true, exec_bind, exec_add, Outcome.next_ok,
    exec_pure]

/-- The subscription of a paid invoice is found in dunning. -/
structure Settles (w : World S) (current : Option ℤ) (id : ℤ) (x : Subscription) : Prop where
  up : w.env.dbFails w.dbCalls = false
  found : scalarOneOrNone (w.db.subscriptions.rows.filter fun x =>
    visible current x.tenantId && x.id == id) = .ok (some x)
  dunning : x.status = .pastDue

/-- `mark_paid` from where the invoice is changed. -/
def settle (bus : EventBus) (inv : Invoice) : Py S Invoice := do
  match ← getSubscription inv.subscriptionId with
  | some sub =>
    if isDunning sub && sub.status == .pastDue then
      let _sub ← recoverSubscription (some bus) (.of sub)
  | none => pure ()
  let _keys ← commit
  refreshInvoice inv.id

theorem exec_settle (bus : EventBus) {inv : Invoice} (ha : s.aborted = false) {x : Subscription}
    (h : Settles w s.tenant inv.subscriptionId x) :
    Announcement "recovered" (recovered x) (s.pending ++ [.updateSubscription x (recovered x)]) w.queried
      ((settle bus inv : Py S Invoice).exec serve s w).world := by
  have hin : (isDunning x && x.status == .pastDue) = true := by simp [isDunning, h.dunning]
  have hv : visible s.tenant (recovered x).tenantId = true := by
    have hmem := (List.mem_filter.1 (scalarOneOrNone_some h.found)).2
    simp only [Bool.and_eq_true] at hmem
    rw [(recovered_keeps x).2.1]
    exact hmem.1
  unfold settle
  rw [exec_bind, getSubscription, exec_selectOne _ _ _ ha, h.up, if_neg Bool.false_ne_true, h.found,
    Outcome.next_ok]
  simp only [if_pos hin, exec_bind, exec_recoverSubscription (some bus) h.dunning, Outcome.next_next,
    Outcome.next_ok]
  exact announce_commit (w := w.queried)
    (s := { s with pending := s.pending ++ [.updateSubscription x (recovered x)] })
    bus "recovered" ha hv (K := fun _ s w => (refreshInvoice inv.id : Py S Invoice).exec serve s w)
    fun _ _ _ => frame_refresh _ _ _

lemma exec_settle_idle (bus : EventBus) {inv : Invoice} (ha : s.aborted = false)
    (h : ∀ x, ¬Settles w s.tenant inv.subscriptionId x) :
    ((settle bus inv : Py S Invoice).exec serve s w).world.published = w.published := by
  have hmute : ∀ s' w', ((do let _keys ← commit; refreshInvoice inv.id : Py S Invoice).exec
      serve s' w').world.published = w'.published :=
    fun s' w' => Says.silent (Says.commit.bind fun _ => .refresh _ _ _) s' w'
  unfold settle
  rw [exec_bind, getSubscription, exec_selectOne _ _ _ ha]
  cases hup : w.env.dbFails w.dbCalls with
  | true => rfl
  | false =>
    rw [if_neg Bool.false_ne_true]
    rcases hone : scalarOneOrNone (w.db.subscriptions.rows.filter fun x =>
      visible s.tenant x.tenantId && x.id == inv.subscriptionId) with e | _ | x <;> rw [hone]
    · rfl
    · exact hmute _ _
    · have hout : ¬(isDunning x && x.status == .pastDue) = true := by
        intro hin
        simp only [Bool.and_eq_true, beq_iff_eq] at hin
        exact h x ⟨hup, hone, hin.2⟩
      simp only [Outcome.next_ok, if_neg hout]
      exact hmute _ _

/-- `mark_paid` finds an open invoice and gets as far as its subscription. -/
structure Pays (w : World S) (current : Option ℤ) (invoiceId : ℤ) (inv : Invoice) (x : Subscription) :
    Prop where
  up : w.env.dbFails w.dbCalls = false
  found : scalarOneOrNone (w.db.invoices.rows.filter fun i =>
    visible current i.tenantId && i.id == invoiceId) = .ok (some inv)
  payable : .paid ∈ allowedInvoiceTransitions inv.status
  settles : Settles w.queried.ticked current inv.subscriptionId x

lemma Pays.unique {current : Option ℤ} {invoiceId : ℤ} {inv inv' : Invoice} {x x' : Subscription}
    (h : Pays w current invoiceId inv x) (h' : Pays w current invoiceId inv' x') : x = x' := by
  have hinv := h.found
  rw [h'.found] at hinv
  cases hinv
  have hsub := h.settles.found
  rw [h'.settles.found] at hsub
  cases hsub
  rfl

/-- The invoice after its payment. -/
def paid (now : Datetime) (inv : Invoice) : Invoice := { inv with status := .paid, paidAt := some now }

/-- A payable invoice goes on to its subscription. -/
lemma exec_markPaid_settle (bus : EventBus) {invoiceId : ℤ} (ha : s.aborted = false) (hp : s.pending = [])
    {inv : Invoice} (hup : w.env.dbFails w.dbCalls = false)
    (hfound : scalarOneOrNone (w.db.invoices.rows.filter fun i =>
      visible s.tenant i.tenantId && i.id == invoiceId) = .ok (some inv))
    (hpay : .paid ∈ allowedInvoiceTransitions inv.status) :
    (markPaid invoiceId (some bus) : Py S Invoice).exec serve s w =
      (settle bus inv).exec serve { s with pending := [.updateInvoice inv (paid (w.env.clock w.clockReads) inv)] }
        w.queried.ticked := by
  unfold markPaid
  rw [exec_bind, getInvoice, exec_selectOne _ _ _ ha, hup, if_neg Bool.false_ne_true, hfound,
    Outcome.next_ok, exec_bind, exec_ofExcept, assertInvoiceTransition, if_pos hpay, Outcome.next_ok,
    exec_bind, exec_datetimeNow, Outcome.next_ok, exec_bind, exec_add, Outcome.next_ok, hp,
    List.nil_append]
  rfl

/-- **The run of `mark_paid`** with a bus: the recovery is announced, then committed with the payment. -/
theorem exec_markPaid (bus : EventBus) {invoiceId : ℤ} (ha : s.aborted = false) (hp : s.pending = [])
    {inv : Invoice} {x : Subscription} (h : Pays w s.tenant invoiceId inv x) :
    let now := w.env.clock w.clockReads
    Announcement "recovered" (recovered x)
      [.updateInvoice inv (paid now inv), .updateSubscription x (recovered x)] w.queried.ticked.queried
      ((markPaid invoiceId (some bus) : Py S Invoice).exec serve s w).world := by
  intro now
  rw [exec_markPaid_settle bus ha hp h.up h.found h.payable]
  exact exec_settle bus (s := { s with pending := [.updateInvoice inv (paid now inv)] }) ha h.settles

/-- Where no subscription is recovered, nobody is told. -/
theorem exec_markPaid_idle (bus : EventBus) {invoiceId : ℤ} (ha : s.aborted = false) (hp : s.pending = [])
    (h : ∀ inv x, ¬Pays w s.tenant invoiceId inv x) :
    ((markPaid invoiceId (some bus) : Py S Invoice).exec serve s w).world.published = w.published := by
  cases hup : w.env.dbFails w.dbCalls with
  | true =>
    unfold markPaid
    rw [exec_bind, getInvoice, exec_selectOne _ _ _ ha, hup]
    rfl
  | false =>
    rcases hinv : scalarOneOrNone (w.db.invoices.rows.filter fun i =>
      visible s.tenant i.tenantId && i.id == invoiceId) with e | _ | inv
    · unfold markPaid
      rw [exec_bind, getInvoice, exec_selectOne _ _ _ ha, hup, hinv]
      rfl
    · unfold markPaid
      rw [exec_bind, getInvoice, exec_selectOne _ _ _ ha, hup, hinv]
      rfl
    by_cases hpay : .paid ∈ allowedInvoiceTransitions inv.status
    · rw [exec_markPaid_settle bus ha hp hup hinv hpay]
      exact exec_settle_idle bus ha fun x hx => h inv x ⟨hup, hinv, hpay, hx⟩
    · unfold markPaid
      rw [exec_bind, getInvoice, exec_selectOne _ _ _ ha, hup, hinv, if_neg Bool.false_ne_true,
        Outcome.next_ok, exec_bind, exec_ofExcept, assertInvoiceTransition, if_neg hpay]
      rfl

/-! ### The commits -/

/-- A schema that accepts every live status accepts a failed payment. -/
theorem commit_failed (cfg : Settings)
    (hS : ∀ st : SubscriptionStatus, st.isLive = true → S.accepts st = true) {d : Db S}
    (now : Datetime) {x : Subscription} (hx : x ∈ d.subscriptions.rows)
    (hstatus : x.status = .pastDue ∨ .pastDue ∈ allowedTransitions x.status) :
    ∃ d' : Db S, d.commit [.updateSubscription x (failed cfg now x)] = .ok ([], d') ∧
      d'.tables = d.tables.rewritten [.updateSubscription x (failed cfg now x)] := by
  have hlive : x.isLive = true := by
    unfold Subscription.isLive
    cases hst : x.status <;> simp_all [allowedTransitions, SubscriptionStatus.isLive]
  refine Db.commit_update hx rfl (hS _ rfl) (.inl ?_) rfl
  unfold liveTenant
  rw [if_pos hlive]
  rfl

/-- It accepts a recovery together with the payment. -/
theorem commit_recovered (hS : ∀ st : SubscriptionStatus, st.isLive = true → S.accepts st = true)
    {d : Db S} (now : Datetime) {inv : Invoice} (hi : inv ∈ d.invoices.rows)
    (hpay : .paid ∈ allowedInvoiceTransitions inv.status) {x : Subscription}
    (hx : x ∈ d.subscriptions.rows) (hpd : x.status = .pastDue) :
    ∃ ids d', d.commit [.updateInvoice inv (paid now inv), .updateSubscription x (recovered x)]
      = .ok (ids, d') := by
  have hperiod : billedPeriod (paid now inv) = billedPeriod inv := by
    have hne : inv.status ≠ .void := by
      intro hvoid
      rw [hvoid] at hpay
      cases hpay
    simp [billedPeriod, paid, hne]
  obtain ⟨d₁, happly, hsubs⟩ := Db.apply_updateInvoice (paid now inv) hi rfl hperiod
  obtain ⟨hid, htenant, hstripe⟩ := recovered_keeps x
  have hlive : liveTenant (recovered x) = liveTenant x := by
    simp [liveTenant, Subscription.isLive, SubscriptionStatus.isLive, recovered_status, hpd, htenant]
  have hx₁ : x ∈ d₁.subscriptions.rows := by
    rw [hsubs]
    exact hx
  have hacc : S.accepts (recovered x).status = true := by
    rw [recovered_status]
    exact hS _ rfl
  obtain ⟨d', hd', -⟩ := Db.commit_update hx₁ hid hacc (.inl hlive) hstripe
  exact ⟨[], d', (Db.commit_cons happly).trans hd'⟩

end FastapiTemplate.Billing
