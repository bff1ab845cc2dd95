import FastapiTemplate.Billing.Writers

/-!
# What the services commit

The rules of dunning and invoicing under the monitor of `Writers`, innermost first. A script's own
pending changes are in the session, so a rule says which one it adds and that the row it is of was
read.
-/

namespace FastapiTemplate.Billing

open Core Database Python Effects Script

variable {S : Schema} {cfg : Settings}

section Services

variable {ok : View S → List Change → Prop} {s : Session} {m : View S}
  {X : Exn → Session → View S → Prop}

/-! ### Dunning -/

theorem wp_resolveRecipients {Q : List ℤ → Session → View S → Prop} {tenantId : Option ℤ}
    (hok : ∀ uids m', View.Grows m m' → Q uids s m')
    (herr : ∀ e a m', View.Grows m m' → X e { s with aborted := a } m') :
    Wp (watch ok) (resolveRecipients tenantId) s m Q X := by
  unfold resolveRecipients
  split
  · exact hok [] m (.refl m)
  · rw [wp_bind]
    exact wp_select (fun d us _ _ => hok _ _ (.read m d)) fun e a => herr e a m (.refl m)

theorem wp_publishEach {Q : Unit → Session → View S → Prop} {bus : EventBus} {suffix : String}
    {sub : Subscription} (uids : List ℤ) (hok : Q () s m) (herr : ∀ e, X e s m) :
    Wp (watch ok) (publishEach bus suffix sub uids) s m Q X := by
  induction uids with
  | nil => exact hok
  | cons uid uids ih =>
    unfold publishEach
    rw [wp_bind]
    exact wp_publish ih herr

theorem wp_publishToRecipients {Q : ℕ → Session → View S → Prop} {bus : Option EventBus}
    {suffix : String} {sub : Subscription} (hok : ∀ n m', View.Grows m m' → Q n s m')
    (herr : ∀ e a m', View.Grows m m' → X e { s with aborted := a } m') :
    Wp (watch ok) (publishToRecipients bus suffix sub) s m Q X := by
  cases bus with
  | none => exact hok 0 m (.refl m)
  | some bus =>
    simp only [publishToRecipients, wp_bind]
    refine wp_resolveRecipients (fun uids m' hm => ?_) herr
    exact wp_publishEach uids (hok _ m' hm) fun e => herr e s.aborted m' hm

/-- A failed payment moves the row by `fail`. -/
theorem wp_recordPaymentFailure {Q : Entity Subscription → Session → View S → Prop}
    {bus : Option EventBus} {row : Subscription} (hX : ∀ e s m, X e s m)
    (hok : ∀ cur m', View.Grows m m' → Moves cfg.policy (fun mv => ∃ now, mv = .fail now) row cur →
      Q ⟨row, cur⟩ { s with pending := s.pending ++ [.updateSubscription row cur] } m') :
    Wp (watch ok) (recordPaymentFailure cfg bus (.of row)) s m Q X := by
  unfold recordPaymentFailure
  simp only [orNow, wp_bind]
  rw [wp_datetimeNow]
  intro now
  have key : row.status = .pastDue ∨ .pastDue ∈ allowedTransitions row.status →
      Wp (watch ok) (do
        let sub := (Entity.of row).set fun s =>
          { advance cfg now s with status := .pastDue, lastPaymentFailureAt := some now }
        add (.updateSubscription sub.loaded sub.cur)
        let _sent ← publishToRecipients bus "payment_failed" sub.cur
        return sub) s (m.tick now) Q X := by
    intro hallowed
    simp only [wp_bind, wp_add]
    refine wp_publishToRecipients (fun _ m' hm => ?_) fun e _ _ _ => hX e _ _
    refine hok _ m' ((View.Grows.tick m now).trans hm) ⟨rfl, _, ⟨now, rfl⟩, hallowed, ?_⟩
    rfl
  split
  · rw [wp_bind, wp_ofExcept]
    exact ⟨fun _ hu => key (.inr (assertTransition_ok hu)), fun e _ => hX e _ _⟩
  · rename_i h
    exact key (.inl (by simpa [Entity.of] using h))

/-- A tick moves its row by `remind` or `expire`, also when it raises after that. -/
theorem wp_tick {Q : Tick → Session → View S → Prop} {bus : Option EventBus} {now : Datetime}
    {row : Subscription} (hpd : row.status = .pastDue)
    (h : ∀ cur, Moves cfg.policy (fun mv => mv = .expire ∨ ∃ now, mv = .remind now) row cur →
      (∀ t m', View.Grows m m' →
        Q t { s with pending := s.pending ++ [.updateSubscription row cur] } m') ∧
      ∀ e a m', View.Grows m m' →
        X e { s with pending := s.pending ++ [.updateSubscription row cur], aborted := a } m') :
    Wp (watch ok) (tick cfg bus now (.of row)) s m Q X := by
  unfold tick
  split
  · rename_i hmax
    have hne : (Entity.of row).cur.status ≠ .suspended := by simp [Entity.of, hpd]
    have hok : assertTransition (Entity.of row).cur.status .suspended = .ok () := by
      simp [Entity.of, hpd, assertTransition, allowedTransitions]
    unfold suspendSubscription
    rw [if_pos hne, hok]
    simp only [wp_bind]
    refine (wp_ofExcept _).2 ⟨fun _ _ => ?_, fun e he => by cases he⟩
    rw [wp_datetimeNow]
    intro t
    simp only [wp_add]
    obtain ⟨hq, hx⟩ := h
      { row with status := .suspended, suspendedAt := some t, nextRetryAt := none }
      ⟨rfl, .expire, .inl rfl, ⟨hpd, hmax⟩, rfl⟩
    exact wp_publishToRecipients (fun _ m' hm => hq _ m' ((View.Grows.tick m t).trans hm))
      fun e a m' hm => hx e a m' ((View.Grows.tick m t).trans hm)
  · rename_i hmax
    simp only [wp_bind, wp_add]
    obtain ⟨hq, hx⟩ := h (advance cfg now row)
      ⟨rfl, .remind now, .inr ⟨now, rfl⟩, ⟨hpd, by simpa [Entity.of, Settings.policy, standing] using hmax⟩, rfl⟩
    exact wp_publishToRecipients (fun _ m' hm => hq _ m' hm) fun e a m' hm => hx e a m' hm

/-- A recovery of a row in dunning moves it by `recover`. -/
theorem wp_recoverSubscription {Q : Entity Subscription → Session → View S → Prop}
    {bus : Option EventBus} {row : Subscription} (hpd : row.status = .pastDue)
    (hX : ∀ e s m, X e s m)
    (hok : ∀ cur m', View.Grows m m' → Moves cfg.policy (fun mv => mv = .recover) row cur →
      Q ⟨row, cur⟩ { s with pending := s.pending ++ [.updateSubscription row cur] } m') :
    Wp (watch ok) (recoverSubscription bus (.of row)) s m Q X := by
  have hok' : assertTransition row.status .active = .ok () := by
    simp [hpd, assertTransition, allowedTransitions]
  have hcur : (Entity.of row).cur.status = .pastDue := hpd
  have hst : (resetDunning { row with status := .active }).2.status = .active :=
    resetDunning_status _
  unfold recoverSubscription
  simp only [if_pos hcur, wp_bind]
  refine (wp_ofExcept _).2 ⟨fun _ _ => ?_, fun e he => ?_⟩
  · have hset : ((Entity.of row).set fun s => { s with status := .active }).set
        (fun s => (resetDunning s).2) = ⟨row, (resetDunning { row with status := .active }).2⟩ := rfl
    rw [hset]
    simp only [hst, beq_self_eq_true, Bool.or_true, if_true, wp_bind, wp_add]
    refine wp_publishToRecipients (fun _ m' hm => ?_) fun e _ _ _ => hX e _ _
    refine hok _ m' hm ⟨resetDunning_id _, .recover, rfl, hpd, ?_⟩
    obtain ⟨hc, hn⟩ := resetDunning_clear { row with status := .active }
    simp [standing, Move.apply, hst, hc, hn]
  · rw [show (Entity.of row).cur.status = row.status from rfl, hok'] at he
    cases he

/-! ### The sweep -/

/-- A pending change of a sweep: a row that was read, moved by a tick. -/
def Ticked (cfg : Settings) (m : View S) (c : Change) : Prop :=
  ∃ row cur, c = .updateSubscription row cur ∧ Seen m row ∧
    Moves cfg.policy (fun mv => mv = .expire ∨ ∃ now, mv = .remind now) row cur

lemma Ticked.grows {m m' : View S} {c : Change} (h : Ticked cfg m c) (hm : View.Grows m m') :
    Ticked cfg m' c := by
  obtain ⟨row, cur, rfl, hseen, hmv⟩ := h
  exact ⟨row, cur, rfl, hseen.grows hm, hmv⟩

/-- The loop of the sweep adds one change for each row; the rows have different keys, and none of
them is written yet. -/
theorem wp_processEach {Q : SweepStats → Session → View S → Prop} {bus : Option EventBus}
    {now : Datetime} (subs : List Subscription) (st : SweepStats)
    (hrows : ∀ row ∈ subs, row.status = .pastDue ∧ Seen m row)
    (hnodup : (subs.map Subscription.id ++ targets s.pending).Nodup)
    (hpending : ∀ c ∈ s.pending, Ticked cfg m c)
    (hok : ∀ st s' m', View.Grows m m' → (targets s'.pending).Nodup →
      (∀ c ∈ s'.pending, Ticked cfg m' c) → Q st s' m') :
    Wp (watch ok) (processEach cfg bus now st subs) s m Q X := by
  induction subs generalizing st s m with
  | nil => exact hok st s m (.refl m) hnodup hpending
  | cons row subs ih =>
    unfold processEach
    rw [wp_bind, wp_tryCatch, wp_map]
    obtain ⟨hpd, hseen⟩ := hrows row List.mem_cons_self
    refine wp_tick hpd fun cur hmv => ?_
    -- what the rest of the loop needs, the row being written and the tick having raised or not
    have key : ∀ st a m', View.Grows m m' →
        Wp (watch ok) (processEach cfg bus now st subs)
          { s with pending := s.pending ++ [.updateSubscription row cur], aborted := a } m' Q X := by
      intro st a m' hm
      refine ih st (fun x hx => ?_) ?_ ?_ fun st s' m'' hm' => hok st s' m'' (hm.trans hm')
      · obtain ⟨hx₁, hx₂⟩ := hrows x (List.mem_cons_of_mem _ hx)
        exact ⟨hx₁, hx₂.grows hm⟩
      · have ht : targets (s.pending ++ [.updateSubscription row cur])
            = targets s.pending ++ [row.id] := by simp [targets, Change.target]
        rw [ht, ← List.append_assoc]
        refine (List.perm_append_comm.nodup_iff).1 ?_
        simpa using hnodup
      · intro c hc
        rcases List.mem_append.1 hc with hc | hc
        · exact (hpending c hc).grows hm
        · rw [List.mem_singleton.1 hc]
          exact ⟨row, cur, rfl, hseen.grows hm, hmv⟩
    refine ⟨fun t m' hm => ?_, fun e a m' hm => ?_⟩
    · exact key _ s.aborted m' hm
    · rw [wp_pure]
      exact key _ a m' hm

lemma nodup_ids (d : Db S) {as : List Subscription} (h : as.Sublist d.subscriptions.rows) :
    (as.map Subscription.id).Nodup :=
  d.subscriptions.nodup_keys.sublist (h.map _)

end Services

section Requests

variable {r : Request} {s : Session} {m : View S} {X : Exn → Session → View S → Prop}

theorem wp_processDunning (hr : r = .dunningSweep) (hs : s.pending = []) (hw : m.wrote = false) :
    Wp (watch (Proper cfg r)) (processDunning cfg) s m (fun _ _ _ => True) fun _ _ _ => True := by
  unfold processDunning
  split
  swap
  · trivial
  rw [wp_map]
  unfold processDunningAsync
  rw [wp_tryCatch, wp_bind]
  unfold processDueRetries
  simp only [orNow, wp_bind]
  rw [wp_datetimeNow]
  intro now
  refine wp_select (fun d rows hrows hsub => ?_) fun e a => trivial
  refine wp_processEach _ _ (fun row hrow => ?_) ?_ ?_ fun st s' m' hm hnodup hpending => ?_
  · obtain ⟨hmem, hdue⟩ := hrows row hrow
    refine ⟨?_, d, List.mem_cons_self, hmem⟩
    simp only [isDue, Bool.and_eq_true, beq_iff_eq] at hdue
    exact hdue.1
  · simpa [hs, targets] using nodup_ids d hsub
  · simp [hs]
  · refine wp_commit ⟨hm.informed ?_, fun _ => ?_, hnodup, ?_, ?_, ?_, ?_⟩ (fun ids => trivial)
      fun e a => trivial
    · simp
    · rw [hm.wrote]
      exact hw
    · intro l k hlk
      obtain ⟨row, cur, heq, hseen, hmv⟩ := hpending _ hlk
      cases heq
      exact ⟨hseen, by subst hr; exact hmv⟩
    · intro row hrow
      obtain ⟨_, _, heq, -⟩ := hpending _ hrow
      cases heq
    · intro row hrow
      obtain ⟨_, _, heq, -⟩ := hpending _ hrow
      cases heq
    · intro l k hlk
      obtain ⟨_, _, heq, -⟩ := hpending _ hlk
      cases heq

/-! ### Payment of an invoice -/

theorem wp_markPaid {invoiceId : ℤ} {bus : Option EventBus} {Q : Invoice → Session → View S → Prop}
    (hr : ∀ start asked row mv, mv = .recover → r.Offers (S := S) start asked row mv)
    (hs : s.pending = []) (hw : m.wrote = false) (hX : ∀ e s m, X e s m) (hQ : ∀ a s m, Q a s m) :
    Wp (watch (Proper cfg r)) (markPaid invoiceId bus) s m Q X := by
  unfold markPaid
  rw [wp_bind]
  refine wp_selectOne (fun d => hX _ _ _) (fun d inv _ _ => ?_) fun e a m' _ => hX _ _ _
  simp only [wp_bind]
  refine wp_ofExcept_ok hX fun _ _ => ?_
  rw [wp_datetimeNow]
  intro now
  rw [wp_add]
  have hdone : ∀ {s' : Session} {m' : View S}, Proper cfg r m' s'.pending →
      Wp (watch (Proper cfg r)) (do let _ ← commit; refreshInvoice inv.id) s' m' Q X := by
    intro s' m' hp
    rw [wp_bind]
    refine wp_commit hp (fun ids => ?_) fun e a => hX _ _ _
    exact wp_refresh (fun _ _ _ _ => hQ _ _ _) fun _ _ _ _ => hX _ _ _
  have hquiet : ∀ {s' : Session} {m' : View S} {inv'}, m'.start ≠ none →
      s'.pending = [.updateInvoice inv inv'] → Proper cfg r m' s'.pending := by
    intro s' m' inv' hin hp
    rw [hp]
    exact Proper.quiet hin rfl fun _ _ h => by cases h
  refine wp_selectOne (fun d' => ?_) (fun d' sub hsub _ => ?_) fun e a m' _ => hX _ _ _
  · exact hdone (hquiet (by simp) (congrArg (· ++ [_]) hs))
  · simp only
    split
    · rename_i hdun
      have hpd : sub.status = .pastDue := by
        simp only [Bool.and_eq_true, beq_iff_eq] at hdun
        exact hdun.2
      rw [wp_bind]
      refine wp_recoverSubscription hpd hX
        fun cur m' hm (hmv : Moves cfg.policy (fun mv => mv = .recover) sub cur) => hdone ?_
      have hsingle : Proper cfg r m' [.updateSubscription sub cur] := by
        refine Proper.single ?_ (Seen.grows ⟨d', List.mem_cons_self, hsub⟩ hm) ⟨hmv.1, ?_⟩
        · rw [hm.wrote]
          exact hw
        · obtain ⟨mv, hoffer, hrest⟩ := hmv.2
          exact ⟨mv, hr _ _ _ mv hoffer, hrest⟩
      have hboth : Proper cfg r m' [.updateInvoice inv { inv with status := .paid, paidAt := some now },
          .updateSubscription sub cur] := hsingle.withInvoice (by simp [Change.target])
      simpa [hs] using hboth
    · exact hdone (hquiet (by simp) (congrArg (· ++ [_]) hs))

theorem wp_payInvoice {caller : Caller} {invoiceId : ℤ} {bus : EventBus}
    (hr : ∀ start asked row mv, mv = .recover → r.Offers (S := S) start asked row mv)
    (hs : s.pending = []) (hw : m.wrote = false) :
    Wp (watch (Proper cfg r)) (payInvoice caller invoiceId bus) s m (fun _ _ _ => True)
      fun _ _ _ => True := by
  unfold payInvoice
  rw [wp_bind]
  refine wp_ofExcept_ok (fun _ _ _ => trivial) fun _ _ => ?_
  rw [wp_bind]
  have hcont : ∀ m' : View S, m'.wrote = false → Wp (watch (Proper cfg r)) (do
      let inv ← markPaid invoiceId
      bus.publish (invoiceEvent "paid" inv (some caller.user.id))
      return inv) s m' (fun _ _ _ => True) fun _ _ _ => True := by
    intro m' hw'
    rw [wp_bind]
    refine wp_markPaid hr hs hw' (fun _ _ _ => trivial) fun inv s'' m'' => ?_
    rw [wp_bind]
    exact wp_publish trivial fun _ => trivial
  unfold ensureTenantInvoice
  split
  · trivial
  · rw [wp_bind]
    refine wp_select (fun d as _ _ => ?_) fun _ _ => trivial
    rw [wp_bind]
    refine wp_ofExcept_ok (fun _ _ _ => trivial) fun o _ => ?_
    split
    · trivial
    · exact hcont _ hw

end Requests

end FastapiTemplate.Billing
