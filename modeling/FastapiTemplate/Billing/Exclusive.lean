import FastapiTemplate.Billing.Pacing
import FastapiTemplate.Billing.Transitions
import FastapiTemplate.Core.Exec

/-!
# One live subscription

A tenant has at most one live subscription, whatever runs at the same time: the unique index is on
exactly the rows that the code calls live (`isLive_iff`), and every committed state satisfies it. What
a request loses by that is its own commit and no other change (`refused_changes_nothing`), because it
commits nothing before a subscription but the entry of the ledger, and nothing after a refusal.

The index leaves the rows without a tenant out. Among those one request after another keeps at most
one alive (`unscoped_history`): only `subscribe` opens one, after it has looked, and none of them has a
Stripe id, so no event brings one back.
-/

namespace FastapiTemplate.Billing

open Core Database Python Effects Script

variable {S : Schema} {cfg : Settings} {ι : Type} [DecidableEq ι]

/-! ### The index -/

/-- The predicate of `uq_live_subscription_per_tenant` in migration `018`. -/
def liveStatusesOfIndex : List String := ["trialing", "active", "past_due"]

/-- The index and the code call the same rows live. -/
theorem isLive_iff (s : SubscriptionStatus) : s.isLive = true ↔ s.value ∈ liveStatusesOfIndex := by
  cases s <;> simp [SubscriptionStatus.isLive, SubscriptionStatus.value, liveStatusesOfIndex]

/-- No tenant has two live subscriptions. -/
def OneLive (d : Db S) : Prop :=
  ∀ x ∈ d.subscriptions.rows, ∀ y ∈ d.subscriptions.rows, x.isLive = true → y.isLive = true →
    x.tenantId ≠ none → x.tenantId = y.tenantId → x = y

/-- The rows would give a tenant two live subscriptions. -/
def Doubled (rows : List Subscription) : Prop :=
  ∃ x ∈ rows, ∃ y ∈ rows, x ≠ y ∧ x.isLive = true ∧ y.isLive = true ∧ x.tenantId ≠ none ∧
    x.tenantId = y.tenantId

instance (rows : List Subscription) : Decidable (Doubled rows) :=
  inferInstanceAs (Decidable (∃ x ∈ rows, ∃ y ∈ rows, x ≠ y ∧ x.isLive = true ∧ y.isLive = true ∧
    x.tenantId ≠ none ∧ x.tenantId = y.tenantId))

theorem oneLive (d : Db S) : OneLive d := by
  intro x hx y hy hlx hly hne heq
  obtain ⟨t, ht⟩ := Option.ne_none_iff_exists'.1 hne
  exact uniqueOn_inj d.constraints.live (k := t) hx hy (by simp [liveTenant, hlx, ht])
    (by simp [liveTenant, hly, ← heq, ht])

lemma not_doubled (d : Db S) : ¬Doubled d.subscriptions.rows := by
  rintro ⟨x, hx, y, hy, hxy, hlx, hly, hne, heq⟩
  exact hxy (oneLive d x hx y hy hlx hly hne heq)

/-! ### A refused request -/

/-- No committed row was changed, and none was added but to the ledger of events. -/
structure Kept (w w' : World S) : Prop where
  plans : w'.db.plans = w.db.plans
  users : w'.db.users = w.db.users
  subscriptions : w'.db.subscriptions = w.db.subscriptions
  invoices : w'.db.invoices = w.db.invoices
  stripeEvents : ∀ e ∈ w.db.stripeEvents.rows, e ∈ w'.db.stripeEvents.rows

lemma Kept.of_db {w w' : World S} (h : w'.db = w.db) : Kept w w' :=
  ⟨by rw [h], by rw [h], by rw [h], by rw [h], fun e he => by rwa [h]⟩

/-- A commit that puts entries into the ledger keeps everything else. -/
lemma flush_recorded {cs : List Change} {t t' : Tables} {ids : List ℤ} (hf : t.flush cs = .ok (ids, t'))
    (hcs : cs.all (fun c => (recorded c).isSome) = true) :
    t'.plans = t.plans ∧ t'.users = t.users ∧ t'.subscriptions = t.subscriptions ∧
      t'.invoices = t.invoices ∧ ∀ e ∈ t.stripeEvents.rows, e ∈ t'.stripeEvents.rows := by
  refine flush_inv (I := fun s => s.plans = t.plans ∧ s.users = t.users ∧ s.subscriptions = t.subscriptions ∧
    s.invoices = t.invoices ∧ ∀ e ∈ t.stripeEvents.rows, e ∈ s.stripeEvents.rows) hf (fun c hc s s' ha hs => ?_)
    ⟨rfl, rfl, rfl, rfl, fun _ h => h⟩
  have hrecorded : (recorded c).isSome = true := List.all_eq_true.1 hcs c hc
  cases ha with
  | insertStripeEvent row =>
    obtain ⟨hp, hu, hsub, hi, he⟩ := hs
    exact ⟨hp, hu, hsub, hi, fun e h => Store.Table.mem_insert.2 (.inl (he e h))⟩
  | _ => cases hrecorded

/-- What an effect does to the committed rows, the phase of the program being known. -/
lemma kept_serve {ok : List Change → Prop} {p : Phase} {e : Eff} (w : World S)
    (hallow : (pace (S := S) ok).allows p e)
    (hp : p = .refused ∨ (pace (S := S) ok).next p e (serve e w).1 = .fresh) : Kept w (serve e w).2 := by
  rcases serve_cases w e with hframe | ⟨cs, ids, d, rfl, hc, hcommit⟩
  · exact .of_db hframe.db
  · have hfresh : p.committed cs = .fresh := by
      rcases hp with rfl | hp
      · exact hallow.elim
      · rw [serve_commit, hcommit] at hp
        exact hp
    have hall : cs.all (fun c => (recorded c).isSome) = true := by
      by_contra hn
      rw [Phase.committed, if_neg hn] at hfresh
      cases hfresh
    obtain ⟨hp, hu, hs, hi, he⟩ := flush_recorded (Db.commit_ok hc) hall
    rw [serve_commit, hcommit]
    exact ⟨hp, hu, hs, hi, he⟩

/-- The phase is never fresh again. -/
lemma fresh_of_next {ok : List Change → Prop} {p : Phase} {e : Eff} {r : Answer S e}
    (h : (pace ok).next p e r = .fresh) : p = .fresh := by
  cases e with
  | commit cs =>
    cases r with
    | ok ids =>
      have hc : p.committed cs = .fresh := h
      unfold Phase.committed at hc
      split at hc
      · exact hc
      · cases hc
    | error e =>
      have hc : p.rejected cs = .fresh := h
      unfold Phase.rejected at hc
      split at hc
      · cases hc
      · exact hc
  | _ => exact h

/-- A refused program commits nothing any more. -/
lemma refused_next {ok : List Change → Prop} {e : Eff} {r : Answer S e}
    (hallow : (pace (S := S) ok).allows .refused e) : (pace ok).next .refused e r = .refused := by
  cases e with
  | commit cs => exact hallow.elim
  | _ => rfl

section Pool

variable {α : Type} {P : Pool ι Eff (Answer S) (World S) α} {ok : ι → List Change → Prop} {m : ι → Phase}
  {Q : ι → α → Phase → Prop}

/-- A program that has committed nothing but entries of the ledger has kept every row. -/
lemma kept_of_fresh (i : ι) (ms : List (Effects.Move ι)) (hP : P.WatchedTo (fun j => pace (ok j)) Q m) :
    ∃ m', (P.run serve ms).WatchedTo (fun j => pace (ok j)) Q m' ∧
      (m' i = .fresh → m i = .fresh ∧ P.Throughout serve i Kept ms) := by
  induction ms generalizing P m with
  | nil => exact ⟨m, hP, fun h => ⟨h, trivial⟩⟩
  | cons mv ms ih =>
    obtain ⟨m₁, hP₁, hmove⟩ := hP.move (h := serve) mv
    obtain ⟨m', hP', hfresh⟩ := ih hP₁
    refine ⟨m', hP', fun h => ?_⟩
    obtain ⟨h₁, hrest⟩ := hfresh h
    rcases hmove with ⟨rfl, hworld⟩ | ⟨j, e, k, rfl, hj, hallow, hworld, rfl⟩
    · exact ⟨h₁, fun _ => .of_db (by rw [hworld]), hrest⟩
    · by_cases hji : j = i
      · subst hji
        rw [Function.update_self] at h₁
        refine ⟨fresh_of_next h₁, fun _ => ?_, hrest⟩
        rw [hworld]
        exact kept_serve P.world hallow (.inr h₁)
      · rw [Function.update_of_ne (Ne.symm hji)] at h₁
        exact ⟨h₁, fun hstep => absurd (Effects.Move.step.inj hstep) hji, hrest⟩

/-- After a refusal a program keeps every row. -/
lemma kept_of_refused (i : ι) (ms : List (Effects.Move ι)) (hP : P.WatchedTo (fun j => pace (ok j)) Q m)
    (hm : m i = .refused) : P.Throughout serve i Kept ms := by
  induction ms generalizing P m with
  | nil => trivial
  | cons mv ms ih =>
    obtain ⟨m₁, hP₁, ⟨rfl, hworld⟩ | ⟨j, e, k, rfl, hj, hallow, hworld, rfl⟩⟩ := hP.move (h := serve) mv
    · exact ⟨fun _ => .of_db (by rw [hworld]), ih hP₁ hm⟩
    · by_cases hji : j = i
      · subst hji
        rw [hm] at hallow hP₁
        refine ⟨fun _ => ?_, ih hP₁ ?_⟩
        · rw [hworld]
          exact kept_serve P.world hallow (.inl rfl)
        · rw [Function.update_self]
          exact refused_next hallow
      · refine ⟨fun hstep => absurd (Effects.Move.step.inj hstep) hji, ih hP₁ ?_⟩
        rw [Function.update_of_ne (Ne.symm hji)]
        exact hm

end Pool

omit [DecidableEq ι] in
/-- The operations keep the pace, whatever runs beside them. -/
lemma watched_operationPool (cfg : Settings) (w : World S) (op : ι → Operation) (tenant : ι → Option ℤ) :
    (operationPool cfg w op tenant).WatchedTo (fun i => pace (Each (Lawful (op i)))) (fun _ _ _ => True)
      fun _ => .fresh := by
  intro i p hp
  cases hp
  exact Prog.Follows.weaken (paced cfg (op i) (tenant i)) fun _ _ _ => trivial

/-- A commit that would give a tenant two live subscriptions writes one. -/
lemma writes_of_doubled {d : Db S} {cs : List Change} {ids : List ℤ} {t : Tables}
    (hf : d.tables.flush cs = .ok (ids, t)) (hdouble : Doubled t.subscriptions.rows) :
    cs.any writes = true := by
  by_contra hw
  rw [Bool.not_eq_true] at hw
  rw [flush_keeps hf (not_writes hw)] at hdouble
  exact not_doubled d hdouble

/-- **A refused request changes nothing.** Whenever an operation is about to commit what would give a
tenant a second live subscription, nothing it has done or will do changes a committed row. -/
theorem refused_changes_nothing (cfg : Settings) (w : World S) (op : ι → Operation)
    (tenant : ι → Option ℤ) (ms ms' : List (Effects.Move ι)) (i : ι) {cs : List Change}
    {k : Except Exn (List ℤ) → Prog Eff (Answer S) (Except Exn Unit × Session)}
    (hnext : ((operationPool cfg w op tenant).run serve ms).procs i = some (.call (.commit cs) k))
    {ids : List ℤ} {t : Tables}
    (hf : ((operationPool cfg w op tenant).run serve ms).world.db.tables.flush cs = .ok (ids, t))
    (hdouble : Doubled t.subscriptions.rows) :
    (operationPool cfg w op tenant).Throughout serve i Kept (ms ++ .step i :: ms') := by
  have hwrites := writes_of_doubled hf hdouble
  obtain ⟨m₁, hP₁, hfresh⟩ := kept_of_fresh i ms (watched_operationPool cfg w op tenant)
  have hallow := (hP₁ i _ hnext).1
  -- the commit writes a subscription, so it is the first
  have hm₁ : m₁ i = .fresh := by
    cases hp : m₁ i with
    | fresh => rfl
    | settled =>
      rw [hp] at hallow
      rw [hallow.2] at hwrites
      cases hwrites
    | refused =>
      rw [hp] at hallow
      exact hallow.elim
  refine Pool.throughout_append.2 ⟨(hfresh hm₁).2, ?_⟩
  set P₁ := (operationPool cfg w op tenant).run serve ms
  have hrefused : ∃ e, (serve (.commit cs) P₁.world).1 = .error e ∧
      (serve (.commit cs) P₁.world).2.db = P₁.world.db := by
    rcases P₁.world.commit_cases cs with ⟨e, hcommit⟩ | ⟨ids, d, hc, -⟩
    · rw [serve_commit, hcommit]
      exact ⟨e, rfl, rfl⟩
    · -- it would have left two live subscriptions
      have hd : t = d.tables := congrArg Prod.snd (Except.ok.inj (hf.symm.trans (Db.commit_ok hc)))
      rw [hd] at hdouble
      exact absurd hdouble (not_doubled d)
  obtain ⟨e, herr, hdb⟩ := hrefused
  obtain ⟨-, hworld, hP₂⟩ := hP₁.step (h := serve) hnext
  refine ⟨fun _ => .of_db (by rw [hworld, hdb]), kept_of_refused i ms' hP₂ ?_⟩
  rw [Function.update_self, herr, hm₁]
  exact if_pos hwrites

/-! ### Rows without a tenant -/

/-- Of the subscriptions without a tenant at most one is live, and Stripe knows none of them. -/
structure Unscoped (d : Db S) : Prop where
  one : ∀ x ∈ d.subscriptions.rows, ∀ y ∈ d.subscriptions.rows, x.tenantId = none → y.tenantId = none →
    x.isLive = true → y.isLive = true → x = y
  unlinked : ∀ x ∈ d.subscriptions.rows, x.tenantId = none → x.stripeSubscriptionId = none

/-- A commit of a request served alone: it is lawful, and the first that writes a subscription finds
them as they were at the start. -/
structure Sole (cfg : Settings) (s : Served) (start b : Db S) (cs : List Change) (d : Db S) : Prop
    extends Committed cfg s start b cs d where
  lawful : Each (Lawful (.request s.request)) cs
  first : cs.any writes = true → b.subscriptions = start.subscriptions

/-- What the commits of a request served alone are, when the request keeps a pace. -/
theorem serveOne_paced (cfg : Settings) (db : Db S) (s : Served) {ok : List Change → Prop}
    (hok : Wp (pace ok) (s.request.script (S := S) cfg) { tenant := s.tenant } .fresh (fun _ _ _ => True)
      fun _ _ _ => True) :
    Journal (fun b cs d => Committed cfg s db b cs d ∧ ok cs ∧
      (cs.any writes = true → b.subscriptions = db.subscriptions)) db (serveOne cfg db s).log (serveOne cfg db s).db := by
  have hstart : Tracks cfg s db (World.start db s.env) {} :=
    ⟨rfl, nofun, nofun, fun _ => rfl, nofun, fun _ => rfl, fun _ => rfl, rfl⟩
  have hboth := Prog.Follows.both (conforms (S := S) cfg s.request s.tenant) hok
  have hstep : ∀ (w : World S) (m : View S × Phase) (e : Eff),
      ((watch (Proper cfg s.request)).both (pace ok)).allows m e →
      Tracks cfg s db w m.1 ∧ Journal (fun b cs d => Committed cfg s db b cs d ∧ ok cs ∧
        (cs.any writes = true → b.subscriptions = db.subscriptions)) db w.log w.db →
      Tracks cfg s db (serve e w).2 ((watch (Proper cfg s.request)).next m.1 e (serve e w).1) ∧
        Journal (fun b cs d => Committed cfg s db b cs d ∧ ok cs ∧
          (cs.any writes = true → b.subscriptions = db.subscriptions)) db (serve e w).2.log (serve e w).2.db := by
    rintro w ⟨v, p⟩ e ⟨ha, hp⟩ ⟨ht, hj⟩
    refine ⟨Tracks.step w v e ha ht, ?_⟩
    refine journal_serve hj ?_
    rintro cs ids d rfl hc -
    have hproper : Proper cfg s.request v cs := ha
    exact ⟨ht.committed hproper hc, ok_of_allows hp, fun hw => ht.unwritten (hproper.once hw)⟩
  obtain ⟨m', ⟨-, h⟩, -⟩ := hboth.run (h := serve) hstep (w := World.start db s.env) ⟨hstart, rfl⟩
  exact h

theorem serveOne_sole (cfg : Settings) (db : Db S) (s : Served) :
    Journal (Sole cfg s db) db (serveOne cfg db s).log (serveOne cfg db s).db :=
  (serveOne_paced cfg db s (paced cfg (.request s.request) s.tenant)).mono
    fun _ _ _ ⟨hcommitted, hlawful, hfirst⟩ => { hcommitted with lawful := hlawful, first := hfirst }

/-- The user of a `subscribe` request is the one that `get_current_user` found in its tenant context. -/
def Served.Authenticated (S : Schema) (s : Served) : Prop :=
  ∀ user planId, s.request = .subscribe user planId → ∃ (w : World S) (userId : ℤ),
    ((getCurrentUser userId).exec serve { tenant := s.tenant } w).result = .ok user

lemma Served.Authenticated.visible {s : Served} (h : s.Authenticated S) {user : User} {planId : ℤ}
    (hr : s.request = .subscribe user planId) : Core.visible s.tenant user.tenantId = true := by
  obtain ⟨w, userId, hres⟩ := h user planId hr
  unfold getCurrentUser at hres
  rw [exec_bind, exec_select, if_neg (by simp)] at hres
  split at hres
  · cases hres
  rw [Outcome.next_ok, exec_bind, exec_ofExcept] at hres
  rcases ho : scalarOneOrNone (w.db.users.rows.filter fun u =>
    Core.visible s.tenant u.tenantId && u.id == userId) with e | (_ | u) <;> rw [ho] at hres
  · cases hres
  · cases hres
  · have hmem := (List.mem_filter.1 (scalarOneOrNone_some ho)).2
    cases hact : u.isActive <;> simp [hact] at hres
    rw [← hres]
    exact (Bool.and_eq_true _ _ ▸ hmem).1

lemma isQuiet_getPlan (planId : ℤ) : IsQuiet (getPlan planId : Py S (Option Plan)) := by
  intro s w
  unfold getPlan
  rw [exec_bind, exec_execute]
  split
  · exact .refl s w
  split
  · rename_i hfail
    refine ⟨.queried w, rfl, rfl, fun hup => ?_⟩
    rw [hup w.dbCalls] at hfail
    cases hfail
  · rw [Outcome.next_ok, exec_ofExcept]
    exact ⟨.queried w, rfl, rfl, fun _ => rfl⟩

lemma isQuiet_requireActivePlan (planId : ℤ) : IsQuiet (requireActivePlan planId : Py S Plan) := by
  refine .bind (isQuiet_getPlan planId) fun o => ?_
  cases o with
  | none => exact .throw _
  | some plan =>
    dsimp only
    split
    · exact .pure _
    · exact .throw _

/-- A live subscription without a tenant is what a caller without one is shown as theirs. -/
lemma subscribe_frame {s : Session} {w : World S} {user : User} {planId : ℤ} (hu : user.tenantId = none)
    (hcontext : s.tenant = none) {x : Subscription} (hx : x ∈ w.db.subscriptions.rows) (hnone : x.tenantId = none)
    (hlive : x.isLive = true) :
    Frame w ((Billing.subscribe user planId {} : Py S SubscriptionActionResponse).exec serve s w).world := by
  unfold Billing.subscribe
  rw [exec_bind, exec_ofExcept]
  rcases ht : requireTenant user with e | tenantId
  · exact .refl _
  have htenant : tenantId = none := (requireTenant_ok ht).trans hu
  subst htenant
  rw [Outcome.next_ok, exec_bind]
  have hq := isQuiet_requireActivePlan planId s w
  rcases ho : (requireActivePlan planId : Py S Plan).exec serve s w with ⟨_ | plan, s', w'⟩ <;> rw [ho] at hq
  · exact hq.toFrame
  rw [Outcome.next_ok, exec_bind]
  unfold getLiveForTenant
  rw [exec_bind, exec_select]
  split
  · exact hq.toFrame
  split
  · exact hq.toFrame.trans (.queried w')
  -- the live row is among the rows selected
  rw [Outcome.next_ok, exec_pure, Outcome.next_ok]
  have hmem : x ∈ w'.db.subscriptions.rows.filter fun r =>
      Core.visible s'.tenant r.tenantId && (r.tenantId == none && r.isLive) := by
    have hdb : w'.db = w.db := hq.db
    have htn : s'.tenant = none := hq.tenant.trans hcontext
    simp [hdb, hx, hnone, hlive, htn, Core.visible]
  cases hl : (w'.db.subscriptions.rows.filter fun r =>
      Core.visible s'.tenant r.tenantId && (r.tenantId == none && r.isLive)).getLast? with
  | none =>
    rw [List.getLast?_eq_none_iff.1 hl] at hmem
    cases hmem
  | some live => exact hq.toFrame.trans (.queried w')

/-- `subscribe` looks before it opens: a caller without a tenant is refused while there is a live
subscription without one. -/
theorem subscribe_refused (cfg : Settings) {s : Served} {db : Db S} (hauth : s.Authenticated S) {user : User}
    {planId : ℤ} (hr : s.request = .subscribe user planId) (hu : user.tenantId = none) {x : Subscription}
    (hx : x ∈ db.subscriptions.rows) (hnone : x.tenantId = none) (hlive : x.isLive = true) :
    (serveOne cfg db s).db = db ∧ (serveOne cfg db s).log = [] := by
  have hvis := hauth.visible hr
  have hcontext : s.tenant = none := by
    rw [hu] at hvis
    cases ht : s.tenant with
    | none => rfl
    | some t => simp [Core.visible, ht] at hvis
  have hframe : Frame (World.start db s.env) (serveOne cfg db s) := by
    unfold serveOne
    rw [hr]
    show Frame _ ((do let _ ← Billing.subscribe user planId {}; pure () : Py S Unit).exec serve _ _).world
    rw [exec_bind]
    simp only [exec_pure, Outcome.next_world]
    exact subscribe_frame hu hcontext hx hnone hlive
  exact ⟨hframe.db, hframe.log⟩

/-- No subscription without a tenant comes back to life. -/
def NotRevived (b d : Db S) : Prop :=
  ∀ x ∈ b.subscriptions.rows, x.tenantId = none → x.isLive = false →
    ∃ x' ∈ d.subscriptions.rows, x'.id = x.id ∧ x'.isLive = false

namespace Sole

variable {s : Served} {start b d : Db S} {cs : List Change}

/-- What a commit makes of a row: its tenant stays, and without a tenant it is neither linked nor
brought back to life. -/
lemma row (h : Sole cfg s start b cs d) (hb : Unscoped b) {x : Subscription}
    (hx : x ∈ b.subscriptions.rows) :
    (rewrite cs x).tenantId = x.tenantId ∧ (x.tenantId = none →
      (rewrite cs x).stripeSubscriptionId = x.stripeSubscriptionId ∧
      ((rewrite cs x).isLive = true → x.isLive = true)) := by
  rcases rewrite_cases h.apart x with hsame | ⟨loaded, cur, hmem, hid, hrew⟩
  · rw [hsame]
    exact ⟨rfl, fun _ => ⟨rfl, id⟩⟩
  obtain ⟨hlb, -, hcid, mv, hoffer, hallowed, happly⟩ := h.updates loaded cur hmem
  have hloaded : x = loaded := b.subscriptions.key_injOn hx hlb hid
  subst hloaded
  have hkeep : KeepsLink x cur := h.lawful _ hmem
  rw [Subscription.writeBack_loaded hcid] at hrew
  rw [hrew]
  refine ⟨hkeep.tenant, fun hnone => ⟨hkeep.stripe.resolve_right (not_not_intro hnone), fun hlive => ?_⟩⟩
  -- nothing but a sync makes a row `trialing`, and a sync finds its row by the Stripe id
  have hmv : mv ≠ .trial := by
    rintro rfl
    rcases hoffer.syncsTo (.inl rfl) with ⟨_, _, _, _, _, _, ⟨key, _, hkey⟩, _⟩ | ⟨_, _, _, _, hmv, _⟩
    · rw [hb.unlinked x hx hnone] at hkey
      cases hkey
    · cases hmv
  by_contra hdead
  rw [Bool.not_eq_true] at hdead
  have hfinal : (standing x).Final := by
    show allowedTransitions x.status = []
    rw [allowedTransitions_eq_nil]
    revert hdead
    unfold Subscription.isLive
    cases x.status <;> simp [SubscriptionStatus.isLive]
  have hst : cur.status = x.status :=
    congrArg Standing.status (happly.trans (Move.final hmv hfinal hallowed))
  unfold Subscription.isLive at hlive hdead
  rw [hst, hdead] at hlive
  cases hlive

/-- **A request served alone keeps the rows without a tenant apart.** -/
theorem unscoped (h : Sole cfg s start b cs d)
    (hfree : ∀ user planId, s.request = .subscribe user planId → user.tenantId = none →
      ∀ x ∈ start.subscriptions.rows, x.tenantId = none → x.isLive = false)
    (hb : Unscoped b) : Unscoped d := by
  obtain ⟨ids, hf⟩ := h.flushed
  by_cases hcs : ∃ row, cs = [.insertSubscription row]
  · obtain ⟨row, rfl⟩ := hcs
    have hrows : ∀ x, x ∈ d.subscriptions.rows ↔
        x ∈ b.subscriptions.rows ∨ x = Store.Keyed.withKey b.subscriptions.next row := by
      intro x
      rw [Db.subscriptions, flush_opened hf]
      exact Store.Table.mem_insert
    have hopen : row.tenantId = none → row.stripeSubscriptionId = none ∧
        ∀ x ∈ b.subscriptions.rows, x.tenantId = none → x.isLive = false := by
      intro hnone
      obtain ⟨hstripe, user, planId, hr, hu⟩ := h.lawful _ List.mem_cons_self hnone
      refine ⟨hstripe, ?_⟩
      rw [h.first rfl]
      exact hfree user planId (Operation.request.inj hr) hu
    refine ⟨fun x hx y hy hxn hyn hlx hly => ?_, fun x hx hxn => ?_⟩
    · rcases (hrows x).1 hx with hx | rfl
      · rcases (hrows y).1 hy with hy | rfl
        · exact hb.one x hx y hy hxn hyn hlx hly
        · rw [(hopen hyn).2 x hx hxn] at hlx
          cases hlx
      · rcases (hrows y).1 hy with hy | rfl
        · rw [(hopen hxn).2 y hy hyn] at hly
          cases hly
        · rfl
    · rcases (hrows x).1 hx with hx | rfl
      · exact hb.unlinked x hx hxn
      · exact (hopen hxn).1
  · have hrows : d.subscriptions.rows = b.subscriptions.rows.map (rewrite cs) :=
      flush_rows hf (h.not_opened fun row hrow => hcs ⟨row, hrow⟩)
    refine ⟨fun x hx y hy hxn hyn hlx hly => ?_, fun x hx hxn => ?_⟩
    · rw [hrows] at hx hy
      obtain ⟨x₀, hx₀, rfl⟩ := List.mem_map.1 hx
      obtain ⟨y₀, hy₀, rfl⟩ := List.mem_map.1 hy
      obtain ⟨htx, hrx⟩ := h.row hb hx₀
      obtain ⟨hty, hry⟩ := h.row hb hy₀
      rw [htx] at hxn
      rw [hty] at hyn
      rw [hb.one x₀ hx₀ y₀ hy₀ hxn hyn ((hrx hxn).2 hlx) ((hry hyn).2 hly)]
    · rw [hrows] at hx
      obtain ⟨x₀, hx₀, rfl⟩ := List.mem_map.1 hx
      obtain ⟨htx, hrx⟩ := h.row hb hx₀
      rw [htx] at hxn
      rw [(hrx hxn).1]
      exact hb.unlinked x₀ hx₀ hxn

theorem notRevived (h : Sole cfg s start b cs d) (hb : Unscoped b) : NotRevived b d := by
  intro x hx hnone hdead
  obtain ⟨ids, hf⟩ := h.flushed
  by_cases hcs : ∃ row, cs = [.insertSubscription row]
  · obtain ⟨row, rfl⟩ := hcs
    refine ⟨x, ?_, rfl, hdead⟩
    rw [Db.subscriptions, flush_opened hf]
    exact Store.Table.mem_insert.2 (.inl hx)
  · refine ⟨rewrite cs x, ?_, rewrite_id cs x, ?_⟩
    · rw [Db.subscriptions, flush_rows hf (h.not_opened fun row hrow => hcs ⟨row, hrow⟩)]
      exact List.mem_map_of_mem hx
    · by_contra hlive
      rw [((h.row hb hx).2 hnone).2 (by simpa using hlive)] at hdead
      cases hdead

end Sole

/-- The commits of a request served alone, the rows without a tenant being apart at its start. -/
lemma serveOne_unscoped (cfg : Settings) {s : Served} {db : Db S} (hauth : s.Authenticated S) (hdb : Unscoped db) :
    Journal (fun b _ d => NotRevived b d ∧ Unscoped d) db (serveOne cfg db s).log (serveOne cfg db s).db := by
  by_cases hbusy : ∃ user planId x, s.request = .subscribe user planId ∧ user.tenantId = none ∧
      x ∈ db.subscriptions.rows ∧ x.tenantId = none ∧ x.isLive = true
  · obtain ⟨user, planId, x, hr, hu, hx, hnone, hlive⟩ := hbusy
    obtain ⟨hsame, hlog⟩ := subscribe_refused cfg hauth hr hu hx hnone hlive
    rw [hsame, hlog]
    rfl
  · have hfree : ∀ user planId, s.request = .subscribe user planId → user.tenantId = none →
        ∀ x ∈ db.subscriptions.rows, x.tenantId = none → x.isLive = false := by
      intro user planId hr hu x hx hnone
      by_contra hlive
      exact hbusy ⟨user, planId, x, hr, hu, hx, hnone, by simpa using hlive⟩
    refine ((serveOne_sole cfg db s).keeping (I := Unscoped) (fun b cs d h hb => h.unscoped hfree hb) hdb).mono ?_
    rintro b cs d ⟨h, hb, hd⟩
    exact ⟨h.notRevived hb, hd⟩

/-- The commits of a run of authenticated requests, one after another. -/
lemma serveAll_unscoped (cfg : Settings) {steps : List Served} {db : Db S} (hauth : ∀ s ∈ steps, s.Authenticated S)
    (hdb : Unscoped db) :
    Journal (fun b _ d => NotRevived b d ∧ Unscoped d) db (runLog cfg db steps) (serveAll cfg db steps) := by
  induction steps generalizing db with
  | nil => rfl
  | cons s steps ih =>
    have hone := serveOne_unscoped cfg (hauth s List.mem_cons_self) hdb
    refine hone.append (ih (fun s hs => hauth s (List.mem_cons_of_mem _ hs)) ?_)
    exact hone.invariant (fun _ _ _ h _ => h.2) hdb _ hone.last_mem

/-! ### The whole -/

/-- The subscriptions that the program's next effect would commit, if it is a commit. -/
def attempted {α : Type} (P : Pool ι Eff (Answer S) (World S) α) (i : ι) : Option (List Subscription) :=
  match (P.procs i).bind Prog.effect? with
  | some (.commit cs) =>
    match P.world.db.tables.flush cs with
    | .ok (_, t) => some t.subscriptions.rows
    | .error _ => none
  | _ => none

/-- **One live subscription.** Whatever operations run, interleaved and killed in any way, no committed
state has two live subscriptions of one tenant, and an operation about to commit a second one changes no
committed row from its beginning to its end. Without a tenant the same holds of requests one after
another: at most one such subscription is live, a request to open a second one changes nothing, and
none comes back to life. -/
theorem one_live_subscription (cfg : Settings) (db : Db S) (env : Env) (op : ι → Operation)
    (tenant : ι → Option ℤ) :
    let P := operationPool cfg (World.start db env) op tenant
    (∀ ms, ∀ d ∈ db :: (P.run serve ms).world.log.map Prod.snd, OneLive d) ∧
    (∀ ms ms' i, (∃ rows ∈ attempted (P.run serve ms) i, Doubled rows) →
      P.Throughout serve i Kept (ms ++ .step i :: ms')) ∧
    ∀ steps : List Served, (∀ s ∈ steps, s.Authenticated S) → Unscoped db →
      (∀ d ∈ history cfg db steps, Unscoped d) ∧ (history cfg db steps).IsChain NotRevived ∧
      ∀ before s after user planId, steps = before ++ s :: after → s.request = .subscribe user planId →
        user.tenantId = none →
        (∃ x ∈ (serveAll cfg db before).subscriptions.rows, x.tenantId = none ∧ x.isLive = true) →
        (serveOne cfg (serveAll cfg db before) s).db = serveAll cfg db before := by
  intro P
  refine ⟨fun ms d _ => oneLive d, fun ms ms' i h => ?_, fun steps hauth hdb => ?_⟩
  · obtain ⟨rows, hrows, hdouble⟩ := h
    unfold attempted at hrows
    split at hrows
    swap
    · cases hrows
    rename_i cs heff
    split at hrows
    swap
    · cases hrows
    rename_i ids t hf
    cases hrows
    rcases hi : (P.run serve ms).procs i with _ | _ | ⟨e, k⟩
    · simp [hi] at heff
    · simp [hi, Prog.effect?] at heff
    · have he : e = .commit cs := by simpa [hi, Prog.effect?] using heff
      subst he
      exact refused_changes_nothing cfg (World.start db env) op tenant ms ms' i hi hf hdouble
  · have hrun := serveAll_unscoped cfg hauth hdb
    refine ⟨hrun.invariant (fun _ _ _ h _ => h.2) hdb, hrun.isChain fun _ _ _ h => h.1, ?_⟩
    rintro before s after user planId rfl hr hu ⟨x, hx, hnone, hlive⟩
    have hs : s.Authenticated S := hauth s (by simp)
    exact (subscribe_refused cfg hs hr hu hx hnone hlive).1

/-! ### Two requests for one tenant -/

namespace Sample

/-- A superuser without a tenant. -/
def root : User := { admin with tenantId := none }

/-- A plan, and nobody subscribed to it. -/
def unsubscribed : Db .metadata where
  tables := .seed [plan] [root] [] []
  admitted := by decide

end Sample

/-- Two requests that both find no live subscription, and a superuser who subscribes twice. -/
theorem one_live_subscription_race :
    (operationPool Sample.settings (World.start Sample.unsubscribed (Sample.env 1000))
      (fun _ : Bool => .request (.subscribe Sample.admin 1)) fun _ => none).Throughout serve false Kept
        (List.replicate 3 (.step false) ++ List.replicate 4 (.step true) ++ [.step false]) ∧
    ∀ d ∈ history Sample.settings Sample.unsubscribed
      (List.replicate 2 { request := .subscribe Sample.root 1, env := Sample.env 1000 }), Unscoped d := by
  obtain ⟨-, hrefused, hsole⟩ := one_live_subscription Sample.settings Sample.unsubscribed
    (Sample.env 1000) (fun _ : Bool => .request (.subscribe Sample.admin 1)) fun _ => none
  refine ⟨hrefused _ [] false (by decide +kernel), (hsole _ ?_ ⟨by decide, by decide⟩).1⟩
  intro s hs user planId hr
  obtain rfl := List.eq_of_mem_replicate hs
  cases hr
  exact ⟨World.start Sample.unsubscribed (Sample.env 1000), 1, rfl⟩

end FastapiTemplate.Billing
