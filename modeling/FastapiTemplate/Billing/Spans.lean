import FastapiTemplate.Billing.Concurrency
import FastapiTemplate.Billing.Exclusive
import FastapiTemplate.Billing.Totals

/-!
# Current periods

Every writer of a subscription puts a whole period into it, which ends after it starts. But an `UPDATE` has the
columns that changed, and no others: a writer that found one end of its period in the row already writes the other one
only, over whatever is stored by then. `spans_iff` says of which runs the periods are never empty.
-/

namespace FastapiTemplate.Billing

open Core Database Python Effects Script Store

variable {S : Schema} {ι : Type} [DecidableEq ι] {α β : Type}

/-! ### The check of `generate_invoice` -/

/-- A statement fails if its row is gone. -/
lemma apply_error {change : Change} {t : Tables} {e : Exn} (h : change.apply t = .error e) : e = .staleData := by
  cases change with
  | insertSubscription row | insertInvoice row | insertStripeEvent row => cases h
  | updateSubscription loaded cur | updateInvoice loaded cur | updateStripeEvent loaded cur =>
    simp only [Change.apply] at h
    split at h
    · cases h
    split at h <;> cases h
    rfl

lemma flush_error {cs : List Change} {t : Tables} {e : Exn} (h : t.flush cs = .error e) : e = .staleData := by
  induction cs generalizing t with
  | nil => cases h
  | cons change cs ih =>
    unfold Tables.flush at h
    rcases hc : change.apply t with e' | ⟨ids, t'⟩
    · simp only [hc, bind, Except.bind, Except.error.injEq] at h
      exact h ▸ apply_error hc
    · simp only [hc, bind, Except.bind] at h
      rcases hf : t'.flush cs with e' | ⟨ids', t''⟩ <;> rw [hf] at h
      · cases h
        exact ih hf
      · cases h

lemma commit_error {d : Db S} {cs : List Change} {e : Exn} (h : d.commit cs = .error e) :
    e = .integrityError ∨ e = .staleData := by
  unfold Db.commit at h
  split at h
  · cases h
    exact .inr (flush_error (by assumption))
  · split at h
    · cases h
    · cases h
      exact .inl rfl

/-- The script raises no `ValueError` of its own. -/
def Spares (p : Py S α) : Prop := ∀ s w message, (p.exec serve s w).result ≠ .error (.valueError message)

namespace Spares

lemma bind {p : Py S α} {f : α → Py S β} (hp : Spares p) (hf : ∀ a, Spares (f a)) : Spares (p >>= f) := by
  intro s w message h
  rw [exec_bind] at h
  rcases ho : p.exec serve s w with ⟨e | a, s', w'⟩ <;> rw [ho] at h
  · have he : e = .valueError message := Except.error.inj h
    exact hp s w message (by rw [ho, he])
  · exact hf a s' w' message h

lemma pure (a : α) : Spares (Pure.pure a : Py S α) := fun _ _ _ h => by cases h

lemma throw {e : Exn} (he : ∀ message, e ≠ .valueError message) : Spares (MonadExcept.throw e : Py S α) :=
  fun _ _ message h => he message (Except.error.inj h)

lemma ofExcept {x : Except Exn α} (hx : ∀ message, x ≠ .error (.valueError message)) :
    Spares (MonadExcept.ofExcept x : Py S α) := fun s w message h => by
  rw [exec_ofExcept] at h
  exact hx message h

lemma tryCatch {p : Py S α} {f : Exn → Py S α} (hf : ∀ e, (∀ message, e ≠ .valueError message) → Spares (f e))
    (hp : Spares p) : Spares (MonadExcept.tryCatch p f) := by
  intro s w message h
  rw [exec_tryCatch] at h
  rcases ho : p.exec serve s w with ⟨e | a, s', w'⟩ <;> rw [ho] at h
  · refine hf e (fun text he => hp s w text (by rw [ho, he])) s' w' message h
  · cases h

lemma datetimeNow : Spares (Core.datetimeNow : Py S Datetime) := fun _ _ _ h => by cases h

lemma select (rows : Db S → List α) (tenant : α → Option ℤ) (p : α → Bool) :
    Spares (Core.select rows tenant p) := by
  intro s w message h
  rw [exec_select] at h
  split at h
  · cases h
  split at h <;> cases h

lemma add (c : Change) : Spares (Core.add c : Py S Unit) := fun _ _ _ h => by cases h

lemma rollback : Spares (Core.rollback : Py S Unit) := fun _ _ _ h => by cases h

/-- A commit is refused by a constraint, or since a row is gone. -/
lemma commit : Spares (Core.commit : Py S (List ℤ)) := by
  intro s w message h
  rw [exec_commit] at h
  split at h
  · cases h
  split at h
  · cases h
  rcases hc : w.db.commit s.pending with e | ⟨ids, d⟩ <;> rw [hc] at h
  · rcases commit_error hc with rfl | rfl <;> cases h
  · cases h

lemma refresh (rows : Db S → List α) (tenant : α → Option ℤ) (p : α → Bool) :
    Spares (Core.refresh rows tenant p) := by
  refine .bind (.select rows tenant p) fun as => ?_
  cases as with
  | nil => exact .throw fun _ h => by cases h
  | cons a as => exact .pure a

lemma getUsage (tenantId : ℤ) (dimension : String) (periodStart : Datetime) :
    Spares (Billing.getUsage tenantId dimension periodStart : Py S ℤ) := by
  intro s w message h
  rw [exec_getUsage_reading] at h
  cases h

lemma meterEach (tenantId : ℤ) (periodStart : Datetime) (configs : List (String × DimensionConfig)) :
    Spares (Billing.meterEach tenantId periodStart configs : Py S (List InvoiceLine)) := by
  induction configs with
  | nil => exact .pure []
  | cons p configs ih => exact .bind (.getUsage tenantId p.1 periodStart) fun _ => .bind ih fun _ => .pure _

lemma appendMeteredLines (plan : Plan) (tenantId : Option ℤ) (periodStart : Datetime) :
    Spares (Billing.appendMeteredLines plan tenantId periodStart : Py S (List InvoiceLine)) := by
  unfold Billing.appendMeteredLines
  cases tenantId with
  | none => exact .pure []
  | some tenantId =>
    refine .bind (.ofExcept fun message h => ?_) fun configs => .meterEach tenantId periodStart configs
    cases hm : extractMetering plan.metering <;> rw [hm] at h <;> cases h

lemma createInvoice (row : Invoice) : Spares (Billing.createInvoice row : Py S Invoice) :=
  .bind .datetimeNow fun _ => .bind (.add _) fun _ => .bind .commit fun _ => .refresh _ _ _

lemma findBlockingForPeriod (subscriptionId : ℤ) (periodStart : Datetime) :
    Spares (Billing.findBlockingForPeriod subscriptionId periodStart : Py S (Option Invoice)) := by
  refine .bind (.select _ _ _) fun rows => .ofExcept fun message h => ?_
  unfold scalarOneOrNone at h
  split at h <;> cases h

end Spares

/-- **The check is passed** by a subscription whose period ends after it starts. -/
theorem spares_generateInvoice {sub : Subscription} (h : sub.currentPeriodStart < sub.currentPeriodEnd) (plan : Plan) :
    Spares (generateInvoice sub plan : Py S Invoice) := by
  unfold generateInvoice
  split
  · exact .throw fun _ h => by cases h
  dsimp only
  split
  · rename_i hle
    exact absurd h (not_lt.2 hle)
  refine .bind (.findBlockingForPeriod _ _) fun o => ?_
  cases o with
  | some existing => exact .throw fun _ h => by cases h
  | none =>
    refine .bind (.appendMeteredLines _ _ _) fun metered => .tryCatch (fun e he => ?_) (.createInvoice _)
    split
    · exact .bind .rollback fun _ => .throw fun _ h => by cases h
    · exact .throw he

/-- The check fails for a live subscription whose period is empty. -/
lemma exec_generateInvoice_empty {sub : Subscription} (hlive : sub.isLive = true)
    (h : sub.currentPeriodEnd ≤ sub.currentPeriodStart) (plan : Plan) (s : Session) (w : World S) :
    (generateInvoice sub plan).exec serve s w = ⟨.error (.valueError "period_end must be after period_start"), s, w⟩ := by
  have hempty : (none : Option Datetime).getD sub.currentPeriodEnd ≤ none.getD sub.currentPeriodStart := h
  unfold generateInvoice
  rw [hlive]
  dsimp only [Bool.not_true, Bool.false_eq_true]
  rw [if_neg (by decide), if_pos hempty]
  rfl

/-! ### One commit -/

/-- No subscription has an empty period. -/
def Spanned (d : Db S) : Prop := ∀ x ∈ d.subscriptions.rows, x.currentPeriodStart < x.currentPeriodEnd

instance (d : Db S) : Decidable (Spanned d) :=
  inferInstanceAs (Decidable (∀ x ∈ d.subscriptions.rows, x.currentPeriodStart < x.currentPeriodEnd))

/-- An update that writes one end of the period only finds the other end, as it is stored, on the right side of it. -/
def Matches (d : Db S) : Change → Prop
  | .updateSubscription loaded cur => ∀ x ∈ d.subscriptions.rows, x.id = loaded.id →
    (cur.currentPeriodStart ≠ loaded.currentPeriodStart → cur.currentPeriodEnd = loaded.currentPeriodEnd →
      cur.currentPeriodStart < x.currentPeriodEnd) ∧
    (cur.currentPeriodStart = loaded.currentPeriodStart → cur.currentPeriodEnd ≠ loaded.currentPeriodEnd →
      x.currentPeriodStart < cur.currentPeriodEnd)
  | _ => True

section WriteBack

variable {x loaded cur : Subscription}

lemma writeBack_span (hx : x.currentPeriodStart < x.currentPeriodEnd) (h : Reperiods loaded cur) :
    (loaded.writeBack cur x).currentPeriodStart < (loaded.writeBack cur x).currentPeriodEnd ↔
      (cur.currentPeriodStart ≠ loaded.currentPeriodStart → cur.currentPeriodEnd = loaded.currentPeriodEnd →
        cur.currentPeriodStart < x.currentPeriodEnd) ∧
      (cur.currentPeriodStart = loaded.currentPeriodStart → cur.currentPeriodEnd ≠ loaded.currentPeriodEnd →
        x.currentPeriodStart < cur.currentPeriodEnd) := by
  show column loaded.currentPeriodStart cur.currentPeriodStart x.currentPeriodStart <
    column loaded.currentPeriodEnd cur.currentPeriodEnd x.currentPeriodEnd ↔ _
  unfold column
  by_cases hstart : cur.currentPeriodStart = loaded.currentPeriodStart
  · by_cases hend : cur.currentPeriodEnd = loaded.currentPeriodEnd
    · simp [hstart, hend, hx]
    · simp [hstart, hend]
  · by_cases hend : cur.currentPeriodEnd = loaded.currentPeriodEnd
    · simp [hstart, hend]
    · -- both ends are written, so the period is a new one
      have hnew : cur.currentPeriodStart < cur.currentPeriodEnd := h.resolve_left fun hsame => hstart hsame.1
      simp [hstart, hend, hnew]

end WriteBack

section Commit

variable {b d : Db S} {cs : List Change} {ids : List ℤ}

/-- **One commit** leaves no period empty exactly if its half-written periods match what is stored. -/
theorem spanned_flush_iff (hf : b.tables.flush cs = .ok (ids, d.tables)) (hn : (targets cs).Nodup)
    (hopens : ∀ row, .insertSubscription row ∈ cs → cs = [.insertSubscription row]) (hwhole : Each Whole cs)
    (hb : Spanned b) : Spanned d ↔ ∀ change ∈ cs, Matches b change := by
  by_cases hcs : ∃ row, cs = [.insertSubscription row]
  · obtain ⟨row, rfl⟩ := hcs
    refine iff_of_true (fun x hx => ?_) fun change hchange => ?_
    · rw [Db.subscriptions, flush_opened hf] at hx
      rcases Table.mem_insert.1 hx with hold | rfl
      · exact hb x hold
      · exact hwhole _ List.mem_cons_self
    · rw [List.mem_singleton.1 hchange]
      trivial
  · have hopen : ∀ change ∈ cs, change.opened = none := by
      intro change hchange
      cases change with
      | insertSubscription row => exact absurd ⟨row, hopens row hchange⟩ hcs
      | _ => rfl
    have hrows : d.subscriptions.rows = b.subscriptions.rows.map (rewrite cs) := by
      rw [Db.subscriptions, flush_rows hf hopen]
    constructor
    · intro hd change hchange
      cases change with
      | updateSubscription loaded cur =>
        intro x hx hid
        have hspan := hd (rewrite cs x) (hrows ▸ List.mem_map_of_mem hx)
        rw [rewrite_of_mem hn hchange hid] at hspan
        exact (writeBack_span (hb x hx) (hwhole _ hchange)).1 hspan
      | _ => trivial
    · intro hmatches x' hx'
      rw [hrows] at hx'
      obtain ⟨x, hx, rfl⟩ := List.mem_map.1 hx'
      rcases rewrite_cases hn x with hsame | ⟨loaded, cur, hmem, hid, hrew⟩
      · rw [hsame]
        exact hb x hx
      · rw [hrew]
        exact (writeBack_span (hb x hx) (hwhole _ hmem)).2 (hmatches _ hmem x hx hid)

end Commit

/-! ### Every run -/

/-- No period is empty, and no subscription fails the check when it is invoiced for its own period. -/
def Passable (d : Db S) : Prop :=
  Spanned d ∧ ∀ x ∈ d.subscriptions.rows, ∀ plan, Spares (generateInvoice x plan : Py S Invoice)

lemma passable_iff {d : Db S} : Passable d ↔ Spanned d :=
  and_iff_left_of_imp fun h x hx plan => spares_generateInvoice (h x hx) plan

/-- The half-written periods of a commit that goes through match what is stored. -/
def Matching (w : World S) : Eff → Prop
  | .commit cs => (w.commit cs).1.isOk = true → ∀ change ∈ cs, Matches w.db change
  | _ => True

instance (d : Db S) : (change : Change) → Decidable (Matches d change)
  | .updateSubscription loaded cur =>
    inferInstanceAs (Decidable (∀ x ∈ d.subscriptions.rows, x.id = loaded.id →
      (cur.currentPeriodStart ≠ loaded.currentPeriodStart → cur.currentPeriodEnd = loaded.currentPeriodEnd →
        cur.currentPeriodStart < x.currentPeriodEnd) ∧
      (cur.currentPeriodStart = loaded.currentPeriodStart → cur.currentPeriodEnd ≠ loaded.currentPeriodEnd →
        x.currentPeriodStart < cur.currentPeriodEnd)))
  | .insertSubscription _ | .insertInvoice _ | .updateInvoice _ _ | .insertStripeEvent _ | .updateStripeEvent _ _ =>
    inferInstanceAs (Decidable True)

instance (w : World S) : (e : Eff) → Decidable (Matching w e)
  | .commit cs =>
    inferInstanceAs (Decidable ((w.commit cs).1.isOk = true → ∀ change ∈ cs, Matches w.db change))
  | .now | .query | .publish _ | .enter _ | .redis _ | .recollect _ _ | .remember _ _ _ =>
    inferInstanceAs (Decidable True)

section Run

variable {cfg : Settings} {r : Request} {w : World S} {m : View S × Phase} {e : Eff}

/-- What a request is about to do. -/
abbrev wholeRequest (S : Schema) (cfg : Settings) (r : Request) : Monitor Eff (Answer S) (View S × Phase) :=
  (watch (Proper cfg r)).both (pace (Each Whole))

/-- **One effect** leaves no period empty exactly if it matches what is stored. -/
lemma spanned_serve_iff (ha : (wholeRequest S cfg r).allows m e) (hw : Spanned w.db) :
    Spanned (serve e w).2.db ↔ Matching w e := by
  cases e with
  | commit cs =>
    have hproper : Proper cfg r m.1 cs := ha.1
    have hwhole : Each Whole cs := ok_of_allows ha.2
    show Spanned (w.commit cs).2.db ↔ ((w.commit cs).1.isOk = true → ∀ change ∈ cs, Matches w.db change)
    rcases w.commit_cases cs with ⟨e, hcommit⟩ | ⟨ids, d, hc, hcommit⟩
    · rw [hcommit]
      exact iff_of_true hw nofun
    · rw [hcommit]
      have hone := spanned_flush_iff (Db.commit_ok hc) hproper.apart (fun row hrow => (hproper.opens row hrow).1) hwhole hw
      exact hone.trans ⟨fun h _ => h, fun h => h rfl⟩
  | publish event =>
    simp only [serve]
    split <;> exact iff_of_true hw trivial
  | redis command =>
    simp only [serve]
    split <;> exact iff_of_true hw trivial
  | _ => exact iff_of_true hw trivial

/-- The log grows by what is committed. -/
lemma log_serve (w : World S) (e : Eff) : Frame w (serve e w).2 ∨
    ∃ cs, (serve e w).2.log = w.log ++ [(cs, (serve e w).2.db)] := by
  rcases serve_cases w e with hframe | ⟨cs, ids, d, rfl, -, hcommit⟩
  · exact .inl hframe
  · refine .inr ⟨cs, ?_⟩
    rw [serve_commit, hcommit]
    rfl

/-- Every committed state, with the one at the start, has whole periods. -/
def AllSpanned (db : Db S) (w : World S) : Prop := ∀ d ∈ db :: w.log.map Prod.snd, Spanned d

lemma AllSpanned.of_serve {db : Db S} (h : AllSpanned db (serve e w).2) : AllSpanned db w := by
  intro d hd
  refine h d ?_
  rcases log_serve w e with hframe | ⟨cs, hlog⟩
  · rw [hframe.log]
    exact hd
  · rw [hlog, List.map_append, ← List.cons_append]
    exact List.mem_append_left _ hd

lemma AllSpanned.serve {db : Db S} (h : AllSpanned db w) (hnext : Spanned (serve e w).2.db) :
    AllSpanned db (Core.serve e w).2 := by
  intro d hd
  rcases log_serve w e with hframe | ⟨cs, hlog⟩
  · rw [hframe.log] at hd
    exact h d hd
  · rw [hlog, List.map_append, ← List.cons_append] at hd
    rcases List.mem_append.1 hd with hold | hnew
    · exact h d hold
    · rw [List.mem_singleton.1 hnew]
      exact hnext

/-- The state that is stored is the last that was committed. -/
lemma AllSpanned.next {db : Db S} (h : AllSpanned db (Core.serve e w).2) (hw : Spanned w.db) :
    Spanned (Core.serve e w).2.db := by
  rcases log_serve w e with hframe | ⟨cs, hlog⟩
  · rw [hframe.db]
    exact hw
  · refine h _ (List.mem_cons_of_mem _ ?_)
    rw [hlog, List.map_append]
    exact List.mem_append_right _ List.mem_cons_self

end Run

/-- **Current periods.** Requests of all kinds, with whatever objects of Stripe, run interleaved and may be killed. In
every state that is committed each period ends after it starts, and `generate_invoice` accepts it, exactly if every
commit that writes one end of a period only finds the other end on the right side of it. -/
theorem spans_iff (cfg : Settings) (db : Db S) (env : Env) (r : ι → Request) (tenant : ι → Option ℤ)
    (ms : List (Effects.Move ι)) (hdb : Spanned db) :
    (∀ d ∈ db :: ((requestPool cfg (World.start db env) r tenant).run serve ms).world.log.map Prod.snd, Passable d) ↔
      (requestPool cfg (World.start db env) r tenant).Meets serve Matching ms := by
  have hwatched : (requestPool cfg (World.start db env) r tenant).WatchedTo (fun i => wholeRequest S cfg (r i))
      (fun _ _ _ => True) fun _ => ({}, .fresh) := by
    intro i p hp
    cases hp
    exact ((Prog.Follows.both (conforms cfg (r i) (tenant i)) (paced_whole cfg (.request (r i)) (tenant i)))).weaken
      fun _ _ _ => trivial
  have hstart : Spanned (World.start db env).db ∧ AllSpanned db (World.start db env) := by
    refine ⟨hdb, fun d hd => ?_⟩
    rw [List.mem_singleton.1 hd]
    exact hdb
  have hstep : ∀ (w : World S) (m : ι → View S × Phase) (i : ι) (e : Eff), (wholeRequest S cfg (r i)).allows (m i) e →
      Matching w e → Spanned w.db ∧ AllSpanned db w → Spanned (serve e w).2.db ∧ AllSpanned db (serve e w).2 := by
    rintro w m i e ha hmatch ⟨hw, hall⟩
    have hnext := (spanned_serve_iff ha hw).2 hmatch
    exact ⟨hnext, hall.serve hnext⟩
  have hpassable : ∀ w : World S, (∀ d ∈ db :: w.log.map Prod.snd, Passable d) ↔ AllSpanned db w := fun w =>
    forall₂_congr fun d _ => passable_iff
  rw [hpassable]
  constructor
  · intro hall
    refine hwatched.meets (h := serve) (G := AllSpanned db) (I := fun w _ => Spanned w.db ∧ AllSpanned db w)
      (fun w e h => h.of_serve) (fun w m i e ha h hnext => ?_) hstep ms hstart hall
    exact (spanned_serve_iff ha h.1).1 (hnext.next h.1)
  · intro hmeets
    obtain ⟨m', -, h⟩ := hwatched.inv (C := Matching) (I := fun w _ => Spanned w.db ∧ AllSpanned db w) hstep ms hstart
      hmeets
    exact h.2

omit [DecidableEq ι] in
/-- **Requests served one after another** match what is stored, since it is what they have read. -/
theorem serveAll_passable (cfg : Settings) {db : Db S} (hdb : Spanned db) (steps : List Served) :
    ∀ d ∈ history cfg db steps, Passable d := by
  have hone : ∀ (start : Db S) (s : Served), Journal (fun b cs d => Committed cfg s start b cs d ∧ Each Whole cs)
      start (serveOne cfg start s).log (serveOne cfg start s).db := fun start s =>
    (serveOne_paced cfg start s (paced_whole cfg (.request s.request) s.tenant)).mono
      fun b cs d h => ⟨h.1, h.2.1⟩
  have hrun : ∀ {b : Db S}, Journal (fun b cs d => Spanned b → Spanned d) b (runLog cfg b steps) (serveAll cfg b steps) := by
    induction steps with
    | nil => exact fun {b} => rfl
    | cons s rest ih =>
      intro b
      refine Journal.append ((hone b s).mono fun b' cs d hstep hb => ?_) ih
      obtain ⟨hcommitted, hwhole⟩ := hstep
      obtain ⟨ids, hf⟩ := hcommitted.flushed
      refine (spanned_flush_iff hf hcommitted.apart (fun row hrow => (hcommitted.opens row hrow).1) hwhole hb).2 ?_
      intro change hchange
      cases change with
      | updateSubscription loaded cur =>
        intro x hx hid
        obtain ⟨hloaded, -, -⟩ := hcommitted.updates loaded cur hchange
        have hsame : x = loaded := b'.subscriptions.key_injOn hx hloaded hid
        subst hsame
        rcases hwhole _ hchange with ⟨hstart, hend⟩ | hnew
        · exact ⟨fun hne => absurd hstart hne, fun _ hne => absurd hend hne⟩
        · exact ⟨fun _ hend => hend ▸ hnew, fun hstart _ => hstart ▸ hnew⟩
      | _ => trivial
  intro d hd
  exact passable_iff.2 (hrun.invariant (fun b cs d h hb => h hb) hdb d hd)

namespace Sample

/-- Paid for the days 30 to 60. -/
def secondMonth : Db .metadata :=
  billed { row .active 0 none with currentPeriodStart := days 30, currentPeriodEnd := days 60 } (by decide)

/-- What Stripe says of the status and the period of `sub_1`. -/
def resync (eventId status : String) (start stop : ℤ) : Request :=
  .processEvent (event eventId "customer.subscription.updated" [("id", .str "sub_1"), ("status", .str status),
    ("current_period_start", .int start), ("current_period_end", .int stop)]) none

/-- The period ends on day 40. -/
def shortened : Request := resync "evt_1" "past_due" 2592000 3456000

/-- The period starts on day 50. -/
def postponed : Request := resync "evt_2" "canceled" 4320000 5184000

end Sample

/-- Two events, one after the other. -/
theorem spans_iff_syncs :
    Spanned Sample.secondMonth ∧
      ∀ d ∈ Sample.secondMonth :: (Sample.interleaved Sample.secondMonth Sample.shortened Sample.postponed
        (List.replicate 16 false ++ List.replicate 16 true)).log.map Prod.snd, Passable d :=
  ⟨by decide, (spans_iff Sample.settings Sample.secondMonth (Sample.env 1000)
    (Sample.jobs Sample.shortened Sample.postponed) (fun _ => none) _ (by decide)).2 (by decide +kernel)⟩

/-- The second event is processed before the first one commits: the period that is stored starts on day 50 and ends on
day 40, and no invoice can be made for it. -/
theorem spans_torn :
    let w := Sample.interleaved Sample.secondMonth Sample.shortened Sample.postponed
      (List.replicate 6 false ++ List.replicate 16 true ++ List.replicate 10 false)
    Spanned Sample.secondMonth ∧ ¬(∀ d ∈ Sample.secondMonth :: w.log.map Prod.snd, Passable d) ∧
      ∃ x ∈ w.db.subscriptions.rows, ∀ (plan : Plan) (s : Session) (w' : World .metadata),
        ((generateInvoice x plan).exec serve s w').result =
          .error (.valueError "period_end must be after period_start") := by
  intro w
  have hlogged : ∃ d ∈ w.log.map Prod.snd, ∃ x ∈ d.subscriptions.rows, x.currentPeriodEnd ≤ x.currentPeriodStart := by
    decide +kernel
  have hstored : ∃ x ∈ w.db.subscriptions.rows, x.isLive = true ∧ x.currentPeriodEnd ≤ x.currentPeriodStart := by
    decide +kernel
  refine ⟨by decide, fun hall => ?_, ?_⟩
  · obtain ⟨d, hd, x, hx, hempty⟩ := hlogged
    exact not_lt.2 hempty ((hall d (List.mem_cons_of_mem _ hd)).1 x hx)
  · obtain ⟨x, hx, hlive, hempty⟩ := hstored
    refine ⟨x, hx, fun plan s w' => ?_⟩
    rw [exec_generateInvoice_empty hlive hempty]

end FastapiTemplate.Billing
