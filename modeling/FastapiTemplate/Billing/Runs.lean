import FastapiTemplate.Billing.Conforms.Events
import FastapiTemplate.Core.Exec

/-!
# Requests one after another

`Committed` says what a commit of a request does when nothing else runs: the rows it changes are the
rows stored, each by a move the request offers. `serveOne_journal` is `conforms` read in that world,
and `Along.journal` puts the requests of a run together.
-/

namespace FastapiTemplate.Billing

open Core Database Python Effects Script

variable {S : Schema} {cfg : Settings}

/-! ### One commit -/

namespace Served

/-- What a request may do to a row, the database at its start being `start`. -/
def Offers (s : Served) (start : Db S) (row : Subscription) (mv : Move) : Prop :=
  s.request.Offers (some start) (some (s.env.clock 0)) row mv

/-- The standing in which a request may open a subscription. -/
def Opens (s : Served) (start : Db S) (x : Standing) : Prop :=
  s.request.Opens (some start) (some (s.env.clock 0)) x

end Served

lemma Request.Offers.mono {r : Request} {start start' : Option (Db S)} {asked asked' : Option Datetime}
    {row : Subscription} {mv : Move} (hstart : ∀ d, start = some d → start' = some d)
    (hasked : ∀ t, asked = some t → asked' = some t) (h : r.Offers start asked row mv) :
    r.Offers start' asked' row mv := by
  have hkind : ∀ {kind : DomainEvent} {obj : Value}, kind.Offers obj asked row mv →
      kind.Offers obj asked' row mv := by
    intro kind obj ho
    cases kind with
    | checkoutCompleted => exact ho
    | paymentFailed => exact ho
    | subscriptionUpdated =>
      obtain ⟨hn, t, target, ht, hrest⟩ := ho
      exact ⟨hn, t, target, hasked t ht, hrest⟩
    | subscriptionDeleted =>
      obtain ⟨hn, t, target, ht, hrest⟩ := ho
      exact ⟨hn, t, target, hasked t ht, hrest⟩
  cases r with
  | webhook request =>
    obtain ⟨d, event, kind, obj, hd, he, hh, ho⟩ := h
    exact ⟨d, event, kind, obj, hstart d hd, he, hh, hkind ho⟩
  | processEvent event bus =>
    obtain ⟨d, event, kind, obj, hd, he, hh, ho⟩ := h
    exact ⟨d, event, kind, obj, hstart d hd, he, hh, hkind ho⟩
  | _ => exact h

lemma Request.Opens.mono {r : Request} {start start' : Option (Db S)} {asked asked' : Option Datetime}
    {x : Standing} (hstart : ∀ d, start = some d → start' = some d)
    (hasked : ∀ t, asked = some t → asked' = some t) (h : r.Opens start asked x) :
    r.Opens start' asked' x := by
  obtain ⟨hf, hn, ho⟩ := h
  have hevent : (∃ d event obj, start = some d ∧ r.event? = some event ∧
      handled d event = some (.checkoutCompleted, obj) ∧
      (x.status = .active ∨ CheckoutStatus obj asked x.status)) →
      ∃ d event obj, start' = some d ∧ r.event? = some event ∧
      handled d event = some (.checkoutCompleted, obj) ∧
      (x.status = .active ∨ CheckoutStatus obj asked' x.status) := by
    rintro ⟨d, event, obj, hd, he, hh, hst⟩
    refine ⟨d, event, obj, hstart d hd, he, hh, hst.imp id ?_⟩
    rintro ⟨t, stripeSub, ht, hrest⟩
    exact ⟨t, stripeSub, hasked t ht, hrest⟩
  refine ⟨hf, hn, ?_⟩
  cases r with
  | subscribe user planId => exact ho
  | _ => exact hevent ho

/-- A commit of a request served alone, from `b` to `d`; `start` is the database at its start. -/
structure Committed (cfg : Settings) (s : Served) (start b : Db S) (cs : List Change) (d : Db S) :
    Prop where
  flushed : ∃ ids, b.tables.flush cs = .ok (ids, d.tables)
  apart : (targets cs).Nodup
  updates : ∀ loaded cur, .updateSubscription loaded cur ∈ cs →
    loaded ∈ b.subscriptions.rows ∧ loaded ∈ start.subscriptions.rows ∧
    Moves cfg.policy (fun mv => s.Offers start loaded mv) loaded cur
  opens : ∀ row, .insertSubscription row ∈ cs →
    cs = [.insertSubscription row] ∧ s.Opens start (standing row)

namespace Committed

variable {s : Served} {start b d : Db S} {cs : List Change}

/-- A row after the commit stands where it stood, or where an offered move leads. -/
def Carried (cfg : Settings) (s : Served) (start : Db S) (x x' : Subscription) : Prop :=
  x'.id = x.id ∧ (standing x' = standing x ∨ x ∈ start.subscriptions.rows ∧
    ∃ mv, s.Offers start x mv ∧ mv.Allowed cfg.policy (standing x) ∧
      standing x' = mv.apply cfg.policy (standing x))

lemma not_opened (h : Committed cfg s start b cs d) (hcs : ∀ row, cs ≠ [.insertSubscription row]) :
    ∀ c ∈ cs, c.opened = none := by
  intro c hc
  cases c with
  | insertSubscription row => exact absurd (h.opens row hc).1 (hcs row)
  | _ => rfl

/-- A rewritten row is carried. -/
lemma carried_rewrite (h : Committed cfg s start b cs d) {x : Subscription}
    (hx : x ∈ b.subscriptions.rows) : Carried cfg s start x (rewrite cs x) := by
  refine ⟨rewrite_id cs x, ?_⟩
  rcases rewrite_cases h.apart x with hsame | ⟨loaded, cur, hmem, hid, hrew⟩
  · exact .inl (by rw [hsame])
  · obtain ⟨hb, hstart, hcid, mv, hoffer, hallowed, happly⟩ := h.updates loaded cur hmem
    -- served alone, the row stored is the row that was loaded
    have hloaded : x = loaded := b.subscriptions.key_injOn hx hb hid
    subst hloaded
    rw [Subscription.writeBack_loaded hcid] at hrew
    rw [hrew]
    exact .inr ⟨hstart, mv, hoffer, hallowed, happly⟩

/-- **No row is lost**, and what becomes of it is a move. -/
theorem kept (h : Committed cfg s start b cs d) {x : Subscription} (hx : x ∈ b.subscriptions.rows) :
    ∃ x' ∈ d.subscriptions.rows, Carried cfg s start x x' := by
  obtain ⟨ids, hf⟩ := h.flushed
  by_cases hcs : ∃ row, cs = [.insertSubscription row]
  · obtain ⟨row, rfl⟩ := hcs
    refine ⟨x, ?_, rfl, .inl rfl⟩
    rw [Db.subscriptions, flush_opened hf]
    exact Store.Table.mem_insert.2 (.inl hx)
  · have hopen := h.not_opened fun row hrow => hcs ⟨row, hrow⟩
    refine ⟨rewrite cs x, ?_, h.carried_rewrite hx⟩
    rw [Db.subscriptions, flush_rows hf hopen]
    exact List.mem_map_of_mem hx

/-- **Where a row comes from**: a row before the commit, or a subscription the request opened. -/
theorem origin (h : Committed cfg s start b cs d) {x' : Subscription}
    (hx' : x' ∈ d.subscriptions.rows) :
    (∃ x ∈ b.subscriptions.rows, Carried cfg s start x x') ∨ s.Opens start (standing x') := by
  obtain ⟨ids, hf⟩ := h.flushed
  by_cases hcs : ∃ row, cs = [.insertSubscription row]
  · obtain ⟨row, rfl⟩ := hcs
    rw [Db.subscriptions, flush_opened hf] at hx'
    rcases Store.Table.mem_insert.1 hx' with hx | rfl
    · exact .inl ⟨x', hx, rfl, .inl rfl⟩
    · exact .inr (h.opens row List.mem_cons_self).2
  · have hopen := h.not_opened fun row hrow => hcs ⟨row, hrow⟩
    rw [Db.subscriptions, flush_rows hf hopen] at hx'
    obtain ⟨x, hx, rfl⟩ := List.mem_map.1 hx'
    exact .inl ⟨x, hx, h.carried_rewrite hx⟩

end Committed

/-! ### One request -/

/-- What the view of a script served alone has to do with the world. -/
structure Tracks (cfg : Settings) (s : Served) (start : Db S) (w : World S) (m : View S) : Prop where
  env : w.env = s.env
  reads : ∀ d ∈ m.reads, d = w.db
  first : ∀ d, m.start = some d → d = start
  unread : m.start = none → w.db = start
  asked : ∀ t, m.asked = some t → t = s.env.clock 0
  unasked : m.asked = none → w.clockReads = 0
  unwritten : m.wrote = false → w.db.subscriptions = start.subscriptions
  journal : Journal (Committed cfg s start) start w.log w.db

namespace Tracks

variable {s : Served} {start : Db S} {w : World S} {m : View S}

/-- A commit the monitor allows is `Committed` when nothing else runs. -/
lemma committed {cs : List Change} {d : Db S} {ids : List ℤ} (h : Tracks cfg s start w m)
    (hp : Proper cfg s.request m cs) (hc : w.db.commit cs = .ok (ids, d)) :
    Committed cfg s start w.db cs d where
  flushed := ⟨ids, Db.commit_ok hc⟩
  apart := hp.apart
  updates loaded cur hmem := by
    obtain ⟨⟨d', hd', hrow⟩, hid, mv, hoffer, hallowed, happly⟩ := hp.updates loaded cur hmem
    have hdb : d' = w.db := h.reads d' hd'
    subst hdb
    have hany : cs.any writes = true := List.any_eq_true.2 ⟨_, hmem, rfl⟩
    have hsubs := h.unwritten (hp.once hany)
    refine ⟨hrow, by rw [← hsubs]; exact hrow, hid, mv, hoffer.mono ?_ ?_, hallowed, happly⟩
    · intro d hd
      rw [h.first d hd]
    · intro t ht
      rw [h.asked t ht]
  opens row hmem := by
    obtain ⟨hcs, ho⟩ := hp.opens row hmem
    refine ⟨hcs, ho.mono ?_ ?_⟩
    · intro d hd
      rw [h.first d hd]
    · intro t ht
      rw [h.asked t ht]

/-- Every allowed effect keeps view and world together. -/
theorem step (w : World S) (m : View S) (e : Eff)
    (ha : (watch (Proper cfg s.request)).allows m e) (h : Tracks cfg s start w m) :
    Tracks cfg s start (serve e w).2 ((watch (Proper cfg s.request)).next m e (serve e w).1) := by
  cases e with
  | now =>
    refine { h with asked := ?_, unasked := ?_ }
    · intro t ht
      rcases hm : m.asked with _ | u
      · have hzero := h.unasked hm
        have hread : some (w.env.clock w.clockReads) = some t := by
          simpa [watch, serve, View.tick, hm] using ht
        rw [hzero, h.env] at hread
        exact (Option.some.inj hread).symm
      · have hu : u = t := by simpa [watch, serve, View.tick, hm] using ht
        rw [← hu]
        exact h.asked u hm
    · intro hn
      simp [watch, View.tick] at hn
  | query =>
    by_cases hfail : w.env.dbFails w.dbCalls = true
    · simp only [serve, hfail, if_true]
      exact { h with }
    · simp only [serve, hfail, Bool.false_eq_true, if_false]
      refine { h with reads := ?_, first := ?_, unread := ?_ }
      · intro d hd
        rcases List.mem_cons.1 hd with rfl | hd
        · rfl
        · exact h.reads d hd
      · intro d hd
        rcases hm : m.start with _ | e
        · have hd' : w.db = d := by simpa [watch, View.read, hm] using hd
          rw [← hd', h.unread hm]
        · have hd' : e = d := by simpa [watch, View.read, hm] using hd
          rw [← hd']
          exact h.first e hm
      · intro hn
        simp [watch, View.read] at hn
  | commit cs =>
    have hp : Proper cfg s.request m cs := ha
    rw [serve_commit]
    rcases w.commit_cases cs with ⟨e, hcommit⟩ | ⟨ids, d, hc, hcommit⟩
    · rw [hcommit]
      exact { h with }
    · rw [hcommit]
      refine { h with reads := by simp [watch, View.committed], unread := fun hn => absurd hn hp.informed,
                      unwritten := ?_, journal := h.journal.snoc (h.committed hp hc) }
      intro hw
      simp only [watch, View.committed, Bool.or_eq_false_iff] at hw
      show d.subscriptions = start.subscriptions
      rw [Db.subscriptions, flush_keeps (Db.commit_ok hc) (not_writes hw.2)]
      exact h.unwritten hw.1
  | publish event =>
    by_cases hfail : w.env.busFails w.busCalls = true
    · simp only [serve, hfail, if_true]
      exact { h with }
    · simp only [serve, hfail, Bool.false_eq_true, if_false]
      exact { h with }
  | enter eventId => exact { h with }
  | recollect worker tenantId => exact { h with }
  | remember worker tenantId e => exact { h with }
  | redis command => exact ha.elim

end Tracks

/-- **The commits of a request served alone.** -/
theorem serveOne_journal (cfg : Settings) (db : Db S) (s : Served) :
    Journal (Committed cfg s db) db (serveOne cfg db s).log (serveOne cfg db s).db := by
  have hstart : Tracks cfg s db (World.start db s.env) {} :=
    ⟨rfl, nofun, nofun, fun _ => rfl, nofun, fun _ => rfl, fun _ => rfl, rfl⟩
  obtain ⟨m', h, -⟩ := (conforms cfg s.request s.tenant).exec Tracks.step hstart
  exact h.journal

/-! ### A run -/

/-- The commits of a run. -/
def runLog (cfg : Settings) : Db S → List Served → List (List Change × Db S)
  | _, [] => []
  | db, s :: rest => (serveOne cfg db s).log ++ runLog cfg (serveOne cfg db s).db rest

/-- The committed states of a run, with the one it starts from. -/
def history (cfg : Settings) (db : Db S) (steps : List Served) : List (Db S) :=
  db :: (runLog cfg db steps).map Prod.snd

/-- Every request of the run, with the database it is served from, satisfies `C`. -/
def Along (C : Db S → Served → Prop) (cfg : Settings) : Db S → List Served → Prop
  | _, [] => True
  | db, s :: rest => C db s ∧ Along C cfg (serveOne cfg db s).db rest

/-- **The commits of a run**: each is a commit of one of its requests, which satisfies `C`. -/
theorem Along.journal {C : Db S → Served → Prop} {db : Db S} {steps : List Served}
    (h : Along C cfg db steps) :
    Journal (fun b cs d => ∃ start s, C start s ∧ Committed cfg s start b cs d) db
      (runLog cfg db steps) (serveAll cfg db steps) := by
  induction steps generalizing db with
  | nil => rfl
  | cons s rest ih =>
    have hone : Journal (fun b cs d => ∃ start s, C start s ∧ Committed cfg s start b cs d) db
        (serveOne cfg db s).log (serveOne cfg db s).db :=
      (serveOne_journal cfg db s).mono fun b cs d hc => ⟨db, s, h.1, hc⟩
    exact hone.append (ih h.2)

end FastapiTemplate.Billing
