import FastapiTemplate.Billing.Schedule
import FastapiTemplate.Billing.Writers
import FastapiTemplate.Core.Exec

/-!
# The sweep

What one run of the dunning task does to the database, whatever the faults: either nothing, and it
raises, or every due row takes its tick, all in one commit (`sweep_cases`). On the standings this is
`Standing.swept`, row by row (`Swept`).
-/

namespace FastapiTemplate.Billing

open Core Database Python Effects Script

variable {S : Schema} {cfg : Settings} {s : Session} {w : World S}

/-! ### One tick -/

lemma isQuiet_publishEach (bus : EventBus) (suffix : String) (sub : Subscription) (uids : List ℤ) :
    IsQuiet (publishEach (S := S) bus suffix sub uids) := by
  induction uids with
  | nil => exact .pure ()
  | cons uid uids ih => exact (IsQuiet.publish bus _).bind fun _ => ih

lemma isQuiet_publishToRecipients (bus : Option EventBus) (suffix : String) (sub : Subscription) :
    IsQuiet (publishToRecipients (S := S) bus suffix sub) := by
  cases bus with
  | none => exact .pure 0
  | some bus =>
    have hresolve : IsQuiet (resolveRecipients (S := S) sub.tenantId) := by
      unfold resolveRecipients
      split
      · exact .pure []
      · exact (IsQuiet.select _ _ _).bind fun _ => .pure _
    exact hresolve.bind fun uids => (isQuiet_publishEach bus suffix sub uids).bind fun _ => .pure _

/-- The row after a tick; `t` is the clock at a suspension. -/
def ticked (cfg : Settings) (now t : Datetime) (row : Subscription) : Subscription :=
  if row.failedPaymentCount ≥ cfg.dunningMaxAttempts then
    { row with status := .suspended, suspendedAt := some t, nextRetryAt := none }
  else advance cfg now row

lemma ticked_id (now t : Datetime) (row : Subscription) : (ticked cfg now t row).id = row.id := by
  unfold ticked
  split <;> rfl

/-- What a tick of a row comes to, unless it raises. -/
def Tick.of (cfg : Settings) (row : Subscription) : Tick :=
  if row.failedPaymentCount ≥ cfg.dunningMaxAttempts then .suspended else .reminded

/-- What a tick of a row adds to the session. -/
def TickOf (cfg : Settings) (now : Datetime) (row : Subscription) (c : Change) : Prop :=
  ∃ t, c = .updateSubscription row (ticked cfg now t row)

/-- A tick adds the change of its row and then publishes it. -/
theorem exec_tick_publish (cfg : Settings) (bus : Option EventBus) (now : Datetime) {row : Subscription}
    (hpd : row.status = .pastDue) :
    ∃ t suffix w', (w' = w ∨ w' = w.ticked) ∧ (tick cfg bus now (.of row)).exec serve s w =
      ((publishToRecipients bus suffix (ticked cfg now t row) : Py S ℕ).exec serve
        { s with pending := s.pending ++ [.updateSubscription row (ticked cfg now t row)] } w').next
        fun _ s w => ⟨.ok (Tick.of cfg row), s, w⟩ := by
  unfold tick
  split
  · rename_i hmax
    have hne : (Entity.of row).cur.status ≠ .suspended := by simp [Entity.of, hpd]
    have hok : assertTransition (Entity.of row).cur.status .suspended = .ok () := by
      simp [Entity.of, hpd, assertTransition, allowedTransitions]
    have hcur : ticked cfg now (w.env.clock w.clockReads) row
        = { row with status := .suspended, suspendedAt := some (w.env.clock w.clockReads),
                     nextRetryAt := none } := if_pos hmax
    have hkind : Tick.of cfg row = .suspended := if_pos hmax
    refine ⟨w.env.clock w.clockReads, "suspended", w.ticked, .inr rfl, ?_⟩
    rw [hcur, hkind]
    unfold suspendSubscription
    rw [if_pos hne, hok]
    simp only [exec_bind, exec_ofExcept, Outcome.next_ok, exec_datetimeNow, exec_add, exec_pure,
      Outcome.next_next]
    rfl
  · rename_i hmax
    have hcur : ticked cfg now 0 row = advance cfg now row := if_neg hmax
    have hkind : Tick.of cfg row = .reminded := if_neg hmax
    refine ⟨0, "payment_reminder", w, .inl rfl, ?_⟩
    rw [hcur, hkind]
    simp only [exec_bind, Outcome.next_ok, exec_add, exec_pure]
    rfl

/-- The session and the world after ticks that added the changes `cs`. -/
structure Added (s : Session) (w : World S) (cs : List Change) (s' : Session) (w' : World S) : Prop
    extends Frame w w' where
  tenant : s'.tenant = s.tenant
  pending : s'.pending = s.pending ++ cs
  aborted : (∀ n, w.env.dbFails n = false) → s'.aborted = s.aborted

/-- A tick adds the change of its row, whether or not it raises afterwards. -/
theorem exec_tick (cfg : Settings) (bus : Option EventBus) (now : Datetime) {row : Subscription}
    (hpd : row.status = .pastDue) :
    ∃ c, TickOf cfg now row c ∧ Added s w [c] ((tick cfg bus now (.of row)).exec serve s w).state
      ((tick cfg bus now (.of row)).exec serve s w).world := by
  obtain ⟨t, suffix, w', hw', hexec⟩ := exec_tick_publish (s := s) (w := w) cfg bus now hpd
  have hframe : Frame w w' := by
    rcases hw' with rfl | rfl
    · exact .refl w'
    · exact .ticked w
  refine ⟨_, ⟨t, rfl⟩, ?_⟩
  rw [hexec, Outcome.next_state, Outcome.next_world]
  -- publishing comes last and is quiet
  have hq := isQuiet_publishToRecipients bus suffix (ticked cfg now t row)
    { s with pending := s.pending ++ [.updateSubscription row (ticked cfg now t row)] } w'
  exact ⟨hframe.trans hq.toFrame, hq.tenant, hq.pending, fun hup => hq.aborted (by rwa [hframe.env])⟩

/-! ### The loop -/

/-- The loop goes on from where the first tick ended, even if that raised. -/
lemma exec_processEach_cons (cfg : Settings) (bus : Option EventBus) (now : Datetime) (row : Subscription)
    (subs : List Subscription) (st : SweepStats) :
    ∃ st', (processEach cfg bus now st (row :: subs)).exec serve s w =
      (processEach cfg bus now st' subs).exec serve ((tick cfg bus now (.of row)).exec serve s w).state
        ((tick cfg bus now (.of row)).exec serve s w).world := by
  have htry : ∃ r, (tryCatch (some <$> tick cfg bus now (.of row)) fun _ => pure none :
      Py S (Option Tick)).exec serve s w = ⟨.ok r, ((tick cfg bus now (.of row)).exec serve s w).state,
        ((tick cfg bus now (.of row)).exec serve s w).world⟩ := by
    rw [exec_tryCatch, exec_map]
    rcases (tick cfg bus now (.of row)).exec serve s w with ⟨_ | _, s', w'⟩
    · exact ⟨none, rfl⟩
    · exact ⟨_, rfl⟩
  obtain ⟨r, hr⟩ := htry
  refine ⟨st.count r, ?_⟩
  conv_lhs => unfold processEach
  rw [exec_bind, hr, Outcome.next_ok]

/-- **The loop adds the tick of every row**, and does not raise. -/
theorem exec_processEach (cfg : Settings) (bus : Option EventBus) (now : Datetime) (subs : List Subscription)
    (st : SweepStats) (hpd : ∀ row ∈ subs, row.status = .pastDue) :
    ∃ cs st', List.Forall₂ (TickOf cfg now) subs cs ∧
      ((processEach cfg bus now st subs).exec serve s w).result = .ok st' ∧
      Added s w cs ((processEach cfg bus now st subs).exec serve s w).state
        ((processEach cfg bus now st subs).exec serve s w).world := by
  induction subs generalizing st s w with
  | nil => exact ⟨[], st, .nil, rfl, .refl w, rfl, (List.append_nil _).symm, fun _ => rfl⟩
  | cons row subs ih =>
    obtain ⟨c, hc, hadd⟩ := exec_tick (s := s) (w := w) cfg bus now (hpd row List.mem_cons_self)
    obtain ⟨st₁, hcons⟩ := exec_processEach_cons (s := s) (w := w) cfg bus now row subs st
    obtain ⟨cs, st', hcs, hres, hrest⟩ := ih st₁
      (s := ((tick cfg bus now (.of row)).exec serve s w).state)
      (w := ((tick cfg bus now (.of row)).exec serve s w).world)
      fun x hx => hpd x (List.mem_cons_of_mem _ hx)
    rw [hcons]
    refine ⟨c :: cs, st', .cons hc hcs, hres, hadd.toFrame.trans hrest.toFrame,
      hrest.tenant.trans hadd.tenant, ?_, fun hup => ?_⟩
    · rw [hrest.pending, hadd.pending, List.append_assoc]
      rfl
    · exact (hrest.aborted (by rwa [hadd.env])).trans (hadd.aborted hup)

/-! ### One run of the task -/

/-- One run of the task, with its own session. -/
def sweep (cfg : Settings) (db : Db S) (env : Env) : Outcome Session Exn (World S) SweepStats :=
  (processDunningAsync cfg).exec serve {} (World.start db env)

/-- The rows a sweep at `now` selects. -/
def dueRows (db : Db S) (now : Datetime) : List Subscription :=
  db.subscriptions.rows.filter (isDue now)

lemma status_of_mem_dueRows {db : Db S} {now : Datetime} {row : Subscription}
    (h : row ∈ dueRows db now) : row.status = .pastDue := by
  have hdue := (List.mem_filter.1 h).2
  simp only [isDue, Bool.and_eq_true, beq_iff_eq] at hdue
  exact hdue.1

/-- What is left to do after the ticks. -/
def finish (o : Outcome Session Exn (World S) SweepStats) : Outcome Session Exn (World S) SweepStats :=
  (o.next fun st s w => ((commit : Py S (List ℤ)).exec serve s w).next fun _ s w => ⟨.ok st, s, w⟩).rescue
    fun e s w => ⟨.error e, s.rolledBack, w⟩

/-- A run of the task: the due rows, their ticks, the commit. -/
theorem exec_sweep (cfg : Settings) (db : Db S) (env : Env) :
    sweep cfg db env = finish (if env.dbFails 0 then
        ⟨.error .operationalError, { aborted := true }, (World.start db env).ticked.queried⟩
      else (processEach cfg (some {}) (env.clock 0) ⟨(dueRows db (env.clock 0)).length, 0, 0, 0⟩
        (dueRows db (env.clock 0))).exec serve {} (World.start db env).ticked.queried) := by
  have hrun : (processDueRetries cfg (some {})).exec serve {} (World.start db env) =
      if env.dbFails 0 then
        ⟨.error .operationalError, { aborted := true }, (World.start db env).ticked.queried⟩
      else (processEach cfg (some {}) (env.clock 0) ⟨(dueRows db (env.clock 0)).length, 0, 0, 0⟩
        (dueRows db (env.clock 0))).exec serve {} (World.start db env).ticked.queried := by
    unfold processDueRetries
    simp only [orNow, exec_bind, exec_datetimeNow, Outcome.next_ok, exec_select, Bool.false_eq_true,
      if_false]
    have henv : (World.start db env).ticked.env.dbFails (World.start db env).ticked.dbCalls
        = env.dbFails 0 := rfl
    rw [henv]
    cases env.dbFails 0
    · rfl
    · rfl
  unfold sweep processDunningAsync finish
  simp only [exec_tryCatch, exec_bind, hrun, exec_pure, exec_rollback, exec_throw, Outcome.next_ok]

/-- The commit goes through, or nothing is committed. -/
theorem finish_ok (st : SweepStats) (s : Session) (w : World S) :
    (∃ ids d, s.aborted = false ∧ w.env.dbFails w.dbCalls = false ∧ w.db.commit s.pending = .ok (ids, d) ∧
      finish ⟨.ok st, s, w⟩ = ⟨.ok st, { s with pending := [] }, w.committed s.pending d⟩) ∨
    ¬(s.aborted = false ∧ w.env.dbFails w.dbCalls = false ∧ ∃ ids d, w.db.commit s.pending = .ok (ids, d)) ∧
      ∃ e s' w', finish ⟨.ok st, s, w⟩ = ⟨.error e, s', w'⟩ ∧ Frame w w' ∧ w'.published = w.published := by
  unfold finish
  rw [Outcome.next_ok, exec_commit]
  cases ha : s.aborted with
  | true =>
    right
    exact ⟨fun h => Bool.noConfusion h.1, _, _, w, rfl, .refl w, rfl⟩
  | false =>
    cases hf : w.env.dbFails w.dbCalls with
    | true =>
      right
      exact ⟨fun h => Bool.noConfusion h.2.1, _, _, w.queried, rfl, .queried w, rfl⟩
    | false =>
      rcases hc : w.db.commit s.pending with e | ⟨ids, d⟩
      · right
        refine ⟨?_, _, _, w.queried, rfl, .queried w, rfl⟩
        rintro ⟨-, -, ids, d, h⟩
        cases h
      · left
        exact ⟨ids, d, rfl, rfl, rfl, rfl⟩

/-- **One run of the task.** Either it raises and nothing is committed, or the ticks of all due rows
are, in one commit; without a failing round trip only the commit itself can be refused. -/
theorem sweep_cases (cfg : Settings) (db : Db S) (env : Env) :
    ∃ cs, List.Forall₂ (TickOf cfg (env.clock 0)) (dueRows db (env.clock 0)) cs ∧
      (((∃ e, (sweep cfg db env).result = .error e) ∧ (sweep cfg db env).world.db = db) ∨
        ∃ ids d st, db.commit cs = .ok (ids, d) ∧ (sweep cfg db env).result = .ok st ∧
          (sweep cfg db env).world.db = d) ∧
      ((∀ n, env.dbFails n = false) → ∀ ids d, db.commit cs = .ok (ids, d) →
        ∃ st, (sweep cfg db env).result = .ok st ∧ (sweep cfg db env).world.db = d) := by
  obtain ⟨cs, st, hcs, hres, hadd⟩ := exec_processEach (s := {})
    (w := (World.start db env).ticked.queried) cfg (some {}) (env.clock 0) (dueRows db (env.clock 0))
    ⟨(dueRows db (env.clock 0)).length, 0, 0, 0⟩ fun row hrow => status_of_mem_dueRows hrow
  rw [exec_sweep]
  generalize (processEach cfg (some {}) (env.clock 0) ⟨(dueRows db (env.clock 0)).length, 0, 0, 0⟩
    (dueRows db (env.clock 0))).exec serve {} (World.start db env).ticked.queried = o at hres hadd
  obtain ⟨r, s', w'⟩ := o
  have hr : r = .ok st := hres
  subst hr
  have hdb : w'.db = db := hadd.db
  have hpending : s'.pending = cs := hadd.pending
  refine ⟨cs, hcs, ?_, fun hup ids d hc => ?_⟩
  · cases env.dbFails 0 with
    | true => exact .inl ⟨⟨_, rfl⟩, rfl⟩
    | false =>
      rw [if_neg Bool.false_ne_true]
      rcases finish_ok st s' w' with ⟨ids, d, -, -, hc, heq⟩ | ⟨-, e, s'', w'', heq, hframe, -⟩
      · rw [hdb, hpending] at hc
        rw [heq]
        exact .inr ⟨ids, d, st, hc, rfl, rfl⟩
      · rw [heq]
        exact .inl ⟨⟨e, rfl⟩, hframe.db.trans hdb⟩
  · have ha : s'.aborted = false := hadd.aborted hup
    have hf : w'.env.dbFails w'.dbCalls = false := by
      rw [hadd.env]
      exact hup _
    rw [if_neg (by rw [hup 0]; exact Bool.false_ne_true)]
    rcases finish_ok st s' w' with ⟨ids', d', -, -, hc', heq⟩ | ⟨hno, -⟩
    · rw [hdb, hpending, hc] at hc'
      cases hc'
      rw [heq]
      exact ⟨st, rfl, rfl⟩
    · rw [hdb, hpending] at hno
      exact absurd ⟨ha, hf, ids, d, hc⟩ hno

/-! ### The commit of the ticks -/

section Commit

variable {db : Db S} {now : Datetime} {cs : List Change}

lemma exists_of_forall₂ {α β : Type} {R : α → β → Prop} {as : List α} {bs : List β}
    (h : List.Forall₂ R as bs) : (∀ a ∈ as, ∃ b ∈ bs, R a b) ∧ ∀ b ∈ bs, ∃ a ∈ as, R a b := by
  induction h with
  | nil => exact ⟨nofun, nofun⟩
  | cons hab _ ih =>
    constructor
    · intro a ha
      rcases List.mem_cons.1 ha with rfl | ha
      · exact ⟨_, List.mem_cons_self, hab⟩
      · obtain ⟨b, hb, hR⟩ := ih.1 a ha
        exact ⟨b, List.mem_cons_of_mem _ hb, hR⟩
    · intro b hb
      rcases List.mem_cons.1 hb with rfl | hb
      · exact ⟨_, List.mem_cons_self, hab⟩
      · obtain ⟨a, ha, hR⟩ := ih.2 b hb
        exact ⟨a, List.mem_cons_of_mem _ ha, hR⟩

lemma targets_ticks {rows : List Subscription} (h : List.Forall₂ (TickOf cfg now) rows cs) :
    targets cs = rows.map Subscription.id := by
  induction h with
  | nil => rfl
  | cons hc _ ih =>
    obtain ⟨t, rfl⟩ := hc
    rw [List.map_cons, ← ih]
    rfl

/-- A due row takes its tick. -/
theorem rewrite_of_due (hcs : List.Forall₂ (TickOf cfg now) (dueRows db now) cs) {x : Subscription}
    (hx : x ∈ dueRows db now) : ∃ t, rewrite cs x = ticked cfg now t x := by
  have hnodup : (targets cs).Nodup := by
    rw [targets_ticks hcs]
    exact db.subscriptions.nodup_keys.sublist (List.filter_sublist.map _)
  obtain ⟨c, hc, t, rfl⟩ := (exists_of_forall₂ hcs).1 x hx
  refine ⟨t, ?_⟩
  rw [rewrite_of_mem hnodup hc rfl, Subscription.writeBack_loaded (ticked_id now t x)]

/-- A row that is not due is left alone. -/
theorem rewrite_of_not_due (hcs : List.Forall₂ (TickOf cfg now) (dueRows db now) cs) {x : Subscription}
    (hx : x ∈ db.subscriptions.rows) (hd : isDue now x = false) : rewrite cs x = x := by
  refine rewrite_of_not_mem ?_
  rw [targets_ticks hcs]
  intro hmem
  obtain ⟨row, hrow, hid⟩ := List.mem_map.1 hmem
  obtain ⟨hrow, hdue⟩ := List.mem_filter.1 hrow
  have heq : row = x := db.subscriptions.key_injOn hrow hx hid
  rw [heq, hd] at hdue
  cases hdue

lemma standing_ticked {x : Subscription} (t : Datetime) (hd : isDue now x = true) :
    standing (ticked cfg now t x) = (standing x).swept cfg.policy now := by
  have hdue : (standing x).due now = true := hd
  unfold ticked Standing.swept
  rw [if_pos hdue]
  unfold Standing.tickMove
  by_cases hl : cfg.dunningMaxAttempts ≤ x.failedPaymentCount
  · have hl' : cfg.policy.limit ≤ (standing x).failures := hl
    rw [if_pos hl, if_pos hl']
    rfl
  · have hl' : ¬cfg.policy.limit ≤ (standing x).failures := hl
    rw [if_neg hl, if_neg hl']
    rfl

/-- What a sweep that went through has done. -/
def Swept (cfg : Settings) (now : Datetime) (b d : Db S) : Prop :=
  ∀ x ∈ b.subscriptions.rows, ∃ x' ∈ d.subscriptions.rows, x'.id = x.id ∧
    standing x' = (standing x).swept cfg.policy now ∧ (isDue now x = false → x' = x)

theorem swept_of_commit (hcs : List.Forall₂ (TickOf cfg now) (dueRows db now) cs) {ids : List ℤ}
    {d : Db S} (hc : db.commit cs = .ok (ids, d)) : Swept cfg now db d := by
  have hopen : ∀ c ∈ cs, c.opened = none := by
    intro c hmem
    obtain ⟨row, -, t, rfl⟩ := (exists_of_forall₂ hcs).2 c hmem
    rfl
  intro x hx
  refine ⟨rewrite cs x, ?_, rewrite_id cs x, ?_, rewrite_of_not_due hcs hx⟩
  · rw [Db.subscriptions, flush_rows (Db.commit_ok hc) hopen]
    exact List.mem_map_of_mem hx
  · cases hd : isDue now x with
    | true =>
      obtain ⟨t, ht⟩ := rewrite_of_due hcs (List.mem_filter.2 ⟨hx, hd⟩)
      rw [ht, standing_ticked t hd]
    | false =>
      have hdue : (standing x).due now = false := hd
      rw [rewrite_of_not_due hcs hx hd, Standing.swept_of_not_due hdue]

lemma isDue_of_mem {x : Subscription} (h : x ∈ dueRows db now) :
    x ∈ db.subscriptions.rows ∧ (standing x).due now = true :=
  List.mem_filter.1 h

/-- Ticks that suspend a row are only committed if the schema accepts that. -/
theorem accepts_of_commit (hcs : List.Forall₂ (TickOf cfg now) (dueRows db now) cs) {ids : List ℤ}
    {d : Db S} (hc : db.commit cs = .ok (ids, d)) {x : Subscription} (hx : x ∈ dueRows db now)
    (hl : cfg.dunningMaxAttempts ≤ x.failedPaymentCount) : S.accepts .suspended = true := by
  obtain ⟨hmem, hdue⟩ := isDue_of_mem hx
  obtain ⟨x', hx', -, hst, -⟩ := swept_of_commit hcs hc x hmem
  have hlimit : cfg.policy.limit ≤ (standing x).failures := hl
  rw [Standing.swept_limit hdue hlimit] at hst
  have hstatus : x'.status = .suspended := congrArg Standing.status hst
  have hacc := d.constraints.status _ hx'
  rwa [hstatus] at hacc

/-- **When the schema admits the ticks**: a suspension is storable, or no due row is at the limit. -/
theorem commit_ticks (hcs : List.Forall₂ (TickOf cfg now) (dueRows db now) cs)
    (hacc : ∀ x ∈ dueRows db now, cfg.dunningMaxAttempts ≤ x.failedPaymentCount →
      S.accepts .suspended = true) : ∃ ids d, db.commit cs = .ok (ids, d) := by
  have hflush : db.tables.flush cs = .ok ([], db.tables.rewritten cs) := by
    refine flush_updates fun c hc => ?_
    obtain ⟨row, hrow, t, rfl⟩ := (exists_of_forall₂ hcs).2 c hc
    exact ⟨row, _, rfl, row, (List.mem_filter.1 hrow).1, rfl⟩
  -- how a rewritten row compares with the row before
  have hrow : ∀ x ∈ db.subscriptions.rows, rewrite cs x = x ∨
      x ∈ dueRows db now ∧ ∃ t, rewrite cs x = ticked cfg now t x := by
    intro x hx
    cases hd : isDue now x with
    | true =>
      have hmem : x ∈ dueRows db now := List.mem_filter.2 ⟨hx, hd⟩
      exact .inr ⟨hmem, rewrite_of_due hcs hmem⟩
    | false => exact .inl (rewrite_of_not_due hcs hx hd)
  have hadmits : S.admits (db.tables.rewritten cs) = true := by
    refine Schema.admits_revise db.admitted ?_ ?_ ?_
    · intro x hx
      rcases hrow x hx with hsame | ⟨hdue, t, ht⟩
      · rw [hsame]
        exact db.constraints.status _ hx
      · rw [ht]
        unfold ticked
        split
        · rename_i hl
          exact hacc x hdue hl
        · have hstored : S.accepts x.status = true := db.constraints.status _ hx
          exact hstored
    · intro x hx
      rcases hrow x hx with hsame | ⟨hdue, t, ht⟩
      · exact .inl (by rw [hsame])
      · rw [ht]
        unfold ticked
        split
        · exact .inr rfl
        · exact .inl rfl
    · intro x hx
      rcases hrow x hx with hsame | ⟨hdue, t, ht⟩
      · rw [hsame]
      · rw [ht]
        unfold ticked
        split <;> rfl
  refine ⟨[], ⟨db.tables.rewritten cs, hadmits⟩, ?_⟩
  unfold Db.commit
  rw [hflush]
  exact dif_pos hadmits

end Commit

/-- A run that returns has ticked every due row. -/
theorem sweep_swept {db : Db S} {env : Env} {st : SweepStats} (h : (sweep cfg db env).result = .ok st) :
    Swept cfg (env.clock 0) db (sweep cfg db env).world.db := by
  obtain ⟨cs, hcs, hcases, -⟩ := sweep_cases cfg db env
  rcases hcases with ⟨⟨e, he⟩, -⟩ | ⟨ids, d, st', hc, -, hdb⟩
  · rw [h] at he
    cases he
  · rw [hdb]
    exact swept_of_commit hcs hc

/-- Without a failing round trip a run returns, if the schema admits its ticks. -/
theorem sweep_returns {db : Db S} {env : Env} (hup : ∀ n, env.dbFails n = false)
    (hacc : ∀ x ∈ dueRows db (env.clock 0), cfg.dunningMaxAttempts ≤ x.failedPaymentCount →
      S.accepts .suspended = true) : ∃ st, (sweep cfg db env).result = .ok st := by
  obtain ⟨cs, hcs, -, hgo⟩ := sweep_cases cfg db env
  obtain ⟨ids, d, hc⟩ := commit_ticks hcs hacc
  obtain ⟨st, hst, -⟩ := hgo hup ids d hc
  exact ⟨st, hst⟩

end FastapiTemplate.Billing
