import FastapiTemplate.Billing.Phantoms

/-!
# What a sweep counts, and what it commits

`process_due_retries` changes a row before it publishes the change. A publication that raises is caught and counted as
a failed tick, but the row keeps the change, and the caller's commit writes it. So the counts of a sweep agree with
what is committed exactly if no publication raises (`sweep_exact_iff`).
-/

namespace FastapiTemplate.Billing

open Core Database Python Effects Script

variable {S : Schema} {cfg : Settings} {s : Session} {w : World S}

deriving instance DecidableEq for Tick

/-! ### The ticks one by one -/

/-- How the ticks of the loop end, a row at a time; `none` is a tick that is counted as failed. -/
def outcomes (cfg : Settings) (bus : Option EventBus) (now : Datetime) :
    Session → World S → List Subscription → List (Option Tick)
  | _, _, [] => []
  | s, w, row :: subs =>
    let o := (tick cfg bus now (.of row) : Py S Tick).exec serve s w
    o.result.toOption :: outcomes cfg bus now o.state o.world subs

/-- The loop returns the counts of these ends. -/
theorem result_processEach (cfg : Settings) (bus : Option EventBus) (now : Datetime) (subs : List Subscription)
    (st : SweepStats) :
    ((processEach cfg bus now st subs : Py S SweepStats).exec serve s w).result =
      .ok ((outcomes cfg bus now s w subs).foldl SweepStats.count st) := by
  induction subs generalizing st s w with
  | nil => rfl
  | cons row subs ih =>
    unfold processEach outcomes
    rw [exec_bind, exec_tryCatch, exec_map]
    rcases (tick cfg bus now (.of row) : Py S Tick).exec serve s w with ⟨_ | kind, s', w'⟩
    · exact ih (s := s') (w := w') (st.count none)
    · exact ih (s := s') (w := w') (st.count (some kind))

lemma foldl_count (os : List (Option Tick)) (st : SweepStats) :
    os.foldl SweepStats.count st =
      ⟨st.due, st.reminded + os.count (some .reminded), st.suspended + os.count (some .suspended),
        st.failed + os.count none⟩ := by
  induction os generalizing st with
  | nil => rfl
  | cons o os ih =>
    rw [List.foldl_cons, ih]
    rcases o with _ | _ | _ <;> simp [SweepStats.count] <;> omega

/-- The recipients of the rows. -/
def hearers (d : Db S) (subs : List Subscription) : ℕ := (subs.map fun row => (audience d row).length).sum

/-- How a tick ends, the transaction not being aborted before. -/
inductive TickEnds (cfg : Settings) (w : World S) (row : Subscription) (r : Except Exn Tick) (s' : Session)
    (w' : World S) : Prop where
  /-- The recipients' query fails. -/
  | unresolved (hquery : Unresolved w row) (aborted : s'.aborted = true)
  /-- A publication raises. -/
  | cut (hquery : ¬Unresolved w row) (hcut : ¬∀ k < (audience w.db row).length, w.env.busFails (w.busCalls + k) = false)
      (result : r.toOption = none) (aborted : s'.aborted = false) (dbCalls : w'.dbCalls = (resolved w row).dbCalls)
  | through (hquery : ¬Unresolved w row)
      (hthrough : ∀ k < (audience w.db row).length, w.env.busFails (w.busCalls + k) = false)
      (result : r = .ok (Tick.of cfg row)) (aborted : s'.aborted = false)
      (dbCalls : w'.dbCalls = (resolved w row).dbCalls) (busCalls : w'.busCalls = w.busCalls + (audience w.db row).length)

theorem tick_ends (cfg : Settings) (bus : EventBus) (now : Datetime) {row : Subscription}
    (hpd : row.status = .pastDue) (ht : s.tenant = none) (ha : s.aborted = false) :
    TickEnds cfg w row ((tick cfg (some bus) now (.of row)).exec serve s w).result
      ((tick cfg (some bus) now (.of row)).exec serve s w).state
      ((tick cfg (some bus) now (.of row)).exec serve s w).world := by
  obtain ⟨t, suffix, w', hw', hexec⟩ := exec_tick_publish (s := s) (w := w) cfg (some bus) now hpd
  obtain ⟨hquery, haud, hdb, henv, hbus, -⟩ := same_ticked cfg now t row hw'
  have hcalls := (resolved_eq w' (ticked cfg now t row)).2
  rw [hexec, exec_publishToRecipients bus suffix
    (s := { s with pending := s.pending ++ [.updateSubscription row (ticked cfg now t row)] }) ha
    (by rw [ht]; rfl)]
  by_cases hq : Unresolved w row
  · rw [if_pos (by rw [hquery]; exact hq)]
    exact .unresolved hq rfl
  rw [if_neg (by rw [hquery]; exact hq), haud, henv, hbus]
  by_cases hall : sent w.env.busFails w.busCalls (audience w.db row).length = (audience w.db row).length
  · simp only [if_pos hall, Outcome.next_ok]
    refine .through hq (sent_eq_iff.1 hall) rfl ha hdb ?_
    show (resolved w' (ticked cfg now t row)).busCalls + _ = _
    rw [hcalls, hbus]
  · simp only [if_neg hall, Outcome.next_error]
    exact .cut hq (fun h => hall (sent_eq_iff.2 h)) rfl ha hdb

lemma forall_lt_add {p : ℕ → Prop} {m n : ℕ} : (∀ i < m + n, p i) ↔ (∀ i < m, p i) ∧ ∀ i < n, p (m + i) := by
  constructor
  · intro h
    exact ⟨fun i hi => h i (by omega), fun i hi => h (m + i) (by omega)⟩
  · rintro ⟨hm, hn⟩ i hi
    by_cases him : i < m
    · exact hm i him
    · have hrest := hn (i - m) (by omega)
      rwa [Nat.add_sub_cancel' (by omega)] at hrest

/-- **No tick fails exactly if no publication raises**, as long as the recipients' queries do not fail. -/
theorem outcomes_iff (cfg : Settings) (bus : EventBus) (now : Datetime) (subs : List Subscription)
    (hpd : ∀ row ∈ subs, row.status = .pastDue) (ht : s.tenant = none) (ha : s.aborted = false)
    (hup : ∀ n < trips subs, w.env.dbFails (w.dbCalls + n) = false) :
    (none ∉ outcomes cfg (some bus) now s w subs ↔
      ∀ i < hearers w.db subs, w.env.busFails (w.busCalls + i) = false) ∧
    (none ∉ outcomes cfg (some bus) now s w subs →
      outcomes cfg (some bus) now s w subs = subs.map fun row => some (Tick.of cfg row)) := by
  induction subs generalizing s w with
  | nil => simp [outcomes, hearers]
  | cons row subs ih =>
    obtain ⟨c, -, hadd⟩ := exec_tick (s := s) (w := w) cfg (some bus) now (hpd row List.mem_cons_self)
    have hends := tick_ends (w := w) cfg bus now (hpd row List.mem_cons_self) ht ha
    have hquery : ¬Unresolved w row := by
      rintro ⟨htenant, hfails⟩
      have hfirst := hup 0 (by simp [trips, htenant])
      rw [Nat.add_zero, hfails] at hfirst
      cases hfirst
    have hrest := (trips_resolved subs hquery).2.2 hup
    have hsplit : hearers w.db (row :: subs) = (audience w.db row).length + hearers w.db subs := by
      simp [hearers]
    rw [hsplit, forall_lt_add]
    unfold outcomes
    generalize (tick cfg (some bus) now (.of row)).exec serve s w = o at hadd hends
    obtain ⟨r, s₁, w₁⟩ := o
    have henv : w₁.env = w.env := hadd.env
    have hdb : w₁.db = w.db := hadd.db
    cases hends with
    | unresolved hfails _ => exact absurd hfails hquery
    | cut _ hcut hresult _ _ =>
      have hnone : r.toOption = none := hresult
      simp [hnone, hcut]
    | through _ hthrough hresult haborted hdbCalls hbusCalls =>
      have hok : r = .ok (Tick.of cfg row) := hresult
      obtain ⟨hiff, hmap⟩ := ih (s := s₁) (w := w₁) (fun x hx => hpd x (List.mem_cons_of_mem _ hx))
        (hadd.tenant.trans ht) haborted (by rwa [henv, hdbCalls])
      rw [henv, hdb, hbusCalls] at hiff
      simp only [hok, Except.toOption, List.mem_cons, reduceCtorEq, false_or, List.map_cons, List.cons.injEq,
        true_and]
      refine ⟨?_, hmap⟩
      rw [hiff]
      simp only [Nat.add_assoc]
      exact ⟨fun h => ⟨hthrough, h⟩, fun h => h.2⟩

/-! ### What is to be counted -/

/-- The row is stored one schedule position further on. -/
def advancedIn (d : Db S) (row : Subscription) : Bool :=
  (d.subscriptions.get? row.id).any fun x => x.failedPaymentCount == row.failedPaymentCount + 1

/-- The row is stored as suspended. -/
def suspendedIn (d : Db S) (row : Subscription) : Bool :=
  (d.subscriptions.get? row.id).any fun x => x.status == .suspended

/-- What the end of its tick says of a row: it stands where it stood if the tick is counted as failed, and else it is
advanced or suspended. -/
def Stands (cfg : Settings) (now : Datetime) (d : Db S) (row : Subscription) (o : Option Tick) : Prop :=
  ∃ x ∈ d.subscriptions.rows, x.id = row.id ∧
    if o = none then standing x = standing row
    else standing x = (Move.remind now).apply cfg.policy (standing row) ∨
      standing x = Move.expire.apply cfg.policy (standing row)

instance (cfg : Settings) (now : Datetime) (d : Db S) (row : Subscription) (o : Option Tick) :
    Decidable (Stands cfg now d row o) := by
  unfold Stands
  infer_instance

/-- The counts of a sweep agree with what it has committed. -/
structure Reckoned (cfg : Settings) (now : Datetime) (b d : Db S) (os : List (Option Tick)) (st : SweepStats) : Prop where
  due : st.due = (dueRows b now).length
  total : st.due = st.reminded + st.suspended + st.failed
  rows : List.Forall₂ (Stands cfg now d) (dueRows b now) os
  reminded : st.reminded = (dueRows b now).countP (advancedIn d)
  suspended : st.suspended = (dueRows b now).countP (suspendedIn d)

/-- The ends of the ticks in a run of the task. -/
def sweepOutcomes (cfg : Settings) (db : Db S) (env : Env) : List (Option Tick) :=
  outcomes cfg (some {}) (env.clock 0) {} (World.start db env).ticked.queried (dueRows db (env.clock 0))

/-- A run of the task returns, and its counts agree with what it has committed. -/
def SweepReckoned (cfg : Settings) (db : Db S) (env : Env) : Prop :=
  ∃ st, (sweep cfg db env).result = .ok st ∧
    Reckoned cfg (env.clock 0) db (sweep cfg db env).world.db (sweepOutcomes cfg db env) st

/-- No publication to a recipient of a due row raises, no round trip to the database fails, and the schema admits the
suspensions, if there are any. -/
def SweepClear (cfg : Settings) (db : Db S) (env : Env) : Prop :=
  (∀ i < hearers db (dueRows db (env.clock 0)), env.busFails i = false) ∧
    (∀ n < trips (dueRows db (env.clock 0)) + 2, env.dbFails n = false) ∧
    ∀ x ∈ dueRows db (env.clock 0), cfg.dunningMaxAttempts ≤ x.failedPaymentCount → S.accepts .suspended = true

/-! ### The rows -/

section Rows

variable {P : Policy} {now : Datetime} {x : Standing}

/-- A tick moves a due row, whichever of the two it is. -/
lemma swept_ne (hd : x.due now = true) : x.swept P now ≠ x := by
  intro h
  by_cases hl : P.limit ≤ x.failures
  · rw [Standing.swept_limit hd hl] at h
    have hstatus := congrArg Standing.status h
    rw [Standing.due_pastDue hd] at hstatus
    cases hstatus
  · rw [Standing.swept_below hd (by omega)] at h
    have hfailures := congrArg Standing.failures h
    dsimp only at hfailures
    omega

lemma swept_of_due (hd : x.due now = true) : x.swept P now = (Move.remind now).apply P x ∧ x.failures < P.limit ∨
    x.swept P now = Move.expire.apply P x ∧ P.limit ≤ x.failures := by
  unfold Standing.swept Standing.tickMove
  rw [if_pos hd]
  by_cases hl : P.limit ≤ x.failures
  · exact .inr ⟨by rw [if_pos hl], hl⟩
  · exact .inl ⟨by rw [if_neg hl], by omega⟩

variable {b d : Db S} {row : Subscription}

/-- What is stored of a due row after a sweep. -/
lemma swept_stored (h : Swept cfg now b d) (hrow : row ∈ dueRows b now) :
    ∃ x, d.subscriptions.get? row.id = some x ∧ standing x = (standing row).swept cfg.policy now := by
  obtain ⟨x, hx, hid, hst, -⟩ := h row (List.mem_filter.1 hrow).1
  exact ⟨x, Store.Table.get?_eq_some.2 ⟨hx, hid⟩, hst⟩

/-- A row that took its tick does not stand where it stood. -/
lemma not_stands_none (h : Swept cfg now b d) (hrow : row ∈ dueRows b now) : ¬Stands cfg now d row none := by
  rintro ⟨x, hx, hid, hsame⟩
  obtain ⟨x', hx', hst⟩ := swept_stored h hrow
  have heq : x = x' := by
    have hget := Store.Table.get?_eq_some.2 ⟨hx, hid⟩
    exact Option.some.inj (hget.symm.trans hx')
  rw [if_pos rfl, heq, hst] at hsame
  exact swept_ne (isDue_of_mem hrow).2 hsame

lemma stands_some (h : Swept cfg now b d) (hrow : row ∈ dueRows b now) (kind : Tick) :
    Stands cfg now d row (some kind) := by
  obtain ⟨x, hx, hst⟩ := swept_stored h hrow
  obtain ⟨hmem, hid⟩ := Store.Table.get?_eq_some.1 hx
  refine ⟨x, hmem, hid, ?_⟩
  rw [if_neg (by simp), hst]
  exact (swept_of_due (isDue_of_mem hrow).2).imp And.left And.left

/-- What is stored of a row tells which of the two its tick was. -/
lemma kind_stored (h : Swept cfg now b d) (hrow : row ∈ dueRows b now) :
    (advancedIn d row = true ↔ Tick.of cfg row = .reminded) ∧
      (suspendedIn d row = true ↔ Tick.of cfg row = .suspended) := by
  obtain ⟨x, hx, hst⟩ := swept_stored h hrow
  have hdue := (isDue_of_mem hrow).2
  have hpd : row.status = .pastDue := status_of_mem_dueRows hrow
  unfold advancedIn suspendedIn Tick.of
  rw [hx]
  rcases swept_of_due (P := cfg.policy) hdue with ⟨hmove, hlimit⟩ | ⟨hmove, hlimit⟩
  · rw [hmove] at hst
    have hfailures : x.failedPaymentCount = row.failedPaymentCount + 1 := congrArg Standing.failures hst
    have hstatus : x.status = .pastDue := (congrArg Standing.status hst).trans hpd
    have hbelow : row.failedPaymentCount < cfg.dunningMaxAttempts := hlimit
    simp [hfailures, hstatus, hbelow]
  · rw [hmove] at hst
    have hfailures : x.failedPaymentCount = row.failedPaymentCount := congrArg Standing.failures hst
    have hstatus : x.status = .suspended := congrArg Standing.status hst
    have hreached : cfg.dunningMaxAttempts ≤ row.failedPaymentCount := hlimit
    simp [hfailures, hstatus, hreached]

end Rows

/-! ### The sweep -/

/-- What a loop without failed ticks returns, if all due rows took their tick. -/
lemma reckoned_of_swept {now : Datetime} {b d : Db S} (h : Swept cfg now b d) :
    Reckoned cfg now b d ((dueRows b now).map fun row => some (Tick.of cfg row))
      (((dueRows b now).map fun row => some (Tick.of cfg row)).foldl SweepStats.count
        ⟨(dueRows b now).length, 0, 0, 0⟩) := by
  -- each kind of tick is counted where it is stored
  have hcount : ∀ (kind : Tick) (stored : Subscription → Bool),
      (∀ row ∈ dueRows b now, (stored row = true ↔ Tick.of cfg row = kind)) →
      ((dueRows b now).map fun row => some (Tick.of cfg row)).count (some kind) = (dueRows b now).countP stored := by
    intro kind stored hstored
    rw [List.count, List.countP_map]
    refine List.countP_congr fun row hrow => ?_
    simp [hstored row hrow]
  have hnone : ((dueRows b now).map fun row => some (Tick.of cfg row)).count none = 0 := by
    simp [List.count_eq_zero]
  have hlength : ∀ rows : List Subscription, rows.length = (rows.map fun row => some (Tick.of cfg row)).count
      (some .reminded) + (rows.map fun row => some (Tick.of cfg row)).count (some .suspended) := by
    intro rows
    induction rows with
    | nil => rfl
    | cons row rows ih =>
      rw [List.length_cons, ih]
      cases hkind : Tick.of cfg row <;> simp [hkind] <;> omega
  rw [foldl_count, hnone]
  refine ⟨rfl, ?_, ?_, ?_, ?_⟩
  · simp [← hlength]
  · rw [List.forall₂_map_right_iff, List.forall₂_same]
    exact fun row hrow => stands_some h hrow _
  · dsimp only
    rw [Nat.zero_add]
    exact hcount _ _ fun row hrow => (kind_stored h hrow).1
  · dsimp only
    rw [Nat.zero_add]
    exact hcount _ _ fun row hrow => (kind_stored h hrow).2

/-- **The counts of a sweep agree with what it commits exactly if nothing raises**: a row whose publication raises is
counted as failed and committed as changed all the same. -/
theorem sweep_reckoned_iff (cfg : Settings) (db : Db S) (env : Env) : SweepReckoned cfg db env ↔ SweepClear cfg db env := by
  unfold SweepReckoned SweepClear
  cases hselect : env.dbFails 0 with
  | true =>
    rw [exec_sweep, hselect]
    refine iff_of_false (fun ⟨st, hst, _⟩ => nomatch hst) fun h => ?_
    rw [h.2.1 0 (by omega)] at hselect
    cases hselect
  | false =>
  obtain ⟨st, s', w', cs, events, hreached⟩ := sweep_reached cfg hselect
  have hpd : ∀ row ∈ dueRows db (env.clock 0), row.status = .pastDue := fun row h => status_of_mem_dueRows h
  have hst : st = (sweepOutcomes cfg db env).foldl SweepStats.count ⟨(dueRows db (env.clock 0)).length, 0, 0, 0⟩ :=
    Except.ok.inj (hreached.counts.symm.trans (result_processEach ..))
  -- the ticks fail exactly if publications raise
  have houtcomes : (∀ n < trips (dueRows db (env.clock 0)) + 2, env.dbFails n = false) →
      (none ∉ sweepOutcomes cfg db env ↔ ∀ i < hearers db (dueRows db (env.clock 0)), env.busFails i = false) ∧
      (none ∉ sweepOutcomes cfg db env →
        sweepOutcomes cfg db env = (dueRows db (env.clock 0)).map fun row => some (Tick.of cfg row)) := by
    intro hup
    obtain ⟨hiff, hmap⟩ := outcomes_iff (s := {}) (w := (World.start db env).ticked.queried) cfg {} (env.clock 0)
      (dueRows db (env.clock 0)) hpd rfl rfl fun n hn => hup (1 + n) (by omega)
    refine ⟨hiff.trans ?_, hmap⟩
    have hzero : ∀ i, (World.start db env).ticked.queried.busCalls + i = i := Nat.zero_add
    simp only [hzero]
    rfl
  rw [hreached.run]
  rcases finish_ok st s' w' with ⟨ids, d, ha, hf, hc, heq⟩ | ⟨hno, e, s'', w'', heq, -, -⟩
  · have hthrough := hreached.through.1 ⟨ha, hf, ids, d, hc⟩
    obtain ⟨hiff, hmap⟩ := houtcomes hthrough.1
    have hswept : Swept cfg (env.clock 0) db d := by
      rw [hreached.unwritten, hreached.pending] at hc
      exact swept_of_commit hreached.ticks hc
    rw [heq]
    refine Iff.trans ?_ (and_iff_left hthrough).symm
    rw [← hiff]
    constructor
    · rintro ⟨st', -, hreckoned⟩ hnone
      obtain ⟨row, hrow, hstands⟩ := (exists_of_forall₂ hreckoned.rows).2 none hnone
      exact not_stands_none hswept hrow hstands
    · intro hnone
      refine ⟨st, rfl, ?_⟩
      rw [hst, hmap hnone]
      exact reckoned_of_swept hswept
  · rw [heq]
    exact iff_of_false (fun ⟨st', hst', _⟩ => nomatch hst') fun h => hno (hreached.through.2 h.2)

/-- The first publication raises. -/
def Sample.deaf : Env := { Sample.env 1000 with busFails := fun n => n == 0 }

/-- The notification of the one recipient raises: the tick is counted as failed, and the row is stored one position
further on. -/
theorem sweep_not_reckoned : ¬SweepReckoned Sample.settings Sample.owed Sample.deaf := by
  rintro ⟨st, hst, hreckoned⟩
  have hstats : (sweep Sample.settings Sample.owed Sample.deaf).result.toOption = some ⟨1, 0, 0, 1⟩ := by
    decide +kernel
  have hstored : (dueRows Sample.owed (Sample.deaf.clock 0)).countP
      (advancedIn (sweep Sample.settings Sample.owed Sample.deaf).world.db) = 1 := by
    decide +kernel
  rw [hst] at hstats
  obtain rfl := Option.some.inj hstats
  have hreminded := hreckoned.reminded
  rw [hstored] at hreminded
  cases hreminded

end FastapiTemplate.Billing
