import FastapiTemplate.Billing.Storable

/-!
# The schedule terminates

Any number of runs of the dunning task, at any times, with nothing else writing the row. The database
follows `Standing.sweptAll` (`sweeps_standing`), so the results about one standing in `Schedule` are
results about the stored row; `dunning_terminates` puts them together.
-/

namespace FastapiTemplate.Billing

open Core Database Python Effects Store

variable {S : Schema} {cfg : Settings}

/-- Runs of the task one after another. -/
def sweeps (cfg : Settings) : Db S → List Env → Db S
  | db, [] => db
  | db, env :: envs => sweeps cfg (sweep cfg db env).world.db envs

/-- Every run returns: its commit went through. -/
def Succeed (cfg : Settings) : Db S → List Env → Prop
  | _, [] => True
  | db, env :: envs =>
    (∃ st, (sweep cfg db env).result = .ok st) ∧ Succeed cfg (sweep cfg db env).world.db envs

/-- How many of the runs find the row due. -/
def dueSweeps (cfg : Settings) (id : ℤ) : Db S → List Env → ℕ
  | _, [] => 0
  | db, env :: envs =>
    (if (dueRows db (env.clock 0)).any (fun x => x.id == id) then 1 else 0) +
      dueSweeps cfg id (sweep cfg db env).world.db envs

/-- From the time of each run that finds the row due to the next retry it stores. -/
def storedDelays (cfg : Settings) (id : ℤ) : Db S → List Env → List Timedelta
  | _, [] => []
  | db, env :: envs =>
    let after := (sweep cfg db env).world.db
    (if (dueRows db (env.clock 0)).any (fun x => x.id == id) then
      (((after.subscriptions.get? id).bind Subscription.nextRetryAt).map
        fun t => t - env.clock 0).toList
    else []) ++ storedDelays cfg id after envs

/-- The times of the runs. -/
def times (envs : List Env) : List Datetime := envs.map fun env => env.clock 0

/-! ### From the database to the standing -/

lemma any_due {db : Db S} {now : Datetime} {x : Subscription} (hx : x ∈ db.subscriptions.rows) :
    (dueRows db now).any (fun y => y.id == x.id) = (standing x).due now := by
  rw [Bool.eq_iff_iff, List.any_eq_true]
  constructor
  · rintro ⟨y, hy, hid⟩
    obtain ⟨hmem, hdue⟩ := isDue_of_mem hy
    rw [db.subscriptions.key_injOn hx hmem (by simpa using Eq.symm (eq_of_beq hid))]
    exact hdue
  · intro hdue
    exact ⟨x, List.mem_filter.2 ⟨hx, hdue⟩, by simp⟩

/-- One run that returns is one step of every standing. -/
lemma sweep_row {db : Db S} {env : Env} (h : ∃ st, (sweep cfg db env).result = .ok st)
    {x : Subscription} (hx : x ∈ db.subscriptions.rows) :
    ∃ x' ∈ (sweep cfg db env).world.db.subscriptions.rows, x'.id = x.id ∧
      standing x' = (standing x).swept cfg.policy (env.clock 0) ∧
      (isDue (env.clock 0) x = false → x' = x) := by
  obtain ⟨st, hst⟩ := h
  exact sweep_swept hst x hx

/-- **The stored row follows the standing.** -/
theorem sweeps_standing {db : Db S} {envs : List Env} (h : Succeed cfg db envs) {x : Subscription}
    (hx : x ∈ db.subscriptions.rows) :
    (∃ x' ∈ (sweeps cfg db envs).subscriptions.rows, x'.id = x.id ∧
      standing x' = (standing x).sweptAll cfg.policy (times envs)) ∧
    dueSweeps cfg x.id db envs = (standing x).dueTicks cfg.policy (times envs) ∧
    storedDelays cfg x.id db envs = (standing x).delays cfg.policy (times envs) := by
  induction envs generalizing db x with
  | nil => exact ⟨⟨x, hx, rfl, rfl⟩, rfl, rfl⟩
  | cons env envs ih =>
    obtain ⟨x', hx', hid, hst, -⟩ := sweep_row h.1 hx
    obtain ⟨⟨y, hy, hyid, hyst⟩, hcount, hdelays⟩ := ih h.2 hx'
    rw [hid] at hcount hdelays hyid
    rw [hst] at hcount hdelays hyst
    refine ⟨⟨y, hy, hyid, hyst⟩, ?_, ?_⟩
    · show (if _ then 1 else 0) + _ = (if _ then 1 else 0) + _
      rw [any_due hx, hcount]
      rfl
    · have hget : (sweep cfg db env).world.db.subscriptions.get? x.id = some x' := by
        rw [← hid]
        exact Table.get?_key hx'
      have hnext : x'.nextRetryAt = ((standing x).swept cfg.policy (env.clock 0)).nextRetry :=
        congrArg Standing.nextRetry hst
      have hstored : storedDelays cfg x.id db (env :: envs) =
          (if (standing x).due (env.clock 0) then
            ((((standing x).swept cfg.policy (env.clock 0)).nextRetry).map
              fun t => t - env.clock 0).toList else []) ++
          Standing.delays cfg.policy (times envs) ((standing x).swept cfg.policy (env.clock 0)) := by
        simp only [storedDelays, any_due hx, hget, Option.bind_some, hnext, hdelays]
      rw [hstored]
      show _ = Standing.delays cfg.policy (env.clock 0 :: times envs) (standing x)
      cases hd : (standing x).due (env.clock 0) with
      | false =>
        rw [Standing.delays_of_not_due _ hd]
        rfl
      | true =>
        by_cases hl : cfg.policy.limit ≤ (standing x).failures
        · rw [Standing.delays_limit _ hl, Standing.swept_limit hd hl]
          rfl
        · rw [Standing.delays_below _ hd (not_le.1 hl), Standing.swept_below hd (not_le.1 hl)]
          simp

/-- The runs up to some point succeed, and the next one does. -/
lemma Succeed.split {db : Db S} {before after : List Env} {env : Env}
    (h : Succeed cfg db (before ++ env :: after)) :
    Succeed cfg db before ∧ ∃ st, (sweep cfg (sweeps cfg db before) env).result = .ok st := by
  induction before generalizing db with
  | nil => exact ⟨trivial, h.1⟩
  | cons e before ih =>
    obtain ⟨hb, hst⟩ := ih h.2
    exact ⟨⟨h.1, hb⟩, hst⟩

lemma sweeps_snoc (db : Db S) (before : List Env) (env : Env) :
    sweeps cfg db (before ++ [env]) = (sweep cfg (sweeps cfg db before) env).world.db := by
  induction before generalizing db with
  | nil => rfl
  | cons e before ih => exact ih _

/-- Without faults of the database, and with `suspended` storable, every run returns. -/
theorem succeed_of_up (cfg : Settings) (hS : S.accepts .suspended = true) {db : Db S} {envs : List Env}
    (hup : ∀ env ∈ envs, ∀ n, env.dbFails n = false) : Succeed cfg db envs := by
  induction envs generalizing db with
  | nil => trivial
  | cons env envs ih =>
    refine ⟨sweep_returns (hup env List.mem_cons_self) fun _ _ _ => hS, ih fun e he => ?_⟩
    exact hup e (List.mem_cons_of_mem _ he)

lemma policy_mono (cfg : Settings) (m n : ℤ) (h : m ≤ n) : cfg.policy.delay m ≤ cfg.policy.delay n :=
  backoffDelay_mono cfg h

/-! ### The result -/

/-- **The dunning schedule terminates.** Over any runs of the task that return, a row past due with
count `k` is suspended by the run that finds it due for the `max 0 (limit - k) + 1`-st time, and before
that it is past due with the count raised by one each time. A run that finds it due below the limit
sets its next retry to a delay later; the delays do not decrease and are at most `MAX_DELAY`. A run
that comes before the next retry leaves the row unchanged. -/
theorem dunning_terminates {db : Db S} {envs : List Env} (h : Succeed cfg db envs) {x : Subscription}
    (hx : x ∈ db.subscriptions.rows) (hpd : x.status = .pastDue) :
    let n := dueSweeps cfg x.id db envs
    let m := (max 0 (cfg.dunningMaxAttempts - x.failedPaymentCount)).toNat
    n ≤ m + 1 ∧
    (∃ x' ∈ (sweeps cfg db envs).subscriptions.rows, x'.id = x.id ∧
      (n ≤ m → x'.status = .pastDue ∧ x'.failedPaymentCount = x.failedPaymentCount + n) ∧
      (n = m + 1 → x'.status = .suspended)) ∧
    (∀ before env after, envs = before ++ env :: after →
      ∀ y ∈ (sweeps cfg db before).subscriptions.rows, y.id = x.id →
        ∃ y' ∈ (sweeps cfg db (before ++ [env])).subscriptions.rows, y'.id = x.id ∧
          (isDue (env.clock 0) y = false → y' = y) ∧
          (isDue (env.clock 0) y = true → y.failedPaymentCount < cfg.dunningMaxAttempts →
            y'.failedPaymentCount = y.failedPaymentCount + 1 ∧
            ∃ d ≤ maxDelay, y'.nextRetryAt = some (env.clock 0 + d))) ∧
    (storedDelays cfg x.id db envs).Pairwise (· ≤ ·) ∧
    ∀ d ∈ storedDelays cfg x.id db envs, d ≤ maxDelay := by
  intro n m
  obtain ⟨⟨x', hx', hid, hst⟩, hcount, hdelays⟩ := sweeps_standing h hx
  obtain ⟨hle, hbelow, htop⟩ := Standing.ticks_of_pastDue (P := cfg.policy) (x := standing x)
    (times envs) hpd
  have hm : (standing x).left cfg.policy = m := by
    show (cfg.dunningMaxAttempts - x.failedPaymentCount).toNat = _
    omega
  rw [hm, ← hcount] at hle hbelow htop
  refine ⟨hle, ⟨x', hx', hid, fun hn => ?_, fun hn => ?_⟩, ?_, ?_, ?_⟩
  · obtain ⟨hstatus, hfail⟩ := hbelow hn
    rw [← hst] at hstatus hfail
    exact ⟨hstatus, hfail⟩
  · have hstatus := htop hn
    rw [← hst] at hstatus
    exact hstatus
  · rintro before env after rfl y hy hyid
    obtain ⟨y', hy', hyid', hyst, hsame⟩ := sweep_row h.split.2 hy
    rw [sweeps_snoc]
    refine ⟨y', hy', hyid'.trans hyid, hsame, fun hdue hl => ?_⟩
    have hstep := Standing.swept_below (P := cfg.policy) (x := standing y) hdue hl
    rw [← hyst] at hstep
    exact ⟨congrArg Standing.failures hstep, backoffDelay cfg (y.failedPaymentCount + 1),
      backoffDelay_le cfg _, congrArg Standing.nextRetry hstep⟩
  · rw [hdelays]
    exact Standing.delays_sorted (policy_mono cfg) _ _
  · rw [hdelays]
    exact Standing.delays_le (backoffDelay_le cfg) _ _

/-- Runs of the theorem: one too early, two below the limit, one at it. -/
theorem dunning_terminates_suspended :
    ∃ x' ∈ (sweeps Sample.settings (Sample.db (Sample.row .pastDue 2 (some 500)) (by decide))
        ([100, 1000, 10 ^ 11, 10 ^ 13].map Sample.env)).subscriptions.rows,
      x'.id = 1 ∧ x'.status = .suspended := by
  have hup : ∀ env ∈ [100, 1000, 10 ^ 11, 10 ^ 13].map Sample.env, ∀ n, env.dbFails n = false := by
    intro env henv n
    obtain ⟨t, -, rfl⟩ := List.mem_map.1 henv
    rfl
  have hrow : { Sample.row .pastDue 2 (some 500) with id := 1 }
      ∈ (Sample.db (Sample.row .pastDue 2 (some 500)) (by decide)).subscriptions.rows := by decide
  obtain ⟨-, ⟨x', hx', hid, -, htop⟩, -⟩ :=
    dunning_terminates (succeed_of_up Sample.settings rfl hup) hrow rfl
  exact ⟨x', hx', hid, htop (by decide +kernel)⟩

end FastapiTemplate.Billing
