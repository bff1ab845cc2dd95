import FastapiTemplate.Billing.Lifecycle

/-!
# Dunning

`billing.services.dunning` and the Celery task that runs its sweep: the payment-failure schedule,
reminders, suspension and recovery.

Where the source changes a row object and passes it to `db.add`, the code here makes the new image of
the row and adds that; the images of a session outlive a raise, as the objects do.
-/

namespace FastapiTemplate.Billing

open Core Database Python Effects Script

variable {S : Schema}

/-- The settings of dunning, with the bounds their declarations put on them. -/
structure Settings where
  billingDunningEnabled : Bool
  dunningMaxAttempts : ℤ
  dunningBaseDelayMinutes : ℤ
  one_le_maxAttempts : 1 ≤ dunningMaxAttempts
  maxAttempts_le : dunningMaxAttempts ≤ 20
  one_le_baseDelay : 1 ≤ dunningBaseDelayMinutes

/-! ### The schedule -/

/-- `MAX_DELAY` -/
def maxDelay : Timedelta := days 7

/-- Exponential backoff for the schedule position `attempt`. -/
def backoffDelay (cfg : Settings) (attempt : ℤ) (baseMinutes : Option ℤ := none) : Timedelta :=
  let base := baseMinutes.getD cfg.dunningBaseDelayMinutes
  let cappedBase := min (base * 2 ^ (max 0 (attempt - 1)).toNat) (maxDelay / minutes 1)
  minutes cappedBase

def isDunning (sub : Subscription) : Bool :=
  decide (sub.failedPaymentCount > 0) || sub.status == .pastDue

/-- Whether something changed, and the row without dunning state. -/
def resetDunning (sub : Subscription) : Bool × Subscription :=
  if sub.failedPaymentCount = 0 ∧ sub.nextRetryAt = none then
    (false, { sub with lastPaymentFailureAt := none })
  else
    (true, { sub with failedPaymentCount := 0, lastPaymentFailureAt := none, nextRetryAt := none })

/-! ### Notifications -/

/-- The active users of a tenant, as the database has them. -/
def activeUsers (users : List User) (tenantId : ℤ) : List User :=
  users.filter fun u => u.tenantId == some tenantId && u.isActive

def resolveRecipients (tenantId : Option ℤ) : Py S (List ℤ) :=
  match tenantId with
  | none => return []
  | some t => do
    let rows ← select (fun d => d.users.rows) User.tenantId
      (fun u => u.tenantId == some t && u.isActive)
    return rows.map User.id

def dunningEvent (suffix : String) (sub : Subscription) (userId : Option ℤ) : Event where
  eventType := "billing.dunning." ++ suffix
  payload := .dict [
    ("subscription_id", .int sub.id),
    ("tenant_id", optInt sub.tenantId),
    ("plan_id", .int sub.planId),
    ("status", .str sub.status.value),
    ("failed_payment_count", .int sub.failedPaymentCount)]
  userId := userId

/-- The loop of `_publish_to_recipients`. -/
def publishEach (bus : EventBus) (suffix : String) (sub : Subscription) : List ℤ → Py S Unit
  | [] => return ()
  | uid :: uids => do
    bus.publish (dunningEvent suffix sub (some uid))
    publishEach bus suffix sub uids

/-- One event for each recipient; returns their number. -/
def publishToRecipients (bus : Option EventBus) (suffix : String) (sub : Subscription) : Py S ℕ :=
  match bus with
  | none => return 0
  | some bus => do
    let recipients ← resolveRecipients sub.tenantId
    publishEach bus suffix sub recipients
    return recipients.length

/-! ### Failure, suspension, recovery -/

/-- `when or datetime.now(UTC)` -/
def orNow : Option Datetime → Py S Datetime
  | some t => return t
  | none => datetimeNow

/-- The row one schedule position further on. -/
def advance (cfg : Settings) (now : Datetime) (sub : Subscription) : Subscription :=
  { sub with
    failedPaymentCount := sub.failedPaymentCount + 1
    nextRetryAt := some (now + backoffDelay cfg (sub.failedPaymentCount + 1)) }

def recordPaymentFailure (cfg : Settings) (bus : Option EventBus) (sub : Entity Subscription)
    (occurred : Option Datetime := none) : Py S (Entity Subscription) := do
  let now ← orNow occurred
  if sub.cur.status ≠ .pastDue then
    ofExcept (assertTransition sub.cur.status .pastDue)
  let sub := sub.set fun s =>
    { advance cfg now s with status := .pastDue, lastPaymentFailureAt := some now }
  add (.updateSubscription sub.loaded sub.cur)
  let _sent ← publishToRecipients bus "payment_failed" sub.cur
  return sub

def suspendSubscription (bus : Option EventBus) (sub : Entity Subscription) :
    Py S (Entity Subscription) := do
  if sub.cur.status ≠ .suspended then
    ofExcept (assertTransition sub.cur.status .suspended)
    let now ← datetimeNow
    let sub := sub.set fun s =>
      { s with status := .suspended, suspendedAt := some now, nextRetryAt := none }
    add (.updateSubscription sub.loaded sub.cur)
    let _sent ← publishToRecipients bus "suspended" sub.cur
    return sub
  else return sub

def recoverSubscription (bus : Option EventBus) (sub : Entity Subscription) :
    Py S (Entity Subscription) := do
  if sub.cur.status = .pastDue then ofExcept (assertTransition sub.cur.status .active)
  let sub := if sub.cur.status = .pastDue then sub.set fun s => { s with status := .active } else sub
  let hadDunning := (resetDunning sub.cur).1
  let sub := sub.set fun s => (resetDunning s).2
  if hadDunning || sub.cur.status == .active then
    add (.updateSubscription sub.loaded sub.cur)
    let _sent ← publishToRecipients bus "recovered" sub.cur
    return sub
  else return sub

/-! ### The sweep -/

/-- The counts a sweep returns. -/
structure SweepStats where
  due : ℕ
  reminded : ℕ
  suspended : ℕ
  failed : ℕ
  deriving DecidableEq

/-- What one tick came to; `none` is a raise. -/
inductive Tick where
  | reminded
  | suspended

def SweepStats.count (st : SweepStats) : Option Tick → SweepStats
  | some .reminded => { st with reminded := st.reminded + 1 }
  | some .suspended => { st with suspended := st.suspended + 1 }
  | none => { st with failed := st.failed + 1 }

/-- The sweep's `WHERE` clause. -/
def isDue (now : Datetime) (sub : Subscription) : Bool :=
  sub.status == .pastDue && match sub.nextRetryAt with
    | some t => decide (t ≤ now)
    | none => false

/-- The body of the sweep's `try`. -/
def tick (cfg : Settings) (bus : Option EventBus) (now : Datetime) (sub : Entity Subscription) :
    Py S Tick := do
  if sub.cur.failedPaymentCount ≥ cfg.dunningMaxAttempts then
    let _sub ← suspendSubscription bus sub
    return .suspended
  else
    let sub := sub.set (advance cfg now)
    add (.updateSubscription sub.loaded sub.cur)
    let _sent ← publishToRecipients bus "payment_reminder" sub.cur
    return .reminded

/-- The loop of the sweep: a tick that raises is counted, and its row stays in the session. -/
def processEach (cfg : Settings) (bus : Option EventBus) (now : Datetime) :
    SweepStats → List Subscription → Py S SweepStats
  | st, [] => return st
  | st, sub :: subs => do
    let outcome ← tryCatch (some <$> tick cfg bus now (.of sub)) fun _ => pure none
    processEach cfg bus now (st.count outcome) subs

def processDueRetries (cfg : Settings) (bus : Option EventBus) (now : Option Datetime := none)
    (limit : Option ℕ := none) : Py S SweepStats := do
  let now ← orNow now
  let rows ← select (fun d => d.subscriptions.rows) Subscription.tenantId (isDue now)
  let subs := match limit with
    | none => rows
    | some n => rows.take n
  processEach cfg bus now ⟨subs.length, 0, 0, 0⟩ subs

/-- `_process_dunning_async` -/
def processDunningAsync (cfg : Settings) : Py S SweepStats :=
  tryCatch
    (do
      let stats ← processDueRetries cfg (some {})
      let _keys ← commit
      return stats)
    fun e => do
      rollback
      throw e

/-- The task; `none` is the answer of a disabled sweep. -/
def processDunning (cfg : Settings) : Py S (Option SweepStats) :=
  if cfg.billingDunningEnabled then some <$> processDunningAsync cfg else return none

/-! ### Facts about the schedule -/

lemma minutes_mono {a b : ℤ} (h : a ≤ b) : minutes a ≤ minutes b := by
  have key : a * 60 * 1000000 ≤ b * 60 * 1000000 := by omega
  exact key

/-- The delay of a position in minutes, before the cap. -/
def uncapped (cfg : Settings) (n : ℤ) : ℤ :=
  cfg.dunningBaseDelayMinutes * 2 ^ (max 0 (n - 1)).toNat

lemma backoffDelay_eq (cfg : Settings) (n : ℤ) :
    backoffDelay cfg n = minutes (min (uncapped cfg n) 10080) := rfl

lemma uncapped_mono (cfg : Settings) {m n : ℤ} (h : m ≤ n) : uncapped cfg m ≤ uncapped cfg n := by
  have hb := cfg.one_le_baseDelay
  have hpow : (2 : ℤ) ^ (max 0 (m - 1)).toNat ≤ 2 ^ (max 0 (n - 1)).toNat :=
    pow_le_pow_right₀ (by norm_num) (by omega)
  exact mul_le_mul_of_nonneg_left hpow (by omega)

/-- **The delays do not decrease along the schedule.** -/
theorem backoffDelay_mono (cfg : Settings) {m n : ℤ} (h : m ≤ n) :
    backoffDelay cfg m ≤ backoffDelay cfg n := by
  rw [backoffDelay_eq, backoffDelay_eq]
  exact minutes_mono (min_le_min_right _ (uncapped_mono cfg h))

/-- No delay is longer than `MAX_DELAY`. -/
theorem backoffDelay_le (cfg : Settings) (n : ℤ) : backoffDelay cfg n ≤ maxDelay := by
  rw [backoffDelay_eq]
  exact minutes_mono (min_le_right _ _)

example (cfg : Settings) : backoffDelay cfg 3 (some 60) = minutes 240 := rfl

/-- After a reset no dunning state is left, whether or not there was any. -/
theorem resetDunning_clear (sub : Subscription) :
    (resetDunning sub).2.failedPaymentCount = 0 ∧ (resetDunning sub).2.nextRetryAt = none := by
  unfold resetDunning
  split
  · rename_i h; exact h
  · exact ⟨rfl, rfl⟩

theorem resetDunning_status (sub : Subscription) : (resetDunning sub).2.status = sub.status := by
  unfold resetDunning
  split <;> rfl

theorem resetDunning_id (sub : Subscription) : (resetDunning sub).2.id = sub.id := by
  unfold resetDunning
  split <;> rfl

end FastapiTemplate.Billing
