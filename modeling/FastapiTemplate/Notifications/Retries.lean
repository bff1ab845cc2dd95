import FastapiTemplate.Notifications.Delivery
import Mathlib.Algebra.Order.Field.Power

/-!
# The retry schedule

One delivery, executed by a chain of Celery retries. Two counters bound the chain, `attempt` of the record and the
retries of Celery, and the delay is computed twice, for the record and for Celery. `retry_schedule_iff` says when a
chain keeps to the schedule: always, unless an outcome cannot be recorded.
-/

namespace FastapiTemplate.Notifications

open Effects Python Store Script Keyed

variable {cfg : WebhookSettings} {lib : WebhookLibraries} {w w' : World} {deliveryId : ℤ}
  {delivery delivery' : WebhookDelivery} {webhook webhook' : Webhook}

/-! ### The delay -/

/-- **Delays** grow with the attempts. -/
theorem computeBackoff_mono (i : ℕ) : computeBackoff cfg i ≤ computeBackoff cfg (i + 1) := by
  have hpow : (2 : ℚ) ^ ((i : ℤ) - 1) ≤ 2 ^ (((i + 1 : ℕ) : ℤ) - 1) := by
    apply zpow_le_zpow_right₀ (by norm_num)
    push_cast
    omega
  have hseconds := mul_le_mul_of_nonneg_left hpow cfg.base_nonneg
  have hnonneg : ∀ n : ℤ, 0 ≤ min (cfg.backoffBaseSeconds * 2 ^ n) cfg.backoffMaxSeconds := fun n =>
    le_min (mul_nonneg cfg.base_nonneg (zpow_nonneg (by norm_num) _)) cfg.max_nonneg
  unfold computeBackoff truncate
  rw [if_pos (hnonneg _), if_pos (hnonneg _)]
  exact Int.floor_le_floor (min_le_min_right _ hseconds)

/-- **Delays** stay below the cap. -/
theorem computeBackoff_le (i : ℕ) : (computeBackoff cfg i : ℚ) ≤ cfg.backoffMaxSeconds := by
  have hnonneg : 0 ≤ min (cfg.backoffBaseSeconds * 2 ^ ((i : ℤ) - 1)) cfg.backoffMaxSeconds :=
    le_min (mul_nonneg cfg.base_nonneg (zpow_nonneg (by norm_num) _)) cfg.max_nonneg
  unfold computeBackoff truncate
  rw [if_pos hnonneg]
  exact (Int.floor_le _).trans (min_le_right _ _)

/-! ### Reading and writing the two rows -/

@[simp] lemma exec_datetimeNow :
    datetimeNow.exec serve () w = ⟨.ok (w.clock w.clockReads), (), { w with clockReads := w.clockReads + 1 }⟩ := rfl

lemma getDeliveryWithWebhook_eq_some :
    w.getDeliveryWithWebhook deliveryId = some (delivery, webhook) ↔
      w.deliveries.get? deliveryId = some delivery ∧ w.webhooks.get? delivery.webhookId = some webhook := by
  unfold World.getDeliveryWithWebhook
  cases hdelivery : w.deliveries.get? deliveryId with
  | none => simp
  | some d =>
    cases hwebhook : w.webhooks.get? d.webhookId with
    | none =>
      simp only [bind, Option.bind, hwebhook]
      constructor
      · intro h
        cases h
      · rintro ⟨h, hnone⟩
        obtain rfl := Option.some.inj h
        rw [hwebhook] at hnone
        cases hnone
    | some wh =>
      simp only [bind, Option.bind, hwebhook, pure, Option.some.injEq, Prod.mk.injEq]
      constructor
      · rintro ⟨rfl, rfl⟩
        exact ⟨rfl, hwebhook⟩
      · rintro ⟨rfl, h⟩
        exact ⟨rfl, Option.some.inj (hwebhook.symm.trans h)⟩

/-- The world with the two rows written. -/
def World.write (w : World) (delivery : WebhookDelivery) (webhook : Webhook) : World :=
  { w with deliveries := w.deliveries.put delivery, webhooks := w.webhooks.put webhook }

/-- What was written is read. -/
lemma getDeliveryWithWebhook_write (h : w.getDeliveryWithWebhook deliveryId = some (delivery, webhook))
    (hid : delivery'.id = delivery.id) (hof : delivery'.webhookId = delivery.webhookId)
    (hwebhook : webhook'.id = webhook.id) :
    (w.write delivery' webhook').getDeliveryWithWebhook deliveryId = some (delivery', webhook') := by
  obtain ⟨hd, hw⟩ := getDeliveryWithWebhook_eq_some.1 h
  have hdid : deliveryId = key delivery' := (Table.get?_eq_some.1 hd).2.symm.trans hid.symm
  have hwid : delivery'.webhookId = key webhook' := by
    rw [hof]
    exact (Table.get?_eq_some.1 hw).2.symm.trans hwebhook.symm
  refine getDeliveryWithWebhook_eq_some.2 ⟨?_, ?_⟩
  · rw [hdid] at hd ⊢
    exact Table.get?_put_self hd
  · rw [← hof, hwid] at hw
    rw [hwid]
    exact Table.get?_put_self hw

lemma WebhookDelivery.update_recorded (attempt : ℕ) (outcome : DeliveryOutcome) (now : Datetime) :
    WebhookDelivery.update delivery (delivery.recorded attempt outcome now) delivery =
      delivery.recorded attempt outcome now := by
  simp [WebhookDelivery.update, WebhookDelivery.recorded]

lemma Webhook.update_recorded (status : DeliveryStatus) (now : Datetime) :
    Webhook.update webhook (webhook.recorded status now) webhook = webhook.recorded status now := by
  simp [Webhook.update, Webhook.recorded]

/-- The texts of the outcome can be stored. -/
def DeliveryOutcome.storable (outcome : DeliveryOutcome) : Bool :=
  outcome.error.all Notifications.storable && outcome.responseBody.all Notifications.storable

/-- **Recording an outcome.** -/
theorem exec_recordDeliveryOutcome (h : w.getDeliveryWithWebhook deliveryId = some (delivery, webhook)) (attempt : ℕ)
    (outcome : DeliveryOutcome) :
    (recordDeliveryOutcome deliveryId attempt outcome).exec serve () w =
      if outcome.storable then
        ⟨.ok (), (), { w with clockReads := w.clockReads + 1 }.write
          (delivery.recorded attempt outcome (w.clock w.clockReads))
          (webhook.recorded outcome.status (w.clock w.clockReads))⟩
      else ⟨.error .dataError, (), { w with clockReads := w.clockReads + 1 }⟩ := by
  obtain ⟨hd, hw⟩ := getDeliveryWithWebhook_eq_some.1 h
  have hd' : w.deliveries.get? delivery.id = some delivery := by
    rw [show delivery.id = deliveryId from (Table.get?_eq_some.1 hd).2]
    exact hd
  have hw' : w.webhooks.get? webhook.id = some webhook := by
    rw [show webhook.id = delivery.webhookId from (Table.get?_eq_some.1 hw).2]
    exact hw
  have hsave : ∀ now, ({ w with clockReads := w.clockReads + 1 } : World).save (delivery, webhook)
      (delivery.recorded attempt outcome now, webhook.recorded outcome.status now) =
      if outcome.storable then
        (.ok (), { w with clockReads := w.clockReads + 1 }.write (delivery.recorded attempt outcome now)
          (webhook.recorded outcome.status now))
      else (.error .dataError, { w with clockReads := w.clockReads + 1 }) := by
    intro now
    have hid : (delivery.recorded attempt outcome now).id = delivery.id := rfl
    have hwid : (webhook.recorded outcome.status now).id = webhook.id := rfl
    have hstorable : (delivery.recorded attempt outcome now).storable = outcome.storable := rfl
    unfold World.save
    rw [hid, hwid, hd', hw', hstorable]
    dsimp only
    rw [WebhookDelivery.update_recorded, Webhook.update_recorded]
    rfl
  unfold recordDeliveryOutcome
  simp only [exec_bind, exec_perform, Outcome.next_ok, serve, h, exec_datetimeNow, exec_ofExcept, hsave]
  split <;> rfl

/-! ### One execution -/

/-- The answer to the next POST. -/
def World.answer (w : World) : PostAnswer := w.answers w.posts.length

/-- A response from 200 to 299. -/
def PostAnswer.success : PostAnswer → Bool
  | .response statusCode _ => decide (200 ≤ statusCode ∧ statusCode < 300)
  | .httpError _ => false

/-- What is kept of the answer can be stored. -/
def PostAnswer.storable : PostAnswer → Bool
  | .response _ text => Notifications.storable (bodyOf text)
  | .httpError text => Notifications.storable text

/-- The outcome of the next attempt can be recorded: what is kept of the answer can be stored, and the date of the
next attempt, if there is to be one, is before the year 10000. -/
def World.Recordable (cfg : WebhookSettings) (w : World) (delivery : WebhookDelivery) : Prop :=
  w.answer.storable = true ∧ (w.answer.success = false → delivery.attempt + 1 < delivery.maxAttempts →
    w.clock (w.clockReads + 1) + computeBackoff cfg (delivery.attempt + 1) * second ≤ datetimeMax)

lemma buildPost_ok (lib : WebhookLibraries) (delivery : WebhookDelivery) (webhook : Webhook) (timestamp : ℤ) :
    ∃ request, buildPost lib delivery webhook timestamp = .ok request ∧ request.deliveryId = delivery.id := by
  unfold buildPost Core.buildSignatureHeader Core.signPayload
  simp only [decode_toUTF8]
  exact ⟨_, rfl, rfl⟩

/-- What an execution that makes its POST comes to, given the rows that it reads. -/
inductive Executed (cfg : WebhookSettings) (deliveryId : ℤ) (retries : ℕ) (w : World) (delivery : WebhookDelivery)
    (webhook : Webhook) : Except TaskExn TaskResult → World → Prop where
  | delivered {w' : World} {delivery' : WebhookDelivery} {webhook' : Webhook} (hanswer : w.answer.success = true)
      (hrows : w'.getDeliveryWithWebhook deliveryId = some (delivery', webhook'))
      (hattempt : delivery'.attempt = delivery.attempt + 1) (hstatus : delivery'.status = .delivered)
      (hcount : webhook'.failureCount = 0) (hrecordable : w.Recordable cfg delivery) :
      Executed cfg deliveryId retries w delivery webhook (.ok .delivered) w'
  | failed {w' : World} {delivery' : WebhookDelivery} {webhook' : Webhook} (hanswer : w.answer.success = false)
      (hlast : delivery.maxAttempts ≤ delivery.attempt + 1)
      (hrows : w'.getDeliveryWithWebhook deliveryId = some (delivery', webhook'))
      (hattempt : delivery'.attempt = delivery.attempt + 1) (hstatus : delivery'.status = .failed)
      (hcount : webhook'.failureCount = webhook.failureCount + 1) (hrecordable : w.Recordable cfg delivery) :
      Executed cfg deliveryId retries w delivery webhook (.ok .failed) w'
  | retried {w' : World} {webhook' : Webhook} {r : Except TaskExn TaskResult} {outcome : DeliveryOutcome}
      {now : Datetime} (hanswer : w.answer.success = false)
      (hmore : delivery.attempt + 1 < delivery.maxAttempts) (hresult : r = .error
        (if cfg.maxRetries < retries + 1 then .exhausted ("webhook delivery " ++ toString deliveryId ++ " failed")
          else .retry (computeBackoff cfg (delivery.attempt + 1))))
      (hrows : w'.getDeliveryWithWebhook deliveryId =
        some (delivery.recorded (delivery.attempt + 1) outcome now, webhook'))
      (hstatus : outcome.status = .retrying)
      (hnext : outcome.nextRetryAt =
        some (w.clock (w.clockReads + 1) + computeBackoff cfg (delivery.attempt + 1) * second))
      (hactive : webhook'.isActive = webhook.isActive) (hcount : webhook'.failureCount = webhook.failureCount)
      (hrecordable : w.Recordable cfg delivery) :
      Executed cfg deliveryId retries w delivery webhook r w'
  | raised {w' : World} {e : TaskExn} (hnone : ∀ countdown, e ≠ .retry countdown)
      (hrecordable : ¬w.Recordable cfg delivery) : Executed cfg deliveryId retries w delivery webhook (.error e) w'

lemma storable_http (n : ℤ) : storable ("HTTP " ++ toString n) = true := by
  unfold storable
  rw [Bool.not_eq_true', ← Bool.not_eq_true, List.contains_iff_mem, String.toList_append, List.mem_append]
  rintro (h | h)
  · exact absurd h (by decide)
  · rcases isDigit_of_mem_toString h with h | h
    · exact absurd h (by decide)
    · exact absurd h (by decide)

lemma exec_celeryRetry {α : Type} (retries : ℕ) (text : String) (countdown : ℤ) (maxRetries : ℕ) :
    (celeryRetry retries text countdown maxRetries : Task α).exec serve () w =
      ⟨.error (if maxRetries < retries + 1 then .exhausted text else .retry countdown), (), w⟩ := by
  unfold celeryRetry
  split <;> rfl

/-- A failed attempt, once the POST is made. -/
lemma executed_failure {w₁ : World} {retries : ℕ} {error : String} {responseStatus : Option ℕ}
    {responseBody : Option String}
    (h : w₁.getDeliveryWithWebhook deliveryId = some (delivery, webhook)) (hclock : w₁.clock = w.clock)
    (hreads : w₁.clockReads = w.clockReads + 1) (hanswer : w.answer.success = false)
    (hstorable : (storable error && responseBody.all storable) = w.answer.storable) :
    Executed cfg deliveryId retries w delivery webhook
      ((recordFailure cfg delivery (delivery.attempt + 1) error responseStatus responseBody >>=
        conclude cfg retries deliveryId delivery).exec serve () w₁).result
      ((recordFailure cfg delivery (delivery.attempt + 1) error responseStatus responseBody >>=
        conclude cfg retries deliveryId delivery).exec serve () w₁).world := by
  have hid : delivery.id = deliveryId := (Table.get?_eq_some.1 (getDeliveryWithWebhook_eq_some.1 h).1).2
  have houtcome : ∀ status nextRetryAt,
      (DeliveryOutcome.mk status (some error) responseStatus responseBody nextRetryAt).storable = w.answer.storable :=
    fun _ _ => hstorable
  unfold recordFailure
  rw [hid]
  by_cases hmore : delivery.attempt + 1 < delivery.maxAttempts
  · have hload : ({ w₁ with clockReads := w.clockReads + 1 + 1, clock := w.clock } : World).getDeliveryWithWebhook
        deliveryId = some (delivery, webhook) := h
    simp only [hmore, decide_true, if_true, exec_bind, exec_datetimeNow, Outcome.next_ok, exec_ofExcept, hclock, hreads]
    unfold addChecked
    by_cases hdate : w.clock (w.clockReads + 1) + computeBackoff cfg (delivery.attempt + 1) * second ≤ datetimeMax
    · rw [if_pos hdate]
      simp only [liftBuiltin, exec_pure, Outcome.next_ok, exec_recordDeliveryOutcome hload, houtcome]
      cases hanswers : w.answer.storable with
      | true =>
        simp only [if_true, Outcome.next_ok, conclude, exec_celeryRetry]
        exact .retried hanswer hmore rfl (getDeliveryWithWebhook_write hload rfl rfl rfl) rfl rfl rfl rfl
          ⟨hanswers, fun _ _ => hdate⟩
      | false =>
        simp only [Bool.false_eq_true, if_false, Outcome.next_error]
        exact .raised (by simp) fun hrecordable => absurd hrecordable.1 (by simp [hanswers])
    · rw [if_neg hdate]
      simp only [liftBuiltin, Outcome.next_error]
      exact .raised (by simp) fun hrecordable => hdate (hrecordable.2 hanswer hmore)
  · simp only [hmore, decide_false, Bool.false_eq_true, if_false, exec_bind, exec_pure, Outcome.next_ok,
      exec_recordDeliveryOutcome h, houtcome]
    cases hanswers : w.answer.storable with
    | true =>
      simp only [if_true, Outcome.next_ok]
      exact .failed hanswer (not_lt.1 hmore) (getDeliveryWithWebhook_write h rfl rfl rfl) rfl rfl rfl
        ⟨hanswers, fun _ hless => absurd hless hmore⟩
    | false =>
      simp only [Bool.false_eq_true, if_false, Outcome.next_error]
      exact .raised (by simp) fun hrecordable => absurd hrecordable.1 (by simp [hanswers])

/-- **An execution** of a record that is not delivered, for an active webhook. -/
theorem executed (lib : WebhookLibraries) (retries : ℕ) (h : w.getDeliveryWithWebhook deliveryId = some (delivery, webhook))
    (hpending : delivery.status ≠ .delivered) (hactive : webhook.isActive = true) :
    Executed cfg deliveryId retries w delivery webhook
      ((deliverWebhook cfg lib retries deliveryId).exec serve () w).result
      ((deliverWebhook cfg lib retries deliveryId).exec serve () w).world := by
  have hid : delivery.id = deliveryId := (Table.get?_eq_some.1 (getDeliveryWithWebhook_eq_some.1 h).1).2
  obtain ⟨request, hrequest, -⟩ := buildPost_ok lib delivery webhook (w.clock w.clockReads / second)
  have hload : ({ w with clockReads := w.clockReads + 1, posts := request :: w.posts } : World).getDeliveryWithWebhook
      deliveryId = some (delivery, webhook) := h
  unfold deliverWebhook performDelivery
  simp only [exec_bind, exec_perform, serve, Outcome.next_ok, h, if_neg hpending, hactive, Bool.not_true,
    Bool.false_eq_true, if_false, exec_datetimeNow, exec_ofExcept, hrequest, liftBuiltin]
  cases hanswer : w.answers w.posts.length with
  | httpError text =>
    have hfailure : w.answer.success = false := by simp [World.answer, hanswer, PostAnswer.success]
    have hstorable : (storable text && (none : Option String).all storable) = w.answer.storable := by
      simp [World.answer, hanswer, PostAnswer.storable]
    simpa only [exec_bind] using executed_failure (w := w) hload rfl rfl hfailure hstorable
  | response statusCode text =>
    have hsuccess : w.answer.success = decide (200 ≤ statusCode ∧ statusCode < 300) := by
      simp only [World.answer, hanswer, PostAnswer.success]
    have hstorable : w.answer.storable = storable (bodyOf text) := by
      simp only [World.answer, hanswer, PostAnswer.storable]
    by_cases hcode : 200 ≤ statusCode ∧ statusCode < 300
    · have houtcome : ∀ status, (DeliveryOutcome.mk status none (some statusCode) (some (bodyOf text)) none).storable =
          w.answer.storable := fun _ => by simp [DeliveryOutcome.storable, hstorable]
      have hanswered : w.answer.success = true := by rw [hsuccess, decide_eq_true hcode]
      simp only [if_pos hcode, hid, exec_bind, exec_recordDeliveryOutcome hload, houtcome]
      cases hanswers : w.answer.storable with
      | true =>
        simp only [if_true, Outcome.next_ok, exec_pure]
        exact .delivered hanswered (getDeliveryWithWebhook_write hload rfl rfl rfl) rfl rfl rfl
          ⟨hanswers, fun hfailure => absurd (hanswered.symm.trans hfailure) (by simp)⟩
      | false =>
        simp only [Bool.false_eq_true, if_false, Outcome.next_error]
        exact .raised (by simp) fun hrecordable => absurd hrecordable.1 (by simp [hanswers])
    · have hfailure : w.answer.success = false := by rw [hsuccess, decide_eq_false hcode]
      have hkept : (storable ("HTTP " ++ toString (statusCode : ℤ)) && (some (bodyOf text)).all storable) =
          w.answer.storable := by
        rw [storable_http, hstorable]
        rfl
      simpa only [exec_bind, if_neg hcode] using executed_failure (w := w) hload rfl rfl hfailure hkept

/-! ### A chain of retries -/

/-- An execution of the task, with the worlds before and after it. -/
structure Execution where
  before : World
  result : Except TaskExn TaskResult
  after : World

/-- Celery has scheduled another execution. -/
def retryScheduled : Except TaskExn TaskResult → Bool
  | .error (.retry _) => true
  | _ => false

/-- The executions of a chain, each with the number of retries before it; `meanwhile` is what happens between two of
them. -/
def chain (cfg : WebhookSettings) (lib : WebhookLibraries) (meanwhile : ℕ → World → World) (deliveryId : ℤ) :
    ℕ → ℕ → World → List Execution
  | 0, _, _ => []
  | fuel + 1, retries, w =>
    let outcome := (deliverWebhook cfg lib retries deliveryId).exec serve () w
    { before := w, result := outcome.result, after := outcome.world } ::
      if retryScheduled outcome.result then
        chain cfg lib meanwhile deliveryId fuel (retries + 1) (meanwhile retries outcome.world)
      else []

/-- The record is not touched, and its webhook stays active. -/
def KeepsDelivery (deliveryId : ℤ) (meanwhile : ℕ → World → World) : Prop :=
  ∀ retries w delivery webhook, w.getDeliveryWithWebhook deliveryId = some (delivery, webhook) →
    webhook.isActive = true → ∃ webhook',
      (meanwhile retries w).getDeliveryWithWebhook deliveryId = some (delivery, webhook') ∧ webhook'.isActive = true

namespace Execution

variable (cfg : WebhookSettings) (deliveryId : ℤ) (i : ℕ) (e : Execution)

/-- The outcome of the execution can be recorded. -/
def Recordable : Prop :=
  ∀ delivery webhook, e.before.getDeliveryWithWebhook deliveryId = some (delivery, webhook) →
    e.before.Recordable cfg delivery

/-- Attempt `i` failed, and the next one is due after its delay, for Celery as well as in the record. -/
structure Retries : Prop where
  answer : e.before.answer.success = false
  more : i ≤ cfg.maxRetries
  result : e.result = .error (.retry (computeBackoff cfg i))
  rows : ∃ before after delivery', e.before.getDeliveryWithWebhook deliveryId = some before ∧
    e.after.getDeliveryWithWebhook deliveryId = some (delivery', after) ∧ delivery'.attempt = i ∧
    delivery'.status = .retrying ∧ delivery'.nextRetryAt =
      some (e.before.clock (e.before.clockReads + 1) + computeBackoff cfg i * second) ∧
    after.failureCount = before.2.failureCount
  grows : computeBackoff cfg i ≤ computeBackoff cfg (i + 1)
  capped : (computeBackoff cfg i : ℚ) ≤ cfg.backoffMaxSeconds

/-- Attempt `i` was the last: it succeeded, or it failed and there are no more. -/
structure Ends : Prop where
  attempts : i ≤ cfg.maxRetries + 1
  rows : ∃ before after delivery', e.before.getDeliveryWithWebhook deliveryId = some before ∧
    e.after.getDeliveryWithWebhook deliveryId = some (delivery', after) ∧ delivery'.attempt = i ∧
    if e.before.answer.success then
      e.result = .ok .delivered ∧ delivery'.status = .delivered ∧ after.failureCount = 0
    else
      e.result = .ok .failed ∧ i = cfg.maxRetries + 1 ∧ delivery'.status = .failed ∧
        after.failureCount = before.2.failureCount + 1

end Execution

/-- The executions are the attempts from `i` on: each but the last one retries. -/
def OnSchedule (cfg : WebhookSettings) (deliveryId : ℤ) : ℕ → List Execution → Prop
  | _, [] => False
  | i, e :: es =>
    e.Ends cfg deliveryId i ∧ es = [] ∨ e.Retries cfg deliveryId i ∧ OnSchedule cfg deliveryId (i + 1) es

/-- So many attempts of the delivery have failed, and more are to come. -/
structure Due (cfg : WebhookSettings) (deliveryId : ℤ) (attempts : ℕ) (w : World) (delivery : WebhookDelivery)
    (webhook : Webhook) : Prop where
  rows : w.getDeliveryWithWebhook deliveryId = some (delivery, webhook)
  attempt : delivery.attempt = attempts
  maxAttempts : delivery.maxAttempts = cfg.maxRetries + 1
  status : delivery.status ≠ .delivered
  active : webhook.isActive = true
  more : attempts ≤ cfg.maxRetries

variable {retries : ℕ} {result : Except TaskExn TaskResult} {e : Execution} {i : ℕ}

lemma Execution.Ends.result_ok (h : e.Ends cfg deliveryId i) : ∃ result, e.result = .ok result := by
  obtain ⟨_, _, _, _, _, _, hends⟩ := h.rows
  split at hends
  · exact ⟨_, hends.1⟩
  · exact ⟨_, hends.1⟩

/-- The last execution. -/
lemma ends_of_delivered (h : Due cfg deliveryId retries w delivery webhook) (hanswer : w.answer.success = true)
    (hrows : w'.getDeliveryWithWebhook deliveryId = some (delivery', webhook'))
    (hattempt : delivery'.attempt = delivery.attempt + 1) (hstatus : delivery'.status = .delivered)
    (hcount : webhook'.failureCount = 0) :
    (Execution.mk w (.ok .delivered) w').Ends cfg deliveryId (retries + 1) := by
  have hattempts : delivery'.attempt = retries + 1 := by rw [hattempt, h.attempt]
  refine ⟨Nat.succ_le_succ h.more, _, _, _, h.rows, hrows, hattempts, ?_⟩
  rw [if_pos hanswer]
  exact ⟨rfl, hstatus, hcount⟩

lemma ends_of_failed (h : Due cfg deliveryId retries w delivery webhook) (hanswer : w.answer.success = false)
    (hlast : delivery.maxAttempts ≤ delivery.attempt + 1)
    (hrows : w'.getDeliveryWithWebhook deliveryId = some (delivery', webhook'))
    (hattempt : delivery'.attempt = delivery.attempt + 1) (hstatus : delivery'.status = .failed)
    (hcount : webhook'.failureCount = webhook.failureCount + 1) :
    (Execution.mk w (.ok .failed) w').Ends cfg deliveryId (retries + 1) := by
  have hattempts : delivery'.attempt = retries + 1 := by rw [hattempt, h.attempt]
  have hmax : retries + 1 = cfg.maxRetries + 1 := by
    rw [h.maxAttempts, h.attempt] at hlast
    have hmore := h.more
    omega
  refine ⟨hmax.le, _, _, _, h.rows, hrows, hattempts, ?_⟩
  rw [if_neg (by rw [hanswer]; exact Bool.false_ne_true)]
  exact ⟨rfl, hmax, hstatus, hcount⟩

/-- What is to be expected of an execution of a delivery that is due. -/
inductive Proceeds (cfg : WebhookSettings) (deliveryId : ℤ) (retries : ℕ) (e : Execution) : Prop where
  | ends (hrecordable : e.Recordable cfg deliveryId) (hends : e.Ends cfg deliveryId (retries + 1))
  | retries {delivery : WebhookDelivery} {webhook : Webhook} (hrecordable : e.Recordable cfg deliveryId)
      (hretries : e.Retries cfg deliveryId (retries + 1))
      (hdue : Due cfg deliveryId (retries + 1) e.after delivery webhook)
  | raises (hrecordable : ¬e.Recordable cfg deliveryId) {exn : TaskExn} (hresult : e.result = .error exn)
      (hnone : ∀ countdown, exn ≠ .retry countdown)

/-- **One step** of the chain. -/
theorem proceeds (h : Due cfg deliveryId retries w delivery webhook)
    (hexecuted : Executed cfg deliveryId retries w delivery webhook result w') :
    Proceeds cfg deliveryId retries ⟨w, result, w'⟩ := by
  have hiff : (Execution.mk w result w').Recordable cfg deliveryId ↔ w.Recordable cfg delivery := by
    constructor
    · intro hall
      exact hall _ _ h.rows
    · intro hrecordable d wh hrows
      obtain ⟨rfl, -⟩ := Prod.mk.inj (Option.some.inj (h.rows.symm.trans hrows))
      exact hrecordable
  cases hexecuted with
  | delivered hanswer hrows hattempt hstatus hcount hrecordable =>
    exact .ends (hiff.2 hrecordable) (ends_of_delivered h hanswer hrows hattempt hstatus hcount)
  | failed hanswer hlast hrows hattempt hstatus hcount hrecordable =>
    exact .ends (hiff.2 hrecordable) (ends_of_failed h hanswer hlast hrows hattempt hstatus hcount)
  | retried hanswer hmore hresult hrows hstatus hnext hactive hcount hrecordable =>
    have hattempt := h.attempt
    rw [h.maxAttempts, hattempt] at hmore
    rw [hattempt, if_neg (by omega)] at hresult
    rw [hattempt] at hrows hnext
    refine .retries (hiff.2 hrecordable) ?_ ⟨hrows, rfl, h.maxAttempts, ?_, hactive.trans h.active, by omega⟩
    · exact ⟨hanswer, by omega, hresult, ⟨_, _, _, h.rows, hrows, rfl, hstatus, hnext, hcount⟩, computeBackoff_mono _,
        computeBackoff_le _⟩
    · intro hdelivered
      exact absurd (hstatus.symm.trans hdelivered) (by decide)
  | raised hnone hrecordable => exact .raises (fun hall => hrecordable (hiff.1 hall)) rfl hnone

/-- **A whole chain**, from any attempt on. -/
theorem onSchedule_iff {meanwhile : ℕ → World → World} (hkeeps : KeepsDelivery deliveryId meanwhile) (fuel : ℕ)
    (hdue : Due cfg deliveryId retries w delivery webhook) (hfuel : cfg.maxRetries < retries + fuel) :
    OnSchedule cfg deliveryId (retries + 1) (chain cfg lib meanwhile deliveryId fuel retries w) ↔
      ∀ e ∈ chain cfg lib meanwhile deliveryId fuel retries w, e.Recordable cfg deliveryId := by
  induction fuel generalizing retries w delivery webhook with
  | zero =>
    have hmore := hdue.more
    omega
  | succ fuel ih =>
    have hstep := proceeds hdue (executed lib retries hdue.rows hdue.status hdue.active)
    unfold chain
    generalize (deliverWebhook cfg lib retries deliveryId).exec serve () w = outcome at hstep
    obtain ⟨result, u, after⟩ := outcome
    dsimp only at hstep ⊢
    cases hstep with
    | ends hrecordable hends =>
      obtain ⟨r, rfl⟩ := hends.result_ok
      simp only [retryScheduled, Bool.false_eq_true, if_false, List.mem_singleton, forall_eq]
      exact ⟨fun _ => hrecordable, fun _ => .inl ⟨hends, rfl⟩⟩
    | retries hrecordable hretries hdue' =>
      obtain rfl : result = .error (.retry (computeBackoff cfg (retries + 1))) := hretries.result
      obtain ⟨wh, hrows, hactive⟩ := hkeeps retries after _ _ hdue'.rows hdue'.active
      have hnext := ih ⟨hrows, hdue'.attempt, hdue'.maxAttempts, hdue'.status, hactive, hdue'.more⟩ (by omega)
      simp only [retryScheduled, if_true, List.mem_cons, forall_eq_or_imp]
      constructor
      · rintro (⟨hends, -⟩ | ⟨-, hschedule⟩)
        · obtain ⟨r, hr⟩ := hends.result_ok
          cases hr
        · exact ⟨hrecordable, hnext.1 hschedule⟩
      · rintro ⟨-, hall⟩
        exact .inr ⟨hretries, hnext.2 hall⟩
    | raises hrecordable hresult hnone =>
      constructor
      · rintro (⟨hends, -⟩ | ⟨hretries, -⟩)
        · obtain ⟨r, hr⟩ := hends.result_ok
          exact absurd (hresult.symm.trans hr) (by simp)
        · exact absurd (Except.error.inj (hresult.symm.trans hretries.result)) (hnone _)
      · intro hall
        exact absurd (hall _ List.mem_cons_self) hrecordable

/-- A record as `handle_event` creates it. -/
structure Created (cfg : WebhookSettings) (delivery : WebhookDelivery) : Prop where
  attempt : delivery.attempt = 0
  status : delivery.status = .pending
  maxAttempts : delivery.maxAttempts = cfg.maxRetries + 1

/-- **The retry schedule.** A chain keeps to it exactly if the outcomes of its executions can be recorded. -/
theorem retry_schedule_iff (cfg : WebhookSettings) (lib : WebhookLibraries) (w : World) (deliveryId : ℤ)
    (delivery : WebhookDelivery) (webhook : Webhook)
    (hrows : w.getDeliveryWithWebhook deliveryId = some (delivery, webhook)) (hcreated : Created cfg delivery)
    (hactive : webhook.isActive = true) (meanwhile : ℕ → World → World) (hkeeps : KeepsDelivery deliveryId meanwhile)
    (fuel : ℕ) (hfuel : cfg.maxRetries < fuel) :
    OnSchedule cfg deliveryId 1 (chain cfg lib meanwhile deliveryId fuel 0 w) ↔
      ∀ e ∈ chain cfg lib meanwhile deliveryId fuel 0 w, e.Recordable cfg deliveryId := by
  have hpending : delivery.status ≠ .delivered := by
    rw [hcreated.status]
    decide
  have hdue : Due cfg deliveryId 0 w delivery webhook :=
    ⟨hrows, hcreated.attempt, hcreated.maxAttempts, hpending, hactive, Nat.zero_le _⟩
  exact onSchedule_iff hkeeps fuel hdue (by omega)

/-! ### An answer that cannot be stored -/

namespace Sample

/-- What is sent at the first attempt. -/
def pingBody : String :=
  "\x7b\"id\":\"evt_1\",\"event_type\":\"ping\",\"timestamp\":\"1970-01-01T00:00:00+00:00\",\"data\":\x7b\x7d," ++
    "\"delivery_id\":1,\"attempt\":1\x7d"

/-- HMAC with the digest of that body, signed at second 1000 with the secret `s`. -/
def libraries : WebhookLibraries where
  mac :=
    { hexdigest := fun _ _ => "7b2e116e483e89c44221df702c714be69349f5262cf08ca6cbefe88a5b48c82f"
      hex := fun _ _ => Core.mem_hexDigits_of_all (by decide +kernel)
      length := fun _ _ => by decide +kernel }
  jsonDumps _ := pingBody

def hook : Webhook := { name := "hook", url := "https://example.com", secret := "s" }

def ping : WebhookDelivery := { webhookId := 1, eventId := "evt_1", eventType := "ping", payload := [], maxAttempts := 6 }

/-- Delivery 1 of webhook 1 has just been created; the endpoint always answers the same. -/
def created (answer : PostAnswer) : World where
  deliveries := Table.empty.insert ping
  webhooks := Table.empty.insert hook
  clock _ := 1000 * second
  answers _ := answer

end Sample

open Sample in
/-- The endpoint takes the delivery, and answers 200 with a NUL: the task fails with a `DataError`, and the record
stays pending. -/
theorem retry_schedule_missed :
    ¬OnSchedule {} 1 1 (chain {} libraries (fun _ w => w) 1 6 0 (created (.response 200 "ok\x00"))) ∧
      (chain {} libraries (fun _ w => w) 1 6 0 (created (.response 200 "ok\x00"))).map (fun e =>
        (e.result, e.after.posts.length, e.after.deliveries.rows.map WebhookDelivery.status)) =
          [(.error .dataError, 1, [.pending])] := by
  constructor
  · intro hschedule
    have hdue : Due {} 1 0 (created (.response 200 "ok\x00")) { ping with id := 1 } { hook with id := 1 } :=
      ⟨rfl, rfl, rfl, by decide, rfl, Nat.zero_le _⟩
    have hrecordable := (onSchedule_iff (fun _ _ _ webhook h hactive => ⟨webhook, h, hactive⟩) 6 hdue (by decide)).1
      hschedule _ List.mem_cons_self
    exact absurd (hrecordable _ _ rfl).1 (by decide +kernel)
  · decide +kernel

open Sample in
/-- Delivery 1 at an endpoint that always answers 500. -/
theorem retry_schedule_ping :
    OnSchedule {} 1 1 (chain {} libraries (fun _ w => w) 1 6 0 (created (.response 500 "down"))) ↔
      ∀ e ∈ chain {} libraries (fun _ w => w) 1 6 0 (created (.response 500 "down")), e.Recordable {} 1 :=
  retry_schedule_iff {} libraries _ 1 _ _ rfl ⟨rfl, rfl, rfl⟩ rfl _ (fun _ _ _ webhook h hactive => ⟨webhook, h, hactive⟩)
    6 (by decide)

end FastapiTemplate.Notifications
