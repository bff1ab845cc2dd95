import FastapiTemplate.Core.Signing
import FastapiTemplate.Effects.Pool
import FastapiTemplate.Notifications.Models

/-!
# Delivering webhooks

The Celery task `deliver_webhook`: it reads the delivery record and the webhook in one transaction, makes the HTTP
call, and overwrites the record in another one. A transaction of the ORM writes the columns that the code has changed
since it read the rows; PostgreSQL takes no text with a NUL character.

`clock` is what the clock shows, one reading after another, `answers` what the endpoints answer, one POST after
another. `posts` only records the POSTs that were made, the latest first.
-/

namespace FastapiTemplate.Notifications

open Effects Python Store Script

/-! ### Settings -/

/-- The settings of the webhooks, with their defaults. -/
structure WebhookSettings where
  enabled : Bool := true
  maxRetries : ℕ := 5
  backoffBaseSeconds : ℚ := 60
  backoffMaxSeconds : ℚ := 3600
  base_nonneg : 0 ≤ backoffBaseSeconds := by decide
  max_nonneg : 0 ≤ backoffMaxSeconds := by decide

/-- HMAC and `json.dumps`. -/
structure WebhookLibraries where
  mac : Core.Hmac
  jsonDumps : Value → String

/-- `int(q)` -/
def truncate (q : ℚ) : ℤ := if 0 ≤ q then ⌊q⌋ else ⌈q⌉

def computeBackoff (cfg : WebhookSettings) (attempt : ℕ) : ℤ :=
  truncate (min (cfg.backoffBaseSeconds * 2 ^ ((attempt : ℤ) - 1)) cfg.backoffMaxSeconds)

/-! ### Events -/

structure Event where
  eventType : String
  payload : List (String × Value) := []
  id : String
  timestamp : String
  userId : Option ℤ := none

def buildDeliveryPayload (event : Event) (deliveryId : ℤ) (attempt : ℕ) : Value :=
  .dict
    [("id", .str event.id), ("event_type", .str event.eventType), ("timestamp", .str event.timestamp),
      ("data", .dict event.payload), ("delivery_id", .int deliveryId), ("attempt", .int attempt)]

/-! ### Rows -/

/-- `UPDATE` of a delivery: the columns that were changed are written. -/
def WebhookDelivery.update (loaded cur stored : WebhookDelivery) : WebhookDelivery :=
  { stored with
    attempt := column loaded.attempt cur.attempt stored.attempt
    status := column loaded.status cur.status stored.status
    error := column loaded.error cur.error stored.error
    responseStatus := column loaded.responseStatus cur.responseStatus stored.responseStatus
    responseBody := column loaded.responseBody cur.responseBody stored.responseBody
    nextRetryAt := column loaded.nextRetryAt cur.nextRetryAt stored.nextRetryAt
    deliveredAt := column loaded.deliveredAt cur.deliveredAt stored.deliveredAt }

/-- `UPDATE` of a webhook. -/
def Webhook.update (loaded cur stored : Webhook) : Webhook :=
  { stored with
    lastDeliveryAt := column loaded.lastDeliveryAt cur.lastDeliveryAt stored.lastDeliveryAt
    lastStatus := column loaded.lastStatus cur.lastStatus stored.lastStatus
    failureCount := column loaded.failureCount cur.failureCount stored.failureCount }

/-- PostgreSQL can store the text. -/
def storable (text : String) : Bool := !text.toList.contains (Char.ofNat 0)

/-- The texts of the outcome can be stored. -/
def WebhookDelivery.storable (delivery : WebhookDelivery) : Bool :=
  delivery.error.all Notifications.storable && delivery.responseBody.all Notifications.storable

/-! ### The world of the task -/

/-- A response with its status and text, or the text of an `httpx.HTTPError`. -/
inductive PostAnswer where
  | response (statusCode : ℕ) (text : String)
  | httpError (text : String)

/-- A POST, and the delivery it is made for. -/
structure Post where
  deliveryId : ℤ
  url : String
  headers : List (String × String)
  body : String

structure World where
  deliveries : Table WebhookDelivery := Table.empty
  webhooks : Table Webhook := Table.empty
  clock : ℕ → Datetime
  clockReads : ℕ := 0
  answers : ℕ → PostAnswer
  posts : List Post := []

/-- What the task may raise; `retry` is the `Retry` of Celery, `exhausted` the exception that `self.retry` raises
once there were too many retries. -/
inductive TaskExn where
  | builtin (e : BuiltinError)
  | dataError
  | staleData
  | retry (countdown : ℤ)
  | exhausted (text : String)
  deriving DecidableEq

/-- Reading and writing are transactions; others change whether a webhook is active. -/
inductive Eff where
  | load (deliveryId : ℤ)
  | now
  | post (request : Post)
  | save (loaded cur : WebhookDelivery × Webhook)
  | setActive (webhookId : ℤ) (isActive : Bool)

abbrev Reply : Eff → Type
  | .load _ => Option (WebhookDelivery × Webhook)
  | .now => Datetime
  | .post _ => PostAnswer
  | .save _ _ => Except TaskExn Unit
  | .setActive _ _ => Unit

/-- `get_delivery_with_webhook` -/
def World.getDeliveryWithWebhook (w : World) (deliveryId : ℤ) : Option (WebhookDelivery × Webhook) := do
  let delivery ← w.deliveries.get? deliveryId
  let webhook ← w.webhooks.get? delivery.webhookId
  return (delivery, webhook)

/-- `db.commit()` of the two rows. -/
def World.save (w : World) (loaded cur : WebhookDelivery × Webhook) : Except TaskExn Unit × World :=
  match w.deliveries.get? cur.1.id, w.webhooks.get? cur.2.id with
  | some delivery, some webhook =>
    if cur.1.storable then
      (.ok (),
        { w with
          deliveries := w.deliveries.put (WebhookDelivery.update loaded.1 cur.1 delivery)
          webhooks := w.webhooks.put (Webhook.update loaded.2 cur.2 webhook) })
    else (.error .dataError, w)
  | _, _ => (.error .staleData, w)

def World.setActive (w : World) (webhookId : ℤ) (isActive : Bool) : World :=
  match w.webhooks.get? webhookId with
  | some webhook => { w with webhooks := w.webhooks.put { webhook with isActive := isActive } }
  | none => w

/-- How the world answers. -/
def serve : Handler Eff Reply World
  | .load deliveryId, w => (w.getDeliveryWithWebhook deliveryId, w)
  | .now, w => (w.clock w.clockReads, { w with clockReads := w.clockReads + 1 })
  | .post request, w => (w.answers w.posts.length, { w with posts := request :: w.posts })
  | .save loaded cur, w => w.save loaded cur
  | .setActive webhookId isActive, w => ((), w.setActive webhookId isActive)

/-! ### The task -/

/-- Code of the worker. -/
abbrev Task (α : Type) : Type := Script Eff Reply Unit TaskExn α

/-- A built-in that may raise. -/
def liftBuiltin {α : Type} : Except BuiltinError α → Except TaskExn α
  | .ok a => .ok a
  | .error e => .error (.builtin e)

/-- `datetime.now(UTC)` -/
def datetimeNow : Task Datetime := perform Eff.now

/-- The outcome of an attempt. -/
structure DeliveryOutcome where
  status : DeliveryStatus
  error : Option String := none
  responseStatus : Option ℕ := none
  responseBody : Option String := none
  nextRetryAt : Option Datetime := none

/-- The delivery with the outcome. -/
def WebhookDelivery.recorded (delivery : WebhookDelivery) (attempt : ℕ) (outcome : DeliveryOutcome)
    (now : Datetime) : WebhookDelivery :=
  { delivery with
    attempt := attempt
    status := outcome.status
    error := outcome.error
    responseStatus := outcome.responseStatus
    responseBody := outcome.responseBody
    nextRetryAt := outcome.nextRetryAt
    deliveredAt := if outcome.status = .delivered then some now else none }

/-- The webhook with the status of the outcome. -/
def Webhook.recorded (webhook : Webhook) (status : DeliveryStatus) (now : Datetime) : Webhook :=
  { webhook with
    lastDeliveryAt := some now
    lastStatus := some status
    failureCount :=
      match status with
      | .delivered => 0
      | .failed => webhook.failureCount + 1
      | _ => webhook.failureCount }

/-- `_record_delivery_outcome` -/
def recordDeliveryOutcome (deliveryId : ℤ) (attempt : ℕ) (outcome : DeliveryOutcome) : Task Unit := do
  let pair : Option (WebhookDelivery × Webhook) ← perform (Eff.load deliveryId)
  match pair with
  | none => return ()
  | some (delivery, webhook) =>
    let now ← datetimeNow
    let saved : Except TaskExn Unit ← perform (Eff.save (delivery, webhook)
      (delivery.recorded attempt outcome now, webhook.recorded outcome.status now))
    ofExcept saved

/-- What `_perform_delivery` returns. -/
inductive Performed where
  | delivered
  | failed
  | retry
  deriving DecidableEq

variable (cfg : WebhookSettings) (lib : WebhookLibraries)

/-- The two branches for an attempt that failed. -/
def recordFailure (delivery : WebhookDelivery) (attempt : ℕ) (error : String) (responseStatus : Option ℕ)
    (responseBody : Option String) : Task Performed := do
  let willRetry := decide (attempt < delivery.maxAttempts)
  let nextRetryAt ←
    if willRetry then do
      let now ← datetimeNow
      let nextRetryAt ← ofExcept (liftBuiltin (addChecked now (computeBackoff cfg attempt * second)))
      pure (some nextRetryAt)
    else pure none
  recordDeliveryOutcome delivery.id attempt
    { status := if willRetry then .retrying else .failed, error := some error, responseStatus := responseStatus,
      responseBody := responseBody, nextRetryAt := nextRetryAt }
  return if willRetry then .retry else .failed

/-- `response.text[:1000]` -/
def bodyOf (text : String) : String := String.ofList (text.toList.take 1000)

/-- The POST of an attempt, signed at a timestamp. -/
def buildPost (delivery : WebhookDelivery) (webhook : Webhook) (timestamp : ℤ) : Except BuiltinError Post := do
  let attempt := delivery.attempt + 1
  let event : Event :=
    { eventType := delivery.eventType, payload := delivery.payload, id := delivery.eventId,
      timestamp := isoformat delivery.createdAt }
  let body := lib.jsonDumps (buildDeliveryPayload event delivery.id attempt)
  let signature ← Core.buildSignatureHeader lib.mac body.toUTF8 webhook.secret timestamp
  let headers :=
    [("Content-Type", "application/json"), ("User-Agent", "async-fastapi-template-webhook/1.0"),
      ("X-Webhook-Signature", signature), ("X-Webhook-Event", delivery.eventType),
      ("X-Webhook-Id", delivery.eventId), ("X-Webhook-Delivery", toString delivery.id),
      ("X-Webhook-Attempt", toString attempt)]
  return { deliveryId := delivery.id, url := webhook.url, headers := headers, body := body }

/-- `_perform_delivery` -/
def performDelivery (delivery : WebhookDelivery) (webhook : Webhook) : Task Performed := do
  let attempt := delivery.attempt + 1
  let now ← datetimeNow
  let request ← ofExcept (liftBuiltin (buildPost lib delivery webhook (now / second)))
  let answer : PostAnswer ← perform (Eff.post request)
  match answer with
  | .httpError text => recordFailure cfg delivery attempt text none none
  | .response statusCode text =>
    if 200 ≤ statusCode ∧ statusCode < 300 then
      recordDeliveryOutcome delivery.id attempt
        { status := .delivered, responseStatus := some statusCode, responseBody := some (bodyOf text) }
      return .delivered
    else
      recordFailure cfg delivery attempt ("HTTP " ++ toString (statusCode : ℤ)) (some statusCode) (some (bodyOf text))

/-- What the task returns. -/
inductive TaskResult where
  | notFound
  | alreadyDelivered
  | webhookDisabled
  | delivered
  | failed
  deriving DecidableEq

/-- `self.retry`, after so many retries. -/
def celeryRetry {α : Type} (retries : ℕ) (text : String) (countdown : ℤ) (maxRetries : ℕ) : Task α :=
  if maxRetries < retries + 1 then throw (.exhausted text) else throw (.retry countdown)

/-- What the task does with what `_perform_delivery` returns. -/
def conclude (retries : ℕ) (deliveryId : ℤ) (delivery : WebhookDelivery) : Performed → Task TaskResult
  | .retry =>
    celeryRetry retries ("webhook delivery " ++ toString deliveryId ++ " failed")
      (computeBackoff cfg (delivery.attempt + 1)) cfg.maxRetries
  | .delivered => return .delivered
  | .failed => return .failed

def deliverWebhook (retries : ℕ) (deliveryId : ℤ) : Task TaskResult := do
  let pair : Option (WebhookDelivery × Webhook) ← perform (Eff.load deliveryId)
  match pair with
  | none => return .notFound
  | some (delivery, webhook) =>
    if delivery.status = .delivered then return .alreadyDelivered
    else if !webhook.isActive then
      recordDeliveryOutcome delivery.id delivery.attempt { status := .failed, error := some "webhook disabled" }
      return .webhookDisabled
    else
      let outcome ← performDelivery cfg lib delivery webhook
      conclude cfg retries deliveryId delivery outcome

end FastapiTemplate.Notifications
