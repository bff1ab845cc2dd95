import FastapiTemplate.Python.Time
import FastapiTemplate.Python.Value
import FastapiTemplate.Store.Crud

/-!
# Webhooks, deliveries, notifications, preferences

The rows of the notifications context, with the columns that the modelled functions read, write or return.
-/

namespace FastapiTemplate.Notifications

open Python Store

/-- `pending | retrying | delivered | failed` -/
inductive DeliveryStatus where
  | pending
  | retrying
  | delivered
  | failed
  deriving DecidableEq, Repr

/-- A row of `webhooks`; no event types subscribe to all events. -/
structure Webhook where
  id : ℤ := 0
  tenantId : Option ℤ := none
  name : String
  url : String
  secret : String
  eventTypes : Option (List String) := none
  isActive : Bool := true
  lastDeliveryAt : Option Datetime := none
  lastStatus : Option DeliveryStatus := none
  failureCount : ℕ := 0
  deletedAt : Option Datetime := none
  deriving DecidableEq

/-- A row of `webhook_deliveries`. -/
structure WebhookDelivery where
  id : ℤ := 0
  tenantId : Option ℤ := none
  webhookId : ℤ
  eventId : String
  eventType : String
  payload : List (String × Value)
  attempt : ℕ := 0
  maxAttempts : ℕ
  status : DeliveryStatus := .pending
  responseStatus : Option ℕ := none
  responseBody : Option String := none
  error : Option String := none
  nextRetryAt : Option Datetime := none
  deliveredAt : Option Datetime := none
  createdAt : Datetime := 0

/-- A row of `notifications`. -/
structure Notification where
  id : ℤ := 0
  userId : ℤ
  eventType : String
  title : String
  body : Option String := none
  isRead : Bool := false
  readAt : Option Datetime := none
  deletedAt : Option Datetime := none
  deriving DecidableEq

/-- A row of `notification_preferences`; its user is unique. -/
structure NotificationPreference where
  id : ℤ := 0
  userId : ℤ
  emailEnabled : Bool := true
  inAppEnabled : Bool := true
  webhookEnabled : Bool := true
  deriving DecidableEq

instance : SoftDeletes Webhook where
  key := Webhook.id
  withKey k r := { r with id := k }
  key_withKey _ _ := rfl
  deletedAt := Webhook.deletedAt
  withDeletedAt d r := { r with deletedAt := d }
  key_withDeletedAt _ _ := rfl
  deletedAt_withDeletedAt _ _ := rfl

instance : Keyed WebhookDelivery where
  key := WebhookDelivery.id
  withKey k r := { r with id := k }
  key_withKey _ _ := rfl

instance : SoftDeletes Notification where
  key := Notification.id
  withKey k r := { r with id := k }
  key_withKey _ _ := rfl
  deletedAt := Notification.deletedAt
  withDeletedAt d r := { r with deletedAt := d }
  key_withDeletedAt _ _ := rfl
  deletedAt_withDeletedAt _ _ := rfl

instance : Keyed NotificationPreference where
  key := NotificationPreference.id
  withKey k r := { r with id := k }
  key_withKey _ _ := rfl

end FastapiTemplate.Notifications
