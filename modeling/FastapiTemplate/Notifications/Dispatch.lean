import FastapiTemplate.Effects.Calls
import FastapiTemplate.Identity.Models
import FastapiTemplate.Notifications.Redelivery

/-!
# Dispatching events

The consumer loop of the event bus passes every event to `handle_event`, which creates a delivery for each webhook
that is subscribed to its type, and enqueues it. The loop is a task of its own, where no tenant is set: the engine
shows it all webhooks. `Item` is what happens between the events.
-/

namespace FastapiTemplate.Notifications

open Effects Python Store Script Keyed

/-! ### Preferences -/

inductive Channel where
  | email
  | inApp
  | webhook

def channelEnabledForPreference (pref : NotificationPreference) : Channel → Bool
  | .email => pref.emailEnabled
  | .inApp => pref.inAppEnabled
  | .webhook => pref.webhookEnabled

def channelEnabled (preferences : Table NotificationPreference) (userId : ℤ) (channel : Channel) : Bool :=
  match preferences.rows.find? fun pref => pref.userId == userId with
  | none => true
  | some pref => channelEnabledForPreference pref channel

/-! ### The dispatcher -/

/-- What the dispatcher and the tasks share; `queue` has the deliveries whose task was enqueued, the latest first, and
`brokerFails` tells which of the calls to the broker fail. -/
structure Engine where
  world : World
  preferences : Table NotificationPreference := Table.empty
  queue : List ℤ := []
  brokerFails : ℕ → Bool := fun _ => false
  brokerCalls : ℕ := 0

/-- No event types, or this one among them. -/
def Webhook.subscribed (webhook : Webhook) (eventType : String) : Bool :=
  match webhook.eventTypes with
  | none => true
  | some eventTypes => eventTypes.isEmpty || eventTypes.contains eventType

def getActiveForEventType (webhooks : Table Webhook) (eventType : String) : List Webhook :=
  (webhooks.rows.filter Webhook.isActive).filter fun webhook => webhook.subscribed eventType

/-- The widths of the columns `event_id` and `event_type`. -/
def eventIdWidth : ℕ := 64
def eventTypeWidth : ℕ := 100

/-- The columns take the event; JSON has no `nan` and no infinities. -/
def Event.storable (event : Event) : Bool :=
  event.id.length ≤ eventIdWidth && event.eventType.length ≤ eventTypeWidth && Notifications.storable event.id &&
    Notifications.storable event.eventType && (Value.dict event.payload).isFinite

/-- `create_delivery` -/
def createDelivery (webhookId : ℤ) (event : Event) (maxAttempts : ℕ) (w : World) :
    Except TaskExn WebhookDelivery × World :=
  let delivery : WebhookDelivery :=
    { id := w.deliveries.next, webhookId := webhookId, eventId := event.id, eventType := event.eventType,
      payload := event.payload, attempt := 0, maxAttempts := maxAttempts, status := .pending,
      createdAt := w.clock w.clockReads }
  if event.storable then
    (.ok delivery, { w with deliveries := w.deliveries.insert delivery, clockReads := w.clockReads + 1 })
  else (.error .dataError, { w with clockReads := w.clockReads + 1 })

/-- `deliver_webhook.delay`; a failure is logged. -/
def Engine.enqueue (s : Engine) (deliveryId : ℤ) : Engine :=
  { s with
    queue := if s.brokerFails s.brokerCalls then s.queue else deliveryId :: s.queue
    brokerCalls := s.brokerCalls + 1 }

variable (cfg : WebhookSettings) (lib : WebhookLibraries) (event : Event)

/-- The loop over the webhooks; an exception ends it and is logged. -/
def dispatch : List Webhook → Engine → Engine
  | [], s => s
  | webhook :: webhooks, s =>
    match createDelivery webhook.id event (cfg.maxRetries + 1) s.world with
    | (.error _, w) => { s with world := w }
    | (.ok delivery, w) => dispatch webhooks (Engine.enqueue { s with world := w } delivery.id)

def handleEvent (s : Engine) : Engine :=
  if !cfg.enabled then s
  else if !(event.userId.all fun userId => channelEnabled s.preferences userId .webhook) then s
  else dispatch cfg event (getActiveForEventType s.world.webhooks event.eventType) s

/-! ### What happens in the engine -/

/-- The columns of a webhook that requests write. -/
structure WebhookEdit where
  name : String
  url : String
  eventTypes : Option (List String)
  isActive : Bool
  deletedAt : Option Datetime

def WebhookEdit.apply (changes : WebhookEdit) (webhook : Webhook) : Webhook :=
  { webhook with
    name := changes.name
    url := changes.url
    eventTypes := changes.eventTypes
    isActive := changes.isActive
    deletedAt := changes.deletedAt }

/-- An event is handled, a task executed, a webhook created or written, or the preferences change. -/
inductive Item where
  | event (event : Event)
  | deliver (retries : ℕ) (deliveryId : ℤ)
  | register (webhook : Webhook)
  | edit (webhookId : ℤ) (changes : WebhookEdit)
  | prefer (preferences : Table NotificationPreference)

/-- The state after it. -/
def Item.step (item : Item) (s : Engine) : Engine :=
  match item with
  | .event event => handleEvent cfg event s
  | .deliver retries deliveryId =>
    { s with world := ((deliverWebhook cfg lib retries deliveryId).exec serve () s.world).world }
  | .register webhook => { s with world.webhooks := s.world.webhooks.insert webhook }
  | .edit webhookId changes =>
    match s.world.webhooks.get? webhookId with
    | none => s
    | some webhook => { s with world.webhooks := s.world.webhooks.put (changes.apply webhook) }
  | .prefer preferences => { s with preferences := preferences }

/-! ### What is dispatched -/

/-- What is sent to a webhook of an event. -/
structure Content where
  webhookId : ℤ
  eventId : String
  eventType : String
  payload : List (String × Value)

def WebhookDelivery.content (delivery : WebhookDelivery) : Content :=
  ⟨delivery.webhookId, delivery.eventId, delivery.eventType, delivery.payload⟩

def Event.content (event : Event) (webhook : Webhook) : Content :=
  ⟨webhook.id, event.id, event.eventType, event.payload⟩

def World.contents (w : World) : List Content := w.deliveries.rows.map WebhookDelivery.content

/-- The event is dispatched. -/
def Dispatches (s : Engine) (event : Event) : Prop :=
  cfg.enabled = true ∧ (event.userId.all fun userId => channelEnabled s.preferences userId .webhook) = true ∧
    event.storable = true

instance (s : Engine) : Decidable (Dispatches cfg s event) :=
  inferInstanceAs (Decidable (_ ∧ _ ∧ _))

/-- The webhooks that get the event. -/
def recipients (s : Engine) : List Webhook :=
  if Dispatches cfg s event then getActiveForEventType s.world.webhooks event.eventType else []

/-- Deliveries of the event were created for these webhooks, and nothing else has happened. -/
structure Dispatched (webhooks : List Webhook) (s s' : Engine) : Prop where
  rows : ∃ new, s'.world.deliveries.rows = s.world.deliveries.rows ++ new ∧
    new.map WebhookDelivery.content = webhooks.map event.content ∧
    ∀ delivery ∈ new, s.world.deliveries.next ≤ delivery.id ∧ Created cfg delivery
  webhooks : s'.world.webhooks = s.world.webhooks
  posts : s'.world.posts = s.world.posts
  preferences : s'.preferences = s.preferences

variable {cfg lib event} {s s' s'' : Engine} {webhook : Webhook} {webhooks : List Webhook}

lemma Dispatched.none (hrows : s'.world.deliveries = s.world.deliveries) (hwebhooks : s'.world.webhooks = s.world.webhooks)
    (hposts : s'.world.posts = s.world.posts) (hpreferences : s'.preferences = s.preferences) :
    Dispatched cfg event [] s s' :=
  ⟨⟨[], by rw [hrows, List.append_nil], rfl, by simp⟩, hwebhooks, hposts, hpreferences⟩

lemma createDelivery_ok (cfg : WebhookSettings) (webhook : Webhook) (h : event.storable = true) (w : World) :
    ∃ delivery, createDelivery webhook.id event (cfg.maxRetries + 1) w =
        (.ok delivery, { w with deliveries := w.deliveries.insert delivery, clockReads := w.clockReads + 1 }) ∧
      Created cfg delivery ∧ delivery.content = event.content webhook ∧ delivery.id = w.deliveries.next := by
  unfold createDelivery
  rw [if_pos h]
  exact ⟨_, rfl, ⟨rfl, rfl, rfl⟩, rfl, rfl⟩

/-- One webhook after the other. -/
lemma Dispatched.cons {delivery : WebhookDelivery} (h : Dispatched cfg event webhooks s' s'') (hcreated : Created cfg delivery)
    (hcontent : delivery.content = event.content webhook) (hid : delivery.id = s.world.deliveries.next)
    (hrows : s'.world.deliveries = s.world.deliveries.insert delivery)
    (hwebhooks : s'.world.webhooks = s.world.webhooks) (hposts : s'.world.posts = s.world.posts)
    (hpreferences : s'.preferences = s.preferences) : Dispatched cfg event (webhook :: webhooks) s s'' := by
  obtain ⟨new, hnew, hcontents, hall⟩ := h.rows
  have hinsert : withKey s.world.deliveries.next delivery = delivery := by
    rw [← hid]
    rfl
  refine ⟨⟨delivery :: new, ?_, ?_, ?_⟩, h.webhooks.trans hwebhooks, h.posts.trans hposts,
    h.preferences.trans hpreferences⟩
  · rw [hnew, hrows]
    show (s.world.deliveries.rows ++ [withKey s.world.deliveries.next delivery]) ++ new = _
    rw [hinsert, List.append_assoc]
    rfl
  · rw [List.map_cons, List.map_cons, hcontent, hcontents]
  · intro d hd
    rcases List.mem_cons.1 hd with rfl | hd
    · exact ⟨hid.ge, hcreated⟩
    · obtain ⟨hnext, hcreated'⟩ := hall d hd
      rw [hrows] at hnext
      exact ⟨(Int.le_add_one le_rfl).trans hnext, hcreated'⟩

/-- **The loop.** -/
theorem dispatched_dispatch (h : event.storable = true) (webhooks : List Webhook) (s : Engine) :
    Dispatched cfg event webhooks s (dispatch cfg event webhooks s) := by
  induction webhooks generalizing s with
  | nil => exact .none rfl rfl rfl rfl
  | cons webhook webhooks ih =>
    obtain ⟨delivery, hdelivery, hcreated, hcontent, hid⟩ := createDelivery_ok cfg webhook h s.world
    have hrest := ih (Engine.enqueue { s with world :=
      { s.world with deliveries := s.world.deliveries.insert delivery, clockReads := s.world.clockReads + 1 } } delivery.id)
    unfold dispatch
    rw [hdelivery]
    exact hrest.cons hcreated hcontent hid rfl rfl rfl rfl

/-- An event that cannot be stored. -/
lemma dispatched_dispatch_none (h : event.storable = false) (webhooks : List Webhook) (s : Engine) :
    Dispatched cfg event [] s (dispatch cfg event webhooks s) := by
  cases webhooks with
  | nil => exact .none rfl rfl rfl rfl
  | cons webhook webhooks =>
    unfold dispatch createDelivery
    rw [if_neg (by rw [h]; exact Bool.false_ne_true)]
    exact .none rfl rfl rfl rfl

/-- **What `handle_event` does.** -/
theorem dispatched_handleEvent (cfg : WebhookSettings) (event : Event) (s : Engine) :
    Dispatched cfg event (recipients cfg event s) s (handleEvent cfg event s) := by
  unfold handleEvent recipients
  by_cases henabled : cfg.enabled = true
  · by_cases hchannel : (event.userId.all fun userId => channelEnabled s.preferences userId .webhook) = true
    · rw [henabled, hchannel]
      simp only [Bool.not_true, Bool.false_eq_true, if_false]
      cases hstorable : event.storable with
      | true =>
        rw [if_pos ⟨henabled, hchannel, hstorable⟩]
        exact dispatched_dispatch hstorable _ s
      | false =>
        rw [if_neg fun h => absurd (hstorable.symm.trans h.2.2) (by simp)]
        exact dispatched_dispatch_none hstorable _ s
    · rw [if_neg fun h => hchannel h.2.1, henabled, eq_false_of_ne_true hchannel]
      exact .none rfl rfl rfl rfl
  · rw [if_neg fun h => henabled h.1, eq_false_of_ne_true henabled]
    exact .none rfl rfl rfl rfl

/-- A webhook that gets the event is one of the table. -/
lemma mem_of_recipients (h : webhook ∈ recipients cfg event s) : webhook ∈ s.world.webhooks.rows := by
  unfold recipients at h
  split at h
  · exact (List.mem_filter.1 (List.mem_filter.1 h).1).1
  · cases h

end FastapiTemplate.Notifications
