import FastapiTemplate.Effects.Triples
import FastapiTemplate.Notifications.Restores
import FastapiTemplate.Notifications.Tenants

/-!
# Webhooks that are deleted

The endpoints of the webhooks in one history with the events, the executions of the task and the retries. A webhook is
deleted by a mark, and every query looks at the mark by itself: `CRUDBase.get` does, the query for the webhooks of an
event and the one for a queued delivery do not. `deleted_webhook_silent_iff` says when a deleted webhook is silent.
-/

namespace FastapiTemplate.Notifications

open Effects Python Store Script Keyed Identity

variable (cfg : WebhookSettings) (lib : WebhookLibraries)

/-! ### The endpoints -/

structure WebhookCreate where
  name : String
  url : String
  eventTypes : Option (List String) := none

/-- The fields that the request sets, some of them perhaps to null. -/
structure WebhookUpdate where
  name : Option (Option String) := none
  url : Option (Option String) := none
  eventTypes : Option (Option (List String)) := none
  isActive : Option (Option Bool) := none

/-- The row with these fields, unless a column that is not nullable becomes null. -/
def WebhookUpdate.apply (objIn : WebhookUpdate) (webhook : Webhook) : Option Webhook := do
  let name ← objIn.name.getD (some webhook.name)
  let url ← objIn.url.getD (some webhook.url)
  let isActive ← objIn.isActive.getD (some webhook.isActive)
  return { webhook with
    name := name, url := url, eventTypes := objIn.eventTypes.getD webhook.eventTypes, isActive := isActive }

/-- What a request may raise. -/
inductive WebhookExn where
  | api (e : Exn)
  | database (e : TaskExn)
  | broker

def Engine.withWebhooks (s : Engine) (webhooks : Table Webhook) : Engine :=
  { s with world := { s.world with webhooks := webhooks } }

/-- The webhook that a request is about. -/
def requestedWebhook (webhookId : ℤ) (ctx : RequestContext) (t : Table Webhook) : Except WebhookExn Webhook :=
  match checkPermissions ["webhook:write"] ctx with
  | .error e => .error (.api e)
  | .ok () =>
    match CRUDBase.get (seesWebhook ctx) webhookId t with
    | none => .error (.api (.http 404 "Webhook not found"))
    | some webhook =>
      if ownedWebhook ctx.user webhook then .ok webhook else .error (.api (.http 404 "Webhook not found"))

/-- `stored` tells whether the columns take the values; the engine may fill in a tenant. -/
def createWebhook (objIn : WebhookCreate) (secret : String) (tenantId : Option ℤ) (stored : Bool)
    (ctx : RequestContext) (s : Engine) : Except WebhookExn Webhook × Engine :=
  match checkPermissions ["webhook:write"] ctx with
  | .error e => (.error (.api e), s)
  | .ok () =>
    let webhook : Webhook :=
      { id := s.world.webhooks.next, tenantId := tenantId, name := objIn.name, url := objIn.url, secret := secret,
        eventTypes := objIn.eventTypes }
    if stored then (.ok webhook, s.withWebhooks (s.world.webhooks.insert webhook))
    else (.error (.database .dataError), s)

def updateWebhook (webhookId : ℤ) (objIn : WebhookUpdate) (stored : Bool) (ctx : RequestContext) (s : Engine) :
    Except WebhookExn Webhook × Engine :=
  match requestedWebhook webhookId ctx s.world.webhooks with
  | .error e => (.error e, s)
  | .ok webhook =>
    match objIn.apply webhook with
    | none => (.error (.api .integrityError), s)
    | some webhook =>
      if stored then (.ok webhook, s.withWebhooks (s.world.webhooks.put webhook))
      else (.error (.database .dataError), s)

def deleteWebhook (webhookId : ℤ) (now : Datetime) (ctx : RequestContext) (s : Engine) :
    Except WebhookExn Unit × Engine :=
  match requestedWebhook webhookId ctx s.world.webhooks with
  | .error e => (.error e, s)
  | .ok _ => (.ok (), s.withWebhooks (CRUDBase.delete (seesWebhook ctx) webhookId s.world.webhooks now).2)

/-- The `Event` of `ping_webhook`. -/
def testEvent (webhookId : ℤ) (eventId timestamp : String) : Event where
  eventType := "webhook.test"
  payload := [("message", .str "ping"), ("webhook_id", .int webhookId)]
  id := eventId
  timestamp := timestamp

/-- `refreshed` tells whether the engine shows the request the new record, once it is stored. -/
def pingWebhook (webhookId : ℤ) (eventId timestamp : String) (refreshed : Bool) (ctx : RequestContext) (s : Engine) :
    Except WebhookExn WebhookDelivery × Engine :=
  match requestedWebhook webhookId ctx s.world.webhooks with
  | .error e => (.error e, s)
  | .ok webhook =>
    match createDelivery webhook.id (testEvent webhook.id eventId timestamp) (cfg.maxRetries + 1) s.world with
    | (.error e, w) => (.error (.database e), { s with world := w })
    | (.ok delivery, w) =>
      let s' : Engine := { s with world := w }
      if refreshed then
        (if s.brokerFails s.brokerCalls then .error .broker else .ok delivery, s'.enqueue delivery.id)
      else (.error (.api .invalidRequest), s')

/-! ### Histories -/

/-- A request, an event that is handled, or a task that is executed, for the first time or again. -/
inductive Act where
  | create (ctx : RequestContext) (objIn : WebhookCreate) (secret : String) (tenantId : Option ℤ) (stored : Bool)
  | update (ctx : RequestContext) (webhookId : ℤ) (objIn : WebhookUpdate) (stored : Bool)
  | delete (ctx : RequestContext) (webhookId : ℤ) (now : Datetime)
  | restore (ctx : RequestContext) (webhookId : ℤ)
  | ping (ctx : RequestContext) (webhookId : ℤ) (eventId timestamp : String) (refreshed : Bool)
  | event (event : Event)
  | deliver (retries : ℕ) (deliveryId : ℤ)
  | prefer (preferences : Table NotificationPreference)

def Act.step (act : Act) (s : Engine) : Engine :=
  match act with
  | .create ctx objIn secret tenantId stored => (createWebhook objIn secret tenantId stored ctx s).2
  | .update ctx webhookId objIn stored => (updateWebhook webhookId objIn stored ctx s).2
  | .delete ctx webhookId now => (deleteWebhook webhookId now ctx s).2
  | .restore ctx webhookId => s.withWebhooks (restoreWebhook webhookId ctx s.world.webhooks).2
  | .ping ctx webhookId eventId timestamp refreshed =>
    (pingWebhook cfg webhookId eventId timestamp refreshed ctx s).2
  | .event e => (Item.event e).step cfg lib s
  | .deliver retries deliveryId => (Item.deliver retries deliveryId).step cfg lib s
  | .prefer preferences => (Item.prefer preferences).step cfg lib s

/-! ### Silence -/

/-- The request deletes the webhook. -/
def Deletes (webhookId : ℤ) (s : Engine) : Act → Prop
  | .delete ctx id now => id = webhookId ∧ (deleteWebhook id now ctx s).1 = .ok ()
  | _ => False

/-- The request restores it. -/
def Revives (webhookId : ℤ) (s : Engine) : Act → Prop
  | .restore ctx id => id = webhookId ∧ checkPermissions ["webhook:write"] ctx = .ok () ∧
      ∃ r, CRUDBase.Restorable (seesWebhook ctx) id s.world.webhooks r
  | _ => False

/-- The webhook was deleted, and has not been restored since. -/
def Gone (webhookId : ℤ) : List (Engine × Act) → Prop
  | [] => False
  | (s, act) :: past => Deletes webhookId s act ∨ Gone webhookId past ∧ ¬Revives webhookId s act

/-- A POST for a delivery of the webhook. -/
def World.isFor (w : World) (webhookId : ℤ) (request : Post) : Prop :=
  ∃ delivery, w.deliveries.get? request.deliveryId = some delivery ∧ delivery.webhookId = webhookId

/-- **From one state to the next** no delivery is created for the webhook and no POST is made to it. -/
structure Silent (webhookId : ℤ) (s s' : Engine) : Prop where
  created : ∀ delivery ∈ s'.world.deliveries.rows, delivery.webhookId = webhookId →
    ∃ old, s.world.deliveries.get? delivery.id = some old
  posted : ∃ new, s'.world.posts = new ++ s.world.posts ∧ ∀ request ∈ new, ¬s'.world.isFor webhookId request

/-- **The condition.** The webhook is not one of those that an event is dispatched to, and a task is not executed for a
delivery of it that is not delivered yet, unless it is not active. -/
def Quiet (webhookId : ℤ) (s : Engine) : Act → Prop
  | .event event => ∀ webhook ∈ recipients cfg event s, webhook.id ≠ webhookId
  | .deliver _ deliveryId => ∀ delivery webhook, s.world.getDeliveryWithWebhook deliveryId = some (delivery, webhook) →
      delivery.webhookId = webhookId → delivery.status = .delivered ∨ webhook.isActive = false
  | _ => True

/-! ### Executions -/

variable {cfg lib} {s s' : Engine} {w : World} {webhookId deliveryId : ℤ} {act : Act}

section Posts

variable {posts : List Post}

/-- An effect that is no POST. -/
lemma posts_serve {e : Eff} (he : ∀ request, e ≠ .post request) (w : World) : (serve e w).2.posts = w.posts := by
  cases e with
  | load | now => rfl
  | post request => exact absurd rfl (he request)
  | save loaded cur => exact posts_save w loaded cur
  | setActive webhookId isActive =>
    show (w.setActive webhookId isActive).posts = w.posts
    unfold World.setActive
    split <;> rfl

lemma ensures_perform {e : Eff} (he : ∀ request, e ≠ .post request) :
    Ensures serve (fun w => w.posts = posts) (perform e : Task (Reply e)) fun _ => True :=
  Ensures.perform fun w hw => ⟨(posts_serve he w).trans hw, trivial⟩

/-- To record an outcome makes no POST. -/
lemma ensures_recordDeliveryOutcome (id : ℤ) (attempt : ℕ) (outcome : DeliveryOutcome) :
    Ensures serve (fun w => w.posts = posts) (recordDeliveryOutcome id attempt outcome) fun _ => True := by
  unfold recordDeliveryOutcome
  refine (ensures_perform (by simp)).bind fun pair _ => ?_
  cases pair with
  | none => exact .pure trivial
  | some pair =>
    refine (ensures_perform (by simp)).bind fun now _ => ?_
    exact (ensures_perform (by simp)).bind fun saved _ => .ofExcept fun _ _ => trivial

lemma ensures_recordFailure (delivery : WebhookDelivery) (attempt : ℕ) (error : String) (responseStatus : Option ℕ)
    (responseBody : Option String) :
    Ensures serve (fun w => w.posts = posts) (recordFailure cfg delivery attempt error responseStatus responseBody)
      fun _ => True := by
  have hrecord : ∀ (outcome : DeliveryOutcome) (performed : Performed), Ensures serve (fun w => w.posts = posts)
      (recordDeliveryOutcome delivery.id attempt outcome >>= fun _ => pure performed) fun _ => True := by
    intro outcome performed
    exact (ensures_recordDeliveryOutcome _ _ _).bind fun _ _ => .pure trivial
  unfold recordFailure
  dsimp only
  split
  · refine (ensures_perform (by simp)).bind fun now _ => ?_
    refine Ensures.bind (Q := fun _ => True) (.ofExcept fun _ _ => trivial) fun nextRetryAt _ => ?_
    exact Ensures.bind (Q := fun _ => True) (.pure trivial) fun _ _ => hrecord _ _
  · exact Ensures.bind (Q := fun _ => True) (.pure trivial) fun _ _ => hrecord _ _

lemma ensures_conclude (retries : ℕ) (id : ℤ) (delivery : WebhookDelivery) (performed : Performed) :
    Ensures serve (fun w => w.posts = posts) (conclude cfg retries id delivery performed) fun _ => True := by
  unfold conclude celeryRetry
  cases performed with
  | delivered | failed => exact .pure trivial
  | retry =>
    dsimp only
    split <;> exact .throw _

/-- The task calls the endpoint. -/
def World.callsEndpoint (w : World) (deliveryId : ℤ) : Prop :=
  ∃ delivery webhook, w.getDeliveryWithWebhook deliveryId = some (delivery, webhook) ∧
    delivery.status ≠ .delivered ∧ webhook.isActive = true

/-- **An execution that does not call it.** -/
theorem posts_deliverWebhook_of_not (cfg : WebhookSettings) (lib : WebhookLibraries) (retries : ℕ) (h : ¬w.callsEndpoint deliveryId) :
    ((deliverWebhook cfg lib retries deliveryId).exec serve () w).world.posts = w.posts := by
  unfold deliverWebhook
  cases hpair : w.getDeliveryWithWebhook deliveryId with
  | none => simp only [exec_bind, exec_perform, serve, Outcome.next_ok, hpair, exec_pure]
  | some pair =>
    obtain ⟨delivery, webhook⟩ := pair
    simp only [exec_bind, exec_perform, serve, Outcome.next_ok, hpair]
    split
    · rfl
    · rename_i hpending
      have hinactive : webhook.isActive = false := by
        by_contra hactive
        exact h ⟨delivery, webhook, hpair, hpending, by simpa using hactive⟩
      have hrecord : Ensures serve (fun v => v.posts = w.posts) (recordDeliveryOutcome delivery.id delivery.attempt
          { status := .failed, error := some "webhook disabled" } >>= fun _ => pure TaskResult.webhookDisabled)
          fun _ => True := (ensures_recordDeliveryOutcome _ _ _).bind fun _ _ => .pure trivial
      rw [if_pos (by rw [hinactive]; rfl)]
      exact (hrecord () w rfl).1

lemma posts_performDelivery (cfg : WebhookSettings) {delivery : WebhookDelivery} {webhook : Webhook} {request : Post}
    (hrequest : buildPost lib delivery webhook (w.clock w.clockReads / second) = .ok request) :
    ((performDelivery cfg lib delivery webhook).exec serve () w).world.posts = request :: w.posts := by
  have hrecord : ∀ outcome : DeliveryOutcome, Ensures serve (fun v => v.posts = request :: w.posts)
      (recordDeliveryOutcome delivery.id (delivery.attempt + 1) outcome >>= fun _ => pure Performed.delivered)
      fun _ => True := fun _ => (ensures_recordDeliveryOutcome _ _ _).bind fun _ _ => .pure trivial
  unfold performDelivery
  simp only [exec_bind, exec_datetimeNow, Outcome.next_ok, exec_ofExcept, hrequest, liftBuiltin, exec_perform, serve]
  cases w.answers w.posts.length with
  | httpError text => exact (ensures_recordFailure delivery _ text none none () _ rfl).1
  | response statusCode text =>
    dsimp only
    split
    · exact (hrecord _ () _ rfl).1
    · exact (ensures_recordFailure delivery _ _ _ _ () _ rfl).1

/-- **An execution that calls it** makes one POST. -/
theorem posts_deliverWebhook (cfg : WebhookSettings) (lib : WebhookLibraries) (retries : ℕ)
    (h : w.callsEndpoint deliveryId) :
    ∃ request, request.deliveryId = deliveryId ∧
      ((deliverWebhook cfg lib retries deliveryId).exec serve () w).world.posts = request :: w.posts := by
  obtain ⟨delivery, webhook, hpair, hpending, hactive⟩ := h
  obtain ⟨request, hrequest, hid⟩ := buildPost_ok lib delivery webhook (w.clock w.clockReads / second)
  refine ⟨request, hid.trans (Table.get?_eq_some.1 (getDeliveryWithWebhook_eq_some.1 hpair).1).2, ?_⟩
  have hposts := posts_performDelivery cfg hrequest
  unfold deliverWebhook
  simp only [exec_bind, exec_perform, serve, Outcome.next_ok, hpair, if_neg hpending, hactive, Bool.not_true,
    Bool.false_eq_true, if_false]
  rcases hperformed : (performDelivery cfg lib delivery webhook).exec serve () w with ⟨e | performed, _, w'⟩ <;>
    rw [hperformed] at hposts
  · exact hposts
  · exact (ensures_conclude retries deliveryId delivery performed () w' hposts).1

end Posts

/-! ### What is deleted -/

/-- The row of the webhook has the mark. -/
def Marked (webhookId : ℤ) (s : Engine) : Prop :=
  ∃ webhook, s.world.webhooks.get? webhookId = some webhook ∧ webhook.deletedAt ≠ none

variable {ctx : RequestContext} {webhook : Webhook}

/-- A request is about a webhook that is not deleted. -/
lemma requestedWebhook_eq_ok {t : Table Webhook} (h : requestedWebhook webhookId ctx t = .ok webhook) :
    CRUDBase.get (seesWebhook ctx) webhookId t = some webhook := by
  unfold requestedWebhook at h
  cases hpermitted : checkPermissions ["webhook:write"] ctx with
  | error e =>
    rw [hpermitted] at h
    cases h
  | ok _ =>
    rw [hpermitted] at h
    dsimp only at h
    cases hget : CRUDBase.get (seesWebhook ctx) webhookId t with
    | none =>
      rw [hget] at h
      cases h
    | some found =>
      rw [hget] at h
      dsimp only at h
      split at h
      · rw [Except.ok.inj h]
      · cases h

lemma Marked.ne_of_get {id : ℤ} (h : Marked webhookId s)
    (hget : CRUDBase.get (seesWebhook ctx) id s.world.webhooks = some webhook) : webhook.id ≠ webhookId := by
  rintro rfl
  obtain ⟨found, hfound, hdeleted⟩ := h
  obtain ⟨hmem, hid, -, hnone⟩ := CRUDBase.get_eq_some.1 hget
  obtain rfl : webhook = found := Option.some.inj ((Table.get?_key hmem).symm.trans hfound)
  exact hdeleted (hnone.resolve_left (by decide))

lemma Marked.put (h : Marked webhookId s) (hne : webhook.id ≠ webhookId) :
    Marked webhookId (s.withWebhooks (s.world.webhooks.put webhook)) := by
  obtain ⟨found, hfound, hdeleted⟩ := h
  have hget : (s.world.webhooks.put webhook).get? webhookId = s.world.webhooks.get? webhookId :=
    Table.get?_put_of_ne fun heq => hne heq.symm
  exact ⟨found, hget.trans hfound, hdeleted⟩

lemma Marked.congr (h : Marked webhookId s) (hwebhooks : s'.world.webhooks = s.world.webhooks) :
    Marked webhookId s' := by
  unfold Marked
  rwa [hwebhooks]

lemma WebhookUpdate.apply_id {objIn : WebhookUpdate} {webhook' : Webhook} (h : objIn.apply webhook = some webhook') :
    webhook'.id = webhook.id := by
  unfold WebhookUpdate.apply at h
  obtain ⟨name, -, h⟩ := Option.bind_eq_some_iff.1 h
  obtain ⟨url, -, h⟩ := Option.bind_eq_some_iff.1 h
  obtain ⟨isActive, -, h⟩ := Option.bind_eq_some_iff.1 h
  cases h
  rfl

/-- What a request to create, change, delete or restore a webhook does: it writes at most one row, a new one, that of a
webhook that is not deleted, or that of the one it restores. -/
inductive Edited (s : Engine) (act : Act) : Engine → Prop
  | same : Edited s act s
  | create (webhook : Webhook) : Edited s act (s.withWebhooks (s.world.webhooks.insert webhook))
  | write {ctx : RequestContext} {id : ℤ} {old webhook : Webhook}
      (hold : CRUDBase.get (seesWebhook ctx) id s.world.webhooks = some old) (hid : webhook.id = old.id) :
      Edited s act (s.withWebhooks (s.world.webhooks.put webhook))
  | revive {webhook : Webhook} (hrevives : Revives webhook.id s act) :
      Edited s act (s.withWebhooks (s.world.webhooks.put webhook))

lemma edited_create (s : Engine) (ctx : RequestContext) (objIn : WebhookCreate) (secret : String) (tenantId : Option ℤ)
    (stored : Bool) :
    Edited s (.create ctx objIn secret tenantId stored) (createWebhook objIn secret tenantId stored ctx s).2 := by
  unfold createWebhook
  cases checkPermissions ["webhook:write"] ctx with
  | error e => exact .same
  | ok _ =>
    cases stored with
    | false => exact .same
    | true => exact .create _

lemma edited_update (s : Engine) (ctx : RequestContext) (id : ℤ) (objIn : WebhookUpdate) (stored : Bool) :
    Edited s (.update ctx id objIn stored) (updateWebhook id objIn stored ctx s).2 := by
  unfold updateWebhook
  cases hrequested : requestedWebhook id ctx s.world.webhooks with
  | error e => exact .same
  | ok webhook =>
    dsimp only
    cases happly : objIn.apply webhook with
    | none => exact .same
    | some webhook' =>
      cases stored with
      | false => exact .same
      | true => exact .write (requestedWebhook_eq_ok hrequested) (WebhookUpdate.apply_id happly)

lemma edited_delete (s : Engine) (ctx : RequestContext) (id : ℤ) (now : Datetime) :
    Edited s (.delete ctx id now) (deleteWebhook id now ctx s).2 := by
  unfold deleteWebhook
  cases requestedWebhook id ctx s.world.webhooks with
  | error e => exact .same
  | ok _ =>
    unfold CRUDBase.delete
    dsimp only
    cases hget : CRUDBase.get (seesWebhook ctx) id s.world.webhooks with
    | none => exact .same
    | some webhook => exact .write hget rfl

lemma edited_restore (s : Engine) (ctx : RequestContext) (id : ℤ) :
    Edited s (.restore ctx id) (s.withWebhooks (restoreWebhook id ctx s.world.webhooks).2) := by
  unfold restoreWebhook
  cases hpermitted : checkPermissions ["webhook:write"] ctx with
  | error e => exact .same
  | ok _ =>
    unfold restoreThenCheck
    dsimp only
    have hcases : (CRUDBase.restore (seesWebhook ctx) id s.world.webhooks = (none, s.world.webhooks) ∧ _) ∨ _ :=
      CRUDBase.restore_cases
    rcases hcases with ⟨hrestore, -⟩ | ⟨r, hr, hrestore⟩
    · rw [hrestore]
      exact .same
    · rw [hrestore]
      exact .revive ⟨hr.2.1.symm, hpermitted, r, hr⟩

lemma Marked.edited (h : Marked webhookId s) (hact : ¬Revives webhookId s act) (hedited : Edited s act s') :
    Marked webhookId s' := by
  cases hedited with
  | same => exact h
  | create webhook =>
    obtain ⟨found, hfound, hdeleted⟩ := h
    exact ⟨found, Table.get?_insert_of_some hfound, hdeleted⟩
  | write hold hid => exact h.put (hid.symm ▸ h.ne_of_get hold)
  | revive hrevives => exact h.put fun hid => hact (hid ▸ hrevives)

/-- An execution writes outcomes only. -/
lemma Marked.deliver (h : Marked webhookId s) (retries : ℕ) (deliveryId : ℤ) :
    Marked webhookId ((Item.deliver retries deliveryId).step cfg lib s) := by
  obtain ⟨webhook, hwebhook, hdeleted⟩ := h
  obtain ⟨stage, hstage⟩ := executing_deliverWebhook cfg lib retries deliveryId s.world
  have hcore := congrArg (fun t => t.get? webhookId) hstage.same.webhooks
  unfold World.cores at hcore
  rw [Table.get?_revise, Table.get?_revise, hwebhook] at hcore
  obtain ⟨webhook', hwebhook', hsame⟩ := Option.map_eq_some_iff.1 hcore
  have hmark : webhook'.core.deletedAt = webhook.core.deletedAt := by rw [hsame]
  exact ⟨webhook', hwebhook', fun hnone => hdeleted (hmark.symm.trans hnone)⟩

/-- What a request to ping a webhook does: it may create a delivery for it. -/
structure Pinged (ctx : RequestContext) (id : ℤ) (s s' : Engine) : Prop where
  webhooks : s'.world.webhooks = s.world.webhooks
  posts : s'.world.posts = s.world.posts
  deliveries : s'.world.deliveries = s.world.deliveries ∨ ∃ webhook delivery,
    requestedWebhook id ctx s.world.webhooks = .ok webhook ∧ delivery.webhookId = webhook.id ∧
      s'.world.deliveries = s.world.deliveries.insert delivery

lemma pinged (cfg : WebhookSettings) (s : Engine) (ctx : RequestContext) (id : ℤ) (eventId timestamp : String)
    (refreshed : Bool) : Pinged ctx id s (pingWebhook cfg id eventId timestamp refreshed ctx s).2 := by
  unfold pingWebhook
  cases hrequested : requestedWebhook id ctx s.world.webhooks with
  | error e => exact ⟨rfl, rfl, .inl rfl⟩
  | ok webhook =>
    dsimp only
    by_cases hstorable : (testEvent webhook.id eventId timestamp).storable = true
    · obtain ⟨delivery, hdelivery, -, hcontent, -⟩ := createDelivery_ok cfg webhook hstorable s.world
      have hid : delivery.webhookId = webhook.id := congrArg Content.webhookId hcontent
      rw [hdelivery]
      dsimp only
      cases refreshed <;> exact ⟨rfl, rfl, .inr ⟨webhook, delivery, hrequested, hid, rfl⟩⟩
    · unfold createDelivery
      rw [if_neg hstorable]
      exact ⟨rfl, rfl, .inl rfl⟩

/-- **The mark stays** until the webhook is restored. -/
theorem Marked.step (h : Marked webhookId s) (hact : ¬Revives webhookId s act) : Marked webhookId (act.step cfg lib s) := by
  cases act with
  | create ctx objIn secret tenantId stored => exact h.edited hact (edited_create s ctx objIn secret tenantId stored)
  | update ctx id objIn stored => exact h.edited hact (edited_update s ctx id objIn stored)
  | delete ctx id now => exact h.edited hact (edited_delete s ctx id now)
  | restore ctx id => exact h.edited hact (edited_restore s ctx id)
  | ping ctx id eventId timestamp refreshed => exact h.congr (pinged cfg s ctx id eventId timestamp refreshed).webhooks
  | event e => exact h.congr (dispatched_handleEvent cfg e s).webhooks
  | deliver retries deliveryId => exact h.deliver retries deliveryId
  | prefer preferences => exact h

/-- A request that deletes the webhook leaves the mark. -/
lemma Deletes.marked (h : Deletes webhookId s act) : Marked webhookId (act.step cfg lib s) := by
  cases act with
  | delete ctx id now =>
    obtain ⟨rfl, hok⟩ := h
    show Marked id (deleteWebhook id now ctx s).2
    unfold deleteWebhook at hok ⊢
    cases hrequested : requestedWebhook id ctx s.world.webhooks with
    | error e =>
      rw [hrequested] at hok
      cases hok
    | ok webhook =>
      have hget := requestedWebhook_eq_ok hrequested
      obtain ⟨hmem, hkey, -, -⟩ := CRUDBase.get_eq_some.1 hget
      obtain rfl : webhook.id = id := hkey
      have hfound : s.world.webhooks.get? webhook.id = some webhook := Table.get?_key hmem
      have hput : (s.world.webhooks.put { webhook with deletedAt := some now }).get? webhook.id =
          some { webhook with deletedAt := some now } :=
        Table.get?_put_self (r := { webhook with deletedAt := some now }) hfound
      unfold CRUDBase.delete
      dsimp only
      rw [hget]
      exact ⟨_, hput, by simp⟩
  | create | update | restore | ping | event | deliver | prefer => exact h.elim

/-- What is gone has the mark. -/
def Kept (webhookId : ℤ) (past : List (Engine × Act)) (s : Engine) : Prop :=
  Gone webhookId past → Marked webhookId s

lemma Kept.step {past : List (Engine × Act)} (h : Kept webhookId past s) :
    Kept webhookId ((s, act) :: past) (act.step cfg lib s) := by
  rintro (hdeletes | ⟨hgone, hrevives⟩)
  · exact hdeletes.marked
  · exact (h hgone).step hrevives

/-! ### When a step is silent -/

lemma Silent.of_same (hdeliveries : s'.world.deliveries = s.world.deliveries) (hposts : s'.world.posts = s.world.posts) :
    Silent webhookId s s' := by
  refine ⟨fun delivery hdelivery _ => ⟨delivery, ?_⟩, [], hposts, by simp⟩
  rw [hdeliveries] at hdelivery
  exact Table.get?_key hdelivery

lemma Silent.edited (h : Edited s act s') : Silent webhookId s s' := by
  cases h <;> exact .of_same rfl rfl

/-- **An event.** -/
theorem silent_event_iff (e : Event) : Silent webhookId s (handleEvent cfg e s) ↔
    ∀ webhook ∈ recipients cfg e s, webhook.id ≠ webhookId := by
  have hdispatched := dispatched_handleEvent cfg e s
  obtain ⟨new, hnew, hcontents, hall⟩ := hdispatched.rows
  constructor
  · rintro h webhook hwebhook rfl
    have hcontent : e.content webhook ∈ new.map WebhookDelivery.content := by
      rw [hcontents]
      exact List.mem_map_of_mem hwebhook
    obtain ⟨delivery, hdelivery, heq⟩ := List.mem_map.1 hcontent
    have hmem : delivery ∈ (handleEvent cfg e s).world.deliveries.rows := by
      rw [hnew]
      exact List.mem_append_right _ hdelivery
    obtain ⟨old, hold⟩ := h.created delivery hmem (congrArg Content.webhookId heq)
    -- the number of the delivery is new
    obtain ⟨hrow, hkey⟩ := Table.get?_eq_some.1 hold
    have hbelow : key old < s.world.deliveries.next := s.world.deliveries.below old hrow
    have hnext := (hall delivery hdelivery).1
    omega
  · intro h
    refine ⟨fun delivery hdelivery hfor => ⟨delivery, ?_⟩, [], hdispatched.posts, by simp⟩
    rw [hnew] at hdelivery
    rcases List.mem_append.1 hdelivery with hold | hdelivery
    · exact Table.get?_key hold
    · have hcontent : delivery.content ∈ (recipients cfg e s).map e.content := by
        rw [← hcontents]
        exact List.mem_map_of_mem hdelivery
      obtain ⟨webhook, hwebhook, heq⟩ := List.mem_map.1 hcontent
      have hid : webhook.id = delivery.webhookId := congrArg Content.webhookId heq
      exact absurd (hid.trans hfor) (h webhook hwebhook)

/-- **An execution.** -/
theorem silent_deliver_iff (retries : ℕ) (id : ℤ) : Silent webhookId s ((Item.deliver retries id).step cfg lib s) ↔
    ∀ delivery webhook, s.world.getDeliveryWithWebhook id = some (delivery, webhook) →
      delivery.webhookId = webhookId → delivery.status = .delivered ∨ webhook.isActive = false := by
  obtain ⟨stage, hstage⟩ := executing_deliverWebhook cfg lib retries id s.world
  have hsame := hstage.same
  have hcreated : ∀ delivery ∈ ((Item.deliver retries id).step cfg lib s).world.deliveries.rows,
      delivery.webhookId = webhookId → ∃ old, s.world.deliveries.get? delivery.id = some old := by
    intro delivery hdelivery _
    have hback : SameCore ((Item.deliver retries id).step cfg lib s).world s.world :=
      ⟨hsame.deliveries.symm, hsame.webhooks.symm⟩
    obtain ⟨old, hold, -⟩ := hback.get?_delivery (Table.get?_key hdelivery)
    exact ⟨old, hold⟩
  by_cases hcalls : s.world.callsEndpoint id
  · obtain ⟨request, hrequest, hposts⟩ := posts_deliverWebhook cfg lib retries hcalls
    obtain ⟨delivery, webhook, hpair, hpending, hactive⟩ := hcalls
    obtain ⟨delivery', hdelivery', hcontent⟩ := hsame.get?_delivery (getDeliveryWithWebhook_eq_some.1 hpair).1
    have hid : delivery'.webhookId = delivery.webhookId := congrArg Content.webhookId hcontent
    constructor
    · rintro h found foundWebhook hfound rfl
      obtain ⟨rfl, rfl⟩ := Prod.mk.inj (Option.some.inj (hpair.symm.trans hfound))
      obtain ⟨new, hnew, hothers⟩ := h.posted
      have hone : new = [request] := List.append_cancel_right (hnew.symm.trans hposts)
      exact (hothers request (by simp [hone]) ⟨delivery', by rwa [hrequest], hid⟩).elim
    · intro h
      refine ⟨hcreated, [request], hposts, fun other hother ⟨found, hfound, hfor⟩ => ?_⟩
      obtain rfl := List.mem_singleton.1 hother
      rw [hrequest] at hfound
      obtain rfl : delivery' = found := Option.some.inj (hdelivery'.symm.trans hfound)
      rcases h delivery webhook hpair (hid.symm.trans hfor) with hdelivered | hinactive
      · exact hpending hdelivered
      · exact absurd (hactive.symm.trans hinactive) (by decide)
  · have hposts := posts_deliverWebhook_of_not cfg lib retries hcalls
    refine iff_of_true ⟨hcreated, [], hposts, by simp⟩ fun delivery webhook hpair _ => ?_
    by_contra hneither
    obtain ⟨hpending, hactive⟩ := not_or.1 hneither
    exact hcalls ⟨delivery, webhook, hpair, hpending, by simpa using hactive⟩

/-- **One step**, for a webhook with the mark. -/
theorem silent_iff (h : Marked webhookId s) (act : Act) :
    Silent webhookId s (act.step cfg lib s) ↔ Quiet cfg webhookId s act := by
  cases act with
  | event e => exact silent_event_iff e
  | deliver retries id => exact silent_deliver_iff retries id
  | create ctx objIn secret tenantId stored =>
    exact iff_of_true (.edited (edited_create s ctx objIn secret tenantId stored)) trivial
  | update ctx id objIn stored => exact iff_of_true (.edited (edited_update s ctx id objIn stored)) trivial
  | delete ctx id now => exact iff_of_true (.edited (edited_delete s ctx id now)) trivial
  | restore ctx id => exact iff_of_true (.edited (edited_restore s ctx id)) trivial
  | ping ctx id eventId timestamp refreshed =>
    refine iff_of_true ?_ trivial
    have hpinged := pinged cfg s ctx id eventId timestamp refreshed
    rcases hpinged.deliveries with hsame | ⟨webhook, delivery, hrequested, hfor, hinsert⟩
    · exact .of_same hsame hpinged.posts
    · -- it is another webhook that is pinged
      have hne : webhook.id ≠ webhookId := h.ne_of_get (requestedWebhook_eq_ok hrequested)
      refine ⟨fun found hfound hfoundFor => ⟨found, ?_⟩, [], hpinged.posts, by simp⟩
      change found ∈ (pingWebhook cfg id eventId timestamp refreshed ctx s).2.world.deliveries.rows at hfound
      rw [hinsert] at hfound
      rcases Table.mem_insert.1 hfound with hold | hnew
      · exact Table.get?_key hold
      · rw [hnew] at hfoundFor
        exact absurd (hfor.symm.trans hfoundFor) hne
  | prefer preferences => exact iff_of_true (.of_same rfl rfl) trivial

/-- **When a deleted webhook is silent**: along every history, no step creates a delivery for it or makes a POST to it
between its deletion and its restoration, if and only if in that time no event is dispatched to it, and no task is
executed for a delivery of it that is not delivered, unless it was not active. -/
theorem deleted_webhook_silent_iff (cfg : WebhookSettings) (lib : WebhookLibraries) (webhookId : ℤ) (s : Engine)
    (acts : List Act) :
    Along (Act.step cfg lib) (fun past s act => Gone webhookId past → Silent webhookId s (act.step cfg lib s)) [] s acts ↔
      Along (Act.step cfg lib) (fun past s act => Gone webhookId past → Quiet cfg webhookId s act) [] s acts := by
  have hstart : Kept webhookId [] s := fun hgone => hgone.elim
  refine along_congr_of_inv (I := Kept webhookId) (fun _ _ _ h _ => h.step) (fun past s act h => ?_) hstart
  exact forall_congr' fun hgone => silent_iff (h hgone) act

namespace Sample

/-- A webhook that is subscribed to all events, and nothing else. -/
def registered : Engine where
  world := { created (.response 200 "ok") with deliveries := Table.empty }

def welcome : Event where
  eventType := "user.created"
  id := "evt_3"
  timestamp := "1970-01-01T00:16:40+00:00"

end Sample

open Sample in
/-- The webhook is deleted, and the next event is dispatched and sent to it all the same. -/
theorem deleted_webhook_called :
    ¬Along (Act.step {} libraries) (fun past s act => Gone 1 past → Silent 1 s (act.step {} libraries s)) [] registered
        [.delete { writer with user.isSuperuser := true } 1 0, .event welcome, .deliver 0 1] ∧
      (after (Act.step {} libraries) registered
        [.delete { writer with user.isSuperuser := true } 1 0, .event welcome, .deliver 0 1]).world.posts.map Post.url =
          ["https://example.com"] := by
  refine ⟨?_, by decide +kernel⟩
  rintro ⟨-, hevent, -⟩
  have hsilent := hevent (.inl ⟨rfl, rfl⟩)
  obtain ⟨old, hold⟩ := hsilent.created _ (List.mem_singleton_self _) rfl
  cases hold

end FastapiTemplate.Notifications
