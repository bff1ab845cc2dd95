import FastapiTemplate.Notifications.Dispatch

/-!
# Tenants

Which tenants an event concerns, what the webhooks of a tenant get, and when one does not depend on the other.
`tenant_isolation_iff` is about any stream of events among executions of the task and changes of the webhooks: the
dispatcher does not look at tenants, so it isolates them only where the webhooks of other tenants are not subscribed.
-/

namespace FastapiTemplate.Notifications

open Effects Python Store Script Keyed

variable (cfg : WebhookSettings) (lib : WebhookLibraries)

/-! ### What a tenant gets -/

/-- The tenant of the event's user, and the one of its payload. -/
def Event.concerned (users : Table Identity.User) (event : Event) : List ℤ :=
  ((event.userId.bind users.get?).bind Identity.User.tenantId).toList ++
    match event.payload.lookup "tenant_id" with
    | some (.int tenant) => [tenant]
    | _ => []

/-- The tenant of a webhook. -/
def World.tenantOf (w : World) (webhookId : ℤ) : Option ℤ := (w.webhooks.get? webhookId).bind Webhook.tenantId

/-- The deliveries for the webhooks of a tenant, by their content. -/
def World.received (w : World) (tenant : ℤ) : List Content :=
  w.contents.filter fun content => w.tenantOf content.webhookId == some tenant

/-- The POSTs to the webhooks of a tenant. -/
def World.sentTo (w : World) (tenant : ℤ) : List Post :=
  w.posts.filter fun request =>
    (w.deliveries.get? request.deliveryId).any fun delivery => w.tenantOf delivery.webhookId == some tenant

/-- The body is built from the content; the number of the delivery, the attempt and the time are its own. -/
def Carries (content : Content) (request : Post) : Prop :=
  ∃ timestamp attempt, request.body = lib.jsonDumps (buildDeliveryPayload
    { eventType := content.eventType, payload := content.payload, id := content.eventId, timestamp := timestamp }
    request.deliveryId attempt)

/-- An event that concerns another tenant. -/
def Item.foreign (users : Table Identity.User) (tenant : ℤ) : Item → Bool
  | .event e => (e.concerned users).any fun other => other != tenant
  | _ => false

/-- The deliveries that are created for an event are for webhooks of the tenant it concerns, or of none. -/
def Scoped (users : Table Identity.User) (s : Engine) : Item → Prop
  | .event event => ∀ tenant ∈ event.concerned users, ∀ delivery ∈ (handleEvent cfg event s).world.deliveries.rows,
      delivery ∉ s.world.deliveries.rows →
      s.world.tenantOf delivery.webhookId = none ∨ s.world.tenantOf delivery.webhookId = some tenant
  | _ => True

/-- **Tenant isolation** along a stream: every event is scoped, and what a tenant's webhooks get and are sent is the
same without the events that concern other tenants. -/
structure TenantIsolated (users : Table Identity.User) (s : Engine) (items : List Item) : Prop where
  scope : Each (Item.step cfg lib) (Scoped cfg users) s items
  independent : ∀ tenant, (after (Item.step cfg lib) s items).world.received tenant =
    (after (Item.step cfg lib) s (items.filter fun item => !item.foreign users tenant)).world.received tenant
  sent : ∀ tenant, ∀ request ∈ (after (Item.step cfg lib) s items).world.sentTo tenant,
    ∃ content ∈ (after (Item.step cfg lib) s
      (items.filter fun item => !item.foreign users tenant)).world.received tenant, Carries lib content request

/-- **The condition.** Every webhook that the event is dispatched to is of the tenants it concerns, or of none. -/
def Contained (users : Table Identity.User) (s : Engine) : Item → Prop
  | .event event => Dispatches cfg s event → ∀ tenant ∈ event.concerned users,
      ∀ webhook ∈ getActiveForEventType s.world.webhooks event.eventType,
        webhook.tenantId = none ∨ webhook.tenantId = some tenant
  | _ => True

/-! ### What no execution changes -/

variable {cfg lib} {w w' w'' : World} {loaded cur : WebhookDelivery × Webhook} {tenant webhookId : ℤ}

/-- A delivery without the columns of its outcome. -/
def WebhookDelivery.origin (delivery : WebhookDelivery) : WebhookDelivery :=
  { delivery with
    attempt := 0, status := .pending, error := none, responseStatus := none, responseBody := none,
    nextRetryAt := none, deliveredAt := none }

/-- A webhook without the columns of its last delivery. -/
def Webhook.core (webhook : Webhook) : Webhook :=
  { webhook with lastDeliveryAt := none, lastStatus := none, failureCount := 0 }

lemma WebhookDelivery.key_origin (delivery : WebhookDelivery) : key delivery.origin = key delivery := rfl

lemma Webhook.key_core (webhook : Webhook) : key webhook.core = key webhook := rfl

/-- The tables without these columns. -/
def World.origins (w : World) : Table WebhookDelivery := w.deliveries.revise _ WebhookDelivery.key_origin
def World.cores (w : World) : Table Webhook := w.webhooks.revise _ Webhook.key_core

/-- All but the outcomes is the same. -/
structure SameCore (w w' : World) : Prop where
  deliveries : w'.origins = w.origins
  webhooks : w'.cores = w.cores

namespace SameCore

lemma refl (w : World) : SameCore w w := ⟨rfl, rfl⟩

lemma trans (h : SameCore w w') (h' : SameCore w' w'') : SameCore w w'' :=
  ⟨h'.deliveries.trans h.deliveries, h'.webhooks.trans h.webhooks⟩

/-- A commit of the task writes outcomes only. -/
lemma save (w : World) (loaded cur : WebhookDelivery × Webhook) : SameCore w (w.save loaded cur).2 := by
  unfold World.save
  cases hdelivery : w.deliveries.get? cur.1.id with
  | none => exact .refl w
  | some delivery =>
    cases hwebhook : w.webhooks.get? cur.2.id with
    | none => exact .refl w
    | some webhook =>
      dsimp only
      split
      · have hid : cur.1.id = key delivery := (Table.get?_eq_some.1 hdelivery).2.symm
        have hwid : cur.2.id = key webhook := (Table.get?_eq_some.1 hwebhook).2.symm
        rw [hid] at hdelivery
        rw [hwid] at hwebhook
        exact ⟨Table.revise_put_of_eq _ hdelivery rfl, Table.revise_put_of_eq _ hwebhook rfl⟩
      · exact .refl w

/-- A delivery is found again, with its content. -/
lemma get?_delivery (h : SameCore w w') {k : ℤ} {delivery : WebhookDelivery}
    (hdelivery : w.deliveries.get? k = some delivery) :
    ∃ delivery', w'.deliveries.get? k = some delivery' ∧ delivery'.content = delivery.content := by
  have hmap : (w'.deliveries.get? k).map WebhookDelivery.origin = (w.deliveries.get? k).map WebhookDelivery.origin := by
    have hget : w'.origins.get? k = w.origins.get? k := by rw [h.deliveries]
    unfold World.origins at hget
    rwa [Table.get?_revise, Table.get?_revise] at hget
  rw [hdelivery] at hmap
  obtain ⟨delivery', hdelivery', horigin⟩ := Option.map_eq_some_iff.1 hmap
  have hcontent : delivery'.origin.content = delivery.origin.content := by rw [horigin]
  exact ⟨delivery', hdelivery', hcontent⟩

lemma contents (h : SameCore w w') : w'.contents = w.contents := by
  have hrows : w'.deliveries.rows.map WebhookDelivery.origin = w.deliveries.rows.map WebhookDelivery.origin :=
    congrArg Table.rows h.deliveries
  have hmap := congrArg (List.map WebhookDelivery.content) hrows
  rw [List.map_map, List.map_map] at hmap
  exact hmap

end SameCore

lemma tenantOf_eq (w : World) (webhookId : ℤ) : w.tenantOf webhookId = (w.cores.get? webhookId).bind Webhook.tenantId := by
  unfold World.tenantOf World.cores
  rw [Table.get?_revise]
  cases w.webhooks.get? webhookId <;> rfl

/-- The tenant of a webhook is not one of the columns of its last delivery. -/
lemma tenantOf_congr (h : w'.cores = w.cores) (webhookId : ℤ) : w'.tenantOf webhookId = w.tenantOf webhookId := by
  rw [tenantOf_eq, tenantOf_eq, h]

/-! ### Executions -/

/-- Every POST was made for a delivery, and carries its content. -/
def Faithful (lib : WebhookLibraries) (w : World) : Prop :=
  ∀ request ∈ w.posts, ∃ delivery, w.deliveries.get? request.deliveryId = some delivery ∧
    Carries lib delivery.content request

lemma carries_of_buildPost {delivery : WebhookDelivery} {webhook : Webhook} {timestamp : ℤ} {request : Post}
    (h : buildPost lib delivery webhook timestamp = .ok request) : Carries lib delivery.content request := by
  unfold buildPost at h
  obtain ⟨signature, -, h⟩ := bind_eq_ok.1 h
  cases h
  exact ⟨_, _, rfl⟩

/-- Deliveries keep their content. -/
lemma Faithful.later (h : Faithful lib w) (hsame : SameCore w w') (hposts : w'.posts = w.posts) : Faithful lib w' := by
  intro request hrequest
  rw [hposts] at hrequest
  obtain ⟨delivery, hdelivery, hcarries⟩ := h request hrequest
  obtain ⟨delivery', hdelivery', hcontent⟩ := hsame.get?_delivery hdelivery
  exact ⟨delivery', hdelivery', by rwa [hcontent]⟩

/-- What is so while the task is executed, since the world `w`. -/
structure Executing (lib : WebhookLibraries) (w w' : World) (stage : Stage) : Prop where
  same : SameCore w w'
  executes : stage ≠ .switch
  read : ∀ delivery, stage = .read delivery →
    ∃ delivery', w'.deliveries.get? delivery.id = some delivery' ∧ delivery'.content = delivery.content
  faithful : Faithful lib w → Faithful lib w'

/-- A record that is loaded first is the one that is read. -/
lemma Executing.load {stage : Stage} (h : Executing lib w w' stage) (k : ℤ) :
    Executing lib w w' (stage.next (.load k) (w'.getDeliveryWithWebhook k)) := by
  obtain ⟨hsame, -, -, hfaithful⟩ := h
  cases hpair : w'.getDeliveryWithWebhook k with
  | none => cases stage <;> exact ⟨hsame, by simp [Stage.next], by simp [Stage.next], hfaithful⟩
  | some pair =>
    obtain ⟨delivery, webhook⟩ := pair
    have hget := (getDeliveryWithWebhook_eq_some.1 hpair).1
    cases stage with
    | fresh =>
      refine ⟨hsame, by simp [Stage.next], fun first hfirst => ?_, hfaithful⟩
      obtain rfl : delivery = first := Stage.read.inj hfirst
      rw [show delivery.id = k from (Table.get?_eq_some.1 hget).2]
      exact ⟨delivery, hget, rfl⟩
    | read | reread | done | switch => exact ⟨hsame, by simp [Stage.next], by simp [Stage.next], hfaithful⟩

/-- The POST of a record that was read carries its content. -/
lemma Executing.faithful_post {delivery : WebhookDelivery} (h : Executing lib w w' (.read delivery)) {webhook : Webhook}
    {timestamp : ℤ} {request : Post} (hbuilt : buildPost lib delivery webhook timestamp = .ok request)
    (hw : Faithful lib w) : Faithful lib (serve (.post request) w').2 := by
  obtain ⟨delivery', hdelivery', hcontent⟩ := h.read delivery rfl
  intro other hother
  rcases List.mem_cons.1 hother with rfl | hother
  · rw [← buildPost_deliveryId hbuilt] at hdelivery'
    refine ⟨delivery', hdelivery', ?_⟩
    rw [hcontent]
    exact carries_of_buildPost hbuilt
  · exact h.faithful hw other hother

lemma Executing.effect {stage : Stage} {e : Eff} (h : Executing lib w w' stage) (hallow : stage.Allows lib e) :
    Executing lib w (serve e w').2 (stage.next e (serve e w').1) := by
  cases e with
  | load k => exact h.load k
  | now =>
    have hnext : stage.next .now (serve .now w').1 = stage := by cases stage <;> rfl
    rw [hnext]
    exact ⟨⟨h.same.deliveries, h.same.webhooks⟩, h.executes, h.read, h.faithful⟩
  | post request =>
    have hnext : stage.next (.post request) (serve (.post request) w').1 = stage := by cases stage <;> rfl
    rw [hnext]
    refine ⟨⟨h.same.deliveries, h.same.webhooks⟩, h.executes, h.read, fun hw => ?_⟩
    cases stage with
    | read delivery =>
      obtain ⟨-, webhook, timestamp, hbuilt⟩ := hallow
      exact h.faithful_post hbuilt hw
    | fresh | reread | done | switch => exact hallow.elim
  | save loaded cur =>
    have hnext : stage.next (.save loaded cur) (serve (.save loaded cur) w').1 = .done := by cases stage <;> rfl
    rw [hnext]
    have hsave := SameCore.save w' loaded cur
    exact ⟨h.same.trans hsave, by simp, by simp, fun hw => (h.faithful hw).later hsave (posts_save w' loaded cur)⟩
  | setActive webhookId isActive =>
    cases stage with
    | switch => exact absurd rfl h.executes
    | fresh | read | reread | done => exact hallow.elim

/-- **An execution** writes outcomes only, and what it sends is the content of a delivery. -/
theorem executing_deliverWebhook (cfg : WebhookSettings) (lib : WebhookLibraries) (retries : ℕ) (deliveryId : ℤ)
    (w : World) : ∃ stage, Executing lib w ((deliverWebhook cfg lib retries deliveryId).exec serve () w).world stage := by
  have hstart : Executing lib w w .fresh := ⟨.refl w, by simp, by simp, id⟩
  have hscript : Wp (watch lib) (deliverWebhook cfg lib retries deliveryId) () .fresh (fun _ _ _ => True)
      fun _ _ _ => True := wp_deliverWebhook retries deliveryId
  obtain ⟨stage, hstage, -⟩ := hscript.exec (I := Executing lib w) (fun _ _ _ hallow h => h.effect hallow) hstart
  exact ⟨stage, hstage⟩

/-! ### One item -/

section Step

variable {event : Event} {s s' : Engine} {webhooks : List Webhook} {item : Item} {users : Table Identity.User}

/-- Every delivery is for a webhook of the table. -/
def Linked (w : World) : Prop :=
  ∀ content ∈ w.contents, ∃ webhook, w.webhooks.get? content.webhookId = some webhook

lemma received_congr (hcontents : w'.contents = w.contents)
    (htenant : ∀ content ∈ w.contents, w'.tenantOf content.webhookId = w.tenantOf content.webhookId) :
    w'.received tenant = w.received tenant := by
  unfold World.received
  rw [hcontents]
  refine List.filter_congr fun content hcontent => ?_
  rw [htenant content hcontent]

lemma Dispatched.contents (h : Dispatched cfg event webhooks s s') :
    s'.world.contents = s.world.contents ++ webhooks.map event.content := by
  obtain ⟨new, hnew, hcontents, -⟩ := h.rows
  unfold World.contents
  rw [hnew, List.map_append, hcontents]

lemma Dispatched.received (h : Dispatched cfg event webhooks s s') (tenant : ℤ) :
    s'.world.received tenant = s.world.received tenant ++
      (webhooks.map event.content).filter fun content => s.world.tenantOf content.webhookId == some tenant := by
  have htenant : ∀ webhookId, s'.world.tenantOf webhookId = s.world.tenantOf webhookId := by
    intro webhookId
    unfold World.tenantOf
    rw [h.webhooks]
  unfold World.received
  simp only [h.contents, List.filter_append, htenant]

lemma tenantOf_of_mem {webhook : Webhook} (h : webhook ∈ w.webhooks.rows) : w.tenantOf webhook.id = webhook.tenantId := by
  have hget : w.webhooks.get? webhook.id = some webhook := Table.get?_key h
  unfold World.tenantOf
  rw [hget]
  rfl

lemma get?_put_webhook {t : Table Webhook} {k : ℤ} {webhook : Webhook} (x : Webhook) (h : t.get? k = some webhook) :
    ∃ webhook', (t.put x).get? k = some webhook' := by
  rw [Table.get?_of_rows (Table.key_overwrite x) rfl, h]
  exact ⟨_, rfl⟩

/-- A write of a request does not change whose webhook it is. -/
lemma tenantOf_edit {webhook : Webhook} {k : ℤ} (changes : WebhookEdit) (h : w.webhooks.get? k = some webhook)
    (webhookId : ℤ) :
    ({ w with webhooks := w.webhooks.put (changes.apply webhook) } : World).tenantOf webhookId =
      w.tenantOf webhookId := by
  obtain ⟨hmem, hkey⟩ := Table.get?_eq_some.1 h
  unfold World.tenantOf
  dsimp only
  rw [Table.get?_of_rows (Table.key_overwrite _) rfl]
  cases hget : w.webhooks.get? webhookId with
  | none => rfl
  | some other =>
    obtain ⟨hother, hk⟩ := Table.get?_eq_some.1 hget
    show (Table.overwrite (changes.apply webhook) other).tenantId = other.tenantId
    unfold Table.overwrite
    split
    · rename_i hsame
      obtain rfl : other = webhook := w.webhooks.key_injOn hother hmem hsame
      rfl
    · rfl

/-- **The webhooks** of deliveries stay. -/
theorem linked_step (h : Linked s.world) (item : Item) : Linked (item.step cfg lib s).world := by
  cases item with
  | event event =>
    have hdispatched := dispatched_handleEvent cfg event s
    intro content hcontent
    change content ∈ (handleEvent cfg event s).world.contents at hcontent
    show ∃ webhook, (handleEvent cfg event s).world.webhooks.get? content.webhookId = some webhook
    rw [hdispatched.contents, List.mem_append] at hcontent
    rw [hdispatched.webhooks]
    rcases hcontent with hcontent | hcontent
    · exact h content hcontent
    · obtain ⟨webhook, hwebhook, rfl⟩ := List.mem_map.1 hcontent
      exact ⟨webhook, Table.get?_key (mem_of_recipients hwebhook)⟩
  | deliver retries deliveryId =>
    obtain ⟨stage, hstage⟩ := executing_deliverWebhook cfg lib retries deliveryId s.world
    intro content hcontent
    unfold Item.step at hcontent ⊢
    rw [hstage.same.contents] at hcontent
    obtain ⟨webhook, hwebhook⟩ := h content hcontent
    have hcore := congrArg (fun t => t.get? content.webhookId) hstage.same.webhooks
    unfold World.cores at hcore
    rw [Table.get?_revise, Table.get?_revise, hwebhook] at hcore
    obtain ⟨webhook', hwebhook', -⟩ := Option.map_eq_some_iff.1 hcore
    exact ⟨webhook', hwebhook'⟩
  | register webhook =>
    intro content hcontent
    obtain ⟨found, hfound⟩ := h content hcontent
    exact ⟨found, Table.get?_insert_of_some hfound⟩
  | edit webhookId changes =>
    unfold Item.step
    dsimp only
    cases hget : s.world.webhooks.get? webhookId with
    | none => exact h
    | some webhook =>
      intro content hcontent
      obtain ⟨found, hfound⟩ := h content hcontent
      exact get?_put_webhook _ hfound
  | prefer preferences => exact h

/-- **POSTs** stay faithful. -/
theorem faithful_step (h : Faithful lib s.world) (item : Item) : Faithful lib (item.step cfg lib s).world := by
  cases item with
  | event event =>
    have hdispatched := dispatched_handleEvent cfg event s
    obtain ⟨new, hnew, -⟩ := hdispatched.rows
    intro request hrequest
    change request ∈ (handleEvent cfg event s).world.posts at hrequest
    rw [hdispatched.posts] at hrequest
    obtain ⟨delivery, hdelivery, hcarries⟩ := h request hrequest
    obtain ⟨hmem, hkey⟩ := Table.get?_eq_some.1 hdelivery
    refine ⟨delivery, Table.get?_eq_some.2 ⟨?_, hkey⟩, hcarries⟩
    show delivery ∈ (handleEvent cfg event s).world.deliveries.rows
    rw [hnew]
    exact List.mem_append_left _ hmem
  | deliver retries deliveryId =>
    obtain ⟨stage, hstage⟩ := executing_deliverWebhook cfg lib retries deliveryId s.world
    exact hstage.faithful h
  | register webhook => exact h
  | edit webhookId changes =>
    unfold Item.step
    dsimp only
    cases s.world.webhooks.get? webhookId with
    | none => exact h
    | some webhook => exact h
  | prefer preferences => exact h

/-- **What a tenant gets** changes with events only. -/
theorem received_step (h : Linked s.world) (item : Item) (hitem : ∀ event, item ≠ .event event) :
    (item.step cfg lib s).world.received tenant = s.world.received tenant := by
  cases item with
  | event event => exact absurd rfl (hitem event)
  | deliver retries deliveryId =>
    obtain ⟨stage, hstage⟩ := executing_deliverWebhook cfg lib retries deliveryId s.world
    exact received_congr hstage.same.contents fun content _ => tenantOf_congr hstage.same.webhooks _
  | register webhook =>
    refine received_congr rfl fun content hcontent => ?_
    obtain ⟨found, hfound⟩ := h content hcontent
    show ((s.world.webhooks.insert webhook).get? content.webhookId).bind Webhook.tenantId =
      (s.world.webhooks.get? content.webhookId).bind Webhook.tenantId
    rw [Table.get?_insert_of_some hfound, hfound]
  | edit webhookId changes =>
    unfold Item.step
    dsimp only
    cases hget : s.world.webhooks.get? webhookId with
    | none => rfl
    | some webhook => exact received_congr rfl fun content _ => tenantOf_edit changes hget _
  | prefer preferences => rfl

/-! ### Two runs -/

/-- A tenant sees no difference. -/
structure Alike (tenant : ℤ) (s s' : Engine) : Prop where
  preferences : s'.preferences = s.preferences
  webhooks : s'.world.cores = s.world.cores
  received : s'.world.received tenant = s.world.received tenant

/-- The selection does not depend on the last deliveries of the webhooks. -/
lemma contents_recipients (cfg : WebhookSettings) (event : Event) (s : Engine) :
    (recipients cfg event s).map event.content =
      if Dispatches cfg s event then (getActiveForEventType s.world.cores event.eventType).map event.content else [] := by
  unfold recipients
  split
  · show _ = (((s.world.webhooks.rows.map Webhook.core).filter Webhook.isActive).filter
      fun webhook => webhook.subscribed event.eventType).map event.content
    rw [List.filter_map, List.filter_map, List.map_map]
    rfl
  · rfl

lemma dispatches_congr (h : s'.preferences = s.preferences) : Dispatches cfg s' event ↔ Dispatches cfg s event := by
  unfold Dispatches
  rw [h]

/-- An event that both runs handle. -/
lemma alike_event (h : Alike tenant s s') (event : Event) :
    Alike tenant (handleEvent cfg event s) (handleEvent cfg event s') := by
  have hdispatched := dispatched_handleEvent cfg event s
  have hdispatched' := dispatched_handleEvent cfg event s'
  refine ⟨?_, ?_, ?_⟩
  · rw [hdispatched.preferences, hdispatched'.preferences, h.preferences]
  · have hcores := h.webhooks
    unfold World.cores at hcores ⊢
    rwa [hdispatched.webhooks, hdispatched'.webhooks]
  · have htenant := tenantOf_congr h.webhooks
    rw [hdispatched.received, hdispatched'.received, contents_recipients, contents_recipients, h.received, h.webhooks]
    simp only [dispatches_congr h.preferences, htenant]

/-- A foreign event that one run handles. -/
lemma alike_foreign (h : Alike tenant s s') (hforeign : (Item.event event).foreign users tenant = true)
    (hcontained : Contained cfg users s (.event event)) : Alike tenant (handleEvent cfg event s) s' := by
  have hdispatched := dispatched_handleEvent cfg event s
  refine ⟨h.preferences.trans hdispatched.preferences.symm, ?_, ?_⟩
  · rw [h.webhooks]
    unfold World.cores
    rw [hdispatched.webhooks]
  · rw [h.received, hdispatched.received, List.filter_eq_nil_iff.2, List.append_nil]
    intro content hcontent
    obtain ⟨webhook, hwebhook, rfl⟩ := List.mem_map.1 hcontent
    obtain ⟨other, hother, hne⟩ := List.any_eq_true.1 hforeign
    have htenant : s.world.tenantOf webhook.id = webhook.tenantId := tenantOf_of_mem (mem_of_recipients hwebhook)
    unfold recipients at hwebhook
    split at hwebhook
    · rename_i hdispatches
      show ¬(s.world.tenantOf webhook.id == some tenant) = true
      rw [htenant, beq_iff_eq]
      rcases hcontained hdispatches other hother webhook hwebhook with hnone | hsome
      · simp [hnone]
      · simpa [hsome] using hne
    · cases hwebhook

/-- A write of a request does the same, whatever the last deliveries were. -/
lemma cores_edit (s : Engine) (webhookId : ℤ) (changes : WebhookEdit) :
    ((Item.edit webhookId changes).step cfg lib s).world.cores =
      (s.world.cores.get? webhookId).elim s.world.cores fun webhook => s.world.cores.put (changes.apply webhook) := by
  have hget : s.world.cores.get? webhookId = (s.world.webhooks.get? webhookId).map Webhook.core :=
    Table.get?_revise Webhook.key_core webhookId
  rw [hget]
  unfold Item.step
  dsimp only
  cases s.world.webhooks.get? webhookId with
  | none => rfl
  | some webhook => exact Table.revise_put Webhook.key_core (changes.apply webhook)

/-- What both runs do. -/
theorem alike_step (h : Alike tenant s s') (hlinked : Linked s.world) (hlinked' : Linked s'.world) (item : Item) :
    Alike tenant (item.step cfg lib s) (item.step cfg lib s') := by
  cases item with
  | event event => exact alike_event h event
  | deliver retries deliveryId =>
    refine ⟨h.preferences, ?_, ?_⟩
    · obtain ⟨stage, hstage⟩ := executing_deliverWebhook cfg lib retries deliveryId s.world
      obtain ⟨stage', hstage'⟩ := executing_deliverWebhook cfg lib retries deliveryId s'.world
      exact hstage'.same.webhooks.trans (h.webhooks.trans hstage.same.webhooks.symm)
    · rw [received_step hlinked _ (by simp), received_step hlinked' _ (by simp), h.received]
  | register webhook =>
    refine ⟨h.preferences, Table.revise_insert_congr h.webhooks webhook, ?_⟩
    rw [received_step hlinked _ (by simp), received_step hlinked' _ (by simp), h.received]
  | edit webhookId changes =>
    refine ⟨?_, ?_, ?_⟩
    · unfold Item.step
      dsimp only
      split <;> split <;> exact h.preferences
    · rw [cores_edit, cores_edit, h.webhooks]
    · rw [received_step hlinked _ (by simp), received_step hlinked' _ (by simp), h.received]
  | prefer preferences => exact ⟨rfl, h.webhooks, h.received⟩

/-- **A whole stream**, and the same without the events that concern other tenants. -/
theorem alike_after {items : List Item} (h : Alike tenant s s') (hlinked : Linked s.world) (hlinked' : Linked s'.world)
    (hcontained : Each (Item.step cfg lib) (Contained cfg users) s items) :
    Alike tenant (after (Item.step cfg lib) s items)
      (after (Item.step cfg lib) s' (items.filter fun item => !item.foreign users tenant)) := by
  induction items generalizing s s' with
  | nil => exact h
  | cons item items ih =>
    have hnext : Linked (item.step cfg lib s).world := linked_step hlinked item
    cases hforeign : item.foreign users tenant with
    | false =>
      rw [List.filter_cons_of_pos (by rw [hforeign]; rfl)]
      exact ih (alike_step h hlinked hlinked' item) hnext (linked_step hlinked' item) hcontained.2
    | true =>
      rw [List.filter_cons_of_neg (by rw [hforeign]; exact Bool.false_ne_true)]
      refine ih ?_ hnext hlinked' hcontained.2
      cases item with
      | event event => exact alike_foreign h hforeign hcontained.1
      | deliver | register | edit | prefer => cases hforeign

/-- **One event** is scoped if and only if the webhooks that get it are. -/
theorem scoped_iff (cfg : WebhookSettings) (users : Table Identity.User) (s : Engine) (item : Item) :
    Scoped cfg users s item ↔ Contained cfg users s item := by
  cases item with
  | deliver | register | edit | prefer => exact Iff.rfl
  | event event =>
    obtain ⟨new, hnew, hcontents, hall⟩ := (dispatched_handleEvent cfg event s).rows
    have hfresh : ∀ delivery ∈ new, delivery ∉ s.world.deliveries.rows := by
      intro delivery hdelivery hold
      have hbelow : delivery.id < s.world.deliveries.next := s.world.deliveries.below delivery hold
      have hnext := (hall delivery hdelivery).1
      omega
    constructor
    · intro hscoped hdispatches tenant htenant webhook hwebhook
      have hrecipient : webhook ∈ recipients cfg event s := by
        unfold recipients
        rwa [if_pos hdispatches]
      have hcontent : event.content webhook ∈ new.map WebhookDelivery.content := by
        rw [hcontents]
        exact List.mem_map_of_mem hrecipient
      obtain ⟨delivery, hdelivery, heq⟩ := List.mem_map.1 hcontent
      have hid : delivery.webhookId = webhook.id := congrArg Content.webhookId heq
      have hmem : delivery ∈ (handleEvent cfg event s).world.deliveries.rows := by
        rw [hnew]
        exact List.mem_append_right _ hdelivery
      have hscope := hscoped tenant htenant delivery hmem (hfresh delivery hdelivery)
      rwa [hid, tenantOf_of_mem (mem_of_recipients hrecipient)] at hscope
    · intro hcontained tenant htenant delivery hdelivery hold
      rw [hnew] at hdelivery
      have hdelivery := (List.mem_append.1 hdelivery).resolve_left hold
      have hcontent : delivery.content ∈ (recipients cfg event s).map event.content := by
        rw [← hcontents]
        exact List.mem_map_of_mem hdelivery
      obtain ⟨webhook, hwebhook, heq⟩ := List.mem_map.1 hcontent
      have hid : webhook.id = delivery.webhookId := congrArg Content.webhookId heq
      rw [← hid, tenantOf_of_mem (mem_of_recipients hwebhook)]
      unfold recipients at hwebhook
      split at hwebhook
      · rename_i hdispatches
        exact hcontained hdispatches tenant htenant webhook hwebhook
      · cases hwebhook

end Step

/-- **When tenants are isolated**: if and only if, whenever an event is dispatched, the webhooks that are subscribed to
it are of the tenants it concerns, or of none. -/
theorem tenant_isolation_iff (cfg : WebhookSettings) (lib : WebhookLibraries) (users : Table Identity.User) (s : Engine)
    (hlinked : Linked s.world) (hposts : s.world.posts = []) (items : List Item) :
    TenantIsolated cfg lib users s items ↔ Each (Item.step cfg lib) (Contained cfg users) s items := by
  constructor
  · intro h
    exact (each_congr (scoped_iff cfg users)).1 h.scope
  · intro hcontained
    have halike : ∀ tenant, Alike tenant (after (Item.step cfg lib) s items) (after (Item.step cfg lib) s
        (items.filter fun item => !item.foreign users tenant)) := fun tenant =>
      alike_after ⟨rfl, rfl, rfl⟩ hlinked hlinked hcontained
    have hstart : Faithful lib s.world := by
      intro request hrequest
      rw [hposts] at hrequest
      cases hrequest
    have hfaithful : Faithful lib (after (Item.step cfg lib) s items).world :=
      after_keeps (I := fun s : Engine => Faithful lib s.world) (fun _ item h => faithful_step h item) hstart
    refine ⟨(each_congr (scoped_iff cfg users)).2 hcontained, fun tenant => (halike tenant).received.symm, ?_⟩
    intro tenant request hrequest
    obtain ⟨hrequest, hto⟩ := List.mem_filter.1 hrequest
    obtain ⟨delivery, hdelivery, hcarries⟩ := hfaithful request hrequest
    rw [hdelivery] at hto
    refine ⟨delivery.content, ?_, hcarries⟩
    rw [(halike tenant).received]
    exact List.mem_filter.2 ⟨List.mem_map_of_mem (Table.get?_eq_some.1 hdelivery).1, hto⟩

namespace Sample

/-- The subscription of tenant 1 is canceled. -/
def canceled : Event where
  eventType := "billing.subscription.canceled"
  payload := [("tenant_id", .int 1)]
  id := "evt_2"
  timestamp := "1970-01-01T00:16:40+00:00"

/-- Webhook 1 of tenant 1 and webhook 2 of tenant 2, both subscribed to all events. -/
def shared : Engine where
  world := { created (.response 200 "ok") with
    deliveries := Table.empty
    webhooks := (Table.empty.insert { hook with tenantId := some 1 }).insert { hook with tenantId := some 2 } }

end Sample

open Sample in
/-- Tenant 2 gets the event of tenant 1. -/
theorem tenants_not_isolated : ¬TenantIsolated {} libraries Table.empty shared [.event canceled] := by
  intro h
  have hlength := congrArg List.length (h.independent 2)
  exact absurd hlength (by decide +kernel)

open Sample in
/-- One event and its delivery. -/
theorem tenant_isolation_shared :
    TenantIsolated {} libraries Table.empty shared [.event canceled, .deliver 0 1] ↔
      Each (Item.step {} libraries) (Contained {} Table.empty) shared [.event canceled, .deliver 0 1] :=
  tenant_isolation_iff {} libraries Table.empty shared (by intro content h; cases h) rfl _

end FastapiTemplate.Notifications
