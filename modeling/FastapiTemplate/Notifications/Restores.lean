import FastapiTemplate.Identity.ApiKeys
import FastapiTemplate.Notifications.Models

/-!
# Restoring what was deleted

Three endpoints restore a row of their table. `CRUDBase.restore` looks at the id only and commits, and whose row it
was is asked afterwards, differently in each of the three, and not at all for notifications.
`restores_respected_iff` says when nobody's rows are touched or shown.
-/

namespace FastapiTemplate.Notifications

open Python Store Identity

/-! ### Restore first, ask later -/

section Restore

open Keyed SoftDeletes

variable {α : Type} [SoftDeletes α] {sees : α → Bool} {owned : α → Bool} {id : ℤ} {t : Table α}
  {Foreign : α → Prop}

/-- Restores the row with this id, and answers 404 if there was none to restore or it is not owned. -/
def restoreThenCheck (sees owned : α → Bool) (detail : String) (id : ℤ) (t : Table α) : Except Exn α × Table α :=
  match CRUDBase.restore sees id t with
  | (none, t) => (.error (.http 404 detail), t)
  | (some obj, t) => (if owned obj then .ok obj else .error (.http 404 detail), t)

/-- A refusal changes nothing, the rows of others stay as they are, and none of them is answered. -/
structure Respects (Foreign : α → Prop) (t : Table α) (answer : Except Exn α × Table α) : Prop where
  refused : ∀ detail, answer.1 = .error (.http 404 detail) → answer.2 = t
  kept : ∀ r ∈ t.rows, Foreign r → r ∈ answer.2.rows
  content : ∀ r, answer.1 = .ok r → ¬Foreign r

/-- A row that is restored is not there any more as it was. -/
lemma notMem_put_of_deleted {r : α} (hdeleted : deletedAt r ≠ none) :
    r ∉ (t.put (withDeletedAt none r)).rows := by
  intro hmem
  rcases Table.mem_put hmem with heq | ⟨-, hne⟩
  · apply hdeleted
    rw [heq, deletedAt_withDeletedAt]
  · exact hne (key_withDeletedAt none r).symm

/-- **When such an endpoint respects owners**, if it takes the rows that are not foreign for owned: there is no
foreign row that it could restore. -/
theorem respects_restoreThenCheck_iff (howned : ∀ r, ¬Foreign r → owned r = true)
    (hmark : ∀ d r, Foreign (withDeletedAt d r) ↔ Foreign r) (detail : String) :
    Respects Foreign t (restoreThenCheck sees owned detail id t) ↔
      ∀ r, CRUDBase.Restorable sees id t r → ¬Foreign r := by
  unfold restoreThenCheck
  have hcases : (CRUDBase.restore sees id t = (none, t) ∧ _) ∨ _ := CRUDBase.restore_cases
  rcases hcases with ⟨hrestore, hnone⟩ | ⟨r, hr, hrestore⟩
  · rw [hrestore]
    exact iff_of_true ⟨fun _ _ => rfl, fun _ h _ => h, by simp⟩ fun r hr => (hnone r hr).elim
  · obtain ⟨hrow, hid, hsees, hdeleted⟩ := hr
    rw [hrestore]
    dsimp only
    constructor
    · rintro h r' ⟨hrow', hid', -⟩ hforeign
      rw [t.key_injOn hrow' hrow (hid'.trans hid.symm)] at hforeign
      exact notMem_put_of_deleted hdeleted (h.kept r hrow hforeign)
    · intro hown
      have hmine : ¬Foreign r := hown r ⟨hrow, hid, hsees, hdeleted⟩
      have hmine' : ¬Foreign (withDeletedAt none r) := fun h => hmine ((hmark none r).1 h)
      rw [if_pos (howned _ hmine')]
      refine ⟨by simp, fun x hx hforeign => ?_, fun r' h => ?_⟩
      · -- the restored row is not foreign, the others are not written
        have hne : key x ≠ key (withDeletedAt none r) := by
          rw [key_withDeletedAt]
          intro heq
          exact hmine (t.key_injOn hx hrow heq ▸ hforeign)
        exact List.mem_map.2 ⟨x, hx, Table.overwrite_of_ne hne⟩
      · rw [← Except.ok.inj h]
        exact hmine'

end Restore

/-! ### Who asks -/

/-- The user of a request, with the permissions of each of his roles. -/
structure Principal where
  id : ℤ
  tenantId : Option ℤ := none
  isSuperuser : Bool := false
  roles : List (List String) := []

/-- A request: its user, the tenant of its header, the scopes of its API key if it came with one. -/
structure RequestContext where
  user : Principal
  tenant : Option ℤ := none
  apiKeyScopes : Option (List String) := none

def hasPermission (user : Principal) (requiredPermissions : List String) : Bool :=
  if user.isSuperuser then true
  else if user.roles.isEmpty then false
  else requiredPermissions.all user.roles.flatten.contains

def checkApiKeyScope (apiKeyScopes requiredPermissions : List String) : Bool :=
  requiredPermissions.all apiKeyScopes.contains

/-- `PermissionChecker` -/
def checkPermissions (requiredPermissions : List String) (ctx : RequestContext) : Except Exn Unit :=
  if !hasPermission ctx.user requiredPermissions then .error (.http 403 "Not enough permissions")
  else
    match ctx.apiKeyScopes with
    | none => .ok ()
    | some scopes =>
      if checkApiKeyScope scopes requiredPermissions then .ok ()
      else .error (.http 403 "API key does not have the required scopes")

/-! ### The endpoints -/

/-- The tables. -/
structure Resources where
  apiKeys : Table ApiKey := Table.empty
  webhooks : Table Webhook := Table.empty
  notifications : Table Notification := Table.empty

/-- The engine shows the webhooks of the tenant of the request, if it has one. -/
def seesWebhook (ctx : RequestContext) (r : Webhook) : Bool :=
  match ctx.tenant with
  | none => true
  | some tenant => r.tenantId == some tenant

def restoreApiKey (apiKeyId : ℤ) (ctx : RequestContext) : Table ApiKey → Except Exn ApiKey × Table ApiKey :=
  restoreThenCheck (fun _ => true) (fun r => r.userId == ctx.user.id) "Deleted API key not found" apiKeyId

/-- `_get_owned_webhook` -/
def ownedWebhook (user : Principal) (r : Webhook) : Bool :=
  !(!user.isSuperuser && r.tenantId.isSome && r.tenantId != user.tenantId)

def restoreWebhook (webhookId : ℤ) (ctx : RequestContext) (t : Table Webhook) :
    Except Exn Webhook × Table Webhook :=
  match checkPermissions ["webhook:write"] ctx with
  | .error e => (.error e, t)
  | .ok () => restoreThenCheck (seesWebhook ctx) (ownedWebhook ctx.user) "Webhook not found" webhookId t

/-- `restore_notification`; `_get_owned_notification` only asks whether there is a row. -/
def restoreNotification (notificationId : ℤ) : Table Notification → Except Exn Notification × Table Notification :=
  restoreThenCheck (fun _ => true) (fun _ => true) "Notification not found" notificationId

/-! ### Owners -/

/-- The row is another user's, another tenant's. -/
def ForeignApiKey (ctx : RequestContext) (r : ApiKey) : Prop := r.userId ≠ ctx.user.id
def ForeignNotification (ctx : RequestContext) (r : Notification) : Prop := r.userId ≠ ctx.user.id
def ForeignWebhook (ctx : RequestContext) (r : Webhook) : Prop :=
  r.tenantId ≠ none ∧ r.tenantId ≠ ctx.user.tenantId

/-- A request to restore the row with an id. -/
inductive RestoreRequest where
  | apiKey (id : ℤ)
  | webhook (id : ℤ)
  | notification (id : ℤ)

/-- The endpoint respects the owners of the rows of its table. -/
def RespectsOwners (ctx : RequestContext) (db : Resources) : RestoreRequest → Prop
  | .apiKey id => Respects (ForeignApiKey ctx) db.apiKeys (restoreApiKey id ctx db.apiKeys)
  | .webhook id => Respects (ForeignWebhook ctx) db.webhooks (restoreWebhook id ctx db.webhooks)
  | .notification id => Respects (ForeignNotification ctx) db.notifications (restoreNotification id db.notifications)

/-- The request can restore nothing that is somebody else's: there is no such deleted row with the id that it
sees, or it is not permitted to write webhooks. -/
def Harmless (ctx : RequestContext) (db : Resources) : RestoreRequest → Prop
  | .apiKey id => ∀ r, CRUDBase.Restorable (fun _ => true) id db.apiKeys r → ¬ForeignApiKey ctx r
  | .webhook id => checkPermissions ["webhook:write"] ctx = .ok () →
      ∀ r, CRUDBase.Restorable (seesWebhook ctx) id db.webhooks r → ¬ForeignWebhook ctx r
  | .notification id =>
    ∀ r, CRUDBase.Restorable (fun _ => true) id db.notifications r → ¬ForeignNotification ctx r

variable {ctx : RequestContext} {db : Resources}

/-- **API keys.** -/
theorem respects_restoreApiKey_iff (id : ℤ) (t : Table ApiKey) :
    Respects (ForeignApiKey ctx) t (restoreApiKey id ctx t) ↔
      ∀ r, CRUDBase.Restorable (fun _ => true) id t r → ¬ForeignApiKey ctx r := by
  unfold restoreApiKey
  refine respects_restoreThenCheck_iff (fun r h => ?_) (fun _ _ => Iff.rfl) _
  exact beq_iff_eq.2 (not_not.1 h)

/-- **Notifications.** -/
theorem respects_restoreNotification_iff (id : ℤ) (t : Table Notification) :
    Respects (ForeignNotification ctx) t (restoreNotification id t) ↔
      ∀ r, CRUDBase.Restorable (fun _ => true) id t r → ¬ForeignNotification ctx r :=
  respects_restoreThenCheck_iff (fun _ _ => rfl) (fun _ _ => Iff.rfl) _

lemma ownedWebhook_of_not_foreign {r : Webhook} (h : ¬ForeignWebhook ctx r) : ownedWebhook ctx.user r = true := by
  unfold ForeignWebhook at h
  unfold ownedWebhook
  cases htenant : r.tenantId with
  | none => simp
  | some tenant =>
    have hsame : some tenant = ctx.user.tenantId := by
      by_contra hne
      exact h ⟨by simp [htenant], htenant ▸ hne⟩
    simp [← hsame]

/-- **Webhooks.** -/
theorem respects_restoreWebhook_iff (id : ℤ) (t : Table Webhook) :
    Respects (ForeignWebhook ctx) t (restoreWebhook id ctx t) ↔
      (checkPermissions ["webhook:write"] ctx = .ok () →
        ∀ r, CRUDBase.Restorable (seesWebhook ctx) id t r → ¬ForeignWebhook ctx r) := by
  unfold restoreWebhook
  cases hpermitted : checkPermissions ["webhook:write"] ctx with
  | error e => exact iff_of_true ⟨fun _ _ => rfl, fun _ h _ => h, by simp⟩ (by simp)
  | ok _ =>
    have hiff : Respects (ForeignWebhook ctx) t
        (restoreThenCheck (seesWebhook ctx) (ownedWebhook ctx.user) "Webhook not found" id t) ↔
          ∀ r, CRUDBase.Restorable (seesWebhook ctx) id t r → ¬ForeignWebhook ctx r := by
      refine respects_restoreThenCheck_iff (fun r h => ?_) (fun _ _ => Iff.rfl) _
      exact ownedWebhook_of_not_foreign h
    exact hiff.trans ⟨fun h _ => h, fun h => h rfl⟩

/-- **When restores respect owners**: a request that is answered 404 leaves the table as it is, and no row of
somebody else is changed or answered, if and only if the request can restore none. -/
theorem restores_respected_iff (ctx : RequestContext) (db : Resources) (request : RestoreRequest) :
    RespectsOwners ctx db request ↔ Harmless ctx db request := by
  cases request with
  | apiKey id => exact respects_restoreApiKey_iff id db.apiKeys
  | webhook id => exact respects_restoreWebhook_iff id db.webhooks
  | notification id => exact respects_restoreNotification_iff id db.notifications

namespace Sample

/-- User 1, of tenant 1, who may write webhooks. -/
def writer : RequestContext where
  user := { id := 1, tenantId := some 1, roles := [["webhook:write"]] }

/-- A deleted API key and a deleted notification of user 2, a deleted webhook of tenant 2. -/
def deleted : Resources where
  apiKeys := Table.empty.insert
    { userId := 2, name := "ci", keyPrefix := "ak_0a1b", hashedKey := "", deletedAt := some 0 }
  webhooks := Table.empty.insert
    { tenantId := some 2, name := "hook", url := "https://example.com", secret := "s", deletedAt := some 0 }
  notifications := Table.empty.insert
    { userId := 2, eventType := "user.created", title := "Welcome", deletedAt := some 0 }

end Sample

open Sample in
/-- User 1 restores all three: the API key and the webhook although he is answered 404, and the notification is
shown to him. -/
theorem restore_disrespects :
    ¬RespectsOwners writer deleted (.apiKey 1) ∧ ¬RespectsOwners writer deleted (.webhook 1) ∧
      ¬RespectsOwners writer deleted (.notification 1) := by
  refine ⟨fun h => ?_, fun h => ?_, fun h => ?_⟩
  · have hsame := congrArg Table.rows (h.refused _ rfl)
    exact absurd hsame (by decide)
  · have hsame := congrArg Table.rows (h.refused _ rfl)
    exact absurd hsame (by decide)
  · have hforeign : (2 : ℤ) ≠ 1 := by decide
    exact h.content _ rfl hforeign

end FastapiTemplate.Notifications
