import FastapiTemplate.Core.Errors

/-!
# The database: tables, constraints, commits

A `Db S` is a state of the billing tables that the schema `S` admits; the constraints are a field, so
a state they exclude cannot be built. The schemas differ in one thing: the migrations put a `CHECK`
on `subscriptions.status`, the metadata of the ORM (`create_all`, which the tests use) do not.

A commit writes the session's changes one after another and is refused as a whole if the tables they
lead to are not admitted. An `UPDATE` holds its row until the transaction ends, so the changes of one
commit are applied here in one step, over what is committed by then.
-/

namespace FastapiTemplate.Database

open Core Store

structure Tables where
  plans : Table Plan
  users : Table User
  subscriptions : Table Subscription
  invoices : Table Invoice
  stripeEvents : Table StripeEvent

/-- Tables filled by inserting rows, which number them from one. -/
def Tables.seed (plans : List Plan) (users : List User) (subscriptions : List Subscription)
    (invoices : List Invoice) : Tables where
  plans := plans.foldl Table.insert .empty
  users := users.foldl Table.insert .empty
  subscriptions := subscriptions.foldl Table.insert .empty
  invoices := invoices.foldl Table.insert .empty
  stripeEvents := .empty

/-- What differs between schemas: the values a `CHECK` on `subscriptions.status` lists, if there is
one. -/
structure Schema where
  ckSubscriptionsStatus : Option (List String)

namespace Schema

/-- The schema after migrations `018` to `022`; none of the later ones touches the `CHECK`. -/
def migrated : Schema := ⟨some ["trialing", "active", "past_due", "canceled"]⟩

/-- The schema of the ORM's metadata. -/
def metadata : Schema := ⟨none⟩

/-- The status column accepts a value. -/
def accepts (S : Schema) (s : SubscriptionStatus) : Bool :=
  match S.ckSubscriptionsStatus with
  | none => true
  | some values => values.contains s.value

end Schema

/-! ### Constraints -/

/-- A unique index over `f`; a row where `f` is `none` is not indexed. -/
def uniqueOn {α β : Type} [DecidableEq β] (f : α → Option β) (t : List α) : Bool :=
  decide (t.filterMap f).Nodup

/-- `uq_live_subscription_per_tenant` -/
def liveTenant (s : Subscription) : Option ℤ := if s.isLive then s.tenantId else none

/-- `uq_invoice_per_subscription_period` -/
def billedPeriod (i : Invoice) : Option (ℤ × Python.Datetime) :=
  if i.status = .void then none else some (i.subscriptionId, i.periodStart)

def Schema.admits (S : Schema) (t : Tables) : Bool :=
  t.subscriptions.rows.all (fun s => S.accepts s.status) &&
  uniqueOn liveTenant t.subscriptions.rows &&
  uniqueOn Subscription.stripeSubscriptionId t.subscriptions.rows &&
  uniqueOn billedPeriod t.invoices.rows &&
  uniqueOn (fun e : StripeEvent => some e.eventId) t.stripeEvents.rows

/-- What the constraints say, one by one. -/
structure Schema.Admitted (S : Schema) (t : Tables) : Prop where
  status : ∀ x ∈ t.subscriptions.rows, S.accepts x.status = true
  live : uniqueOn liveTenant t.subscriptions.rows = true
  stripe : uniqueOn Subscription.stripeSubscriptionId t.subscriptions.rows = true
  period : uniqueOn billedPeriod t.invoices.rows = true
  event : uniqueOn (fun e : StripeEvent => some e.eventId) t.stripeEvents.rows = true

theorem Schema.admits_iff {S : Schema} {t : Tables} : S.admits t = true ↔ S.Admitted t := by
  unfold Schema.admits
  simp only [Bool.and_eq_true, List.all_eq_true]
  constructor
  · rintro ⟨⟨⟨⟨hstatus, hlive⟩, hstripe⟩, hperiod⟩, hevent⟩
    exact ⟨hstatus, hlive, hstripe, hperiod, hevent⟩
  · rintro ⟨hstatus, hlive, hstripe, hperiod, hevent⟩
    exact ⟨⟨⟨⟨hstatus, hlive⟩, hstripe⟩, hperiod⟩, hevent⟩

/-- A committed state of the database. -/
structure Db (S : Schema) where
  tables : Tables
  admitted : S.admits tables = true

namespace Db

variable {S : Schema}

abbrev plans (d : Db S) : Table Plan := d.tables.plans
abbrev users (d : Db S) : Table User := d.tables.users
abbrev subscriptions (d : Db S) : Table Subscription := d.tables.subscriptions
abbrev invoices (d : Db S) : Table Invoice := d.tables.invoices
abbrev stripeEvents (d : Db S) : Table StripeEvent := d.tables.stripeEvents

theorem constraints (d : Db S) : S.Admitted d.tables := Schema.admits_iff.1 d.admitted

end Db

/-! ### Changes -/

/-- One pending change of a session: a new row, or the image of a row as loaded and as it is now. -/
inductive Change where
  | insertSubscription (row : Subscription)
  | updateSubscription (loaded cur : Subscription)
  | insertInvoice (row : Invoice)
  | updateInvoice (loaded cur : Invoice)
  | insertStripeEvent (row : StripeEvent)
  | updateStripeEvent (loaded cur : StripeEvent)

/-- The statement of one change, with the key an `INSERT` draws. An object nothing changed has no
statement. -/
def Change.apply : Change → Tables → Except Exn (List ℤ × Tables)
  | .insertSubscription row, t =>
    .ok ([t.subscriptions.next], { t with subscriptions := t.subscriptions.insert row })
  | .updateSubscription loaded cur, t =>
    if cur = loaded then .ok ([], t)
    else match t.subscriptions.get? loaded.id with
      | none => .error .staleData
      | some row =>
        .ok ([], { t with subscriptions := t.subscriptions.put (loaded.writeBack cur row) })
  | .insertInvoice row, t => .ok ([t.invoices.next], { t with invoices := t.invoices.insert row })
  | .updateInvoice loaded cur, t =>
    if cur = loaded then .ok ([], t)
    else match t.invoices.get? loaded.id with
      | none => .error .staleData
      | some row => .ok ([], { t with invoices := t.invoices.put (loaded.writeBack cur row) })
  | .insertStripeEvent row, t =>
    .ok ([t.stripeEvents.next], { t with stripeEvents := t.stripeEvents.insert row })
  | .updateStripeEvent loaded cur, t =>
    if cur = loaded then .ok ([], t)
    else match t.stripeEvents.get? loaded.id with
      | none => .error .staleData
      | some row =>
        .ok ([], { t with stripeEvents := t.stripeEvents.put (loaded.writeBack cur row) })

/-- The statements of all changes of a session, in their order. -/
def Tables.flush : List Change → Tables → Except Exn (List ℤ × Tables)
  | [], t => .ok ([], t)
  | c :: cs, t => do
    let (ids, t) ← c.apply t
    let (ids', t) ← t.flush cs
    return (ids ++ ids', t)

/-- `COMMIT`: the new state with the keys drawn, or the error and no change. -/
def Db.commit {S : Schema} (d : Db S) (cs : List Change) : Except Exn (List ℤ × Db S) :=
  match d.tables.flush cs with
  | .error e => .error e
  | .ok (ids, t) => if h : S.admits t = true then .ok (ids, ⟨t, h⟩) else .error .integrityError

/-- A committed state is where the flush leads. -/
theorem Db.commit_ok {S : Schema} {d d' : Db S} {cs : List Change} {ids : List ℤ}
    (h : d.commit cs = .ok (ids, d')) : d.tables.flush cs = .ok (ids, d'.tables) := by
  unfold Db.commit at h
  split at h
  · cases h
  · rename_i ids' t ht
    split at h
    · cases h; exact ht
    · cases h

end FastapiTemplate.Database
