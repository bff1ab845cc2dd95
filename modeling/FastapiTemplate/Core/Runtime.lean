import FastapiTemplate.Effects.Pool
import FastapiTemplate.Store.Counters
import FastapiTemplate.Core.Memory
import FastapiTemplate.Database.Schema

/-!
# The runtime: database session, event bus, Redis, clock

The effects of the application and the world they act on. Every round trip to the database or to
Redis, every publication, every access to the memory of a process and every reading of the clock is
one effect; so is entering a domain handler of the Stripe pipeline, which does nothing and is only
recorded. There is one clock: it is the wall clock, the monotonic clock and the clock of Redis.

* A query answers with the committed state of that moment (`READ COMMITTED`: every statement has its
  own snapshot); the `SELECT`s are functions of it.
* `Env` decides what the code does not: the readings of the clock, and which round trips and which
  publications fail.
* A `Session` is the ORM's unit of work. Its pending changes are written by `commit`
  (`autoflush=False`). After a failed statement the transaction is aborted and every further statement
  fails until `rollback`. `tenant` is the request's tenant context, which the engine adds to every
  `SELECT` on a tenant-scoped table. A rollback expires the rows that were loaded before it: reading an
  attribute of one raises. Whether a failed flush, which rolls back inside the ORM, expires them too is
  left open (`flushExpires`).
* A script's session is dropped when the script ends, which rolls back what was not committed.
-/

namespace FastapiTemplate.Core

open Effects Database Python Store

/-- An event; its random id and its timestamp are left out. -/
structure Event where
  eventType : String
  payload : Value
  userId : Option ℤ

/-- What the environment decides: the readings of the clock, the round trips to the database that
fail, the publications that raise, the round trips to Redis that fail, each in the order they are
made. -/
structure Env where
  clock : ℕ → Datetime
  dbFails : ℕ → Bool
  busFails : ℕ → Bool
  redisFails : ℕ → Bool

/-- The world. `published`, `entered` and `log` only record what happened: the events, the event ids
a handler was entered for, and the commits, each with the changes written and the state after it. -/
structure World (S : Schema) where
  db : Db S
  env : Env
  published : List Event := []
  entered : List String := []
  log : List (List Change × Db S) := []
  clockReads : ℕ := 0
  dbCalls : ℕ := 0
  busCalls : ℕ := 0
  redis : Counters String := Counters.empty
  redisCalls : ℕ := 0
  memory : Memory := fun _ _ => none

/-- What is sent to Redis: `INCRBY` with `EXPIRE` in one pipeline, or `GET`. -/
inductive RedisCommand where
  | incrby (key : String) (amount ttlSeconds : ℤ)
  | get (key : String)

inductive Eff where
  | now
  | query
  | commit (changes : List Change)
  | publish (event : Event)
  | enter (eventId : String)
  | redis (command : RedisCommand)
  | recollect (worker : ℕ) (tenantId : ℤ)
  | remember (worker : ℕ) (tenantId : ℤ) (e : Entitlements)

abbrev Answer (S : Schema) : Eff → Type
  | .now => Datetime
  | .query => Except Exn (Db S)
  | .commit _ => Except Exn (List ℤ)
  | .publish _ => Except Exn Unit
  | .enter _ => Unit
  | .redis _ => Except Exn (Option ℤ)
  | .recollect _ _ => Option Entitlements
  | .remember _ _ _ => Unit

variable {S : Schema} {α β : Type}

/-- A failed commit leaves the state; a successful one is logged. -/
def World.commit (w : World S) (cs : List Change) : Except Exn (List ℤ) × World S :=
  if w.env.dbFails w.dbCalls then (.error .operationalError, { w with dbCalls := w.dbCalls + 1 })
  else match w.db.commit cs with
    | .error e => (.error e, { w with dbCalls := w.dbCalls + 1 })
    | .ok (ids, d) =>
      (.ok ids, { w with db := d, log := w.log ++ [(cs, d)], dbCalls := w.dbCalls + 1 })

/-- What Redis does at a given time. -/
def RedisCommand.run (now : Datetime) (c : Counters String) : RedisCommand → Option ℤ × Counters String
  | .incrby key amount ttlSeconds =>
    let pulse : Pulse String := ⟨now, key, amount, ttlSeconds * second⟩
    (some (c.value now key + amount), c.add pulse)
  | .get key => (c.read now key, c)

/-- How the world answers. -/
def serve : Handler Eff (Answer S) (World S)
  | .now, w => (w.env.clock w.clockReads, { w with clockReads := w.clockReads + 1 })
  | .query, w =>
    (if w.env.dbFails w.dbCalls then .error .operationalError else .ok w.db,
      { w with dbCalls := w.dbCalls + 1 })
  | .commit cs, w => w.commit cs
  | .publish e, w =>
    if w.env.busFails w.busCalls then (.error .bus, { w with busCalls := w.busCalls + 1 })
    else (.ok (), { w with published := w.published ++ [e], busCalls := w.busCalls + 1 })
  | .enter eventId, w => ((), { w with entered := w.entered ++ [eventId] })
  | .redis command, w =>
    if w.env.redisFails w.redisCalls then (.error .redis, { w with redisCalls := w.redisCalls + 1 })
    else
      let (reply, redis) := command.run (w.env.clock w.clockReads) w.redis
      (.ok reply,
        { w with redis := redis, clockReads := w.clockReads + 1, redisCalls := w.redisCalls + 1 })
  | .recollect worker tenantId, w => (w.memory worker tenantId, w)
  | .remember worker tenantId e, w => ((), { w with memory := w.memory.set worker tenantId e })

/-! ### The session -/

/-- The unit of work; `expirations` counts how often the loaded rows have been expired. -/
structure Session where
  tenant : Option ℤ := none
  pending : List Change := []
  aborted : Bool := false
  flushExpires : Bool := true
  expirations : ℕ := 0

/-- The session after a failed flush. -/
def Session.broken (s : Session) : Session :=
  { s with
    aborted := true
    expirations := if s.flushExpires then s.expirations + 1 else s.expirations }

/-- The session after `rollback`. -/
def Session.rolledBack (s : Session) : Session :=
  { s with pending := [], aborted := false, expirations := s.expirations + 1 }

/-- Application code. -/
abbrev Py (S : Schema) (α : Type) : Type := Script Eff (Answer S) Session Exn α

/-- An ORM object: the image of its row as loaded, and as the code has changed it since. -/
structure Entity (α : Type) where
  loaded : α
  cur : α

namespace Entity

def of (a : α) : Entity α := ⟨a, a⟩

def set (o : Entity α) (f : α → α) : Entity α := ⟨o.loaded, f o.cur⟩

end Entity

/-- The row belongs to the tenant context, if there is one. -/
def visible (current tenant : Option ℤ) : Bool :=
  match current with
  | none => true
  | some t => tenant == some t

/-- `scalar_one_or_none` -/
def scalarOneOrNone : List α → Except Exn (Option α)
  | [] => .ok none
  | [a] => .ok (some a)
  | _ => .error .multipleResultsFound

open Script

/-- `datetime.now(UTC)` -/
def datetimeNow : Py S Datetime := perform Eff.now

/-- A failed statement aborts the transaction. -/
def abort (e : Exn) : Py S α := do
  modifyState fun s => { s with aborted := true }
  throw e

/-- Goes on with the answer of a statement, if it has not failed. -/
def orAbort (f : α → Py S β) : Except Exn α → Py S β
  | .ok a => f a
  | .error e => abort e

/-- One `SELECT`. -/
def execute (q : Db S → α) : Py S α := do
  if (← getState).aborted then throw .inFailedTransaction
  else
    let answer : Except Exn (Db S) ← perform Eff.query
    orAbort (fun d => pure (q d)) answer

/-- A `SELECT` on a tenant-scoped table. -/
def select (rows : Db S → List α) (tenant : α → Option ℤ) (p : α → Bool) : Py S (List α) := do
  let current := (← getState).tenant
  execute fun d => (rows d).filter fun r => visible current (tenant r) && p r

/-- `db.add` of an object, new or changed. -/
def add (c : Change) : Py S Unit := modifyState fun s => { s with pending := s.pending ++ [c] }

/-- What follows the flush of a commit. -/
def flushed : Except Exn (List ℤ) → Py S (List ℤ)
  | .ok ids => do
    modifyState fun s => { s with pending := [] }
    pure ids
  | .error e => do
    modifyState Session.broken
    throw e

/-- `db.commit()`, with the keys of the new rows. -/
def commit : Py S (List ℤ) := do
  let s ← getState
  if s.aborted then throw .inFailedTransaction
  else
    let answer : Except Exn (List ℤ) ← perform (Eff.commit s.pending)
    flushed answer

/-- `db.rollback()` -/
def rollback : Py S Unit := modifyState Session.rolledBack

/-- Reading attributes of rows that were loaded when the rows had been expired `loaded` times. -/
def attributes (loaded : ℕ) : Py S Unit := do
  if (← getState).expirations = loaded then return () else throw .missingGreenlet

/-- `db.refresh` of the object whose row is selected by its key. -/
def refresh (rows : Db S → List α) (tenant : α → Option ℤ) (p : α → Bool) : Py S α := do
  match ← select rows tenant p with
  | row :: _ => return row
  | [] => throw .invalidRequest

def refreshSubscription (id : ℤ) : Py S Subscription :=
  refresh (fun d => d.subscriptions.rows) Subscription.tenantId fun s => s.id == id

/-- The event bus of the application; code without an event context has none. -/
structure EventBus where

/-- `await bus.publish(event)` -/
def EventBus.publish (_ : EventBus) (event : Event) : Py S Unit := do
  let answer : Except Exn Unit ← perform (Eff.publish event)
  ofExcept answer

/-- One round trip to Redis. -/
def redis (command : RedisCommand) : Py S (Option ℤ) := do
  let answer : Except Exn (Option ℤ) ← perform (Eff.redis command)
  ofExcept answer

end FastapiTemplate.Core
