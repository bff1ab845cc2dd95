import FastapiTemplate.Effects.Pool
import FastapiTemplate.Identity.Models
import FastapiTemplate.Store.Expiring
import Mathlib.Data.List.Sort
import Mathlib.Data.String.Basic

/-!
# The runtime of the identity context

The effects of the identity code and the world they act on: the users, Redis, the pending WebAuthn
challenges, the random generator and the clock. A round trip to the database or to Redis is one effect.

* Time passes by `sleep` only, which no code performs: the clock moves between the calls of a sequence,
  and at any point between two effects where a clock runs beside the calls of a pool.
* Every statement sees the committed state of its moment; a commit writes the columns that the code
  changed. Neither the database nor Redis fails.
* `issued`, `comparisons` and `blacklistings` only record what happened: the tokens that were signed, the
  passwords that were compared with a hash, the calls of `blacklist_token` that wrote. The latest comes
  first.
-/

namespace FastapiTemplate.Identity

open Effects Python Store

/-! ### Exceptions -/

inductive Exn where
  | builtin (e : BuiltinError)
  | keyError (key : String)
  | http (statusCode : ℕ) (detail : String)
  /-- `JWTError` -/
  | jwt
  /-- `JWSError`: a token cannot be signed. -/
  | jws
  /-- `JWKError`: the text is no key of the algorithm. -/
  | jwk
  | lockedOut (detail : String)
  | integrityError
  | multipleResultsFound
  | staleData
  | invalidRequest
  | redis
  | webSocketDisconnect
  deriving DecidableEq

/-- A built-in that may raise. -/
def liftBuiltin {α : Type} : Except BuiltinError α → Except Exn α
  | .ok a => .ok a
  | .error e => .error (.builtin e)

@[simp] lemma liftBuiltin_eq_ok {α : Type} {x : Except BuiltinError α} {a : α} :
    liftBuiltin x = .ok a ↔ x = .ok a := by
  cases x <;> simp [liftBuiltin]

/-! ### Redis -/

/-- What Redis holds for the identity context, a family of keys at a time. -/
structure Redis where
  blacklist : Expiring ℤ (List String) := Expiring.empty
  revokedAll : Expiring ℤ String := Expiring.empty
  sessions : Expiring ℤ (List (String × ℤ)) := Expiring.empty
  sessionMeta : Expiring (ℤ × String) SessionInfo := Expiring.empty
  oauthStates : Expiring String Value := Expiring.empty

/-- The keys that are deleted or given a time to live. -/
inductive RedisKey where
  | blacklist (userId : ℤ)
  | sessions (userId : ℤ)
  | sessionMeta (userId : ℤ) (jti : String)
  | oauthState (state : String)

inductive RedisCommand where
  | sadd (userId : ℤ) (member : String)
  | smembers (userId : ℤ)
  | scard (userId : ℤ)
  | zadd (userId : ℤ) (jti : String) (score : ℤ)
  | zrevrange (userId : ℤ)
  | zrem (userId : ℤ) (jti : String)
  | hset (userId : ℤ) (jti : String) (info : SessionInfo)
  | hgetall (userId : ℤ) (jti : String)
  | setRevokedAll (userId : ℤ) (seconds : ℤ) (value : String)
  | getRevokedAll (userId : ℤ)
  | getState (state : String)
  | expire (key : RedisKey) (seconds : ℤ)
  | delete (key : RedisKey)

/-- What Redis replies. -/
abbrev RedisCommand.Reply : RedisCommand → Type
  | .smembers _ => List String
  | .scard _ => ℕ
  | .zrevrange _ => List String
  | .hgetall _ _ => Option SessionInfo
  | .setRevokedAll _ _ _ => Except Exn Unit
  | .getRevokedAll _ => Option String
  | .getState _ => Option Value
  | _ => Unit

/-- `SADD` of one member; a set has a member once. -/
def addMember (member : String) (members : List String) : List String :=
  if member ∈ members then members else members ++ [member]

/-- `ZADD` of one member. -/
def setScore (jti : String) (score : ℤ) (members : List (String × ℤ)) : List (String × ℤ) :=
  members.filter (fun m => m.1 != jti) ++ [(jti, score)]

/-- `ZREM` of one member. -/
def dropScore (jti : String) (members : List (String × ℤ)) : List (String × ℤ) :=
  members.filter fun m => m.1 != jti

/-- The order of `ZREVRANGE`: by score downwards, members of one score in reverse order. -/
def comesFirst (a b : String × ℤ) : Prop := b.2 < a.2 ∨ a.2 = b.2 ∧ b.1 ≤ a.1

instance : DecidableRel comesFirst := fun a b =>
  inferInstanceAs (Decidable (b.2 < a.2 ∨ a.2 = b.2 ∧ b.1 ≤ a.1))

namespace Redis

def expireKey (r : Redis) (t : ℤ) (seconds : ℤ) : RedisKey → Redis
  | .blacklist u => { r with blacklist := r.blacklist.expire t u (seconds * second) }
  | .sessions u => { r with sessions := r.sessions.expire t u (seconds * second) }
  | .sessionMeta u jti => { r with sessionMeta := r.sessionMeta.expire t (u, jti) (seconds * second) }
  | .oauthState state => { r with oauthStates := r.oauthStates.expire t state (seconds * second) }

def deleteKey (r : Redis) : RedisKey → Redis
  | .blacklist u => { r with blacklist := r.blacklist.delete u }
  | .sessions u => { r with sessions := r.sessions.delete u }
  | .sessionMeta u jti => { r with sessionMeta := r.sessionMeta.delete (u, jti) }
  | .oauthState state => { r with oauthStates := r.oauthStates.delete state }

/-- `ZREM`; a sorted set that becomes empty is deleted. -/
def zrem (r : Redis) (t : ℤ) (u : ℤ) (jti : String) : Redis :=
  match r.sessions.get t u with
  | none => r
  | some members =>
    { r with
      sessions :=
        if dropScore jti members = [] then r.sessions.delete u
        else r.sessions.put t u (dropScore jti members) }

/-- What Redis does at time `t`. -/
def run (t : ℤ) (r : Redis) : (c : RedisCommand) → c.Reply × Redis
  | .sadd u member =>
    ((), { r with blacklist := r.blacklist.put t u (addMember member ((r.blacklist.get t u).getD [])) })
  | .smembers u => ((r.blacklist.get t u).getD [], r)
  | .scard u => (((r.blacklist.get t u).getD []).length, r)
  | .zadd u jti score =>
    ((), { r with sessions := r.sessions.put t u (setScore jti score ((r.sessions.get t u).getD [])) })
  | .zrevrange u => ((((r.sessions.get t u).getD []).insertionSort comesFirst).map Prod.fst, r)
  | .zrem u jti => ((), r.zrem t u jti)
  | .hset u jti info => ((), { r with sessionMeta := r.sessionMeta.put t (u, jti) info })
  | .hgetall u jti => (r.sessionMeta.get t (u, jti), r)
  | .setRevokedAll u seconds value =>
    if 0 < seconds then
      (.ok (), { r with revokedAll := r.revokedAll.setex t u value (seconds * second) })
    else (.error .redis, r)
  | .getRevokedAll u => (r.revokedAll.get t u, r)
  | .getState state => (r.oauthStates.get t state, r)
  | .expire key seconds => ((), r.expireKey t seconds key)
  | .delete key => ((), r.deleteKey key)

end Redis

/-! ### The world -/

/-- A random text; it has no colon. -/
abbrev Nonce : Type := { s : String // ':' ∉ s.toList }

/-- A password that was compared with the hash of a user. -/
structure Comparison where
  time : Datetime
  userId : ℤ
  matched : Bool
  deriving DecidableEq

/-- A call of `blacklist_token`. -/
structure Blacklisting where
  time : Datetime
  userId : ℤ
  jti : String
  exp : ℤ
  deriving DecidableEq

structure World where
  now : Datetime
  users : Table User := Table.empty
  redis : Redis := {}
  credentials : List WebAuthnCredential := []
  pendingAuthentications : List (String × String) := []
  nonces : ℕ → Nonce
  drawn : ℕ := 0
  auditLog : List AuthAuditLog := []
  issued : List Token := []
  comparisons : List Comparison := []
  blacklistings : List Blacklisting := []

inductive Eff where
  | now
  | sleep (time : ℕ)
  | random
  | sign (token : Token)
  | compared (userId : ℤ) (matched : Bool)
  | blacklisted (userId : ℤ) (jti : String) (exp : ℤ)
  | users
  | updateUser (loaded cur : User)
  | insertUser (user : User)
  | insertAuditLog (entry : AuthAuditLog)
  | credentials
  | setPending (userId challenge : String)
  | popPending (userId : String)
  | redis (command : RedisCommand)

abbrev Answer : Eff → Type
  | .now => Datetime
  | .random => Nonce
  | .users => List User
  | .updateUser _ _ => Except Exn Unit
  | .insertUser _ => Except Exn User
  | .credentials => List WebAuthnCredential
  | .popPending _ => Option String
  | .redis command => command.Reply
  | _ => Unit

/-- `INSERT` into `users`, whose e-mail addresses and names are unique. -/
def World.insertUser (w : World) (user : User) : Except Exn User × World :=
  if w.users.rows.any fun r => r.email == user.email || r.username == user.username then
    (.error .integrityError, w)
  else (.ok { user with id := w.users.next }, { w with users := w.users.insert user })

/-- `UPDATE` of a row of `users`. -/
def World.updateUser (w : World) (loaded cur : User) : Except Exn Unit × World :=
  match w.users.get? cur.id with
  | some stored => (.ok (), { w with users := w.users.put (User.update loaded cur stored) })
  | none => (.error .staleData, w)

/-- An `INSERT` adds a row, or raises. -/
lemma World.insertUser_cases (w : World) (user : User) :
    (w.insertUser user).2 = w ∨ (w.insertUser user).2 = { w with users := w.users.insert user } := by
  unfold World.insertUser
  split
  · exact .inl rfl
  · exact .inr rfl

/-- An `UPDATE` writes a row that is there, or raises. -/
lemma World.updateUser_cases (w : World) (loaded cur : User) : (w.updateUser loaded cur).2 = w ∨
    ∃ stored ∈ w.users.rows, stored.id = cur.id ∧
      (w.updateUser loaded cur).2 = { w with users := w.users.put (User.update loaded cur stored) } := by
  unfold World.updateUser
  cases hget : w.users.get? cur.id with
  | none => exact .inl rfl
  | some stored =>
    obtain ⟨hmem, hid⟩ := Table.get?_eq_some.1 hget
    exact .inr ⟨stored, hmem, hid, rfl⟩

/-- The row that is written. -/
lemma World.get?_updateUser {w : World} {cur stored : User} (loaded : User) (h : w.users.get? cur.id = some stored) :
    (w.updateUser loaded cur).2.users.get? cur.id = some (User.update loaded cur stored) := by
  have hkey : (User.update loaded cur stored).id = cur.id := (Table.get?_eq_some.1 h).2
  unfold World.updateUser
  rw [h]
  rw [← hkey] at h ⊢
  exact Table.get?_put_self h

/-- Both change the users only. -/
lemma World.insertUser_frame (w : World) (user : User) :
    (w.insertUser user).2 = { w with users := (w.insertUser user).2.users } := by
  rcases w.insertUser_cases user with h | h <;> rw [h]

lemma World.updateUser_frame (w : World) (loaded cur : User) :
    (w.updateUser loaded cur).2 = { w with users := (w.updateUser loaded cur).2.users } := by
  rcases w.updateUser_cases loaded cur with h | ⟨_, -, -, h⟩ <;> rw [h]

/-- How the world answers. -/
def serve : Handler Eff Answer World
  | .now, w => (w.now, w)
  | .sleep time, w => ((), { w with now := w.now + time })
  | .random, w => (w.nonces w.drawn, { w with drawn := w.drawn + 1 })
  | .sign token, w => ((), { w with issued := token :: w.issued })
  | .compared userId matched, w =>
    ((), { w with comparisons := ⟨w.now, userId, matched⟩ :: w.comparisons })
  | .blacklisted userId jti exp, w =>
    ((), { w with blacklistings := ⟨w.now, userId, jti, exp⟩ :: w.blacklistings })
  | .users, w => (w.users.rows, w)
  | .updateUser loaded cur, w => w.updateUser loaded cur
  | .insertUser user, w => w.insertUser user
  | .insertAuditLog entry, w => ((), { w with auditLog := w.auditLog ++ [entry] })
  | .credentials, w => (w.credentials, w)
  | .setPending userId challenge, w =>
    ((), { w with pendingAuthentications := Value.setItem userId challenge w.pendingAuthentications })
  | .popPending userId, w =>
    (w.pendingAuthentications.lookup userId,
      { w with pendingAuthentications := w.pendingAuthentications.filter fun p => p.1 != userId })
  | .redis command, w =>
    let (reply, redis) := w.redis.run w.now command
    (reply, { w with redis := redis })

/-! ### Scripts -/

/-- Code of the identity context. -/
abbrev Auth (α : Type) : Type := Script Eff Answer Unit Exn α

/-- The run of a script by itself. -/
abbrev run {α : Type} (p : Auth α) (w : World) : Script.Outcome Unit Exn World α := p.exec serve () w

open Script

/-- `datetime.now(UTC)` -/
def datetimeNow : Auth Datetime := perform Eff.now

/-- `int(d.timestamp())`; the clock shows a time after 1970. -/
def timestamp (d : Datetime) : ℤ := d / second

/-- `str(uuid4())`, `secrets.token_hex(n)`, `secrets.token_urlsafe(n)` -/
def randomText : Auth String := do
  let nonce : Nonce ← perform Eff.random
  return nonce.val

/-- One round trip to Redis. -/
def redis (command : RedisCommand) : Auth command.Reply := perform (Eff.redis command)

/-- `log_auth_event`; only the known event types are written. -/
def logAuthEvent (entry : AuthAuditLog) : Auth Unit := do
  if entry.eventType ∈ authEventTypes then
    let () ← perform (Eff.insertAuditLog entry)
  else throw (.builtin .valueError)

end FastapiTemplate.Identity
