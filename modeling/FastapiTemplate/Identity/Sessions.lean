import FastapiTemplate.Identity.Runtime

/-!
# Sessions and revocation in Redis

`core.jwt_blacklist`. The revoked tokens of a user are the members `<jti>:<exp>` of one set; the sessions
of a user are a sorted set of `jti`s by time of issue, with one hash for each session.
-/

namespace FastapiTemplate.Identity

open Effects Python Store Script

variable (cfg : Settings)

/-! ### The blacklist -/

/-- The member of the set for a revoked token. -/
def blacklistMember (jti : String) (exp : ℤ) : String := jti ++ ":" ++ toString exp

/-- The seconds a key is kept for a token that expires at `exp`. -/
def Settings.ttl (now : Datetime) (exp : ℤ) : ℤ := min cfg.jwtBlacklistTtl (max 1 (exp - timestamp now))

def blacklistToken (userId : ℤ) (jti : String) (exp : ℤ) : Auth Unit := do
  if !cfg.jwtBlacklistEnabled then return ()
  else
    let now ← datetimeNow
    let ttl := cfg.ttl now exp
    redis (.sadd userId (blacklistMember jti exp))
    redis (.expire (.blacklist userId) ttl)
    perform (Eff.blacklisted userId jti exp)

/-- The loop over the members of the set. -/
def scanMembers (now : ℤ) (jti : String) : List String → Except BuiltinError Bool
  | [] => .ok false
  | member :: members =>
    match cut ':' member with
    | none => scanMembers now jti members
    | some (storedJti, storedExp) => do
      let exp ← pyInt storedExp
      if exp < now then scanMembers now jti members
      else if storedJti = jti then return true
      else scanMembers now jti members

def isTokenBlacklisted (userId : ℤ) (jti : String) : Auth Bool := do
  if !cfg.jwtBlacklistEnabled then return false
  else
    let now ← datetimeNow
    let members ← redis (.smembers userId)
    ofExcept (liftBuiltin (scanMembers (timestamp now) jti members))

/-- `revoke_all_user_tokens`; no endpoint calls it. -/
def revokeAllUserTokens (userId : ℤ) : Auth ℕ := do
  if !cfg.jwtBlacklistEnabled then return 0
  else
    let memberCount ← redis (.scard userId)
    redis (.delete (.blacklist userId))
    let now ← datetimeNow
    let written ← redis (.setRevokedAll userId cfg.jwtBlacklistTtl (toString (timestamp now)))
    ofExcept written
    return memberCount

/-- `get_blacklisted_at`; nothing calls it. -/
def getBlacklistedAt (userId : ℤ) : Auth (Option ℤ) := do
  match ← redis (.getRevokedAll userId) with
  | some text =>
    let at' ← ofExcept (liftBuiltin (pyInt text))
    return some at'
  | none => return none

/-! ### Sessions -/

def storeSession (userId : ℤ) (payload : SessionCreatePayload) : Auth Unit := do
  if !cfg.jwtBlacklistEnabled then return ()
  else
    let now ← datetimeNow
    let ttl := cfg.ttl now payload.exp
    redis (.zadd userId payload.jti payload.iat)
    redis (.expire (.sessions userId) ttl)
    redis (.hset userId payload.jti (payload.info userId))
    redis (.expire (.sessionMeta userId payload.jti) ttl)

/-- The loop over the index: a session that has expired is removed from Redis, one without hash is
passed over. -/
def collectSessions (userId : ℤ) (now : ℤ) : List String → Auth (List SessionInfo)
  | [] => return []
  | jti :: jtis => do
    match ← redis (.hgetall userId jti) with
    | none => collectSessions userId now jtis
    | some info =>
      let exp ← ofExcept (liftBuiltin (pyInt info.expiresAt))
      if exp < now then
        redis (.zrem userId jti)
        redis (.delete (.sessionMeta userId jti))
        collectSessions userId now jtis
      else
        let rest ← collectSessions userId now jtis
        return info :: rest

def listActiveSessions (userId : ℤ) : Auth (List SessionInfo) := do
  if !cfg.jwtBlacklistEnabled then return []
  else
    let members ← redis (.zrevrange userId)
    let now ← datetimeNow
    collectSessions userId (timestamp now) members

def getSession (userId : ℤ) (jti : String) : Auth (Option SessionInfo) := redis (.hgetall userId jti)

def revokeSession (userId : ℤ) (jti : String) (exp : ℤ) : Auth Unit := do
  if !cfg.jwtBlacklistEnabled then return ()
  else
    redis (.zrem userId jti)
    redis (.delete (.sessionMeta userId jti))
    blacklistToken cfg userId jti exp

/-- The loop over the index: a session without hash is blacklisted with expiry 0. -/
def revokeMembers (userId : ℤ) : List String → Auth Unit
  | [] => return ()
  | jti :: jtis => do
    let exp ← match ← redis (.hgetall userId jti) with
      | none => pure 0
      | some info => ofExcept (liftBuiltin (pyInt info.expiresAt))
    blacklistToken cfg userId jti exp
    redis (.delete (.sessionMeta userId jti))
    revokeMembers userId jtis

def revokeAllUserSessions (userId : ℤ) : Auth ℕ := do
  if !cfg.jwtBlacklistEnabled then return 0
  else
    let members ← redis (.zrevrange userId)
    let now ← datetimeNow
    revokeMembers cfg userId members
    redis (.delete (.sessions userId))
    let written ← redis (.setRevokedAll userId cfg.jwtBlacklistTtl (toString (timestamp now)))
    ofExcept written
    return members.length

end FastapiTemplate.Identity
