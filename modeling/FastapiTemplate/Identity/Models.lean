import FastapiTemplate.Python.Text
import FastapiTemplate.Python.Time
import FastapiTemplate.Store.Table

/-!
# Users, tokens, settings

The rows and the values of the identity context. A token is its claims with what signed them, so a
signature that is not one of the application's own keys is told apart by looking at it: signatures cannot
be forged. Of a row the columns are kept that the modelled functions read or write.
-/

namespace FastapiTemplate.Identity

open Python Store

/-! ### Tokens -/

/-- `settings.ALGORITHM` -/
inductive Algorithm where
  | hs256
  | rs256
  deriving DecidableEq, Repr

/-- The keys tokens are signed with: `settings.SECRET_KEY`, and the RSA pair of the process. -/
inductive SigningKey where
  | secret
  | generated
  deriving DecidableEq, Repr

/-- The claims of a token; `exp` and `iat` are seconds. -/
structure Claims where
  sub : String
  exp : ℤ
  iat : Option ℤ := none
  jti : Option String := none
  purpose : Option String := none
  deriving DecidableEq

/-- A token: the algorithm its header names, if it is one of these; the key of the application that signed
it under that algorithm, if one did; its claims. -/
structure Token where
  alg : Option Algorithm
  signedBy : Option SigningKey
  claims : Claims
  deriving DecidableEq

/-- What a token is minted for. -/
inductive Purpose where
  | access
  | refresh
  | magicLink
  | emailVerify
  | totpChallenge
  deriving DecidableEq, Repr

/-- The `purpose` claim; access tokens have none. -/
def Purpose.claim : Purpose → Option String
  | .access => none
  | .refresh => some "refresh"
  | .magicLink => some "magic_link"
  | .emailVerify => some "email_verify"
  | .totpChallenge => some "totp_challenge"

lemma Purpose.claim_injective {p q : Purpose} (h : p.claim = q.claim) : p = q := by
  cases p <;> cases q <;> first | rfl | exact absurd h (by decide)

/-! ### Settings -/

/-- The algorithms for which `SECRET_KEY` is a key that signs, and one that verifies: a plain secret for
HS256, the PEM text of a private RSA key for RS256. -/
structure SecretKey where
  signs : Algorithm → Bool
  verifies : Algorithm → Bool
  verifies_of_signs : ∀ alg, signs alg = true → verifies alg = true

/-- The settings the identity context reads, with their defaults. -/
structure Settings where
  secretKey : SecretKey
  algorithm : Algorithm := .hs256
  accessTokenExpireMinutes : ℤ := 30
  refreshTokenExpireDays : ℤ := 7
  magicLinkExpireMinutes : ℤ := 15
  magicLinkAllowRegistration : Bool := true
  totpChallengeExpireSeconds : ℤ := 120
  maxLoginAttempts : ℤ := 5
  loginLockoutMinutes : ℤ := 15
  jwtBlacklistEnabled : Bool := true
  jwtBlacklistTtl : ℤ := 86400

/-- A text for `SECRET_KEY` that is no PEM. -/
def SecretKey.plain : SecretKey where
  signs alg := alg == .hs256
  verifies alg := alg == .hs256
  verifies_of_signs _ h := h

/-- The PEM text of a private RSA key for `SECRET_KEY`. -/
def SecretKey.pem : SecretKey where
  signs alg := alg == .rs256
  verifies alg := alg == .rs256
  verifies_of_signs _ h := h

/-! ### Rows -/

/-- A row of `users`. -/
structure User where
  id : ℤ := 0
  tenantId : Option ℤ := none
  email : String
  username : String
  hashedPassword : String
  isActive : Bool := true
  isVerified : Bool := false
  failedLoginAttempts : ℕ := 0
  lockedUntil : Option Datetime := none
  emailVerifiedAt : Option Datetime := none
  lastLoginAt : Option Datetime := none
  oauthProvider : Option String := none
  oauthProviderId : Option String := none
  oauthAccessToken : Option String := none
  oauthRefreshToken : Option String := none
  totpSecret : Option String := none
  totpEnabled : Bool := false
  backupCodes : Option String := none
  deletedAt : Option Datetime := none
  deriving DecidableEq

instance : Keyed User where
  key := User.id
  withKey k u := { u with id := k }
  key_withKey _ _ := rfl

/-- `UPDATE`: every column the code changed since it loaded the row is written, the others stay. -/
def User.update (loaded cur stored : User) : User :=
  { stored with
    isVerified := column loaded.isVerified cur.isVerified stored.isVerified
    failedLoginAttempts :=
      column loaded.failedLoginAttempts cur.failedLoginAttempts stored.failedLoginAttempts
    lockedUntil := column loaded.lockedUntil cur.lockedUntil stored.lockedUntil
    emailVerifiedAt := column loaded.emailVerifiedAt cur.emailVerifiedAt stored.emailVerifiedAt
    lastLoginAt := column loaded.lastLoginAt cur.lastLoginAt stored.lastLoginAt
    oauthProvider := column loaded.oauthProvider cur.oauthProvider stored.oauthProvider
    oauthProviderId := column loaded.oauthProviderId cur.oauthProviderId stored.oauthProviderId
    oauthAccessToken := column loaded.oauthAccessToken cur.oauthAccessToken stored.oauthAccessToken
    oauthRefreshToken := column loaded.oauthRefreshToken cur.oauthRefreshToken stored.oauthRefreshToken
    backupCodes := column loaded.backupCodes cur.backupCodes stored.backupCodes }

/-- A row of `webauthn_credentials`. -/
structure WebAuthnCredential where
  userId : ℤ
  credentialId : String
  publicKey : String
  signCount : ℤ

/-- A row of `auth_audit_logs`. -/
structure AuthAuditLog where
  eventType : String
  userId : Option ℤ := none
  tenantId : Option ℤ := none
  ipAddress : Option String := none
  userAgent : Option String := none
  details : Option Value := none

/-- `AUTH_EVENT_TYPES` -/
def authEventTypes : List String :=
  ["login_success", "login_failure", "account_locked", "token_refresh", "token_revoke", "password_change",
    "mfa_enroll", "mfa_disable", "magic_link_request", "magic_link_login"]

/-! ### Sessions in Redis -/

/-- The hash under `user:session:meta:<user>:<jti>`. -/
structure SessionInfo where
  jti : String
  tokenType : String
  ip : String
  userAgent : String
  createdAt : String
  expiresAt : String
  userId : String
  deriving DecidableEq

structure SessionCreatePayload where
  jti : String
  tokenType : String
  ip : Option String
  userAgent : Option String
  iat : ℤ
  exp : ℤ
  deriving DecidableEq

/-- The hash that `store_session` writes. -/
def SessionCreatePayload.info (payload : SessionCreatePayload) (userId : ℤ) : SessionInfo where
  jti := payload.jti
  tokenType := payload.tokenType
  ip := payload.ip.getD ""
  userAgent := payload.userAgent.getD ""
  createdAt := toString payload.iat
  expiresAt := toString payload.exp
  userId := toString userId

end FastapiTemplate.Identity
