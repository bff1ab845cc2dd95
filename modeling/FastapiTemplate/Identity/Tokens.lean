import FastapiTemplate.Identity.Runtime

/-!
# Tokens

The functions of `core.security` and of `identity.auth.totp` that mint and decode JSON web tokens. Five
functions mint and five decode. Access, refresh and magic-link tokens are signed with `SECRET_KEY` or, under
RS256, with the key pair of the process; verification and challenge tokens always with `SECRET_KEY`.
-/

namespace FastapiTemplate.Identity

open Effects Python Store Script

variable (cfg : Settings)

/-! ### The JWT library -/

/-- The key can sign under the algorithm. -/
def canSign (alg : Algorithm) : SigningKey → Bool
  | .secret => cfg.secretKey.signs alg
  | .generated => alg == .rs256

/-- The key can verify under the algorithm. -/
def canVerify (alg : Algorithm) : SigningKey → Bool
  | .secret => cfg.secretKey.verifies alg
  | .generated => alg == .rs256

/-- `jwt.encode` -/
def jwtEncode (claims : Claims) (key : SigningKey) (alg : Algorithm) : Auth Token := do
  if canSign cfg alg key then
    let () ← perform (Eff.sign ⟨some alg, some key, claims⟩)
    return ⟨some alg, some key, claims⟩
  else throw .jws

/-- `jwt.decode`, the clock showing `now`: the algorithm of the header, the key, the signature and the
expiry are checked, in that order. -/
def checkToken (token : Token) (key : SigningKey) (alg : Algorithm) (now : Datetime) :
    Except Exn Claims :=
  if token.alg ≠ some alg then .error .jwt
  else if canVerify cfg alg key = false then .error .jwk
  else if token.signedBy ≠ some key then .error .jwt
  else if token.claims.exp < timestamp now then .error .jwt
  else .ok token.claims

/-- `jwt.decode` -/
def jwtDecode (token : Token) (key : SigningKey) (alg : Algorithm) : Auth Claims := do
  let now ← datetimeNow
  ofExcept (checkToken cfg token key alg now)

def signWithRs256 (claims : Claims) : Auth Token := jwtEncode cfg claims .generated .rs256

def decodeWithRs256 (token : Token) : Auth Claims := jwtDecode cfg token .generated .rs256

/-! ### Minting -/

/-- `_make_jwt_payload`; an empty lifetime counts as none. -/
def makeJwtPayload (subject : String) (expiresDelta : Option Timedelta) (purpose : Purpose) :
    Auth Claims := do
  let now ← datetimeNow
  let delta :=
    match expiresDelta with
    | some d => if d = 0 then minutes cfg.accessTokenExpireMinutes else d
    | none => minutes cfg.accessTokenExpireMinutes
  let jti ← randomText
  return ⟨subject, timestamp (now + delta), some (timestamp now), some jti, purpose.claim⟩

/-- How access, refresh and magic-link tokens are signed. -/
def signPayload (claims : Claims) : Auth Token :=
  match cfg.algorithm with
  | .rs256 => signWithRs256 cfg claims
  | alg => jwtEncode cfg claims .secret alg

def createAccessToken (subject : String) (expiresDelta : Option Timedelta := none) : Auth Token := do
  let claims ← makeJwtPayload cfg subject expiresDelta .access
  signPayload cfg claims

def createRefreshToken (subject : String) : Auth Token := do
  let claims ← makeJwtPayload cfg subject (some (days cfg.refreshTokenExpireDays)) .refresh
  signPayload cfg claims

def createMagicLinkToken (email : String) : Auth Token := do
  let claims ← makeJwtPayload cfg email (some (minutes cfg.magicLinkExpireMinutes)) .magicLink
  signPayload cfg claims

def createVerificationToken (userId : ℤ) : Auth Token := do
  let now ← datetimeNow
  jwtEncode cfg
    { sub := toString userId, exp := timestamp (now + days 1), purpose := Purpose.emailVerify.claim }
    .secret cfg.algorithm

def createTotpChallengeToken (userId : ℤ) : Auth Token := do
  let now ← datetimeNow
  let jti ← randomText
  jwtEncode cfg
    ⟨toString userId, timestamp (now + cfg.totpChallengeExpireSeconds * second), some (timestamp now),
      some jti, Purpose.totpChallenge.claim⟩
    .secret cfg.algorithm

/-! ### Decoding -/

/-- How access, refresh and magic-link tokens are read. -/
def readPayload (token : Token) : Auth Claims :=
  match cfg.algorithm with
  | .rs256 => decodeWithRs256 cfg token
  | alg => jwtDecode cfg token .secret alg

/-- `except JWTError`, answered with a status and a text. -/
def orUnauthorized (statusCode : ℕ) (detail : String) (p : Auth Claims) : Auth Claims :=
  tryCatch p fun e => if e = .jwt then throw (.http statusCode detail) else throw e

/-- The comparison of the `purpose` claim. -/
def checkPurpose (purpose : Purpose) (statusCode : ℕ) (claims : Claims) : Auth Claims :=
  if claims.purpose = purpose.claim then return claims
  else throw (.http statusCode "Invalid token purpose")

def decodeAccessToken (token : Token) : Auth Claims :=
  orUnauthorized 401 "Could not validate credentials" (readPayload cfg token)

/-- Under RS256 it returns before the purpose is compared. -/
def decodeRefreshToken (token : Token) : Auth Claims :=
  orUnauthorized 401 "Could not validate refresh token" <|
    match cfg.algorithm with
    | .rs256 => decodeWithRs256 cfg token
    | alg => do
      let claims ← jwtDecode cfg token .secret alg
      checkPurpose .refresh 401 claims

/-- Under RS256 it returns before the purpose is compared. -/
def decodeMagicLinkToken (token : Token) : Auth Claims := do
  match cfg.algorithm with
  | .rs256 => orUnauthorized 400 "Invalid or expired magic link" (decodeWithRs256 cfg token)
  | alg =>
    let claims ← orUnauthorized 400 "Invalid or expired magic link" (jwtDecode cfg token .secret alg)
    checkPurpose .magicLink 400 claims

def decodeVerificationToken (token : Token) : Auth Claims := do
  let claims ← orUnauthorized 400 "Invalid or expired verification token"
    (jwtDecode cfg token .secret cfg.algorithm)
  checkPurpose .emailVerify 400 claims

def decodeTotpChallengeToken (token : Token) : Auth Claims := do
  let claims ← orUnauthorized 400 "Invalid or expired challenge token"
    (jwtDecode cfg token .secret cfg.algorithm)
  checkPurpose .totpChallenge 400 claims

end FastapiTemplate.Identity
