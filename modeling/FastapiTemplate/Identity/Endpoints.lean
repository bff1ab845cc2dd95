import FastapiTemplate.Identity.Login
import FastapiTemplate.Identity.Sessions
import FastapiTemplate.Identity.Tokens

/-!
# Entry points and endpoints

What turns a token into a principal (`get_current_user`, the GraphQL context, the WebSocket handshake), and
the endpoints of `identity.api.endpoints.auth`: the logins, the refresh endpoint, revocation and the sessions.
A request that the rate limit turns away does not get here.
-/

namespace FastapiTemplate.Identity

open Effects Python Store Script

variable (cfg : Settings) (lib : Libraries) (client : Client)

/-! ### Entry points -/

/-- `jti and await is_token_blacklisted(int(user_id), jti)` -/
def isRevoked (payload : Claims) : Auth Bool :=
  match payload.jti with
  | none => return false
  | some jti => do
    if jti = "" then return false
    else
      let userId ← ofExcept (liftBuiltin (pyInt payload.sub))
      isTokenBlacklisted cfg userId jti

def getCurrentUser (token : Token) : Auth User := do
  let payload ← decodeAccessToken cfg token
  let revoked ← isRevoked cfg payload
  if revoked then throw (.http 401 "Token has been revoked")
  else
    let userId ← ofExcept (liftBuiltin (pyInt payload.sub))
    match ← getWithRoles client userId with
    | none => throw (.http 404 "User not found")
    | some user => if !user.isActive then throw (.http 400 "Inactive user") else return user

/-- The part of `get_gql_context` in the `try` block. -/
def gqlUser (token : Token) : Auth (Option User) := do
  let payload ← decodeAccessToken cfg token
  if payload.sub = "" then return none
  else
    let userId ← ofExcept (liftBuiltin (pyInt payload.sub))
    getWithRoles client userId

/-- The user of `get_gql_context`; whatever is raised leaves the request without one. -/
def getGqlContext (token : Option Token) : Auth (Option User) :=
  match token with
  | none => return none
  | some token => tryCatch (gqlUser cfg client token) fun _ => return none

/-- `get_current_user_ws`; the tenant middleware does not see a handshake. -/
def getCurrentUserWs (token : Option Token) : Auth ℤ := do
  match token with
  | none => throw .webSocketDisconnect
  | some token =>
    let payload ← decodeAccessToken cfg token
    let userId ← ofExcept (liftBuiltin (pyInt payload.sub))
    match ← getUser { client with tenant := none } userId with
    | none => throw .webSocketDisconnect
    | some _ => return userId

/-! ### Issuing -/

/-- The answer of the endpoints that log a user in. -/
structure TokenPair where
  accessToken : Token
  refreshToken : Token

/-- The session of a decoded token. -/
def sessionPayload (tokenType : String) (payload : Claims) : Except Exn SessionCreatePayload :=
  match payload.jti, payload.iat with
  | none, _ => .error (.keyError "jti")
  | _, none => .error (.keyError "iat")
  | some jti, some iat => .ok ⟨jti, tokenType, client.ip, client.userAgent, iat, payload.exp⟩

/-- Decodes the two tokens and stores their sessions. -/
def storeTokens (userId : ℤ) (pair : TokenPair) : Auth Unit := do
  let accessPayload ← decodeAccessToken cfg pair.accessToken
  let refreshPayload ← decodeRefreshToken cfg pair.refreshToken
  let accessSession ← ofExcept (sessionPayload client "access" accessPayload)
  storeSession cfg userId accessSession
  let refreshSession ← ofExcept (sessionPayload client "refresh" refreshPayload)
  storeSession cfg userId refreshSession

/-- The two tokens of a user. -/
def createTokens (userId : ℤ) : Auth TokenPair := do
  let accessToken ← createAccessToken cfg (toString userId)
  let refreshToken ← createRefreshToken cfg (toString userId)
  return ⟨accessToken, refreshToken⟩

/-- `_issue_tokens` -/
def issueTokens (user : User) : Auth TokenPair := do
  let pair ← createTokens cfg user.id
  storeTokens cfg client user.id pair
  return pair

/-! ### Login -/

/-- The answer of the password login. -/
inductive LoginAnswer where
  | totpRequired (challengeToken : Token)
  | tokens (pair : TokenPair)

def loginForAccessToken (email password : String) : Auth LoginAnswer := do
  let user ← tryCatch (authenticateUser cfg lib client email password) fun e =>
    match e with
    | .lockedOut detail => throw (.http 423 detail)
    | e => throw e
  match user with
  | none => throw (.http 401 "Incorrect email or password")
  | some user =>
    if user.totpEnabled then
      let challengeToken ← createTotpChallengeToken cfg user.id
      return .totpRequired challengeToken
    else
      let pair ← issueTokens cfg client user
      return .tokens pair

/-- `not user.totp_enabled or not user.totp_secret` -/
def User.secondFactor? (user : User) : Option String :=
  match user.totpSecret with
  | some secret => if user.totpEnabled && secret != "" then some secret else none
  | none => none

def loginWithTotp (challengeToken : Token) (code : String) : Auth TokenPair := do
  let payload ← decodeTotpChallengeToken cfg challengeToken
  let userId ← ofExcept (liftBuiltin (pyInt payload.sub))
  match ← getUser client userId with
  | none => throw (.http 400 "User not found or inactive")
  | some user =>
    if !user.isActive then throw (.http 400 "User not found or inactive")
    else match user.secondFactor? with
      | none => throw (.http 400 "TOTP is not enabled for this user")
      | some secret =>
        let valid ← verifySecondFactor lib user secret code
        if !valid then throw (.http 400 "Invalid TOTP or backup code")
        else issueTokens cfg client user

def refreshAccessToken (refreshToken : Token) : Auth TokenPair := do
  let payload ← decodeRefreshToken cfg refreshToken
  let userId ← ofExcept (liftBuiltin (pyInt payload.sub))
  match ← getUser client userId with
  | none => throw (.http 401 "Invalid refresh token")
  | some user =>
    if !user.isActive then throw (.http 401 "Invalid refresh token")
    else
      let pair ← createTokens cfg user.id
      match payload.jti with
      | none => pure ()
      | some oldJti => if oldJti = "" then pure () else revokeSession cfg user.id oldJti payload.exp
      storeTokens cfg client user.id pair
      client.log "token_refresh" (some user) none
      return pair

/-! ### Magic links -/

/-- `request_magic_link`; the token goes out by e-mail. -/
def requestMagicLink (email : String) : Auth Unit := do
  let _token ← createMagicLinkToken cfg email
  client.log "magic_link_request" none (some (.dict [("email", .str email)]))

/-- The part of the e-mail address that a new user's name starts with. -/
def safePrefix (email : String) : String :=
  String.ofList ((email.toList.takeWhile (· != '@')).filter fun c =>
    lib.isalnum c || c == '.' || c == '_' || c == '-')

/-- The user a magic link is for: created if need be, and verified. -/
def magicLinkUser (email : String) : Auth User := do
  match ← getByEmail client email with
  | none =>
    if !cfg.magicLinkAllowRegistration then
      throw (.http 400 "User not found. Registration via magic link is disabled.")
    else
      let suffix ← randomText
      let password ← randomText
      createUser
        { tenantId := client.tenant, email := email, username := safePrefix lib email ++ "_" ++ suffix,
          hashedPassword := password, isVerified := true }
  | some user =>
    if user.isVerified then return user
    else
      let now ← datetimeNow
      saveUser user { user with isVerified := true, emailVerifiedAt := some now }
      return { user with isVerified := true, emailVerifiedAt := some now }

def verifyMagicLink (token : Token) : Auth TokenPair := do
  let payload ← decodeMagicLinkToken cfg token
  let user ← magicLinkUser cfg lib client payload.sub
  let pair ← createTokens cfg user.id
  storeTokens cfg client user.id pair
  client.log "magic_link_login" (some user) none
  return pair

/-! ### Social login -/

/-- What the provider answers: the two tokens of the exchange, and the user info, or the text of what the
request to it raises. -/
structure ProviderAnswers where
  exchange : Except String (String × String)
  userInfo : Except String Value

/-- `consume_oauth_state`: whether there was a state. -/
def consumeOauthState (state : String) : Auth Bool := do
  match ← redis (.getState state) with
  | none => return false
  | some .none => return false
  | some _ =>
    redis (.delete (.oauthState state))
    return true

/-- `parse_user_info`: e-mail address and id. -/
def parseUserInfo (raw : Value) : Except BuiltinError (Value × String) := do
  let email ← raw.get "email" (.str "")
  let providerId ← raw.get "id" (.str "")
  return (email, providerId.toStr)

/-- The driver refuses anything but a string for the e-mail column. -/
def emailText : Value → Except BuiltinError String
  | .str s => .ok s
  | _ => .error .typeError

def createOauthUser (email provider providerId accessToken refreshToken : String) : Auth User := do
  let password ← randomText
  let salt ← randomText
  let now ← datetimeNow
  createUser
    { tenantId := client.tenant, email := email, username := safePrefix lib email ++ "_oauth",
      hashedPassword := lib.hashpw (password.toUTF8.extract 0 72) salt, isVerified := true,
      emailVerifiedAt := some now, oauthProvider := some provider, oauthProviderId := some providerId,
      oauthAccessToken := some accessToken, oauthRefreshToken := some refreshToken }

def linkOauthAccount (user : User) (provider providerId accessToken refreshToken : String) : Auth User := do
  let linked :=
    { user with
      oauthProvider := some provider
      oauthProviderId := some providerId
      oauthAccessToken := if accessToken = "" then user.oauthAccessToken else some accessToken
      oauthRefreshToken := if refreshToken = "" then user.oauthRefreshToken else some refreshToken }
  saveUser user linked
  return linked

/-- The user a callback logs in: found by provider id, else by e-mail address, else created. -/
def oauthUser (provider : String) (email : Value) (providerId accessToken refreshToken : String) :
    Auth User := do
  let byOauth ← getByOauth client provider providerId
  let found ← match byOauth with
    | some user => pure (some user)
    | none => do
      let address ← ofExcept (liftBuiltin (emailText email))
      getByEmail client address
  match found with
  | some user =>
    if user.oauthProviderId = none ∨ user.oauthProviderId = some "" then
      linkOauthAccount user provider providerId accessToken refreshToken
    else if user.oauthProvider ≠ some provider ∨ user.oauthProviderId ≠ some providerId then
      throw (.http 409 "This email is already linked to a different OAuth account.")
    else return user
  | none =>
    let address ← ofExcept (liftBuiltin (emailText email))
    createOauthUser lib client address provider providerId accessToken refreshToken

def oauthCallback (provider state : String) (answers : ProviderAnswers) : Auth TokenPair := do
  let known ← consumeOauthState state
  if !known then throw (.http 400 "Invalid or expired OAuth state. Please try again.")
  else match answers.exchange, answers.userInfo with
    | .error e, _ => throw (.http 400 ("Failed to exchange authorization code: " ++ e))
    | _, .error e => throw (.http 400 ("Failed to fetch user info: " ++ e))
    | .ok (accessToken, refreshToken), .ok raw =>
      let (email, providerId) ← ofExcept (liftBuiltin (parseUserInfo raw))
      if !email.truthy then throw (.http 400 "OAuth provider did not return an email address.")
      else
        let user ← oauthUser lib client provider email providerId accessToken refreshToken
        if !user.isActive then throw (.http 400 "User account is inactive.")
        else issueTokens cfg client user

/-! ### Passkeys -/

def webauthnLoginBegin (userId : Option String) : Auth String := do
  match userId with
  | none => throw (.http 400 "user_id required")
  | some email =>
    if email = "" then throw (.http 400 "user_id required")
    else match ← getByEmail client email with
      | none => throw (.http 404 "User not found")
      | some user => beginAuthentication user.id

/-- The token it issues has no session. -/
def webauthnLoginComplete (userId : Option String) (credential : Value) : Auth Token := do
  match userId with
  | none => throw (.http 400 "user_id and credential required")
  | some email =>
    if email = "" ∨ credential.truthy = false then throw (.http 400 "user_id and credential required")
    else match ← getByEmail client email with
      | none => throw (.http 404 "User not found")
      | some user =>
        completeAuthentication lib user.id credential
        createAccessToken cfg (toString user.id)

/-! ### Revocation -/

/-- The details of a revocation in the audit log. -/
def revokeDetails (payload : Claims) : Value :=
  match payload.jti with
  | none => .dict []
  | some jti =>
    .dict [("jti", .str jti), ("purpose", (payload.purpose.map Value.str).getD .none)]

/-- `POST /jwt/revoke` -/
def revokeToken (token : Token) : Auth Unit := do
  let user ← getCurrentUser cfg client token
  let payload ← decodeAccessToken cfg token
  match payload.jti with
  | none => pure ()
  | some jti => if jti = "" then pure () else revokeSession cfg user.id jti payload.exp
  client.log "token_revoke" (some user) (some (revokeDetails payload))

/-- `POST /jwt/revoke-all` -/
def revokeAllTokens (token : Token) : Auth ℕ := do
  let user ← getCurrentUser cfg client token
  let count ← revokeAllUserSessions cfg user.id
  client.log "token_revoke" (some user) (some (.dict [("count", .int count), ("all_tokens", .bool true)]))
  return count

/-- `GET /sessions` -/
def listSessionsEndpoint (token : Token) : Auth (List SessionInfo) := do
  let user ← getCurrentUser cfg client token
  listActiveSessions cfg user.id

/-- `POST /sessions/revoke` -/
def revokeSessionEndpoint (token : Token) (jti : String) : Auth Unit := do
  let user ← getCurrentUser cfg client token
  if jti = "" then throw (.http 400 "jti is required")
  else match ← getSession user.id jti with
    | none => throw (.http 404 "Session not found")
    | some info =>
      let exp ← ofExcept (liftBuiltin (pyInt info.expiresAt))
      revokeSession cfg user.id jti exp
      client.log "token_revoke" (some user) (some (.dict [("jti", .str jti), ("via", .str "sessions/revoke")]))

/-! ### Verification of the e-mail address -/

/-- `POST /verify-request`; the token goes out by e-mail. -/
def requestEmailVerification (token : Token) : Auth Unit := do
  let user ← getCurrentUser cfg client token
  if user.isVerified then throw (.http 400 "Email already verified")
  else
    let _token ← createVerificationToken cfg user.id
    return ()

/-- `GET /verify-email` -/
def verifyEmail (token : Token) : Auth Unit := do
  let payload ← decodeVerificationToken cfg token
  let userId ← ofExcept (liftBuiltin (pyInt payload.sub))
  match ← getUser client userId with
  | none => throw (.http 404 "User not found")
  | some user =>
    if user.isVerified then throw (.http 400 "Email already verified")
    else
      let now ← datetimeNow
      saveUser user { user with isVerified := true, emailVerifiedAt := some now }

end FastapiTemplate.Identity
