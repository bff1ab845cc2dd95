import FastapiTemplate.Effects.Calls
import FastapiTemplate.Identity.Keeping

/-!
# The requests

All that clients can ask of the identity context, as one type. A request is put together from effects and
from calls of `blacklist_token`; an invariant that both keep is kept by every request (`Keeps.request`).
-/

namespace FastapiTemplate.Identity

open Effects Python Store Script

/-! ### Requests -/

/-- A request to one of the endpoints or entry points, with where it comes from; or time going by. -/
inductive Request where
  | login (client : Client) (email password : String)
  | totpVerify (client : Client) (challengeToken : Token) (code : String)
  | refresh (client : Client) (refreshToken : Token)
  | magicLinkRequest (client : Client) (email : String)
  | magicLinkVerify (client : Client) (token : Token)
  | oauth (client : Client) (provider state : String) (answers : ProviderAnswers)
  | webauthnBegin (client : Client) (userId : Option String)
  | webauthnComplete (client : Client) (userId : Option String) (credential : Value)
  | revoke (client : Client) (token : Token)
  | revokeAll (client : Client) (token : Token)
  | sessions (client : Client) (token : Token)
  | revokeSession (client : Client) (token : Token) (jti : String)
  | verifyRequest (client : Client) (token : Token)
  | emailVerify (client : Client) (token : Token)
  | currentUser (client : Client) (token : Token)
  | graphql (client : Client) (token : Option Token)
  | websocket (client : Client) (token : Option Token)
  | wait (time : ℕ)

/-- A script with its result left out. -/
def discard {α : Type} (p : Auth α) : Auth Unit := do let _result ← p

/-- The code that a request runs. -/
def Request.script (cfg : Settings) (lib : Libraries) : Request → Auth Unit
  | .login client email password => discard (loginForAccessToken cfg lib client email password)
  | .totpVerify client challengeToken code => discard (loginWithTotp cfg lib client challengeToken code)
  | .refresh client refreshToken => discard (refreshAccessToken cfg client refreshToken)
  | .magicLinkRequest client email => requestMagicLink cfg client email
  | .magicLinkVerify client token => discard (verifyMagicLink cfg lib client token)
  | .oauth client provider state answers =>
    discard (oauthCallback cfg lib client provider state answers)
  | .webauthnBegin client userId => discard (webauthnLoginBegin client userId)
  | .webauthnComplete client userId credential =>
    discard (webauthnLoginComplete cfg lib client userId credential)
  | .revoke client token => revokeToken cfg client token
  | .revokeAll client token => discard (revokeAllTokens cfg client token)
  | .sessions client token => discard (listSessionsEndpoint cfg client token)
  | .revokeSession client token jti => revokeSessionEndpoint cfg client token jti
  | .verifyRequest client token => requestEmailVerification cfg client token
  | .emailVerify client token => verifyEmail cfg client token
  | .currentUser client token => discard (getCurrentUser cfg client token)
  | .graphql client token => discard (getGqlContext cfg client token)
  | .websocket client token => discard (getCurrentUserWs cfg client token)
  | .wait time => perform (Eff.sleep time)

/-- The world after a request. -/
def Request.step (cfg : Settings) (lib : Libraries) (request : Request) (w : World) : World :=
  ((request.script cfg lib).exec serve () w).world

/-! ### The entry points read only -/

section Observes

variable {cfg : Settings} {client : Client} {token : Token}

lemma observes_getWithRoles (id : ℤ) : Observes (getWithRoles client id) := .selectUser _ _

lemma observes_getUser (id : ℤ) : Observes (getUser client id) := .selectUser _ _

/-- A lookup by id finds a row with this id. -/
lemma getUser_ok {w : World} {userId : ℤ} {user : User}
    (h : ((getUser client userId).exec serve () w).result = .ok (some user)) :
    user ∈ w.users.rows ∧ user.id = userId := by
  unfold getUser at h
  rw [exec_selectUser] at h
  obtain ⟨hmem, -, hp⟩ := mem_of_select h
  exact ⟨hmem, beq_iff_eq.1 ((Bool.and_eq_true _ _).mp hp).1⟩

lemma observes_getByEmail (email : String) : Observes (getByEmail client email) := .selectUser _ _

lemma observes_getCurrentUser : Observes (getCurrentUser cfg client token) := by
  unfold getCurrentUser
  refine observes_decodeAccessToken.bind fun payload => (observes_isRevoked payload).bind fun revoked => ?_
  split
  · exact .throw _
  · refine (Observes.ofExcept _).bind fun id => (observes_getWithRoles id).bind fun found => ?_
    split
    · exact .throw _
    · split
      · exact .throw _
      · exact .pure _

lemma observes_gqlUser : Observes (gqlUser cfg client token) := by
  unfold gqlUser
  refine observes_decodeAccessToken.bind fun payload => ?_
  split
  · exact .pure _
  · exact (Observes.ofExcept _).bind fun id => observes_getWithRoles id

lemma observes_getGqlContext (token : Option Token) : Observes (getGqlContext cfg client token) := by
  unfold getGqlContext
  split
  · exact .pure _
  · exact observes_gqlUser.tryCatch fun _ => .pure _

lemma observes_getCurrentUserWs (token : Option Token) : Observes (getCurrentUserWs cfg client token) := by
  unfold getCurrentUserWs
  split
  · exact .throw _
  · refine observes_decodeAccessToken.bind fun payload => (Observes.ofExcept _).bind fun id =>
      (observes_getUser id).bind fun found => ?_
    split
    · exact .throw _
    · exact .pure _

end Observes

/-! ### What every request keeps -/

namespace Keeps

/-! #### Code that signs no token -/

section Unsigned

variable {cfg : Settings} {lib : Libraries} {client : Client} {I : World → Prop}
  (hU : ∀ e : Eff, e.Unsigned → Serves I e)
include hU

lemma log (eventType : String) (user : Option User) (details : Option Value) :
    Keeps I (client.log eventType user details) := by
  unfold Client.log logAuthEvent
  split
  · exact perform (hU _ trivial)
  · exact throw _

lemma saveUser (loaded cur : User) : Keeps I (saveUser loaded cur) :=
  bind (perform (hU _ trivial)) fun _ => ofExcept _

lemma createUser (user : User) : Keeps I (createUser user) :=
  bind (perform (hU _ trivial)) fun _ => ofExcept _

lemma randomText : Keeps I randomText := bind (perform (hU _ trivial)) fun _ => pure _

lemma acceptPassword (user : User) (now : Datetime) : Keeps I (acceptPassword client user now) :=
  bind (saveUser hU _ _) fun _ => log hU _ _ _

lemma rejectPassword (user : User) (now : Datetime) : Keeps I (rejectPassword cfg client user now) :=
  bind (saveUser hU _ _) fun _ => log hU _ _ _

lemma authenticateUser (email password : String) :
    Keeps I (authenticateUser cfg lib client email password) := by
  unfold Identity.authenticateUser
  refine bind (observes (observes_getByEmail email)) fun found => ?_
  cases found with
  | none => exact bind (log hU _ _ _) fun _ => pure _
  | some user =>
    refine bind datetimeNow fun now => ?_
    dsimp only
    split
    · exact bind (log hU _ _ _) fun _ => throw _
    · refine bind (ofExcept _) fun matched => bind (perform (hU _ trivial)) fun _ => ?_
      split
      · exact bind (acceptPassword hU _ _) fun _ => pure _
      · exact bind (rejectPassword hU _ _) fun _ => pure _

lemma storeTokens (userId : ℤ) (pair : TokenPair) : Keeps I (storeTokens cfg client userId pair) :=
  have hI : ∀ e : Eff, e.SessionsOf userId → Serves I e := fun e he => hU e he.unsigned
  bind (observes observes_decodeAccessToken) fun _ => bind (observes observes_decodeRefreshToken) fun _ =>
    bind (ofExcept _) fun _ => bind (storeSession hI _) fun _ => bind (ofExcept _) fun _ => storeSession hI _

lemma verifySecondFactor (user : User) (secret code : String) :
    Keeps I (verifySecondFactor lib user secret code) := by
  unfold Identity.verifySecondFactor verifyTotpCode
  refine bind (bind datetimeNow fun _ => ofExcept _) fun valid => ?_
  split
  · exact pure _
  · refine bind (ofExcept _) fun used => ?_
    split
    · split
      · exact pure _
      · exact bind (saveUser hU _ _) fun _ => pure _
    · exact pure _

lemma magicLinkUser (email : String) : Keeps I (magicLinkUser cfg lib client email) := by
  unfold Identity.magicLinkUser
  refine bind (observes (observes_getByEmail email)) fun found => ?_
  cases found with
  | none =>
    dsimp only
    split
    · exact throw _
    · exact bind (randomText hU) fun _ => bind (randomText hU) fun _ => createUser hU _
  | some user =>
    dsimp only
    split
    · exact pure _
    · exact bind datetimeNow fun _ => bind (saveUser hU _ _) fun _ => pure _

lemma consumeOauthState (state : String) : Keeps I (consumeOauthState state) := by
  unfold Identity.consumeOauthState
  refine bind (perform (hU _ trivial)) fun found => ?_
  split
  · exact pure _
  · exact pure _
  · exact bind (perform (hU _ trivial)) fun _ => pure _

lemma linkOauthAccount (user : User) (provider providerId accessToken refreshToken : String) :
    Keeps I (linkOauthAccount user provider providerId accessToken refreshToken) :=
  bind (saveUser hU _ _) fun _ => pure _

lemma createOauthUser (email provider providerId accessToken refreshToken : String) :
    Keeps I (createOauthUser lib client email provider providerId accessToken refreshToken) :=
  bind (randomText hU) fun _ => bind (randomText hU) fun _ => bind datetimeNow fun _ => createUser hU _

lemma oauthUser (provider : String) (email : Value) (providerId accessToken refreshToken : String) :
    Keeps I (oauthUser lib client provider email providerId accessToken refreshToken) := by
  unfold Identity.oauthUser getByOauth
  refine bind (observes (.selectUser _ _)) fun byOauth => ?_
  -- what follows, whether or not a user was found
  have hknown : ∀ user : User, Keeps I (
      if user.oauthProviderId = none ∨ user.oauthProviderId = some "" then
        Identity.linkOauthAccount user provider providerId accessToken refreshToken
      else if user.oauthProvider ≠ some provider ∨ user.oauthProviderId ≠ some providerId then
        MonadExcept.throw (Exn.http 409 "This email is already linked to a different OAuth account.")
      else Pure.pure user) := by
    intro user
    split
    · exact linkOauthAccount hU _ _ _ _ _
    · split
      · exact throw _
      · exact pure _
  have hunknown : Keeps I (do
      let address ← MonadExcept.ofExcept (liftBuiltin (emailText email))
      Identity.createOauthUser lib client address provider providerId accessToken refreshToken) :=
    bind (ofExcept _) fun _ => createOauthUser hU _ _ _ _ _
  cases byOauth with
  | some user => exact bind (pure _) (Option.forall.2 ⟨hunknown, hknown⟩)
  | none =>
    exact bind (ofExcept _) fun address =>
      bind (observes (observes_getByEmail address)) (Option.forall.2 ⟨hunknown, hknown⟩)

lemma selectCredentials (userId : ℤ) : Keeps I (selectCredentials userId) :=
  bind (perform (hU _ trivial)) fun _ => pure _

lemma webauthnBegin (userId : Option String) : Keeps I (webauthnLoginBegin client userId) := by
  unfold webauthnLoginBegin beginAuthentication
  split
  · exact throw _
  · split
    · exact throw _
    · refine bind (observes (observes_getByEmail _)) fun found => ?_
      split
      · exact throw _
      · refine bind (selectCredentials hU _) fun creds => ?_
        split
        · exact throw _
        · exact bind (randomText hU) fun _ => bind (perform (hU _ trivial)) fun _ => pure _

lemma completeAuthentication (userId : ℤ) (credential : Value) :
    Keeps I (completeAuthentication lib userId credential) := by
  unfold Identity.completeAuthentication
  refine bind (perform (hU _ trivial)) fun pending => ?_
  split
  · exact throw _
  · refine bind (selectCredentials hU _) fun creds => ?_
    split
    · exact throw _
    · refine bind (ofExcept _) fun id => ?_
      split
      · exact throw _
      · split
        · exact throw _
        · split
          · exact pure _
          · exact throw _

lemma emailVerify (token : Token) : Keeps I (verifyEmail cfg client token) := by
  unfold verifyEmail
  refine bind (observes observes_decodeVerificationToken) fun payload => bind (ofExcept _) fun id =>
    bind (observes (observes_getUser id)) fun found => ?_
  cases found with
  | none => exact throw _
  | some user =>
    dsimp only
    split
    · exact throw _
    · exact bind datetimeNow fun _ => saveUser hU _ _

lemma sessions (token : Token) : Keeps I (listSessionsEndpoint cfg client token) :=
  bind (observes observes_getCurrentUser) fun _ => listActiveSessions fun e he => hU e he.unsigned

end Unsigned

/-! #### Minting -/

section Minting

variable {cfg : Settings} {client : Client} {I : World → Prop} (hU : ∀ e : Eff, e.Unsigned → Serves I e)

lemma jwtEncode {claims : Claims} (hs : ∀ token : Token, token.claims = claims → Serves I (.sign token))
    (key : SigningKey) (alg : Algorithm) : Keeps I (jwtEncode cfg claims key alg) := by
  unfold Identity.jwtEncode
  split
  · exact bind (perform (hs _ rfl)) fun _ => pure _
  · exact throw _

include hU

/-- The claims are of the subject and the purpose. -/
lemma makeJwtPayload (subject : String) (expiresDelta : Option Timedelta) (purpose : Purpose) :
    Ensures serve I (makeJwtPayload cfg subject expiresDelta purpose)
      fun claims => claims.sub = subject ∧ claims.purpose = purpose.claim :=
  Ensures.bind datetimeNow fun _ _ => Ensures.bind (randomText hU) fun _ _ => Ensures.pure ⟨rfl, rfl⟩

/-- Minting a token of a subject and a purpose. -/
lemma mint {subject : String} {purpose : Purpose} (hs : Signs I subject purpose)
    (expiresDelta : Option Timedelta) :
    Keeps I (Identity.makeJwtPayload cfg subject expiresDelta purpose >>= signPayload cfg) := by
  refine Ensures.bind (makeJwtPayload hU subject expiresDelta purpose) fun claims hclaims => ?_
  rw [signPayload_eq]
  exact jwtEncode (fun token htoken => hs token (htoken ▸ hclaims.1) (htoken ▸ hclaims.2)) _ _

lemma createAccessToken {subject : String} (hs : Signs I subject .access) :
    Keeps I (createAccessToken cfg subject) := mint hU hs _

lemma createRefreshToken {subject : String} (hs : Signs I subject .refresh) :
    Keeps I (createRefreshToken cfg subject) := mint hU hs _

lemma createMagicLinkToken {email : String} (hs : Signs I email .magicLink) :
    Keeps I (createMagicLinkToken cfg email) := mint hU hs _

omit hU in
lemma createVerificationToken {userId : ℤ} (hs : Signs I (toString userId) .emailVerify) :
    Keeps I (createVerificationToken cfg userId) :=
  bind datetimeNow fun _ =>
    jwtEncode (fun token htoken => hs token (by rw [htoken]) (by rw [htoken])) _ _

lemma createTotpChallengeToken {userId : ℤ} (hs : Signs I (toString userId) .totpChallenge) :
    Keeps I (createTotpChallengeToken cfg userId) :=
  bind datetimeNow fun _ => bind (randomText hU) fun _ =>
    jwtEncode (fun token htoken => hs token (by rw [htoken]) (by rw [htoken])) _ _

lemma createTokens {userId : ℤ} (hs : ∀ purpose, Signs I (toString userId) purpose) :
    Keeps I (createTokens cfg userId) :=
  bind (createAccessToken hU (hs _)) fun _ => bind (createRefreshToken hU (hs _)) fun _ => pure _

lemma issueTokens {user : User} (hs : ∀ purpose, Signs I (toString user.id) purpose) :
    Keeps I (issueTokens cfg client user) :=
  bind (createTokens hU hs) fun _ => bind (storeTokens hU _ _) fun _ => pure _

lemma magicLinkRequest {email : String} (hs : Signs I email .magicLink) :
    Keeps I (requestMagicLink cfg client email) :=
  bind (createMagicLinkToken hU hs) fun _ => log hU _ _ _

/-- The refresh endpoint mints tokens for the subject of the token that it is given. -/
lemma refresh (hb : ∀ u jti exp, Keeps I (blacklistToken cfg u jti exp)) (token : Token)
    (hs : token.signedBy = some cfg.payloadKey → ∀ userId, pyInt token.claims.sub = .ok userId →
      ∀ purpose, Signs I (toString userId) purpose) : Keeps I (refreshAccessToken cfg client token) := by
  unfold refreshAccessToken
  refine Ensures.bind (Q := fun claims => token.signedBy = some cfg.payloadKey ∧ token.claims = claims)
    (observes_decodeRefreshToken.ensures fun w claims h => ?_) fun payload hpayload => ?_
  · obtain ⟨hread, hclaims, -⟩ := decodeRefreshToken_ok.1 h
    exact ⟨hread.2.2.1, hclaims⟩
  obtain ⟨hsigned, rfl⟩ := hpayload
  refine Ensures.bind (Ensures.ofExcept fun userId h => h) fun userId hid => ?_
  refine Ensures.bind (Q := fun found => ∀ user ∈ found, user.id = userId)
    ((observes_getUser userId).ensures fun w found h user hfound => ?_) fun found hfound => ?_
  · rw [Option.mem_def.1 hfound] at h
    exact (getUser_ok h).2
  cases found with
  | none => exact throw _
  | some user =>
    dsimp only
    split
    · exact throw _
    · refine bind (createTokens hU ?_) fun pair => ?_
      · rw [hfound user rfl]
        exact hs hsigned userId (liftBuiltin_eq_ok.1 hid)
      have hrest : Keeps I (do
          Identity.storeTokens cfg client user.id pair
          client.log "token_refresh" (some user) none
          Pure.pure pair) :=
        bind (storeTokens hU _ _) fun _ => bind (log hU _ _ _) fun _ => pure _
      cases token.claims.jti with
      | none => exact hrest
      | some oldJti =>
        dsimp only
        split
        · exact hrest
        · exact bind (revokeSession (fun e he => hU e he.unsigned) (hb _) _ _) fun _ => hrest

end Minting

/-! #### Code that writes no user -/

section Users

variable {cfg : Settings} {client : Client} {I : World → Prop} (hS : ∀ e : Eff, e.SparesUsers → Serves I e)
include hS

/-- The token that is minted is for the subject. -/
lemma spares_mint (subject : String) (expiresDelta : Option Timedelta) (purpose : Purpose) :
    Ensures serve I (Identity.makeJwtPayload cfg subject expiresDelta purpose >>= signPayload cfg)
      fun token => token.claims.sub = subject := by
  refine Ensures.bind (Q := fun claims => claims.sub = subject) ?_ fun claims hclaims => ?_
  · exact Ensures.bind datetimeNow fun _ _ =>
      Ensures.bind (bind (perform (hS _ trivial)) fun _ => pure _) fun _ _ => Ensures.pure rfl
  · rw [signPayload_eq]
    unfold Identity.jwtEncode
    split
    · exact Ensures.bind (perform (hS _ trivial)) fun _ _ => Ensures.pure hclaims
    · exact Ensures.throw _

/-- The tokens that are issued for a user are his. -/
lemma spares_issueTokens (user : User) :
    Ensures serve I (Identity.issueTokens cfg client user)
      fun pair => pair.accessToken.claims.sub = toString user.id := by
  have hI : ∀ e : Eff, e.SessionsOf user.id → Serves I e := fun e he => hS e he.sparesUsers
  refine Ensures.bind (Q := fun pair : TokenPair => pair.accessToken.claims.sub = toString user.id) ?_
    fun pair hpair => Ensures.bind (Q := fun _ => True) ?_ fun _ _ => Ensures.pure hpair
  · exact Ensures.bind (spares_mint hS _ _ _) fun _ haccess =>
      Ensures.bind (spares_mint hS _ _ _) fun _ _ => Ensures.pure haccess
  · exact bind (observes observes_decodeAccessToken) fun _ => bind (observes observes_decodeRefreshToken) fun _ =>
      bind (ofExcept _) fun _ => bind (storeSession hI _) fun _ => bind (ofExcept _) fun _ => storeSession hI _

end Users

/-! #### Endpoints -/

section Aside

variable {cfg : Settings} {lib : Libraries} {client : Client} {I : World → Prop}
  (hA : ∀ e : Eff, e.Aside → Serves I e)
include hA

/-- Any token may be signed. -/
lemma signs (subject : String) (purpose : Purpose) : Signs I subject purpose := fun _ _ _ => hA _ trivial

lemma login (email password : String) : Keeps I (loginForAccessToken cfg lib client email password) := by
  have hU : ∀ e : Eff, e.Unsigned → Serves I e := fun e he => hA e he.aside
  unfold loginForAccessToken
  refine bind (tryCatch (authenticateUser hU _ _) fun e => ?_) fun found => ?_
  · split <;> exact throw _
  · cases found with
    | none => exact throw _
    | some user =>
      dsimp only
      split
      · exact bind (createTotpChallengeToken hU (signs hA _ _)) fun _ => pure _
      · exact bind (issueTokens hU (signs hA _)) fun _ => pure _

lemma totpVerify (token : Token) (code : String) : Keeps I (loginWithTotp cfg lib client token code) := by
  have hU : ∀ e : Eff, e.Unsigned → Serves I e := fun e he => hA e he.aside
  unfold loginWithTotp
  refine bind (observes observes_decodeTotpChallengeToken) fun payload => bind (ofExcept _) fun id =>
    bind (observes (observes_getUser id)) fun found => ?_
  cases found with
  | none => exact throw _
  | some user =>
    dsimp only
    split
    · exact throw _
    · split
      · exact throw _
      · refine bind (verifySecondFactor hU _ _ _) fun valid => ?_
        split
        · exact throw _
        · exact issueTokens hU (signs hA _)

lemma magicLinkVerify (token : Token) : Keeps I (verifyMagicLink cfg lib client token) :=
  have hU : ∀ e : Eff, e.Unsigned → Serves I e := fun e he => hA e he.aside
  bind (observes observes_decodeMagicLinkToken) fun _ => bind (magicLinkUser hU _) fun _ =>
    bind (createTokens hU (signs hA _)) fun _ => bind (storeTokens hU _ _) fun _ =>
      bind (log hU _ _ _) fun _ => pure _

lemma oauth (provider state : String) (answers : ProviderAnswers) :
    Keeps I (oauthCallback cfg lib client provider state answers) := by
  have hU : ∀ e : Eff, e.Unsigned → Serves I e := fun e he => hA e he.aside
  unfold oauthCallback
  refine bind (consumeOauthState hU _) fun known => ?_
  split
  · exact throw _
  · split
    · exact throw _
    · exact throw _
    · refine bind (ofExcept _) fun answer => ?_
      dsimp only
      split
      · exact throw _
      · refine bind (oauthUser hU _ _ _ _ _) fun user => ?_
        split
        · exact throw _
        · exact issueTokens hU (signs hA _)

lemma webauthnComplete (userId : Option String) (credential : Value) :
    Keeps I (webauthnLoginComplete cfg lib client userId credential) := by
  have hU : ∀ e : Eff, e.Unsigned → Serves I e := fun e he => hA e he.aside
  unfold webauthnLoginComplete
  split
  · exact throw _
  · split
    · exact throw _
    · refine bind (observes (observes_getByEmail _)) fun found => ?_
      split
      · exact throw _
      · exact bind (completeAuthentication hU _ _) fun _ => createAccessToken hU (signs hA _ _)

lemma verifyRequest (token : Token) : Keeps I (requestEmailVerification cfg client token) := by
  unfold requestEmailVerification
  refine bind (observes observes_getCurrentUser) fun user => ?_
  split
  · exact throw _
  · exact bind (createVerificationToken (signs hA _ _)) fun _ => pure _

end Aside

section Blacklist

variable {cfg : Settings} {lib : Libraries} {client : Client} {I : World → Prop}

section Revocation

variable (hU : ∀ e : Eff, e.Unsigned → Serves I e) (hb : ∀ u jti exp, Keeps I (blacklistToken cfg u jti exp))
include hU hb

lemma revoke (token : Token) : Keeps I (revokeToken cfg client token) := by
  unfold revokeToken
  refine bind (observes observes_getCurrentUser) fun user => bind (observes observes_decodeAccessToken)
    fun payload => ?_
  cases payload.jti with
  | none => exact log hU _ _ _
  | some jti =>
    dsimp only
    split
    · exact log hU _ _ _
    · exact bind (revokeSession (fun e he => hU e he.unsigned) (hb _) _ _) fun _ => log hU _ _ _

lemma revokeAll (token : Token) : Keeps I (revokeAllTokens cfg client token) :=
  bind (observes observes_getCurrentUser) fun _ =>
    bind (revokeAllUserSessions (fun e he => hU e he.unsigned) (hb _)) fun _ =>
      bind (log hU _ _ _) fun _ => pure _

lemma revokeSessionEndpoint (token : Token) (jti : String) :
    Keeps I (revokeSessionEndpoint cfg client token jti) := by
  unfold Identity.revokeSessionEndpoint getSession
  refine bind (observes observes_getCurrentUser) fun user => ?_
  split
  · exact throw _
  · refine bind (perform (hU _ trivial)) fun found => ?_
    cases found with
    | none => exact throw _
    | some info =>
      exact bind (ofExcept _) fun _ =>
        bind (revokeSession (fun e he => hU e he.unsigned) (hb _) _ _) fun _ => log hU _ _ _

end Revocation

/-- **Every request.** -/
theorem request (hA : ∀ e : Eff, e.Aside → Serves I e)
    (hb : ∀ u jti exp, Keeps I (blacklistToken cfg u jti exp)) (r : Request) : Keeps I (r.script cfg lib) := by
  have hU : ∀ e : Eff, e.Unsigned → Serves I e := fun e he => hA e he.aside
  cases r with
  | login => exact bind (login hA _ _) fun _ => pure _
  | totpVerify => exact bind (totpVerify hA _ _) fun _ => pure _
  | refresh => exact bind (refresh hU hb _ fun _ _ _ => signs hA _) fun _ => pure _
  | magicLinkRequest => exact magicLinkRequest hU (signs hA _ _)
  | magicLinkVerify => exact bind (magicLinkVerify hA _) fun _ => pure _
  | oauth => exact bind (oauth hA _ _ _) fun _ => pure _
  | webauthnBegin => exact bind (webauthnBegin hU _) fun _ => pure _
  | webauthnComplete => exact bind (webauthnComplete hA _ _) fun _ => pure _
  | revoke => exact revoke hU hb _
  | revokeAll => exact bind (revokeAll hU hb _) fun _ => pure _
  | sessions => exact bind (sessions hU _) fun _ => pure _
  | revokeSession => exact revokeSessionEndpoint hU hb _ _
  | verifyRequest => exact verifyRequest hA _
  | emailVerify => exact emailVerify hU _
  | currentUser => exact bind (observes observes_getCurrentUser) fun _ => pure _
  | graphql => exact bind (observes (observes_getGqlContext _)) fun _ => pure _
  | websocket => exact bind (observes (observes_getCurrentUserWs _)) fun _ => pure _
  | wait => exact perform (hU _ trivial)

end Blacklist

end Keeps

end FastapiTemplate.Identity
