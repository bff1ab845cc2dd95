import FastapiTemplate.Effects.Possible
import FastapiTemplate.Identity.SocialAccounts

/-!
# States of social logins

`oauth_login` draws a state and returns it, `store_oauth_state` would keep it in Redis, and the callback asks
Redis for it. Nothing calls `store_oauth_state`, so no callback passes its check: `oauth_state_check` says that
the check is right exactly for the callbacks that do not complete a login.
-/

namespace FastapiTemplate.Identity

open Effects Python Store Script

/-! ### Logins -/

/-- The settings of social logins, with their defaults. -/
structure OauthSettings where
  googleClientId : String := ""
  googleClientSecret : String := ""
  githubClientId : String := ""
  githubClientSecret : String := ""
  gitlabClientId : String := ""
  gitlabClientSecret : String := ""
  oauthRedirectUrl : String := ""
  oauthStateExpireSeconds : ℤ := 300

/-- The part of `OAUTH_PROVIDER_META` that the authorize URL is built from. -/
structure ProviderMeta where
  authorizeUrl : String
  scopes : List String

def getProviderMeta (provider : String) : Except String ProviderMeta :=
  if provider = "google" then
    .ok ⟨"https://accounts.google.com/o/oauth2/v2/auth", ["openid", "email", "profile"]⟩
  else if provider = "github" then
    .ok ⟨"https://github.com/login/oauth/authorize", ["read:user", "user:email"]⟩
  else if provider = "gitlab" then .ok ⟨"https://gitlab.com/oauth/authorize", ["read_user", "openid"]⟩
  else .error ("Unsupported OAuth provider: " ++ provider)

/-- What is read from the settings, if both fields are set. -/
def configured (provider idField secretField clientId clientSecret : String) :
    Except String (String × String) :=
  if clientId = "" ∨ clientSecret = "" then
    .error ("OAuth provider '" ++ provider ++ "' is not configured (missing " ++ idField ++ " or " ++
      secretField ++ ")")
  else .ok (clientId, clientSecret)

/-- `_get_client_credentials` -/
def getClientCredentials (oc : OauthSettings) (provider : String) : Except String (String × String) :=
  if provider = "google" then
    configured provider "GOOGLE_CLIENT_ID" "GOOGLE_CLIENT_SECRET" oc.googleClientId oc.googleClientSecret
  else if provider = "github" then
    configured provider "GITHUB_CLIENT_ID" "GITHUB_CLIENT_SECRET" oc.githubClientId oc.githubClientSecret
  else if provider = "gitlab" then
    configured provider "GITLAB_CLIENT_ID" "GITLAB_CLIENT_SECRET" oc.gitlabClientId oc.gitlabClientSecret
  else .error ("Unsupported OAuth provider: " ++ provider)

def getAuthorizeUrl (oc : OauthSettings) (provider state redirectUri : String) : Except String String := do
  let info ← getProviderMeta provider
  let (clientId, _) ← getClientCredentials oc provider
  return info.authorizeUrl ++ "?client_id=" ++ clientId ++ "&redirect_uri=" ++ redirectUri ++ "&scope=" ++
    " ".intercalate info.scopes ++ "&state=" ++ state ++ "&response_type=code"

structure OAuthLoginResponse where
  authorizeUrl : String
  state : String
  deriving DecidableEq

/-- `redirect_uri or settings.OAUTH_REDIRECT_URL` -/
def actualRedirect (oc : OauthSettings) : Option String → String
  | some uri => if uri = "" then oc.oauthRedirectUrl else uri
  | none => oc.oauthRedirectUrl

/-- `oauth_login`; the state is random. -/
def oauthLogin (oc : OauthSettings) (provider : String) (redirectUri : Option String) :
    Auth OAuthLoginResponse := do
  let state ← randomText
  match getAuthorizeUrl oc provider state (actualRedirect oc redirectUri) with
  | .error e => throw (.http 400 e)
  | .ok url => return ⟨url, state⟩

/-- `store_oauth_state`, at time `t`; `cache.set` sets no time to live if it is zero, and Redis refuses one
below zero. -/
def Redis.storeOauthState (oc : OauthSettings) (r : Redis) (t : ℤ) (state : String) (data : Value) :
    Except Exn Redis :=
  if oc.oauthStateExpireSeconds = 0 then
    .ok { r with oauthStates := Function.update r.oauthStates state (some ⟨data, none⟩) }
  else if 0 < oc.oauthStateExpireSeconds then
    .ok { r with oauthStates := r.oauthStates.setex t state data (oc.oauthStateExpireSeconds * second) }
  else .error .redis

/-- **What `store_oauth_state` would do**: the state is there until its time to live is over. -/
theorem Redis.get_storeOauthState {oc : OauthSettings} {r r' : Redis} {t t' : ℤ} {state : String} {data : Value}
    (hpositive : 0 < oc.oauthStateExpireSeconds) (h : r.storeOauthState oc t state data = .ok r') :
    r'.oauthStates.get t' state = if t' ≤ t + oc.oauthStateExpireSeconds * second then some data else none := by
  unfold Redis.storeOauthState at h
  rw [if_neg hpositive.ne', if_pos hpositive] at h
  rw [← Except.ok.inj h]
  unfold Expiring.setex
  rw [Expiring.get_of_eq (Function.update_self ..)]
  simp [Lease.lasts]

/-! ### Requests that run at once -/

/-- A request to one of the two endpoints. -/
inductive OauthRequest where
  | login (provider : String) (redirectUri : Option String)
  | callback (c : Callback)

inductive OauthAnswer where
  | authorize (response : OAuthLoginResponse)
  | tokens (pair : TokenPair)

/-- The code that a request runs. -/
def OauthRequest.script (cfg : Settings) (lib : Libraries) (oc : OauthSettings) :
    OauthRequest → Auth OauthAnswer
  | .login provider redirectUri => do
    let response ← oauthLogin oc provider redirectUri
    return .authorize response
  | .callback c => do
    let pair ← oauthCallback cfg lib c.client c.provider c.state c.answers
    return .tokens pair

variable {ι : Type} [DecidableEq ι]

/-- Programs that share the world: requests and other code. -/
abbrev OauthPool (ι : Type) : Type := Pool ι Eff Answer World (Except Exn OauthAnswer × Unit)

/-- The programs with a request run it; the others may be anything. -/
def Serving (cfg : Settings) (lib : Libraries) (oc : OauthSettings) (requests : ι → Option OauthRequest)
    (P : OauthPool ι) : Prop :=
  ∀ i r, requests i = some r → P.procs i = some (r.script cfg lib oc ())

/-- The answer to a callback whose state is not there. -/
def unknownState : Exn := .http 400 "Invalid or expired OAuth state. Please try again."

/-- The callback has been answered, and not for its state. -/
def Passes (P : OauthPool ι) (i : ι) : Prop :=
  ∃ answer, P.answer? i = some answer ∧ answer.1 ≠ .error unknownState

/-- Program `i` performs this effect after the schedule. -/
def Performs (P : OauthPool ι) (ms : List (Move ι)) (i : ι) (e : Eff) : Prop :=
  ((P.run serve ms).procs i).bind Prog.effect? = some e

/-- By the end of the schedule a login has returned the state, not longer ago than states are kept, and no
program has consumed it. -/
def Outstanding (oc : OauthSettings) (requests : ι → Option OauthRequest) (P : OauthPool ι)
    (ms : List (Move ι)) (state : String) : Prop :=
  (∃ j provider redirectUri ms₀ response, requests j = some (.login provider redirectUri) ∧
    ms₀ ++ [.step j] <+: ms ∧ (P.run serve ms₀).answer? j = none ∧
    (P.run serve (ms₀ ++ [.step j])).answer? j = some (.ok (.authorize response), ()) ∧ response.state = state ∧
    (P.run serve ms).world.now ≤ (P.run serve ms₀).world.now + oc.oauthStateExpireSeconds * second) ∧
  ∀ k ms₁, ms₁ ++ [.step k] <+: ms → ¬Performs P ms₁ k (.redis (.delete (.oauthState state)))

/-- The callback completes a login: its state is outstanding when it looks. -/
def Completes (oc : OauthSettings) (requests : ι → Option OauthRequest) (P : OauthPool ι) (ms : List (Move ι))
    (i : ι) (state : String) : Prop :=
  ∃ ms₁, ms₁ ++ [.step i] <+: ms ∧ Performs P ms₁ i (.redis (.getState state)) ∧
    Outstanding oc requests P ms₁ state

/-! ### The check -/

/-- Redis holds no state. -/
def World.NoStates (w : World) : Prop := ∀ state, w.redis.oauthStates state = none

/-- No effect stores one. -/
lemma World.NoStates.serve {w : World} (h : w.NoStates) (e : Eff) : (serve e w).2.NoStates := by
  cases e with
  | redis command =>
    cases command with
    | zrem u jti =>
      intro state
      simp only [Identity.serve, Redis.run, Redis.zrem]
      split <;> exact h state
    | setRevokedAll u seconds value =>
      intro state
      simp only [Identity.serve, Redis.run]
      split <;> exact h state
    | expire key seconds =>
      cases key with
      | oauthState state' =>
        intro state
        have hlive : w.redis.oauthStates.live w.now state' = none := by
          unfold Expiring.live
          rw [h state']
          rfl
        simp only [Identity.serve, Redis.run, Redis.expireKey, Expiring.expire, hlive]
        exact h state
      | _ => exact h
    | delete key =>
      cases key with
      | oauthState state' =>
        intro state
        show Function.update w.redis.oauthStates state' none state = none
        by_cases hs : state = state'
        · rw [hs, Function.update_self]
        · rw [Function.update_of_ne hs]
          exact h state
      | _ => exact h
    | _ => exact h
  | updateUser loaded cur =>
    show (w.updateUser loaded cur).2.NoStates
    rw [w.updateUser_frame]
    exact h
  | insertUser user =>
    show (w.insertUser user).2.NoStates
    rw [w.insertUser_frame]
    exact h
  | _ => exact h

/-- In such a world a callback is turned away. -/
lemma may_callback {cfg : Settings} {lib : Libraries} {oc : OauthSettings} {c : Callback}
    {answer : Except Exn OauthAnswer × Unit}
    (h : May serve (fun w _ => w.NoStates) ((OauthRequest.callback c).script cfg lib oc) () answer) :
    answer.1 = .error unknownState := by
  -- the first effect asks for the state
  obtain ⟨w, hw, h⟩ := h
  have hget : w.redis.oauthStates.get w.now c.state = none := by
    unfold Expiring.get Expiring.live
    rw [hw c.state]
    rfl
  have hreply : (serve (.redis (.getState c.state)) w).1 = (none : Option Value) := hget
  rw [hreply] at h
  have hanswer : (.error unknownState, ()) = answer := h
  rw [← hanswer]

/-- **When the state check is right**: in every interleaving of social logins with each other and with other
code, from an empty store, a callback that has been answered has passed if and only if it completes a login,
exactly when it does not complete one. -/
theorem oauth_state_check (cfg : Settings) (lib : Libraries) (oc : OauthSettings)
    (requests : ι → Option OauthRequest) (P : OauthPool ι) (hserving : Serving cfg lib oc requests P)
    (hstart : P.world.NoStates) (ms : List (Move ι)) (i : ι) (c : Callback)
    (hi : requests i = some (.callback c)) :
    (Passes (P.run serve ms) i ↔ Completes oc requests P ms i c.state) ↔
      ¬Completes oc requests P ms i c.state := by
  have hfails : ¬Passes (P.run serve ms) i := by
    rintro ⟨answer, hanswer, hpasses⟩
    have hmeets : P.MeetsAt serve i (fun w _ => w.NoStates) ms :=
      Pool.meetsAt_of_kept (fun w e hw => hw.serve e) i ms hstart
    obtain ⟨p, hp, hmay⟩ := hmeets.may hanswer
    obtain rfl := Option.some.inj ((hserving i _ hi).symm.trans hp)
    exact hpasses (may_callback hmay)
  rw [iff_false_left hfails]

namespace Sample

/-- github is configured. -/
def githubSettings : OauthSettings where
  githubClientId := "id"
  githubClientSecret := "secret"

/-- Somebody starts a social login, and completes it with the state that he got. -/
def flow : Bool → Option OauthRequest
  | false => some (.login "github" none)
  | true => some (.callback (callback "0" [("email", .str "ann@example.com"), ("id", .int 7)]))

/-- The two requests, in a world that knows no state. -/
def flowPool : OauthPool Bool where
  world := world
  procs i := (flow i).map fun r => r.script settings libraries githubSettings ()

/-- The login first, the callback right after it. -/
def inOrder : List (Move Bool) := [.step false, .step true]

/-- The callback alone. -/
def outOfTheBlue : List (Move Bool) := [.step true]

lemma serving_flow : Serving settings libraries githubSettings flow flowPool := by
  intro i r hr
  show (flow i).map _ = _
  rw [hr]
  rfl

end Sample

open Sample in
/-- The callback completes the login, and is turned away. -/
theorem oauth_login_turned_away :
    Serving settings libraries githubSettings flow flowPool ∧ flowPool.world.NoStates ∧
      Completes githubSettings flow flowPool inOrder true "0" ∧ ¬Passes (flowPool.run serve inOrder) true := by
  have hfirst : ∀ k ms₁, ms₁ ++ [.step k] <+: [.step false] →
      ¬Performs flowPool ms₁ k (.redis (.delete (.oauthState "0"))) := by
    intro k ms₁ hprefix hperforms
    obtain rfl : ms₁ = [] := List.eq_nil_of_length_eq_zero (by simpa using hprefix.length_le)
    cases (List.cons_prefix_cons.1 hprefix).1
    cases hperforms
  refine ⟨serving_flow, fun _ => rfl, ⟨[.step false], ⟨[], rfl⟩, rfl,
    ⟨false, "github", none, [], _, rfl, ⟨[], rfl⟩, rfl, rfl, rfl, ?_⟩, hfirst⟩, ?_⟩
  · show (1000 * second : ℤ) ≤ 1000 * second + 300 * second
    decide
  · rintro ⟨answer, hanswer, hpasses⟩
    have hlast : (flowPool.run serve inOrder).answer? true = some (.error unknownState, ()) := rfl
    rw [hlast] at hanswer
    exact hpasses (by rw [← Option.some.inj hanswer])

open Sample in
/-- A callback out of the blue is turned away, as it should be. -/
theorem oauth_state_check_outOfTheBlue :
    Passes (flowPool.run serve outOfTheBlue) true ↔
      Completes githubSettings flow flowPool outOfTheBlue true "0" := by
  refine (oauth_state_check settings libraries githubSettings flow flowPool serving_flow (fun _ => rfl)
    outOfTheBlue true _ rfl).2 ?_
  rintro ⟨ms₁, hprefix, -, ⟨j, provider, redirectUri, ms₀, response, -, hlogin, -⟩, -⟩
  have hone : outOfTheBlue.length = 1 := rfl
  have hnil := hprefix.length_le
  have hsome := hlogin.length_le
  rw [List.length_append, List.length_singleton] at hnil hsome
  omega

end FastapiTemplate.Identity
