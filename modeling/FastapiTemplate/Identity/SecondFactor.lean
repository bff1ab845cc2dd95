import FastapiTemplate.Identity.Checks
import FastapiTemplate.Identity.Purposes
import FastapiTemplate.Identity.Rotation

/-!
# Which logins ask for the second factor

The password login of a user with a second factor gives a challenge token only, and `/login/totp-verify`
exchanges it for tokens once a code is right; a passkey is a second factor of its own. Magic links and social
logins do not ask for one, and `get_current_user` takes a challenge token or a magic-link token as well as an
access token. `second_factor_mandatory` is about every sequence of logins in which these do not happen.
-/

namespace FastapiTemplate.Identity

open Effects Python Store Script

variable {cfg : Settings} {lib : Libraries} {client : Client} {w w' : World} {userId : ℤ} {G : Prop}

/-! ### Credentials -/

/-- An access or refresh token of the user. -/
def Token.Credential (cfg : Settings) (userId : ℤ) (token : Token) : Prop :=
  token.signedBy = some cfg.payloadKey ∧ token.Of userId

/-- The user exists and has a second factor. -/
def Protected (userId : ℤ) (w : World) : Prop :=
  (∃ user ∈ w.users.rows, user.id = userId) ∧ ∀ user ∈ w.users.rows, user.id = userId → user.totpEnabled = true

/-- From `w` to `w'` the user stayed protected, and got no credential unless `G`. -/
def Sound (cfg : Settings) (userId : ℤ) (G : Prop) (w w' : World) : Prop :=
  Protected userId w' ∧ ∃ made, w'.issued = made ++ w.issued ∧ ∀ token ∈ made, token.Credential cfg userId → G

lemma Protected.sound (h : Protected userId w) : Sound cfg userId G w w := ⟨h, [], rfl, fun _ h => nomatch h⟩

/-! ### Effects -/

/-- Nobody else gets the id of the user. -/
lemma Protected.next_ne (h : Protected userId w) : w.users.next ≠ userId := by
  obtain ⟨⟨user, hmem, rfl⟩, -⟩ := h
  exact (w.users.below user hmem).ne'

lemma Protected.updateUser (h : Protected userId w) (loaded cur : User) :
    Protected userId (w.updateUser loaded cur).2 := by
  rcases w.updateUser_cases loaded cur with hsame | ⟨stored, hstored, -, hwritten⟩
  · rwa [hsame]
  · obtain ⟨⟨user, hmem, hid⟩, hall⟩ := h
    have hkey : (Table.overwrite (User.update loaded cur stored) user).id = user.id :=
      Table.key_overwrite _ user
    rw [hwritten]
    refine ⟨⟨_, List.mem_map_of_mem hmem, hkey.trans hid⟩, fun row hrow hid' => ?_⟩
    rcases Table.mem_put hrow with rfl | ⟨hold, -⟩
    · exact hall stored hstored hid'
    · exact hall row hold hid'

lemma Protected.insertUser (h : Protected userId w) (user : User) :
    Protected userId (w.insertUser user).2 := by
  rcases w.insertUser_cases user with hsame | hinserted
  · rwa [hsame]
  · have hne := h.next_ne
    obtain ⟨⟨row, hmem, hid⟩, hall⟩ := h
    rw [hinserted]
    refine ⟨⟨row, Table.mem_insert.2 (.inl hmem), hid⟩, fun row' hrow' hid' => ?_⟩
    rcases Table.mem_insert.1 hrow' with hrow' | rfl
    · exact hall row' hrow' hid'
    · exact absurd hid' hne

lemma Eff.Aside.protected {e : Eff} (he : e.Aside) : Serves (Protected userId) e := by
  intro w hw
  cases e with
  | updateUser loaded cur => exact hw.updateUser loaded cur
  | insertUser user => exact hw.insertUser user
  | _ => exact hw

/-- Only signing issues a token. -/
lemma Eff.Unsigned.issued {e : Eff} (he : e.Unsigned) (w : World) : (serve e w).2.issued = w.issued := by
  cases e with
  | sign token => exact he.elim
  | updateUser loaded cur =>
    simp only [serve, World.updateUser]
    split <;> rfl
  | insertUser user =>
    simp only [serve, World.insertUser]
    split <;> rfl
  | _ => rfl

lemma Eff.Unsigned.sound {e : Eff} (he : e.Unsigned) : Serves (Sound cfg userId G w) e := by
  rintro w' ⟨hprotected, made, hmade, hall⟩
  exact ⟨he.aside.protected w' hprotected, made, (he.issued w').trans hmade, hall⟩

lemma sound_sign {token : Token} (h : token.Credential cfg userId → G) :
    Serves (Sound cfg userId G w) (.sign token) := by
  rintro w' ⟨hprotected, made, hmade, hall⟩
  refine ⟨hprotected, token :: made, congrArg (List.cons token) hmade, fun t ht => ?_⟩
  rcases List.mem_cons.1 ht with rfl | ht
  · exact h
  · exact hall t ht

/-- Tokens for another subject are no credentials of the user. -/
lemma signs_subject {id : ℤ} (h : id = userId → G) (purpose : Purpose) :
    Signs (Sound cfg userId G w) (toString id) purpose := by
  refine fun token hsub _ => sound_sign fun hcredential => h ?_
  have hid := hcredential.2.1
  rw [hsub, pyInt_toString] at hid
  exact Except.ok.inj hid

/-- Neither are tokens for another purpose. -/
lemma signs_purpose {purpose : Purpose} (ha : purpose ≠ .access) (hr : purpose ≠ .refresh) (subject : String) :
    Signs (Sound cfg userId G w) subject purpose := by
  refine fun token _ hpurpose => sound_sign fun hcredential => ?_
  rcases hcredential.2.2 with h | h
  · exact absurd (Purpose.claim_injective (hpurpose.symm.trans h)) ha
  · exact absurd (Purpose.claim_injective (hpurpose.symm.trans h)) hr

lemma sound_blacklistToken (u : ℤ) (jti : String) (exp : ℤ) :
    Keeps (Sound cfg userId G w) (blacklistToken cfg u jti exp) := keeps_blacklistToken fun _ hw => hw

/-! ### One login -/

/-- Nothing but signing matters. -/
lemma sound_unsigned : ∀ e : Eff, e.Unsigned → Serves (Sound cfg userId G w) e := fun _ he => he.sound

/-- The password login gives tokens to users without a second factor, and the others a challenge. -/
theorem sound_login (h : Protected userId w) (email password : String) :
    Sound cfg userId G w ((loginForAccessToken cfg lib client email password).exec serve () w).world := by
  unfold loginForAccessToken
  refine Keeps.world_bind (.tryCatch (.authenticateUser sound_unsigned _ _) fun e => ?_) h.sound
    fun found hfound => ?_
  · split <;> exact .throw _
  cases found with
  | none => exact .throw _
  | some user =>
    have hauth :
        ((authenticateUser cfg lib client email password).exec serve () w).result = .ok (some user) := by
      rw [exec_tryCatch] at hfound
      generalize (authenticateUser cfg lib client email password).exec serve () w = o at hfound ⊢
      obtain ⟨e | found, s, w'⟩ := o
      · cases e <;> cases hfound
      · exact hfound
    obtain ⟨row, hrow, rfl⟩ := authenticateUser_ok hauth
    dsimp only
    split
    · exact .bind (.createTotpChallengeToken sound_unsigned (signs_purpose (by decide) (by decide) _))
        fun _ => .pure _
    · rename_i htotp
      refine .bind (.issueTokens sound_unsigned (signs_subject fun hid => ?_)) fun _ => .pure _
      exact absurd (h.2 row hrow hid) htotp

/-- `/login/totp-verify` gives tokens once a code is right. -/
theorem sound_totpVerify (h : Protected userId w) {token : Token} {code : String}
    (hG : (pyInt token.claims.sub = .ok userId ∧
      ∃ user ∈ w.users.rows, user.id = userId ∧ FactorVerified lib user code w.now) → G) :
    Sound cfg userId G w ((loginWithTotp cfg lib client token code).exec serve () w).world := by
  unfold loginWithTotp
  refine observes_decodeTotpChallengeToken.world_bind h.sound fun claims hclaims => ?_
  obtain ⟨-, rfl, -⟩ := decodeTotpChallengeToken_ok.1 hclaims
  refine (Observes.ofExcept _).world_bind h.sound fun id hid => ?_
  rw [exec_ofExcept, liftBuiltin_eq_ok] at hid
  refine (observes_getUser id).world_bind h.sound fun found hfound => ?_
  cases found with
  | none => exact h.sound
  | some user =>
    obtain ⟨hmem, rfl⟩ := getUser_ok hfound
    dsimp only
    split
    · exact h.sound
    · split
      · exact h.sound
      · rename_i secret hsecret
        refine Keeps.world_bind (.verifySecondFactor sound_unsigned _ _ _) h.sound fun valid hvalid => ?_
        cases valid with
        | false => exact .throw _
        | true =>
          refine .issueTokens sound_unsigned (signs_subject fun huser => ?_)
          refine hG ⟨huser ▸ hid, user, hmem, huser, ?_⟩
          exact verifySecondFactor_ok (User.secondFactor?_eq_some hsecret) hvalid

/-- The refresh endpoint gives tokens for the subject of the token. -/
theorem sound_refresh (h : Protected userId w) {token : Token}
    (hG : token.Refreshable cfg w.now → pyInt token.claims.sub = .ok userId → G) :
    Sound cfg userId G w ((refreshAccessToken cfg client token).exec serve () w).world := by
  by_cases hread : token.Refreshable cfg w.now
  · refine (Keeps.refresh sound_unsigned sound_blacklistToken token fun _ id hid => ?_) () w h.sound |>.1
    exact signs_subject fun hsame => hG hread (hsame ▸ hid)
  · refine observes_decodeRefreshToken.world_bind h.sound fun claims hclaims => absurd ?_ hread
    obtain ⟨hreadable, -, hpurpose⟩ := decodeRefreshToken_ok.1 hclaims
    exact ⟨hreadable, hpurpose⟩

/-- A magic link gives tokens to the user with the address. -/
theorem sound_magicLinkVerify (h : Protected userId w) {token : Token}
    (hother : token.Readable cfg cfg.payloadKey w.now →
      (cfg.algorithm = .hs256 → token.claims.purpose = Purpose.magicLink.claim) →
      ∀ user, ((getByEmail client token.claims.sub).exec serve () w).result = .ok (some user) →
        user.id ≠ userId) :
    Sound cfg userId G w ((verifyMagicLink cfg lib client token).exec serve () w).world := by
  refine observes_decodeMagicLinkToken.world_bind h.sound fun claims hclaims => ?_
  obtain ⟨hread, rfl, hpurpose⟩ := decodeMagicLinkToken_ok.1 hclaims
  refine Keeps.world_bind (.magicLinkUser sound_unsigned _) h.sound fun user huser => ?_
  refine .bind (.createTokens sound_unsigned (signs_subject fun hid => ?_)) fun _ =>
    .bind (.storeTokens sound_unsigned _ _) fun _ => .bind (.log sound_unsigned _ _ _) fun _ => .pure _
  rcases magicLinkUser_ok huser with ⟨row, hrow, hsame⟩ | hnew
  · exact absurd (hsame.trans hid) (hother hread hpurpose row hrow)
  · exact absurd (hnew.symm.trans hid) h.next_ne

/-- What a callback logs in with: a state that is known, and answers of the provider that lead to the user. -/
def OauthAdmits (client : Client) (w : World) (provider state : String) (answers : ProviderAnswers)
    (user : User) : Prop :=
  w.KnowsState state ∧ ∃ exchanged raw email providerId, answers.exchange = .ok exchanged ∧
    answers.userInfo = .ok raw ∧ parseUserInfo raw = .ok (email, providerId) ∧ email.truthy = true ∧
      OauthFinds client w provider email providerId user ∧ user.Linkable provider providerId ∧
        user.isActive = true

/-- A social login gives tokens to the user that the callback finds. -/
theorem sound_oauth (h : Protected userId w) {provider state : String} {answers : ProviderAnswers}
    (hother : ∀ user, OauthAdmits client w provider state answers user → user.id ≠ userId) :
    Sound cfg userId G w ((oauthCallback cfg lib client provider state answers).exec serve () w).world := by
  unfold oauthCallback
  obtain ⟨known, redis, hexec, hknown⟩ := exec_consumeOauthState (w := w) state
  rw [exec_bind, hexec, Outcome.next_ok]
  -- only Redis has changed
  have hsound : Sound cfg userId G w { w with redis := redis } := h.sound
  cases known with
  | false => exact hsound
  | true =>
    simp only [Bool.not_true, Bool.false_eq_true, if_false]
    split
    · exact hsound
    · exact hsound
    · rename_i accessToken refreshToken raw hexchange hinfo
      refine (Observes.ofExcept _).world_bind hsound fun answer hanswer => ?_
      obtain ⟨email, providerId⟩ := answer
      rw [exec_ofExcept, liftBuiltin_eq_ok] at hanswer
      dsimp only
      split
      · exact hsound
      · rename_i hemail
        refine Keeps.world_bind (.oauthUser sound_unsigned _ _ _ _ _) hsound fun user huser => ?_
        split
        · exact .throw _
        · rename_i hactive
          refine .issueTokens sound_unsigned (signs_subject fun hid => ?_)
          rcases oauthUser_ok huser with ⟨row, hfinds, hlinkable, hsame, hrow⟩ | hnew
          · have hadmits : OauthAdmits client w provider state answers row := by
              refine ⟨hknown.1 rfl, (accessToken, refreshToken), raw, email, providerId, hexchange, hinfo,
                hanswer, by simpa using hemail, hfinds.congr rfl, hlinkable, ?_⟩
              rw [← hrow]
              simpa using hactive
            exact absurd (hsame.symm.trans hid) (hother row hadmits)
          · exact absurd (hnew.symm.trans hid) h.next_ne

/-- A passkey gives a token to its user. -/
theorem sound_webauthnComplete (h : Protected userId w) {email : Option String} {credential : Value}
    (hG : PasskeyVerified lib w userId credential → G) :
    Sound cfg userId G w ((webauthnLoginComplete cfg lib client email credential).exec serve () w).world := by
  unfold webauthnLoginComplete
  split
  · exact h.sound
  · split
    · exact h.sound
    · refine (observes_getByEmail _).world_bind h.sound fun found _ => ?_
      cases found with
      | none => exact h.sound
      | some user =>
        refine Keeps.world_bind (.completeAuthentication sound_unsigned _ _) h.sound fun _ hverified => ?_
        refine .createAccessToken sound_unsigned (signs_subject (fun hid => hG ?_) _)
        exact hid ▸ completeAuthentication_ok hverified

/-! ### Every sequence of logins -/

/-- The requests of the login flows, and time going by. -/
def Request.OfLogin : Request → Prop
  | .login _ _ _ | .totpVerify _ _ _ | .refresh _ _ | .magicLinkRequest _ _ | .magicLinkVerify _ _
  | .oauth _ _ _ _ | .webauthnBegin _ _ | .webauthnComplete _ _ _ | .wait _ => True
  | _ => False

/-- The token is not forged: if a key of the application signed it, the application has issued it. -/
def Token.Genuine (w : World) (token : Token) : Prop := token.signedBy ≠ none → token ∈ w.issued

/-- The token that a refresh presents is not forged. -/
def Request.Genuine (w : World) : Request → Prop
  | .refresh _ token => token.Genuine w
  | _ => True

/-- In this call a code, a backup code or a passkey of the user is verified, or a token refreshed that goes
back to such a call. -/
def Request.Proves (lib : Libraries) (userId : ℤ) (w : World) (proven : Token → Prop) : Request → Prop
  | .totpVerify _ challengeToken code => pyInt challengeToken.claims.sub = .ok userId ∧
      ∃ user ∈ w.users.rows, user.id = userId ∧ FactorVerified lib user code w.now
  | .webauthnComplete _ _ credential => PasskeyVerified lib w userId credential
  | .refresh _ token => proven token
  | _ => False

/-- The call logs the user in without that: by magic link, by a social login, or by a refresh with what is
neither an access nor a refresh token. -/
def Request.Bypasses (cfg : Settings) (userId : ℤ) (w : World) : Request → Prop
  | .magicLinkVerify client token => token.Readable cfg cfg.payloadKey w.now ∧
      (cfg.algorithm = .hs256 → token.claims.purpose = Purpose.magicLink.claim) ∧
      ∃ user, ((getByEmail client token.claims.sub).exec serve () w).result = .ok (some user) ∧
        user.id = userId
  | .oauth client provider state answers =>
    ∃ user, OauthAdmits client w provider state answers user ∧ user.id = userId
  | .refresh _ token => token.Refreshable cfg w.now ∧ pyInt token.claims.sub = .ok userId ∧ ¬token.Of userId
  | _ => False

/-- The call issues the token. -/
def Request.Issues (cfg : Settings) (lib : Libraries) (w : World) (request : Request) (token : Token) : Prop :=
  ∃ made, (request.step cfg lib w).issued = made ++ w.issued ∧ token ∈ made

/-- The tokens that go back to a verified second factor, after the calls, if the given ones do before. -/
def proven (cfg : Settings) (lib : Libraries) (userId : ℤ) :
    World → (Token → Prop) → List Request → Token → Prop
  | _, before, [] => before
  | w, before, r :: rs =>
    proven cfg lib userId (r.step cfg lib w)
      (fun token => before token ∨ r.Issues cfg lib w token ∧ r.Proves lib userId w before) rs

/-- The user is protected, and all credentials issued go back to a verified second factor. -/
def Secured (cfg : Settings) (userId : ℤ) (w : World) (proven : Token → Prop) : Prop :=
  Protected userId w ∧ ∀ token ∈ w.issued, token.Credential cfg userId → proven token

/-- What a login issues to the user. -/
theorem sound_request (h : Protected userId w) {before : Token → Prop} (r : Request) (hlogin : r.OfLogin)
    (hissued : ∀ token ∈ w.issued, token.Credential cfg userId → before token) (hgenuine : r.Genuine w)
    (hnot : ¬r.Bypasses cfg userId w) :
    Sound cfg userId (r.Proves lib userId w before) w (r.step cfg lib w) := by
  unfold Request.step
  cases r with
  | login client email password =>
    exact (world_discard _ w).symm ▸ sound_login h email password
  | totpVerify client challengeToken code =>
    exact (world_discard _ w).symm ▸ sound_totpVerify h id
  | refresh client token =>
    refine (world_discard _ w).symm ▸ sound_refresh h fun hread hid => ?_
    have hsigned : token.signedBy = some cfg.payloadKey := hread.1.2.2.1
    refine hissued token (hgenuine (by rw [hsigned]; exact Option.some_ne_none _)) ⟨hsigned, ?_⟩
    by_contra hof
    exact hnot ⟨hread, hid, hof⟩
  | magicLinkRequest client email =>
    exact (Keeps.magicLinkRequest sound_unsigned (signs_purpose (by decide) (by decide) _) () w h.sound).1
  | magicLinkVerify client token =>
    exact (world_discard _ w).symm ▸ sound_magicLinkVerify h fun hread hpurpose user huser hid =>
      hnot ⟨hread, hpurpose, user, huser, hid⟩
  | oauth client provider state answers =>
    exact (world_discard _ w).symm ▸ sound_oauth h fun user huser hid => hnot ⟨user, huser, hid⟩
  | webauthnBegin client email =>
    exact (world_discard _ w).symm ▸ ((Keeps.webauthnBegin sound_unsigned email) () w h.sound).1
  | webauthnComplete client email credential =>
    exact (world_discard _ w).symm ▸ sound_webauthnComplete h id
  | wait time => exact h.sound
  | _ => exact hlogin.elim

/-- A call of a login flow that presents no forged token and does not bypass the second factor. -/
def Request.Asks (cfg : Settings) (userId : ℤ) (w : World) (r : Request) : Prop :=
  r.OfLogin ∧ r.Genuine w ∧ ¬r.Bypasses cfg userId w

theorem Secured.step {before : Token → Prop} (h : Secured cfg userId w before) {r : Request}
    (hr : r.Asks cfg userId w) :
    Secured cfg userId (r.step cfg lib w)
      (fun token => before token ∨ r.Issues cfg lib w token ∧ r.Proves lib userId w before) := by
  have hsound : Sound cfg userId (r.Proves lib userId w before) w (r.step cfg lib w) :=
    sound_request h.1 r hr.1 h.2 hr.2.1 hr.2.2
  obtain ⟨hprotected, made, hmade, hall⟩ := hsound
  refine ⟨hprotected, fun token htoken hcredential => ?_⟩
  rw [hmade] at htoken
  rcases List.mem_append.1 htoken with hnew | hold
  · exact .inr ⟨⟨made, hmade, hnew⟩, hall token hnew hcredential⟩
  · exact .inl (h.2 token hold hcredential)

theorem Secured.after {before : Token → Prop} (h : Secured cfg userId w before) {requests : List Request}
    (heach : Each (Request.step cfg lib) (Request.Asks cfg userId) w requests) :
    Secured cfg userId (after (Request.step cfg lib) w requests)
      (proven cfg lib userId w before requests) := by
  induction requests generalizing w before with
  | nil => exact h
  | cons r rs ih => exact ih (h.step heach.1) heach.2

/-- **When the second factor is mandatory**: after logins none of which bypasses it, whatever access or
refresh token `get_current_user` accepts for the user goes back to a call that verified the second factor. -/
theorem second_factor_mandatory (cfg : Settings) (lib : Libraries) (userId : ℤ) (w : World)
    (hprotected : Protected userId w) (hstart : ∀ token ∈ w.issued, ¬token.Credential cfg userId)
    (requests : List Request) (heach : Each (Request.step cfg lib) (Request.Asks cfg userId) w requests)
    (client : Client) (token : Token) (user : User)
    (hgenuine : token.Genuine (after (Request.step cfg lib) w requests))
    (hkind : token.claims.purpose = Purpose.access.claim ∨ token.claims.purpose = Purpose.refresh.claim)
    (haccepted : ((getCurrentUser cfg client token).exec serve ()
      (after (Request.step cfg lib) w requests)).result = .ok user) (hid : user.id = userId) :
    proven cfg lib userId w (fun _ => False) requests token := by
  have hsecured : Secured cfg userId (after (Request.step cfg lib) w requests)
      (proven cfg lib userId w (fun _ => False) requests) := Secured.after ⟨hprotected, hstart⟩ heach
  obtain ⟨hread, -, ⟨id, hsub, hrows⟩, -⟩ := getCurrentUser_ok.1 haccepted
  have hsigned : token.signedBy = some cfg.payloadKey := hread.2.2.1
  have huser : user.id = id := by
    have hmem : user ∈ World.rowsOf _ client.tenant id := hrows.symm ▸ List.mem_singleton_self user
    exact beq_iff_eq.1 ((Bool.and_eq_true _ _).mp (List.mem_filter.1 hmem).2).2
  refine hsecured.2 token (hgenuine (by rw [hsigned]; exact Option.some_ne_none _)) ⟨hsigned, ?_, hkind⟩
  rw [hsub, ← huser, hid]

namespace Sample

/-- Ada gives her password. -/
def password : List Request := [.login {} "ada@example.com" "secret"]

/-- She asks for a magic link instead, and follows it. -/
def link : Token :=
  ⟨some .hs256, some .secret, ⟨"ada@example.com", 1900, some 1000, some "0", some "magic_link"⟩⟩

def magicLink : List Request := [.magicLinkRequest {} "ada@example.com", .magicLinkVerify {} link]

/-- She logs in at a provider that knows her address. -/
def social : List Request :=
  [.oauth {} "github" "state"
    ⟨.ok ("a", "r"), .ok (.dict [("email", .str "ada@example.com"), ("id", .str "7")])⟩]

/-- The world with the state of this login. -/
def socialWorld : World :=
  { world with
    redis := { oauthStates := Expiring.empty.setex world.now "state" (.str "1") (600 * second) } }

/-- The access token that both give her. -/
def adasAccess (jti : String) : Token := ⟨some .hs256, some .secret, ⟨"1", 2800, some 1000, some jti, none⟩⟩

/-- Libraries for which every code is right. -/
def codes : Libraries := { libraries with totp := fun _ _ _ => .ok true }

/-- She answers the challenge. -/
def answered : List Request := [.login {} "ada@example.com" "secret", .totpVerify {} challenge "123456"]

end Sample

open Sample in
/-- `get_current_user` takes the challenge token for ada, and the access tokens that a magic link and a social
login give; no call has verified a second factor. -/
theorem second_factor_bypassed :
    (((getCurrentUser settings {} challenge).exec serve ()
          (after (Request.step settings libraries) world password)).result = .ok (ada.succeeded world.now) ∧
        ¬proven settings libraries 1 world (fun _ => False) password challenge) ∧
      (((getCurrentUser settings {} (adasAccess "1")).exec serve ()
          (after (Request.step settings libraries) world magicLink)).result = .ok ada ∧
        ¬proven settings libraries 1 world (fun _ => False) magicLink (adasAccess "1")) ∧
      ((∃ user, user.id = 1 ∧ ((getCurrentUser settings {} (adasAccess "0")).exec serve ()
          (after (Request.step settings libraries) socialWorld social)).result = .ok user) ∧
        ¬proven settings libraries 1 socialWorld (fun _ => False) social (adasAccess "0")) := by
  refine ⟨⟨by rfl, ?_⟩, ⟨by rfl, ?_⟩, ⟨_, ?_, by rfl⟩, ?_⟩
  · rintro (h | ⟨-, h⟩) <;> exact h
  · rintro ((h | ⟨-, h⟩) | ⟨-, h⟩) <;> exact h
  · rfl
  · rintro (h | ⟨-, h⟩) <;> exact h

open Sample in
/-- The access token that a right code gives goes back to that call. -/
theorem second_factor_mandatory_answered :
    proven settings codes 1 world (fun _ => False) answered (adasAccess "1") := by
  have hprotected : Protected 1 world :=
    ⟨⟨ada, List.mem_singleton_self ada, rfl⟩, fun user hmem _ => by rw [List.mem_singleton.1 hmem]; rfl⟩
  have heach : Each (Request.step settings codes) (Request.Asks settings 1) world answered := by
    show (_ ∧ _ ∧ _) ∧ (_ ∧ _ ∧ _) ∧ True
    exact ⟨⟨trivial, trivial, id⟩, ⟨trivial, trivial, id⟩, trivial⟩
  exact second_factor_mandatory settings codes 1 world hprotected (fun _ h => nomatch h) answered heach {}
    (adasAccess "1") (ada.succeeded world.now) (fun _ => by decide +kernel) (.inl rfl) (by rfl) rfl

end FastapiTemplate.Identity
