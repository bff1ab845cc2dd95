import FastapiTemplate.Identity.ApiKeys
import FastapiTemplate.Identity.EntryPoints
import FastapiTemplate.Identity.Issuing
import FastapiTemplate.Identity.SecondFactor
import FastapiTemplate.Identity.SocialAccounts

/-!
# Users who were deleted

`CRUDUser.delete` sets `deleted_at`, which no request but a restore clears again (`deleted_after`). Of the ways to be
authenticated only the refresh endpoint looks users up by `CRUDBase.get`; `get_by_email`, `get_by_oauth` and
`get_with_roles` find deleted users as well. `deleted_locked_out_iff` says for each way when it keeps a deleted user
out.
-/

namespace FastapiTemplate.Identity

open Effects Python Store Script

instance : SoftDeletes User where
  deletedAt := User.deletedAt
  withDeletedAt d u := { u with deletedAt := d }
  key_withDeletedAt _ _ := rfl
  deletedAt_withDeletedAt _ _ := rfl

/-! ### API keys as credentials -/

/-- The identity context with the API keys; they share the clock. -/
structure Server where
  world : World
  apiKeys : ApiKeys

def Server.keys (s : Server) : ApiKeys := { s.apiKeys with now := s.world.now }

variable (cfg : Settings) (lib : Libraries) (client : Client)

/-- The record that a key is verified against, and its user. -/
def keyHolder (rawKey : String) (s : Server) : Except Exn (Option (ApiKey × Option User)) × Server :=
  match CRUDApiKey.verify lib rawKey s.keys with
  | (.error e, keys) => (.error e, { s with apiKeys := keys })
  | (.ok none, keys) => (.ok none, { s with apiKeys := keys })
  | (.ok (some keyRecord), keys) =>
    match ((getWithRoles client keyRecord.userId).exec serve () s.world).result with
    | .error e => (.error e, { s with apiKeys := keys })
    | .ok user => (.ok (some (keyRecord, user)), { s with apiKeys := keys })

def getApiKeyUser (apiKey : Option String) (s : Server) : Except Exn User × Server :=
  match apiKey.filter (· != "") with
  | none => (.error (.http 401 "API key required. Provide it via the X-API-Key header."), s)
  | some rawKey =>
    match keyHolder lib client rawKey s with
    | (.error e, s) => (.error e, s)
    | (.ok none, s) => (.error (.http 401 "Invalid or expired API key."), s)
    | (.ok (some (_, none)), s) => (.error (.http 401 "User account is inactive or not found."), s)
    | (.ok (some (_, some user)), s) =>
      if !user.isActive then (.error (.http 401 "User account is inactive or not found."), s) else (.ok user, s)

/-- The part after the key. -/
def bearerUser (token : Option Token) (s : Server) : Except Exn (User × Option (List String)) × Server :=
  match token with
  | some token =>
    let outcome := (getCurrentUser cfg client token).exec serve () s.world
    (outcome.result.map fun user => (user, none), { s with world := outcome.world })
  | none => (.error (.http 401 "Not authenticated. Provide a Bearer token or X-API-Key header."), s)

/-- The answer is the user, with the scopes of the key if he came by one. -/
def getCurrentUserOrApiKey (token : Option Token) (apiKey : Option String) (s : Server) :
    Except Exn (User × Option (List String)) × Server :=
  match apiKey.filter (· != "") with
  | none => bearerUser cfg client token s
  | some rawKey =>
    match keyHolder lib client rawKey s with
    | (.error e, s) => (.error e, s)
    | (.ok (some (keyRecord, some user)), s) =>
      if user.isActive then (.ok (user, some (keyRecord.scopes.getD [])), s) else bearerUser cfg client token s
    | (.ok _, s) => bearerUser cfg client token s

/-! ### Ways to be authenticated -/

/-- What somebody presents, and where. -/
inductive Attempt where
  | password (client : Client) (email password : String)
  | bearer (client : Client) (token : Token)
  | apiKey (client : Client) (key : Option String)
  | bearerOrApiKey (client : Client) (token : Option Token) (key : Option String)
  | refresh (client : Client) (token : Token)
  | magicLink (client : Client) (token : Token)
  | oauth (client : Client) (provider state : String) (answers : ProviderAnswers)

/-- The answer is a pair of tokens of the user. -/
def GivesTokens (userId : ℤ) (p : Auth TokenPair) (w : World) : Prop :=
  ∃ pair, (p.exec serve () w).result = .ok pair ∧ pyInt pair.accessToken.claims.sub = .ok userId

/-- The attempt authenticates the user. -/
def Attempt.Authenticates (userId : ℤ) (s : Server) : Attempt → Prop
  | .password client email plain => ∃ user,
      ((authenticateUser cfg lib client email plain).exec serve () s.world).result = .ok (some user) ∧
        user.id = userId
  | .bearer client token => ∃ user,
      ((getCurrentUser cfg client token).exec serve () s.world).result = .ok user ∧ user.id = userId
  | .apiKey client key => ∃ user, (getApiKeyUser lib client key s).1 = .ok user ∧ user.id = userId
  | .bearerOrApiKey client token key => ∃ answer,
      (getCurrentUserOrApiKey cfg lib client token key s).1 = .ok answer ∧ answer.1.id = userId
  | .refresh client token => GivesTokens userId (refreshAccessToken cfg client token) s.world
  | .magicLink client token => GivesTokens userId (verifyMagicLink cfg lib client token) s.world
  | .oauth client provider state answers =>
    GivesTokens userId (oauthCallback cfg lib client provider state answers) s.world

/-! ### What leads to a user -/

/-- A token leads to the user. -/
def TokenLeads (w : World) (token : Token) (userId : ℤ) : Prop :=
  token.Readable cfg cfg.payloadKey w.now ∧ ∃ user, Principal cfg client w token.claims user ∧ user.id = userId

/-- A key leads to the user: it verifies, and the user of the record is active. -/
def KeyLeads (s : Server) (key : Option String) (userId : ℤ) : Prop :=
  ∃ rawKey, key.filter (· != "") = some rawKey ∧ ∃ keyRecord user,
    (keyHolder lib client rawKey s).1 = .ok (some (keyRecord, some user)) ∧ user.isActive = true ∧ user.id = userId

/-- A key leads to nobody: there is none, it does not verify, or the user of the record is missing or inactive. -/
def KeyLeadsNowhere (s : Server) (key : Option String) : Prop :=
  ∀ rawKey, key.filter (· != "") = some rawKey → ∃ holder, (keyHolder lib client rawKey s).1 = .ok holder ∧
    ∀ keyRecord user, holder = some (keyRecord, some user) → user.isActive = false

/-- The lookup of the attempt finds the user, whether deleted or not, and the checks that follow go through. -/
def Attempt.Reaches (userId : ℤ) (s : Server) : Attempt → Prop
  | .password client email plain => ∃ row,
      ((getByEmail client email).exec serve () s.world).result = .ok (some row) ∧ row.id = userId ∧
        row.locked s.world.now = false ∧ verifyPassword lib plain row.hashedPassword = .ok true
  | .bearer client token => TokenLeads cfg client s.world token userId
  | .apiKey client key => KeyLeads lib client s key userId
  | .bearerOrApiKey client token key => KeyLeads lib client s key userId ∨
      KeyLeadsNowhere lib client s key ∧ ∃ bearer, token = some bearer ∧ TokenLeads cfg client s.world bearer userId
  | .refresh _ _ => False
  | .magicLink client token => cfg.Issues ∧ token.Readable cfg cfg.payloadKey s.world.now ∧
      (cfg.algorithm = .hs256 → token.claims.purpose = Purpose.magicLink.claim) ∧
      ∃ row, ((getByEmail client token.claims.sub).exec serve () s.world).result = .ok (some row) ∧ row.id = userId
  | .oauth client provider state answers => cfg.Issues ∧
      ∃ row, OauthAdmits client s.world provider state answers row ∧ row.id = userId

variable {cfg lib client} {w w' : World} {s : Server} {userId : ℤ}

/-! ### What each way lets in -/

/-- **The password login** lets in whom it finds by the e-mail address, if he is not locked out and the password is
right. -/
theorem authenticateUser_ok_iff {email password : String} {user : User} :
    ((authenticateUser cfg lib client email password).exec serve () w).result = .ok (some user) ↔
      ∃ row, ((getByEmail client email).exec serve () w).result = .ok (some row) ∧ row.locked w.now = false ∧
        verifyPassword lib password row.hashedPassword = .ok true ∧ user = row.succeeded w.now := by
  unfold authenticateUser
  rw [(observes_getByEmail email).result_bind]
  constructor
  · rintro ⟨found, hfound, h⟩
    cases found with
    | none =>
      rw [exec_bind] at h
      obtain ⟨_, -, h⟩ := Outcome.next_result h
      cases h
    | some row =>
      rw [exec_bind, exec_datetimeNow, Outcome.next_ok] at h
      cases hlock : row.locked w.now with
      | true =>
        rw [if_pos hlock, exec_bind] at h
        obtain ⟨_, -, h⟩ := Outcome.next_result h
        cases h
      | false =>
        rw [if_neg (by simp [hlock]), (Observes.ofExcept _).result_bind] at h
        obtain ⟨matched, hmatched, h⟩ := h
        rw [exec_ofExcept, liftBuiltin_eq_ok] at hmatched
        rw [exec_bind, exec_perform, Outcome.next_ok] at h
        cases matched with
        | true =>
          rw [if_pos rfl, exec_bind] at h
          obtain ⟨_, -, h⟩ := Outcome.next_result h
          exact ⟨row, hfound, hlock, hmatched, (Option.some.inj (Except.ok.inj h)).symm⟩
        | false =>
          rw [if_neg Bool.false_ne_true, exec_bind] at h
          obtain ⟨_, -, h⟩ := Outcome.next_result h
          cases h
  · rintro ⟨row, hfound, hlock, hmatched, rfl⟩
    refine ⟨some row, hfound, ?_⟩
    unfold getByEmail at hfound
    rw [exec_selectUser] at hfound
    obtain ⟨entries, haccept⟩ := exec_acceptPassword client w.now
      (w := { w with comparisons := ⟨w.now, row.id, true⟩ :: w.comparisons }) (mem_of_select hfound).1
    rw [exec_bind, exec_datetimeNow, Outcome.next_ok, if_neg (by simp [hlock]), exec_bind, exec_ofExcept, hmatched]
    show ((acceptPassword client row w.now >>= fun _ => pure (some (row.succeeded w.now))).exec serve ()
      { w with comparisons := ⟨w.now, row.id, true⟩ :: w.comparisons }).result = _
    rw [exec_bind, haccept]
    rfl

/-- **Bearer tokens** let in whom `get_with_roles` finds. -/
theorem getCurrentUser_authenticates_iff {token : Token} :
    (∃ user, ((getCurrentUser cfg client token).exec serve () w).result = .ok user ∧ user.id = userId) ↔
      TokenLeads cfg client w token userId := by
  unfold TokenLeads
  simp only [getCurrentUser_ok, and_assoc, exists_and_left]

/-- **API keys** let in the active user of the record. -/
theorem getApiKeyUser_authenticates_iff {key : Option String} :
    (∃ user, (getApiKeyUser lib client key s).1 = .ok user ∧ user.id = userId) ↔
      KeyLeads lib client s key userId := by
  unfold KeyLeads getApiKeyUser
  cases key.filter (· != "") with
  | none => simp
  | some rawKey =>
    simp only [Option.some.injEq, exists_eq_left']
    rcases hholder : keyHolder lib client rawKey s with ⟨_ | _ | ⟨keyRecord, _ | user⟩, s'⟩
    · simp
    · simp
    · simp
    · cases hactive : user.isActive <;> simp [hactive]

lemma bearerUser_authenticates_iff {token : Option Token} :
    (∃ answer, (bearerUser cfg client token s).1 = .ok answer ∧ answer.1.id = userId) ↔
      ∃ bearer, token = some bearer ∧ TokenLeads cfg client s.world bearer userId := by
  unfold bearerUser
  cases token with
  | none => simp
  | some bearer =>
    simp only [Option.some.injEq, exists_eq_left', ← getCurrentUser_authenticates_iff]
    cases ((getCurrentUser cfg client bearer).exec serve () s.world).result with
    | error e => simp [Except.map]
    | ok user => simp [Except.map]

/-- Keys are looked up aside from the users. -/
lemma keyHolder_world (rawKey : String) : (keyHolder lib client rawKey s).2.world = s.world := by
  unfold keyHolder
  split
  · rfl
  · rfl
  · split <;> rfl

/-- **Either**: the key comes first, and the token is asked only if the key leads nowhere. -/
theorem getCurrentUserOrApiKey_authenticates_iff {token : Option Token} {key : Option String} :
    (∃ answer, (getCurrentUserOrApiKey cfg lib client token key s).1 = .ok answer ∧ answer.1.id = userId) ↔
      KeyLeads lib client s key userId ∨
        KeyLeadsNowhere lib client s key ∧ ∃ bearer, token = some bearer ∧ TokenLeads cfg client s.world bearer userId := by
  unfold KeyLeads KeyLeadsNowhere getCurrentUserOrApiKey
  cases key.filter (· != "") with
  | none => simp [-Prod.exists, bearerUser_authenticates_iff]
  | some rawKey =>
    have hworld : (keyHolder lib client rawKey s).2.world = s.world := keyHolder_world rawKey
    simp only [Option.some.injEq, forall_eq', exists_eq_left']
    rcases hholder : keyHolder lib client rawKey s with ⟨_ | _ | ⟨keyRecord, _ | user⟩, s'⟩
    · simp
    · rw [hholder] at hworld
      simp [-Prod.exists, bearerUser_authenticates_iff, ← hworld]
    · rw [hholder] at hworld
      simp [-Prod.exists, bearerUser_authenticates_iff, ← hworld]
    · rw [hholder] at hworld
      cases hactive : user.isActive with
      | true => simp [hactive]
      | false => simp [-Prod.exists, hactive, bearerUser_authenticates_iff, ← hworld]

/-! ### Deleted users -/

/-- The user is deleted, or was purged: no row of his is without the mark, and nobody gets his id. -/
def Deleted (userId : ℤ) (users : Table User) : Prop :=
  (∀ row ∈ users.rows, row.id = userId → row.deletedAt ≠ none) ∧ userId < users.next

/-- What follows the minting gives back the tokens. -/
lemma pair_of_stored {a pair : TokenPair} {user : User}
    (h : ((storeTokens cfg client userId a >>= fun _ => client.log "token_refresh" (some user) none >>= fun _ =>
      pure a : Auth TokenPair).exec serve () w).result = .ok pair) : a = pair := by
  rw [exec_bind] at h
  obtain ⟨_, -, h⟩ := Outcome.next_result h
  rw [exec_bind] at h
  obtain ⟨_, -, h⟩ := Outcome.next_result h
  exact Except.ok.inj h

/-- A refresh gives tokens to a user who is not deleted. -/
lemma refreshAccessToken_gives {token : Token} (h : GivesTokens userId (refreshAccessToken cfg client token) w) :
    ∃ user ∈ w.users.rows, user.id = userId ∧ user.deletedAt = none := by
  obtain ⟨pair, hpair, hsub⟩ := h
  unfold refreshAccessToken at hpair
  simp only [observes_decodeRefreshToken.result_bind, decodeRefreshToken_ok, (Observes.ofExcept _).result_bind,
    exec_ofExcept, liftBuiltin_eq_ok, (observes_getUser _).result_bind] at hpair
  obtain ⟨claims, -, id, -, found, hfound, hpair⟩ := hpair
  cases found with
  | none => cases hpair
  | some user =>
    unfold getUser at hfound
    rw [exec_selectUser] at hfound
    obtain ⟨hmem, -, hrow⟩ := mem_of_select hfound
    have hkept : user.deletedAt = none := by simpa using ((Bool.and_eq_true _ _).mp hrow).2
    refine ⟨user, hmem, ?_, hkept⟩
    dsimp only at hpair
    split at hpair
    · cases hpair
    · rw [exec_bind] at hpair
      obtain ⟨created, hcreated, hpair⟩ := Outcome.next_result hpair
      rw [exec_createTokens (signs_of_createTokens hcreated)] at hcreated
      obtain rfl := Except.ok.inj hcreated
      have hsame : w.mintedPair cfg user.id = pair := by
        cases hjti : claims.jti with
        | none =>
          rw [hjti] at hpair
          exact pair_of_stored hpair
        | some oldJti =>
          rw [hjti] at hpair
          dsimp only at hpair
          split at hpair
          · exact pair_of_stored hpair
          · rw [exec_bind] at hpair
            obtain ⟨_, -, hpair⟩ := Outcome.next_result hpair
            exact pair_of_stored hpair
      exact Except.ok.inj (mintedPair_sub.symm.trans (hsame ▸ hsub))

/-- A magic link for a known address leads to the user with it. -/
lemma magicLinkUser_of_found {email : String} {row : User}
    (h : ((getByEmail client email).exec serve () w).result = .ok (some row)) :
    ∃ user w', (magicLinkUser cfg lib client email).exec serve () w = ⟨.ok user, (), w'⟩ ∧ user.id = row.id := by
  unfold magicLinkUser
  rw [exec_bind, (observes_getByEmail email).exec_eq, h, Outcome.next_ok]
  dsimp only
  unfold getByEmail at h
  rw [exec_selectUser] at h
  split
  · exact ⟨row, w, rfl, rfl⟩
  · have hsave := exec_saveUser (mem_of_select h).1
      (show ({ row with isVerified := true, emailVerifiedAt := some w.now } : User).id = row.id from rfl)
    rw [exec_bind, exec_datetimeNow, Outcome.next_ok, exec_bind, hsave]
    exact ⟨_, _, rfl, rfl⟩

/-- **Magic links** lead to the user with the address, deleted or not. -/
theorem Deleted.magicLink_iff (h : Deleted userId w.users) (token : Token) :
    GivesTokens userId (verifyMagicLink cfg lib client token) w ↔
      cfg.Issues ∧ token.Readable cfg cfg.payloadKey w.now ∧
        (cfg.algorithm = .hs256 → token.claims.purpose = Purpose.magicLink.claim) ∧
        ∃ row, ((getByEmail client token.claims.sub).exec serve () w).result = .ok (some row) ∧ row.id = userId := by
  have hrest : ∀ (user : User) (pair : TokenPair) (w : World),
      ((client.log "magic_link_login" (some user) none >>= fun _ => pure pair : Auth TokenPair).exec
        serve () w).result = .ok pair := by
    intro user pair w
    obtain ⟨entries, hlog⟩ := exec_log (w := w) client (some user) none
      (show "magic_link_login" ∈ authEventTypes by decide)
    rw [exec_bind, hlog]
    rfl
  unfold GivesTokens verifyMagicLink
  simp only [observes_decodeMagicLinkToken.result_bind, decodeMagicLinkToken_ok]
  constructor
  · rintro ⟨pair, ⟨claims, ⟨hread, rfl, hpurpose⟩, hpair⟩, hsub⟩
    rw [exec_bind] at hpair
    obtain ⟨user, huser, hpair⟩ := Outcome.next_result hpair
    obtain ⟨hissues, rfl⟩ := (issue_ok_iff (hrest user)).1 hpair
    obtain rfl := Except.ok.inj (mintedPair_sub.symm.trans hsub)
    refine ⟨hissues, hread, hpurpose, ?_⟩
    rcases magicLinkUser_ok huser with ⟨row, hrow, hsame⟩ | hnew
    · exact ⟨row, hrow, hsame⟩
    · exact absurd hnew h.2.ne
  · rintro ⟨hissues, hread, hpurpose, row, hrow, rfl⟩
    obtain ⟨user, w', huser, hsame⟩ : ∃ user w',
        (magicLinkUser cfg lib client token.claims.sub).exec serve () w = ⟨.ok user, (), w'⟩ ∧ user.id = row.id :=
      magicLinkUser_of_found hrow
    refine ⟨w'.mintedPair cfg user.id, ⟨token.claims, ⟨hread, rfl, hpurpose⟩, ?_⟩, hsame ▸ mintedPair_sub⟩
    rw [exec_bind, huser, Outcome.next_ok]
    exact (issue_ok_iff (hrest user)).2 ⟨hissues, rfl⟩

/-- A callback leads to a user it finds, if he may be linked to the account. -/
lemma oauthUser_of_found {provider providerId accessToken refreshToken : String} {email : Value} {row : User}
    (h : OauthFinds client w provider email providerId row) (hlinkable : row.Linkable provider providerId) :
    ∃ user w', (oauthUser lib client provider email providerId accessToken refreshToken).exec serve () w =
      ⟨.ok user, (), w'⟩ ∧ user.id = row.id ∧ user.isActive = row.isActive := by
  rw [exec_oauthUser_of_finds h]
  unfold linkFound
  split
  · unfold linkOauthAccount
    rw [exec_bind, exec_saveUser h.mem.1 (by rfl)]
    exact ⟨_, _, rfl, rfl, rfl⟩
  · rename_i hlinked
    obtain ⟨hprovider, hid⟩ := hlinkable.resolve_left hlinked
    rw [if_neg (by simp [hprovider, hid])]
    exact ⟨row, w, rfl, rfl, rfl⟩

/-- **Social logins** lead to the user they find, deleted or not. -/
theorem Deleted.oauth_iff (h : Deleted userId w.users) (provider state : String) (answers : ProviderAnswers) :
    GivesTokens userId (oauthCallback cfg lib client provider state answers) w ↔
      cfg.Issues ∧ ∃ row, OauthAdmits client w provider state answers row ∧ row.id = userId := by
  have hissue : ∀ (user : User) (pair : TokenPair) (w : World),
      ((issueTokens cfg client user).exec serve () w).result = .ok pair ↔
        cfg.Issues ∧ pair = w.mintedPair cfg user.id := fun user pair w => issue_ok_iff fun _ _ => rfl
  unfold GivesTokens oauthCallback
  obtain ⟨known, redis, hexec, hknown⟩ := exec_consumeOauthState (w := w) state
  simp only [exec_bind, hexec, Outcome.next_ok]
  constructor
  · rintro ⟨pair, hpair, hsub⟩
    split at hpair
    · cases hpair
    · rename_i hstate
      split at hpair
      · cases hpair
      · cases hpair
      · rename_i accessToken refreshToken raw hexchange hinfo
        obtain ⟨⟨email, providerId⟩, hparsed, hpair⟩ := (Observes.ofExcept _).result_bind.1 hpair
        rw [exec_ofExcept, liftBuiltin_eq_ok] at hparsed
        dsimp only at hpair
        split at hpair
        · cases hpair
        · rename_i hemail
          rw [exec_bind] at hpair
          obtain ⟨user, huser, hpair⟩ := Outcome.next_result hpair
          split at hpair
          · cases hpair
          · rename_i hactive
            obtain ⟨hissues, rfl⟩ := (hissue _ _ _).1 hpair
            obtain rfl := Except.ok.inj (mintedPair_sub.symm.trans hsub)
            rcases oauthUser_ok huser with ⟨row, hfinds, hlinkable, hsame, hrow⟩ | hnew
            · refine ⟨hissues, row, ⟨hknown.1 (by simpa using hstate), (accessToken, refreshToken), raw, email,
                providerId, hexchange, hinfo, hparsed, by simpa using hemail, hfinds.congr rfl, hlinkable, ?_⟩,
                hsame.symm⟩
              rw [← hrow]
              simpa using hactive
            · exact absurd hnew h.2.ne
  · rintro ⟨hissues, row, ⟨hstate, ⟨accessToken, refreshToken⟩, raw, email, providerId, hexchange, hinfo, hparsed,
      hemail, hfinds, hlinkable, hactive⟩, rfl⟩
    obtain rfl := hknown.2 hstate
    have hfinds' : OauthFinds client { w with redis := redis } provider email providerId row := hfinds.congr rfl
    obtain ⟨user, w', huser, hsame, hsameActive⟩ : ∃ user w', (oauthUser lib client provider email providerId
        accessToken refreshToken).exec serve () { w with redis := redis } = ⟨.ok user, (), w'⟩ ∧ user.id = row.id ∧
          user.isActive = row.isActive := oauthUser_of_found hfinds' hlinkable
    refine ⟨w'.mintedPair cfg user.id, ?_, hsame ▸ mintedPair_sub⟩
    rw [hexchange, hinfo]
    simp only [Bool.not_true, Bool.false_eq_true, if_false, exec_bind, exec_ofExcept, hparsed, liftBuiltin,
      Outcome.next_ok, hemail, huser, hsameActive, hactive]
    exact (hissue _ _ _).2 ⟨hissues, rfl⟩

/-- **What an attempt comes to.** -/
theorem Deleted.authenticates_iff (h : Deleted userId s.world.users) (attempt : Attempt) :
    attempt.Authenticates cfg lib userId s ↔ attempt.Reaches cfg lib userId s := by
  cases attempt with
  | password client email plain =>
    unfold Attempt.Authenticates Attempt.Reaches
    simp only [authenticateUser_ok_iff]
    constructor
    · rintro ⟨_, ⟨row, hrow, hlock, hmatched, rfl⟩, hid⟩
      exact ⟨row, hrow, hid, hlock, hmatched⟩
    · rintro ⟨row, hrow, hid, hlock, hmatched⟩
      exact ⟨_, ⟨row, hrow, hlock, hmatched, rfl⟩, hid⟩
  | bearer client token => exact getCurrentUser_authenticates_iff
  | apiKey client key => exact getApiKeyUser_authenticates_iff
  | bearerOrApiKey client token key => exact getCurrentUserOrApiKey_authenticates_iff
  | refresh client token =>
    refine iff_of_false (fun hgives => ?_) id
    obtain ⟨user, hmem, hid, hkept⟩ := refreshAccessToken_gives hgives
    exact h.1 user hmem hid hkept
  | magicLink client token => exact h.magicLink_iff token
  | oauth client provider state answers => exact h.oauth_iff provider state answers

/-! ### Every history -/

namespace Deleted

variable {users : Table User}

lemma put (h : Deleted userId users) {row : User} (hrow : row.id = userId → row.deletedAt ≠ none) :
    Deleted userId (users.put row) := by
  refine ⟨fun x hx hid => ?_, h.2⟩
  rcases Table.mem_put hx with rfl | ⟨hx, -⟩
  · exact hrow hid
  · exact h.1 x hx hid

/-- Nobody else gets the id. -/
lemma insert (h : Deleted userId users) (row : User) : Deleted userId (users.insert row) := by
  refine ⟨fun x hx hid => ?_, h.2.trans (lt_add_one _)⟩
  rcases Table.mem_insert.1 hx with hx | rfl
  · exact h.1 x hx hid
  · exact absurd hid h.2.ne'

lemma keep (h : Deleted userId users) (p : User → Bool) : Deleted userId (users.keep p) :=
  ⟨fun x hx => h.1 x (List.mem_filter.1 hx).1, h.2⟩

/-- No code writes the mark of a row that it has loaded. -/
lemma updateUser (h : Deleted userId w.users) (loaded cur : User) :
    Deleted userId (w.updateUser loaded cur).2.users := by
  rcases w.updateUser_cases loaded cur with hsame | ⟨stored, hstored, -, hwritten⟩
  · rwa [hsame]
  · rw [hwritten]
    exact h.put fun hid => h.1 stored hstored hid

lemma insertUser (h : Deleted userId w.users) (user : User) : Deleted userId (w.insertUser user).2.users := by
  rcases w.insertUser_cases user with hsame | hinserted
  · rwa [hsame]
  · rw [hinserted]
    exact h.insert user

/-- **No request** takes the mark away. -/
theorem request (h : Deleted userId w.users) (r : Request) : Deleted userId (r.step cfg lib w).users := by
  have hserves : ∀ e : Eff, Serves (fun w => Deleted userId w.users) e := by
    intro e w hw
    cases e with
    | updateUser loaded cur => exact hw.updateUser loaded cur
    | insertUser user => exact hw.insertUser user
    | _ => exact hw
  exact (Keeps.request (fun e _ => hserves e) (fun u jti exp => keeps_blacklistToken fun _ hw => hw) r () w h).1

end Deleted

/-- What happens to the accounts: a request of a client, a call of the API key functions, a row of `users` that is
created or has columns other than the mark changed, and deletions, restores and purges. -/
inductive AccountEvent where
  | request (r : Request)
  | apiKey (call : ApiKeyCall)
  | create (user : User)
  | update (user : User)
  | delete (client : Client) (userId : ℤ)
  | restore (client : Client) (userId : ℤ)
  | purge (client : Client) (olderThanDays : ℤ)

/-- `update`: all columns but the mark may be other ones. -/
def World.writeUser (w : World) (user : User) : World :=
  match w.users.get? user.id with
  | none => w
  | some stored => { w with users := w.users.put { user with deletedAt := stored.deletedAt } }

/-- The server after it. -/
def AccountEvent.step (cfg : Settings) (lib : Libraries) (keyCfg : ApiKeySettings) : AccountEvent → Server → Server
  | .request r, s => { s with world := r.step cfg lib s.world }
  | .apiKey call, s => { s with apiKeys := call.step keyCfg lib s.keys }
  | .create user, s => { s with world := (s.world.insertUser user).2 }
  | .update user, s => { s with world := s.world.writeUser user }
  | .delete client userId, s =>
    { s with world.users := (CRUDBase.delete (visible client.tenant) userId s.world.users s.world.now).2 }
  | .restore client userId, s =>
    { s with world.users := (CRUDBase.restore (visible client.tenant) userId s.world.users).2 }
  | .purge client olderThanDays, s =>
    { s with world.users := (CRUDBase.purge (visible client.tenant) s.world.users olderThanDays s.world.now).2 }

/-- The event restores the user. -/
def AccountEvent.Restores (userId : ℤ) (e : AccountEvent) : Prop := ∃ client, e = .restore client userId

variable {keyCfg : ApiKeySettings}

/-- **One event.** -/
theorem Deleted.step (h : Deleted userId s.world.users) {e : AccountEvent} (he : ¬e.Restores userId) :
    Deleted userId (e.step cfg lib keyCfg s).world.users := by
  cases e with
  | request r => exact h.request r
  | apiKey call => exact h
  | create user => exact h.insertUser user
  | update user =>
    show Deleted userId (s.world.writeUser user).users
    unfold World.writeUser
    split
    · exact h
    · rename_i stored hstored
      obtain ⟨hmem, hkey⟩ := Table.get?_eq_some.1 hstored
      exact h.put fun hid => h.1 stored hmem (hkey.trans hid)
  | delete client id =>
    show Deleted userId (CRUDBase.delete (visible client.tenant) id s.world.users s.world.now).2
    rcases CRUDBase.delete_cases (α := User) s.world.now with hdelete | ⟨row, -, -, -, -, hdelete⟩
    · rw [hdelete]
      exact h
    · rw [hdelete]
      exact h.put fun _ => Option.some_ne_none _
  | restore client id =>
    show Deleted userId (CRUDBase.restore (visible client.tenant) id s.world.users).2
    have hother : id ≠ userId := fun hid => he ⟨client, hid ▸ rfl⟩
    have hcases : (CRUDBase.restore (visible client.tenant) id s.world.users = (none, s.world.users) ∧ _) ∨ _ :=
      CRUDBase.restore_cases
    rcases hcases with ⟨hrestore, -⟩ | ⟨row, ⟨-, hid, -⟩, hrestore⟩
    · rw [hrestore]
      exact h
    · rw [hrestore]
      exact h.put fun hid' => absurd (hid.symm.trans hid') hother
  | purge client olderThanDays => exact h.keep _

/-- **Every history without a restore** leaves the user deleted. -/
theorem deleted_after (h : Deleted userId s.world.users) {history : List AccountEvent}
    (hkept : ∀ e ∈ history, ¬e.Restores userId) :
    Deleted userId (after (AccountEvent.step cfg lib keyCfg) s history).world.users := by
  induction history generalizing s with
  | nil => exact h
  | cons e history ih =>
    refine ih (h.step (hkept e (List.mem_cons_self ..))) fun e' he' => hkept e' (List.mem_cons_of_mem _ he')

/-- A deletion that finds the user. -/
lemma deleted_of_delete {users : Table User} {now : Datetime}
    (h : (CRUDBase.delete (visible client.tenant) userId users now).1 ≠ none) :
    Deleted userId (CRUDBase.delete (visible client.tenant) userId users now).2 := by
  have hcases : CRUDBase.delete (visible client.tenant) userId users now = (none, users) ∨ _ :=
    CRUDBase.delete_cases now
  rcases hcases with hdelete | ⟨row, hmem, hid, -, -, hdelete⟩
  · rw [hdelete] at h
    exact absurd rfl h
  · rw [hdelete]
    refine ⟨fun x hx hx' => ?_, hid ▸ users.below row hmem⟩
    rcases Table.mem_put hx with rfl | ⟨-, hne⟩
    · exact Option.some_ne_none _
    · exact absurd (hx'.trans hid.symm) hne

/-- **When deleted users are locked out**: whatever has happened since the deletion, but for a restore, an attempt
does not authenticate the user if and only if it does not reach him. -/
theorem deleted_locked_out_iff (cfg : Settings) (lib : Libraries) (keyCfg : ApiKeySettings) (s : Server)
    (client : Client) (userId : ℤ)
    (hdeleted : (CRUDBase.delete (visible client.tenant) userId s.world.users s.world.now).1 ≠ none)
    (history : List AccountEvent) (hkept : ∀ e ∈ history, ¬e.Restores userId) (attempt : Attempt) :
    ¬attempt.Authenticates cfg lib userId
        (after (AccountEvent.step cfg lib keyCfg) s (.delete client userId :: history)) ↔
      ¬attempt.Reaches cfg lib userId
        (after (AccountEvent.step cfg lib keyCfg) s (.delete client userId :: history)) :=
  not_congr ((deleted_after (deleted_of_delete hdeleted) hkept).authenticates_iff attempt)

namespace Sample

/-- Bob with an API key, and a login at a provider that has been started. -/
def bobsServer : Server where
  world :=
    { bobsWorld with
      redis := { oauthStates := Expiring.empty.setex bobsWorld.now "state" (.str "1") (600 * second) } }
  apiKeys :=
    { now := bobsWorld.now
      table := Table.empty.insert { userId := 2, name := "ci", keyPrefix := "ak_0a1b", hashedKey := "ak_0a1b" }
      tokens := keyTokens }

/-- A token of bob, issued at second 1000. -/
def bobsToken (sub : String) (purpose : Option String) : Token :=
  ⟨some .hs256, some .secret, ⟨sub, 2800, some 1000, some "0", purpose⟩⟩

/-- All that bob can present, but for his refresh token. -/
def bobsAttempts : List Attempt :=
  [.password {} "bob@example.com" "secret", .bearer {} (bobsToken "2" none), .apiKey {} (some "ak_0a1b"),
    .bearerOrApiKey {} none (some "ak_0a1b"), .magicLink {} (bobsToken "bob@example.com" (some "magic_link")),
    .oauth {} "github" "state"
      ⟨.ok ("a", "r"), .ok (.dict [("email", .str "bob@example.com"), ("id", .str "7")])⟩]

end Sample

open Sample in
/-- His key leads to him. -/
lemma Sample.bobsKey_leads : KeyLeads libraries {}
    (after (AccountEvent.step settings libraries {}) bobsServer [.delete {} 2]) (some "ak_0a1b") 2 :=
  ⟨"ak_0a1b", rfl, _, _, by rfl, by rfl, by rfl⟩

open Sample in
/-- Bob is deleted, and authenticated all the same. -/
theorem deleted_user_authenticated :
    (CRUDBase.delete (visible none) 2 bobsServer.world.users bobsServer.world.now).1 ≠ none ∧
      ∀ attempt ∈ bobsAttempts, attempt.Authenticates settings libraries 2
        (after (AccountEvent.step settings libraries {}) bobsServer [.delete {} 2]) := by
  refine ⟨by decide, ?_⟩
  simp only [bobsAttempts, List.forall_mem_cons]
  exact ⟨⟨_, by rfl, by rfl⟩, ⟨_, by rfl, by rfl⟩, getApiKeyUser_authenticates_iff.2 bobsKey_leads,
    getCurrentUserOrApiKey_authenticates_iff.2 (.inl bobsKey_leads), ⟨_, by rfl, by rfl⟩, ⟨_, by rfl, by rfl⟩, by simp⟩

open Sample in
/-- His refresh token is refused. -/
theorem deleted_locked_out_bob :
    ¬(Attempt.refresh {} (bobsToken "2" (some "refresh"))).Authenticates settings libraries 2
      (after (AccountEvent.step settings libraries {}) bobsServer [.delete {} 2, .request (.wait 5)]) :=
  (deleted_locked_out_iff settings libraries {} bobsServer {} 2 (by decide) [.request (.wait 5)] (by
    rintro e he ⟨client, rfl⟩
    simp at he) _).2 id

end FastapiTemplate.Identity
