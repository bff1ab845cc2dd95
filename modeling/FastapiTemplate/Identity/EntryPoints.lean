import FastapiTemplate.Identity.Blacklist
import FastapiTemplate.Identity.Requests

/-!
# Which entry points heed a revocation

Four entry points turn a token into a user. `get_current_user` asks the blacklist and whether the user is
active, the refresh endpoint only the latter, the GraphQL context and the WebSocket handshake neither.
`revocation_honoured` says when a token that was revoked is kept out all the same.
-/

namespace FastapiTemplate.Identity

open Effects Python Store Script Store.Expiring

/-- What turns a token into a user. -/
inductive EntryPoint where
  | currentUser
  | graphql
  | websocket
  | refresh
  deriving DecidableEq

variable (cfg : Settings) (client : Client) (w : World) (token : Token)

/-- The entry point lets the token in. -/
def EntryPoint.Authenticates : EntryPoint → Prop
  | .currentUser => ∃ user, ((getCurrentUser cfg client token).exec serve () w).result = .ok user
  | .graphql => ∃ user, ((getGqlContext cfg client (some token)).exec serve () w).result = .ok (some user)
  | .websocket => ∃ userId, ((getCurrentUserWs cfg client (some token)).exec serve () w).result = .ok userId
  | .refresh => ∃ pair, ((refreshAccessToken cfg client token).exec serve () w).result = .ok pair

/-- The user that the entry point finds for an id. -/
def EntryPoint.lookup (userId : ℤ) : EntryPoint → Auth (Option User)
  | .currentUser | .graphql => getWithRoles client userId
  | .websocket => getUser { client with tenant := none } userId
  | .refresh => getUser client userId

/-- The token can be read, and has not expired; its subject is the id of this user, whom the entry point
finds. -/
def EntryPoint.Knows (e : EntryPoint) (userId : ℤ) (user : User) : Prop :=
  token.Readable cfg cfg.payloadKey w.now ∧ pyInt token.claims.sub = .ok userId ∧
    ((e.lookup client userId).exec serve () w).result = .ok (some user)

variable {cfg client w token} {userId : ℤ} {user : User}

/-! ### What each entry point lets in -/

lemma lookup_ok {e : EntryPoint} (h : ((e.lookup client userId).exec serve () w).result = .ok (some user)) :
    user ∈ w.users.rows ∧ user.id = userId := by
  cases e with
  | currentUser | graphql =>
    unfold EntryPoint.lookup getWithRoles at h
    rw [exec_selectUser] at h
    obtain ⟨hmem, -, hid⟩ := mem_of_select h
    exact ⟨hmem, beq_iff_eq.1 hid⟩
  | websocket | refresh => exact getUser_ok h

/-- The GraphQL context lets in what it can read; it never asks whether the user is active. -/
theorem graphql_authenticates :
    EntryPoint.Authenticates cfg client w token .graphql ↔
      ∃ userId user, EntryPoint.Knows cfg client w token .graphql userId user := by
  have htry : ∀ user, ((getGqlContext cfg client (some token)).exec serve () w).result = .ok (some user) ↔
      ((gqlUser cfg client token).exec serve () w).result = .ok (some user) := by
    intro user
    unfold getGqlContext
    simp only
    rw [exec_tryCatch]
    rcases (gqlUser cfg client token).exec serve () w with ⟨e | found, s, w'⟩
    · exact ⟨fun h => (nomatch (Except.ok.inj h)), fun h => (nomatch h)⟩
    · rfl
  unfold EntryPoint.Authenticates EntryPoint.Knows EntryPoint.lookup
  simp only [htry]
  unfold gqlUser
  simp only [observes_decodeAccessToken.result_bind, decodeAccessToken_ok]
  constructor
  · rintro ⟨user, claims, ⟨hread, rfl⟩, h⟩
    by_cases hsub : token.claims.sub = ""
    · rw [if_pos hsub] at h
      cases h
    · rw [if_neg hsub, (Observes.ofExcept _).result_bind] at h
      obtain ⟨userId, hid, h⟩ := h
      rw [exec_ofExcept, liftBuiltin_eq_ok] at hid
      exact ⟨userId, user, hread, hid, h⟩
  · rintro ⟨userId, user, hread, hid, h⟩
    have hsub : token.claims.sub ≠ "" := by
      intro hsub
      rw [hsub] at hid
      cases hid
    refine ⟨user, token.claims, ⟨hread, rfl⟩, ?_⟩
    rw [if_neg hsub, (Observes.ofExcept _).result_bind]
    exact ⟨userId, by rw [exec_ofExcept, liftBuiltin_eq_ok]; exact hid, h⟩

/-- So does the WebSocket handshake. -/
theorem websocket_authenticates :
    EntryPoint.Authenticates cfg client w token .websocket ↔
      ∃ userId user, EntryPoint.Knows cfg client w token .websocket userId user := by
  unfold EntryPoint.Authenticates EntryPoint.Knows EntryPoint.lookup getCurrentUserWs
  simp only [observes_decodeAccessToken.result_bind, decodeAccessToken_ok, (Observes.ofExcept _).result_bind,
    (observes_getUser _).result_bind, exec_ofExcept, liftBuiltin_eq_ok]
  constructor
  · rintro ⟨_, claims, ⟨hread, rfl⟩, userId, hid, found, hfound, h⟩
    cases found with
    | none => cases h
    | some user => exact ⟨userId, user, hread, hid, hfound⟩
  · rintro ⟨userId, user, hread, hid, hfound⟩
    exact ⟨userId, token.claims, ⟨hread, rfl⟩, userId, hid, some user, hfound, rfl⟩

/-- `get_current_user` lets in active users whose token it does not find in the blacklist. -/
theorem currentUser_authenticates :
    EntryPoint.Authenticates cfg client w token .currentUser ↔
      ((isRevoked cfg token.claims).exec serve () w).result = .ok false ∧
        ∃ userId user, EntryPoint.Knows cfg client w token .currentUser userId user ∧ user.isActive = true := by
  have hrows : ∀ userId user, ((getWithRoles client userId).exec serve () w).result = .ok (some user) ↔
      w.rowsOf client.tenant userId = [user] := by
    intro userId user
    unfold getWithRoles
    rw [exec_selectUser]
    exact scalarOneOrNone_eq_some
  unfold EntryPoint.Authenticates EntryPoint.Knows EntryPoint.lookup
  simp only [getCurrentUser_ok, Principal, hrows]
  constructor
  · rintro ⟨user, hread, hfree, ⟨userId, hid, hfound⟩, hactive⟩
    exact ⟨hfree, userId, user, ⟨hread, hid, hfound⟩, hactive⟩
  · rintro ⟨hfree, userId, user, ⟨hread, hid, hfound⟩, hactive⟩
    exact ⟨user, hread, hfree, ⟨userId, hid, hfound⟩, hactive⟩

/-- The refresh endpoint lets in active users only; it does not ask the blacklist. -/
theorem refresh_authenticates (h : EntryPoint.Authenticates cfg client w token .refresh) :
    ∃ userId user, EntryPoint.Knows cfg client w token .refresh userId user ∧ user.isActive = true ∧
      (cfg.algorithm = .hs256 → token.claims.purpose = Purpose.refresh.claim) := by
  obtain ⟨pair, h⟩ := h
  unfold refreshAccessToken at h
  simp only [observes_decodeRefreshToken.result_bind, decodeRefreshToken_ok,
    (Observes.ofExcept _).result_bind, exec_ofExcept, liftBuiltin_eq_ok,
    (observes_getUser _).result_bind] at h
  obtain ⟨claims, ⟨hread, rfl, hpurpose⟩, userId, hid, found, hfound, h⟩ := h
  cases found with
  | none => cases h
  | some user =>
    cases hactive : user.isActive with
    | false =>
      simp only [hactive, Bool.not_false, if_true] at h
      cases h
    | true => exact ⟨userId, user, ⟨hread, hid, hfound⟩, hactive, hpurpose⟩

/-- Whatever lets a token in has found the user of its subject. -/
lemma EntryPoint.Authenticates.knows {e : EntryPoint} (h : e.Authenticates cfg client w token) :
    ∃ userId user, e.Knows cfg client w token userId user := by
  cases e with
  | currentUser =>
    obtain ⟨-, userId, user, hknows, -⟩ := currentUser_authenticates.1 h
    exact ⟨userId, user, hknows⟩
  | graphql => exact graphql_authenticates.1 h
  | websocket => exact websocket_authenticates.1 h
  | refresh =>
    obtain ⟨userId, user, hknows, -⟩ := refresh_authenticates h
    exact ⟨userId, user, hknows⟩

/-! ### Tokens that were revoked -/

/-- `blacklist_token` was called for the token. -/
def Revoked (w : World) (token : Token) : Prop :=
  ∃ b ∈ w.blacklistings, pyInt token.claims.sub = .ok b.userId ∧ token.claims.jti = some b.jti

/-- The users with the subject of the token are active. -/
def ActiveSubject (w : World) (token : Token) : Prop :=
  ∀ user ∈ w.users.rows, pyInt token.claims.sub = .ok user.id → user.isActive = true

/-- The entry point keeps out the token if it was revoked or its user is inactive. -/
def EntryPoint.Honours (cfg : Settings) (client : Client) (w : World) (token : Token) (e : EntryPoint) : Prop :=
  e.Authenticates cfg client w token → ¬Revoked w token ∧ ActiveSubject w token

/-- An entry of the token has not expired and not lapsed. -/
def StillListed (cfg : Settings) (w : World) (token : Token) : Prop :=
  ∀ b ∈ w.blacklistings, pyInt token.claims.sub = .ok b.userId → token.claims.jti = some b.jti →
    b.jti ≠ "" ∧ ':' ∉ b.jti.toList ∧ ∃ exp, timestamp w.now ≤ exp ∧ w.Keeps cfg b.userId b.jti exp

/-- What has to be so for the entry point to honour a revocation. -/
def EntryPoint.Careful (cfg : Settings) (w : World) (token : Token) : EntryPoint → Prop
  | .currentUser => StillListed cfg w token
  | .refresh => ¬Revoked w token
  | .graphql | .websocket => ¬Revoked w token ∧ ActiveSubject w token

/-- An entry that is found later on is found. -/
lemma scanMembers_cons_ne_false {now : ℤ} {jti : String} {members : List String}
    (h : scanMembers now jti members ≠ .ok false) (m : String) : scanMembers now jti (m :: members) ≠ .ok false := by
  unfold scanMembers
  split
  · exact h
  · rename_i storedJti storedExp _
    cases pyInt storedExp with
    | error e => simp [bind, Except.bind]
    | ok n =>
      simp only [bind, Except.bind]
      split
      · exact h
      · split
        · simp [pure, Except.pure]
        · exact h

/-- The loop does not miss an entry. -/
lemma scanMembers_ne_false {now exp : ℤ} {jti : String} {members : List String} (hjti : ':' ∉ jti.toList)
    (hexp : now ≤ exp) (hmem : blacklistMember jti exp ∈ members) : scanMembers now jti members ≠ .ok false := by
  induction members with
  | nil => cases hmem
  | cons m members ih =>
    rcases List.mem_cons.1 hmem with rfl | hmem
    · unfold scanMembers
      rw [cut_blacklistMember hjti]
      simp only [pyInt_toString, bind, Except.bind]
      rw [if_neg (not_lt.2 hexp), if_pos trivial]
      simp [pure, Except.pure]
    · exact scanMembers_cons_ne_false (ih hmem) m

/-- `get_current_user` finds a token that is still listed. -/
lemma isRevoked_of_listed (henabled : cfg.jwtBlacklistEnabled = true)
    (htracked : ∀ userId, Tracked cfg userId w) (hlisted : StillListed cfg w token) (hrevoked : Revoked w token) :
    ((isRevoked cfg token.claims).exec serve () w).result ≠ .ok false := by
  obtain ⟨b, hb, hsub, hjti⟩ := hrevoked
  obtain ⟨hne, hcolon, exp, hexp, hkeeps⟩ := hlisted b hb hsub hjti
  have hmem : blacklistMember b.jti exp ∈ w.members b.userId := by
    obtain ⟨members, hget, hmem⟩ := (htracked b.userId w.now le_rfl _).2 hkeeps
    unfold World.members
    rw [hget]
    exact hmem
  have hscan := scanMembers_ne_false hcolon hexp hmem
  unfold isRevoked
  rw [hjti]
  simp only [if_neg hne, hsub, liftBuiltin]
  show ((isTokenBlacklisted cfg b.userId b.jti).exec serve () w).result ≠ _
  rw [exec_isTokenBlacklisted]
  unfold World.isBlacklisted
  rw [if_pos henabled]
  exact fun h => hscan (liftBuiltin_eq_ok.1 h)

/-- A careful entry point honours revocations. -/
theorem EntryPoint.Careful.honours {e : EntryPoint} (henabled : cfg.jwtBlacklistEnabled = true)
    (htracked : ∀ userId, Tracked cfg userId w)
    (h : (∃ userId user, e.Knows cfg client w token userId user) → e.Careful cfg w token) :
    e.Honours cfg client w token := by
  intro hauth
  have hcareful := h hauth.knows
  have hactive : ∀ {userId user}, e.Knows cfg client w token userId user → user.isActive = true →
      ActiveSubject w token := by
    intro userId user hknows hactive row hrow hid
    obtain ⟨hmem, huser⟩ := lookup_ok hknows.2.2
    have heq : row.id = user.id := by
      rw [huser]
      exact Except.ok.inj (hid.symm.trans hknows.2.1)
    rw [w.users.key_injOn hrow hmem heq]
    exact hactive
  cases e with
  | currentUser =>
    obtain ⟨hfree, userId, user, hknows, huser⟩ := currentUser_authenticates.1 hauth
    exact ⟨fun hrevoked => isRevoked_of_listed henabled htracked hcareful hrevoked hfree, hactive hknows huser⟩
  | refresh =>
    obtain ⟨userId, user, hknows, huser, -⟩ := refresh_authenticates hauth
    exact ⟨hcareful, hactive hknows huser⟩
  | graphql => exact hcareful
  | websocket => exact hcareful

/-! ### Every run -/

/-- What happens to the identity context: a request, a call of a session function by other code, or any
change of the users, such as a deactivation. -/
inductive Happening where
  | request (r : Request)
  | session (call : SessionCall)
  | users (table : Table User)

/-- The world after it. -/
def Happening.step (cfg : Settings) (lib : Libraries) (happening : Happening) (w : World) : World :=
  match happening with
  | .request r => r.step cfg lib w
  | .session call => call.step cfg w
  | .users table => { w with users := table }

/-- What effects and calls of `blacklist_token` keep, and the users have no part in, is kept. -/
theorem Happening.keeps {lib : Libraries} {I : World → Prop} (hA : ∀ e : Eff, e.Aside → Serves I e)
    (hb : ∀ u jti exp, Keeps I (blacklistToken cfg u jti exp)) (husers : ∀ w table, I w → I { w with users := table })
    (happening : Happening) (hw : I w) : I (happening.step cfg lib w) := by
  cases happening with
  | request r => exact (Keeps.request hA hb r () w hw).1
  | session call =>
    exact (call.keeps (fun _ e he => hA e he.aside) hb (fun _ _ => hA _ trivial) () w hw).1
  | users table => exact husers w table hw

/-- Such an invariant holds along every run. -/
theorem happenings_keep {lib : Libraries} {I : World → Prop} (hA : ∀ e : Eff, e.Aside → Serves I e)
    (hb : ∀ u jti exp, Keeps I (blacklistToken cfg u jti exp)) (husers : ∀ w table, I w → I { w with users := table })
    (happenings : List Happening) (hw : I w) : I (after (Happening.step cfg lib) w happenings) :=
  after_keeps (fun _ happening => happening.keeps hA hb husers) hw

lemma tracked_happenings {lib : Libraries} (happenings : List Happening) (h : Tracked cfg userId w) :
    Tracked cfg userId (after (Happening.step cfg lib) w happenings) :=
  happenings_keep (fun _ he => he.serves) tracked_blacklistToken
    (fun _ _ hw => hw.frame rfl rfl le_rfl) happenings h

/-- **When a revocation is honoured**: after everything that may have happened, an entry point keeps out
every token that was revoked and every user who is inactive, provided that it is `get_current_user` and the
entry has not lapsed, or else that no token of this kind is presented to it. -/
theorem revocation_honoured (cfg : Settings) (lib : Libraries) (henabled : cfg.jwtBlacklistEnabled = true)
    (w : World) (hempty : ∀ userId, w.redis.blacklist.get w.now userId = none) (hnew : w.blacklistings = [])
    (happenings : List Happening) (e : EntryPoint) (client : Client) (token : Token)
    (hcareful : (∃ userId user,
        e.Knows cfg client (after (Happening.step cfg lib) w happenings) token userId user) →
      e.Careful cfg (after (Happening.step cfg lib) w happenings) token) :
    e.Honours cfg client (after (Happening.step cfg lib) w happenings) token :=
  EntryPoint.Careful.honours henabled
    (fun userId => tracked_happenings happenings (tracked_empty cfg (hempty userId) hnew)) hcareful

open Sample in
/-- The access token of ada, issued at second 1000. -/
def Sample.bearer : Token where
  alg := some .hs256
  signedBy := some .secret
  claims := ⟨"1", 2800, some 1000, some "0", none⟩

open Sample in
/-- It is revoked by `POST /jwt/revoke`. -/
def Sample.revoked : World := after (Happening.step settings libraries) world [.request (.revoke {} bearer)]

open Sample in
/-- After `POST /jwt/revoke` the GraphQL context and the WebSocket handshake still take the token. -/
theorem revoked_token_accepted :
    ((createAccessToken settings "1").exec serve () world).result = .ok bearer ∧
      Revoked revoked bearer ∧
      ((getGqlContext settings {} (some bearer)).exec serve () revoked).result = .ok (some ada) ∧
      ((getCurrentUserWs settings {} (some bearer)).exec serve () revoked).result = .ok 1 :=
  ⟨by rfl, ⟨⟨1000 * second, 1, "0", 2800⟩, by decide +kernel, rfl, rfl⟩, by rfl, by rfl⟩

open Sample in
/-- `get_current_user` refuses it. -/
theorem revocation_honoured_bearer :
    EntryPoint.Honours settings {} revoked bearer .currentUser :=
  revocation_honoured settings libraries rfl world (fun _ => rfl) rfl [.request (.revoke {} bearer)]
    .currentUser {} bearer (by
      rintro -
      show StillListed settings revoked bearer
      intro b hb _ _
      have hlist : revoked.blacklistings = [⟨1000 * second, 1, "0", 2800⟩] := by decide +kernel
      rw [hlist] at hb
      obtain rfl := List.mem_singleton.1 hb
      refine ⟨by decide, by decide, 2800, by decide +kernel, ?_⟩
      show Holds _ _ (blacklistHistory settings 1 revoked.blacklistings)
      rw [hlist]
      exact ⟨⟨by decide, by decide⟩, .inl rfl⟩)

end FastapiTemplate.Identity
