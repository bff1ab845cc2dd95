import FastapiTemplate.Identity.Endpoints

/-!
# Running the identity code

The rules for the effects, and what the small functions do as functions of the world: the lookups, the JWT
library, the blacklist and the sessions. Everything later is computed with these.
-/

namespace FastapiTemplate.Identity

open Effects Python Store Script

variable {cfg : Settings} {client : Client} {w : World}

/-! ### Effects -/

@[simp] lemma exec_datetimeNow : datetimeNow.exec serve () w = ⟨.ok w.now, (), w⟩ := rfl

@[simp] lemma exec_randomText :
    randomText.exec serve () w = ⟨.ok (w.nonces w.drawn).val, (), { w with drawn := w.drawn + 1 }⟩ := rfl

@[simp] lemma exec_redis (c : RedisCommand) :
    (redis c).exec serve () w =
      ⟨.ok (w.redis.run w.now c).1, (), { w with redis := (w.redis.run w.now c).2 }⟩ := rfl

/-- A lookup reads the committed rows. -/
@[simp] lemma exec_selectUser (tenant : Option ℤ) (p : User → Bool) :
    (selectUser tenant p).exec serve () w =
      ⟨scalarOneOrNone (w.users.rows.filter fun r => visible tenant r && p r), (), w⟩ := by
  unfold selectUser
  simp [serve]

lemma scalarOneOrNone_eq_some {α : Type} {xs : List α} {a : α} :
    scalarOneOrNone xs = .ok (some a) ↔ xs = [a] := by
  rcases xs with _ | ⟨x, _ | ⟨y, ys⟩⟩ <;> simp [scalarOneOrNone]

/-! ### Rows -/

/-- A lookup finds a row that it asks for. -/
lemma mem_of_select {tenant : Option ℤ} {p : User → Bool} {user : User}
    (h : scalarOneOrNone (w.users.rows.filter fun r => visible tenant r && p r) = .ok (some user)) :
    user ∈ w.users.rows ∧ visible tenant user = true ∧ p user = true := by
  have hmem : user ∈ w.users.rows.filter fun r => visible tenant r && p r := by
    rw [scalarOneOrNone_eq_some.1 h]
    exact List.mem_singleton_self user
  obtain ⟨hrow, hp⟩ := List.mem_filter.1 hmem
  exact ⟨hrow, (Bool.and_eq_true _ _).mp hp⟩

/-- A row that was loaded in this world is written back. -/
lemma exec_saveUser {user cur : User} (hmem : user ∈ w.users.rows) (hid : cur.id = user.id) :
    (saveUser user cur).exec serve () w =
      ⟨.ok (), (), { w with users := w.users.put (User.update user cur user) }⟩ := by
  have hget : w.users.get? cur.id = some user := Table.get?_eq_some.2 ⟨hmem, hid.symm⟩
  unfold saveUser
  simp [serve, World.updateUser, hget]

/-- An event of a known type is written to the audit log. -/
lemma exec_log (client : Client) (user : Option User) (details : Option Value) {eventType : String}
    (h : eventType ∈ authEventTypes) :
    ∃ entries, (client.log eventType user details).exec serve () w =
      ⟨.ok (), (), { w with auditLog := entries }⟩ := by
  unfold Client.log logAuthEvent
  rw [if_pos h]
  exact ⟨_, rfl⟩

/-! ### Code that only reads -/

/-- The script leaves the world as it is. -/
def Observes {α : Type} (p : Auth α) : Prop := ∀ w, (p.exec serve () w).world = w

namespace Observes

variable {α β : Type} {p : Auth α} {f : α → Auth β}

lemma pure (a : α) : Observes (Pure.pure a : Auth α) := fun _ => rfl

lemma throw (e : Exn) : Observes (MonadExcept.throw e : Auth α) := fun _ => rfl

lemma ofExcept (x : Except Exn α) : Observes (MonadExcept.ofExcept x : Auth α) := fun w => by
  rw [exec_ofExcept]

lemma datetimeNow : Observes datetimeNow := fun _ => rfl

lemma selectUser (tenant : Option ℤ) (q : User → Bool) : Observes (selectUser tenant q) := fun w => by
  rw [exec_selectUser]

theorem bind (hp : Observes p) (hf : ∀ a, Observes (f a)) : Observes (p >>= f) := by
  intro w
  rw [exec_bind]
  rcases ho : p.exec serve () w with ⟨e | a, s, w'⟩
  · have hw := hp w
    rw [ho] at hw
    exact hw
  · have hw := hp w
    rw [ho] at hw
    exact (hf a w').trans hw

theorem tryCatch {g : Exn → Auth α} (hp : Observes p) (hg : ∀ e, Observes (g e)) :
    Observes (tryCatch p g) := by
  intro w
  rw [exec_tryCatch]
  rcases ho : p.exec serve () w with ⟨e | a, s, w'⟩
  · have hw := hp w
    rw [ho] at hw
    exact (hg e w').trans hw
  · have hw := hp w
    rw [ho] at hw
    exact hw

/-- The run of code that only reads is its result. -/
lemma exec_eq (hp : Observes p) (w : World) :
    p.exec serve () w = ⟨(p.exec serve () w).result, (), w⟩ := by
  show (⟨_, (), (p.exec serve () w).world⟩ : Outcome Unit Exn World α) = _
  rw [hp w]
  rfl

/-- A sequence returns if both parts do, in the same world. -/
theorem result_bind {b : β} (hp : Observes p) :
    ((p >>= f).exec serve () w).result = .ok b ↔
      ∃ a, (p.exec serve () w).result = .ok a ∧ ((f a).exec serve () w).result = .ok b := by
  rw [exec_bind, hp.exec_eq w]
  cases (p.exec serve () w).result with
  | error e => exact ⟨nofun, fun ⟨_, h, _⟩ => nomatch h⟩
  | ok a => exact ⟨fun h => ⟨a, rfl, h⟩, fun ⟨_, h, hf⟩ => Except.ok.inj h ▸ hf⟩

end Observes

/-! ### The JWT library -/

@[simp] lemma exec_jwtDecode (token : Token) (key : SigningKey) (alg : Algorithm) :
    (jwtDecode cfg token key alg).exec serve () w = ⟨checkToken cfg token key alg w.now, (), w⟩ := by
  unfold jwtDecode
  simp

/-- **What `jwt.decode` accepts.** -/
theorem checkToken_eq_ok {token : Token} {key : SigningKey} {alg : Algorithm} {now : Datetime}
    {claims : Claims} :
    checkToken cfg token key alg now = .ok claims ↔
      token.alg = some alg ∧ canVerify cfg alg key = true ∧ token.signedBy = some key ∧
        timestamp now ≤ token.claims.exp ∧ token.claims = claims := by
  unfold checkToken
  by_cases halg : token.alg = some alg
  · by_cases hkey : canVerify cfg alg key = true
    · by_cases hsigned : token.signedBy = some key
      · by_cases hexp : token.claims.exp < timestamp now
        · simp [halg, hkey, hsigned, hexp]
        · simp [halg, hkey, hsigned, hexp, not_lt.1 hexp]
      · simp [halg, hkey, hsigned]
    · simp [halg, hkey]
  · simp [halg]

/-- The key that access, refresh and magic-link tokens are signed with. -/
def Settings.payloadKey (cfg : Settings) : SigningKey :=
  match cfg.algorithm with
  | .rs256 => .generated
  | .hs256 => .secret

lemma readPayload_eq (cfg : Settings) (token : Token) :
    readPayload cfg token = jwtDecode cfg token cfg.payloadKey cfg.algorithm := by
  unfold readPayload Settings.payloadKey decodeWithRs256
  cases cfg.algorithm <;> rfl

lemma signPayload_eq (cfg : Settings) (claims : Claims) :
    signPayload cfg claims = jwtEncode cfg claims cfg.payloadKey cfg.algorithm := by
  unfold signPayload Settings.payloadKey signWithRs256
  cases cfg.algorithm <;> rfl

/-- A handler that only raises returns what the code returns. -/
lemma exec_orUnauthorized_ok {statusCode : ℕ} {detail : String} {p : Auth Claims} {claims : Claims} :
    ((orUnauthorized statusCode detail p).exec serve () w).result = .ok claims ↔
      (p.exec serve () w).result = .ok claims := by
  unfold orUnauthorized
  rw [exec_tryCatch]
  rcases p.exec serve () w with ⟨e | a, s, w'⟩
  · by_cases he : e = .jwt <;> simp [Outcome.rescue, he]
  · rfl

/-! ### Decoders -/

lemma observes_jwtDecode (token : Token) (key : SigningKey) (alg : Algorithm) :
    Observes (jwtDecode cfg token key alg) := fun w => by rw [exec_jwtDecode]

lemma observes_orUnauthorized {statusCode : ℕ} {detail : String} {p : Auth Claims} (hp : Observes p) :
    Observes (orUnauthorized statusCode detail p) :=
  hp.tryCatch fun e => by
    split
    · exact .throw _
    · exact .throw _

lemma observes_checkPurpose (purpose : Purpose) (statusCode : ℕ) (claims : Claims) :
    Observes (checkPurpose purpose statusCode claims) := by
  unfold checkPurpose
  split
  · exact .pure _
  · exact .throw _

lemma exec_checkPurpose_ok {purpose : Purpose} {statusCode : ℕ} {claims claims' : Claims} :
    ((checkPurpose purpose statusCode claims).exec serve () w).result = .ok claims' ↔
      claims = claims' ∧ claims.purpose = purpose.claim := by
  unfold checkPurpose
  split
  · rename_i h
    simp [h]
  · rename_i h
    simp [h]

/-- The token can be read with the key, and has not expired. -/
def Token.Readable (cfg : Settings) (token : Token) (key : SigningKey) (now : Datetime) : Prop :=
  token.alg = some cfg.algorithm ∧ canVerify cfg cfg.algorithm key = true ∧ token.signedBy = some key ∧
    timestamp now ≤ token.claims.exp

section Decoders

variable {token : Token} {claims : Claims}

lemma exec_jwtDecode_ok {key : SigningKey} :
    ((jwtDecode cfg token key cfg.algorithm).exec serve () w).result = .ok claims ↔
      token.Readable cfg key w.now ∧ token.claims = claims := by
  rw [exec_jwtDecode]
  exact checkToken_eq_ok.trans (by unfold Token.Readable; simp only [and_assoc])

theorem decodeAccessToken_ok :
    ((decodeAccessToken cfg token).exec serve () w).result = .ok claims ↔
      token.Readable cfg cfg.payloadKey w.now ∧ token.claims = claims := by
  unfold decodeAccessToken
  rw [exec_orUnauthorized_ok, readPayload_eq, exec_jwtDecode_ok]

lemma observes_decodeAccessToken : Observes (decodeAccessToken cfg token) := by
  unfold decodeAccessToken
  rw [readPayload_eq]
  exact observes_orUnauthorized (observes_jwtDecode _ _ _)

/-- Reading and then comparing the purpose. -/
lemma decode_checked_ok {key : SigningKey} {purpose : Purpose} {statusCode statusCode' : ℕ} {detail : String} :
    ((orUnauthorized statusCode detail (jwtDecode cfg token key cfg.algorithm) >>=
        checkPurpose purpose statusCode').exec serve () w).result = .ok claims ↔
      token.Readable cfg key w.now ∧ token.claims = claims ∧ token.claims.purpose = purpose.claim := by
  rw [(observes_orUnauthorized (observes_jwtDecode _ _ _)).result_bind]
  constructor
  · rintro ⟨c, hc, hp⟩
    obtain ⟨hread, rfl⟩ := exec_jwtDecode_ok.1 (exec_orUnauthorized_ok.1 hc)
    obtain ⟨hclaims, hpurpose⟩ := exec_checkPurpose_ok.1 hp
    exact ⟨hread, hclaims, hpurpose⟩
  · rintro ⟨hread, rfl, hpurpose⟩
    exact ⟨token.claims, exec_orUnauthorized_ok.2 (exec_jwtDecode_ok.2 ⟨hread, rfl⟩),
      exec_checkPurpose_ok.2 ⟨rfl, hpurpose⟩⟩

/-- The two branches of the decoders that compare the purpose under HS256 only. -/
lemma decodeRefreshToken_hs256 (h : cfg.algorithm = .hs256) :
    decodeRefreshToken cfg token =
      orUnauthorized 401 "Could not validate refresh token"
        (jwtDecode cfg token .secret cfg.algorithm >>= checkPurpose .refresh 401) := by
  unfold decodeRefreshToken
  rw [h]

lemma decodeRefreshToken_rs256 (h : cfg.algorithm = .rs256) :
    decodeRefreshToken cfg token =
      orUnauthorized 401 "Could not validate refresh token" (jwtDecode cfg token .generated cfg.algorithm) := by
  unfold decodeRefreshToken
  rw [h]
  rfl

lemma decodeMagicLinkToken_hs256 (h : cfg.algorithm = .hs256) :
    decodeMagicLinkToken cfg token =
      orUnauthorized 400 "Invalid or expired magic link" (jwtDecode cfg token .secret cfg.algorithm) >>=
        checkPurpose .magicLink 400 := by
  unfold decodeMagicLinkToken
  rw [h]

lemma decodeMagicLinkToken_rs256 (h : cfg.algorithm = .rs256) :
    decodeMagicLinkToken cfg token =
      orUnauthorized 400 "Invalid or expired magic link" (jwtDecode cfg token .generated cfg.algorithm) := by
  unfold decodeMagicLinkToken
  rw [h]
  rfl

lemma payloadKey_hs256 (h : cfg.algorithm = .hs256) : cfg.payloadKey = .secret := by
  unfold Settings.payloadKey
  rw [h]

lemma payloadKey_rs256 (h : cfg.algorithm = .rs256) : cfg.payloadKey = .generated := by
  unfold Settings.payloadKey
  rw [h]

theorem decodeRefreshToken_ok :
    ((decodeRefreshToken cfg token).exec serve () w).result = .ok claims ↔
      token.Readable cfg cfg.payloadKey w.now ∧ token.claims = claims ∧
        (cfg.algorithm = .hs256 → token.claims.purpose = Purpose.refresh.claim) := by
  cases h : cfg.algorithm with
  | hs256 =>
    rw [decodeRefreshToken_hs256 h, exec_orUnauthorized_ok, payloadKey_hs256 h,
      (observes_jwtDecode _ _ _).result_bind]
    constructor
    · rintro ⟨c, hc, hp⟩
      obtain ⟨hread, rfl⟩ := exec_jwtDecode_ok.1 hc
      obtain ⟨hclaims, hpurpose⟩ := exec_checkPurpose_ok.1 hp
      exact ⟨hread, hclaims, fun _ => hpurpose⟩
    · rintro ⟨hread, rfl, hpurpose⟩
      exact ⟨token.claims, exec_jwtDecode_ok.2 ⟨hread, rfl⟩, exec_checkPurpose_ok.2 ⟨rfl, hpurpose rfl⟩⟩
  | rs256 =>
    rw [decodeRefreshToken_rs256 h, exec_orUnauthorized_ok, payloadKey_rs256 h, exec_jwtDecode_ok]
    exact and_congr Iff.rfl (by simp)

lemma observes_decodeRefreshToken : Observes (decodeRefreshToken cfg token) := by
  cases h : cfg.algorithm with
  | hs256 =>
    rw [decodeRefreshToken_hs256 h]
    exact observes_orUnauthorized ((observes_jwtDecode _ _ _).bind fun _ => observes_checkPurpose _ _ _)
  | rs256 =>
    rw [decodeRefreshToken_rs256 h]
    exact observes_orUnauthorized (observes_jwtDecode _ _ _)

theorem decodeMagicLinkToken_ok :
    ((decodeMagicLinkToken cfg token).exec serve () w).result = .ok claims ↔
      token.Readable cfg cfg.payloadKey w.now ∧ token.claims = claims ∧
        (cfg.algorithm = .hs256 → token.claims.purpose = Purpose.magicLink.claim) := by
  cases h : cfg.algorithm with
  | hs256 =>
    rw [decodeMagicLinkToken_hs256 h, decode_checked_ok, payloadKey_hs256 h]
    simp
  | rs256 =>
    rw [decodeMagicLinkToken_rs256 h, exec_orUnauthorized_ok, payloadKey_rs256 h, exec_jwtDecode_ok]
    simp

lemma observes_decodeMagicLinkToken : Observes (decodeMagicLinkToken cfg token) := by
  cases h : cfg.algorithm with
  | hs256 =>
    rw [decodeMagicLinkToken_hs256 h]
    exact (observes_orUnauthorized (observes_jwtDecode _ _ _)).bind fun _ => observes_checkPurpose _ _ _
  | rs256 =>
    rw [decodeMagicLinkToken_rs256 h]
    exact observes_orUnauthorized (observes_jwtDecode _ _ _)

theorem decodeVerificationToken_ok :
    ((decodeVerificationToken cfg token).exec serve () w).result = .ok claims ↔
      token.Readable cfg .secret w.now ∧ token.claims = claims ∧
        token.claims.purpose = Purpose.emailVerify.claim := decode_checked_ok

lemma observes_decodeVerificationToken : Observes (decodeVerificationToken cfg token) :=
  (observes_orUnauthorized (observes_jwtDecode _ _ _)).bind fun _ => observes_checkPurpose _ _ _

theorem decodeTotpChallengeToken_ok :
    ((decodeTotpChallengeToken cfg token).exec serve () w).result = .ok claims ↔
      token.Readable cfg .secret w.now ∧ token.claims = claims ∧
        token.claims.purpose = Purpose.totpChallenge.claim := decode_checked_ok

lemma observes_decodeTotpChallengeToken : Observes (decodeTotpChallengeToken cfg token) :=
  (observes_orUnauthorized (observes_jwtDecode _ _ _)).bind fun _ => observes_checkPurpose _ _ _

end Decoders

/-! ### Entry points -/

/-- The members of a user's blacklist. -/
def World.members (w : World) (userId : ℤ) : List String := (w.redis.blacklist.get w.now userId).getD []

/-- What `is_token_blacklisted` answers. -/
def World.isBlacklisted (cfg : Settings) (w : World) (userId : ℤ) (jti : String) : Except Exn Bool :=
  if cfg.jwtBlacklistEnabled then liftBuiltin (scanMembers (timestamp w.now) jti (w.members userId))
  else .ok false

@[simp] lemma exec_isTokenBlacklisted (userId : ℤ) (jti : String) :
    (isTokenBlacklisted cfg userId jti).exec serve () w = ⟨w.isBlacklisted cfg userId jti, (), w⟩ := by
  unfold isTokenBlacklisted World.isBlacklisted
  cases cfg.jwtBlacklistEnabled with
  | false => rfl
  | true =>
    simp only [Bool.not_true, Bool.false_eq_true, if_false, if_true, exec_bind, exec_datetimeNow,
      Outcome.next_ok, exec_ofExcept]
    rfl

lemma observes_isRevoked (payload : Claims) : Observes (isRevoked cfg payload) := by
  unfold isRevoked
  split
  · exact .pure _
  · split
    · exact .pure _
    · exact (Observes.ofExcept _).bind fun _ w => by rw [exec_isTokenBlacklisted]

/-- The rows that a lookup by id finds. -/
def World.rowsOf (w : World) (tenant : Option ℤ) (id : ℤ) : List User :=
  w.users.rows.filter fun r => visible tenant r && r.id == id

/-- The claims are those of an active user, and have not been revoked. -/
def Principal (cfg : Settings) (client : Client) (w : World) (claims : Claims) (user : User) : Prop :=
  ((isRevoked cfg claims).exec serve () w).result = .ok false ∧
    (∃ id, pyInt claims.sub = .ok id ∧ w.rowsOf client.tenant id = [user]) ∧ user.isActive = true

/-- **What `get_current_user` accepts.** -/
theorem getCurrentUser_ok {token : Token} {user : User} :
    ((getCurrentUser cfg client token).exec serve () w).result = .ok user ↔
      token.Readable cfg cfg.payloadKey w.now ∧ Principal cfg client w token.claims user := by
  unfold getCurrentUser Principal
  rw [observes_decodeAccessToken.result_bind]
  simp only [decodeAccessToken_ok, (observes_isRevoked _).result_bind]
  constructor
  · rintro ⟨claims, ⟨hread, rfl⟩, revoked, hrevoked, h⟩
    cases revoked with
    | true => simp at h
    | false =>
      simp only [Bool.false_eq_true, if_false, (Observes.ofExcept _).result_bind, exec_ofExcept,
        liftBuiltin_eq_ok] at h
      obtain ⟨id, hid, h⟩ := h
      unfold getWithRoles at h
      simp only [(Observes.selectUser _ _).result_bind, exec_selectUser] at h
      obtain ⟨found, hfound, h⟩ := h
      cases found with
      | none => simp at h
      | some row =>
        cases hactive : row.isActive with
        | false => simp [hactive] at h
        | true =>
          obtain rfl : row = user := by simpa [hactive] using h
          exact ⟨hread, hrevoked, ⟨id, hid, scalarOneOrNone_eq_some.1 hfound⟩, hactive⟩
  · rintro ⟨hread, hrevoked, ⟨id, hid, hrows⟩, hactive⟩
    refine ⟨token.claims, ⟨hread, rfl⟩, false, hrevoked, ?_⟩
    simp only [Bool.false_eq_true, if_false, (Observes.ofExcept _).result_bind, exec_ofExcept,
      liftBuiltin_eq_ok]
    refine ⟨id, hid, ?_⟩
    unfold getWithRoles
    simp only [(Observes.selectUser _ _).result_bind, exec_selectUser]
    exact ⟨some user, scalarOneOrNone_eq_some.2 hrows, by simp [hactive]⟩

/-! ### A small world

Settings, users and libraries for the concrete runs of other modules. -/

namespace Sample

/-- The defaults, with a plain secret. -/
def settings : Settings where
  secretKey := .plain

/-- The random texts are the numbers in turn. -/
def nonces (n : ℕ) : Nonce := ⟨toString (n : ℤ), notMem_toString (by decide) (by decide)⟩

/-- An active user with a second factor. -/
def ada : User where
  id := 1
  email := "ada@example.com"
  username := "ada"
  hashedPassword := "hash"
  isVerified := true
  totpSecret := some "SECRET"
  totpEnabled := true

/-- A world with this user only, at second 1000. -/
def world : World where
  now := 1000 * second
  users := { rows := [ada], next := 2, sorted := List.pairwise_singleton _ _, below := by decide }
  nonces := nonces

/-- An active user without a second factor. -/
def bob : User where
  id := 2
  email := "bob@example.com"
  username := "bob"
  hashedPassword := "hash"
  isVerified := true

/-- The world with this user instead. -/
def bobsWorld : World :=
  { world with users := { rows := [bob], next := 3, sorted := List.pairwise_singleton _ _, below := by decide } }

/-- Libraries for which every password but `wrong`, no code and every assertion is right. -/
def libraries : Libraries where
  checkpw password _ := .ok (decide (password.data ≠ "wrong".toUTF8.data))
  hashpw _ salt := salt
  totp _ _ _ := .ok false
  sha256 code := code
  assertion _ _ _ _ := .ok ()
  isalnum c := c.isAlphanum

end Sample

end FastapiTemplate.Identity
