import FastapiTemplate.Identity.Attempts
import FastapiTemplate.Identity.Requests

/-!
# What the logins check

For each login what it has found and verified once it returns: a stored user and a password, a code or a
backup code, an assertion of a passkey, the user with the address of a magic link, the user of a social login.
-/

namespace FastapiTemplate.Identity

open Effects Python Store Script

variable {cfg : Settings} {lib : Libraries} {client : Client} {w w' : World} {userId : ℤ}

/-! ### The second factor -/

/-- The code is right, or it is one of the backup codes. -/
def FactorVerified (lib : Libraries) (user : User) (code : String) (now : Datetime) : Prop :=
  ∃ secret, user.totpSecret = some secret ∧ (lib.totp secret code now = .ok true ∨
    ∃ usedHash, verifyBackupCode lib code user.backupCodes = .ok (some usedHash))

lemma User.secondFactor?_eq_some {user : User} {secret : String} (h : user.secondFactor? = some secret) :
    user.totpSecret = some secret := by
  unfold User.secondFactor? at h
  split at h
  · rename_i secret' hsecret
    split at h
    · rw [hsecret, h]
    · cases h
  · cases h

lemma observes_verifyTotpCode (secret code : String) : Observes (verifyTotpCode lib secret code) :=
  Observes.datetimeNow.bind fun _ => .ofExcept _

lemma verifySecondFactor_ok {user : User} {secret code : String} (hsecret : user.totpSecret = some secret)
    (h : ((verifySecondFactor lib user secret code).exec serve () w).result = .ok true) :
    FactorVerified lib user code w.now := by
  refine ⟨secret, hsecret, ?_⟩
  unfold verifySecondFactor at h
  obtain ⟨valid, hvalid, h⟩ := (observes_verifyTotpCode secret code).result_bind.1 h
  cases valid with
  | true =>
    unfold verifyTotpCode at hvalid
    rw [exec_bind, exec_datetimeNow, Outcome.next_ok, exec_ofExcept] at hvalid
    exact .inl (liftBuiltin_eq_ok.1 hvalid)
  | false =>
    simp only [Bool.false_eq_true, if_false, (Observes.ofExcept _).result_bind, exec_ofExcept,
      liftBuiltin_eq_ok] at h
    obtain ⟨used, hused, h⟩ := h
    cases used with
    | some usedHash => exact .inr ⟨usedHash, hused⟩
    | none => cases h

/-- An assertion for a pending challenge is right for one of the user's passkeys. -/
def PasskeyVerified (lib : Libraries) (w : World) (userId : ℤ) (credential : Value) : Prop :=
  ∃ challenge, w.pendingAuthentications.lookup (toString userId) = some challenge ∧
    ∃ cred ∈ w.credentials, cred.userId = userId ∧
      lib.assertion challenge cred.publicKey cred.signCount credential = .ok ()

lemma completeAuthentication_ok {credential : Value}
    (h : ((completeAuthentication lib userId credential).exec serve () w).result = .ok ()) :
    PasskeyVerified lib w userId credential := by
  unfold completeAuthentication selectCredentials at h
  simp only [exec_bind, exec_perform, Outcome.next_ok, serve] at h
  split at h
  · cases h
  · rename_i challenge hchallenge
    refine ⟨challenge, hchallenge, ?_⟩
    simp only [exec_bind, exec_perform, exec_pure, Outcome.next_ok, serve] at h
    split at h
    · cases h
    · obtain ⟨credentialId, -, h⟩ := (Observes.ofExcept _).result_bind.1 h
      split at h
      · cases h
      · split at h
        · cases h
        · rename_i cred hcred
          obtain ⟨hmem, hid⟩ := List.mem_filter.1 (List.mem_of_find?_eq_some hcred)
          split at h
          · rename_i hassertion
            exact ⟨cred, hmem, beq_iff_eq.1 hid, hassertion⟩
          · cases h

/-! ### The users that the logins find -/

/-- The password login logs in a stored user. -/
lemma authenticateUser_ok {email password : String} {user : User}
    (h : ((authenticateUser cfg lib client email password).exec serve () w).result = .ok (some user)) :
    ∃ row ∈ w.users.rows, user = row.succeeded w.now := by
  have hattempted := attempted cfg lib client w email password
  rw [h] at hattempted
  generalize ((authenticateUser cfg lib client email password).exec serve () w).world = w' at hattempted
  cases hattempted with
  | turnedAway _ hresult => exact absurd rfl (hresult user)
  | right _ hmem _ => exact ⟨_, hmem, rfl⟩

lemma createUser_ok {user user' : User} (h : ((createUser user).exec serve () w).result = .ok user') :
    user'.id = w.users.next := by
  unfold createUser at h
  simp only [exec_bind, exec_perform, Outcome.next_ok, exec_ofExcept, serve, World.insertUser] at h
  split at h
  · cases h
  · rw [← Except.ok.inj h]

/-- A magic link logs in the user with the address, or a new one. -/
lemma magicLinkUser_ok {email : String} {user : User}
    (h : ((magicLinkUser cfg lib client email).exec serve () w).result = .ok user) :
    (∃ row, ((getByEmail client email).exec serve () w).result = .ok (some row) ∧ row.id = user.id) ∨
      user.id = w.users.next := by
  unfold magicLinkUser at h
  obtain ⟨found, hfound, h⟩ := (observes_getByEmail email).result_bind.1 h
  cases found with
  | none =>
    dsimp only at h
    split at h
    · cases h
    · rw [exec_bind, exec_randomText, Outcome.next_ok, exec_bind, exec_randomText, Outcome.next_ok] at h
      have hid := createUser_ok h
      exact .inr hid
  | some row =>
    refine .inl ⟨row, hfound, ?_⟩
    dsimp only at h
    split at h
    · rw [Except.ok.inj h]
    · rw [exec_bind, exec_datetimeNow, Outcome.next_ok, exec_bind] at h
      obtain ⟨_, -, h⟩ := Outcome.next_result h
      rw [← Except.ok.inj h]

/-- The callback finds the user: by provider id, else by e-mail address. -/
def OauthFinds (client : Client) (w : World) (provider : String) (email : Value) (providerId : String)
    (user : User) : Prop :=
  ((getByOauth client provider providerId).exec serve () w).result = .ok (some user) ∨
    ((getByOauth client provider providerId).exec serve () w).result = .ok none ∧
      ∃ address, emailText email = .ok address ∧
        ((getByEmail client address).exec serve () w).result = .ok (some user)

/-- It looks at the users only. -/
lemma OauthFinds.congr {provider providerId : String} {email : Value} {user : User}
    (h : OauthFinds client w' provider email providerId user) (husers : w'.users = w.users) :
    OauthFinds client w provider email providerId user := by
  unfold OauthFinds getByOauth getByEmail at h ⊢
  simp only [exec_selectUser, husers] at h ⊢
  exact h

/-- The user is not linked to another account. -/
def User.Linkable (provider providerId : String) (user : User) : Prop :=
  (user.oauthProviderId = none ∨ user.oauthProviderId = some "") ∨
    user.oauthProvider = some provider ∧ user.oauthProviderId = some providerId

lemma linkOauthAccount_ok {user user' : User} {provider providerId accessToken refreshToken : String}
    (h : ((linkOauthAccount user provider providerId accessToken refreshToken).exec serve () w).result =
      .ok user') : user'.id = user.id ∧ user'.isActive = user.isActive := by
  unfold linkOauthAccount at h
  rw [exec_bind] at h
  obtain ⟨_, -, h⟩ := Outcome.next_result h
  rw [← Except.ok.inj h]
  exact ⟨rfl, rfl⟩

lemma observes_getByOauth (provider providerId : String) : Observes (getByOauth client provider providerId) :=
  .selectUser _ _

/-- What a callback does with the user it finds. -/
def linkFound (row : User) (provider providerId accessToken refreshToken : String) : Auth User :=
  if row.oauthProviderId = none ∨ row.oauthProviderId = some "" then
    linkOauthAccount row provider providerId accessToken refreshToken
  else if row.oauthProvider ≠ some provider ∨ row.oauthProviderId ≠ some providerId then
    throw (Exn.http 409 "This email is already linked to a different OAuth account.")
  else pure row

lemma exec_oauthUser_of_finds {provider providerId : String} {email : Value} {row : User}
    (h : OauthFinds client w provider email providerId row) (accessToken refreshToken : String) :
    (oauthUser lib client provider email providerId accessToken refreshToken).exec serve () w =
      (linkFound row provider providerId accessToken refreshToken).exec serve () w := by
  unfold oauthUser
  rcases h with hoauth | ⟨hoauth, address, haddress, hemail⟩
  · rw [exec_bind, (observes_getByOauth provider providerId).exec_eq, hoauth]
    rfl
  · rw [exec_bind, (observes_getByOauth provider providerId).exec_eq, hoauth, Outcome.next_ok, exec_bind,
      exec_ofExcept, haddress, liftBuiltin, Outcome.next_ok, exec_bind, (observes_getByEmail address).exec_eq, hemail]
    rfl

/-- **The user of a callback**: a lookup fails, or one is found, or one is created. -/
theorem exec_oauthUser_cases (lib : Libraries) (client : Client) (w : World) (provider : String) (email : Value)
    (providerId accessToken refreshToken : String) :
    (∃ e, (oauthUser lib client provider email providerId accessToken refreshToken).exec serve () w =
        ⟨.error e, (), w⟩) ∨
      (∃ row, OauthFinds client w provider email providerId row ∧
        (oauthUser lib client provider email providerId accessToken refreshToken).exec serve () w =
          (linkFound row provider providerId accessToken refreshToken).exec serve () w) ∨
      ∃ address, emailText email = .ok address ∧
        (oauthUser lib client provider email providerId accessToken refreshToken).exec serve () w =
          (createOauthUser lib client address provider providerId accessToken refreshToken).exec serve () w := by
  unfold oauthUser
  rw [exec_bind, (observes_getByOauth provider providerId).exec_eq w]
  rcases hoauth : ((getByOauth client provider providerId).exec serve () w).result with e | found
  · exact .inl ⟨e, rfl⟩
  cases found with
  | some row => exact .inr (.inl ⟨row, .inl hoauth, rfl⟩)
  | none =>
    rw [Outcome.next_ok, exec_bind, exec_ofExcept]
    rcases haddress : emailText email with e | address
    · exact .inl ⟨_, rfl⟩
    · rw [liftBuiltin, Outcome.next_ok, exec_bind, (observes_getByEmail address).exec_eq w]
      rcases hemail : ((getByEmail client address).exec serve () w).result with e | found
      · exact .inl ⟨e, rfl⟩
      cases found with
      | some row => exact .inr (.inl ⟨row, .inr ⟨hoauth, address, haddress, hemail⟩, rfl⟩)
      | none => exact .inr (.inr ⟨address, rfl, rfl⟩)

lemma linkFound_ok {provider providerId accessToken refreshToken : String} {row user : User}
    (h : ((linkFound row provider providerId accessToken refreshToken).exec serve () w).result = .ok user) :
    row.Linkable provider providerId ∧ user.id = row.id ∧ user.isActive = row.isActive := by
  unfold linkFound at h
  split at h
  · rename_i hfree
    exact ⟨.inl hfree, linkOauthAccount_ok h⟩
  · split at h
    · cases h
    · rename_i hlinked
      obtain ⟨hprovider, hid⟩ := not_or.1 hlinked
      obtain rfl := Except.ok.inj h
      exact ⟨.inr ⟨not_not.1 hprovider, not_not.1 hid⟩, rfl, rfl⟩

lemma createOauthUser_ok {address provider providerId accessToken refreshToken : String} {user : User}
    (h : ((createOauthUser lib client address provider providerId accessToken refreshToken).exec serve () w).result =
      .ok user) : user.id = w.users.next := by
  unfold createOauthUser at h
  rw [exec_bind, exec_randomText, Outcome.next_ok, exec_bind, exec_randomText, Outcome.next_ok, exec_bind,
    exec_datetimeNow, Outcome.next_ok] at h
  have hid := createUser_ok h
  exact hid

/-- A callback logs in the user it finds, or a new one. -/
lemma oauthUser_ok {provider providerId accessToken refreshToken : String} {email : Value} {user : User}
    (h : ((oauthUser lib client provider email providerId accessToken refreshToken).exec serve () w).result =
      .ok user) :
    (∃ row, OauthFinds client w provider email providerId row ∧ row.Linkable provider providerId ∧
      user.id = row.id ∧ user.isActive = row.isActive) ∨ user.id = w.users.next := by
  rcases exec_oauthUser_cases lib client w provider email providerId accessToken refreshToken with
    ⟨e, hexec⟩ | ⟨row, hfinds, hexec⟩ | ⟨address, -, hexec⟩ <;> rw [hexec] at h
  · cases h
  · obtain ⟨hlinkable, hsame⟩ := linkFound_ok h
    exact .inl ⟨row, hfinds, hlinkable, hsame⟩
  · exact .inr (createOauthUser_ok h)

/-- There is an OAuth state of this name. -/
def World.KnowsState (w : World) (state : String) : Prop :=
  ∃ value, w.redis.oauthStates.get w.now state = some value ∧ value ≠ .none

/-- The state is read and, if it is there, deleted. -/
lemma exec_consumeOauthState (state : String) :
    ∃ known redis, (consumeOauthState state).exec serve () w = ⟨.ok known, (), { w with redis := redis }⟩ ∧
      (known = true ↔ w.KnowsState state) := by
  unfold consumeOauthState World.KnowsState
  rw [exec_bind, exec_redis, Outcome.next_ok]
  have hrun : w.redis.run w.now (.getState state) = (w.redis.oauthStates.get w.now state, w.redis) := rfl
  rw [hrun]
  rcases hget : w.redis.oauthStates.get w.now state with _ | value
  · exact ⟨false, w.redis, rfl, by simp⟩
  · cases value with
    | none => exact ⟨false, w.redis, rfl, by simp⟩
    | _ => exact ⟨true, _, rfl, by simp⟩

end FastapiTemplate.Identity
