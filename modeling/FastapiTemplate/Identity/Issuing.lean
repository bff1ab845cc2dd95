import FastapiTemplate.Identity.Purposes

/-!
# When a login can issue its tokens

A login ends with two tokens that are minted, read back and stored as sessions. Whether this works depends on the
settings only: the key has to sign, and no lifetime may be negative.
-/

namespace FastapiTemplate.Identity

open Effects Python Store Script

variable {cfg : Settings} {client : Client} {w w' : World} {userId : ℤ} {pair : TokenPair}

/-! ### Minting -/

/-- The lifetime of a token; an empty one counts as none. -/
def Settings.lifetime (cfg : Settings) (expiresDelta : Option Timedelta) : Timedelta :=
  match expiresDelta with
  | some d => if d = 0 then minutes cfg.accessTokenExpireMinutes else d
  | none => minutes cfg.accessTokenExpireMinutes

/-- The settings let a login issue its tokens. -/
structure Settings.Issues (cfg : Settings) : Prop where
  signs : canSign cfg cfg.algorithm cfg.payloadKey = true
  access : 0 ≤ cfg.accessTokenExpireMinutes
  refresh : 0 ≤ cfg.refreshTokenExpireDays

/-- The token that is minted in this world. -/
def World.minted (cfg : Settings) (w : World) (subject : String) (expiresDelta : Option Timedelta)
    (purpose : Purpose) : Token where
  alg := some cfg.algorithm
  signedBy := some cfg.payloadKey
  claims := ⟨subject, timestamp (w.now + cfg.lifetime expiresDelta), some (timestamp w.now),
    some (w.nonces w.drawn).val, purpose.claim⟩

/-- A token is minted if the key signs. -/
lemma exec_mint (subject : String) (expiresDelta : Option Timedelta) (purpose : Purpose) :
    (makeJwtPayload cfg subject expiresDelta purpose >>= signPayload cfg).exec serve () w =
      if canSign cfg cfg.algorithm cfg.payloadKey then
        ⟨.ok (w.minted cfg subject expiresDelta purpose), (),
          { w with drawn := w.drawn + 1, issued := w.minted cfg subject expiresDelta purpose :: w.issued }⟩
      else ⟨.error .jws, (), { w with drawn := w.drawn + 1 }⟩ := by
  rw [exec_bind]
  unfold makeJwtPayload
  simp only [exec_bind, exec_datetimeNow, Outcome.next_ok, exec_randomText, exec_pure, signPayload_eq]
  unfold jwtEncode
  split <;> rfl

/-- The two tokens of a login. -/
def World.mintedPair (cfg : Settings) (w : World) (userId : ℤ) : TokenPair where
  accessToken := w.minted cfg (toString userId) none .access
  refreshToken :=
    { w with drawn := w.drawn + 1 }.minted cfg (toString userId) (some (days cfg.refreshTokenExpireDays)) .refresh

lemma exec_createTokens (hsigns : canSign cfg cfg.algorithm cfg.payloadKey = true) (w : World) :
    (createTokens cfg userId).exec serve () w =
      ⟨.ok (w.mintedPair cfg userId), (), { w with
        drawn := w.drawn + 1 + 1
        issued := (w.mintedPair cfg userId).refreshToken :: (w.mintedPair cfg userId).accessToken :: w.issued }⟩ := by
  unfold createTokens createAccessToken createRefreshToken
  rw [exec_bind, exec_mint, if_pos hsigns, Outcome.next_ok, exec_bind, exec_mint, if_pos hsigns]
  rfl

lemma signs_of_createTokens (h : ((createTokens cfg userId).exec serve () w).result = .ok pair) :
    canSign cfg cfg.algorithm cfg.payloadKey = true := by
  by_contra hsigns
  unfold createTokens createAccessToken at h
  rw [exec_bind, exec_mint, if_neg hsigns] at h
  cases h

/-! ### Storing -/

/-- Sessions are stored without failure. -/
lemma storeSession_returns (cfg : Settings) (w : World) (userId : ℤ) (payload : SessionCreatePayload) :
    ∃ w', (storeSession cfg userId payload).exec serve () w = ⟨.ok (), (), w'⟩ := by
  unfold storeSession
  split
  · exact ⟨w, rfl⟩
  · simp only [exec_bind, exec_datetimeNow, Outcome.next_ok]
    exact ⟨_, rfl⟩

lemma timestamp_le_iff {d : ℤ} (now : Datetime) (n : ℤ) (hd : d = n * second) :
    timestamp now ≤ timestamp (now + d) ↔ 0 ≤ n := by
  have hsecond : second ≠ 0 := by decide
  unfold timestamp
  rw [hd, Int.add_mul_ediv_right _ _ hsecond]
  omega

/-- The minted tokens can be read unless they have expired. -/
lemma minted_readable_iff (hsigns : canSign cfg cfg.algorithm cfg.payloadKey = true) {subject : String}
    {expiresDelta : Option Timedelta} {purpose : Purpose} (hnow : w'.now = w.now) :
    (w.minted cfg subject expiresDelta purpose).Readable cfg cfg.payloadKey w'.now ↔
      timestamp w.now ≤ timestamp (w.now + cfg.lifetime expiresDelta) := by
  unfold Token.Readable World.minted
  simp [canVerify_of_canSign hsigns, hnow]

lemma lifetime_access : cfg.lifetime none = cfg.accessTokenExpireMinutes * 60 * second := rfl

lemma lifetime_refresh : cfg.lifetime (some (days cfg.refreshTokenExpireDays)) =
    if cfg.refreshTokenExpireDays = 0 then cfg.accessTokenExpireMinutes * 60 * second
    else cfg.refreshTokenExpireDays * 24 * 60 * 60 * second := by
  have hzero : days cfg.refreshTokenExpireDays = 0 ↔ cfg.refreshTokenExpireDays = 0 := by
    show cfg.refreshTokenExpireDays * 24 * 60 * 60 * (1000000 : ℤ) = 0 ↔ _
    omega
  simp only [Settings.lifetime, hzero]
  rfl

/-- Both tokens of a login can be read if the settings allow it. -/
lemma mintedPair_readable_iff (userId : ℤ) (hsigns : canSign cfg cfg.algorithm cfg.payloadKey = true) (hnow : w'.now = w.now) :
    (w.mintedPair cfg userId).accessToken.Readable cfg cfg.payloadKey w'.now ∧
      (w.mintedPair cfg userId).refreshToken.Readable cfg cfg.payloadKey w'.now ↔ cfg.Issues := by
  unfold World.mintedPair
  have hnow' : w'.now = { w with drawn := w.drawn + 1 }.now := hnow
  rw [minted_readable_iff hsigns hnow, minted_readable_iff hsigns hnow', lifetime_access,
    timestamp_le_iff _ _ rfl, lifetime_refresh]
  have haccess : 0 ≤ cfg.accessTokenExpireMinutes * 60 ↔ 0 ≤ cfg.accessTokenExpireMinutes := by omega
  rw [haccess]
  by_cases hzero : cfg.refreshTokenExpireDays = 0
  · rw [if_pos hzero, timestamp_le_iff _ _ rfl]
    exact ⟨fun h => ⟨hsigns, h.1, hzero.ge⟩, fun h => ⟨h.access, haccess.2 h.access⟩⟩
  · have hrefresh : 0 ≤ cfg.refreshTokenExpireDays * 24 * 60 * 60 ↔ 0 ≤ cfg.refreshTokenExpireDays := by omega
    rw [if_neg hzero, timestamp_le_iff _ _ rfl, hrefresh]
    exact ⟨fun h => ⟨hsigns, h.1, h.2⟩, fun h => ⟨h.access, h.refresh⟩⟩

/-- The sessions of the minted tokens are stored if both can be read. -/
lemma exec_storeTokens (userId : ℤ) (h : cfg.Issues) (hnow : w'.now = w.now) :
    ∃ w'', (storeTokens cfg client userId (w.mintedPair cfg userId)).exec serve () w' = ⟨.ok (), (), w''⟩ := by
  obtain ⟨haccess, hrefresh⟩ := (mintedPair_readable_iff userId h.signs hnow).2 h
  have hdecoded := decodeAccessToken_ok.2 ⟨haccess, rfl⟩
  have hdecoded' := decodeRefreshToken_ok.2 ⟨hrefresh, rfl, fun _ => rfl⟩
  unfold storeTokens
  rw [exec_bind, observes_decodeAccessToken.exec_eq, hdecoded, Outcome.next_ok, exec_bind,
    observes_decodeRefreshToken.exec_eq, hdecoded', Outcome.next_ok, exec_bind, exec_ofExcept]
  have hsession : sessionPayload client "access" (w.mintedPair cfg userId).accessToken.claims =
    .ok ⟨_, _, _, _, _, _⟩ := rfl
  have hsession' : sessionPayload client "refresh" (w.mintedPair cfg userId).refreshToken.claims =
    .ok ⟨_, _, _, _, _, _⟩ := rfl
  obtain ⟨w₁, hfirst⟩ := storeSession_returns cfg w' userId _
  rw [hsession, Outcome.next_ok, exec_bind, hfirst, Outcome.next_ok, exec_bind, exec_ofExcept, hsession',
    Outcome.next_ok]
  exact storeSession_returns cfg w₁ userId _

lemma readable_of_storeTokens {u : Unit}
    (h : ((storeTokens cfg client userId pair).exec serve () w).result = .ok u) :
    pair.accessToken.Readable cfg cfg.payloadKey w.now ∧ pair.refreshToken.Readable cfg cfg.payloadKey w.now := by
  unfold storeTokens at h
  obtain ⟨claims, hclaims, h⟩ := observes_decodeAccessToken.result_bind.1 h
  obtain ⟨claims', hclaims', -⟩ := observes_decodeRefreshToken.result_bind.1 h
  exact ⟨(decodeAccessToken_ok.1 hclaims).1, (decodeRefreshToken_ok.1 hclaims').1⟩

/-- **When a login can issue its tokens**: once the user is known it runs to its end if and only if the settings
allow it. -/
theorem issue_ok_iff {rest : TokenPair → Auth TokenPair}
    (hrest : ∀ pair w, ((rest pair).exec serve () w).result = .ok pair) :
    ((createTokens cfg userId >>= fun pair => storeTokens cfg client userId pair >>= fun _ => rest pair).exec
        serve () w).result = .ok pair ↔ cfg.Issues ∧ pair = w.mintedPair cfg userId := by
  constructor
  · intro h
    rw [exec_bind] at h
    obtain ⟨created, hcreated, h⟩ := Outcome.next_result h
    have hsigns := signs_of_createTokens hcreated
    rw [exec_createTokens hsigns] at hcreated h
    obtain rfl := Except.ok.inj hcreated
    rw [exec_bind] at h
    obtain ⟨_, hstored, h⟩ := Outcome.next_result h
    rw [hrest] at h
    have hreadable := readable_of_storeTokens hstored
    exact ⟨(mintedPair_readable_iff userId hsigns rfl).1 hreadable, (Except.ok.inj h).symm⟩
  · rintro ⟨hissues, rfl⟩
    rw [exec_bind, exec_createTokens hissues.signs, Outcome.next_ok, exec_bind]
    have hnow : ({ w with
        drawn := w.drawn + 1 + 1
        issued := (w.mintedPair cfg userId).refreshToken :: (w.mintedPair cfg userId).accessToken :: w.issued }
        : World).now = w.now := rfl
    obtain ⟨w', hstored⟩ := exec_storeTokens userId hissues hnow
    rw [hstored, Outcome.next_ok]
    exact hrest _ w'

/-- The tokens are the user's. -/
lemma mintedPair_sub : pyInt (w.mintedPair cfg userId).accessToken.claims.sub = .ok userId := pyInt_toString userId

end FastapiTemplate.Identity
