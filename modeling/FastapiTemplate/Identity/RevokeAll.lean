import FastapiTemplate.Identity.EntryPoints
import FastapiTemplate.Identity.Listing

/-!
# Which tokens revoke-all revokes

`revoke_all_user_sessions` blacklists the sessions in the index of the user, each with the expiry in its
hash. So it revokes the tokens whose session is in the index and has its hash (`Listed`), for as long as the
blacklist does not lapse (`NoLapse`) and the blacklist is asked. Nobody reads the time of the revocation
that it writes besides.
-/

namespace FastapiTemplate.Identity

open Effects Python Store Script Store.Expiring

variable {cfg : Settings} {lib : Libraries} {client : Client} {w w' : World} {userId : ℤ} {token : Token}

/-! ### What holds along every run -/

/-- The hashes of the sessions hold the expiry as a number. -/
def Numeric (w : World) : Prop := All (fun _ info => ∃ exp : ℤ, info.expiresAt = toString exp) w.redis.sessionMeta

lemma Eff.Aside.numeric {e : Eff} (he : e.Aside) : Serves Numeric e := by
  intro w hw
  cases e with
  | updateUser loaded cur =>
    show Numeric (w.updateUser loaded cur).2
    rw [w.updateUser_frame]
    exact hw
  | insertUser user =>
    show Numeric (w.insertUser user).2
    rw [w.insertUser_frame]
    exact hw
  | redis command =>
    cases command with
    | hset u jti info =>
      obtain ⟨payload, -, rfl⟩ := he
      exact All.put hw ⟨payload.exp, rfl⟩
    | zrem u jti =>
      show All _ (w.redis.zrem w.now u jti).sessionMeta
      rw [zrem_sessionMeta]
      exact hw
    | setRevokedAll u seconds value =>
      show All _ (Redis.run w.now w.redis (.setRevokedAll u seconds value)).2.sessionMeta
      rw [(setRevokedAll_sessions _ _ _ _ _).2]
      exact hw
    | expire key seconds =>
      cases key with
      | sessionMeta => exact All.expire hw
      | _ => exact hw
    | delete key =>
      cases key with
      | sessionMeta => exact All.delete hw
      | _ => exact hw
    | _ => exact hw
  | _ => exact hw

lemma numeric_happenings (happenings : List Happening) (h : Numeric w) :
    Numeric (after (Happening.step cfg lib) w happenings) :=
  happenings_keep (fun _ he => he.numeric) (fun _ _ _ => keeps_blacklistToken fun _ hw => hw)
    (fun _ _ hw => hw) happenings h

/-- Time does not go back. -/
lemma now_happenings (happenings : List Happening) :
    w.now ≤ (after (Happening.step cfg lib) w happenings).now :=
  happenings_keep (I := fun w' => w.now ≤ w'.now) (fun _ he w' hw => hw.trans (he.frame w').2.2)
    (fun _ _ _ => keeps_blacklistToken fun _ hw => hw) (fun _ _ hw => hw) happenings le_rfl

/-- The calls of `blacklist_token` include these, and later ones. -/
def Extends (bs : List Blacklisting) (w : World) : Prop := ∃ later, w.blacklistings = later ++ bs

lemma Extends.add {bs : List Blacklisting} (h : Extends bs w) (u : ℤ) (jti : String) (exp : ℤ) :
    Extends bs (w.addBlacklisted cfg u jti exp) := by
  obtain ⟨later, hlater⟩ := h
  exact ⟨⟨w.now, u, jti, exp⟩ :: later, congrArg (List.cons _) hlater⟩

/-- The record of the calls of `blacklist_token` grows. -/
lemma extends_happenings (happenings : List Happening) :
    Extends w.blacklistings (after (Happening.step cfg lib) w happenings) := by
  refine happenings_keep (fun e he w' hw => ?_) (fun u jti exp => keeps_blacklistToken fun _ hw => hw.add u jti exp)
    (fun _ _ hw => hw) happenings ⟨[], rfl⟩
  unfold Extends
  rw [(he.frame w').2.1]
  exact hw

/-! ### The blacklist after revoke-all -/

/-- No time to live that one of these calls of `blacklist_token` set for the user, the latest of them first,
has run out before the next call or before `now`. -/
def NoLapse (cfg : Settings) (userId : ℤ) : Datetime → List Blacklisting → Prop
  | _, [] => True
  | now, b :: bs =>
    if b.userId = userId then
      (0 < cfg.ttl b.time b.exp * second ∧ now ≤ b.time + cfg.ttl b.time b.exp * second) ∧
        NoLapse cfg userId b.time bs
    else NoLapse cfg userId now bs

/-- Then what they blacklisted is kept. -/
lemma NoLapse.holds {now : Datetime} {new old : List Blacklisting} {b : Blacklisting}
    (h : NoLapse cfg userId now new) (hb : b ∈ new) (hid : b.userId = userId) :
    Holds (blacklistMember b.jti b.exp) now (blacklistHistory cfg userId (new ++ old)) := by
  induction new generalizing now with
  | nil => cases hb
  | cons b' bs ih =>
    have hhistory : blacklistHistory cfg userId (b' :: bs ++ old) =
        if b'.userId = userId then b'.change cfg :: blacklistHistory cfg userId (bs ++ old)
        else blacklistHistory cfg userId (bs ++ old) := by
      unfold blacklistHistory
      rw [List.cons_append, List.filter_cons]
      by_cases hid' : b'.userId = userId <;> simp [hid']
    rw [hhistory]
    unfold NoLapse at h
    by_cases hid' : b'.userId = userId
    · rw [if_pos hid'] at h ⊢
      refine ⟨h.1, ?_⟩
      rcases List.mem_cons.1 hb with rfl | hb
      · exact .inl rfl
      · exact .inr (ih h.2 hb)
    · rw [if_neg hid'] at h ⊢
      rcases List.mem_cons.1 hb with rfl | hb
      · exact absurd hid hid'
      · exact ih h hb

/-- The session of the token is in the index, and its hash is there and gives it at least the life of the
token. -/
def Listed (userId : ℤ) (w : World) (token : Token) : Prop :=
  ∃ jti info exp, token.claims.jti = some jti ∧ jti ≠ "" ∧ ':' ∉ jti.toList ∧ jti ∈ w.indexed userId ∧
    w.redis.sessionMeta.get w.now (userId, jti) = some info ∧ pyInt info.expiresAt = .ok exp ∧
      token.claims.exp ≤ exp

/-- **What revoke-all does**: it blacklists the listed tokens. -/
theorem blacklisted_revokeAll (userId : ℤ) (henabled : cfg.jwtBlacklistEnabled = true) (hnumeric : Numeric w) :
    ∃ made, ((revokeAllUserSessions cfg userId).exec serve () w).world.blacklistings = made ++ w.blacklistings ∧
      ∀ token, Listed userId w token → ∃ b ∈ made, b.userId = userId ∧ token.claims.jti = some b.jti ∧
        b.jti ≠ "" ∧ ':' ∉ b.jti.toList ∧ token.claims.exp ≤ b.exp := by
  have hlegible : Legible userId (w.indexed userId) w := fun jti _ info hget => hnumeric.get hget
  obtain ⟨w', hexec, -, made, hmade, hall⟩ := revokeMembers_index henabled hlegible
  obtain ⟨r, hworld, -⟩ := world_revokeAllUserSessions henabled hexec
  rw [hworld]
  refine ⟨made, hmade, fun token htoken => ?_⟩
  obtain ⟨jti, info, exp, hjti, hne, hcolon, hin, hget, hexp, hle⟩ := htoken
  obtain ⟨exp', htext⟩ := hnumeric.get hget
  rw [htext, pyInt_toString] at hexp
  obtain rfl := Except.ok.inj hexp
  exact ⟨⟨w.now, userId, jti, exp'⟩, hall jti hin info exp' hget htext, rfl, hjti, hne, hcolon, hle⟩

/-! ### Revoke-all in a run -/

/-- A world in which nothing has been revoked and no session stored yet. -/
structure Fresh (w : World) : Prop where
  blacklist : ∀ userId, w.redis.blacklist.get w.now userId = none
  blacklistings : w.blacklistings = []
  sessionMeta : ∀ key, w.redis.sessionMeta key = none

/-- The token is an access or refresh token of the user. -/
def Token.Of (userId : ℤ) (token : Token) : Prop :=
  pyInt token.claims.sub = .ok userId ∧
    (token.claims.purpose = Purpose.access.claim ∨ token.claims.purpose = Purpose.refresh.claim)

/-- Every token of the user that was issued and has not expired is listed. -/
def Covered (userId : ℤ) (w : World) : Prop :=
  ∀ token ∈ w.issued, token.Of userId → timestamp w.now ≤ token.claims.exp → Listed userId w token

/-- The entry point asks the blacklist, or does not take the token anyway. -/
def EntryPoint.Asks (cfg : Settings) (client : Client) (w : World) (token : Token) : EntryPoint → Prop
  | .currentUser => True
  | .refresh => ¬∃ userId user, EntryPoint.Knows cfg client w token .refresh userId user ∧ user.isActive = true ∧
      (cfg.algorithm = .hs256 → token.claims.purpose = Purpose.refresh.claim)
  | .graphql | .websocket => False

/-- A token whose blacklisting has not lapsed does not get in where the blacklist is asked. -/
lemma not_authenticates {e : EntryPoint} (henabled : cfg.jwtBlacklistEnabled = true)
    (htracked : ∀ userId, Tracked cfg userId w) (hasks : e.Asks cfg client w token)
    (hrevoked : Revoked w token) (hlisted : timestamp w.now ≤ token.claims.exp → StillListed cfg w token) :
    ¬e.Authenticates cfg client w token := by
  intro hauth
  cases e with
  | currentUser =>
    obtain ⟨hfree, userId, user, hknows, -⟩ := currentUser_authenticates.1 hauth
    exact isRevoked_of_listed henabled htracked (hlisted hknows.1.2.2.2) hrevoked hfree
  | refresh => exact hasks (refresh_authenticates hauth)
  | graphql => exact hasks
  | websocket => exact hasks

namespace Sample

/-- Bob logs in at second 1000. -/
def login : List Happening := [.request (.login {} "bob@example.com" "secret")]

def loggedIn : World := after (Happening.step settings libraries) bobsWorld login

/-- All his tokens are revoked. -/
def loggedOut : World := ((revokeAllUserSessions settings 2).exec serve () loggedIn).world

/-- The tokens of the login. -/
def bobsAccess : Token := ⟨some .hs256, some .secret, ⟨"2", 2800, some 1000, some "0", none⟩⟩

def bobsRefresh : Token := ⟨some .hs256, some .secret, ⟨"2", 605800, some 1000, some "1", some "refresh"⟩⟩

lemma issued_loggedIn : loggedIn.issued = [bobsRefresh, bobsAccess] := by decide +kernel

end Sample

open Sample in
/-- Both are listed before. -/
lemma Sample.covered_loggedIn : Covered 2 loggedIn := by
  intro token htoken _ _
  rw [issued_loggedIn] at htoken
  rcases List.mem_cons.1 htoken with rfl | htoken
  · exact ⟨"1", ⟨"1", "refresh", "", "", "1000", "605800", "2"⟩, 605800, rfl, by decide, by decide,
      by decide +kernel, by rfl, by rfl, le_rfl⟩
  · obtain rfl := List.mem_singleton.1 htoken
    exact ⟨"0", ⟨"0", "access", "", "", "1000", "2800", "2"⟩, 2800, rfl, by decide, by decide,
      by decide +kernel, by rfl, by rfl, le_rfl⟩

open Sample in
/-- The calls of `blacklist_token` that revoke-all makes. -/
def Sample.revocationsOfBob : List Blacklisting :=
  [⟨1000 * second, 2, "0", 2800⟩, ⟨1000 * second, 2, "1", 605800⟩]

end FastapiTemplate.Identity
