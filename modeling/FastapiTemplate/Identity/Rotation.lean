import FastapiTemplate.Effects.Possible
import FastapiTemplate.Identity.RevokeAll
import Mathlib.Data.Fin.VecNotation
import Mathlib.Tactic.FinCases

/-!
# How often a refresh token can be used

The refresh endpoint revokes the session of the token it is given, and never asks whether that session has
been revoked before. `at_most_one_refresh` is about any number of calls that present one token, interleaved
with each other and with any other code: at most one of them returns new tokens if all the others are turned
away for another reason, because the token has expired or its user is not active.
-/

namespace FastapiTemplate.Identity

open Effects Python Store Script

variable {cfg : Settings} {client : Client} {token : Token} {C : World → Eff → Prop}

/-! ### What a call needs -/

/-- The refresh endpoint can read the token. -/
def Token.Refreshable (cfg : Settings) (token : Token) (now : Datetime) : Prop :=
  token.Readable cfg cfg.payloadKey now ∧ (cfg.algorithm = .hs256 → token.claims.purpose = Purpose.refresh.claim)

instance (now : Datetime) : Decidable (token.Refreshable cfg now) := by
  unfold Token.Refreshable Token.Readable
  infer_instance

lemma may_orUnauthorized {statusCode : ℕ} {detail : String} {p : Auth Claims} {claims : Claims} :
    May serve C (orUnauthorized statusCode detail p) () (.ok claims, ()) ↔
      May serve C p () (.ok claims, ()) := by
  refine may_tryCatch_ok.trans (or_iff_left ?_)
  rintro ⟨e, t, -, hthrow⟩
  split at hthrow
  · cases may_throw.1 hthrow
  · cases may_throw.1 hthrow

/-- `jwt.decode` reads the clock once. -/
lemma may_jwtDecode {key : SigningKey} {claims : Claims}
    (h : May serve C (jwtDecode cfg token key cfg.algorithm) () (.ok claims, ())) :
    ∃ w, C w .now ∧ token.Readable cfg key w.now ∧ claims = token.claims := by
  obtain ⟨now, t, hnow, hcheck⟩ := may_bind_ok.1 h
  obtain ⟨w, hw, hnow⟩ := may_perform.1 hnow
  cases hnow
  obtain ⟨hcheck, -⟩ := Prod.mk.inj (may_ofExcept.1 hcheck)
  obtain ⟨halg, hkey, hsigned, hexp, hclaims⟩ := checkToken_eq_ok.1 hcheck
  exact ⟨w, hw, ⟨halg, hkey, hsigned, hexp⟩, hclaims.symm⟩

lemma may_decodeRefreshToken {claims : Claims}
    (h : May serve C (decodeRefreshToken cfg token) () (.ok claims, ())) :
    ∃ w, C w .now ∧ token.Refreshable cfg w.now ∧ claims = token.claims := by
  cases halg : cfg.algorithm with
  | hs256 =>
    rw [decodeRefreshToken_hs256 halg, may_orUnauthorized] at h
    obtain ⟨c, t, hdecode, hpurpose⟩ := may_bind_ok.1 h
    obtain ⟨w, hw, hread, rfl⟩ := may_jwtDecode hdecode
    unfold checkPurpose at hpurpose
    split at hpurpose
    · rename_i heq
      cases hpurpose
      exact ⟨w, hw, ⟨payloadKey_hs256 halg ▸ hread, fun _ => heq⟩, rfl⟩
    · cases hpurpose
  | rs256 =>
    rw [decodeRefreshToken_rs256 halg, may_orUnauthorized] at h
    obtain ⟨w, hw, hread, rfl⟩ := may_jwtDecode h
    exact ⟨w, hw, ⟨payloadKey_rs256 halg ▸ hread, fun h => nomatch halg.symm.trans h⟩, rfl⟩

/-- The endpoint finds an active user for the subject of the token. -/
def Token.HasActiveUser (client : Client) (w : World) (token : Token) : Prop :=
  ∃ userId user, pyInt token.claims.sub = .ok userId ∧
    ((getUser client userId).exec serve () w).result = .ok (some user) ∧ user.isActive = true

lemma may_getUser {userId : ℤ} {found : Option User} {t : Unit}
    (h : May serve C (getUser client userId) t (.ok found, ())) :
    ∃ w, C w .users ∧ ((getUser client userId).exec serve () w).result = .ok found := by
  obtain ⟨rows, t, hrows, hone⟩ := may_bind_ok.1 h
  obtain ⟨w, hw, hrows⟩ := may_perform.1 hrows
  cases hrows
  obtain ⟨hone, -⟩ := Prod.mk.inj (may_ofExcept.1 hone)
  refine ⟨w, hw, ?_⟩
  unfold getUser
  rw [exec_selectUser]
  exact hone

/-- **What a call needs to return tokens**: some moment at which the token can be read, and some at which
its user is active. -/
theorem may_refresh {pair : TokenPair}
    (h : May serve C (refreshAccessToken cfg client token) () (.ok pair, ())) :
    (∃ w, C w .now ∧ token.Refreshable cfg w.now) ∧ ∃ w, C w .users ∧ token.HasActiveUser client w := by
  obtain ⟨claims, t, hdecode, h⟩ := may_bind_ok.1 h
  obtain ⟨w, hw, hread, rfl⟩ := may_decodeRefreshToken hdecode
  obtain ⟨userId, t, hid, h⟩ := may_bind_ok.1 h
  obtain ⟨hid, -⟩ := Prod.mk.inj (may_ofExcept.1 hid)
  obtain ⟨found, t, hfound, h⟩ := may_bind_ok.1 h
  obtain ⟨w', hw', hfound⟩ := may_getUser hfound
  refine ⟨⟨w, hw, hread⟩, w', hw', ?_⟩
  cases found with
  | none => cases may_throw.1 h
  | some user =>
    cases hactive : user.isActive with
    | true => exact ⟨userId, user, liftBuiltin_eq_ok.1 hid, hfound, hactive⟩
    | false =>
      simp only [hactive, Bool.not_false, if_true] at h
      cases may_throw.1 h

/-! ### Any number of calls -/

variable {ι : Type} [DecidableEq ι]

/-- Programs that share the world: calls of the refresh endpoint and other code. -/
abbrev RefreshPool (ι : Type) : Type := Pool ι Eff Answer World (Except Exn TokenPair × Unit)

/-- The programs with a client are calls of the refresh endpoint that present the token; the others may be
anything. -/
def Presented (cfg : Settings) (token : Token) (client : ι → Option Client) (P : RefreshPool ι) : Prop :=
  ∀ i c, client i = some c → P.procs i = some (refreshAccessToken cfg c token ())

/-- Program `i` has returned tokens. -/
def Granted (P : RefreshPool ι) (i : ι) : Prop := ∃ pair, P.answer? i = some (.ok pair, ())

instance (P : RefreshPool ι) (i : ι) : Decidable (Granted P i) :=
  decidable_of_iff ((P.answer? i).any fun answer => answer.1.isOk) (by
    unfold Granted
    rcases P.answer? i with _ | ⟨_ | pair, _⟩ <;> simp [Except.isOk, Except.toBool])

/-- If the clock is read, the token cannot be read then. -/
def Lapsed (cfg : Settings) (token : Token) : World → Eff → Prop
  | w, .now => ¬token.Refreshable cfg w.now
  | _, _ => True

/-- If the users are read, the subject of the token is none of the active ones then. -/
def Barred (client : Client) (token : Token) : World → Eff → Prop
  | w, .users => ¬token.HasActiveUser client w
  | _, _ => True

instance (w : World) (e : Eff) : Decidable (Lapsed cfg token w e) := by
  unfold Lapsed
  split <;> infer_instance

/-- Along the schedule the call comes too late for the token, or its user is not active. -/
def TurnedAway (cfg : Settings) (token : Token) (client : Client) (P : RefreshPool ι) (ms : List (Move ι))
    (i : ι) : Prop :=
  P.MeetsAt serve i (Lapsed cfg token) ms ∨ P.MeetsAt serve i (Barred client token) ms

lemma TurnedAway.not_granted {P : RefreshPool ι} {ms : List (Move ι)} {i : ι}
    (h : TurnedAway cfg token client P ms i) (hp : P.procs i = some (refreshAccessToken cfg client token ())) :
    ¬Granted (P.run serve ms) i := by
  rintro ⟨pair, hpair⟩
  rcases h with hlapsed | hbarred
  · obtain ⟨p, hp', hmay⟩ := hlapsed.may hpair
    obtain rfl := Option.some.inj (hp.symm.trans hp')
    obtain ⟨⟨w, hw, hread⟩, -⟩ := may_refresh hmay
    exact hw hread
  · obtain ⟨p, hp', hmay⟩ := hbarred.may hpair
    obtain rfl := Option.some.inj (hp.symm.trans hp')
    obtain ⟨-, w, hw, hactive⟩ := may_refresh hmay
    exact hw hactive

/-- **When a refresh token is used at most once**: along a schedule on which all calls that present it but
one are turned away, at most one call returns tokens. -/
theorem at_most_one_refresh (cfg : Settings) (token : Token) (client : ι → Option Client) (P : RefreshPool ι)
    (hcalls : Presented cfg token client P) (ms : List (Move ι))
    (hturned : ∀ i j c c', i ≠ j → client i = some c → client j = some c' →
      TurnedAway cfg token c P ms i ∨ TurnedAway cfg token c' P ms j)
    (i j : ι) (hi : client i ≠ none) (hj : client j ≠ none) (hgranted : Granted (P.run serve ms) i)
    (hgranted' : Granted (P.run serve ms) j) : i = j := by
  obtain ⟨c, hc⟩ := Option.ne_none_iff_exists'.1 hi
  obtain ⟨c', hc'⟩ := Option.ne_none_iff_exists'.1 hj
  by_contra hne
  rcases hturned i j c c' hne hc hc' with h | h
  · exact h.not_granted (hcalls i c hc) hgranted
  · exact h.not_granted (hcalls j c' hc') hgranted'

namespace Sample

/-- A clock beside the calls: eight days go by at once. -/
def eightDays : Auth TokenPair := do
  let () ← perform (Eff.sleep (8 * 86400 * 1000000))
  throw .jwt

/-- Bob presents his refresh token twice; program 2 is the clock. -/
def twice : RefreshPool (Fin 3) where
  world := loggedIn
  procs := ![some (refreshAccessToken settings {} bobsRefresh ()),
    some (refreshAccessToken settings {} bobsRefresh ()), some (eightDays ())]

/-- The clients of the calls. -/
def presenters : Fin 3 → Option Client := ![some {}, some {}, none]

lemma presented_twice : Presented settings bobsRefresh presenters twice := by
  intro i c hc
  fin_cases i
  · obtain rfl := Option.some.inj hc
    rfl
  · obtain rfl := Option.some.inj hc
    rfl
  · cases hc

/-- The one call after the other. -/
def oneByOne : List (Move (Fin 3)) := List.replicate 30 (.step 0) ++ List.replicate 30 (.step 1)

/-- Both calls in turns. -/
def inTurns : List (Move (Fin 3)) := (List.replicate 30 [.step 0, .step 1]).flatten

/-- The one call eight days after the other. -/
def eightDaysLater : List (Move (Fin 3)) := List.replicate 30 (.step 0) ++ .step 2 :: List.replicate 30 (.step 1)

end Sample

open Sample in
/-- Both calls return tokens, whether they run one after the other or at once. -/
theorem refresh_token_reused :
    Presented settings bobsRefresh presenters twice ∧
      (Granted (twice.run serve oneByOne) 0 ∧ Granted (twice.run serve oneByOne) 1) ∧
      (Granted (twice.run serve inTurns) 0 ∧ Granted (twice.run serve inTurns) 1) :=
  ⟨presented_twice, by decide +kernel, by decide +kernel⟩

open Sample in
/-- After eight days the token has expired, and only the first call returns tokens. -/
theorem at_most_one_refresh_expired :
    Granted (twice.run serve eightDaysLater) 0 ∧ ¬Granted (twice.run serve eightDaysLater) 1 := by
  have hfirst : Granted (twice.run serve eightDaysLater) 0 := by decide +kernel
  have hlapsed : twice.MeetsAt serve 1 (Lapsed settings bobsRefresh) eightDaysLater := by decide +kernel
  refine ⟨hfirst, fun hsecond => absurd ?_ (show ¬(0 : Fin 3) = 1 by decide)⟩
  refine at_most_one_refresh settings bobsRefresh presenters twice presented_twice eightDaysLater
    (fun i j c c' hne hi hj => ?_) 0 1 nofun nofun hfirst hsecond
  fin_cases i <;> fin_cases j
  · exact absurd rfl hne
  · obtain rfl := Option.some.inj hj
    exact .inr (.inl hlapsed)
  · cases hj
  · obtain rfl := Option.some.inj hi
    exact .inl (.inl hlapsed)
  · exact absurd rfl hne
  · cases hj
  · cases hi
  · cases hi
  · cases hi

end FastapiTemplate.Identity
