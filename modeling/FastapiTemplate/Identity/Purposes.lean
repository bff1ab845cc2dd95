import FastapiTemplate.Identity.Exec

/-!
# Which decoder accepts which token

Five functions mint tokens and six entry points and decoders take them. Two things keep a token away from
the others' decoders: the key it is signed with, and the `purpose` claim where the decoder compares it.
`decodeAccessToken` and `getCurrentUser` never compare it, and under RS256 the decoders of refresh and
magic-link tokens return before they do. `separated_iff` is the whole table.
-/

namespace FastapiTemplate.Identity

open Effects Python Store Script

/-! ### Minting and decoding as data -/

/-- A call of a minting function. -/
inductive Minting where
  | access (subject : String) (expiresDelta : Option Timedelta)
  | refresh (subject : String)
  | magicLink (email : String)
  | emailVerify (userId : ℤ)
  | totpChallenge (userId : ℤ)

def Minting.purpose : Minting → Purpose
  | .access _ _ => .access
  | .refresh _ => .refresh
  | .magicLink _ => .magicLink
  | .emailVerify _ => .emailVerify
  | .totpChallenge _ => .totpChallenge

def Minting.script (cfg : Settings) : Minting → Auth Token
  | .access subject expiresDelta => createAccessToken cfg subject expiresDelta
  | .refresh subject => createRefreshToken cfg subject
  | .magicLink email => createMagicLinkToken cfg email
  | .emailVerify userId => createVerificationToken cfg userId
  | .totpChallenge userId => createTotpChallengeToken cfg userId

/-- What takes a token. -/
inductive Decoder where
  | access
  | currentUser
  | refresh
  | magicLink
  | verification
  | totpChallenge
  deriving DecidableEq

/-- The purpose a decoder is meant for. -/
def Decoder.purpose : Decoder → Purpose
  | .access | .currentUser => .access
  | .refresh => .refresh
  | .magicLink => .magicLink
  | .verification => .emailVerify
  | .totpChallenge => .totpChallenge

/-- The decoder, its result left out. -/
def Decoder.script (cfg : Settings) (client : Client) (token : Token) : Decoder → Auth Unit
  | .access => do let _claims ← decodeAccessToken cfg token
  | .currentUser => do let _user ← getCurrentUser cfg client token
  | .refresh => do let _claims ← decodeRefreshToken cfg token
  | .magicLink => do let _claims ← decodeMagicLinkToken cfg token
  | .verification => do let _claims ← decodeVerificationToken cfg token
  | .totpChallenge => do let _claims ← decodeTotpChallengeToken cfg token

/-- The decoder returns. -/
def Decoder.Accepts (cfg : Settings) (client : Client) (w : World) (d : Decoder) (token : Token) : Prop :=
  ((d.script cfg client token).exec serve () w).result = .ok ()

/-! ### What keeps tokens apart -/

/-- The key that tokens of the purpose are signed with. -/
def Purpose.key (cfg : Settings) : Purpose → SigningKey
  | .access | .refresh | .magicLink => cfg.payloadKey
  | .emailVerify | .totpChallenge => .secret

/-- The decoder compares the `purpose` claim. -/
def Decoder.compares (cfg : Settings) : Decoder → Prop
  | .access | .currentUser => False
  | .refresh | .magicLink => cfg.algorithm = .hs256
  | .verification | .totpChallenge => True

/-- For `get_current_user`: the subject is the id of an active user, whose blacklist does not have the
token. -/
def Decoder.Knows (cfg : Settings) (client : Client) (w : World) (token : Token) : Decoder → Prop
  | .currentUser => ∃ user, Principal cfg client w token.claims user
  | _ => True

section Lemmas

variable {cfg : Settings} {client : Client} {w : World} {token : Token}

lemma result_discard {α : Type} {p : Auth α} :
    ((p >>= fun _ => pure ()).exec serve () w).result = .ok () ↔
      ∃ a, (p.exec serve () w).result = .ok a := by
  rw [exec_bind]
  rcases p.exec serve () w with ⟨e | a, s, w'⟩
  · exact ⟨nofun, fun ⟨_, h⟩ => nomatch h⟩
  · exact ⟨fun _ => ⟨a, rfl⟩, fun _ => rfl⟩

/-- **What a decoder accepts.** -/
theorem accepts_iff (d : Decoder) :
    d.Accepts cfg client w token ↔ token.Readable cfg (d.purpose.key cfg) w.now ∧
      (d.compares cfg → token.claims.purpose = d.purpose.claim) ∧ d.Knows cfg client w token := by
  cases d with
  | access =>
    refine result_discard.trans ?_
    simp [decodeAccessToken_ok, Decoder.compares, Decoder.Knows, Decoder.purpose, Purpose.key]
  | currentUser =>
    refine result_discard.trans ?_
    simp [getCurrentUser_ok, Decoder.compares, Decoder.Knows, Decoder.purpose, Purpose.key]
  | refresh =>
    refine result_discard.trans ?_
    simp [decodeRefreshToken_ok, Decoder.compares, Decoder.Knows, Decoder.purpose, Purpose.key]
  | magicLink =>
    refine result_discard.trans ?_
    simp [decodeMagicLinkToken_ok, Decoder.compares, Decoder.Knows, Decoder.purpose, Purpose.key]
  | verification =>
    refine result_discard.trans ?_
    simp [decodeVerificationToken_ok, Decoder.compares, Decoder.Knows, Decoder.purpose, Purpose.key]
  | totpChallenge =>
    refine result_discard.trans ?_
    simp [decodeTotpChallengeToken_ok, Decoder.compares, Decoder.Knows, Decoder.purpose, Purpose.key]

/-- A token that `jwt.encode` returns. -/
lemma jwtEncode_ok {claims : Claims} {key : SigningKey} {alg : Algorithm} {s : Unit}
    (h : ((jwtEncode cfg claims key alg).exec serve s w).result = .ok token) :
    canSign cfg alg key = true ∧ token = ⟨some alg, some key, claims⟩ := by
  unfold jwtEncode at h
  split at h
  · rename_i hsign
    exact ⟨hsign, (Except.ok.inj h).symm⟩
  · cases h

/-- The token carries the algorithm, the key and the claim of its purpose. -/
structure Token.MintedFor (cfg : Settings) (p : Purpose) (token : Token) : Prop where
  alg : token.alg = some cfg.algorithm
  signedBy : token.signedBy = some (p.key cfg)
  canSign : canSign cfg cfg.algorithm (p.key cfg) = true
  purpose : token.claims.purpose = p.claim

lemma mintedFor_of_encode {claims : Claims} {p : Purpose} {s : Unit}
    (h : ((jwtEncode cfg claims (p.key cfg) cfg.algorithm).exec serve s w).result = .ok token)
    (hp : claims.purpose = p.claim) : token.MintedFor cfg p := by
  obtain ⟨hsign, rfl⟩ := jwtEncode_ok h
  exact ⟨rfl, rfl, hsign, hp⟩

lemma mintedFor_of_payload {subject : String} {expiresDelta : Option Timedelta} {p : Purpose}
    (hkey : p.key cfg = cfg.payloadKey)
    (h : ((makeJwtPayload cfg subject expiresDelta p >>= signPayload cfg).exec serve () w).result =
      .ok token) : token.MintedFor cfg p := by
  rw [exec_bind] at h
  obtain ⟨claims, hclaims, h⟩ := Outcome.next_result h
  rw [signPayload_eq, ← hkey] at h
  refine mintedFor_of_encode h ?_
  unfold makeJwtPayload at hclaims
  simp only [exec_bind, exec_datetimeNow, Outcome.next_ok, exec_randomText, exec_pure] at hclaims
  exact (Except.ok.inj hclaims) ▸ rfl

/-- **What the minting functions return.** -/
theorem mintedFor (m : Minting) (h : ((m.script cfg).exec serve () w).result = .ok token) :
    token.MintedFor cfg m.purpose := by
  cases m with
  | access subject expiresDelta => exact mintedFor_of_payload rfl h
  | refresh subject => exact mintedFor_of_payload rfl h
  | magicLink email => exact mintedFor_of_payload rfl h
  | emailVerify userId =>
    unfold Minting.script createVerificationToken at h
    simp only [exec_bind, exec_datetimeNow, Outcome.next_ok] at h
    exact mintedFor_of_encode h rfl
  | totpChallenge userId =>
    unfold Minting.script createTotpChallengeToken at h
    simp only [exec_bind, exec_datetimeNow, Outcome.next_ok, exec_randomText] at h
    exact mintedFor_of_encode h rfl

lemma canVerify_of_canSign {alg : Algorithm} {key : SigningKey} (h : canSign cfg alg key = true) :
    canVerify cfg alg key = true := by
  cases key with
  | secret => exact cfg.secretKey.verifies_of_signs alg h
  | generated => exact h

/-- **Which decoder accepts a minted token.** -/
theorem accepts_minted_iff {p : Purpose} (hm : token.MintedFor cfg p) (d : Decoder) :
    d.Accepts cfg client w token ↔ p.key cfg = d.purpose.key cfg ∧
      timestamp w.now ≤ token.claims.exp ∧ (d.compares cfg → p = d.purpose) ∧
      d.Knows cfg client w token := by
  rw [accepts_iff, hm.purpose]
  have hclaim : p.claim = d.purpose.claim ↔ p = d.purpose := ⟨Purpose.claim_injective, congrArg _⟩
  rw [hclaim]
  unfold Token.Readable
  rw [hm.alg, hm.signedBy]
  constructor
  · rintro ⟨⟨-, -, hkey, hexp⟩, hrest⟩
    exact ⟨Option.some.inj hkey, hexp, hrest⟩
  · rintro ⟨hkey, hexp, hrest⟩
    exact ⟨⟨rfl, canVerify_of_canSign (hkey ▸ hm.canSign), congrArg some hkey, hexp⟩, hrest⟩

end Lemmas

/-- **When a minted token is kept to decoders of its own purpose**: if the decoder is one of them, or the
two purposes have different keys, or the token has expired, or the decoder compares the claim, or, for
`get_current_user`, the claims are not those of an active user. -/
theorem separated_iff (cfg : Settings) (client : Client) (m : Minting) (d : Decoder) (w₀ w : World)
    (token : Token) (hmint : ((m.script cfg).exec serve () w₀).result = .ok token) :
    (d.Accepts cfg client w token → d.purpose = m.purpose) ↔
      d.purpose = m.purpose ∨ m.purpose.key cfg ≠ d.purpose.key cfg ∨
        token.claims.exp < timestamp w.now ∨ d.compares cfg ∨ ¬d.Knows cfg client w token := by
  rw [accepts_minted_iff (mintedFor m hmint)]
  constructor
  · intro h
    by_contra hnone
    simp only [not_or, not_not, not_lt] at hnone
    obtain ⟨hne, hkey, hexp, hcompares, hknows⟩ := hnone
    exact hne (h ⟨hkey, hexp, fun hc => absurd hc hcompares, hknows⟩)
  · rintro (h | hkey | hexp | hcompares | hknows) ⟨hkey', hexp', hcompares', hknows'⟩
    · exact h
    · exact absurd hkey' hkey
    · exact absurd hexp (not_lt.2 hexp')
    · exact (hcompares' hcompares).symm
    · exact absurd hknows' hknows

open Sample in
/-- The challenge token of the password step, minted at second 1000 under HS256. -/
def Sample.challenge : Token where
  alg := some .hs256
  signedBy := some .secret
  claims := ⟨"1", 1120, some 1000, some "0", some "totp_challenge"⟩

open Sample in
/-- Under HS256 the challenge token of the password step is accepted as a bearer token. -/
theorem challenge_accepted_as_access :
    (((Minting.totpChallenge 1).script settings).exec serve () world).result = .ok challenge ∧
      Decoder.currentUser.Accepts settings {} world challenge ∧
      Decoder.currentUser.purpose ≠ (Minting.totpChallenge 1).purpose :=
  ⟨by rfl, by rfl, by decide⟩

open Sample in
/-- The table at that token. -/
theorem separated_iff_challenge :
    (((Minting.totpChallenge 1).script settings).exec serve () world).result = .ok challenge ∧
      ((Decoder.currentUser.Accepts settings {} world challenge →
          Decoder.currentUser.purpose = (Minting.totpChallenge 1).purpose) ↔
        Decoder.currentUser.purpose = (Minting.totpChallenge 1).purpose ∨
          (Minting.totpChallenge 1).purpose.key settings ≠ Decoder.currentUser.purpose.key settings ∨
          challenge.claims.exp < timestamp world.now ∨ Decoder.currentUser.compares settings ∨
          ¬Decoder.currentUser.Knows settings {} world challenge) :=
  ⟨by rfl, separated_iff settings {} (.totpChallenge 1) .currentUser world world challenge (by rfl)⟩

end FastapiTemplate.Identity
