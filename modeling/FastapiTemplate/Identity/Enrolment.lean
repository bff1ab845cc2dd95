import FastapiTemplate.Identity.ApiKeys
import FastapiTemplate.Python.Base32

/-!
# Setting up a second factor

The secret that `generate_totp_secret` returns is forty digits in base 16, but the verifier reads it as base32 and the
column takes 32 characters. So no secret can be stored (`never_enrols`), no sequence of requests turns the second factor
on (`never_enabled`), and a secret would be of use only if none of its digits is a 0, a 1, an 8 or a 9 (`usable_iff`).
-/

namespace FastapiTemplate.Identity

open Python Store

/-- `settings.TOTP_*` -/
structure TotpSettings where
  totpIssuerName : String := "FastAPI Async Template"
  totpCodeExpireSeconds : ℤ := 30
  totpCodeLength : ℤ := 6
  totpBackupCodeCount : ℕ := 8

/-- A `pyotp.TOTP`, or what an authenticator knows of it. -/
structure Totp where
  secret : String
  interval : ℤ := 30
  digits : ℤ := 6
  deriving DecidableEq

/-- What of pyotp is not in `Libraries`: the text of a provisioning URI. -/
abbrev ProvisioningUri : Type := Totp → (name issuerName : String) → Except BuiltinError String

/-- The width of the column `totp_secret`, in the model and in migration 011. -/
def totpSecretWidth : ℕ := 32

/-! ### The secret -/

variable (cfg : TotpSettings) (lib : Libraries) (provisioningUri : ProvisioningUri)

def generateTotpSecret (random : TokenHex 20) : String := String.ofList (random.val.toList.map Char.toUpper)

/-- The `pyotp.TOTP` of a secret. -/
def totpOf (secret : String) : Totp where
  secret := secret
  interval := cfg.totpCodeExpireSeconds
  digits := cfg.totpCodeLength

def getTotpUri (secret email : String) : Except BuiltinError String :=
  provisioningUri (totpOf cfg secret) email cfg.totpIssuerName

/-! ### The endpoints -/

/-- A row of `users`, with the column that only these endpoints write. -/
structure Account extends User where
  totpVerifiedAt : Option Datetime := none

instance : Keyed Account where
  key r := r.id
  withKey k r := { r with id := k }
  key_withKey _ _ := rfl

/-- The users, the audit log, the clock and the random generator. -/
structure TotpWorld where
  now : Datetime
  table : Table Account
  log : List AuthAuditLog := []
  tokens : ℕ → (n : ℕ) → TokenHex n
  drawn : ℕ := 0

inductive TotpExn where
  | http (statusCode : ℕ) (detail : String)
  | builtin (e : BuiltinError)
  | dataError
  deriving DecidableEq

/-- `db.commit()` of a changed row; PostgreSQL takes no text that is longer than its column. -/
def TotpWorld.commit (row : Account) (w : TotpWorld) : Except TotpExn Unit × TotpWorld :=
  if row.totpSecret.any fun secret => totpSecretWidth < secret.length then (.error .dataError, w)
  else (.ok (), { w with table := w.table.put row })

structure TOTPEnableResponse where
  secret : String
  uri : String
  backupCodes : List String

/-- The loop of `generate_backup_codes`. -/
def generateBackupCodes : ℕ → TotpWorld → List String × TotpWorld
  | 0, w => ([], w)
  | count + 1, w =>
    let code := String.ofList ((w.tokens w.drawn 5).val.toList.map Char.toUpper)
    let (codes, w) := generateBackupCodes count { w with drawn := w.drawn + 1 }
    (code :: codes, w)

def enableTotp (currentUser : Account) (w : TotpWorld) : Except TotpExn TOTPEnableResponse × TotpWorld :=
  if currentUser.totpEnabled then (.error (.http 400 "TOTP is already enabled"), w)
  else
    let secret := generateTotpSecret (w.tokens w.drawn 20)
    let w := { w with drawn := w.drawn + 1 }
    match getTotpUri cfg provisioningUri secret currentUser.email with
    | .error e => (.error (.builtin e), w)
    | .ok uri =>
      let (rawCodes, w) := generateBackupCodes cfg.totpBackupCodeCount w
      let hashedCodes := ",".intercalate (rawCodes.map (hashBackupCode lib))
      let changed :=
        { currentUser with totpSecret := some secret, backupCodes := some hashedCodes, totpEnabled := false }
      match w.commit changed with
      | (.error e, w) => (.error e, w)
      | (.ok (), w) => (.ok { secret := secret, uri := uri, backupCodes := rawCodes }, w)

/-- An entry of the audit log for a user. -/
def Account.entry (eventType : String) (row : Account) : AuthAuditLog where
  eventType := eventType
  userId := some row.id
  tenantId := row.tenantId

def verifyEnableTotp (code : String) (currentUser : Account) (w : TotpWorld) : Except TotpExn Unit × TotpWorld :=
  if currentUser.totpEnabled then (.error (.http 400 "TOTP is already enabled"), w)
  else if currentUser.totpSecret.getD "" = "" then
    (.error (.http 400 "No pending TOTP setup. Call POST /totp/enable first."), w)
  else
    match lib.totp (currentUser.totpSecret.getD "") code w.now with
    | .error e => (.error (.builtin e), w)
    | .ok false => (.error (.http 400 "Invalid TOTP code"), w)
    | .ok true =>
      match w.commit { currentUser with totpEnabled := true, totpVerifiedAt := some w.now } with
      | (.error e, w) => (.error e, w)
      | (.ok (), w) => (.ok (), { w with log := w.log ++ [currentUser.entry "mfa_enroll"] })

def disableTotp (password : String) (currentUser : Account) (w : TotpWorld) : Except TotpExn Unit × TotpWorld :=
  if !currentUser.totpEnabled then (.error (.http 400 "TOTP is not currently enabled"), w)
  else
    match verifyPassword lib password currentUser.hashedPassword with
    | .error e => (.error (.builtin e), w)
    | .ok false => (.error (.http 400 "Invalid password"), w)
    | .ok true =>
      let changed :=
        { currentUser with totpSecret := none, totpEnabled := false, totpVerifiedAt := none, backupCodes := none }
      match w.commit changed with
      | (.error e, w) => (.error e, w)
      | (.ok (), w) => (.ok (), { w with log := w.log ++ [currentUser.entry "mfa_disable"] })

/-! ### What the secret is for -/

/-- The code of RFC 4226 for a key, a counter and a number of digits. -/
abbrev Hotp : Type := List UInt8 → ℤ → ℤ → String

variable (hotp : Hotp)

/-- The key of a secret: it is padded, and read as base32. -/
def byteSecret (secret : String) : Except BuiltinError (List UInt8) :=
  b32decode true (secret ++ String.ofList (paddingFor secret.length))

/-- The number of the interval that a time is in. -/
def timecode (interval : ℤ) (now : Datetime) : ℤ := now / (interval * second)

/-- The parameters of a provisioning URI, as an authenticator reads them. -/
def readUri (uri : String) : Option Totp := do
  let (_, query) ← cut '?' uri
  let fields := (split '&' query).filterMap (cut '=')
  let secret ← fields.lookup "secret"
  let digits ← (pyInt ((fields.lookup "digits").getD "6")).toOption
  let interval ← (pyInt ((fields.lookup "period").getD "30")).toOption
  some { secret := secret, interval := interval, digits := digits }

/-- The code that an authenticator shows for a URI. -/
def authenticatorCode (uri : String) (now : Datetime) : Option String := do
  let totp ← readUri uri
  let key ← (byteSecret totp.secret).toOption
  some (hotp key (timecode totp.interval now) totp.digits)

/-- The text is made of letters and digits. -/
def isAlnum (s : String) : Bool := s.toList.all Char.isAlphanum

/-- What the code relies on of pyotp. -/
structure Pyotp (cfg : TotpSettings) (lib : Libraries) (provisioningUri : ProvisioningUri) (hotp : Hotp) : Prop where
  /-- An authenticator reads from the URI what it was made of. -/
  carries {secret : String} (hsecret : isAlnum secret = true) (email : String) :
    ∃ uri, getTotpUri cfg provisioningUri secret email = .ok uri ∧ readUri uri = some (totpOf cfg secret)
  /-- A code is right if it is that of the interval, or of the one before or after it. -/
  verify_ok {secret : String} {key : List UInt8} (hkey : byteSecret secret = .ok key) (code : String) {now : Datetime}
    (hnow : 1 ≤ timecode cfg.totpCodeExpireSeconds now) :
    ∃ valid, lib.totp secret code now = .ok valid ∧
      ∀ i ∈ [-1, 0, 1], code = hotp key (timecode cfg.totpCodeExpireSeconds now + i) cfg.totpCodeLength → valid = true
  /-- A secret that is not base32 is refused. -/
  verify_error {secret : String} {e : BuiltinError} (hkey : byteSecret secret = .error e) (code : String)
    (now : Datetime) : lib.totp secret code now = .error e

/-- The secret is base32, its URI can be built, it can be verified against, and the code that an authenticator computes
from the URI is accepted. -/
structure Usable (random : TokenHex 20) (email : String) (now : Datetime) : Prop where
  base32 : IsBase32 (generateTotpSecret random)
  verifies (code : String) : ∃ valid, lib.totp (generateTotpSecret random) code now = .ok valid
  accepted : ∃ uri code, getTotpUri cfg provisioningUri (generateTotpSecret random) email = .ok uri ∧
    authenticatorCode hotp uri now = some code ∧ lib.totp (generateTotpSecret random) code now = .ok true

/-- **An enrolment that works**: the secret is usable, and fits its column. -/
structure Enrols (random : TokenHex 20) (email : String) (now : Datetime) : Prop
    extends Usable cfg lib provisioningUri hotp random email now where
  fits : (generateTotpSecret random).length ≤ totpSecretWidth

/-- No digit is one that base32 lacks. -/
def NoForeignDigit (random : TokenHex 20) : Prop := ∀ c ∈ random.val.toList, c ∉ ['0', '1', '8', '9']

section Secrets

variable {cfg lib provisioningUri hotp} {random : TokenHex 20} {email : String} {now : Datetime}

lemma toList_generateTotpSecret : (generateTotpSecret random).toList = random.val.toList.map Char.toUpper :=
  String.toList_ofList

@[simp] lemma length_generateTotpSecret : (generateTotpSecret random).length = 40 := by
  rw [← String.length_toList, toList_generateTotpSecret, List.length_map, String.length_toList, random.property.1]

lemma isAlnum_generateTotpSecret : isAlnum (generateTotpSecret random) = true := by
  have hdigits : (hexAlphabet.all fun c => c.toUpper.isAlphanum) = true := by decide
  unfold isAlnum
  rw [toList_generateTotpSecret, List.all_map]
  exact List.all_eq_true.2 (of_isHex random.property.2 hdigits)

/-- Forty characters need no padding. -/
lemma byteSecret_generateTotpSecret :
    byteSecret (generateTotpSecret random) = b32decode true (generateTotpSecret random) := by
  unfold byteSecret
  rw [length_generateTotpSecret]
  exact congrArg _ (String.append_empty)

lemma isBase32_of_noForeignDigit (h : NoForeignDigit random) : IsBase32 (generateTotpSecret random) := by
  have hdigits : (hexAlphabet.all fun c =>
      ['0', '1', '8', '9'].contains c || base32Alphabet.contains c.toUpper) = true := by decide
  refine isBase32_of_forall (fun c hc => ?_) (by simp)
  rw [toList_generateTotpSecret] at hc
  obtain ⟨d, hd, rfl⟩ := List.mem_map.1 hc
  rcases Bool.or_eq_true_iff.1 (of_isHex random.property.2 hdigits d hd) with hforeign | hdigit
  · exact absurd (List.contains_iff_mem.1 hforeign) (h d hd)
  · exact List.contains_iff_mem.1 hdigit

lemma byteSecret_of_foreignDigit (h : ¬NoForeignDigit random) :
    byteSecret (generateTotpSecret random) = .error .valueError := by
  have hall : (['0', '1', '8', '9'].all fun c =>
      c.toUpper.toUpper != '=' && !base32Alphabet.contains c.toUpper.toUpper) = true := by decide
  have hdigits : ∀ c ∈ ['0', '1', '8', '9'], c.toUpper.toUpper ≠ '=' ∧ c.toUpper.toUpper ∉ base32Alphabet :=
    fun c hc => by simpa using List.all_eq_true.1 hall c hc
  unfold NoForeignDigit at h
  push Not at h
  obtain ⟨c, hc, hforeign⟩ := h
  rw [byteSecret_generateTotpSecret]
  refine b32decode_of_foreign ?_ (hdigits c hforeign).1 (hdigits c hforeign).2
  rw [toList_generateTotpSecret]
  exact List.mem_map_of_mem (List.mem_map_of_mem hc)

/-- **When a secret is usable**: no digit is a 0, a 1, an 8 or a 9. -/
theorem usable_iff (h : Pyotp cfg lib provisioningUri hotp) (hnow : 1 ≤ timecode cfg.totpCodeExpireSeconds now) :
    Usable cfg lib provisioningUri hotp random email now ↔ NoForeignDigit random := by
  constructor
  · intro husable
    by_contra hforeign
    obtain ⟨valid, hvalid⟩ := husable.verifies ""
    rw [h.verify_error (byteSecret_of_foreignDigit hforeign)] at hvalid
    cases hvalid
  · intro hdigits
    have hbase32 := isBase32_of_noForeignDigit hdigits
    obtain ⟨key, hkey⟩ := hbase32
    have hdecode : byteSecret (generateTotpSecret random) = .ok key := by
      rw [byteSecret_generateTotpSecret, b32decode_of_eq hkey]
    have halnum : isAlnum (generateTotpSecret random) = true := isAlnum_generateTotpSecret
    obtain ⟨uri, huri, hread⟩ := h.carries halnum email
    have hshown : authenticatorCode hotp uri now =
        some (hotp key (timecode cfg.totpCodeExpireSeconds now) cfg.totpCodeLength) := by
      unfold authenticatorCode
      rw [hread]
      simp [totpOf, hdecode, Except.toOption]
    obtain ⟨valid, hvalid, haccepts⟩ := h.verify_ok hdecode _ hnow
    refine ⟨⟨key, hkey⟩, fun code => ?_, uri, _, huri, hshown, ?_⟩
    · obtain ⟨valid, hvalid, -⟩ := h.verify_ok hdecode code hnow
      exact ⟨valid, hvalid⟩
    · rw [hvalid, haccepts 0 (by decide) (by rw [add_zero])]

/-- **No secret works**: it does not fit its column. It would be of use if no digit were a 0, a 1, an 8 or a 9, from the
second interval of 1970 on. -/
theorem never_enrols (h : Pyotp cfg lib provisioningUri hotp) (random : TokenHex 20) (email : String) (now : Datetime) :
    ¬Enrols cfg lib provisioningUri hotp random email now ∧
      (1 ≤ timecode cfg.totpCodeExpireSeconds now →
        (Usable cfg lib provisioningUri hotp random email now ↔ NoForeignDigit random)) := by
  constructor
  · intro henrols
    have hfits := henrols.fits
    rw [length_generateTotpSecret] at hfits
    exact absurd hfits (by decide)
  · exact usable_iff h

end Secrets

/-! ### Sequences of requests -/

/-- A request of a user, or time going by. -/
inductive TotpCall where
  | enable (userId : ℤ)
  | verifyEnable (userId : ℤ) (code : String)
  | disable (userId : ℤ) (password : String)
  | wait (time : ℕ)

/-- `get_current_user`, before the endpoint runs. -/
def TotpWorld.asUser (userId : ℤ) (endpoint : Account → TotpWorld → TotpWorld) (w : TotpWorld) : TotpWorld :=
  match w.table.get? userId with
  | none => w
  | some currentUser => endpoint currentUser w

/-- What the request does to the world. -/
def TotpCall.step (cfg : TotpSettings) (lib : Libraries) (provisioningUri : ProvisioningUri) :
    TotpCall → TotpWorld → TotpWorld
  | .enable userId, w => w.asUser userId fun currentUser w => (enableTotp cfg lib provisioningUri currentUser w).2
  | .verifyEnable userId code, w => w.asUser userId fun currentUser w => (verifyEnableTotp lib code currentUser w).2
  | .disable userId password, w => w.asUser userId fun currentUser w => (disableTotp lib password currentUser w).2
  | .wait time, w => { w with now := w.now + time }

section Runs

variable {cfg lib provisioningUri} {w : TotpWorld} {row : Account}

lemma commit_eq (h : row.totpSecret.any (fun secret => totpSecretWidth < secret.length) = true) :
    w.commit row = (.error .dataError, w) := if_pos h

/-- The codes are drawn, and the table stays. -/
lemma table_generateBackupCodes (count : ℕ) (w : TotpWorld) : (generateBackupCodes count w).2.table = w.table := by
  induction count generalizing w with
  | zero => rfl
  | succ count ih => exact ih _

/-- `enable_totp` stores nothing, whatever is drawn. -/
lemma table_enableTotp : (enableTotp cfg lib provisioningUri row w).2.table = w.table := by
  unfold enableTotp
  split
  · rfl
  dsimp only
  split
  · rfl
  · rw [commit_eq (by simp [totpSecretWidth])]
    exact table_generateBackupCodes _ _

/-- Without a secret there is nothing to confirm. -/
lemma verifyEnableTotp_eq (code : String) (h : row.totpSecret = none) : (verifyEnableTotp lib code row w).2 = w := by
  unfold verifyEnableTotp
  rw [h]
  split <;> rfl

/-- Without a second factor there is nothing to turn off. -/
lemma disableTotp_eq (password : String) (h : row.totpEnabled = false) : (disableTotp lib password row w).2 = w := by
  unfold disableTotp
  rw [h]
  rfl

lemma table_asUser {userId : ℤ} {endpoint : Account → TotpWorld → TotpWorld}
    (h : ∀ row ∈ w.table.rows, (endpoint row w).table = w.table) : (w.asUser userId endpoint).table = w.table := by
  unfold TotpWorld.asUser
  split
  · rfl
  · rename_i currentUser hrow
    exact h currentUser (Table.get?_eq_some.1 hrow).1

/-- One request changes no row, as long as nobody has a secret or a second factor. -/
lemma table_step (h : ∀ row ∈ w.table.rows, row.totpSecret = none ∧ row.totpEnabled = false) (call : TotpCall) :
    (call.step cfg lib provisioningUri w).table = w.table := by
  cases call with
  | enable userId => exact table_asUser fun row hrow => table_enableTotp
  | verifyEnable userId code => exact table_asUser fun row hrow => by rw [verifyEnableTotp_eq code (h row hrow).1]
  | disable userId password => exact table_asUser fun row hrow => by rw [disableTotp_eq password (h row hrow).2]
  | wait time => rfl

/-- **No sequence of requests turns a second factor on**: the table stays as it is. -/
theorem never_enabled (h : ∀ row ∈ w.table.rows, row.totpSecret = none ∧ row.totpEnabled = false)
    (calls : List TotpCall) :
    (calls.foldl (fun w call => call.step cfg lib provisioningUri w) w).table = w.table := by
  induction calls generalizing w with
  | nil => rfl
  | cons call calls ih =>
    have hstep : (call.step cfg lib provisioningUri w).table = w.table := table_step h call
    rw [List.foldl_cons, ih (hstep ▸ h), hstep]

end Runs

namespace Sample

/-- The random bytes are all 162. -/
def usableBytes : TokenHex 20 := ⟨"a2a2a2a2a2a2a2a2a2a2a2a2a2a2a2a2a2a2a2a2", by decide +kernel⟩

/-- The random bytes are all 0. -/
def zeroBytes : TokenHex 20 := ⟨"0000000000000000000000000000000000000000", by decide +kernel⟩

/-- The key of the usable secret. -/
def usableKey : List UInt8 := (List.replicate 5 [6, 129, 160, 104, 26]).flatten

/-- The codes of that key around a time. -/
def usableCode (key : List UInt8) (counter digits : ℤ) : String :=
  if key = usableKey ∧ digits = 6 then
    match counter with
    | 56666665 => "759224"
    | 56666666 => "908744"
    | 56666667 => "835364"
    | _ => ""
  else ""

/-- The URI of a secret, with the label of one user. -/
def uriOf (totp : Totp) (name _issuerName : String) : Except BuiltinError String :=
  let label := if name = "ada@example.com" then "FastAPI%20Async%20Template:ada%40example.com" else ""
  .ok ("otpauth://totp/" ++ label ++ "?" ++ ("secret=" ++ totp.secret ++ "&" ++ "issuer=FastAPI%20Async%20Template"))

/-- The verifier for those codes. -/
def verifier : Libraries :=
  { libraries with
    totp := fun secret code now => do
      let key ← byteSecret secret
      return [-1, 0, 1].any fun i => code == usableCode key (timecode 30 now + i) 6 }

lemma cut_uri {label query : String} (h : '?' ∉ label.toList) :
    cut '?' ("otpauth://totp/" ++ label ++ "?" ++ query) = some ("otpauth://totp/" ++ label, query) :=
  cut_append (by simp [h])

lemma split_query {secret : String} (h : isAlnum secret = true) :
    split '&' ("secret=" ++ secret ++ "&" ++ "issuer=FastAPI%20Async%20Template") =
      ["secret=" ++ secret, "issuer=FastAPI%20Async%20Template"] := by
  have hsecret : '&' ∉ ("secret=" ++ secret).toList := by
    have hand : '&' ∉ secret.toList := fun hmem => absurd (List.all_eq_true.1 h '&' hmem) (by decide)
    simp [hand]
  have hissuer : split '&' "issuer=FastAPI%20Async%20Template" = ["issuer=FastAPI%20Async%20Template"] :=
    split_of_notMem (by decide)
  rw [← hissuer]
  exact split_append hsecret

lemma readUri_uriOf {secret : String} (h : isAlnum secret = true) (email : String) :
    ∃ uri, getTotpUri {} uriOf secret email = .ok uri ∧ readUri uri = some (totpOf {} secret) := by
  refine ⟨_, rfl, ?_⟩
  have hfield : cut '=' ("secret=" ++ secret) = some ("secret", secret) := by
    have hcut : cut '=' ("secret" ++ String.singleton '=' ++ secret) = some ("secret", secret) := cut_append (by decide)
    exact hcut
  have hissuer : cut '=' "issuer=FastAPI%20Async%20Template" = some ("issuer", "FastAPI%20Async%20Template") := by
    decide +kernel
  unfold readUri
  rw [cut_uri (by split <;> decide)]
  simp only [totpOf, split_query h, List.filterMap_cons, List.filterMap_nil, hfield, hissuer, Option.bind_eq_bind,
    Option.bind_some]
  rw [show List.lookup "secret" [("secret", secret), ("issuer", "FastAPI%20Async%20Template")] = some secret from rfl,
    show List.lookup "digits" [("secret", secret), ("issuer", "FastAPI%20Async%20Template")] = none from rfl,
    show List.lookup "period" [("secret", secret), ("issuer", "FastAPI%20Async%20Template")] = none from rfl,
    Option.getD_none, Option.getD_none, show pyInt "6" = .ok 6 by decide +kernel,
    show pyInt "30" = .ok 30 by decide +kernel]
  rfl

lemma pyotp : Pyotp {} verifier uriOf usableCode where
  carries h email := readUri_uriOf h email
  verify_ok hkey code _ _ := by
    refine ⟨_, by simp only [verifier, hkey]; rfl, fun i hi hcode => ?_⟩
    exact List.any_eq_true.2 ⟨i, hi, by rw [hcode]; exact beq_self_eq_true _⟩
  verify_error hkey _ _ := by
    simp only [verifier, hkey]
    rfl

end Sample

open Sample in
/-- The secret of one outcome is no base32, is refused by the verifier, and does not fit its column. -/
theorem zeros_not_usable :
    ¬Enrols {} verifier uriOf usableCode zeroBytes "ada@example.com" 1700000000000000 ∧
      generateTotpSecret zeroBytes = "0000000000000000000000000000000000000000" ∧
      (verifier.totp (generateTotpSecret zeroBytes) "000000" 1700000000000000).toOption = none ∧
      totpSecretWidth < (generateTotpSecret zeroBytes).length := by
  refine ⟨fun henrols => ?_, by decide +kernel, by decide +kernel, by simp [totpSecretWidth]⟩
  have hfits := henrols.fits
  rw [length_generateTotpSecret] at hfits
  exact absurd hfits (by decide)

open Sample in
/-- The secret of another outcome is usable, and does not fit its column either. -/
theorem never_enrols_usable :
    ¬Enrols {} verifier uriOf usableCode usableBytes "ada@example.com" 1700000000000000 ∧
      (1 ≤ timecode 30 1700000000000000 →
        (Usable {} verifier uriOf usableCode usableBytes "ada@example.com" 1700000000000000 ↔
          NoForeignDigit usableBytes)) :=
  never_enrols pyotp usableBytes "ada@example.com" 1700000000000000

end FastapiTemplate.Identity
