import FastapiTemplate.Identity.Runtime

/-!
# Users and their credentials

The lookups of `identity.crud.user`, `authenticate_user` of `core.security` with its lockout, and the second
factor of `identity.auth.totp` and `identity.auth.webauthn`. What the libraries under them compute (bcrypt,
TOTP, SHA-256, WebAuthn assertions) is a parameter.
-/

namespace FastapiTemplate.Identity

open Effects Python Store Script

/-- The libraries: bcrypt, pyotp, SHA-256, the verification of a WebAuthn assertion, and the letters and
digits of Unicode. -/
structure Libraries where
  checkpw : (password : ByteArray) → (hash : String) → Except BuiltinError Bool
  hashpw : (password : ByteArray) → (salt : String) → String
  totp : (secret code : String) → Datetime → Except BuiltinError Bool
  sha256 : String → String
  assertion : (challenge publicKey : String) → (signCount : ℤ) → (credential : Value) →
    Except String Unit
  isalnum : Char → Bool

/-- Where a request comes from, and the tenant context it runs in. -/
structure Client where
  ip : Option String := none
  userAgent : Option String := none
  tenant : Option ℤ := none

variable (cfg : Settings) (lib : Libraries) (client : Client)

/-! ### Lookups -/

/-- `scalar_one_or_none` -/
def scalarOneOrNone {α : Type} : List α → Except Exn (Option α)
  | [] => .ok none
  | [a] => .ok (some a)
  | _ => .error .multipleResultsFound

/-- The row belongs to the tenant context, if there is one. -/
def visible (tenant : Option ℤ) (user : User) : Bool :=
  match tenant with
  | none => true
  | some t => user.tenantId == some t

/-- `select(User).where(...)`; the engine adds the tenant of the request. -/
def selectUser (tenant : Option ℤ) (p : User → Bool) : Auth (Option User) := do
  let rows : List User ← perform Eff.users
  ofExcept (scalarOneOrNone (rows.filter fun r => visible tenant r && p r))

def getByEmail (email : String) : Auth (Option User) := selectUser client.tenant fun u => u.email == email

/-- `CRUDBase.get`, which leaves soft-deleted rows out. -/
def getUser (id : ℤ) : Auth (Option User) :=
  selectUser client.tenant fun u => u.id == id && u.deletedAt.isNone

/-- `get_with_roles`, which does not. -/
def getWithRoles (id : ℤ) : Auth (Option User) := selectUser client.tenant fun u => u.id == id

def getByOauth (provider providerId : String) : Auth (Option User) :=
  selectUser client.tenant fun u => u.oauthProvider == some provider && u.oauthProviderId == some providerId

/-- `db.commit()` of a changed user. -/
def saveUser (loaded cur : User) : Auth Unit := do
  let written : Except Exn Unit ← perform (Eff.updateUser loaded cur)
  ofExcept written

/-- `db.commit()` of a new user. -/
def createUser (user : User) : Auth User := do
  let written : Except Exn User ← perform (Eff.insertUser user)
  ofExcept written

/-- The audit entry of an event of the client. -/
def Client.log (eventType : String) (user : Option User) (details : Option Value) : Auth Unit :=
  logAuthEvent
    { eventType := eventType, userId := user.map User.id, tenantId := user.bind User.tenantId,
      ipAddress := client.ip, userAgent := client.userAgent, details := details }

/-! ### Passwords -/

/-- `verify_password`; bcrypt sees the first 72 bytes. -/
def verifyPassword (plain hashed : String) : Except BuiltinError Bool :=
  lib.checkpw (plain.toUTF8.extract 0 72) hashed

/-- `d.isoformat()` of a datetime without time zone. -/
def naiveIsoformat (d : Datetime) : String :=
  String.ofList ((isoformat d).toList.take ((isoformat d).length - 6))

/-- `user.locked_until and user.locked_until > now` -/
def User.locked (user : User) (now : Datetime) : Bool :=
  match user.lockedUntil with
  | some until' => decide (now < until')
  | none => false

/-- The row after a wrong password: one more failed attempt, and a lock once there are enough. -/
def User.failed (user : User) (now : Datetime) : User :=
  if cfg.maxLoginAttempts ≤ (user.failedLoginAttempts + 1 : ℕ) then
    { user with
      failedLoginAttempts := user.failedLoginAttempts + 1
      lockedUntil := some (now + minutes cfg.loginLockoutMinutes) }
  else { user with failedLoginAttempts := user.failedLoginAttempts + 1 }

/-- The row after the right password. -/
def User.succeeded (user : User) (now : Datetime) : User :=
  { user with failedLoginAttempts := 0, lockedUntil := none, lastLoginAt := some now }

/-- What the audit log says of a wrong password. -/
def failureDetails (user : User) (wasLocked : Bool) : Value :=
  .dict ([("failed_attempts", .int user.failedLoginAttempts), ("max_attempts", .int cfg.maxLoginAttempts)] ++
    match wasLocked, user.lockedUntil with
    | true, some until' => [("locked_until", .str (naiveIsoformat until'))]
    | _, _ => [])

/-- What follows a wrong password. -/
def rejectPassword (user : User) (now : Datetime) : Auth Unit := do
  let wasLocked := decide (cfg.maxLoginAttempts ≤ (user.failedLoginAttempts + 1 : ℕ))
  saveUser user (user.failed cfg now)
  client.log (if wasLocked then "account_locked" else "login_failure") (some user)
    (some (failureDetails cfg (user.failed cfg now) wasLocked))

/-- What follows the right password. -/
def acceptPassword (user : User) (now : Datetime) : Auth Unit := do
  saveUser user (user.succeeded now)
  client.log "login_success" (some user) none

def authenticateUser (email password : String) : Auth (Option User) := do
  match ← getByEmail client email with
  | none =>
    client.log "login_failure" none
      (some (.dict [("email", .str email), ("reason", .str "user_not_found")]))
    return none
  | some user =>
    let now ← datetimeNow
    if user.locked now then
      let until' := naiveIsoformat (user.lockedUntil.getD 0)
      client.log "account_locked" (some user) (some (.dict [("locked_until", .str until')]))
      throw (.lockedOut ("Account locked until " ++ until' ++ ". Try again later."))
    else
      let matched ← ofExcept (liftBuiltin (verifyPassword lib password user.hashedPassword))
      let () ← perform (Eff.compared user.id matched)
      if matched then
        acceptPassword client user now
        return some (user.succeeded now)
      else
        rejectPassword cfg client user now
        return none

/-! ### The second factor -/

def verifyTotpCode (secret code : String) : Auth Bool := do
  let now ← datetimeNow
  ofExcept (liftBuiltin (lib.totp secret code now))

def hashBackupCode (code : String) : String := lib.sha256 code

/-- The stored hashes, without the empty ones. -/
def storedHashes (codes : String) : List String := ((split ',' codes).map strip).filter (· != "")

/-- The loop over the stored hashes. -/
def findHash (codeHash : String) : List String → Except BuiltinError (Option String)
  | [] => .ok none
  | stored :: rest => do
    if ← compareDigest codeHash stored then return some stored else findHash codeHash rest

def verifyBackupCode (code : String) (hashedCodes : Option String) : Except BuiltinError (Option String) :=
  match hashedCodes with
  | none => .ok none
  | some codes => if codes = "" then .ok none else findHash (hashBackupCode lib code) (storedHashes codes)

def removeUsedBackupCode (usedHash : String) (storedCodes : Option String) : Option String :=
  match storedCodes with
  | none => none
  | some codes =>
    if codes = "" then none
    else
      let remaining := (storedHashes codes).filter (· != usedHash)
      if remaining = [] then none else some (",".intercalate remaining)

/-- The check of `login_with_totp`: the code, or a backup code, which is used up. -/
def verifySecondFactor (user : User) (secret code : String) : Auth Bool := do
  let valid ← verifyTotpCode lib secret code
  if valid then return true
  else
    match ← ofExcept (liftBuiltin (verifyBackupCode lib code user.backupCodes)) with
    | some usedHash =>
      if usedHash = "" then return false
      else
        saveUser user { user with backupCodes := removeUsedBackupCode usedHash user.backupCodes }
        return true
    | none => return false

/-! ### Passkeys -/

/-- `v == s` -/
def isText (s : String) (v : Value) : Bool :=
  match v with
  | .str s' => s' == s
  | _ => false

/-- The credentials of a user. -/
def selectCredentials (userId : ℤ) : Auth (List WebAuthnCredential) := do
  let rows : List WebAuthnCredential ← perform Eff.credentials
  return rows.filter fun c => c.userId == userId

/-- `begin_authentication`; the challenge is random. -/
def beginAuthentication (userId : ℤ) : Auth String := do
  let creds ← selectCredentials userId
  if creds.isEmpty then throw (.http 400 "No registered passkeys")
  else
    let challenge ← randomText
    let () ← perform (Eff.setPending (toString userId) challenge)
    return challenge

/-- `complete_authentication` -/
def completeAuthentication (userId : ℤ) (credential : Value) : Auth Unit := do
  let pending : Option String ← perform (Eff.popPending (toString userId))
  match pending with
  | none => throw (.http 400 "Authentication session not found")
  | some challenge =>
    let creds ← selectCredentials userId
    if creds.isEmpty then throw (.http 400 "No registered passkeys")
    else
      let credentialId ← ofExcept (liftBuiltin (credential.get "id"))
      if !credentialId.truthy then throw (.http 400 "Missing credential ID in response")
      else
        match creds.find? fun c => isText c.credentialId credentialId with
        | none => throw (.http 400 "Passkey not found for the given credential ID")
        | some cred =>
          match lib.assertion challenge cred.publicKey cred.signCount credential with
          | .ok () => return ()
          | .error e => throw (.http 400 ("Invalid authentication response: " ++ e))

end FastapiTemplate.Identity
