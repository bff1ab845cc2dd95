import FastapiTemplate.Effects.Trace
import FastapiTemplate.Identity.Purposes
import FastapiTemplate.Identity.Rotation

/-!
# Backup codes

The hashes of a user's backup codes are one column. A login that uses a code reads the column, takes the hash
out and writes the rest back, in two round trips; a login that did the same in between is undone, or has used
the same code. `backup_codes_one_time` is about every interleaving in which this does not happen.
-/

namespace FastapiTemplate.Identity

open Effects Python Store Script

variable {cfg : Settings} {lib : Libraries} {client : Client} {α β : Type}

/-! ### The stored column -/

/-- The hashes of the column. -/
def hashesOf : Option String → List String
  | none => []
  | some codes => storedHashes codes

lemma storedHashes_intercalate {hashes : List String} (h : ∀ s ∈ hashes, IsHexdigest s) (hne : hashes ≠ []) :
    storedHashes (",".intercalate hashes) = hashes := by
  have hstrip : hashes.map strip = hashes :=
    (List.map_congr_left fun s hs => (h s hs).strip_eq).trans (List.map_id _)
  unfold storedHashes
  rw [split_intercalate (fun s hs => (h s hs).notMem) hne, hstrip, List.filter_eq_self]
  exact fun s hs => bne_iff_ne.2 (h s hs).ne_empty

/-- **To remove a hash** takes it out and leaves the others. -/
theorem hashesOf_removeUsedBackupCode {usedHash : String} {column : Option String}
    (h : ∀ s ∈ hashesOf column, IsHexdigest s) :
    hashesOf (removeUsedBackupCode usedHash column) = (hashesOf column).filter (· != usedHash) := by
  cases column with
  | none => rfl
  | some codes =>
    show _ = (storedHashes codes).filter _
    unfold removeUsedBackupCode
    by_cases hempty : codes = ""
    · rw [hempty]
      rfl
    · dsimp only
      rw [if_neg hempty]
      by_cases hremaining : (storedHashes codes).filter (· != usedHash) = []
      · rw [if_pos hremaining, hremaining]
        rfl
      · rw [if_neg hremaining]
        exact storedHashes_intercalate (fun s hs => h s (List.mem_filter.1 hs).1) hremaining

lemma verifyBackupCode_eq (code : String) (column : Option String) :
    verifyBackupCode lib code column = findHash (hashBackupCode lib code) (hashesOf column) := by
  cases column with
  | none => rfl
  | some codes =>
    unfold verifyBackupCode
    dsimp only
    split
    · rename_i hempty
      rw [hempty]
      rfl
    · rfl

/-- The loop returns the hash itself. -/
lemma findHash_ok {codeHash found : String} {hashes : List String}
    (h : findHash codeHash hashes = .ok (some found)) : found = codeHash ∧ codeHash ∈ hashes := by
  induction hashes with
  | nil => cases h
  | cons stored rest ih =>
    unfold findHash at h
    obtain ⟨same, hsame, h⟩ := bind_eq_ok.1 h
    cases same with
    | true =>
      cases h
      unfold compareDigest at hsame
      split at hsame
      · have heq : codeHash = found := by simpa using hsame
        exact ⟨heq.symm, heq ▸ List.mem_cons_self⟩
      · cases hsame
    | false =>
      obtain ⟨hfound, hmem⟩ := ih h
      exact ⟨hfound, List.mem_cons_of_mem _ hmem⟩

/-- **A stored hash is found.** -/
theorem findHash_of_mem {codeHash : String} {hashes : List String} (hcode : isAscii codeHash = true)
    (hashes_ascii : ∀ s ∈ hashes, isAscii s = true) (hmem : codeHash ∈ hashes) :
    findHash codeHash hashes = .ok (some codeHash) := by
  induction hashes with
  | nil => cases hmem
  | cons stored rest ih =>
    have hcompare : compareDigest codeHash stored = .ok (codeHash == stored) := by
      unfold compareDigest
      rw [hcode, hashes_ascii stored List.mem_cons_self]
      rfl
    unfold findHash
    rw [hcompare]
    show (if (codeHash == stored) = true then Except.ok (some stored) else findHash codeHash rest) = _
    by_cases hsame : codeHash = stored
    · rw [if_pos (beq_iff_eq.2 hsame), hsame]
    · rw [if_neg (by simpa using hsame)]
      exact ih (fun s hs => hashes_ascii s (List.mem_cons_of_mem _ hs)) ((List.mem_cons.1 hmem).resolve_left hsame)

/-! ### Code that writes no user -/

/-- The script writes no user. -/
def Spares (p : Auth α) : Prop := Only Eff.SparesUsers p

namespace Spares

lemma perform {e : Eff} (he : e.SparesUsers) : Spares (Script.perform e : Auth (Answer e)) := Only.perform he

lemma jwtDecode (token : Token) (key : SigningKey) (alg : Algorithm) : Spares (jwtDecode cfg token key alg) :=
  Only.bind (perform trivial) fun _ => Only.ofExcept _

lemma orUnauthorized {statusCode : ℕ} {detail : String} {p : Auth Claims} (hp : Spares p) :
    Spares (orUnauthorized statusCode detail p) := by
  refine Only.tryCatch hp fun e => ?_
  split <;> exact Only.throw _

lemma checkPurpose (purpose : Purpose) (statusCode : ℕ) (claims : Claims) :
    Spares (checkPurpose purpose statusCode claims) := by
  unfold Identity.checkPurpose
  split
  · exact Only.pure _
  · exact Only.throw _

lemma decodeAccessToken (token : Token) : Spares (decodeAccessToken cfg token) := by
  unfold Identity.decodeAccessToken
  rw [readPayload_eq]
  exact orUnauthorized (jwtDecode _ _ _)

lemma decodeRefreshToken (token : Token) : Spares (decodeRefreshToken cfg token) := by
  unfold Identity.decodeRefreshToken decodeWithRs256
  refine orUnauthorized ?_
  split
  · exact jwtDecode _ _ _
  · exact Only.bind (jwtDecode _ _ _) fun _ => checkPurpose _ _ _

/-- Minting. -/
lemma mint (subject : String) (expiresDelta : Option Timedelta) (purpose : Purpose) :
    Spares (makeJwtPayload cfg subject expiresDelta purpose >>= signPayload cfg) := by
  refine Only.bind (Only.bind (perform trivial) fun _ => Only.bind (Only.bind (perform trivial) fun _ =>
    Only.pure _) fun _ => Only.pure _) fun claims => ?_
  rw [signPayload_eq]
  unfold jwtEncode
  split
  · exact Only.bind (perform trivial) fun _ => Only.pure _
  · exact Only.throw _

lemma storeSession (userId : ℤ) (payload : SessionCreatePayload) : Spares (storeSession cfg userId payload) := by
  unfold Identity.storeSession
  split
  · exact Only.pure _
  · exact Only.bind (perform trivial) fun _ => Only.bind (perform trivial) fun _ =>
      Only.bind (perform trivial) fun _ => Only.bind (perform trivial) fun _ => perform trivial

lemma issueTokens (user : User) : Spares (issueTokens cfg client user) := by
  have hcreate : Spares (createTokens cfg user.id) :=
    Only.bind (mint _ _ _) fun _ => Only.bind (mint _ _ _) fun _ => Only.pure _
  have hstore : ∀ pair, Spares (storeTokens cfg client user.id pair) := fun pair =>
    Only.bind (decodeAccessToken _) fun _ => Only.bind (decodeRefreshToken _) fun _ =>
      Only.bind (Only.ofExcept _) fun _ => Only.bind (storeSession _ _) fun _ =>
        Only.bind (Only.ofExcept _) fun _ => storeSession _ _
  exact Only.bind hcreate fun pair => Only.bind (hstore pair) fun _ => Only.pure _

end Spares

/-! ### Logins that run at once -/

/-- A request that completes a login. -/
structure TotpLogin where
  client : Client
  challengeToken : Token
  code : String

/-- The code that the request runs. -/
def TotpLogin.script (cfg : Settings) (lib : Libraries) (r : TotpLogin) : Auth TokenPair :=
  loginWithTotp cfg lib r.client r.challengeToken r.code

/-- The challenge is the user's. -/
def TotpLogin.IsFor (r : TotpLogin) (userId : ℤ) : Prop := pyInt r.challengeToken.claims.sub = .ok userId

/-- The code is right as a TOTP code, for some secret at some time. -/
def TotpLogin.IsTotp (lib : Libraries) (r : TotpLogin) : Prop :=
  ∃ secret t, lib.totp secret r.code t = .ok true

variable {ι : Type} [DecidableEq ι]

/-- Programs that share the world. -/
abbrev TotpPool (ι : Type) : Type := Pool ι Eff Answer World (Except Exn TokenPair × Unit)

/-- The programs with a request run it; the others write no user. -/
structure TotpPool.Serving (cfg : Settings) (lib : Libraries) (requests : ι → Option TotpLogin)
    (P : TotpPool ι) : Prop where
  runs : ∀ i r, requests i = some r → P.procs i = some (r.script cfg lib ())
  spares : ∀ i p, requests i = none → P.procs i = some p →
    p.Follows (Monitor.only Eff.SparesUsers) () fun _ _ => True

/-- The logins that have written the user's row, with the hashes of their codes, in order. -/
def uses (lib : Libraries) (requests : ι → Option TotpLogin) (userId : ℤ) (events : List (Event ι Eff World)) :
    List (ι × String) :=
  events.filterMap fun v =>
    match v.effect with
    | .updateUser _ cur =>
      if cur.id = userId then (requests v.proc).map fun r => (v.proc, lib.sha256 r.code) else none
    | _ => none

/-- The hashes that were used up. -/
def spent (lib : Libraries) (requests : ι → Option TotpLogin) (userId : ℤ) (events : List (Event ι Eff World)) :
    List String := (uses lib requests userId events).map Prod.snd

/-- **One-time backup codes** at the end of a schedule, for a user who had these hashes at its start. -/
structure OneTime (lib : Libraries) (requests : ι → Option TotpLogin) (P : TotpPool ι) (ms : List (Move ι))
    (userId : ℤ) (hashes : List String) : Prop where
  /-- Two logins with one code, which is no TOTP code, are not both completed. -/
  once : ∀ i j r r', i ≠ j → requests i = some r → requests j = some r' → r.IsFor userId → r'.IsFor userId →
    lib.sha256 r.code = lib.sha256 r'.code → ¬r.IsTotp lib → ¬r'.IsTotp lib →
    ¬(Granted (P.run serve ms) i ∧ Granted (P.run serve ms) j)
  /-- A login with a code that is no TOTP code has used up one of the hashes, its own. -/
  known : ∀ i r, requests i = some r → r.IsFor userId → ¬r.IsTotp lib → Granted (P.run serve ms) i →
    lib.sha256 r.code ∈ hashes ∧ lib.sha256 r.code ∈ spent lib requests userId (P.events serve ms)
  /-- The hashes that are stored are those that were not used, and their codes can be used. -/
  kept : ∃ stored, (P.run serve ms).world.users.get? userId = some stored ∧
    hashesOf stored.backupCodes = hashes.filter (· ∉ spent lib requests userId (P.events serve ms)) ∧
    ∀ code, lib.sha256 code ∈ hashes → lib.sha256 code ∉ spent lib requests userId (P.events serve ms) →
      verifyBackupCode lib code stored.backupCodes = .ok (some (lib.sha256 code))

/-- If the user's row is written, it has the backup codes that were loaded. -/
def Current (userId : ℤ) (w : World) : Eff → Prop
  | .updateUser loaded cur =>
    cur.id = userId → ∀ stored ∈ w.users.get? userId, stored.backupCodes = loaded.backupCodes
  | _ => True

instance (userId : ℤ) (w : World) : (e : Eff) → Decidable (Current userId w e)
  | .updateUser loaded cur => inferInstanceAs (Decidable
      (cur.id = userId → ∀ stored ∈ w.users.get? userId, stored.backupCodes = loaded.backupCodes))
  | .now | .sleep _ | .random | .sign _ | .compared _ _ | .blacklisted _ _ _ | .users | .insertUser _
  | .insertAuditLog _ | .credentials | .setPending _ _ | .popPending _ | .redis _ =>
    inferInstanceAs (Decidable True)

/-! ### What a login writes -/

/-- The write takes the request's own hash out of the codes of its user, as they were loaded. -/
def TotpLogin.Uses (lib : Libraries) (r : TotpLogin) (loaded cur : User) : Prop :=
  lib.sha256 r.code ∈ hashesOf loaded.backupCodes ∧ r.IsFor cur.id ∧
    cur = { loaded with backupCodes := removeUsedBackupCode (lib.sha256 r.code) loaded.backupCodes }

/-- The writes of a login. -/
def TotpLogin.Allows (lib : Libraries) (r : TotpLogin) : Eff → Prop
  | .updateUser loaded cur => r.Uses lib loaded cur
  | e => e.SparesUsers

/-- Whether a row was written. -/
def Eff.writes : Eff → Bool
  | .updateUser _ _ => true
  | _ => false

/-- Watches a program for what it writes, and whether it has written. -/
def watchUse (lib : Libraries) (request : Option TotpLogin) : Monitor Eff Answer Bool where
  allows _ e := request.elim e.SparesUsers fun r => r.Allows lib e
  next used e _ := used || e.writes

lemma Eff.SparesUsers.writes_eq {e : Eff} (he : e.SparesUsers) : e.writes = false := by
  cases e <;> first | rfl | exact he.elim

lemma Eff.SparesUsers.allows {e : Eff} (he : e.SparesUsers) (r : TotpLogin) : r.Allows lib e := by
  cases e <;> first | exact he | exact he.elim

section Wp

variable {r : TotpLogin} {used : Bool}

/-- Code that writes no user. -/
lemma Spares.wp {p : Auth α} (hp : Spares p) (used : Bool) :
    Wp (watchUse lib (some r)) p () used (fun _ _ used' => used' = used) fun _ _ _ => True := by
  refine (Only.wp (fun _ e he => he.allows r) (fun used e _ he => ?_) hp () used).mono (fun _ _ _ h => h)
    fun _ _ _ _ => trivial
  show (used || e.writes) = used
  rw [he.writes_eq, Bool.or_false]

lemma wp_decodeChallenge (token : Token) :
    Wp (watchUse lib (some r)) (decodeTotpChallengeToken cfg token) () false
      (fun claims _ used => claims = token.claims ∧ used = false) fun _ _ _ => True := by
  unfold decodeTotpChallengeToken orUnauthorized jwtDecode
  refine wp_bind.2 (wp_tryCatch.2 ?_)
  refine wp_bind.2 ⟨trivial, fun now => (wp_ofExcept _).2 ⟨fun claims hclaims => ?_, fun e _ => ?_⟩⟩
  · obtain ⟨-, -, -, -, rfl⟩ := checkToken_eq_ok.1 hclaims
    unfold checkPurpose
    split
    · exact ⟨rfl, rfl⟩
    · trivial
  · split <;> trivial

lemma wp_getUser (userId : ℤ) :
    Wp (watchUse lib (some r)) (getUser client userId) () false
      (fun found _ used => (∀ user ∈ found, user.id = userId) ∧ used = false) fun _ _ _ => True := by
  unfold getUser selectUser
  refine wp_bind.2 ⟨trivial, fun rows => (wp_ofExcept _).2 ⟨fun found hfound => ⟨fun user huser => ?_, rfl⟩,
    fun _ _ => trivial⟩⟩
  have hmem : user ∈ rows.filter fun u => visible client.tenant u && (u.id == userId && u.deletedAt.isNone) := by
    rw [scalarOneOrNone_eq_some.1 (hfound.trans (congrArg _ huser))]
    exact List.mem_singleton_self user
  obtain ⟨-, huser⟩ := List.mem_filter.1 hmem
  simp only [Bool.and_eq_true, beq_iff_eq] at huser
  exact huser.2.1

lemma wp_verifySecondFactor {user : User} (secret : String) (huser : r.IsFor user.id) :
    Wp (watchUse lib (some r)) (verifySecondFactor lib user secret r.code) () false
      (fun valid _ used => valid = true → used = true ∨ r.IsTotp lib) fun _ _ _ => True := by
  unfold verifySecondFactor verifyTotpCode
  refine wp_bind.2 (wp_bind.2 ⟨trivial, fun now => (wp_ofExcept _).2 ⟨fun valid hvalid => ?_, fun _ _ => trivial⟩⟩)
  cases valid with
  | true => exact fun _ => .inr ⟨secret, now, liftBuiltin_eq_ok.1 hvalid⟩
  | false =>
    rw [if_neg (by decide)]
    refine wp_bind.2 ((wp_ofExcept _).2 ⟨fun found hfound => ?_, fun _ _ => trivial⟩)
    cases found with
    | none => exact fun h => nomatch h
    | some usedHash =>
      rw [liftBuiltin_eq_ok, verifyBackupCode_eq] at hfound
      obtain ⟨rfl, hmem⟩ := findHash_ok hfound
      dsimp only
      split
      · exact fun h => nomatch h
      · -- the code is used up by the write
        refine wp_bind.2 (wp_bind.2 ⟨⟨hmem, huser, rfl⟩, fun written => ?_⟩)
        exact (wp_ofExcept _).2 ⟨fun _ _ _ => .inl rfl, fun _ _ => trivial⟩

/-- **What a login does**: it writes at most its user's row, to use up its code, and it is completed only after
that or with a right TOTP code. -/
theorem wp_script (r : TotpLogin) :
    Wp (watchUse lib (some r)) (r.script cfg lib) () false (fun _ _ used => used = true ∨ r.IsTotp lib)
      fun _ _ _ => True := by
  unfold TotpLogin.script loginWithTotp
  refine wp_bind.2 ((wp_decodeChallenge r.challengeToken).mono ?_ fun _ _ _ h => h)
  rintro _ ⟨⟩ _ ⟨rfl, rfl⟩
  refine wp_bind.2 ((wp_ofExcept _).2 ⟨fun userId hsub => ?_, fun _ _ => trivial⟩)
  refine wp_bind.2 ((wp_getUser userId).mono ?_ fun _ _ _ h => h)
  rintro found ⟨⟩ _ ⟨hfound, rfl⟩
  cases found with
  | none => trivial
  | some user =>
    have huser : r.IsFor user.id := (liftBuiltin_eq_ok.1 hsub).trans (congrArg _ (hfound user rfl).symm)
    dsimp only
    split
    · trivial
    · split
      · trivial
      · refine wp_bind.2 ((wp_verifySecondFactor _ huser).mono ?_ fun _ _ _ h => h)
        rintro valid ⟨⟩ used hvalid
        cases valid with
        | false => trivial
        | true =>
          rw [if_neg (by decide)]
          exact ((Spares.issueTokens user).wp used).mono (fun _ _ _ hused => hused.symm ▸ hvalid rfl) fun _ _ _ h => h

end Wp

/-! ### Every interleaving -/

variable {requests : ι → Option TotpLogin} {userId : ℤ} {hashes : List String}

/-- No hash has been used twice, the others are stored, and every login that has written shows up. -/
structure Accounts (lib : Libraries) (requests : ι → Option TotpLogin) (userId : ℤ) (hashes : List String)
    (past : List (Event ι Eff World)) (w : World) (used : ι → Bool) : Prop where
  nodup : (spent lib requests userId past).Nodup
  known : ∀ h ∈ spent lib requests userId past, h ∈ hashes
  stored : ∃ stored, w.users.get? userId = some stored ∧
    hashesOf stored.backupCodes = hashes.filter (· ∉ spent lib requests userId past)
  written : ∀ i r, requests i = some r → r.IsFor userId → used i = true →
    (i, lib.sha256 r.code) ∈ uses lib requests userId past

omit [DecidableEq ι] in
/-- An effect that does not write the user's row is not counted. -/
lemma uses_append_of_ne {past : List (Event ι Eff World)} {i : ι} {w : World} {e : Eff}
    (he : ∀ loaded cur, e = .updateUser loaded cur → cur.id ≠ userId) :
    uses lib requests userId (past ++ [⟨i, w, e⟩]) = uses lib requests userId past := by
  unfold uses
  rw [List.filterMap_append, List.filterMap_cons_none, List.filterMap_nil, List.append_nil]
  cases e with
  | updateUser loaded cur => exact if_neg (he loaded cur rfl)
  | _ => rfl

omit [DecidableEq ι] in
lemma uses_append_of_write {past : List (Event ι Eff World)} {i : ι} {r : TotpLogin} (hr : requests i = some r)
    (w : World) (loaded cur : User) (hcur : cur.id = userId) :
    uses lib requests userId (past ++ [⟨i, w, .updateUser loaded cur⟩]) =
      uses lib requests userId past ++ [(i, lib.sha256 r.code)] := by
  unfold uses
  rw [List.filterMap_append, List.filterMap_cons_some, List.filterMap_nil]
  show (if cur.id = userId then (requests i).map _ else none) = some _
  rw [if_pos hcur, hr]
  rfl

/-- An effect that does not write the user's row. -/
lemma Accounts.idle {past : List (Event ι Eff World)} {w : World} {used : ι → Bool} {i : ι} {e : Eff}
    (hallows : (watchUse lib (requests i)).allows (used i) e)
    (he : ∀ loaded cur, e = .updateUser loaded cur → cur.id ≠ userId)
    (h : Accounts lib requests userId hashes past w used) :
    Accounts lib requests userId hashes (past ++ [⟨i, w, e⟩]) (serve e w).2
      (Function.update used i ((watchUse lib (requests i)).next (used i) e (serve e w).1)) := by
  have huses : uses lib requests userId (past ++ [⟨i, w, e⟩]) = uses lib requests userId past :=
    uses_append_of_ne he
  have hspent : spent lib requests userId (past ++ [⟨i, w, e⟩]) = spent lib requests userId past :=
    congrArg (List.map Prod.snd) huses
  have hrow : (serve e w).2.users.get? userId = w.users.get? userId := by
    cases e with
    | updateUser loaded cur =>
      show (w.updateUser loaded cur).2.users.get? userId = _
      rcases w.updateUser_cases loaded cur with hsame | ⟨stored, -, hid, hwritten⟩
      · rw [hsame]
      · rw [hwritten]
        exact Table.get?_put_of_ne fun hkey => he loaded cur rfl (hid.symm.trans hkey.symm)
    | insertUser user =>
      unfold watchUse at hallows
      cases hr : requests i <;> rw [hr] at hallows <;> exact hallows.elim
    | _ => rfl
  refine ⟨hspent.symm ▸ h.nodup, hspent.symm ▸ h.known, ?_, fun j r hr hfor hused => ?_⟩
  · rw [hspent, hrow]
    exact h.stored
  · rw [huses]
    refine h.written j r hr hfor ?_
    by_cases hj : j = i
    · subst hj
      rw [Function.update_self] at hused
      rcases (Bool.or_eq_true _ _).mp hused with hused | hwrites
      · exact hused
      · -- what it writes is the row of its user
        cases e with
        | updateUser loaded cur =>
          unfold watchUse at hallows
          rw [hr] at hallows
          obtain ⟨-, hcur, -⟩ : r.Uses lib loaded cur := hallows
          exact absurd (Except.ok.inj (hcur.symm.trans hfor)) (he loaded cur rfl)
        | _ => cases hwrites
    · rwa [Function.update_of_ne hj] at hused

/-- A login that uses its code. -/
lemma Accounts.use (hcodes : ∀ h ∈ hashes, IsHexdigest h) {past : List (Event ι Eff World)} {w : World}
    {used : ι → Bool} {i : ι} {r : TotpLogin} (hr : requests i = some r) {loaded cur : User}
    (hid : cur.id = userId) (huses : r.Uses lib loaded cur) (hcurrent : Current userId w (.updateUser loaded cur))
    (h : Accounts lib requests userId hashes past w used) :
    Accounts lib requests userId hashes (past ++ [⟨i, w, .updateUser loaded cur⟩])
      (serve (.updateUser loaded cur) w).2 (Function.update used i true) := by
  have hwritten : uses lib requests userId (past ++ [⟨i, w, .updateUser loaded cur⟩]) =
      uses lib requests userId past ++ [(i, lib.sha256 r.code)] := uses_append_of_write hr w loaded cur hid
  have hspent : spent lib requests userId (past ++ [⟨i, w, .updateUser loaded cur⟩]) =
      spent lib requests userId past ++ [lib.sha256 r.code] := by
    unfold spent
    rw [hwritten, List.map_append]
    rfl
  obtain ⟨stored, hstored, hleft⟩ := h.stored
  obtain ⟨hmem, -, hcur⟩ := huses
  -- the row that was loaded has the codes that are stored
  have hloaded : stored.backupCodes = loaded.backupCodes := hcurrent hid stored hstored
  rw [← hloaded, hleft] at hmem
  obtain ⟨hknown, hunspent⟩ := List.mem_filter.1 hmem
  have hfresh : lib.sha256 r.code ∉ spent lib requests userId past := of_decide_eq_true hunspent
  refine ⟨?_, ?_, ?_, fun j r' hr' hfor hused => ?_⟩
  · rw [hspent, ← List.concat_eq_append]
    exact h.nodup.concat hfresh
  · intro s hs
    rw [hspent] at hs
    rcases List.mem_append.1 hs with hs | hs
    · exact h.known s hs
    · exact List.mem_singleton.1 hs ▸ hknown
  · have hhex : ∀ s ∈ hashesOf stored.backupCodes, IsHexdigest s := fun s hs =>
      hcodes s (List.mem_filter.1 (hleft ▸ hs)).1
    refine ⟨User.update loaded cur stored, ?_, ?_⟩
    · subst hid
      exact World.get?_updateUser loaded hstored
    · have hcolumn : (User.update loaded cur stored).backupCodes =
          removeUsedBackupCode (lib.sha256 r.code) stored.backupCodes := by
        rw [hcur, hloaded]
        show column loaded.backupCodes _ stored.backupCodes = _
        rw [hloaded, column_loaded]
      rw [hcolumn, hashesOf_removeUsedBackupCode hhex, hleft, hspent, List.filter_filter]
      refine List.filter_congr fun s _ => ?_
      by_cases hs : s = lib.sha256 r.code <;> simp [hs]
  · rw [hwritten]
    by_cases hj : j = i
    · subst hj
      obtain rfl := Option.some.inj (hr.symm.trans hr')
      exact List.mem_append_right _ (List.mem_singleton_self _)
    · rw [Function.update_of_ne hj] at hused
      exact List.mem_append_left _ (h.written j r' hr' hfor hused)

/-- **One effect.** -/
theorem Accounts.step (hcodes : ∀ h ∈ hashes, IsHexdigest h) {past : List (Event ι Eff World)} {w : World}
    {used : ι → Bool} {i : ι} {e : Eff} (hallows : (watchUse lib (requests i)).allows (used i) e)
    (hcurrent : Current userId w e) (h : Accounts lib requests userId hashes past w used) :
    Accounts lib requests userId hashes (past ++ [⟨i, w, e⟩]) (serve e w).2
      (Function.update used i ((watchUse lib (requests i)).next (used i) e (serve e w).1)) := by
  by_cases he : ∀ loaded cur, e = .updateUser loaded cur → cur.id ≠ userId
  · exact h.idle hallows he
  · push Not at he
    obtain ⟨loaded, cur, rfl, hid⟩ := he
    unfold watchUse at hallows
    cases hr : requests i with
    | none =>
      rw [hr] at hallows
      exact hallows.elim
    | some r =>
      rw [hr] at hallows
      have hnext : (watchUse lib (some r)).next (used i) (.updateUser loaded cur) (serve (.updateUser loaded cur) w).1 =
          true := Bool.or_true _
      rw [hnext]
      exact h.use hcodes hr hid hallows hcurrent

omit [DecidableEq ι] in
/-- Every program does what it may, and a login is completed only as it should be. -/
lemma TotpPool.Serving.watched {P : TotpPool ι} (h : TotpPool.Serving cfg lib requests P) :
    P.WatchedTo (fun i => watchUse lib (requests i))
      (fun i answer used => ∀ r pair, requests i = some r → answer = (.ok pair, ()) → used = true ∨ r.IsTotp lib)
      fun _ => false := by
  intro i p hp
  dsimp only
  cases hr : requests i with
  | none =>
    refine (Prog.Follows.of_only (fun _ e he => he) (fun used e _ he => ?_) (h.spares i p hr hp)).weaken ?_
    · show (used || e.writes) = used
      rw [he.writes_eq, Bool.or_false]
    · intro answer used _ r pair hnone
      cases hnone
  | some r =>
    obtain rfl := Option.some.inj ((h.runs i r hr).symm.trans hp)
    have hscript : Wp (watchUse lib (some r)) (r.script cfg lib) () false
        (fun _ _ used => used = true ∨ r.IsTotp lib) fun _ _ _ => True := wp_script r
    refine hscript.weaken ?_
    rintro ⟨_ | _, _⟩ used hends r' pair hr' hanswer
    · cases hanswer
    · cases hr'
      exact hends

namespace Sample

/-- The digests of two codes, and of the empty text for all other codes. -/
def digest (code : String) : String :=
  if code = "0A1B2C3D4E" then "f07cc262c81e0348e992c5c628f2ca48370d6b21fd0eb2607441c160e8c512e1"
  else if code = "5F6A7B8C9D" then "91bbd794315d3dde1fd0d4d5793b65eca28a188934ac1d545a125f41c14b56fa"
  else "e3b0c44298fc1c149afbf4c8996fb92427ae41e4649b934ca495991b7852b855"

def digests : Libraries := { libraries with sha256 := digest }

lemma hexdigest_digest (code : String) : IsHexdigest (digest code) := by
  unfold digest
  split
  · decide +kernel
  · split <;> decide +kernel

/-- Ada, with the two codes. -/
def adaWithCodes : User :=
  { ada with backupCodes := some (",".intercalate [digest "0A1B2C3D4E", digest "5F6A7B8C9D"]) }

lemma hashesOf_adaWithCodes : hashesOf adaWithCodes.backupCodes = ["0A1B2C3D4E", "5F6A7B8C9D"].map digest := by
  have hhex : ∀ h ∈ ["0A1B2C3D4E", "5F6A7B8C9D"].map digest, IsHexdigest h := by
    simp [hexdigest_digest]
  exact storedHashes_intercalate hhex (List.cons_ne_nil _ _)

/-- Two logins of hers, with these codes. -/
def totpLogins (code code' : String) : Bool → Option TotpLogin
  | false => some ⟨{}, challenge, code⟩
  | true => some ⟨{}, challenge, code'⟩

def totpPool (code code' : String) : TotpPool Bool where
  world :=
    { world with
      users := { rows := [adaWithCodes], next := 2, sorted := List.pairwise_singleton _ _, below := by decide } }
  procs i := (totpLogins code code' i).map fun r => r.script settings digests ()

lemma serving_totpPool (code code' : String) :
    TotpPool.Serving settings digests (totpLogins code code') (totpPool code code') where
  runs i r hr := by
    show (totpLogins code code' i).map _ = _
    rw [hr]
    rfl
  spares i p hnone := by
    cases i <;> cases hnone

/-- Both logins read the row before either writes it. -/
def bothRead : List (Move Bool) :=
  List.replicate 3 (.step false) ++ List.replicate 30 (.step true) ++ List.replicate 30 (.step false)

/-- The one login after the other. -/
def inTurn : List (Move Bool) := List.replicate 30 (.step false) ++ List.replicate 30 (.step true)

end Sample

end FastapiTemplate.Identity
