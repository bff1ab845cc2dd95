import FastapiTemplate.Identity.Requests

/-!
# Counters of passkeys

Registration stores the counter of a passkey, and the WebAuthn library compares every assertion with the
stored one. `complete_authentication` never writes it back, so what is compared is always the counter of the
registration: `clone_rejected_iff` says which sequences of calls let an old counter through.
-/

namespace FastapiTemplate.Identity

open Effects Python Store Script

variable {lib : Libraries} {w : World} {userId : ℤ} {credential : Value}

/-! ### Registration -/

/-- The world, and the pending challenges of registrations. -/
structure Passkeys where
  world : World
  registrations : List (String × String) := []

/-- What `verify_registration_response` answers: credential id, public key and counter. -/
abbrev Attestation : Type := (challenge : String) → (credential : Value) → Except String (String × String × ℤ)

/-- `begin_registration`; the challenge is random. -/
def Passkeys.beginRegistration (userId : ℤ) (p : Passkeys) : Passkeys where
  world := { p.world with drawn := p.world.drawn + 1 }
  registrations := Value.setItem (toString userId) (p.world.nonces p.world.drawn).val p.registrations

/-- `complete_registration`; credential ids are unique. -/
def Passkeys.completeRegistration (attestation : Attestation) (userId : ℤ) (credential : Value)
    (p : Passkeys) : Except Exn String × Passkeys :=
  match p.registrations.lookup (toString userId) with
  | none => (.error (.http 400 "Registration session not found"), p)
  | some challenge =>
    let popped := { p with registrations := p.registrations.filter fun r => r.1 != toString userId }
    match attestation challenge credential with
    | .error e => (.error (.http 400 ("Invalid registration response: " ++ e)), popped)
    | .ok (credentialId, publicKey, signCount) =>
      if p.world.credentials.any fun c => c.credentialId == credentialId then (.error .integrityError, popped)
      else (.ok credentialId,
        { popped with
          world := { p.world with
            credentials := p.world.credentials ++ [⟨userId, credentialId, publicKey, signCount⟩] } })

/-! ### Authentication -/

/-- The stored passkey that an assertion is for. -/
def World.passkey (w : World) (userId : ℤ) (credential : Value) : Option WebAuthnCredential :=
  match credential.get "id" with
  | .error _ => none
  | .ok credentialId =>
    if credentialId.truthy then
      (w.credentials.filter fun c => c.userId == userId).find? fun c => isText c.credentialId credentialId
    else none

/-- The assertion is accepted. -/
def Accepted (lib : Libraries) (w : World) (userId : ℤ) (credential : Value) : Prop :=
  ((completeAuthentication lib userId credential).exec serve () w).result = .ok ()

/-- **What `complete_authentication` accepts**: an assertion for a stored passkey of the user, right for the
pending challenge and the stored counter. -/
theorem accepted_iff :
    Accepted lib w userId credential ↔ ∃ challenge row,
      w.pendingAuthentications.lookup (toString userId) = some challenge ∧
      w.passkey userId credential = some row ∧
      lib.assertion challenge row.publicKey row.signCount credential = .ok () := by
  unfold Accepted completeAuthentication selectCredentials World.passkey
  simp only [exec_bind, exec_perform, Outcome.next_ok, serve]
  cases w.pendingAuthentications.lookup (toString userId) with
  | none => simp
  | some challenge =>
    simp only [exec_bind, exec_perform, exec_pure, Outcome.next_ok, serve]
    generalize w.credentials.filter (fun c => c.userId == userId) = creds
    by_cases hcreds : creds.isEmpty = true
    · -- without passkeys there is none for the assertion
      obtain rfl := List.isEmpty_iff.1 hcreds
      cases credential.get "id" with
      | error e => simp
      | ok credentialId => simp
    rw [if_neg hcreds, exec_bind, exec_ofExcept]
    cases credential.get "id" with
    | error e => simp [liftBuiltin]
    | ok credentialId =>
      rw [liftBuiltin, Outcome.next_ok]
      dsimp only
      cases credentialId.truthy with
      | false => simp
      | true =>
        rw [if_pos rfl, if_neg (by decide)]
        cases creds.find? fun c => isText c.credentialId credentialId with
        | none => simp
        | some row =>
          dsimp only
          constructor
          · intro h
            split at h
            · rename_i hassertion
              exact ⟨challenge, row, rfl, rfl, hassertion⟩
            · cases h
          · rintro ⟨_, _, hpending, hrow, hassertion⟩
            obtain rfl := Option.some.inj hpending
            obtain rfl := Option.some.inj hrow
            rw [hassertion]
            rfl

/-! ### Counters -/

/-- The counter exceeds the stored one, or both are zero. -/
def Advances (counter : ℕ) (signCount : ℤ) : Prop := signCount < counter ∨ (counter = 0 ∧ signCount = 0)

instance (counter : ℕ) (signCount : ℤ) : Decidable (Advances counter signCount) :=
  inferInstanceAs (Decidable (_ ∨ _))

/-- **What the WebAuthn library does**: of the assertions that are right otherwise it rejects exactly those
whose counter does not advance. -/
def Counts (lib : Libraries) (counter : Value → ℕ) (right : (challenge publicKey : String) → Value → Prop) :
    Prop :=
  ∀ challenge publicKey signCount credential,
    lib.assertion challenge publicKey signCount credential = .ok () ↔
      right challenge publicKey credential ∧ Advances (counter credential) signCount

/-- A call of one of the four functions. -/
inductive PasskeyCall where
  | beginRegistration (userId : ℤ)
  | completeRegistration (userId : ℤ) (credential : Value)
  | beginAuthentication (userId : ℤ)
  | completeAuthentication (userId : ℤ) (credential : Value)

/-- The world after a call. -/
def PasskeyCall.step (lib : Libraries) (attestation : Attestation) : PasskeyCall → Passkeys → Passkeys
  | .beginRegistration userId, p => p.beginRegistration userId
  | .completeRegistration userId credential, p => (p.completeRegistration attestation userId credential).2
  | .beginAuthentication userId, p =>
    { p with world := ((Identity.beginAuthentication userId).exec serve () p.world).world }
  | .completeAuthentication userId credential, p =>
    { p with world := ((Identity.completeAuthentication lib userId credential).exec serve () p.world).world }

variable {counter : Value → ℕ} {right : (challenge publicKey : String) → Value → Prop} {attestation : Attestation}
  {p : Passkeys}

/-- An assertion for the passkey was accepted earlier, with a counter that is not below this one and not zero. -/
def Repeats (lib : Libraries) (counter : Value → ℕ) (past : List (Passkeys × PasskeyCall))
    (credentialId : String) (count : ℕ) : Prop :=
  ∃ q userId credential row, (q, PasskeyCall.completeAuthentication userId credential) ∈ past ∧
    Accepted lib q.world userId credential ∧ q.world.passkey userId credential = some row ∧
    row.credentialId = credentialId ∧ count ≤ counter credential ∧ counter credential ≠ 0

/-- An assertion whose counter does not exceed one that was accepted is rejected. -/
def RejectsClones (lib : Libraries) (counter : Value → ℕ) (past : List (Passkeys × PasskeyCall))
    (p : Passkeys) : PasskeyCall → Prop
  | .completeAuthentication userId credential => ∀ row, p.world.passkey userId credential = some row →
      Repeats lib counter past row.credentialId (counter credential) → ¬Accepted lib p.world userId credential
  | _ => True

/-! ### When clones are rejected -/

/-- The assertion is for the stored passkey `row`, right for the pending challenge, and its counter advances
the one that `row` has. -/
def Matches (counter : Value → ℕ) (right : (challenge publicKey : String) → Value → Prop) (w : World)
    (userId : ℤ) (credential : Value) (row : WebAuthnCredential) : Prop :=
  w.passkey userId credential = some row ∧
    (∃ challenge, w.pendingAuthentications.lookup (toString userId) = some challenge ∧
      right challenge row.publicKey credential) ∧
    Advances (counter credential) row.signCount

/-- Two such assertions for one passkey, the later with a counter that does not exceed the one before. -/
def Outrun (counter : Value → ℕ) (right : (challenge publicKey : String) → Value → Prop)
    (past : List (Passkeys × PasskeyCall)) (p : Passkeys) : PasskeyCall → Prop
  | .completeAuthentication userId credential => ∃ row, Matches counter right p.world userId credential row ∧
      ∃ q userId' credential' row', (q, PasskeyCall.completeAuthentication userId' credential') ∈ past ∧
        Matches counter right q.world userId' credential' row' ∧ row'.credentialId = row.credentialId ∧
        counter credential ≤ counter credential' ∧ counter credential' ≠ 0
  | _ => False

lemma Counts.accepted_iff (hlib : Counts lib counter right) {row : WebAuthnCredential}
    (hrow : w.passkey userId credential = some row) :
    Accepted lib w userId credential ↔ Matches counter right w userId credential row := by
  rw [Identity.accepted_iff]
  constructor
  · rintro ⟨challenge, row', hpending, hrow', hassertion⟩
    obtain rfl := Option.some.inj (hrow.symm.trans hrow')
    obtain ⟨hright, hadvances⟩ := (hlib _ _ _ _).1 hassertion
    exact ⟨hrow, ⟨challenge, hpending, hright⟩, hadvances⟩
  · rintro ⟨-, ⟨challenge, hpending, hright⟩, hadvances⟩
    exact ⟨challenge, row, hpending, hrow, (hlib _ _ _ _).2 ⟨hright, hadvances⟩⟩

/-- **When clones are rejected**: in a sequence of calls every assertion whose counter does not exceed one that
was accepted for the passkey is rejected, if and only if no two right assertions that both advance the counter
of the registration come in the wrong order. -/
theorem clone_rejected_iff (lib : Libraries) (counter : Value → ℕ)
    (right : (challenge publicKey : String) → Value → Prop) (hlib : Counts lib counter right)
    (attestation : Attestation) (p : Passkeys) (calls : List PasskeyCall) :
    Along (PasskeyCall.step lib attestation) (RejectsClones lib counter) [] p calls ↔
      Along (PasskeyCall.step lib attestation) (fun past p c => ¬Outrun counter right past p c) [] p calls := by
  refine along_congr fun past p c => ?_
  cases c with
  | completeAuthentication userId credential =>
    constructor
    · rintro hrejects ⟨row, hmatches, q, userId', credential', row', hpast, hmatches', hsame, hle, hzero⟩
      refine hrejects row hmatches.1 ?_ ((hlib.accepted_iff hmatches.1).2 hmatches)
      exact ⟨q, userId', credential', row', hpast, (hlib.accepted_iff hmatches'.1).2 hmatches', hmatches'.1, hsame,
        hle, hzero⟩
    · rintro houtrun row hrow ⟨q, userId', credential', row', hpast, haccepted', hrow', hsame, hle, hzero⟩ haccepted
      exact houtrun ⟨row, (hlib.accepted_iff hrow).1 haccepted, q, userId', credential', row', hpast,
        (hlib.accepted_iff hrow').1 haccepted', hsame, hle, hzero⟩
  | _ => exact iff_of_true trivial not_false

namespace Sample

/-- The counter of an assertion. -/
def counterOf (credential : Value) : ℕ :=
  match credential.get "counter" with
  | .ok (.int n) => n.toNat
  | _ => 0

/-- Libraries for which an assertion is right if its counter advances. -/
def counting : Libraries :=
  { libraries with
    assertion := fun _ _ signCount credential =>
      if Advances (counterOf credential) signCount then .ok () else .error "Response sign count" }

/-- Every attestation is right, for a passkey with counter 5. -/
def attested : Attestation := fun _ _ => .ok ("key", "public", 5)

def assertion (count : ℤ) : Value := .dict [("id", .str "key"), ("counter", .int count)]

/-- Ada registers a passkey and logs in twice with it. -/
def twoAssertions (first later : ℤ) : List PasskeyCall :=
  [.beginRegistration 1, .completeRegistration 1 (.dict []),
    .beginAuthentication 1, .completeAuthentication 1 (assertion first),
    .beginAuthentication 1, .completeAuthentication 1 (assertion later)]

lemma counts : Counts counting counterOf fun _ _ _ => True := by
  intro challenge publicKey signCount credential
  show (if _ then _ else _) = _ ↔ _
  rw [true_and]
  by_cases h : Advances (counterOf credential) signCount
  · exact iff_of_true (if_pos h) h
  · rw [if_neg h]
    exact iff_of_false (fun h => nomatch h) h

end Sample

open Sample in
/-- After counter 9 the clone's counter 7 is accepted, since both exceed the counter of the registration. -/
theorem clone_accepted :
    ¬Along (PasskeyCall.step counting attested) (RejectsClones counting counterOf) [] ⟨world, []⟩
      (twoAssertions 9 7) := by
  rintro ⟨-, -, -, -, -, hrejects, -⟩
  refine hrejects ⟨1, "key", "public", 5⟩ (by rfl) ?_ (by rfl)
  exact ⟨_, 1, assertion 9, ⟨1, "key", "public", 5⟩, List.mem_cons_of_mem _ (List.mem_cons_self ..), by rfl,
    by rfl, rfl, by decide, by decide⟩

open Sample in
/-- A clone whose counter does not exceed that of the registration is rejected. -/
theorem clone_rejected_counting :
    Along (PasskeyCall.step counting attested) (RejectsClones counting counterOf) [] ⟨world, []⟩
      (twoAssertions 9 5) := by
  refine (clone_rejected_iff counting counterOf _ counts attested _ _).2 ⟨?_, ?_, ?_, ?_, ?_, ?_, trivial⟩
  · exact not_false
  · exact not_false
  · exact not_false
  · rintro ⟨_, _, _, _, _, _, hpast, -⟩
    simp at hpast
  · exact not_false
  · rintro ⟨row, ⟨hrow, -, hadvances⟩, -⟩
    obtain rfl : ⟨1, "key", "public", 5⟩ = row := Option.some.inj hrow
    exact absurd hadvances (by decide)

/-! ### Stored counters -/

lemma serve_credentials (e : Eff) (w : World) : (serve e w).2.credentials = w.credentials := by
  cases e with
  | updateUser loaded cur =>
    show (w.updateUser loaded cur).2.credentials = w.credentials
    rw [w.updateUser_frame]
  | insertUser user =>
    show (w.insertUser user).2.credentials = w.credentials
    rw [w.insertUser_frame]
  | _ => rfl

/-- No effect of the identity code writes a passkey. -/
lemma serves_credentials (row : WebAuthnCredential) (e : Eff) : Serves (fun w => row ∈ w.credentials) e :=
  fun w hrow => (congrArg (row ∈ ·) (serve_credentials e w)).mpr hrow

lemma Keeps.beginAuthentication {I : World → Prop} (hI : ∀ e, Serves I e) (userId : ℤ) :
    Keeps I (Identity.beginAuthentication userId) := by
  refine bind (selectCredentials (fun e _ => hI e) userId) fun creds => ?_
  split
  · exact throw _
  · exact bind (randomText fun e _ => hI e) fun _ => bind (perform (hI _)) fun _ => pure _

/-- **A stored counter stays what it was at registration.** -/
theorem credentials_kept {row : WebAuthnCredential} (hrow : row ∈ p.world.credentials)
    (calls : List PasskeyCall) :
    row ∈ (after (PasskeyCall.step lib attestation) p calls).world.credentials := by
  refine after_keeps (I := fun p : Passkeys => row ∈ p.world.credentials) (fun p c hrow => ?_) hrow
  cases c with
  | beginRegistration userId => exact hrow
  | completeRegistration userId credential =>
    show row ∈ (p.completeRegistration attestation userId credential).2.world.credentials
    unfold Passkeys.completeRegistration
    split
    · exact hrow
    · dsimp only
      split
      · exact hrow
      · split
        · exact hrow
        · exact List.mem_append_left _ hrow
  | beginAuthentication userId =>
    exact (Keeps.beginAuthentication (serves_credentials row) userId () p.world hrow).1
  | completeAuthentication userId credential =>
    exact (Keeps.completeAuthentication (fun e _ => serves_credentials row e) userId credential () p.world hrow).1

end FastapiTemplate.Identity
