import FastapiTemplate.Identity.Exec

/-!
# Password attempts

What `authenticate_user` does to the world, said once: it turns the request away, or compares the password
with the hash of an account that is not locked and writes the outcome to its row.
-/

namespace FastapiTemplate.Identity

open Effects Python Store Script

variable {cfg : Settings} {lib : Libraries} {client : Client} {w : World}

/-! ### The written rows -/

lemma User.update_failed (user : User) (now : Datetime) :
    User.update user (user.failed cfg now) user = user.failed cfg now := by
  unfold User.update User.failed
  split <;> simp

lemma User.update_succeeded (user : User) (now : Datetime) :
    User.update user (user.succeeded now) user = user.succeeded now := by
  simp [User.update, User.succeeded]

@[simp] lemma User.failed_id (user : User) (now : Datetime) : (user.failed cfg now).id = user.id := by
  unfold User.failed
  split <;> rfl

/-! ### `authenticate_user` -/

/-- The world after a password was compared. -/
def World.compare (w : World) (user after : User) (matched : Bool) : World :=
  { w with
    users := w.users.put after
    comparisons := ⟨w.now, user.id, matched⟩ :: w.comparisons }

/-- What a call of `authenticate_user` may come to. -/
inductive Attempted (cfg : Settings) (w : World) : Except Exn (Option User) → World → Prop where
  | turnedAway {result : Except Exn (Option User)} (entries : List AuthAuditLog)
      (hresult : ∀ user, result ≠ .ok (some user)) : Attempted cfg w result { w with auditLog := entries }
  | wrong {user : User} (entries : List AuthAuditLog) (hmem : user ∈ w.users.rows)
      (hlock : user.locked w.now = false) :
      Attempted cfg w (.ok none) { w.compare user (user.failed cfg w.now) false with auditLog := entries }
  | right {user : User} (entries : List AuthAuditLog) (hmem : user ∈ w.users.rows)
      (hlock : user.locked w.now = false) :
      Attempted cfg w (.ok (some (user.succeeded w.now)))
        { w.compare user (user.succeeded w.now) true with auditLog := entries }

lemma Attempted.raised (e : Exn) : Attempted cfg w (.error e) w :=
  .turnedAway w.auditLog fun _ h => nomatch h

lemma exec_acceptPassword (client : Client) (now : Datetime) {user : User} (hmem : user ∈ w.users.rows) :
    ∃ entries, (acceptPassword client user now).exec serve () w =
      ⟨.ok (), (), { w with users := w.users.put (user.succeeded now), auditLog := entries }⟩ := by
  have hsave := exec_saveUser hmem (show (user.succeeded now).id = user.id from rfl)
  rw [User.update_succeeded] at hsave
  unfold acceptPassword
  rw [exec_bind, hsave]
  exact exec_log client (some user) none (by decide)

lemma exec_rejectPassword (cfg : Settings) (client : Client) (now : Datetime) {user : User} (hmem : user ∈ w.users.rows) :
    ∃ entries, (rejectPassword cfg client user now).exec serve () w =
      ⟨.ok (), (), { w with users := w.users.put (user.failed cfg now), auditLog := entries }⟩ := by
  unfold rejectPassword
  rw [exec_bind, exec_saveUser hmem (User.failed_id user now), User.update_failed]
  exact exec_log client (some user) _ (by split <;> decide)

/-- **What `authenticate_user` does.** -/
theorem attempted (cfg : Settings) (lib : Libraries) (client : Client) (w : World) (email password : String) :
    Attempted cfg w ((authenticateUser cfg lib client email password).exec serve () w).result
      ((authenticateUser cfg lib client email password).exec serve () w).world := by
  unfold authenticateUser getByEmail
  rw [exec_bind, exec_selectUser]
  rcases hfound : scalarOneOrNone
      (w.users.rows.filter fun r => visible client.tenant r && r.email == email) with e | _ | user
  · rw [Outcome.next_error]
    exact .raised e
  · -- no such address
    simp only [Outcome.next_ok, exec_bind]
    obtain ⟨entries, hlog⟩ := exec_log (w := w) client none
      (some (.dict [("email", .str email), ("reason", .str "user_not_found")]))
      (show "login_failure" ∈ authEventTypes by decide)
    rw [hlog]
    exact .turnedAway entries fun _ h => nomatch h
  · have hmem : user ∈ w.users.rows := (mem_of_select hfound).1
    simp only [Outcome.next_ok, exec_bind, exec_datetimeNow]
    cases hlock : user.locked w.now with
    | true =>
      simp only [if_true, exec_bind]
      obtain ⟨entries, hlog⟩ := exec_log (w := w) client (some user)
        (some (.dict [("locked_until", .str (naiveIsoformat (user.lockedUntil.getD 0)))]))
        (show "account_locked" ∈ authEventTypes by decide)
      rw [hlog]
      exact .turnedAway entries fun _ h => nomatch h
    | false =>
      simp only [Bool.false_eq_true, if_false, exec_bind, exec_ofExcept]
      cases verifyPassword lib password user.hashedPassword with
      | error e => exact .raised (.builtin e)
      | ok matched =>
        -- the comparison is recorded, then the row is written
        simp only [liftBuiltin, Outcome.next_ok, exec_perform, serve]
        cases matched with
        | true =>
          obtain ⟨entries, haccept⟩ := exec_acceptPassword client w.now
            (w := { w with comparisons := ⟨w.now, user.id, true⟩ :: w.comparisons }) hmem
          rw [if_pos rfl, exec_bind, haccept]
          exact .right entries hmem hlock
        | false =>
          obtain ⟨entries, hreject⟩ := exec_rejectPassword cfg client w.now
            (w := { w with comparisons := ⟨w.now, user.id, false⟩ :: w.comparisons }) hmem
          rw [if_neg Bool.false_ne_true, exec_bind, hreject]
          exact .wrong entries hmem hlock

end FastapiTemplate.Identity
