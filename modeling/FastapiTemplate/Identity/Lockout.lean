import FastapiTemplate.Effects.Calls
import FastapiTemplate.Identity.Attempts

/-!
# How many wrong passwords an account takes

The counter of failed attempts is not reset when a lock ends. So up to the first lock the wrong passwords
are counted, and from then on each one locks the account anew (`Guarded`): two of them are at least the
length of a lock apart. In both phases a window of that length has no more than the allowed number.
-/

namespace FastapiTemplate.Identity

open Effects Python Store Script

/-! ### Counting in a window -/

/-- How many of the times are in the half-open window. -/
def within (start length : ℤ) (times : List ℤ) : ℕ :=
  times.countP fun t => decide (start ≤ t ∧ t < start + length)

lemma within_le_length (start length : ℤ) (times : List ℤ) : within start length times ≤ times.length :=
  List.countP_le_length

/-- A time that is a whole window after the others shares no window with them. -/
lemma within_cons_of_sparse {length t : ℤ} {times : List ℤ} (start : ℤ) (h : ∀ s ∈ times, s + length ≤ t) :
    within start length (t :: times) ≤ max 1 (within start length times) := by
  unfold within
  rw [List.countP_cons]
  split
  · rename_i ht
    have hin : start ≤ t ∧ t < start + length := of_decide_eq_true ht
    have hnone : List.countP (fun t => decide (start ≤ t ∧ t < start + length)) times = 0 := by
      rw [List.countP_eq_zero]
      intro s hs hwithin
      have hsin : start ≤ s ∧ s < start + length := of_decide_eq_true hwithin
      have := h s hs
      omega
    rw [hnone]
    exact le_max_left _ _
  · exact le_max_right _ _

/-- The times of the wrong passwords that were compared for a user. -/
def wrongTimes (userId : ℤ) (comparisons : List Comparison) : List Datetime :=
  (comparisons.filter fun c => c.userId == userId && !c.matched).map Comparison.time

@[simp] lemma wrongTimes_cons_self (userId : ℤ) (t : Datetime) (cs : List Comparison) :
    wrongTimes userId (⟨t, userId, false⟩ :: cs) = t :: wrongTimes userId cs := by
  simp [wrongTimes]

lemma wrongTimes_cons_of_ne {userId userId' : ℤ} (h : userId' ≠ userId) (t : Datetime) (matched : Bool)
    (cs : List Comparison) : wrongTimes userId (⟨t, userId', matched⟩ :: cs) = wrongTimes userId cs := by
  simp [wrongTimes, h]

/-! ### Sequences of attempts -/

/-- A call of `authenticate_user`, or time going by. -/
inductive SignIn where
  | attempt (client : Client) (email password : String)
  | wait (time : ℕ)

variable (cfg : Settings) (lib : Libraries)

def SignIn.script : SignIn → Auth (Option User)
  | .attempt client email password => authenticateUser cfg lib client email password
  | .wait time => do
    let () ← perform (Eff.sleep time)
    return none

/-- The world after a call. -/
def SignIn.step (call : SignIn) (w : World) : World := ((call.script cfg lib).exec serve () w).world

/-- The call does not let the user in. -/
def SignIn.Fails (userId : ℤ) (w : World) (call : SignIn) : Prop :=
  ∀ user, ((call.script cfg lib).exec serve () w).result = .ok (some user) → user.id ≠ userId

/-- The wrong passwords, compared at `times`, are at most as many as the row says; once these are enough for
a lock, there has been one after each of them. -/
def Counted (row : User) (times : List Datetime) : Prop :=
  if cfg.maxLoginAttempts ≤ row.failedLoginAttempts then
    ∀ t ∈ times, ∃ until', row.lockedUntil = some until' ∧ t + minutes cfg.loginLockoutMinutes ≤ until'
  else times.length ≤ row.failedLoginAttempts

/-- What holds along a sequence of failing attempts, `new` being the comparisons it has made. -/
structure Guarded (userId : ℤ) (w : World) (new : List Comparison) : Prop where
  past : ∀ t ∈ wrongTimes userId new, t ≤ w.now
  counted : ∀ row ∈ w.users.rows, row.id = userId → Counted cfg row (wrongTimes userId new)
  bound : ∀ start,
    (within start (minutes cfg.loginLockoutMinutes) (wrongTimes userId new) : ℤ) ≤ cfg.maxLoginAttempts

section Lemmas

variable {cfg lib} {userId : ℤ} {w : World} {new : List Comparison} {times : List Datetime} {row : User}
  {now : Datetime}

/-- The window bound, one wrong password later. -/
lemma within_failed (hmax : 1 ≤ cfg.maxLoginAttempts) (hcounted : Counted cfg row times)
    (hlock : row.locked now = false) {start : ℤ}
    (hbound : (within start (minutes cfg.loginLockoutMinutes) times : ℤ) ≤ cfg.maxLoginAttempts) :
    (within start (minutes cfg.loginLockoutMinutes) (now :: times) : ℤ) ≤ cfg.maxLoginAttempts := by
  unfold Counted at hcounted
  split at hcounted
  · -- the last lock has ended, so the earlier ones are out of the window
    have hsparse : ∀ t ∈ times, t + minutes cfg.loginLockoutMinutes ≤ now := by
      intro t ht
      obtain ⟨until', huntil, hle⟩ := hcounted t ht
      simp only [User.locked, huntil, decide_eq_false_iff_not, not_lt] at hlock
      exact hle.trans hlock
    have := within_cons_of_sparse start hsparse
    omega
  · have hlength := within_le_length start (minutes cfg.loginLockoutMinutes) (now :: times)
    rw [List.length_cons] at hlength
    omega

/-- The row after a wrong password. -/
lemma counted_failed (hcounted : Counted cfg row times) (hpast : ∀ t ∈ times, t ≤ now) : Counted cfg (row.failed cfg now) (now :: times) := by
  unfold User.failed Counted
  split
  · intro t ht
    refine ⟨_, rfl, ?_⟩
    have hle : t ≤ now := by
      rcases List.mem_cons.1 ht with rfl | ht
      · exact le_rfl
      · exact hpast t ht
    exact Int.add_le_add_right hle _
  · rename_i hfew
    unfold Counted at hcounted
    rw [if_neg (by push_cast at hfew; omega)] at hcounted
    rw [List.length_cons]
    exact Nat.succ_le_succ hcounted

/-- A row of the table after an update. -/
lemma mem_put {t : Table User} {user x : User} (hx : x ∈ (t.put user).rows) :
    x = user ∨ x ∈ t.rows ∧ x.id ≠ user.id := by
  obtain ⟨y, hy, rfl⟩ := List.mem_map.1 hx
  by_cases hid : y.id = user.id
  · exact .inl (if_pos hid)
  · have hover : Table.overwrite user y = y := if_neg hid
    rw [hover]
    exact .inr ⟨hy, hid⟩

/-- A wrong password for the account itself. -/
lemma Guarded.wrong_self (hmax : 1 ≤ cfg.maxLoginAttempts) {user : User} {entries : List AuthAuditLog}
    (h : Guarded cfg user.id w new) (hmem : user ∈ w.users.rows) (hlock : user.locked w.now = false) :
    Guarded cfg user.id { w.compare user (user.failed cfg w.now) false with auditLog := entries }
      (⟨w.now, user.id, false⟩ :: new) := by
  have hcounted : Counted cfg user (wrongTimes user.id new) := h.counted user hmem rfl
  refine ⟨?_, ?_, ?_⟩
  · rw [wrongTimes_cons_self]
    intro t ht
    rcases List.mem_cons.1 ht with rfl | ht
    · exact le_rfl
    · exact h.past t ht
  · rw [wrongTimes_cons_self]
    intro row hrow hid
    rcases mem_put hrow with rfl | ⟨-, hne⟩
    · exact counted_failed hcounted h.past
    · exact absurd (hid.trans (User.failed_id user w.now).symm) hne
  · rw [wrongTimes_cons_self]
    exact fun start => within_failed hmax hcounted hlock (h.bound start)

/-- A comparison for another account. -/
lemma Guarded.other {user after : User} {matched : Bool} {entries : List AuthAuditLog}
    (h : Guarded cfg userId w new) (hne : user.id ≠ userId) (hid : after.id = user.id) :
    Guarded cfg userId { w.compare user after matched with auditLog := entries }
      (⟨w.now, user.id, matched⟩ :: new) := by
  have htimes := wrongTimes_cons_of_ne hne w.now matched new
  refine ⟨?_, ?_, ?_⟩
  · rw [htimes]
    exact h.past
  · rw [htimes]
    intro row hrow hrowid
    rcases mem_put hrow with rfl | ⟨hrow, -⟩
    · exact absurd (hid.symm.trans hrowid) hne
    · exact h.counted row hrow hrowid
  · rw [htimes]
    exact h.bound

/-- **One call.** -/
theorem Guarded.step (hmax : 1 ≤ cfg.maxLoginAttempts) (h : Guarded cfg userId w new) (call : SignIn)
    (hfail : call.Fails cfg lib userId w) :
    ∃ made, (call.step cfg lib w).comparisons = made ++ w.comparisons ∧
      Guarded cfg userId (call.step cfg lib w) (made ++ new) := by
  cases call with
  | wait time =>
    refine ⟨[], rfl, fun t ht => ?_, h.counted, h.bound⟩
    exact (h.past t ht).trans (Int.le_add_of_nonneg_right (Int.natCast_nonneg time))
  | attempt client email password =>
    have hattempt := attempted cfg lib client w email password
    unfold SignIn.Fails SignIn.script at hfail
    unfold SignIn.step SignIn.script
    simp only at hfail ⊢
    generalize (authenticateUser cfg lib client email password).exec serve () w = o at hattempt hfail ⊢
    obtain ⟨result, s, w'⟩ := o
    cases hattempt with
    | turnedAway => exact ⟨[], rfl, h.past, h.counted, h.bound⟩
    | @wrong user entries hmem hlock =>
      refine ⟨[⟨w.now, user.id, false⟩], rfl, ?_⟩
      by_cases hid : user.id = userId
      · subst hid
        exact h.wrong_self hmax hmem hlock
      · exact h.other hid (User.failed_id user w.now)
    | @right user entries hmem hlock =>
      exact ⟨[⟨w.now, user.id, true⟩], rfl, h.other (hfail (user.succeeded w.now) rfl) rfl⟩

/-- **A sequence of calls.** -/
theorem Guarded.run (hmax : 1 ≤ cfg.maxLoginAttempts) {calls : List SignIn} (h : Guarded cfg userId w new)
    (hfail : Each (SignIn.step cfg lib) (SignIn.Fails cfg lib userId) w calls) :
    ∃ made, (after (SignIn.step cfg lib) w calls).comparisons = made ++ w.comparisons ∧
      Guarded cfg userId (after (SignIn.step cfg lib) w calls) (made ++ new) := by
  induction calls generalizing w new with
  | nil => exact ⟨[], rfl, h⟩
  | cons call calls ih =>
    obtain ⟨made, hmade, hstep⟩ := h.step hmax call hfail.1
    obtain ⟨later, hlater, hrun⟩ := ih hstep hfail.2
    refine ⟨later ++ made, ?_, ?_⟩
    · rw [List.append_assoc, ← hmade]
      exact hlater
    · rw [List.append_assoc]
      exact hrun

lemma guarded_start (hmax : 1 ≤ cfg.maxLoginAttempts) : Guarded cfg userId w [] := by
  refine ⟨nofun, fun row _ _ => ?_, fun start => ?_⟩
  · unfold Counted
    split
    · exact nofun
    · exact Nat.zero_le _
  · show ((0 : ℕ) : ℤ) ≤ _
    omega

/-- While the account is locked, no call compares a password for it. -/
theorem none_compared (call : SignIn) {row : User} {until' : Datetime} (hrow : row ∈ w.users.rows)
    (huntil : row.lockedUntil = some until') (hlock : w.now < until') :
    ∃ made, (call.step cfg lib w).comparisons = made ++ w.comparisons ∧
      ∀ c ∈ made, c.userId ≠ row.id := by
  have hlocked : row.locked w.now = true := by
    unfold User.locked
    rw [huntil]
    exact decide_eq_true hlock
  have hother : ∀ {user : User}, user ∈ w.users.rows → user.locked w.now = false → user.id ≠ row.id := by
    intro user hmem hfree hid
    rw [w.users.key_injOn hmem hrow hid, hlocked] at hfree
    cases hfree
  cases call with
  | wait time => exact ⟨[], rfl, nofun⟩
  | attempt client email password =>
    have hattempt := attempted cfg lib client w email password
    unfold SignIn.step SignIn.script
    simp only
    generalize (authenticateUser cfg lib client email password).exec serve () w = o at hattempt ⊢
    obtain ⟨result, s, w'⟩ := o
    cases hattempt with
    | turnedAway => exact ⟨[], rfl, nofun⟩
    | @wrong user entries hmem hfree =>
      exact ⟨[⟨w.now, user.id, false⟩], rfl, by simpa using hother hmem hfree⟩
    | @right user entries hmem hfree =>
      exact ⟨[⟨w.now, user.id, true⟩], rfl, by simpa using hother hmem hfree⟩

end Lemmas

/-- **The lockout**: along every sequence of attempts none of which lets the user in, whoever makes them,
no window of the length of a lock has more than `MAX_LOGIN_ATTEMPTS` wrong passwords that were compared; and
in the world they lead to no attempt compares a password for an account that is locked. -/
theorem lockout_bound (cfg : Settings) (lib : Libraries) (hmax : 1 ≤ cfg.maxLoginAttempts) (userId : ℤ)
    (w : World) (calls : List SignIn)
    (hfail : Each (SignIn.step cfg lib) (SignIn.Fails cfg lib userId) w calls) :
    (∃ made, (after (SignIn.step cfg lib) w calls).comparisons = made ++ w.comparisons ∧
      ∀ start, (within start (minutes cfg.loginLockoutMinutes) (wrongTimes userId made) : ℤ) ≤
        cfg.maxLoginAttempts) ∧
    ∀ row ∈ (after (SignIn.step cfg lib) w calls).users.rows, ∀ until', row.id = userId →
      row.lockedUntil = some until' → (after (SignIn.step cfg lib) w calls).now < until' →
      ∀ call : SignIn, ∃ made, (call.step cfg lib (after (SignIn.step cfg lib) w calls)).comparisons =
          made ++ (after (SignIn.step cfg lib) w calls).comparisons ∧ ∀ c ∈ made, c.userId ≠ userId := by
  refine ⟨?_, ?_⟩
  · obtain ⟨made, hmade, hguarded⟩ := (guarded_start hmax).run hmax hfail
    rw [List.append_nil] at hguarded
    exact ⟨made, hmade, hguarded.bound⟩
  · rintro row hrow until' rfl huntil hlock call
    exact none_compared call hrow huntil hlock

open Sample in
/-- Two wrong passwords, a minute apart. -/
def Sample.attempts : List SignIn :=
  [.attempt {} "ada@example.com" "wrong", .wait 60000000, .attempt {} "ada@example.com" "wrong"]

open Sample in
/-- None of them lets ada in. -/
lemma Sample.attempts_fail :
    Each (SignIn.step settings libraries) (SignIn.Fails settings libraries 1) world attempts := by
  have hnone : ∀ user, (.ok none : Except Exn (Option User)) = .ok (some user) → user.id ≠ 1 :=
    fun _ h => nomatch h
  show _ ∧ _ ∧ _ ∧ True
  exact ⟨hnone, hnone, hnone, trivial⟩

open Sample in
/-- The bound at this run. -/
theorem lockout_bound_attempts :
    (wrongTimes 1 (after (SignIn.step settings libraries) world attempts).comparisons).length = 2 ∧
    (∃ made, (after (SignIn.step settings libraries) world attempts).comparisons = made ++ [] ∧
      ∀ start, (within start (minutes 15) (wrongTimes 1 made) : ℤ) ≤ 5) ∧
    ∀ row ∈ (after (SignIn.step settings libraries) world attempts).users.rows, ∀ until', row.id = 1 →
      row.lockedUntil = some until' →
      (after (SignIn.step settings libraries) world attempts).now < until' →
      ∀ call : SignIn, ∃ made,
        (call.step settings libraries (after (SignIn.step settings libraries) world attempts)).comparisons =
          made ++ (after (SignIn.step settings libraries) world attempts).comparisons ∧
        ∀ c ∈ made, c.userId ≠ 1 :=
  ⟨by rfl, lockout_bound settings libraries (by decide) 1 world attempts attempts_fail⟩

end FastapiTemplate.Identity
