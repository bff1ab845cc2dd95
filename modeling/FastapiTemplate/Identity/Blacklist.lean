import FastapiTemplate.Effects.Calls
import FastapiTemplate.Identity.Keeping

/-!
# How long a revoked token stays in the blacklist

The revoked tokens of a user share one set with one time to live, which every call of `blacklist_token` sets
anew. So an entry is there as long as no time to live that was set since has run out before the next call
(`Tracked`), and `stays_blacklisted_iff` says that this is all that `is_token_blacklisted` needs.
-/

namespace FastapiTemplate.Identity

open Effects Python Store Script Store.Expiring

variable (cfg : Settings)

/-! ### What the set holds -/

/-- What a call of `blacklist_token` changes. -/
def Blacklisting.change (b : Blacklisting) : Change String :=
  .touch b.time (cfg.ttl b.time b.exp * second) (blacklistMember b.jti b.exp)

/-- The changes of a user's blacklist. -/
def blacklistHistory (userId : ℤ) (bs : List Blacklisting) : List (Change String) :=
  (bs.filter fun b => b.userId == userId).map (Blacklisting.change cfg)

/-- The entry was written, and no time to live that was set since has run out. -/
def World.Keeps (userId : ℤ) (jti : String) (exp : ℤ) (w : World) : Prop :=
  Holds (blacklistMember jti exp) w.now (blacklistHistory cfg userId w.blacklistings)

/-- The blacklist of the user is what the calls of `blacklist_token` made it. -/
def Tracked (userId : ℤ) (w : World) : Prop :=
  Tracks (fun m members => m ∈ members) w.redis.blacklist userId w.now
    (blacklistHistory cfg userId w.blacklistings)

/-- The world after a call of `blacklist_token`. -/
def World.addBlacklisted (userId : ℤ) (jti : String) (exp : ℤ) (w : World) : World :=
  { w with
    redis :=
      { w.redis with
        blacklist :=
          (w.redis.blacklist.put w.now userId
            (addMember (blacklistMember jti exp) (w.members userId))).expire w.now userId
              (cfg.ttl w.now exp * second) }
    blacklistings := ⟨w.now, userId, jti, exp⟩ :: w.blacklistings }

variable {cfg} {w w' : World} {userId userId' : ℤ} {jti : String} {exp : ℤ}

lemma exec_blacklistToken (henabled : cfg.jwtBlacklistEnabled = true) :
    (blacklistToken cfg userId jti exp).exec serve () w =
      ⟨.ok (), (), w.addBlacklisted cfg userId jti exp⟩ := by
  unfold blacklistToken
  rw [henabled]
  rfl

lemma mem_addMember {m m' : String} {members : List String} :
    m' ∈ addMember m members ↔ m' = m ∨ m' ∈ members := by
  unfold addMember
  split
  · rename_i hm
    exact ⟨.inr, fun h => h.elim (fun e => e ▸ hm) id⟩
  · simp [or_comm]

/-- What leaves the blacklist and the clock as they are, or lets time go by. -/
lemma Tracked.frame (h : Tracked cfg userId w) (hredis : w'.redis.blacklist = w.redis.blacklist)
    (hcalls : w'.blacklistings = w.blacklistings) (hnow : w.now ≤ w'.now) : Tracked cfg userId w' := by
  unfold Tracked
  rw [hredis, hcalls]
  exact Tracks.later h hnow

/-- **A token is blacklisted.** -/
theorem Tracked.add (h : Tracked cfg userId w) :
    Tracked cfg userId (w.addBlacklisted cfg userId' jti exp) := by
  by_cases hid : userId' = userId
  · subst hid
    have hmem : ∀ m, m ∈ addMember (blacklistMember jti exp) (w.members userId') ↔
        m = blacklistMember jti exp ∨ ∃ members, w.redis.blacklist.get w.now userId' = some members ∧
          m ∈ members := by
      intro m
      rw [mem_addMember]
      refine or_congr Iff.rfl ?_
      unfold World.members
      cases w.redis.blacklist.get w.now userId' <;> simp
    unfold Tracked blacklistHistory
    simp only [World.addBlacklisted, List.filter_cons, beq_self_eq_true, if_true, List.map_cons]
    exact Tracks.touch h hmem
  · refine Tracks.congr (s := w.redis.blacklist) ?_ fun t' => ?_
    · unfold blacklistHistory
      simp only [World.addBlacklisted, List.filter_cons, beq_iff_eq, hid, if_false]
      exact h
    · have hne : userId ≠ userId' := fun e => hid e.symm
      exact (get_expire_of_ne hne).trans (get_put_of_ne hne)

/-! ### What `is_token_blacklisted` finds -/

/-- The text is a member that `blacklist_token` writes for a `jti` without colon. -/
def WellFormed (m : String) : Prop := ∃ jti exp, ':' ∉ jti.toList ∧ m = blacklistMember jti exp

lemma cut_blacklistMember (h : ':' ∉ jti.toList) (exp : ℤ) :
    cut ':' (blacklistMember jti exp) = some (jti, toString exp) := cut_append h

lemma blacklistMember_injective {jti' : String} {exp' : ℤ} (h : ':' ∉ jti.toList) (h' : ':' ∉ jti'.toList)
    (heq : blacklistMember jti exp = blacklistMember jti' exp') : jti = jti' ∧ exp = exp' := by
  have hcut := cut_blacklistMember h exp
  rw [heq, cut_blacklistMember h' exp'] at hcut
  obtain ⟨hjti, htext⟩ := Prod.ext_iff.1 (Option.some.inj hcut)
  have hread := pyInt_toString exp'
  rw [show toString exp' = toString exp from htext, pyInt_toString] at hread
  exact ⟨hjti.symm, Except.ok.inj hread⟩

/-- The loop finds an entry of the token that has not expired. -/
theorem scanMembers_eq {members : List String} (now : ℤ) (hjti : ':' ∉ jti.toList)
    (h : ∀ m ∈ members, WellFormed m) :
    ∃ found, scanMembers now jti members = .ok found ∧
      (found = true ↔ ∃ exp, now ≤ exp ∧ blacklistMember jti exp ∈ members) := by
  induction members with
  | nil => exact ⟨false, rfl, by simp⟩
  | cons m members ih =>
    obtain ⟨found, hscan, hfound⟩ := ih fun m' hm' => h m' (List.mem_cons_of_mem _ hm')
    obtain ⟨j, e, hj, rfl⟩ := h m List.mem_cons_self
    have hstep : scanMembers now jti (blacklistMember j e :: members) =
        if e < now then .ok found else if j = jti then .ok true else .ok found := by
      unfold scanMembers
      rw [cut_blacklistMember hj]
      show (pyInt (toString e) >>= _) = _
      rw [pyInt_toString]
      simp only [hscan]
      rfl
    have hhead : ∀ exp, blacklistMember jti exp = blacklistMember j e ↔ jti = j ∧ exp = e := fun exp =>
      ⟨blacklistMember_injective hjti hj, fun ⟨hj, he⟩ => by rw [hj, he]⟩
    rw [hstep]
    simp only [List.mem_cons, hhead]
    by_cases hexp : e < now
    · rw [if_pos hexp]
      refine ⟨found, rfl, hfound.trans (exists_congr fun exp => and_congr_right fun hle => ?_)⟩
      exact ⟨.inr, fun h => h.resolve_left fun ⟨_, he⟩ => absurd (he ▸ hle) (not_le.2 hexp)⟩
    · rw [if_neg hexp]
      by_cases hj : j = jti
      · rw [if_pos hj]
        exact ⟨true, rfl, iff_of_true rfl ⟨e, not_lt.1 hexp, .inl ⟨hj.symm, rfl⟩⟩⟩
      · rw [if_neg hj]
        refine ⟨found, rfl, hfound.trans (exists_congr fun exp => and_congr_right fun _ => ?_)⟩
        exact ⟨.inr, fun h => h.resolve_left fun ⟨hjti, _⟩ => hj hjti.symm⟩

/-- Only what `blacklist_token` wrote is kept. -/
lemma World.Keeps.called {m : String} {t : ℤ} {bs : List Blacklisting}
    (h : Holds m t (blacklistHistory cfg userId bs)) :
    ∃ b ∈ bs, b.userId = userId ∧ m = blacklistMember b.jti b.exp := by
  obtain ⟨time, ttl, hmem⟩ := h.touched
  obtain ⟨b, hb, hchange⟩ := List.mem_map.1 hmem
  obtain ⟨hmem, hid⟩ := List.mem_filter.1 hb
  refine ⟨b, hmem, beq_iff_eq.1 hid, ?_⟩
  unfold Blacklisting.change at hchange
  injection hchange with _ _ hm
  exact hm.symm

/-- The calls of `blacklist_token` for the user had no `jti` with a colon; the application's own have
none. -/
def PlainCalls (userId : ℤ) (w : World) : Prop :=
  ∀ b ∈ w.blacklistings, b.userId = userId → ':' ∉ b.jti.toList

/-- **What `is_token_blacklisted` answers**: that an entry of the token is kept that has not expired. -/
theorem isBlacklisted_iff (henabled : cfg.jwtBlacklistEnabled = true) (h : Tracked cfg userId w)
    (hplain : PlainCalls userId w) (hjti : ':' ∉ jti.toList) :
    w.isBlacklisted cfg userId jti = .ok true ↔
      ∃ exp, timestamp w.now ≤ exp ∧ w.Keeps cfg userId jti exp := by
  have hmembers : ∀ m, m ∈ w.members userId ↔ Holds m w.now (blacklistHistory cfg userId w.blacklistings) := by
    intro m
    rw [← h w.now le_rfl m]
    unfold World.members
    cases w.redis.blacklist.get w.now userId <;> simp
  have hformed : ∀ m ∈ w.members userId, WellFormed m := by
    intro m hm
    obtain ⟨b, hb, hid, rfl⟩ := World.Keeps.called ((hmembers m).1 hm)
    exact ⟨b.jti, b.exp, hplain b hb hid, rfl⟩
  obtain ⟨found, hscan, hfound⟩ := scanMembers_eq (timestamp w.now) hjti hformed
  unfold World.isBlacklisted
  rw [if_pos henabled, hscan, liftBuiltin_eq_ok, Except.ok.injEq, hfound]
  exact exists_congr fun exp => and_congr_right fun _ => hmembers _

/-! ### Code that keeps the set in step with the calls -/

lemma Eff.Aside.frame {e : Eff} (he : e.Aside) (w : World) :
    (serve e w).2.redis.blacklist = w.redis.blacklist ∧ (serve e w).2.blacklistings = w.blacklistings ∧
      w.now ≤ (serve e w).2.now := by
  cases e with
  | blacklisted => exact he.elim
  | sleep time => exact ⟨rfl, rfl, Int.le_add_of_nonneg_right (Int.natCast_nonneg time)⟩
  | updateUser loaded cur =>
    have hframe : (serve (.updateUser loaded cur) w).2 = _ := w.updateUser_frame loaded cur
    rw [hframe]
    exact ⟨rfl, rfl, le_rfl⟩
  | insertUser user =>
    have hframe : (serve (.insertUser user) w).2 = _ := w.insertUser_frame user
    rw [hframe]
    exact ⟨rfl, rfl, le_rfl⟩
  | redis command =>
    refine ⟨?_, rfl, le_rfl⟩
    cases command with
    | sadd => exact he.elim
    | zrem u jti =>
      show (w.redis.zrem w.now u jti).blacklist = _
      unfold Redis.zrem
      split <;> rfl
    | setRevokedAll u seconds value =>
      show (Redis.run w.now w.redis (.setRevokedAll u seconds value)).2.blacklist = _
      unfold Redis.run
      dsimp only
      split <;> rfl
    | expire key seconds =>
      cases key with
      | blacklist => exact he.elim
      | _ => rfl
    | delete key =>
      cases key with
      | blacklist => exact he.elim
      | _ => rfl
    | _ => rfl
  | _ => exact ⟨rfl, rfl, le_rfl⟩

lemma Eff.Aside.serves {e : Eff} (he : e.Aside) : Serves (Tracked cfg userId) e := fun w hw =>
  have hframe := he.frame w
  hw.frame hframe.1 hframe.2.1 hframe.2.2

/-- What `blacklist_token` keeps. -/
lemma keeps_blacklistToken {I : World → Prop}
    (h : ∀ w, I w → I (w.addBlacklisted cfg userId jti exp)) : Keeps I (blacklistToken cfg userId jti exp) := by
  intro s w hw
  refine ⟨?_, fun _ _ => trivial⟩
  cases henabled : cfg.jwtBlacklistEnabled with
  | false =>
    unfold blacklistToken
    rw [henabled]
    exact hw
  | true =>
    rw [exec_blacklistToken henabled]
    exact h w hw

lemma tracked_blacklistToken (userId' : ℤ) (jti : String) (exp : ℤ) :
    Keeps (Tracked cfg userId) (blacklistToken cfg userId' jti exp) :=
  keeps_blacklistToken fun _ hw => hw.add

/-! ### Sequences of calls -/

/-- A call of a function of `core.jwt_blacklist`, or time going by. -/
inductive SessionCall where
  | blacklist (userId : ℤ) (jti : String) (exp : ℤ)
  | store (userId : ℤ) (payload : SessionCreatePayload)
  | list (userId : ℤ)
  | revoke (userId : ℤ) (jti : String) (exp : ℤ)
  | revokeAll (userId : ℤ)
  | wait (time : ℕ)

variable (cfg) in
def SessionCall.script : SessionCall → Auth Unit
  | .blacklist userId jti exp => blacklistToken cfg userId jti exp
  | .store userId payload => storeSession cfg userId payload
  | .list userId => do let _sessions ← listActiveSessions cfg userId
  | .revoke userId jti exp => revokeSession cfg userId jti exp
  | .revokeAll userId => do let _count ← revokeAllUserSessions cfg userId
  | .wait time => perform (Eff.sleep time)

/-- The world after a call. -/
def SessionCall.step (cfg : Settings) (call : SessionCall) (w : World) : World :=
  ((call.script cfg).exec serve () w).world

/-- What a call keeps. -/
theorem SessionCall.keeps {I : World → Prop} (hI : ∀ u, ∀ e : Eff, e.SessionsOf u → Serves I e)
    (hb : ∀ u jti exp, Keeps I (blacklistToken cfg u jti exp)) (call : SessionCall)
    (hwait : ∀ time, call = .wait time → Serves I (.sleep time)) : Keeps I (call.script cfg) := by
  cases call with
  | blacklist => exact hb _ _ _
  | store => exact .storeSession (hI _) _
  | list => exact .bind (.listActiveSessions (hI _)) fun _ => .pure _
  | revoke => exact .revokeSession (hI _) (hb _) _ _
  | revokeAll => exact .bind (.revokeAllUserSessions (hI _) (hb _)) fun _ => .pure _
  | wait => exact .perform (hwait _ rfl)

lemma SessionCall.tracked (call : SessionCall) : Keeps (Tracked cfg userId) (call.script cfg) :=
  call.keeps (fun _ _ he => he.aside.serves) tracked_blacklistToken fun _ _ => Eff.Aside.serves trivial

/-- The time after a call. -/
def SessionCall.later (now : Datetime) : SessionCall → Datetime
  | .wait time => now + time
  | _ => now

/-- Only waiting takes time. -/
lemma SessionCall.now_step (call : SessionCall) : (call.step cfg w).now = call.later w.now := by
  by_cases hwait : ∃ time, call = .wait time
  · obtain ⟨time, rfl⟩ := hwait
    rfl
  · have hkeeps : Keeps (fun w' => w'.now = w.now) (call.script cfg) :=
      call.keeps (fun _ _ he w' hw => (he.now_eq w').trans hw)
        (fun _ _ _ => keeps_blacklistToken fun _ hw => hw) fun time h => absurd ⟨time, h⟩ hwait
    have hlater : call.later w.now = w.now := by
      cases call <;> first | rfl | exact absurd ⟨_, rfl⟩ hwait
    rw [hlater]
    exact (hkeeps () w rfl).1

/-- A blacklist that is not there. -/
lemma tracked_empty (cfg : Settings) (hempty : w.redis.blacklist.get w.now userId = none) (hnew : w.blacklistings = []) :
    Tracked cfg userId w := by
  intro t ht m
  rw [hnew]
  refine iff_of_false ?_ id
  rintro ⟨members, hget, -⟩
  rw [get_earlier hget ht] at hempty
  cases hempty

/-- **The blacklist after any calls.** -/
theorem tracked_after (calls : List SessionCall) (h : Tracked cfg userId w) :
    Tracked cfg userId (after (SessionCall.step cfg) w calls) :=
  after_keeps (fun w call hw => (call.tracked () w hw).1) h

/-- Up to when a call of `blacklist_token` is to be honoured. -/
def Blacklisting.due (cfg : Settings) (b : Blacklisting) : Datetime :=
  min (b.exp * second) (b.time + cfg.jwtBlacklistTtl * second)

/-- Every token that was blacklisted is, for as long as it is to be. -/
def StaysBlacklisted (cfg : Settings) (userId : ℤ) (w : World) : Prop :=
  ∀ b ∈ w.blacklistings, b.userId = userId → w.now ≤ b.due cfg →
    w.isBlacklisted cfg userId b.jti = .ok true

/-- Every token that is to be blacklisted has an entry that no later call has let lapse. -/
def Unbroken (cfg : Settings) (userId : ℤ) (w : World) : Prop :=
  ∀ b ∈ w.blacklistings, b.userId = userId → w.now ≤ b.due cfg →
    ∃ exp, timestamp w.now ≤ exp ∧ w.Keeps cfg userId b.jti exp

/-- **When blacklisted tokens stay blacklisted**: after any calls for any users, if and only if no time to
live that a later call set for the user has run out. -/
theorem stays_blacklisted_iff (cfg : Settings) (henabled : cfg.jwtBlacklistEnabled = true) (userId : ℤ)
    (w : World) (hempty : w.redis.blacklist.get w.now userId = none) (hnew : w.blacklistings = [])
    (calls : List SessionCall) (hplain : PlainCalls userId (after (SessionCall.step cfg) w calls)) :
    StaysBlacklisted cfg userId (after (SessionCall.step cfg) w calls) ↔
      Unbroken cfg userId (after (SessionCall.step cfg) w calls) := by
  have htracked := tracked_after calls (tracked_empty cfg hempty hnew)
  refine forall₂_congr fun b hb => forall₂_congr fun hid _ => ?_
  exact isBlacklisted_iff henabled htracked hplain (hplain b hb hid)

/-- Two tokens of user 1 are revoked at second 1000: one that expires at 5000, then one that expires at
1001. -/
def Sample.revocations : List SessionCall :=
  [.blacklist 1 "a" 5000, .blacklist 1 "b" 1001, .wait 2000000]

open Sample in
/-- The second revocation ends the first one two seconds later. -/
theorem revocation_lapses :
    (⟨1000 * second, 1, "a", 5000⟩ : Blacklisting) ∈
        (after (SessionCall.step settings) world revocations).blacklistings ∧
      (after (SessionCall.step settings) world revocations).now ≤
        (⟨1000 * second, 1, "a", 5000⟩ : Blacklisting).due settings ∧
      (after (SessionCall.step settings) world revocations).isBlacklisted settings 1 "a" = .ok false :=
  ⟨by decide +kernel, by decide +kernel, by rfl⟩

open Sample in
/-- The equivalence after these calls. -/
theorem stays_blacklisted_iff_revocations :
    StaysBlacklisted settings 1 (after (SessionCall.step settings) world revocations) ↔
      Unbroken settings 1 (after (SessionCall.step settings) world revocations) :=
  stays_blacklisted_iff settings rfl 1 world rfl rfl revocations (by unfold PlainCalls; decide +kernel)

end FastapiTemplate.Identity
