import FastapiTemplate.Identity.Blacklist

/-!
# What the listing of sessions shows

The sessions of a user are an index with one time to live for all of them, and one hash for each with a time
to live of its own; both are cut at `JWT_BLACKLIST_TTL`. A session is listed as long as both are there.
`Indexed` says what they hold after the stores and the revocations of a user, and `listing_exact_iff` that
the listing is exact if and only if neither has lapsed for a session that has not expired.
-/

namespace FastapiTemplate.Identity

open Effects Python Store Script Store.Expiring

/-! ### What became of a session -/

/-- What the calls for a user do to the sessions. -/
inductive SessionEvent where
  | stored (time : Datetime) (payload : SessionCreatePayload)
  | revoked (jti : String)
  | revokedAll

/-- The session of a `jti` that was stored and not revoked since, with the time it was stored at; the latest
event comes first. -/
def standing (jti : String) : List SessionEvent → Option (Datetime × SessionCreatePayload)
  | [] => none
  | .stored time payload :: es => if payload.jti = jti then some (time, payload) else standing jti es
  | .revoked jti' :: es => if jti' = jti then none else standing jti es
  | .revokedAll :: _ => none

variable (cfg : Settings) (userId : ℤ)

/-- What an event changes in the index. -/
def SessionEvent.change : SessionEvent → Change String
  | .stored time payload => .touch time (cfg.ttl time payload.exp * second) payload.jti
  | .revoked jti => .drop jti
  | .revokedAll => .clear

/-- The session stays in the index up to `t`. -/
def StaysIndexed (es : List SessionEvent) (jti : String) (t : Datetime) : Prop :=
  Holds jti t (es.map (SessionEvent.change cfg))

/-- The hash of a session stored at `time` stays up to `t`. -/
def HashLasts (time : Datetime) (payload : SessionCreatePayload) (t : Datetime) : Prop :=
  0 < cfg.ttl time payload.exp * second ∧ t ≤ time + cfg.ttl time payload.exp * second

/-- The `jti` is in the index. -/
def InIndex (jti : String) (members : List (String × ℤ)) : Prop := jti ∈ members.map Prod.fst

/-- What Redis holds of the user's sessions, after the events. The listing takes out of the index what has
expired, so there it is what some changes say that differ from the events in this alone. -/
structure Indexed (es : List SessionEvent) (w : World) : Prop where
  index : ∃ cs, Tracks InIndex w.redis.sessions userId w.now cs ∧
    (∀ jti t, Holds jti t cs → StaysIndexed cfg es jti t) ∧
    ∀ jti time payload, standing jti es = some (time, payload) → timestamp w.now ≤ payload.exp →
      ∀ t, StaysIndexed cfg es jti t → Holds jti t cs
  nodup : ∀ t, w.now ≤ t → ∀ members, w.redis.sessions.get t userId = some members →
    (members.map Prod.fst).Nodup
  found : ∀ jti time payload, standing jti es = some (time, payload) → ∀ t, w.now ≤ t → ∀ info,
    w.redis.sessionMeta.get t (userId, jti) = some info →
      info = payload.info userId ∧ HashLasts cfg time payload t
  kept : ∀ jti time payload, standing jti es = some (time, payload) → timestamp w.now ≤ payload.exp →
    ∀ t, w.now ≤ t → HashLasts cfg time payload t →
      w.redis.sessionMeta.get t (userId, jti) = some (payload.info userId)

variable {cfg userId} {w w' : World} {es : List SessionEvent} {jti : String} {payload : SessionCreatePayload}
  {time t : Datetime}

lemma standing_jti (h : standing jti es = some (time, payload)) : payload.jti = jti := by
  induction es with
  | nil => cases h
  | cons e es ih =>
    cases e with
    | stored time' payload' =>
      unfold standing at h
      split at h
      · rename_i hjti
        obtain ⟨-, rfl⟩ := Prod.ext_iff.1 (Option.some.inj h)
        exact hjti
      · exact ih h
    | revoked jti' =>
      unfold standing at h
      split at h
      · cases h
      · exact ih h
    | revokedAll => cases h

/-- What stays in the index stands. -/
lemma StaysIndexed.standing (h : StaysIndexed cfg es jti t) :
    ∃ time payload, standing jti es = some (time, payload) := by
  induction es generalizing t with
  | nil => exact h.elim
  | cons e es ih =>
    cases e with
    | stored time payload =>
      unfold Identity.standing
      split
      · exact ⟨time, payload, rfl⟩
      · rename_i hne
        exact ih (h.2.resolve_left hne)
    | revoked jti' =>
      unfold Identity.standing
      rw [if_neg h.1]
      exact ih h.2
    | revokedAll => exact h.elim

lemma timestamp_mono {t t' : Datetime} (h : t ≤ t') : timestamp t ≤ timestamp t' :=
  Int.ediv_le_ediv (by decide) h

/-- Other keys change, or time goes by. -/
lemma Indexed.frame (h : Indexed cfg userId es w)
    (hindex : ∀ t, w'.redis.sessions.get t userId = w.redis.sessions.get t userId)
    (hmeta : ∀ t jti, w'.redis.sessionMeta.get t (userId, jti) = w.redis.sessionMeta.get t (userId, jti))
    (hnow : w.now ≤ w'.now) : Indexed cfg userId es w' := by
  have hstamp := timestamp_mono hnow
  refine ⟨?_, fun t ht => ?_, fun jti time payload hs t ht => ?_, fun jti time payload hs hexp t ht => ?_⟩
  · obtain ⟨cs, htracks, hsub, hsup⟩ := h.index
    exact ⟨cs, (htracks.congr hindex).later hnow, hsub,
      fun jti time payload hs hexp => hsup jti time payload hs (hstamp.trans hexp)⟩
  · rw [hindex]
    exact h.nodup t (hnow.trans ht)
  · rw [hmeta]
    exact h.found jti time payload hs t (hnow.trans ht)
  · rw [hmeta]
    exact h.kept jti time payload hs (hstamp.trans hexp) t (hnow.trans ht)

/-! ### The events -/

lemma inIndex_setScore {jti' : String} {score : ℤ} {members : List (String × ℤ)} :
    InIndex jti' (setScore jti score members) ↔ jti' = jti ∨ InIndex jti' members := by
  unfold InIndex setScore
  by_cases hj : jti' = jti
  · simp [hj]
  · simp [hj]

lemma inIndex_dropScore {jti' : String} {members : List (String × ℤ)} :
    InIndex jti' (dropScore jti members) ↔ jti' ≠ jti ∧ InIndex jti' members := by
  unfold InIndex dropScore
  by_cases hj : jti' = jti
  · simp [hj]
  · simp [hj]

lemma nodup_dropScore {members : List (String × ℤ)} (h : (members.map Prod.fst).Nodup) :
    ((dropScore jti members).map Prod.fst).Nodup :=
  h.sublist (List.filter_sublist.map _)

lemma nodup_setScore {members : List (String × ℤ)} {score : ℤ} (h : (members.map Prod.fst).Nodup) :
    ((setScore jti score members).map Prod.fst).Nodup := by
  have hnot : ¬InIndex jti (dropScore jti members) := fun hin => (inIndex_dropScore.1 hin).1 rfl
  show ((dropScore jti members ++ [(jti, score)]).map Prod.fst).Nodup
  rw [List.map_append, List.nodup_append]
  refine ⟨nodup_dropScore h, List.nodup_singleton _, fun a ha b hb => ?_⟩
  rw [List.map_singleton, List.mem_singleton] at hb
  rintro rfl
  exact hnot ((show a = jti from hb) ▸ ha)

/-- The world after `store_session`. -/
def World.storeSession (cfg : Settings) (userId : ℤ) (payload : SessionCreatePayload) (w : World) : World :=
  { w with
    redis :=
      { w.redis with
        sessions :=
          (w.redis.sessions.put w.now userId
            (setScore payload.jti payload.iat ((w.redis.sessions.get w.now userId).getD []))).expire w.now
              userId (cfg.ttl w.now payload.exp * second)
        sessionMeta :=
          (w.redis.sessionMeta.put w.now (userId, payload.jti) (payload.info userId)).expire w.now
            (userId, payload.jti) (cfg.ttl w.now payload.exp * second) } }

/-- The world after a session is taken out of the index and its hash deleted. -/
def World.dropSession (userId : ℤ) (jti : String) (w : World) : World :=
  { w with
    redis := { w.redis.zrem w.now userId jti with
      sessionMeta := w.redis.sessionMeta.delete (userId, jti) } }

lemma key_ne (userId : ℤ) {jti' : String} (h : jti' ≠ jti) : (userId, jti') ≠ (userId, jti) :=
  fun e => h (Prod.ext_iff.1 e).2

lemma get_storeSession_self {info : SessionInfo} :
    (w.storeSession cfg userId payload).redis.sessionMeta.get t (userId, payload.jti) = some info ↔
      info = payload.info userId ∧ HashLasts cfg w.now payload t := by
  rw [show (w.storeSession cfg userId payload).redis.sessionMeta.get t (userId, payload.jti) = _ from get_put_expire]
  split
  · rename_i hlasts
    rw [Option.some_inj, eq_comm]
    exact (and_iff_left hlasts).symm
  · rename_i hgone
    exact iff_of_false nofun fun h => hgone h.2

lemma get_storeSession_of_ne (h : jti ≠ payload.jti) :
    (w.storeSession cfg userId payload).redis.sessionMeta.get t (userId, jti) =
      w.redis.sessionMeta.get t (userId, jti) :=
  (get_expire_of_ne (key_ne userId h)).trans (get_put_of_ne (key_ne userId h))

/-- The session that is stored now, or one that was. -/
lemma standing_stored {now : Datetime} {payload' : SessionCreatePayload}
    (h : standing jti (.stored now payload :: es) = some (time, payload')) :
    (payload.jti = jti ∧ now = time ∧ payload = payload') ∨
      jti ≠ payload.jti ∧ standing jti es = some (time, payload') := by
  unfold standing at h
  split at h
  · rename_i hjti
    obtain ⟨rfl, rfl⟩ := Prod.ext_iff.1 (Option.some.inj h)
    exact .inl ⟨hjti, rfl, rfl⟩
  · rename_i hne
    exact .inr ⟨Ne.symm hne, h⟩

lemma Indexed.nodup_now (h : Indexed cfg userId es w) :
    (((w.redis.sessions.get w.now userId).getD []).map Prod.fst).Nodup := by
  cases hget : w.redis.sessions.get w.now userId with
  | none => exact List.nodup_nil
  | some members => exact h.nodup w.now le_rfl members hget

/-- **A session is stored.** -/
theorem Indexed.store (h : Indexed cfg userId es w) (payload : SessionCreatePayload) :
    Indexed cfg userId (.stored w.now payload :: es) (w.storeSession cfg userId payload) := by
  refine ⟨?_, fun t ht members hget => ?_, fun jti time payload' hs t ht info hget => ?_,
    fun jti time payload' hs hexp t ht hlasts => ?_⟩
  · obtain ⟨cs, htracks, hsub, hsup⟩ := h.index
    refine ⟨.touch w.now (cfg.ttl w.now payload.exp * second) payload.jti :: cs, ?_, ?_, ?_⟩
    · refine Tracks.touch htracks fun jti' => ?_
      rw [inIndex_setScore]
      refine or_congr Iff.rfl ?_
      cases w.redis.sessions.get w.now userId <;> simp [InIndex]
    · exact fun jti t hholds => ⟨hholds.1, hholds.2.imp id (hsub jti w.now)⟩
    · intro jti time payload' hs hexp t hstays
      rcases standing_stored hs with ⟨hjti, -, -⟩ | ⟨-, hs⟩
      · exact ⟨hstays.1, .inl hjti⟩
      · exact ⟨hstays.1, hstays.2.imp id (hsup jti time payload' hs hexp w.now)⟩
  · rw [show (w.storeSession cfg userId payload).redis.sessions.get t userId = _ from get_put_expire] at hget
    split at hget
    · obtain rfl := Option.some.inj hget
      exact nodup_setScore h.nodup_now
    · cases hget
  · rcases standing_stored hs with ⟨rfl, rfl, rfl⟩ | ⟨hne, hs⟩
    · exact get_storeSession_self.1 hget
    · rw [get_storeSession_of_ne hne] at hget
      exact h.found jti time payload' hs t ht info hget
  · rcases standing_stored hs with ⟨rfl, rfl, rfl⟩ | ⟨hne, hs⟩
    · exact get_storeSession_self.2 ⟨rfl, hlasts⟩
    · rw [get_storeSession_of_ne hne]
      exact h.kept jti time payload' hs hexp t ht hlasts

/-- The index after `ZREM`. -/
lemma tracks_zrem {cs : List (Change String)} (jti : String)
    (h : Tracks InIndex w.redis.sessions userId w.now cs) :
    Tracks InIndex (w.redis.zrem w.now userId jti).sessions userId w.now (.drop jti :: cs) := by
  unfold Redis.zrem
  cases hget : w.redis.sessions.get w.now userId with
  | none => exact h.drop_gone hget
  | some members =>
    dsimp only
    split
    · rename_i hempty
      refine h.drop_last hget fun jti' hin => ?_
      by_contra hne
      have hleft : InIndex jti' (dropScore jti members) := inIndex_dropScore.2 ⟨hne, hin⟩
      rw [hempty] at hleft
      cases hleft
    · exact h.drop hget fun jti' => inIndex_dropScore

lemma nodup_zrem (jti : String) (h : Indexed cfg userId es w) (ht : w.now ≤ t) {members : List (String × ℤ)}
    (hget : (w.redis.zrem w.now userId jti).sessions.get t userId = some members) :
    (members.map Prod.fst).Nodup := by
  unfold Redis.zrem at hget
  cases hold : w.redis.sessions.get w.now userId with
  | none =>
    rw [hold] at hget
    exact h.nodup t ht members hget
  | some old =>
    rw [hold] at hget
    dsimp only at hget
    split at hget
    · rw [get_delete_self] at hget
      cases hget
    · rw [get_put_self_of_live hold] at hget
      obtain ⟨_, -, rfl⟩ := Option.map_eq_some_iff.1 hget
      exact nodup_dropScore (h.nodup w.now le_rfl old hold)

@[simp] lemma get_dropSession_self : (w.dropSession userId jti).redis.sessionMeta.get t (userId, jti) = none :=
  get_delete_self

lemma get_dropSession_of_ne {jti' : String} (h : jti' ≠ jti) :
    (w.dropSession userId jti).redis.sessionMeta.get t (userId, jti') =
      w.redis.sessionMeta.get t (userId, jti') := get_delete_of_ne (key_ne userId h)

/-- **A session is revoked.** -/
theorem Indexed.revoke (h : Indexed cfg userId es w) (jti : String) :
    Indexed cfg userId (.revoked jti :: es) (w.dropSession userId jti) := by
  have hstanding : ∀ {jti' time payload}, standing jti' (.revoked jti :: es) = some (time, payload) →
      jti' ≠ jti ∧ standing jti' es = some (time, payload) := by
    intro jti' time payload hs
    unfold standing at hs
    split at hs
    · cases hs
    · rename_i hne
      exact ⟨Ne.symm hne, hs⟩
  refine ⟨?_, fun t ht members hget => nodup_zrem jti h ht hget, fun jti' time payload hs t ht info hget => ?_,
    fun jti' time payload hs hexp t ht hlasts => ?_⟩
  · obtain ⟨cs, htracks, hsub, hsup⟩ := h.index
    refine ⟨.drop jti :: cs, tracks_zrem jti htracks, fun jti' t hholds => ⟨hholds.1, hsub jti' t hholds.2⟩, ?_⟩
    exact fun jti' time payload hs hexp t hstays =>
      ⟨hstays.1, hsup jti' time payload (hstanding hs).2 hexp t hstays.2⟩
  · obtain ⟨hne, hs⟩ := hstanding hs
    rw [get_dropSession_of_ne hne] at hget
    exact h.found jti' time payload hs t ht info hget
  · obtain ⟨hne, hs⟩ := hstanding hs
    rw [get_dropSession_of_ne hne]
    exact h.kept jti' time payload hs hexp t ht hlasts

/-- **The listing takes out what has expired.** -/
theorem Indexed.prune (h : Indexed cfg userId es w)
    (hexp : ∀ time payload, standing jti es = some (time, payload) → payload.exp < timestamp w.now) :
    Indexed cfg userId es (w.dropSession userId jti) := by
  have hne : ∀ {jti' time payload}, standing jti' es = some (time, payload) →
      timestamp w.now ≤ payload.exp → jti' ≠ jti := by
    rintro jti' time payload hs hle rfl
    exact absurd (hexp time payload hs) (not_lt.2 hle)
  refine ⟨?_, fun t ht members hget => nodup_zrem jti h ht hget, fun jti' time payload hs t ht info hget => ?_,
    fun jti' time payload hs hle t ht hlasts => ?_⟩
  · obtain ⟨cs, htracks, hsub, hsup⟩ := h.index
    refine ⟨.drop jti :: cs, tracks_zrem jti htracks, fun jti' t hholds => hsub jti' t hholds.2, ?_⟩
    exact fun jti' time payload hs hle t hstays =>
      ⟨(hne hs hle).symm, hsup jti' time payload hs hle t hstays⟩
  · by_cases hj : jti' = jti
    · subst hj
      rw [get_dropSession_self] at hget
      cases hget
    · rw [get_dropSession_of_ne hj] at hget
      exact h.found jti' time payload hs t ht info hget
  · rw [get_dropSession_of_ne (hne hs hle)]
    exact h.kept jti' time payload hs hle t ht hlasts

/-- **All sessions are revoked.** -/
theorem Indexed.clear (hgone : ∀ t, w.redis.sessions.get t userId = none) :
    Indexed cfg userId (.revokedAll :: es) w := by
  refine ⟨⟨[], fun t _ jti => ?_, fun _ _ h => h.elim, nofun⟩, fun t _ members hget => ?_, nofun, nofun⟩
  · rw [hgone]
    exact iff_of_false (fun ⟨_, hget, _⟩ => nomatch hget) id
  · rw [hgone] at hget
    cases hget

/-! ### The functions, for the user -/

/-- The `jti`s in the index, in the order of the listing. -/
def World.indexed (w : World) (userId : ℤ) : List String :=
  (((w.redis.sessions.get w.now userId).getD []).insertionSort comesFirst).map Prod.fst

lemma exec_zrevrange :
    (redis (.zrevrange userId)).exec serve () w = ⟨.ok (w.indexed userId), (), w⟩ := rfl

lemma exec_hgetall :
    (redis (.hgetall userId jti)).exec serve () w =
      ⟨.ok (w.redis.sessionMeta.get w.now (userId, jti)), (), w⟩ := rfl

lemma zrem_sessionMeta (r : Redis) (t userId : ℤ) (jti : String) : (r.zrem t userId jti).sessionMeta = r.sessionMeta := by
  unfold Redis.zrem
  split <;> rfl

lemma exec_storeSession (henabled : cfg.jwtBlacklistEnabled = true) :
    (storeSession cfg userId payload).exec serve () w =
      ⟨.ok (), (), w.storeSession cfg userId payload⟩ := by
  unfold storeSession
  rw [henabled]
  rfl

/-- `ZREM` of a session and `DEL` of its hash. -/
lemma exec_dropSession {α : Type} (p : Auth α) :
    (do
      redis (.zrem userId jti)
      redis (.delete (.sessionMeta userId jti))
      p : Auth α).exec serve () w = p.exec serve () (w.dropSession userId jti) := by
  unfold World.dropSession
  rw [← zrem_sessionMeta w.redis w.now userId jti]
  rfl

/-- What the listing shows of some members of the index. -/
def Shown (cfg : Settings) (userId : ℤ) (es : List SessionEvent) (now : Datetime) (jtis : List String)
    (infos : List SessionInfo) : Prop :=
  (infos.map SessionInfo.jti).Sublist jtis ∧
    ∀ info, info ∈ infos ↔ ∃ jti ∈ jtis, ∃ time payload, standing jti es = some (time, payload) ∧
      timestamp now ≤ payload.exp ∧ HashLasts cfg time payload now ∧ info = payload.info userId

/-- A member that is not shown. -/
lemma Shown.skip {now : Datetime} {jtis : List String} {infos : List SessionInfo}
    (h : Shown cfg userId es now jtis infos)
    (hnot : ∀ time payload, standing jti es = some (time, payload) → timestamp now ≤ payload.exp →
      ¬HashLasts cfg time payload now) : Shown cfg userId es now (jti :: jtis) infos := by
  refine ⟨h.1.cons _, fun info => (h.2 info).trans ?_⟩
  simp only [List.mem_cons, exists_eq_or_imp]
  refine ⟨.inr, fun hs => hs.resolve_left ?_⟩
  rintro ⟨time, payload, hs, hle, hlasts, -⟩
  exact hnot time payload hs hle hlasts

/-- A member that is shown. -/
lemma Shown.add {now : Datetime} {jtis : List String} {infos : List SessionInfo}
    (h : Shown cfg userId es now jtis infos) (hs : standing jti es = some (time, payload))
    (hle : timestamp now ≤ payload.exp) (hlasts : HashLasts cfg time payload now) :
    Shown cfg userId es now (jti :: jtis) (payload.info userId :: infos) := by
  refine ⟨?_, fun info => ?_⟩
  · rw [List.map_cons, show (payload.info userId).jti = jti from standing_jti hs]
    exact h.1.cons_cons jti
  · simp only [List.mem_cons, exists_eq_or_imp, h.2 info, hs]
    refine or_congr ⟨?_, ?_⟩ Iff.rfl
    · rintro rfl
      exact ⟨time, payload, rfl, hle, hlasts, rfl⟩
    · rintro ⟨time', payload', heq, -, -, rfl⟩
      obtain ⟨-, rfl⟩ := Prod.ext_iff.1 (Option.some.inj heq)
      rfl

/-- **The loop of the listing.** -/
theorem collectSessions_shown (jtis : List String) (h : Indexed cfg userId es w)
    (hstanding : ∀ jti ∈ jtis, ∃ time payload, standing jti es = some (time, payload)) :
    ∃ infos w', (collectSessions userId (timestamp w.now) jtis).exec serve () w = ⟨.ok infos, (), w'⟩ ∧
      Indexed cfg userId es w' ∧ Shown cfg userId es w.now jtis infos := by
  induction jtis generalizing w with
  | nil => exact ⟨[], w, rfl, h, .slnil, by simp⟩
  | cons jti jtis ih =>
    have hrest : ∀ jti' ∈ jtis, ∃ time payload, standing jti' es = some (time, payload) :=
      fun jti' hmem => hstanding jti' (List.mem_cons_of_mem _ hmem)
    obtain ⟨time, payload, hs⟩ := hstanding jti List.mem_cons_self
    have hother : ∀ {time' payload'}, standing jti es = some (time', payload') → payload' = payload := by
      intro time' payload' hs'
      rw [hs] at hs'
      exact (Prod.ext_iff.1 (Option.some.inj hs')).2.symm
    unfold collectSessions
    rw [exec_bind, exec_hgetall, Outcome.next_ok]
    cases hget : w.redis.sessionMeta.get w.now (userId, jti) with
    | none =>
      -- the hash is gone
      obtain ⟨infos, w', hexec, hindexed, hshown⟩ := ih h hrest
      refine ⟨infos, w', hexec, hindexed, hshown.skip fun time' payload' hs' hle hlasts => ?_⟩
      · rw [h.kept jti time' payload' hs' hle w.now le_rfl hlasts] at hget
        cases hget
    | some info =>
      obtain ⟨rfl, hlasts⟩ := h.found jti time payload hs w.now le_rfl info hget
      have hread : pyInt (payload.info userId).expiresAt = .ok payload.exp := pyInt_toString payload.exp
      simp only [exec_bind, exec_ofExcept, hread, liftBuiltin, Outcome.next_ok]
      by_cases hexp : payload.exp < timestamp w.now
      · -- it has expired, and is taken out
        obtain ⟨infos, w', hexec, hindexed, hshown⟩ :=
          ih (h.prune fun time' payload' hs' => hother hs' ▸ hexp) hrest
        refine ⟨infos, w', ?_, hindexed, hshown.skip fun time' payload' hs' hle => ?_⟩
        · rw [if_pos hexp]
          exact (exec_dropSession _).trans hexec
        · rw [hother hs'] at hle
          exact absurd hexp (not_lt.2 hle)
      · obtain ⟨infos, w', hexec, hindexed, hshown⟩ := ih h hrest
        refine ⟨payload.info userId :: infos, w', ?_, hindexed, hshown.add hs (not_lt.1 hexp) hlasts⟩
        rw [if_neg hexp, exec_bind]
        show ((collectSessions userId (timestamp w.now) jtis).exec serve () w).next _ = _
        rw [hexec]
        rfl

lemma mem_indexed : jti ∈ w.indexed userId ↔
    ∃ members, w.redis.sessions.get w.now userId = some members ∧ InIndex jti members := by
  have hperm := (List.perm_insertionSort comesFirst ((w.redis.sessions.get w.now userId).getD [])).map Prod.fst
  unfold World.indexed
  rw [hperm.mem_iff]
  cases w.redis.sessions.get w.now userId <;> simp [InIndex]

lemma Indexed.nodup_indexed (h : Indexed cfg userId es w) : (w.indexed userId).Nodup := by
  have hperm := (List.perm_insertionSort comesFirst ((w.redis.sessions.get w.now userId).getD [])).map Prod.fst
  unfold World.indexed
  rw [hperm.nodup_iff]
  cases hget : w.redis.sessions.get w.now userId with
  | none => exact List.nodup_nil
  | some members => exact h.nodup w.now le_rfl members hget

/-- What is in the index stands, and has stayed there. -/
lemma Indexed.stays (h : Indexed cfg userId es w) (hin : jti ∈ w.indexed userId) :
    StaysIndexed cfg es jti w.now := by
  obtain ⟨cs, htracks, hsub, -⟩ := h.index
  exact hsub jti w.now ((htracks w.now le_rfl jti).1 (mem_indexed.1 hin))

/-- A session that has not expired and has stayed in the index is there. -/
lemma Indexed.mem (h : Indexed cfg userId es w) (hs : standing jti es = some (time, payload))
    (hle : timestamp w.now ≤ payload.exp) (hstays : StaysIndexed cfg es jti w.now) :
    jti ∈ w.indexed userId := by
  obtain ⟨cs, htracks, -, hsup⟩ := h.index
  exact mem_indexed.2 ((htracks w.now le_rfl jti).2 (hsup jti time payload hs hle w.now hstays))

/-- **The listing.** -/
theorem listActiveSessions_shown (henabled : cfg.jwtBlacklistEnabled = true) (h : Indexed cfg userId es w) :
    ∃ infos w', (listActiveSessions cfg userId).exec serve () w = ⟨.ok infos, (), w'⟩ ∧
      Indexed cfg userId es w' ∧ Shown cfg userId es w.now (w.indexed userId) infos := by
  obtain ⟨infos, w', hexec, hindexed, hshown⟩ :=
    collectSessions_shown (w.indexed userId) h fun jti hin => (h.stays hin).standing
  refine ⟨infos, w', ?_, hindexed, hshown⟩
  unfold listActiveSessions
  rw [henabled]
  exact hexec

/-- The hashes of these members hold the expiry as a number. -/
def Legible (userId : ℤ) (jtis : List String) (w : World) : Prop :=
  ∀ jti ∈ jtis, ∀ info, w.redis.sessionMeta.get w.now (userId, jti) = some info →
    ∃ exp : ℤ, info.expiresAt = toString exp

/-- The members were blacklisted at this moment, each with the expiry in its hash. -/
def AllBlacklisted (userId : ℤ) (jtis : List String) (w w' : World) : Prop :=
  ∃ made, w'.blacklistings = made ++ w.blacklistings ∧ ∀ jti ∈ jtis, ∀ info exp,
    w.redis.sessionMeta.get w.now (userId, jti) = some info → info.expiresAt = toString (exp : ℤ) →
      ⟨w.now, userId, jti, exp⟩ ∈ made

/-- The world after a member is blacklisted and its hash deleted. -/
def World.revokeMember (cfg : Settings) (userId : ℤ) (jti : String) (exp : ℤ) (w : World) : World :=
  { w.addBlacklisted cfg userId jti exp with
    redis := (Redis.run w.now (w.addBlacklisted cfg userId jti exp).redis (.delete (.sessionMeta userId jti))).2 }

lemma get_revokeMember {jti' : String} {exp : ℤ} : (w.revokeMember cfg userId jti exp).redis.sessionMeta.get t (userId, jti') =
    if jti' = jti then none else w.redis.sessionMeta.get t (userId, jti') := by
  show (w.redis.sessionMeta.delete (userId, jti)).get t (userId, jti') = _
  split
  · rename_i hj
    rw [hj, get_delete_self]
  · rename_i hj
    exact get_delete_of_ne (key_ne userId hj)

lemma Legible.revokeMember {jtis : List String} (cfg : Settings) (exp : ℤ) (h : Legible userId (jti :: jtis) w) :
    Legible userId jtis (w.revokeMember cfg userId jti exp) := by
  intro jti' hmem info hget
  rw [get_revokeMember] at hget
  split at hget
  · cases hget
  · exact h jti' (List.mem_cons_of_mem _ hmem) info hget

/-- One member more, `exp` being what its hash says if there is one. -/
lemma AllBlacklisted.cons {jtis : List String} {exp : ℤ} (hhead : ∀ info,
      w.redis.sessionMeta.get w.now (userId, jti) = some info → info.expiresAt = toString exp)
    (h : AllBlacklisted userId jtis (w.revokeMember cfg userId jti exp) w') :
    AllBlacklisted userId (jti :: jtis) w w' := by
  obtain ⟨made, hmade, hall⟩ := h
  refine ⟨made ++ [⟨w.now, userId, jti, exp⟩], ?_, fun jti' hmem info exp' hget hexp => ?_⟩
  · rw [hmade, List.append_assoc]
    rfl
  · by_cases hj : jti' = jti
    · subst hj
      have hread := pyInt_toString exp
      rw [← hhead info hget, hexp, pyInt_toString] at hread
      rw [Except.ok.inj hread]
      exact List.mem_append_right _ List.mem_cons_self
    · refine List.mem_append_left _ (hall jti' ((List.mem_cons.1 hmem).resolve_left hj) info exp' ?_ hexp)
      exact (get_revokeMember.trans (if_neg hj)).trans hget

/-- **The loop of `revoke_all_user_sessions`** blacklists the members and leaves the index alone. -/
theorem revokeMembers_index (henabled : cfg.jwtBlacklistEnabled = true) {jtis : List String}
    (h : Legible userId jtis w) :
    ∃ w', (revokeMembers cfg userId jtis).exec serve () w = ⟨.ok (), (), w'⟩ ∧
      w'.redis.sessions = w.redis.sessions ∧ AllBlacklisted userId jtis w w' := by
  induction jtis generalizing w with
  | nil => exact ⟨w, rfl, rfl, [], rfl, nofun⟩
  | cons jti jtis ih =>
    have hrest : ∀ exp : ℤ, (∀ info, w.redis.sessionMeta.get w.now (userId, jti) = some info →
        info.expiresAt = toString exp) → ∃ w', (do
        blacklistToken cfg userId jti exp
        redis (.delete (.sessionMeta userId jti))
        revokeMembers cfg userId jtis : Auth Unit).exec serve () w = ⟨.ok (), (), w'⟩ ∧
          w'.redis.sessions = w.redis.sessions ∧ AllBlacklisted userId (jti :: jtis) w w' := by
      intro exp hhead
      obtain ⟨w', hexec, hsessions, hall⟩ := ih (h.revokeMember cfg exp)
      rw [exec_bind, exec_blacklistToken henabled, Outcome.next_ok, exec_bind, exec_redis, Outcome.next_ok]
      exact ⟨w', hexec, hsessions, hall.cons hhead⟩
    unfold revokeMembers
    rw [exec_bind, exec_hgetall, Outcome.next_ok]
    cases hget : w.redis.sessionMeta.get w.now (userId, jti) with
    | none => exact hrest 0 fun _ hsome => by rw [hget] at hsome; cases hsome
    | some info =>
      obtain ⟨exp, hexp⟩ := h jti List.mem_cons_self info hget
      simp only [hexp, pyInt_toString]
      refine hrest exp fun info' hsome => ?_
      rw [hget] at hsome
      exact (Option.some.inj hsome) ▸ hexp

/-- What is in the index can be read. -/
lemma Indexed.legible (h : Indexed cfg userId es w) : Legible userId (w.indexed userId) w := by
  intro jti hin info hget
  obtain ⟨time, payload, hs⟩ := (h.stays hin).standing
  obtain ⟨rfl, -⟩ := h.found jti time payload hs w.now le_rfl info hget
  exact ⟨payload.exp, rfl⟩

lemma setRevokedAll_sessions (r : Redis) (t u seconds : ℤ) (value : String) :
    (r.run t (.setRevokedAll u seconds value)).2.sessions = r.sessions ∧
      (r.run t (.setRevokedAll u seconds value)).2.sessionMeta = r.sessionMeta := by
  simp only [Redis.run]
  split <;> exact ⟨rfl, rfl⟩

/-- After the loop the index is deleted, also if the last command fails. -/
lemma world_revokeAllUserSessions (henabled : cfg.jwtBlacklistEnabled = true)
    (hexec : (revokeMembers cfg userId (w.indexed userId)).exec serve () w = ⟨.ok (), (), w'⟩) :
    ∃ r, ((revokeAllUserSessions cfg userId).exec serve () w).world = { w' with redis := r } ∧
      r.sessions = w'.redis.sessions.delete userId := by
  unfold revokeAllUserSessions
  rw [henabled, if_neg (by decide), exec_bind, exec_zrevrange, Outcome.next_ok, exec_bind, exec_datetimeNow,
    Outcome.next_ok, exec_bind, hexec, Outcome.next_ok, exec_bind, exec_redis, Outcome.next_ok, exec_bind,
    exec_redis, Outcome.next_ok, exec_bind, exec_ofExcept]
  simp only [exec_pure, Outcome.next_world]
  exact ⟨_, rfl, (setRevokedAll_sessions _ _ _ _ _).1⟩

/-- **All sessions are revoked.** -/
theorem revokeAllUserSessions_index (henabled : cfg.jwtBlacklistEnabled = true)
    (h : Indexed cfg userId es w) :
    Indexed cfg userId (.revokedAll :: es)
      ((revokeAllUserSessions cfg userId).exec serve () w).world := by
  obtain ⟨w', hexec, -⟩ := revokeMembers_index henabled h.legible
  obtain ⟨r, hworld, hsessions⟩ := world_revokeAllUserSessions henabled hexec
  rw [hworld]
  refine Indexed.clear fun t => ?_
  show r.sessions.get t userId = none
  rw [hsessions]
  exact get_delete_self

/-! ### Sequences of calls -/

/-- The blacklist has nothing to do with the sessions. -/
lemma indexed_blacklistToken (userId' : ℤ) (jti : String) (exp : ℤ) :
    Keeps (Indexed cfg userId es) (blacklistToken cfg userId' jti exp) :=
  keeps_blacklistToken fun _ hw => hw.frame (fun _ => rfl) (fun _ _ => rfl) le_rfl

lemma get_zrem_of_ne {userId' : ℤ} (hne : userId ≠ userId') (r : Redis) (now : Datetime) (jti : String) :
    (r.zrem now userId' jti).sessions.get t userId = r.sessions.get t userId := by
  unfold Redis.zrem
  split
  · rfl
  · dsimp only
    split
    · exact get_delete_of_ne hne
    · exact get_put_of_ne hne

/-- Nor have the sessions of another user. -/
lemma indexed_elsewhere {userId' : ℤ} (hne : userId ≠ userId') (e : Eff) (he : e.SessionsOf userId') :
    Serves (Indexed cfg userId es) e := by
  intro w hw
  have hkey : ∀ jti' jti : String, (userId, jti') ≠ (userId', jti) := fun _ _ h => hne (Prod.ext_iff.1 h).1
  unfold Eff.SessionsOf at he
  split at he
  · exact hw
  · exact hw.frame (fun _ => get_put_of_ne (he ▸ hne)) (fun _ _ => rfl) le_rfl
  · exact hw
  · rename_i u jti
    refine hw.frame (fun _ => get_zrem_of_ne (he ▸ hne) _ _ _) (fun t jti' => ?_) le_rfl
    exact congrArg (fun m => Expiring.get m t (userId, jti')) (zrem_sessionMeta w.redis w.now u jti)
  · exact hw.frame (fun _ => rfl) (fun _ jti' => get_put_of_ne (he.1 ▸ hkey jti' _)) le_rfl
  · exact hw
  · rename_i u seconds value
    obtain ⟨hindex, hmeta⟩ := setRevokedAll_sessions w.redis w.now u seconds value
    exact hw.frame (fun t => congrArg (fun m => Expiring.get m t userId) hindex)
      (fun t jti' => congrArg (fun m => Expiring.get m t (userId, jti')) hmeta) le_rfl
  · exact hw.frame (fun _ => get_expire_of_ne (he ▸ hne)) (fun _ _ => rfl) le_rfl
  · exact hw.frame (fun _ => rfl) (fun _ jti' => get_expire_of_ne (he ▸ hkey jti' _)) le_rfl
  · exact hw.frame (fun _ => get_delete_of_ne (he ▸ hne)) (fun _ _ => rfl) le_rfl
  · exact hw.frame (fun _ => rfl) (fun _ jti' => get_delete_of_ne (he ▸ hkey jti' _)) le_rfl
  · exact he.elim

/-- What a call means for the sessions of the user. -/
def SessionCall.events (userId : ℤ) (now : Datetime) : SessionCall → List SessionEvent
  | .store u payload => if u = userId then [.stored now payload] else []
  | .revoke u jti _ => if u = userId then [.revoked jti] else []
  | .revokeAll u => if u = userId then [.revokedAll] else []
  | _ => []

/-- What the calls, the first of them made at `now`, mean for the sessions of the user. -/
def sessionEvents (userId : ℤ) (now : Datetime) (past : List SessionEvent) : List SessionCall → List SessionEvent
  | [] => past
  | call :: calls => sessionEvents userId (call.later now) (call.events userId now ++ past) calls

/-- **One call.** -/
theorem Indexed.step (henabled : cfg.jwtBlacklistEnabled = true) (h : Indexed cfg userId es w)
    (call : SessionCall) : Indexed cfg userId (call.events userId w.now ++ es) (call.step cfg w) := by
  have hother : ∀ {u : ℤ}, ¬u = userId → ∀ e : Eff, e.SessionsOf u → Serves (Indexed cfg userId es) e :=
    fun hne => indexed_elsewhere (Ne.symm hne)
  unfold SessionCall.events SessionCall.step
  cases call with
  | blacklist u jti exp => exact (indexed_blacklistToken u jti exp () w h).1
  | store u payload =>
    dsimp only [SessionCall.script]
    split
    · rename_i hu
      subst hu
      rw [exec_storeSession henabled]
      exact h.store payload
    · rename_i hne
      exact (Keeps.storeSession (hother hne) payload () w h).1
  | list u =>
    rw [show (SessionCall.list u).script cfg = (listActiveSessions cfg u >>= fun _ => pure ()) from rfl,
      world_discard]
    by_cases hu : u = userId
    · subst hu
      obtain ⟨infos, w', hexec, hindexed, -⟩ := listActiveSessions_shown henabled h
      rw [hexec]
      exact hindexed
    · exact (Keeps.listActiveSessions (hother hu) () w h).1
  | revoke u jti exp =>
    dsimp only [SessionCall.script]
    split
    · rename_i hu
      subst hu
      unfold revokeSession
      rw [henabled, if_neg (by decide), exec_dropSession, exec_blacklistToken henabled]
      exact (h.revoke jti).frame (fun _ => rfl) (fun _ _ => rfl) le_rfl
    · rename_i hne
      exact (Keeps.revokeSession (hother hne) (indexed_blacklistToken u) jti exp () w h).1
  | revokeAll u =>
    rw [show (SessionCall.revokeAll u).script cfg = (revokeAllUserSessions cfg u >>= fun _ => pure ()) from rfl,
      world_discard]
    dsimp only
    split
    · rename_i hu
      subst hu
      exact revokeAllUserSessions_index henabled h
    · rename_i hne
      exact (Keeps.revokeAllUserSessions (hother hne) (indexed_blacklistToken u) () w h).1
  | wait time => exact h.frame (fun _ => rfl) (fun _ _ => rfl) (Int.le_add_of_nonneg_right (Int.natCast_nonneg _))

/-- **The sessions after any calls.** -/
theorem Indexed.run (henabled : cfg.jwtBlacklistEnabled = true) (calls : List SessionCall)
    (h : Indexed cfg userId es w) :
    Indexed cfg userId (sessionEvents userId w.now es calls) (after (SessionCall.step cfg) w calls) := by
  induction calls generalizing w es with
  | nil => exact h
  | cons call calls ih =>
    have hstep := ih (h.step henabled call)
    rw [call.now_step] at hstep
    exact hstep

/-- No index. -/
lemma indexed_empty (cfg : Settings) (hempty : w.redis.sessions.get w.now userId = none) :
    Indexed cfg userId [] w := by
  have hnone : ∀ t, w.now ≤ t → ∀ members, w.redis.sessions.get t userId ≠ some members := by
    intro t ht members hget
    rw [get_earlier hget ht] at hempty
    cases hempty
  refine ⟨⟨[], fun t ht jti => ?_, fun _ _ h => h.elim, nofun⟩,
    fun t ht members hget => absurd hget (hnone t ht members), nofun, nofun⟩
  exact iff_of_false (fun ⟨members, hget, _⟩ => hnone t ht members hget) id

/-! ### The listing -/

/-- The listing returns exactly the sessions of the user that were stored, have not been revoked and have not
expired, each once. -/
def ListsExactly (cfg : Settings) (userId : ℤ) (es : List SessionEvent) (w : World) : Prop :=
  ∃ infos, ((listActiveSessions cfg userId).exec serve () w).result = .ok infos ∧
    (infos.map SessionInfo.jti).Nodup ∧
    ∀ info, info ∈ infos ↔ ∃ jti time payload, standing jti es = some (time, payload) ∧
      timestamp w.now ≤ payload.exp ∧ info = payload.info userId

/-- No such session has lapsed in Redis. -/
def SessionsKept (cfg : Settings) (es : List SessionEvent) (now : Datetime) : Prop :=
  ∀ jti time payload, standing jti es = some (time, payload) → timestamp now ≤ payload.exp →
    StaysIndexed cfg es jti now ∧ HashLasts cfg time payload now

/-- The listing is exact if nothing has lapsed, and only then. -/
theorem Indexed.lists_iff (henabled : cfg.jwtBlacklistEnabled = true) (h : Indexed cfg userId es w) :
    ListsExactly cfg userId es w ↔ SessionsKept cfg es w.now := by
  obtain ⟨infos, w', hexec, -, hshown⟩ := listActiveSessions_shown henabled h
  constructor
  · rintro ⟨infos', hresult, -, hexact⟩ jti time payload hs hle
    rw [hexec] at hresult
    obtain rfl := Except.ok.inj hresult
    obtain ⟨jti', hin, time', payload', hs', -, hlasts, heq⟩ :=
      (hshown.2 _).1 ((hexact _).2 ⟨jti, time, payload, hs, hle, rfl⟩)
    have hjti : jti = jti' := by
      rw [← standing_jti hs, ← standing_jti hs']
      exact congrArg SessionInfo.jti heq
    subst hjti
    rw [hs] at hs'
    obtain ⟨rfl, rfl⟩ := Prod.ext_iff.1 (Option.some.inj hs')
    exact ⟨h.stays hin, hlasts⟩
  · intro hkept
    refine ⟨infos, by rw [hexec], h.nodup_indexed.sublist hshown.1, fun info => (hshown.2 info).trans ?_⟩
    constructor
    · rintro ⟨jti, -, time, payload, hs, hle, -, heq⟩
      exact ⟨jti, time, payload, hs, hle, heq⟩
    · rintro ⟨jti, time, payload, hs, hle, heq⟩
      obtain ⟨hstays, hlasts⟩ := hkept jti time payload hs hle
      exact ⟨jti, h.mem hs hle hstays, time, payload, hs, hle, hlasts, heq⟩

/-- **When the listing is exact**: after any calls for any users, if and only if, of the user's sessions
that have not expired, none has lapsed in the index or with its hash. -/
theorem listing_exact_iff (cfg : Settings) (henabled : cfg.jwtBlacklistEnabled = true) (userId : ℤ)
    (w : World) (hempty : w.redis.sessions.get w.now userId = none) (calls : List SessionCall) :
    ListsExactly cfg userId (sessionEvents userId w.now [] calls) (after (SessionCall.step cfg) w calls) ↔
      SessionsKept cfg (sessionEvents userId w.now [] calls) (after (SessionCall.step cfg) w calls).now :=
  ((indexed_empty cfg hempty).run henabled calls).lists_iff henabled

/-- The session of a refresh token issued at second 1000, which lives for a week. -/
def Sample.refreshSession : SessionCreatePayload := ⟨"r", "refresh", none, none, 1000, 605800⟩

open Sample in
/-- It is stored, and a day and a second go by. -/
def Sample.dayLater : List SessionCall := [.store 1 refreshSession, .wait 86401000000]

open Sample in
/-- A day later the session of a refresh token is not listed, though it has six more days. -/
theorem refresh_session_unlisted :
    standing "r" (sessionEvents 1 world.now [] dayLater) = some (world.now, refreshSession) ∧
      timestamp (after (SessionCall.step settings) world dayLater).now ≤ refreshSession.exp ∧
      ((listActiveSessions settings 1).exec serve ()
        (after (SessionCall.step settings) world dayLater)).result = .ok [] :=
  ⟨by rfl, by decide +kernel, by rfl⟩

open Sample in
/-- The equivalence for these calls. -/
theorem listing_exact_iff_dayLater :
    ListsExactly settings 1 (sessionEvents 1 world.now [] dayLater)
        (after (SessionCall.step settings) world dayLater) ↔
      SessionsKept settings (sessionEvents 1 world.now [] dayLater)
        (after (SessionCall.step settings) world dayLater).now :=
  listing_exact_iff settings rfl 1 world rfl dayLater

end FastapiTemplate.Identity
