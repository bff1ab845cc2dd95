import FastapiTemplate.Core.Runtime
import FastapiTemplate.Effects.Journal

/-!
# Running the runtime

The run of each operation of the runtime in a given world, faults included, and `Frame`, the part of
the world that everything but a commit leaves alone.
-/

namespace FastapiTemplate.Core

open Effects Database Python Script

variable {S : Schema} {α β : Type} {s : Session} {w : World S}

/-! ### The world after an effect -/

namespace World

/-- The world after a reading of the clock. -/
def ticked (w : World S) : World S := { w with clockReads := w.clockReads + 1 }

/-- The world after a round trip that changed nothing. -/
def queried (w : World S) : World S := { w with dbCalls := w.dbCalls + 1 }

/-- The world after a commit. -/
def committed (w : World S) (cs : List Change) (d : Db S) : World S :=
  { w with db := d, log := w.log ++ [(cs, d)], dbCalls := w.dbCalls + 1 }

/-- The world after a run of publications, of which those before the first fault arrived. -/
def announced (w : World S) (events : List Event) (calls : ℕ) : World S :=
  { w with published := w.published ++ events, busCalls := w.busCalls + calls }

/-- The world after a round trip to Redis. -/
def answered (w : World S) (redis : Store.Counters String) : World S :=
  { w with redis := redis, clockReads := w.clockReads + 1, redisCalls := w.redisCalls + 1 }

end World

/-- Nothing was committed. -/
structure Frame (w w' : World S) : Prop where
  db : w'.db = w.db
  env : w'.env = w.env
  log : w'.log = w.log

namespace Frame

lemma refl (w : World S) : Frame w w := ⟨rfl, rfl, rfl⟩

lemma trans {w w' w'' : World S} (h : Frame w w') (h' : Frame w' w'') : Frame w w'' :=
  ⟨h'.db.trans h.db, h'.env.trans h.env, h'.log.trans h.log⟩

lemma ticked (w : World S) : Frame w w.ticked := ⟨rfl, rfl, rfl⟩

lemma queried (w : World S) : Frame w w.queried := ⟨rfl, rfl, rfl⟩

lemma announced (w : World S) (events : List Event) (calls : ℕ) : Frame w (w.announced events calls) :=
  ⟨rfl, rfl, rfl⟩

end Frame

lemma serve_commit (w : World S) (cs : List Change) : serve (.commit cs) w = w.commit cs := rfl

/-- What a commit does: it fails and changes nothing, or it goes through. -/
theorem World.commit_cases (w : World S) (cs : List Change) :
    (∃ e, w.commit cs = (.error e, w.queried)) ∨
      ∃ ids d, w.db.commit cs = .ok (ids, d) ∧ w.commit cs = (.ok ids, w.committed cs d) := by
  unfold World.commit World.queried World.committed
  split
  · exact .inl ⟨_, rfl⟩
  split
  · exact .inl ⟨_, rfl⟩
  · rename_i ids d hc
    exact .inr ⟨ids, d, hc, rfl⟩

/-- **What an effect does to the rows**: nothing, or it is a commit that goes through. -/
theorem serve_cases (w : World S) (e : Eff) :
    Frame w (serve e w).2 ∨
      ∃ cs ids d, e = .commit cs ∧ w.db.commit cs = .ok (ids, d) ∧ w.commit cs = (.ok ids, w.committed cs d) := by
  cases e with
  | commit cs =>
    rcases w.commit_cases cs with ⟨e, hcommit⟩ | ⟨ids, d, hc, hcommit⟩
    · refine .inl ?_
      rw [serve_commit, hcommit]
      exact .queried w
    · exact .inr ⟨cs, ids, d, rfl, hc, hcommit⟩
  | publish event =>
    simp only [serve]
    split <;> exact .inl ⟨rfl, rfl, rfl⟩
  | redis command =>
    simp only [serve]
    split <;> exact .inl ⟨rfl, rfl, rfl⟩
  | _ => exact .inl ⟨rfl, rfl, rfl⟩

/-- An effect adds to the journal of the commits what goes through. -/
lemma journal_serve {R : Db S → List Change → Db S → Prop} {db : Db S} {e : Eff} (h : Journal R db w.log w.db)
    (hnew : ∀ cs ids d, e = .commit cs → w.db.commit cs = .ok (ids, d) → w.commit cs = (.ok ids, w.committed cs d) →
      R w.db cs d) : Journal R db (serve e w).2.log (serve e w).2.db := by
  rcases serve_cases w e with hframe | ⟨cs, ids, d, rfl, hc, hcommit⟩
  · rwa [hframe.log, hframe.db]
  · rw [serve_commit, hcommit]
    exact h.snoc (hnew cs ids d rfl hc hcommit)

/-! ### The rules -/

@[simp] lemma exec_datetimeNow :
    (datetimeNow : Py S Datetime).exec serve s w = ⟨.ok (w.env.clock w.clockReads), s, w.ticked⟩ := rfl

@[simp] lemma exec_abort (e : Exn) :
    (abort e : Py S α).exec serve s w = ⟨.error e, { s with aborted := true }, w⟩ := rfl

/-- A `SELECT` sees the committed state, unless it fails. -/
theorem exec_execute (q : Db S → α) :
    (execute q).exec serve s w =
      if s.aborted then ⟨.error .inFailedTransaction, s, w⟩
      else if w.env.dbFails w.dbCalls then
        ⟨.error .operationalError, { s with aborted := true }, w.queried⟩
      else ⟨.ok (q w.db), s, w.queried⟩ := by
  unfold execute
  rw [exec_bind, exec_getState, Outcome.next_ok]
  cases s.aborted
  · cases hf : w.env.dbFails w.dbCalls <;> simp [serve, hf, orAbort, World.queried]
  · rfl

/-- A `SELECT` that returns. -/
lemma exec_execute_of_ok {q : Db S → α} {a : α} (h : ((execute q).exec serve s w).result = .ok a) :
    (execute q).exec serve s w = ⟨.ok (q w.db), s, w.queried⟩ := by
  rw [exec_execute] at h ⊢
  split at h
  · cases h
  split at h
  · cases h
  · rename_i habort hfail
    rw [if_neg habort, if_neg hfail]

theorem exec_select (rows : Db S → List α) (tenant : α → Option ℤ) (p : α → Bool) :
    (select rows tenant p).exec serve s w =
      if s.aborted then ⟨.error .inFailedTransaction, s, w⟩
      else if w.env.dbFails w.dbCalls then
        ⟨.error .operationalError, { s with aborted := true }, w.queried⟩
      else ⟨.ok ((rows w.db).filter fun r => visible s.tenant (tenant r) && p r), s, w.queried⟩ := by
  unfold select
  rw [exec_bind, exec_getState, Outcome.next_ok]
  exact exec_execute _

lemma exec_select_of_ok {rows : Db S → List α} {tenant : α → Option ℤ} {p : α → Bool} {as : List α}
    (h : ((select rows tenant p).exec serve s w).result = .ok as) :
    (select rows tenant p).exec serve s w =
      ⟨.ok ((rows w.db).filter fun r => visible s.tenant (tenant r) && p r), s, w.queried⟩ := by
  unfold select at h ⊢
  rw [exec_bind, exec_getState, Outcome.next_ok] at h ⊢
  exact exec_execute_of_ok h

/-- A `SELECT` for at most one row. -/
theorem exec_selectOne (rows : Db S → List α) (tenant : α → Option ℤ) (p : α → Bool)
    (ha : s.aborted = false) :
    (do let as ← select rows tenant p; MonadExcept.ofExcept (scalarOneOrNone as) :
      Py S (Option α)).exec serve s w =
      if w.env.dbFails w.dbCalls then
        ⟨.error .operationalError, { s with aborted := true }, w.queried⟩
      else ⟨scalarOneOrNone ((rows w.db).filter fun r => visible s.tenant (tenant r) && p r), s,
        w.queried⟩ := by
  rw [exec_bind, exec_select, if_neg (by rw [ha]; exact Bool.false_ne_true)]
  split
  · rfl
  · rw [Outcome.next_ok, exec_ofExcept]

@[simp] lemma exec_add (c : Change) :
    (add c : Py S Unit).exec serve s w = ⟨.ok (), { s with pending := s.pending ++ [c] }, w⟩ := rfl

@[simp] lemma exec_rollback :
    (rollback : Py S Unit).exec serve s w = ⟨.ok (), s.rolledBack, w⟩ := rfl

theorem exec_commit :
    (commit : Py S (List ℤ)).exec serve s w =
      if s.aborted then ⟨.error .inFailedTransaction, s, w⟩
      else if w.env.dbFails w.dbCalls then ⟨.error .operationalError, s.broken, w.queried⟩
      else match w.db.commit s.pending with
        | .error e => ⟨.error e, s.broken, w.queried⟩
        | .ok (ids, d) => ⟨.ok ids, { s with pending := [] }, w.committed s.pending d⟩ := by
  unfold commit
  rw [exec_bind, exec_getState, Outcome.next_ok]
  cases ha : s.aborted
  · cases hf : w.env.dbFails w.dbCalls
    · rcases hc : w.db.commit s.pending with e | ⟨ids, d⟩ <;>
        simp [serve, World.commit, hf, hc, ha, flushed, World.queried, World.committed]
    · simp [serve, World.commit, hf, flushed, World.queried]
  · rfl

/-- A commit that returns. -/
lemma exec_commit_of_ok {ids : List ℤ} (h : ((commit : Py S (List ℤ)).exec serve s w).result = .ok ids) :
    ∃ d, w.db.commit s.pending = .ok (ids, d) ∧
      (commit : Py S (List ℤ)).exec serve s w = ⟨.ok ids, { s with pending := [] }, w.committed s.pending d⟩ := by
  rw [exec_commit] at h ⊢
  split at h
  · cases h
  split at h
  · cases h
  split at h
  · cases h
  · rename_i habort hfail _ ids' d hc
    cases h
    exact ⟨d, hc, by rw [if_neg habort, if_neg hfail]⟩

theorem exec_publish (bus : EventBus) (event : Event) :
    (bus.publish event : Py S Unit).exec serve s w =
      if w.env.busFails w.busCalls then ⟨.error .bus, s, w.announced [] 1⟩
      else ⟨.ok (), s, w.announced [event] 1⟩ := by
  unfold EventBus.publish
  rw [exec_bind, exec_perform, Outcome.next_ok]
  cases hf : w.env.busFails w.busCalls <;> simp [serve, hf, World.announced]

theorem exec_redis (command : RedisCommand) :
    (redis command : Py S (Option ℤ)).exec serve s w =
      if w.env.redisFails w.redisCalls then
        ⟨.error .redis, s, { w with redisCalls := w.redisCalls + 1 }⟩
      else ⟨.ok (command.run (w.env.clock w.clockReads) w.redis).1, s,
        w.answered (command.run (w.env.clock w.clockReads) w.redis).2⟩ := by
  unfold redis
  rw [exec_bind, exec_perform, Outcome.next_ok]
  cases hf : w.env.redisFails w.redisCalls <;> simp [serve, hf, World.answered]

/-- Rows that have expired since cannot be read. -/
lemma exec_attributes (h : Handler Eff (Answer S) (World S)) (loaded : ℕ) :
    (attributes loaded : Py S Unit).exec h s w =
      if s.expirations = loaded then ⟨.ok (), s, w⟩ else ⟨.error .missingGreenlet, s, w⟩ := by
  unfold attributes
  rw [exec_bind, exec_getState, Outcome.next_ok]
  split <;> rfl

/-! ### Scripts that change nothing -/

/-- From `s` and `w` to `s'` and `w'` nothing was added to the session and nothing committed, and the
transaction was not aborted, unless a round trip failed. -/
structure Quiet (s : Session) (w : World S) (s' : Session) (w' : World S) : Prop
    extends Frame w w' where
  tenant : s'.tenant = s.tenant
  pending : s'.pending = s.pending
  aborted : (∀ n, w.env.dbFails n = false) → s'.aborted = s.aborted

lemma Quiet.refl (s : Session) (w : World S) : Quiet s w s w := ⟨.refl w, rfl, rfl, fun _ => rfl⟩

lemma Quiet.trans {s s' s'' : Session} {w w' w'' : World S} (h : Quiet s w s' w')
    (h' : Quiet s' w' s'' w'') : Quiet s w s'' w'' where
  toFrame := h.toFrame.trans h'.toFrame
  tenant := h'.tenant.trans h.tenant
  pending := h'.pending.trans h.pending
  aborted hup := (h'.aborted (by rwa [h.env])).trans (h.aborted hup)

/-- The script is quiet wherever it runs. -/
def IsQuiet (p : Py S α) : Prop :=
  ∀ s w, Quiet s w (p.exec serve s w).state (p.exec serve s w).world

namespace IsQuiet

theorem bind {p : Py S α} {f : α → Py S β} (hp : IsQuiet p) (hf : ∀ a, IsQuiet (f a)) :
    IsQuiet (p >>= f) := by
  intro s w
  have hp := hp s w
  rw [exec_bind]
  rcases ho : p.exec serve s w with ⟨_ | a, s', w'⟩
  · rw [ho] at hp
    exact hp
  · rw [ho] at hp
    exact hp.trans (hf a s' w')

lemma pure (a : α) : IsQuiet (Pure.pure a : Py S α) := fun s w => .refl s w

lemma throw (e : Exn) : IsQuiet (MonadExcept.throw e : Py S α) := fun s w => .refl s w

lemma select (rows : Db S → List α) (tenant : α → Option ℤ) (p : α → Bool) :
    IsQuiet (select rows tenant p) := by
  intro s w
  rw [exec_select]
  split
  · exact .refl s w
  split
  · rename_i hfail
    refine ⟨.queried w, rfl, rfl, fun hup => ?_⟩
    rw [hup w.dbCalls] at hfail
    cases hfail
  · exact ⟨.queried w, rfl, rfl, fun _ => rfl⟩

lemma publish (bus : EventBus) (event : Event) : IsQuiet (bus.publish event : Py S Unit) := by
  intro s w
  rw [exec_publish]
  split
  · exact ⟨.announced w _ _, rfl, rfl, fun _ => rfl⟩
  · exact ⟨.announced w _ _, rfl, rfl, fun _ => rfl⟩

end IsQuiet

/-- Refreshing reads, whatever comes of it. -/
theorem frame_refresh (rows : Db S → List α) (tenant : α → Option ℤ) (p : α → Bool) :
    Frame w ((refresh rows tenant p).exec serve s w).world ∧
      ((refresh rows tenant p).exec serve s w).world.published = w.published := by
  unfold refresh
  rw [exec_bind, exec_select]
  split
  · exact ⟨.refl w, rfl⟩
  split
  · exact ⟨.queried w, rfl⟩
  rw [Outcome.next_ok]
  split
  · exact ⟨.queried w, rfl⟩
  · exact ⟨.queried w, rfl⟩

end FastapiTemplate.Core
