import FastapiTemplate.Core.Exec
import FastapiTemplate.Core.Pace

/-!
# Inserts that fail

The world of `serve`, except that inserting an invoice of certain subscriptions fails. A script that
commits nothing runs in it as it does in the other (`exec_idle`), and so does a commit without such an
insert.
-/

namespace FastapiTemplate.Core

open Effects Database Python Script

variable {S : Schema} {α : Type} {fault : ℤ → Option Exn} {s : Session} {w w' w'' : World S}

/-- The error of a change, if it inserts an invoice of a subscription with a fault. -/
def failure (fault : ℤ → Option Exn) : Change → Option Exn
  | .insertInvoice row => fault row.subscriptionId
  | _ => none

/-- How the world answers when inserting an invoice of a subscription fails with the error `fault` gives
it. -/
def serveFailing (fault : ℤ → Option Exn) : Handler Eff (Answer S) (World S)
  | .commit cs, w =>
    match cs.findSome? (failure fault) with
    | some e => (.error e, w.queried)
    | none => w.commit cs
  | e, w => serve e w

/-- Without faults it is the world of `serve`. -/
lemma serveFailing_none : (serveFailing fun _ => none : Handler Eff (Answer S) (World S)) = serve := by
  funext e w
  cases e with
  | commit cs =>
    have hnone : cs.findSome? (failure fun _ => none) = none :=
      List.findSome?_eq_none_iff.2 fun c _ => by cases c <;> rfl
    simp only [serveFailing, hnone]
    rfl
  | _ => rfl

/-- A script that commits nothing does not meet the faults. -/
theorem exec_idle {p : Py S α} {Q : α → Prop} (hp : Idle p Q) :
    p.exec (serveFailing fault) s w = p.exec serve s w := by
  refine Wp.exec_congr (M := pace fun _ => False) (fun m e w hallow => ?_) (hp _ s .fresh) w
  cases e with
  | commit cs =>
    cases m with
    | fresh => exact hallow.elim
    | settled => exact hallow.1.elim
    | refused => exact hallow.elim
  | _ => rfl

/-- Nor does a commit without an insert that fails. -/
lemma exec_commit_sound (h : s.pending.findSome? (failure fault) = none) :
    (commit : Py S (List ℤ)).exec (serveFailing fault) s w = commit.exec serve s w := by
  unfold commit
  rw [exec_bind, exec_bind, exec_getState, exec_getState, Outcome.next_ok, Outcome.next_ok]
  split
  · rfl
  · have hserve : serveFailing fault (.commit s.pending) w = serve (.commit s.pending) w := by
      simp only [serveFailing, h]
      rfl
    rw [exec_bind, exec_bind, exec_perform, exec_perform, hserve, Outcome.next_ok, Outcome.next_ok]
    cases (serve (.commit s.pending) w).1 <;> rfl

/-- A commit with one fails and leaves the session broken. -/
lemma exec_commit_fault {e : Exn} (ha : s.aborted = false)
    (h : s.pending.findSome? (failure fault) = some e) :
    (commit : Py S (List ℤ)).exec (serveFailing fault) s w = ⟨.error e, s.broken, w.queried⟩ := by
  unfold commit
  have hserve : serveFailing fault (.commit s.pending) w = (.error e, w.queried) := by
    simp only [serveFailing, h]
  rw [exec_bind, exec_getState, Outcome.next_ok, if_neg (by rw [ha]; exact Bool.false_ne_true), exec_bind,
    exec_perform, hserve, Outcome.next_ok]
  rfl

/-! ### A database that does not fail -/

/-- From now on no round trip to the database fails. -/
def World.Up (w : World S) : Prop := ∀ n, w.dbCalls ≤ n → w.env.dbFails n = false

/-- The world some time later. -/
structure World.Later (w w' : World S) : Prop where
  env : w'.env = w.env
  calls : w.dbCalls ≤ w'.dbCalls

namespace World.Later

lemma refl (w : World S) : w.Later w := ⟨rfl, le_rfl⟩

lemma trans (h : w.Later w') (h' : w'.Later w'') : w.Later w'' :=
  ⟨h'.env.trans h.env, h.calls.trans h'.calls⟩

lemma up (h : w.Later w') (hw : w.Up) : w'.Up := fun n hn => by
  rw [h.env]
  exact hw n (h.calls.trans hn)

lemma queried (w : World S) : w.Later w.queried := ⟨rfl, Nat.le_succ _⟩

lemma ticked (w : World S) : w.Later w.ticked := ⟨rfl, le_rfl⟩

end World.Later

/-- The session between two commits of a task: nothing failed, nothing pending, no tenant. -/
structure Session.Ready (s : Session) : Prop where
  aborted : s.aborted = false
  pending : s.pending = []
  tenant : s.tenant = none

/-- A `SELECT` of a task. -/
lemma exec_select_ready (hs : s.Ready) (hw : w.Up) (rows : Db S → List α) (tenant : α → Option ℤ)
    (p : α → Bool) :
    (select rows tenant p).exec serve s w = ⟨.ok ((rows w.db).filter p), s, w.queried⟩ := by
  rw [exec_select, if_neg (by rw [hs.aborted]; exact Bool.false_ne_true),
    if_neg (by rw [hw _ le_rfl]; exact Bool.false_ne_true)]
  simp [visible, hs.tenant]

lemma exec_execute_ready (hs : s.Ready) (hw : w.Up) (q : Db S → α) :
    (execute q).exec serve s w = ⟨.ok (q w.db), s, w.queried⟩ := by
  rw [exec_execute, if_neg (by rw [hs.aborted]; exact Bool.false_ne_true),
    if_neg (by rw [hw _ le_rfl]; exact Bool.false_ne_true)]

lemma exec_now_failing : (datetimeNow : Py S Datetime).exec (serveFailing fault) s w =
    ⟨.ok (w.env.clock w.clockReads), s, w.ticked⟩ := rfl

lemma exec_add_failing (c : Change) : (add c : Py S Unit).exec (serveFailing fault) s w =
    ⟨.ok (), { s with pending := s.pending ++ [c] }, w⟩ := rfl

lemma Session.Ready.cleared (hs : s.Ready) : { s with pending := [] } = s := by
  cases s
  cases hs.pending
  rfl

/-- The commit of one change that the database accepts. -/
lemma exec_commitOne (hs : s.Ready) (hw : w.Up) {c : Change} (hc : failure fault c = none) {ids : List ℤ}
    {d : Db S} (hcommit : w.db.commit [c] = .ok (ids, d)) :
    (commit : Py S (List ℤ)).exec (serveFailing fault) { s with pending := s.pending ++ [c] } w =
      ⟨.ok ids, s, w.committed [c] d⟩ := by
  have hpending : s.pending ++ [c] = [c] := by rw [hs.pending, List.nil_append]
  rw [hpending, exec_commit_sound (by simp [hc]), exec_commit,
    if_neg (by rw [hs.aborted]; exact Bool.false_ne_true), if_neg (by rw [hw _ le_rfl]; exact Bool.false_ne_true),
    hcommit]
  dsimp only
  rw [hs.cleared]

/-- The commit of one change that fails. -/
lemma exec_commitOne_fault (hs : s.Ready) {c : Change} {e : Exn} (hc : failure fault c = some e) :
    (commit : Py S (List ℤ)).exec (serveFailing fault) { s with pending := s.pending ++ [c] } w =
      ⟨.error e, { s with pending := [c] }.broken, w.queried⟩ := by
  rw [hs.pending, List.nil_append]
  exact exec_commit_fault hs.aborted (by simp [hc])

end FastapiTemplate.Core
