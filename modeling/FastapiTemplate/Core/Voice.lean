import FastapiTemplate.Core.Exec
import FastapiTemplate.Effects.Monitor

/-!
# What a script publishes

`Says P p`: whatever is answered to it, the script `p` publishes only events of `P`. The rules follow
the text of the script; `Says.published` is what they give for a run.
-/

namespace FastapiTemplate.Core

open Effects Database Python Script

variable {S : Schema} {α β : Type} {P Q : Event → Prop}

/-- The monitor that only looks at publications. -/
def voice (P : Event → Prop) : Monitor Eff (Answer S) Unit where
  allows _
    | .publish e => P e
    | _ => True
  next _ _ _ := ()

def Says (P : Event → Prop) (p : Py S α) : Prop :=
  ∀ s, Wp (voice P) p s () (fun _ _ _ => True) fun _ _ _ => True

namespace Says

theorem bind {p : Py S α} {f : α → Py S β} (hp : Says P p) (hf : ∀ a, Says P (f a)) :
    Says P (p >>= f) := by
  intro s
  rw [wp_bind]
  exact (hp s).mono (fun a s' _ _ => hf a s') fun _ _ _ _ => trivial

theorem tryCatch {p : Py S α} {f : Exn → Py S α} (hp : Says P p) (hf : ∀ e, Says P (f e)) :
    Says P (MonadExcept.tryCatch p f) := by
  intro s
  refine wp_tryCatch.2 ?_
  exact (hp s).mono (fun _ _ _ _ => trivial) fun e s' _ _ => hf e s'

lemma pure (a : α) : Says P (Pure.pure a : Py S α) := fun _ => trivial

lemma throw (e : Exn) : Says P (MonadExcept.throw e : Py S α) := fun _ => trivial

lemma ofExcept (x : Except Exn α) : Says P (MonadExcept.ofExcept x : Py S α) :=
  fun _ => (wp_ofExcept x).2 ⟨fun _ _ => trivial, fun _ _ => trivial⟩

lemma datetimeNow : Says P (Core.datetimeNow : Py S Datetime) := fun _ => ⟨trivial, fun _ => trivial⟩

lemma enter (eventId : String) : Says P (perform (Eff.enter eventId) : Py S Unit) :=
  fun _ => ⟨trivial, fun _ => trivial⟩

lemma add (c : Change) : Says P (Core.add c : Py S Unit) := fun _ => trivial

lemma rollback : Says P (Core.rollback : Py S Unit) := fun _ => trivial

lemma orAbort {f : α → Py S β} (hf : ∀ a, Says P (f a)) (x : Except Exn α) :
    Says P (Core.orAbort f x) := by
  cases x with
  | ok a => exact hf a
  | error e => exact fun _ => trivial

lemma execute (q : Db S → α) : Says P (Core.execute q) := by
  refine bind (fun _ => trivial) fun s => ?_
  split
  · exact throw _
  · exact bind (fun _ => ⟨trivial, fun _ => trivial⟩) (orAbort fun d => pure (q d))

lemma select (rows : Db S → List α) (tenant : α → Option ℤ) (p : α → Bool) :
    Says P (Core.select rows tenant p) :=
  bind (fun _ => trivial) fun _ => execute _

lemma selectOne (rows : Db S → List α) (tenant : α → Option ℤ) (p : α → Bool) :
    Says P (do let as ← Core.select rows tenant p; MonadExcept.ofExcept (scalarOneOrNone as) :
      Py S (Option α)) :=
  bind (select rows tenant p) fun _ => ofExcept _

lemma commit : Says P (Core.commit : Py S (List ℤ)) := by
  refine bind (fun _ => trivial) fun s => ?_
  split
  · exact throw _
  · refine bind (fun _ => ⟨trivial, fun _ => trivial⟩) fun answer => ?_
    cases answer with
    | ok ids => exact bind (fun _ => trivial) fun _ => pure ids
    | error e => exact bind (fun _ => trivial) fun _ => throw e

lemma refresh (rows : Db S → List α) (tenant : α → Option ℤ) (p : α → Bool) :
    Says P (Core.refresh rows tenant p) := by
  refine bind (select rows tenant p) fun as => ?_
  cases as with
  | nil => exact throw _
  | cons a as => exact pure a

lemma publish (bus : EventBus) {event : Event} (h : P event) : Says P (bus.publish event : Py S Unit) :=
  bind (fun _ => ⟨h, fun _ => trivial⟩) fun _ => ofExcept _

/-- **What a run publishes.** -/
theorem published {p : Py S α} (hp : Says P p) (s : Session) (w : World S) :
    ∃ events, (p.exec serve s w).world.published = w.published ++ events ∧ ∀ e ∈ events, P e := by
  have hstep : ∀ (w' : World S) (m : Unit) (e : Eff), (voice (S := S) P).allows m e →
      (∃ events, w'.published = w.published ++ events ∧ ∀ e ∈ events, P e) →
      ∃ events, (serve e w').2.published = w.published ++ events ∧ ∀ e ∈ events, P e := by
    rintro w' m e ha ⟨events, heq, hall⟩
    cases e with
    | now => exact ⟨events, heq, hall⟩
    | query => exact ⟨events, heq, hall⟩
    | enter eventId => exact ⟨events, heq, hall⟩
    | redis command =>
      simp only [serve]
      split <;> exact ⟨events, heq, hall⟩
    | recollect worker tenantId => exact ⟨events, heq, hall⟩
    | remember worker tenantId e => exact ⟨events, heq, hall⟩
    | commit cs =>
      simp only [serve, World.commit]
      split
      · exact ⟨events, heq, hall⟩
      · split <;> exact ⟨events, heq, hall⟩
    | publish event =>
      simp only [serve]
      split
      · exact ⟨events, heq, hall⟩
      · refine ⟨events ++ [event], by rw [heq, List.append_assoc], fun e he => ?_⟩
        rcases List.mem_append.1 he with he | he
        · exact hall e he
        · rw [List.mem_singleton.1 he]
          exact ha
  obtain ⟨-, h, -⟩ := (hp s).exec (I := fun (w' : World S) _ => ∃ events, w'.published = w.published ++ events ∧
    ∀ e ∈ events, P e) hstep ⟨[], (List.append_nil _).symm, by simp⟩
  exact h

/-- A script that says nothing publishes nothing. -/
theorem silent {p : Py S α} (hp : Says (fun _ => False) p) (s : Session) (w : World S) :
    (p.exec serve s w).world.published = w.published := by
  obtain ⟨events, heq, hall⟩ := hp.published s w
  cases events with
  | nil => rw [heq, List.append_nil]
  | cons e events => exact (hall e List.mem_cons_self).elim

end Says

end FastapiTemplate.Core
