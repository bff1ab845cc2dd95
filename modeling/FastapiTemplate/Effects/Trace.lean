import FastapiTemplate.Effects.Pool

/-!
# Traces of pools

What happens along a schedule as data: which program performed which effect, and in which world. An invariant
may then speak of the past as well as of the world and the monitors (`Pool.WatchedTo.events_inv`), and what a
program has done by the time it returns can be read off its events.

`Script.Only A` is the simplest way of watching a script: all its effects are in `A`.
-/

namespace FastapiTemplate.Effects

variable {ι : Type} [DecidableEq ι] {E : Type} {R : E → Type} {W S σ ε α β : Type}

/-! ### Events -/

/-- An effect that a program performed, and the world it was performed in. -/
structure Event (ι E W : Type) where
  proc : ι
  world : W
  effect : E

namespace Pool

/-- What a move does. -/
def event? (P : Pool ι E R W α) : Move ι → Option (Event ι E W)
  | .step i => ((P.procs i).bind Prog.effect?).map fun e => ⟨i, P.world, e⟩
  | .crash _ => none

/-- What happens along a schedule, in order. -/
def events (h : Handler E R W) : Pool ι E R W α → List (Move ι) → List (Event ι E W)
  | _, [] => []
  | P, m :: ms => (P.event? m).toList ++ (P.move h m).events h ms

variable {h : Handler E R W} {M : ι → Monitor E R S} {Q : ι → α → S → Prop} {C : W → E → Prop}
  {I : List (Event ι E W) → W → (ι → S) → Prop} {P : Pool ι E R W α} {m : ι → S}

/-- What happens along two schedules, one after the other. -/
theorem events_append {ms ms' : List (Move ι)} :
    P.events h (ms ++ ms') = P.events h ms ++ (P.run h ms).events h ms' := by
  induction ms generalizing P with
  | nil => rfl
  | cons mv ms ih =>
    rw [List.cons_append, events, events, ih, List.append_assoc]
    rfl

/-- **Invariants of what has happened.** If every allowed effect that meets the condition keeps an invariant of
the past, the world and the monitors, it holds at the end of every schedule that meets the condition. -/
theorem WatchedTo.events_inv
    (hI : ∀ past w m i e, (M i).allows (m i) e → C w e → I past w m →
      I (past ++ [⟨i, w, e⟩]) (h e w).2 (Function.update m i ((M i).next (m i) e (h e w).1))) :
    ∀ (ms : List (Move ι)) {P : Pool ι E R W α} {m : ι → S} {past : List (Event ι E W)}, P.WatchedTo M Q m →
      I past P.world m → P.Meets h C ms →
      ∃ m', (P.run h ms).WatchedTo M Q m' ∧ I (past ++ P.events h ms) (P.run h ms).world m' := by
  intro ms
  induction ms with
  | nil =>
    intro P m past hP hw _
    exact ⟨m, hP, by rwa [events, List.append_nil]⟩
  | cons mv ms ih =>
    intro P m past hP hw hC
    -- a move without an effect
    have hidle : P.event? mv = none → (P.move h mv).world = P.world → (P.move h mv).WatchedTo M Q m →
        ∃ m', (P.run h (mv :: ms)).WatchedTo M Q m' ∧
          I (past ++ P.events h (mv :: ms)) (P.run h (mv :: ms)).world m' := by
      intro hevent hworld hP'
      rw [events, hevent]
      exact ih hP' (by rwa [hworld]) hC.2
    cases mv with
    | crash i =>
      refine hidle rfl rfl fun j p hp => ?_
      by_cases hj : j = i
      · subst hj
        simp [Pool.move] at hp
      · exact hP j p (by simpa [Pool.move, hj] using hp)
    | step i =>
      rcases hi : P.procs i with _ | _ | ⟨e, k⟩
      · exact hidle (by simp [event?, hi]) (by simp [Pool.move, hi]) (by simpa [Pool.move, hi] using hP)
      · exact hidle (by simp [event?, hi, Prog.effect?]) (by simp [Pool.move, hi]) (by simpa [Pool.move, hi] using hP)
      · obtain ⟨hallow, hworld, hP'⟩ := hP.step (h := h) hi
        have hCe : C P.world e := hC.1 e (by simp [hi, Prog.effect?])
        have hevent : P.event? (.step i) = some ⟨i, P.world, e⟩ := by simp [event?, hi, Prog.effect?]
        have hnext := hI past P.world m i e hallow hCe hw
        rw [events, hevent, Option.toList_some, ← List.append_assoc]
        exact ih hP' (by rwa [hworld]) hC.2

end Pool

/-! ### Code that keeps to some effects -/

/-- The effects of `A` are allowed. -/
def Monitor.only (A : E → Prop) : Monitor E R Unit where
  allows _ e := A e
  next _ _ _ := ()

variable {A : E → Prop}

/-- Such code follows every monitor that always allows these effects and does not move on with them. -/
theorem Prog.Follows.of_only {M : Monitor E R S} (hallows : ∀ m e, A e → M.allows m e)
    (hnext : ∀ m e r, A e → M.next m e r = m) {p : Prog E R α} {Q : α → Unit → Prop} {m : S}
    (hp : p.Follows (Monitor.only A) () Q) : p.Follows M m fun a m' => Q a () ∧ m' = m := by
  induction p with
  | pure a => exact ⟨hp, rfl⟩
  | call e k ih =>
    refine ⟨hallows m e hp.1, fun r => ?_⟩
    rw [hnext m e r hp.1]
    exact ih r (hp.2 r)

namespace Script

/-- All effects of the script are in `A`. -/
def Only (A : E → Prop) (p : Script E R σ ε α) : Prop :=
  ∀ s, Wp (Monitor.only A) p s () (fun _ _ _ => True) fun _ _ _ => True

namespace Only

variable {p : Script E R σ ε α}

/-- Such a script leaves a monitor that does not move on with these effects where it was. -/
theorem wp {M : Monitor E R S} (hallows : ∀ m e, A e → M.allows m e) (hnext : ∀ m e r, A e → M.next m e r = m)
    (hp : Only A p) (s : σ) (m : S) : Wp M p s m (fun _ _ m' => m' = m) fun _ _ m' => m' = m := by
  refine (Prog.Follows.of_only hallows hnext (hp s)).weaken ?_
  rintro ⟨_ | _, _⟩ m' ⟨-, hm⟩ <;> exact hm

lemma pure (a : α) : Only A (Pure.pure a : Script E R σ ε α) := fun _ => trivial

lemma throw (e : ε) : Only A (MonadExcept.throw e : Script E R σ ε α) := fun _ => trivial

lemma ofExcept (x : Except ε α) : Only A (MonadExcept.ofExcept x : Script E R σ ε α) :=
  fun _ => (wp_ofExcept x).2 ⟨fun _ _ => trivial, fun _ _ => trivial⟩

lemma perform {e : E} (he : A e) : Only A (Script.perform e : Script E R σ ε (R e)) :=
  fun _ => ⟨he, fun _ => trivial⟩

lemma bind {f : α → Script E R σ ε β} (hp : Only A p) (hf : ∀ a, Only A (f a)) : Only A (p >>= f) :=
  fun s => wp_bind.2 ((hp s).mono (fun a s _ _ => hf a s) fun _ _ _ h => h)

lemma tryCatch {f : ε → Script E R σ ε α} (hp : Only A p) (hf : ∀ e, Only A (f e)) :
    Only A (MonadExcept.tryCatch p f) :=
  fun s => wp_tryCatch.2 ((hp s).mono (fun _ _ _ h => h) fun e s _ _ => hf e s)

end Only

end Script

end FastapiTemplate.Effects
