import FastapiTemplate.Effects.Monitor
import Mathlib.Data.Fintype.Basic

/-!
# Pools of programs

Any number of programs share a world and run interleaved, one effect at a time; a program may be
killed at any point between two effects. A schedule is a list of moves, so a statement about every
list of moves is a statement about every interleaving and every pattern of crashes.

`Pool.inv` is the induction over schedules: each program follows a monitor, and an invariant of the
world and all the monitors' states survives every allowed effect. The condition `C` is for
statements about *some* schedules only: it holds of the effects performed, each in the world it is
performed in.
-/

namespace FastapiTemplate.Effects

variable {ι : Type} [DecidableEq ι] {E : Type} {R : E → Type} {W S α : Type}

/-- The effect a program performs next. -/
def Prog.effect? : Prog E R α → Option E
  | .pure _ => none
  | .call e _ => some e

/-- What a program has returned. -/
def Prog.result? : Prog E R α → Option α
  | .pure a => some a
  | .call _ _ => none

/-- A world and what is left of each program; `none` is a program that was killed. -/
structure Pool (ι : Type) (E : Type) (R : E → Type) (W α : Type) where
  world : W
  procs : ι → Option (Prog E R α)

/-- A move of the scheduler: let a program perform its next effect, or kill it. -/
inductive Move (ι : Type) where
  | step (i : ι)
  | crash (i : ι)

namespace Pool

/-- One move. A program that has returned or was killed does not move any more. -/
def move (h : Handler E R W) (P : Pool ι E R W α) : Move ι → Pool ι E R W α
  | .step i =>
    match P.procs i with
    | some (.call e k) =>
      ⟨(h e P.world).2, Function.update P.procs i (some (k (h e P.world).1))⟩
    | _ => P
  | .crash i => ⟨P.world, Function.update P.procs i none⟩

/-- A run along a schedule. -/
def run (h : Handler E R W) : Pool ι E R W α → List (Move ι) → Pool ι E R W α
  | P, [] => P
  | P, m :: ms => (P.move h m).run h ms

/-- What program `i` has returned. -/
def answer? (P : Pool ι E R W α) (i : ι) : Option α := (P.procs i).bind Prog.result?

/-- Every move of program `i` along the schedule takes the world to one related by `T`. -/
def Throughout (h : Handler E R W) (i : ι) (T : W → W → Prop) :
    Pool ι E R W α → List (Move ι) → Prop
  | _, [] => True
  | P, m :: ms => (m = .step i → T P.world (P.move h m).world) ∧ (P.move h m).Throughout h i T ms

theorem throughout_append {h : Handler E R W} {i : ι} {T : W → W → Prop} {ms ms' : List (Move ι)}
    {P : Pool ι E R W α} :
    P.Throughout h i T (ms ++ ms') ↔ P.Throughout h i T ms ∧ (P.run h ms).Throughout h i T ms' := by
  induction ms generalizing P with
  | nil => exact (and_iff_right trivial).symm
  | cons m ms ih =>
    show _ ∧ _ ↔ (_ ∧ _) ∧ _
    rw [and_assoc]
    exact and_congr Iff.rfl ih

/-- The effect performed by a move, if it performs one, satisfies `C` in the world before it. -/
def MoveMeets (C : W → E → Prop) (P : Pool ι E R W α) : Move ι → Prop
  | .step i => ∀ e ∈ (P.procs i).bind Prog.effect?, C P.world e
  | .crash _ => True

/-- Every effect performed along the schedule satisfies `C` in the world it is performed in. -/
def Meets (h : Handler E R W) (C : W → E → Prop) : Pool ι E R W α → List (Move ι) → Prop
  | _, [] => True
  | P, m :: ms => P.MoveMeets C m ∧ (P.move h m).Meets h C ms

section Decide

variable {C : W → E → Prop} [∀ w e, Decidable (C w e)]

instance (P : Pool ι E R W α) : (m : Move ι) → Decidable (P.MoveMeets C m)
  | .step i => inferInstanceAs (Decidable (∀ e ∈ (P.procs i).bind Prog.effect?, C P.world e))
  | .crash _ => inferInstanceAs (Decidable True)

def decideMeets (h : Handler E R W) : (ms : List (Move ι)) → (P : Pool ι E R W α) →
    Decidable (P.Meets h C ms)
  | [], _ => inferInstanceAs (Decidable True)
  | m :: ms, P =>
    have := decideMeets h ms (P.move h m)
    inferInstanceAs (Decidable (P.MoveMeets C m ∧ (P.move h m).Meets h C ms))

instance (h : Handler E R W) (P : Pool ι E R W α) (ms : List (Move ι)) :
    Decidable (P.Meets h C ms) := decideMeets h ms P

end Decide

/-- Every program that was not killed follows its monitor from that monitor's state, and ends in `Q`. -/
def WatchedTo (M : ι → Monitor E R S) (Q : ι → α → S → Prop) (P : Pool ι E R W α) (m : ι → S) : Prop :=
  ∀ i p, P.procs i = some p → p.Follows (M i) (m i) (Q i)

/-- Every program that was not killed follows its monitor from that monitor's state. -/
def Watched (M : ι → Monitor E R S) (P : Pool ι E R W α) (m : ι → S) : Prop :=
  ∀ i p, P.procs i = some p → p.Follows (M i) (m i) fun _ _ => True

section Inv

variable {h : Handler E R W} {M : ι → Monitor E R S} {Q : ι → α → S → Prop} {C : W → E → Prop}
  {I : W → (ι → S) → Prop} {P : Pool ι E R W α} {m : ι → S}

/-- A step performs the program's next effect, which its monitor allows. -/
theorem WatchedTo.step {i : ι} {e : E} {k : R e → Prog E R α} (hP : P.WatchedTo M Q m)
    (hi : P.procs i = some (.call e k)) :
    (M i).allows (m i) e ∧ (P.move h (.step i)).world = (h e P.world).2 ∧
      (P.move h (.step i)).WatchedTo M Q
        (Function.update m i ((M i).next (m i) e (h e P.world).1)) := by
  obtain ⟨hallow, hk⟩ := hP i _ hi
  refine ⟨hallow, by simp [Pool.move, hi], ?_⟩
  intro j p hp
  by_cases hj : j = i
  · subst hj
    simp only [Pool.move, hi, Function.update_self, Option.some.injEq] at hp
    subst hp
    simpa using hk _
  · have hp' : P.procs j = some p := by simpa [Pool.move, hi, hj] using hp
    simpa [hj] using hP j p hp'

/-- **What a move does**: nothing to the world, or one effect that the program's monitor allows. -/
theorem WatchedTo.move (hP : P.WatchedTo M Q m) (mv : Move ι) :
    ∃ m', (P.move h mv).WatchedTo M Q m' ∧
      (m' = m ∧ (P.move h mv).world = P.world ∨
        ∃ i e k, mv = .step i ∧ P.procs i = some (.call e k) ∧ (M i).allows (m i) e ∧
          (P.move h mv).world = (h e P.world).2 ∧
          m' = Function.update m i ((M i).next (m i) e (h e P.world).1)) := by
  cases mv with
  | crash i =>
    refine ⟨m, ?_, .inl ⟨rfl, rfl⟩⟩
    intro j p hp
    by_cases hj : j = i
    · subst hj; simp [Pool.move] at hp
    · exact hP j p (by simpa [Pool.move, hj] using hp)
  | step i =>
    rcases hi : P.procs i with _ | _ | ⟨e, k⟩
    · exact ⟨m, by simpa [Pool.move, hi] using hP, .inl ⟨rfl, by simp [Pool.move, hi]⟩⟩
    · exact ⟨m, by simpa [Pool.move, hi] using hP, .inl ⟨rfl, by simp [Pool.move, hi]⟩⟩
    · obtain ⟨hallow, hworld, hP'⟩ := hP.step (h := h) hi
      exact ⟨_, hP', .inr ⟨i, e, k, rfl, hi, hallow, hworld, rfl⟩⟩

/-- One move keeps the programs watched and the invariant true. -/
theorem WatchedTo.inv_move
    (hI : ∀ w m i e, (M i).allows (m i) e → C w e → I w m →
      I (h e w).2 (Function.update m i ((M i).next (m i) e (h e w).1)))
    (hP : P.WatchedTo M Q m) (hw : I P.world m) (mv : Move ι) (hC : P.MoveMeets C mv) :
    ∃ m', (P.move h mv).WatchedTo M Q m' ∧ I (P.move h mv).world m' := by
  obtain ⟨m', hP', ⟨rfl, hworld⟩ | ⟨i, e, k, rfl, hi, hallow, hworld, rfl⟩⟩ := hP.move (h := h) mv
  · exact ⟨m', hP', by rwa [hworld]⟩
  · refine ⟨_, hP', ?_⟩
    have hCe : C P.world e := hC e (by simp [hi, Prog.effect?])
    rw [hworld]
    exact hI P.world m i e hallow hCe hw

/-- What every allowed effect that meets the condition preserves holds along every schedule that meets
it, and the programs that return end in `Q`. -/
theorem WatchedTo.inv
    (hI : ∀ w m i e, (M i).allows (m i) e → C w e → I w m →
      I (h e w).2 (Function.update m i ((M i).next (m i) e (h e w).1))) :
    ∀ (ms : List (Move ι)) {P : Pool ι E R W α} {m : ι → S}, P.WatchedTo M Q m → I P.world m →
      P.Meets h C ms → ∃ m', (P.run h ms).WatchedTo M Q m' ∧ I (P.run h ms).world m' := by
  intro ms
  induction ms with
  | nil => intro P m hP hw _; exact ⟨m, hP, hw⟩
  | cons mv ms ih =>
    intro P m hP hw hC
    obtain ⟨m', hP', hw'⟩ := hP.inv_move hI hw mv hC.1
    exact ih hP' hw' hC.2

/-- **Invariants of a pool.** What every allowed effect that meets the condition preserves holds
along every schedule that meets it. -/
theorem inv
    (hI : ∀ w m i e, (M i).allows (m i) e → C w e → I w m →
      I (h e w).2 (Function.update m i ((M i).next (m i) e (h e w).1))) :
    ∀ (ms : List (Move ι)) {P : Pool ι E R W α} {m : ι → S}, P.Watched M m → I P.world m →
      P.Meets h C ms → ∃ m', (P.run h ms).Watched M m' ∧ I (P.run h ms).world m' :=
  WatchedTo.inv hI

/-- What an effect makes false stays false, along any schedule. -/
lemma of_run {G : W → Prop} (hG : ∀ w e, G (h e w).2 → G w) (ms : List (Move ι))
    {P : Pool ι E R W α} (hrun : G (P.run h ms).world) : G P.world := by
  induction ms generalizing P with
  | nil => exact hrun
  | cons mv ms ih =>
    have hmove : G (P.move h mv).world := ih hrun
    cases mv with
    | crash i => exact hmove
    | step i =>
      rcases hi : P.procs i with _ | _ | ⟨e, k⟩
      · simpa [Pool.move, hi] using hmove
      · simpa [Pool.move, hi] using hmove
      · exact hG P.world e (by simpa [Pool.move, hi] using hmove)

/-- **What a schedule must meet.** If an effect that breaks the condition makes `G` false for good, then a schedule
after which `G` holds meets the condition. -/
theorem WatchedTo.meets {G : W → Prop} (hG : ∀ w e, G (h e w).2 → G w)
    (hC : ∀ w m i e, (M i).allows (m i) e → I w m → G (h e w).2 → C w e)
    (hI : ∀ w m i e, (M i).allows (m i) e → C w e → I w m →
      I (h e w).2 (Function.update m i ((M i).next (m i) e (h e w).1))) :
    ∀ (ms : List (Move ι)) {P : Pool ι E R W α} {m : ι → S}, P.WatchedTo M Q m → I P.world m →
      G (P.run h ms).world → P.Meets h C ms := by
  intro ms
  induction ms with
  | nil => intro P m _ _ _; trivial
  | cons mv ms ih =>
    intro P m hP hw hrun
    have hmove : P.MoveMeets C mv := by
      cases mv with
      | crash i => trivial
      | step i =>
        rintro e he
        obtain ⟨p, hi, hp⟩ := Option.bind_eq_some_iff.1 he
        cases p with
        | pure a => cases hp
        | call e' k =>
          cases hp
          obtain ⟨hallow, hworld, -⟩ := hP.step (h := h) hi
          exact hC P.world m i e hallow hw (hworld ▸ of_run hG ms hrun)
    obtain ⟨m', hP', hw'⟩ := hP.inv_move hI hw mv hmove
    exact ⟨hmove, ih hP' hw' hrun⟩

/-- No condition on the schedule. -/
theorem meets_true (h : Handler E R W) (P : Pool ι E R W α) (ms : List (Move ι)) :
    P.Meets h (fun _ _ => True) ms := by
  induction ms generalizing P with
  | nil => trivial
  | cons mv ms ih =>
    refine ⟨?_, ih _⟩
    cases mv with
    | step i => exact fun _ _ => trivial
    | crash i => trivial

end Inv

/-! ### Schedules that finish -/

section Finish

variable {h : Handler E R W}

theorem run_append {P : Pool ι E R W α} {ms ms' : List (Move ι)} :
    P.run h (ms ++ ms') = (P.run h ms).run h ms' := by
  induction ms generalizing P with
  | nil => rfl
  | cons mv ms ih => exact ih

omit [DecidableEq ι] in
lemma answer?_eq_some {P : Pool ι E R W α} {i : ι} {a : α} (ha : P.answer? i = some a) :
    P.procs i = some (.pure a) := by
  obtain ⟨p, hp, ha⟩ := Option.bind_eq_some_iff.1 ha
  cases p with
  | pure b => rw [hp, Option.some.inj ha]
  | call e k => cases ha

/-- A program alone can be run until it returns. -/
lemma exists_answer {P : Pool ι E R W α} {i : ι} {p : Prog E R α} (hp : P.procs i = some p) :
    ∃ ms, ((P.run h ms).answer? i).isSome ∧ ∀ j ≠ i, (P.run h ms).procs j = P.procs j := by
  induction p generalizing P with
  | pure a => exact ⟨[], by simp [run, answer?, hp, Prog.result?], fun _ _ => rfl⟩
  | call e k ih =>
    obtain ⟨ms, hms, hothers⟩ := ih (h e P.world).1 (P := P.move h (.step i)) (by simp [move, hp])
    refine ⟨.step i :: ms, hms, fun j hj => (hothers j hj).trans ?_⟩
    simp [move, hp, hj]

/-- **Some schedule finishes** programs none of which was killed. -/
theorem exists_answers [Fintype ι] {P : Pool ι E R W α} (hP : ∀ i, P.procs i ≠ none) :
    ∃ ms, ∀ i, ((P.run h ms).answer? i).isSome := by
  suffices hall : ∀ s : Finset ι, ∃ ms, (∀ i ∈ s, ((P.run h ms).answer? i).isSome) ∧
      ∀ i, (P.run h ms).procs i ≠ none by
    obtain ⟨ms, hms, -⟩ := hall Finset.univ
    exact ⟨ms, fun i => hms i (Finset.mem_univ i)⟩
  intro s
  induction s using Finset.induction_on with
  | empty => exact ⟨[], nofun, hP⟩
  | insert i s hi ih =>
    obtain ⟨ms, hdone, halive⟩ := ih
    obtain ⟨p, hp⟩ := Option.ne_none_iff_exists'.1 (halive i)
    obtain ⟨ms', hms', hothers⟩ := exists_answer (h := h) hp
    refine ⟨ms ++ ms', ?_, ?_⟩
    · intro j hj
      rw [run_append]
      by_cases hji : j = i
      · subst hji
        exact hms'
      · rw [answer?, hothers j hji]
        exact hdone j ((Finset.mem_insert.1 hj).resolve_left hji)
    · intro j
      rw [run_append]
      by_cases hji : j = i
      · subst hji
        intro hnone
        rw [answer?, hnone] at hms'
        cases hms'
      · rw [hothers j hji]
        exact halive j

end Finish

end Pool

end FastapiTemplate.Effects
