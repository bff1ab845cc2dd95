import FastapiTemplate.Effects.Pool

/-!
# What a program in a pool can return

`Prog.May h C p a`: the program `p` can return `a` if each of its effects is answered in some world that
satisfies `C`, whoever made this world. What a program does return in a pool it may return in this sense, for
every condition that its own effects meet along the schedule (`Pool.MeetsAt.may`). So a program that cannot
return `a` under a condition does not return it in any interleaving that keeps to the condition, whatever the
other programs do.
-/

namespace FastapiTemplate.Effects

variable {ι : Type} [DecidableEq ι] {E : Type} {R : E → Type} {W σ ε α β : Type} {h : Handler E R W}
  {C : W → E → Prop}

/-- The program can return `b`, each effect being answered in a world that satisfies `C`. -/
def Prog.May (h : Handler E R W) (C : W → E → Prop) : Prog E R α → α → Prop
  | .pure a, b => a = b
  | .call e k, b => ∃ w, C w e ∧ (k (h e w).1).May h C b

theorem Prog.may_bind {p : Prog E R α} {f : α → Prog E R β} {b : β} :
    (p.bind f).May h C b ↔ ∃ a, p.May h C a ∧ (f a).May h C b := by
  induction p with
  | pure a => exact ⟨fun hb => ⟨a, rfl, hb⟩, fun ⟨_, ha, hb⟩ => ha ▸ hb⟩
  | call e k ih =>
    constructor
    · rintro ⟨w, hw, hb⟩
      obtain ⟨a, ha, hb⟩ := (ih _).1 hb
      exact ⟨a, ⟨w, hw, ha⟩, hb⟩
    · rintro ⟨a, ⟨w, hw, ha⟩, hb⟩
      exact ⟨w, hw, (ih _).2 ⟨a, ha, hb⟩⟩

/-! ### Scripts -/

namespace Script

/-- The script can end in `r`: with a result and a local state. -/
def May (h : Handler E R W) (C : W → E → Prop) (p : Script E R σ ε α) (s : σ) (r : Except ε α × σ) : Prop :=
  (p s).May h C r

section Rules

variable {s s' : σ}

lemma may_throw {e : ε} {r : Except ε α × σ} :
    May h C (throw e : Script E R σ ε α) s r ↔ (.error e, s) = r := Iff.rfl

lemma may_ofExcept {x : Except ε α} {r : Except ε α × σ} :
    May h C (MonadExcept.ofExcept x : Script E R σ ε α) s r ↔ (x, s) = r := by
  cases x <;> rfl

lemma may_perform {e : E} {r : Except ε (R e) × σ} :
    May h C (perform e : Script E R σ ε (R e)) s r ↔ ∃ w, C w e ∧ (.ok (h e w).1, s) = r := Iff.rfl

/-- A sequence returns what its second part can return after its first. -/
theorem may_bind_ok {p : Script E R σ ε α} {f : α → Script E R σ ε β} {b : β} :
    May h C (p >>= f) s (.ok b, s') ↔ ∃ a t, May h C p s (.ok a, t) ∧ May h C (f a) t (.ok b, s') := by
  refine Prog.may_bind.trans ⟨?_, fun ⟨a, t, ha, hb⟩ => ⟨(.ok a, t), ha, hb⟩⟩
  rintro ⟨⟨e | a, t⟩, ha, hb⟩
  · cases hb
  · exact ⟨a, t, ha, hb⟩

/-- A handler returns what the code returns, or what it returns itself after a raise. -/
theorem may_tryCatch_ok {p : Script E R σ ε α} {f : ε → Script E R σ ε α} {a : α} :
    May h C (tryCatch p f) s (.ok a, s') ↔
      May h C p s (.ok a, s') ∨ ∃ e t, May h C p s (.error e, t) ∧ May h C (f e) t (.ok a, s') := by
  refine Prog.may_bind.trans ⟨?_, ?_⟩
  · rintro ⟨⟨e | b, t⟩, hp, hf⟩
    · exact .inr ⟨e, t, hp, hf⟩
    · exact .inl (hf ▸ hp)
  · rintro (hp | ⟨e, t, hp, hf⟩)
    · exact ⟨(.ok a, s'), hp, rfl⟩
    · exact ⟨(.error e, t), hp, hf⟩

end Rules

end Script

/-! ### Pools -/

namespace Pool

variable {P : Pool ι E R W α} {i : ι}

/-- The effect that program `i` performs by a move, if it performs one, satisfies `C` in the world before it. -/
def MoveMeetsAt (i : ι) (C : W → E → Prop) (P : Pool ι E R W α) : Move ι → Prop
  | .step j => j = i → P.MoveMeets C (.step i)
  | .crash _ => True

/-- Every effect that program `i` performs along the schedule satisfies `C` in the world it is performed in. -/
def MeetsAt (h : Handler E R W) (i : ι) (C : W → E → Prop) : Pool ι E R W α → List (Move ι) → Prop
  | _, [] => True
  | P, m :: ms => P.MoveMeetsAt i C m ∧ (P.move h m).MeetsAt h i C ms

/-- What is left of a program after a move can return nothing that it could not return before. -/
lemma MoveMeetsAt.may {m : Move ι} (hm : P.MoveMeetsAt i C m) {q : Prog E R α}
    (hq : (P.move h m).procs i = some q) :
    ∃ p, P.procs i = some p ∧ ∀ a, q.May h C a → p.May h C a := by
  cases m with
  | crash j =>
    by_cases hj : i = j
    · subst hj
      simp [move] at hq
    · exact ⟨q, by simpa [move, hj] using hq, fun _ ha => ha⟩
  | step j =>
    rcases hp : P.procs j with _ | _ | ⟨e, k⟩
    · exact ⟨q, by simpa [move, hp] using hq, fun _ ha => ha⟩
    · exact ⟨q, by simpa [move, hp] using hq, fun _ ha => ha⟩
    · by_cases hj : i = j
      · subst hj
        obtain rfl : k (h e P.world).1 = q := by simpa [move, hp] using hq
        exact ⟨_, hp, fun _ ha => ⟨P.world, hm rfl e (by simp [hp, Prog.effect?]), ha⟩⟩
      · exact ⟨q, by simpa [move, hp, hj] using hq, fun _ ha => ha⟩

/-- **What a program returns in a pool it may return.** -/
theorem MeetsAt.may {ms : List (Move ι)} (hC : P.MeetsAt h i C ms) {a : α}
    (ha : (P.run h ms).answer? i = some a) : ∃ p, P.procs i = some p ∧ p.May h C a := by
  induction ms generalizing P with
  | nil => exact ⟨.pure a, answer?_eq_some ha, rfl⟩
  | cons m ms ih =>
    obtain ⟨q, hq, hqa⟩ := ih hC.2 ha
    obtain ⟨p, hp, hle⟩ := hC.1.may hq
    exact ⟨p, hp, hle a hqa⟩

/-- What every effect keeps is so wherever a program performs one. -/
theorem meetsAt_of_kept {I : W → Prop} (hI : ∀ w e, I w → I (h e w).2) (i : ι) (ms : List (Move ι))
    (hw : I P.world) : P.MeetsAt h i (fun w _ => I w) ms := by
  induction ms generalizing P with
  | nil => trivial
  | cons m ms ih =>
    cases m with
    | crash j => exact ⟨trivial, ih hw⟩
    | step j =>
      refine ⟨fun _ _ _ => hw, ih ?_⟩
      rcases hp : P.procs j with _ | _ | ⟨e, k⟩ <;> simp only [move, hp]
      · exact hw
      · exact hw
      · exact hI _ _ hw

section Decide

variable [∀ w e, Decidable (C w e)]

instance (i : ι) (P : Pool ι E R W α) : (m : Move ι) → Decidable (P.MoveMeetsAt i C m)
  | .step j => inferInstanceAs (Decidable (j = i → P.MoveMeets C (.step i)))
  | .crash _ => inferInstanceAs (Decidable True)

def decideMeetsAt (h : Handler E R W) (i : ι) : (ms : List (Move ι)) → (P : Pool ι E R W α) →
    Decidable (P.MeetsAt h i C ms)
  | [], _ => inferInstanceAs (Decidable True)
  | m :: ms, P =>
    have := decideMeetsAt h i ms (P.move h m)
    inferInstanceAs (Decidable (P.MoveMeetsAt i C m ∧ (P.move h m).MeetsAt h i C ms))

instance (h : Handler E R W) (i : ι) (P : Pool ι E R W α) (ms : List (Move ι)) :
    Decidable (P.MeetsAt h i C ms) := decideMeetsAt h i ms P

end Decide

end Pool

end FastapiTemplate.Effects
