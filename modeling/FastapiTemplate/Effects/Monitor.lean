import FastapiTemplate.Effects.Prog

/-!
# Monitors

A *monitor* watches the effects a program performs: it has a state, says which effects are allowed
in it, and moves on with every answer. `Prog.Follows` says that a program only performs allowed
effects, whatever the answers are. This is a statement about the program's text alone, so it holds
in every world and under every interleaving; the world comes in afterwards:

* `Follows.run`: an invariant of world and monitor that every allowed effect preserves is preserved
  by the whole run;
* `Pool.inv` (next module): the same for any number of programs running interleaved.

`Script.Wp` is the form for scripts: from a local state and a state of the monitor, with one
postcondition for a normal return and one for a raise. Its rules are equivalences, so a straight piece
of code is executed by rewriting with them.
-/

namespace FastapiTemplate.Effects

variable {E : Type} {R : E → Type} {W S σ ε α β : Type}

/-- What a program may do: the effects allowed in a state, and the state after an answer. -/
structure Monitor (E : Type) (R : E → Type) (S : Type) where
  allows : S → E → Prop
  next : S → (e : E) → R e → S

/-- Two monitors side by side. -/
def Monitor.both {T : Type} (M : Monitor E R S) (N : Monitor E R T) : Monitor E R (S × T) where
  allows m e := M.allows m.1 e ∧ N.allows m.2 e
  next m e r := (M.next m.1 e r, N.next m.2 e r)

namespace Prog

/-- The program only performs effects the monitor allows, and ends in `Q`. -/
def Follows (M : Monitor E R S) : Prog E R α → S → (α → S → Prop) → Prop
  | .pure a, m, Q => Q a m
  | .call e k, m, Q => M.allows m e ∧ ∀ r, (k r).Follows M (M.next m e r) Q

variable {M : Monitor E R S}

theorem Follows.weaken {p : Prog E R α} {m : S} {Q Q' : α → S → Prop} (hp : p.Follows M m Q)
    (hQ : ∀ a m, Q a m → Q' a m) : p.Follows M m Q' := by
  induction p generalizing m with
  | pure a => exact hQ a m hp
  | call e k ih => exact ⟨hp.1, fun r => ih r (hp.2 r)⟩

/-- A monitor that allows more. -/
theorem Follows.relax {M' : Monitor E R S} (hallows : ∀ m e, M.allows m e → M'.allows m e)
    (hnext : M'.next = M.next) {p : Prog E R α} {m : S} {Q : α → S → Prop} (hp : p.Follows M m Q) :
    p.Follows M' m Q := by
  induction p generalizing m with
  | pure a => exact hp
  | call e k ih =>
    refine ⟨hallows m e hp.1, fun r => ?_⟩
    rw [hnext]
    exact ih r (hp.2 r)

theorem Follows.both {T : Type} {N : Monitor E R T} {p : Prog E R α} {m : S} {n : T}
    {Q : α → S → Prop} {Q' : α → T → Prop} (hp : p.Follows M m Q) (hp' : p.Follows N n Q') :
    p.Follows (M.both N) (m, n) fun a x => Q a x.1 ∧ Q' a x.2 := by
  induction p generalizing m n with
  | pure a => exact ⟨hp, hp'⟩
  | call e k ih => exact ⟨⟨hp.1, hp'.1⟩, fun r => ih r (hp.2 r) (hp'.2 r)⟩

theorem follows_bind {p : Prog E R α} {f : α → Prog E R β} {m : S} {Q : β → S → Prop} :
    (p.bind f).Follows M m Q ↔ p.Follows M m fun a m => (f a).Follows M m Q := by
  induction p generalizing m with
  | pure a => rfl
  | call e k ih => exact and_congr Iff.rfl (forall_congr' fun r => ih r)

/-- Handlers that answer every allowed effect alike run the program alike. -/
theorem Follows.run_congr {h h' : Handler E R W} (hh : ∀ m e w, M.allows m e → h e w = h' e w)
    {p : Prog E R α} {m : S} {Q : α → S → Prop} (hp : p.Follows M m Q) (w : W) : p.run h w = p.run h' w := by
  induction p generalizing m w with
  | pure a => rfl
  | call e k ih =>
    unfold run
    rw [hh m e w hp.1]
    exact ih _ (hp.2 _) _

/-- **The run of a program that follows a monitor.** An invariant of the world and the monitor's
state that every allowed effect preserves holds at the end. -/
theorem Follows.run {h : Handler E R W} {I : W → S → Prop}
    (hI : ∀ w m e, M.allows m e → I w m → I (h e w).2 (M.next m e (h e w).1))
    {p : Prog E R α} {m : S} {Q : α → S → Prop} (hp : p.Follows M m Q) {w : W} (hw : I w m) :
    ∃ m', I (p.run h w).2 m' ∧ Q (p.run h w).1 m' := by
  induction p generalizing m w with
  | pure a => exact ⟨m, hw, hp⟩
  | call e k ih => exact ih _ (hp.2 _) (hI w m e hp.1 hw)

end Prog

namespace Script

/-- A normal return ends in `Q`, a raise in `X`. -/
def Ends (Q : α → σ → S → Prop) (X : ε → σ → S → Prop) : Except ε α × σ → S → Prop
  | (.ok a, s), m => Q a s m
  | (.error e, s), m => X e s m

/-- From local state `s` and monitor state `m` the script only performs allowed effects; a normal
return ends in `Q` and a raise in `X`. -/
def Wp (M : Monitor E R S) (p : Script E R σ ε α) (s : σ) (m : S) (Q : α → σ → S → Prop)
    (X : ε → σ → S → Prop) : Prop :=
  (p s).Follows M m (Ends Q X)

section Rules

variable {M : Monitor E R S} {s : σ} {m : S} {Q Q' : α → σ → S → Prop} {X X' : ε → σ → S → Prop}

theorem Wp.mono {p : Script E R σ ε α} (hp : Wp M p s m Q X) (hQ : ∀ a s m, Q a s m → Q' a s m)
    (hX : ∀ e s m, X e s m → X' e s m) : Wp M p s m Q' X' := by
  refine Prog.Follows.weaken hp ?_
  rintro ⟨r, s'⟩ m' h
  cases r with
  | ok a => exact hQ a s' m' h
  | error e => exact hX e s' m' h

@[simp] lemma wp_pure (a : α) : Wp M (pure a : Script E R σ ε α) s m Q X ↔ Q a s m := Iff.rfl

@[simp] lemma wp_throw (e : ε) : Wp M (throw e : Script E R σ ε α) s m Q X ↔ X e s m := Iff.rfl

@[simp] lemma wp_perform (e : E) {Q : R e → σ → S → Prop} :
    Wp M (perform e : Script E R σ ε (R e)) s m Q X ↔
      M.allows m e ∧ ∀ r, Q r s (M.next m e r) := Iff.rfl

@[simp] lemma wp_getState {Q : σ → σ → S → Prop} :
    Wp M (getState : Script E R σ ε σ) s m Q X ↔ Q s s m := Iff.rfl

@[simp] lemma wp_modifyState (f : σ → σ) {Q : Unit → σ → S → Prop} :
    Wp M (modifyState f : Script E R σ ε Unit) s m Q X ↔ Q () (f s) m := Iff.rfl

@[simp] theorem wp_bind {p : Script E R σ ε α} {f : α → Script E R σ ε β} {Q : β → σ → S → Prop} :
    Wp M (p >>= f) s m Q X ↔ Wp M p s m (fun a s m => Wp M (f a) s m Q X) X := by
  refine Iff.trans Prog.follows_bind ?_
  constructor <;> intro h <;> refine Prog.Follows.weaken h ?_ <;> rintro ⟨r, s'⟩ m' h' <;>
    cases r <;> exact h'

@[simp] theorem wp_tryCatch {p : Script E R σ ε α} {f : ε → Script E R σ ε α} :
    Wp M (tryCatch p f) s m Q X ↔ Wp M p s m Q fun e s m => Wp M (f e) s m Q X := by
  refine Iff.trans Prog.follows_bind ?_
  constructor <;> intro h <;> refine Prog.Follows.weaken h ?_ <;> rintro ⟨r, s'⟩ m' h' <;>
    cases r <;> exact h'

@[simp] lemma wp_map {p : Script E R σ ε α} {f : α → β} {Q : β → σ → S → Prop} :
    Wp M (f <$> p) s m Q X ↔ Wp M p s m (fun a => Q (f a)) X :=
  wp_bind (f := fun a => pure (f a))

/-- A value or an exception. -/
theorem wp_ofExcept (x : Except ε α) :
    Wp M (MonadExcept.ofExcept x : Script E R σ ε α) s m Q X ↔
      (∀ a, x = .ok a → Q a s m) ∧ ∀ e, x = .error e → X e s m := by
  cases x with
  | ok a => exact ⟨fun h => ⟨fun b hb => Except.ok.inj hb ▸ h, nofun⟩, fun h => h.1 a rfl⟩
  | error e => exact ⟨fun h => ⟨nofun, fun e' he => Except.error.inj he ▸ h⟩, fun h => h.2 e rfl⟩

theorem Wp.exec_congr {h h' : Handler E R W} (hh : ∀ m e w, M.allows m e → h e w = h' e w)
    {p : Script E R σ ε α} (hp : Wp M p s m Q X) (w : W) : p.exec h s w = p.exec h' s w := by
  unfold exec
  rw [Prog.Follows.run_congr hh hp w]

/-- **The run of a script under a monitor.** -/
theorem Wp.exec {h : Handler E R W} {I : W → S → Prop}
    (hI : ∀ w m e, M.allows m e → I w m → I (h e w).2 (M.next m e (h e w).1))
    {p : Script E R σ ε α} (hp : Wp M p s m Q X) {w : W} (hw : I w m) :
    ∃ m', I (p.exec h s w).world m' ∧ Ends Q X ((p.exec h s w).result, (p.exec h s w).state) m' :=
  Prog.Follows.run hI hp hw

end Rules

end Script

end FastapiTemplate.Effects
