import Mathlib.Logic.Function.Basic

/-!
# Programs over effects

A program is a tree: it returns, or it performs an effect of `E` and goes on with the answer, an
`R e`. Between two effects nothing outside the program can see it, so an effect is also the only
place where it can be interleaved with others or be cut off.

* `Prog.run` runs a program alone, an effect answered by a *handler* on a world `W`;
* `Script` adds what ordinary imperative code has besides: exceptions, and a local state that
  survives a raise;
* `Script.exec` is the run of a script, `exec_bind` its rule for sequencing.
-/

namespace FastapiTemplate.Effects

variable {E : Type} {R : E → Type} {W σ ε α β γ : Type}

/-! ### Programs -/

/-- A program over the effects `E`, an effect `e` being answered with an `R e`. -/
inductive Prog (E : Type) (R : E → Type) (α : Type) : Type where
  | pure (a : α)
  | call (e : E) (k : R e → Prog E R α)

/-- What the world answers to an effect, and what it becomes. -/
abbrev Handler (E : Type) (R : E → Type) (W : Type) : Type := (e : E) → W → R e × W

namespace Prog

/-- Sequencing. -/
def bind : Prog E R α → (α → Prog E R β) → Prog E R β
  | .pure a, f => f a
  | .call e k, f => .call e fun r => (k r).bind f

/-- The run of a program with nothing running beside it. -/
def run (h : Handler E R W) : Prog E R α → W → α × W
  | .pure a, w => (a, w)
  | .call e k, w => (k (h e w).1).run h (h e w).2

@[simp] lemma run_pure (h : Handler E R W) (a : α) (w : W) :
    (Prog.pure a : Prog E R α).run h w = (a, w) := rfl

theorem run_bind (h : Handler E R W) (p : Prog E R α) (f : α → Prog E R β) (w : W) :
    (p.bind f).run h w = (f (p.run h w).1).run h (p.run h w).2 := by
  induction p generalizing w with
  | pure a => rfl
  | call e k ih => exact ih (h e w).1 (h e w).2

end Prog

/-! ### Scripts -/

/-- Code that may raise an `ε` and has a local state `σ`; the state survives a raise. -/
def Script (E : Type) (R : E → Type) (σ ε α : Type) : Type := σ → Prog E R (Except ε α × σ)

namespace Script

/-- Goes on after a normal return, and passes a raise through. -/
def andThen (f : α → Script E R σ ε β) : Except ε α × σ → Prog E R (Except ε β × σ)
  | (.ok a, s) => f a s
  | (.error e, s) => .pure (.error e, s)

/-- Goes on after a raise, and passes a normal return through. -/
def orElse (f : ε → Script E R σ ε α) : Except ε α × σ → Prog E R (Except ε α × σ)
  | (.ok a, s) => .pure (.ok a, s)
  | (.error e, s) => f e s

instance : Monad (Script E R σ ε) where
  pure a := fun s => .pure (.ok a, s)
  bind p f := fun s => (p s).bind (andThen f)

instance : MonadExceptOf ε (Script E R σ ε) where
  throw e := fun s => .pure (.error e, s)
  tryCatch p f := fun s => (p s).bind (orElse f)

/-- Performs one effect. -/
def perform (e : E) : Script E R σ ε (R e) := fun s => .call e fun r => .pure (.ok r, s)

/-- The local state. -/
def getState : Script E R σ ε σ := fun s => .pure (.ok s, s)

/-- Changes the local state. -/
def modifyState (f : σ → σ) : Script E R σ ε Unit := fun s => .pure (.ok (), f s)

/-! ### The run of a script -/

/-- How a script ended: its result, its local state, and the world. -/
structure Outcome (σ ε W α : Type) where
  result : Except ε α
  state : σ
  world : W

/-- Runs the next script from where the last one ended, unless it raised. -/
def Outcome.next (o : Outcome σ ε W α) (f : α → σ → W → Outcome σ ε W β) : Outcome σ ε W β :=
  match o.result with
  | .ok a => f a o.state o.world
  | .error e => ⟨.error e, o.state, o.world⟩

/-- Runs the handler of a raise from where the script ended, if it raised. -/
def Outcome.rescue (o : Outcome σ ε W α) (f : ε → σ → W → Outcome σ ε W α) : Outcome σ ε W α :=
  match o.result with
  | .ok a => ⟨.ok a, o.state, o.world⟩
  | .error e => f e o.state o.world

@[simp] lemma Outcome.next_ok (a : α) (s : σ) (w : W) (f : α → σ → W → Outcome σ ε W β) :
    (Outcome.mk (.ok a) s w : Outcome σ ε W α).next f = f a s w := rfl

@[simp] lemma Outcome.next_error (e : ε) (s : σ) (w : W) (f : α → σ → W → Outcome σ ε W β) :
    (Outcome.mk (.error e) s w : Outcome σ ε W α).next f = ⟨.error e, s, w⟩ := rfl

@[simp] lemma Outcome.rescue_ok (a : α) (s : σ) (w : W) (f : ε → σ → W → Outcome σ ε W α) :
    (Outcome.mk (.ok a) s w : Outcome σ ε W α).rescue f = ⟨.ok a, s, w⟩ := rfl

@[simp] lemma Outcome.rescue_error (e : ε) (s : σ) (w : W) (f : ε → σ → W → Outcome σ ε W α) :
    (Outcome.mk (.error e) s w : Outcome σ ε W α).rescue f = f e s w := rfl

lemma Outcome.next_next (o : Outcome σ ε W α) (f : α → σ → W → Outcome σ ε W β)
    (g : β → σ → W → Outcome σ ε W γ) :
    (o.next f).next g = o.next fun a s w => (f a s w).next g := by
  rcases o with ⟨_ | _, s, w⟩ <;> rfl

/-- A script that returned has gone on from a normal return. -/
lemma Outcome.next_result {o : Outcome σ ε W α} {f : α → σ → W → Outcome σ ε W β} {b : β}
    (h : (o.next f).result = .ok b) : ∃ a, o.result = .ok a ∧ (f a o.state o.world).result = .ok b := by
  rcases o with ⟨_ | a, s, w⟩
  · cases h
  · exact ⟨a, rfl, h⟩

/-- A continuation that only changes the result. -/
@[simp] lemma Outcome.next_state (o : Outcome σ ε W α) (g : α → β) :
    (o.next fun a s w => (⟨.ok (g a), s, w⟩ : Outcome σ ε W β)).state = o.state := by
  rcases o with ⟨_ | _, s, w⟩ <;> rfl

@[simp] lemma Outcome.next_world (o : Outcome σ ε W α) (g : α → β) :
    (o.next fun a s w => (⟨.ok (g a), s, w⟩ : Outcome σ ε W β)).world = o.world := by
  rcases o with ⟨_ | _, s, w⟩ <;> rfl

section Exec

variable (h : Handler E R W)

/-- The run of a script from a local state and a world. -/
def exec (p : Script E R σ ε α) (s : σ) (w : W) : Outcome σ ε W α :=
  ⟨((p s).run h w).1.1, ((p s).run h w).1.2, ((p s).run h w).2⟩

@[simp] lemma exec_pure (a : α) (s : σ) (w : W) :
    (pure a : Script E R σ ε α).exec h s w = ⟨.ok a, s, w⟩ := rfl

@[simp] lemma exec_throw (e : ε) (s : σ) (w : W) :
    (throw e : Script E R σ ε α).exec h s w = ⟨.error e, s, w⟩ := rfl

@[simp] lemma exec_perform (e : E) (s : σ) (w : W) :
    (perform e : Script E R σ ε (R e)).exec h s w = ⟨.ok (h e w).1, s, (h e w).2⟩ := rfl

@[simp] lemma exec_getState (s : σ) (w : W) :
    (getState : Script E R σ ε σ).exec h s w = ⟨.ok s, s, w⟩ := rfl

@[simp] lemma exec_modifyState (f : σ → σ) (s : σ) (w : W) :
    (modifyState f : Script E R σ ε Unit).exec h s w = ⟨.ok (), f s, w⟩ := rfl

@[simp] lemma exec_ofExcept (x : Except ε α) (s : σ) (w : W) :
    (MonadExcept.ofExcept x : Script E R σ ε α).exec h s w = ⟨x, s, w⟩ := by
  cases x <;> rfl

@[simp] theorem exec_bind (p : Script E R σ ε α) (f : α → Script E R σ ε β) (s : σ) (w : W) :
    (p >>= f).exec h s w = (p.exec h s w).next fun a s w => (f a).exec h s w := by
  show exec h (fun s => (p s).bind (andThen f)) s w = _
  simp only [exec, Prog.run_bind]
  rcases hp : (p s).run h w with ⟨⟨r, s'⟩, w'⟩
  cases r <;> rfl

@[simp] theorem exec_tryCatch (p : Script E R σ ε α) (f : ε → Script E R σ ε α) (s : σ) (w : W) :
    (tryCatch p f).exec h s w = (p.exec h s w).rescue fun e s w => (f e).exec h s w := by
  show exec h (fun s => (p s).bind (orElse f)) s w = _
  simp only [exec, Prog.run_bind]
  rcases hp : (p s).run h w with ⟨⟨r, s'⟩, w'⟩
  cases r <;> rfl

@[simp] lemma exec_map (f : α → β) (p : Script E R σ ε α) (s : σ) (w : W) :
    (f <$> p).exec h s w = (p.exec h s w).next fun a s w => ⟨.ok (f a), s, w⟩ :=
  exec_bind h p (fun a => pure (f a)) s w

end Exec

end Script

end FastapiTemplate.Effects
