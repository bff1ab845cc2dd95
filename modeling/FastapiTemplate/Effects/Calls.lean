import Mathlib.Data.List.Basic

/-!
# Sequences of calls

Calls that are made one after another, each in the world the one before it left. `after` is the world in the
end, `after_keeps` the induction over them, and `Each` says that every call meets a condition in the world it
is made in. `Along` is for statements that look back: every call stands in a relation to the calls before it.
-/

namespace FastapiTemplate.Effects

variable {W κ : Type} (step : κ → W → W)

/-- The world after the calls. -/
def after (w : W) : List κ → W
  | [] => w
  | c :: cs => after (step c w) cs

/-- Every call meets the condition in the world it is made in. -/
def Each (C : W → κ → Prop) (w : W) : List κ → Prop
  | [] => True
  | c :: cs => C w c ∧ Each C (step c w) cs

/-- Every call satisfies `Q`, given the calls before it with the worlds they were made in, the latest first. -/
def Along (Q : List (W × κ) → W → κ → Prop) (past : List (W × κ)) (w : W) : List κ → Prop
  | [] => True
  | c :: cs => Q past w c ∧ Along Q ((w, c) :: past) (step c w) cs

variable {step} {w : W} {cs : List κ}

/-- **Invariants.** What every call keeps is so in the end. -/
theorem after_keeps {I : W → Prop} (hI : ∀ w c, I w → I (step c w)) (hw : I w) : I (after step w cs) := by
  induction cs generalizing w with
  | nil => exact hw
  | cons c cs ih => exact ih (hI w c hw)

/-- Conditions that say the same of every call. -/
theorem each_congr {C C' : W → κ → Prop} (hC : ∀ w c, C w c ↔ C' w c) : Each step C w cs ↔ Each step C' w cs := by
  induction cs generalizing w with
  | nil => rfl
  | cons c cs ih => exact and_congr (hC w c) ih

/-- Conditions that say the same of every call, where an invariant of the world holds; calls that meet them keep the
invariant. -/
theorem each_congr_of_inv {C C' : W → κ → Prop} {I : W → Prop} (hI : ∀ w c, I w → C' w c → I (step c w))
    (hC : ∀ w c, I w → (C w c ↔ C' w c)) (hw : I w) : Each step C w cs ↔ Each step C' w cs := by
  induction cs generalizing w with
  | nil => rfl
  | cons c cs ih => exact (and_congr (hC w c hw) Iff.rfl).trans (and_congr_right fun hcall => ih (hI w c hw hcall))

/-- Statements that say the same of every call. -/
theorem along_congr {Q Q' : List (W × κ) → W → κ → Prop} (hQ : ∀ past w c, Q past w c ↔ Q' past w c)
    {past : List (W × κ)} : Along step Q past w cs ↔ Along step Q' past w cs := by
  induction cs generalizing past w with
  | nil => rfl
  | cons c cs ih => exact and_congr (hQ past w c) ih

/-- Statements that say the same of every call, where an invariant of the history holds; calls of which they are true
keep the invariant. -/
theorem along_congr_of_inv {Q Q' : List (W × κ) → W → κ → Prop} {I : List (W × κ) → W → Prop}
    (hI : ∀ past w c, I past w → Q' past w c → I ((w, c) :: past) (step c w))
    (hQ : ∀ past w c, I past w → (Q past w c ↔ Q' past w c)) {past : List (W × κ)} (hw : I past w) :
    Along step Q past w cs ↔ Along step Q' past w cs := by
  induction cs generalizing past w with
  | nil => rfl
  | cons c cs ih =>
    refine (and_congr (hQ past w c hw) Iff.rfl).trans (and_congr_right fun hcall => ?_)
    exact ih (hI past w c hw hcall)

/-- **Invariants of a history.** If an invariant of the history and the world gives `Q` for every call that
meets the condition, and is kept by the call, then `Q` holds along every sequence of such calls. -/
theorem along_of_each {C : W → κ → Prop} {I : List (W × κ) → W → Prop} {Q : List (W × κ) → W → κ → Prop}
    (hQ : ∀ past w c, I past w → C w c → Q past w c ∧ I ((w, c) :: past) (step c w)) {past : List (W × κ)}
    (hw : I past w) (hC : Each step C w cs) : Along step Q past w cs := by
  induction cs generalizing past w with
  | nil => trivial
  | cons c cs ih =>
    obtain ⟨hcall, hnext⟩ := hQ past w c hw hC.1
    exact ⟨hcall, ih hnext hC.2⟩

end FastapiTemplate.Effects
