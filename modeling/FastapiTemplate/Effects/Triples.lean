import FastapiTemplate.Effects.Prog

/-!
# Triples with an invariant

`Script.Ensures h I p Q`: run by itself from a world with the invariant `I`, the script `p` ends in a world
with `I`, whether it returns or raises, and what it returns satisfies `Q`. One rule for each construct of a
script; a program that is put together from pieces keeps what its pieces keep.
-/

namespace FastapiTemplate.Effects.Script

variable {E : Type} {R : E → Type} {W σ ε α β : Type}

/-- Run by itself from a world with `I` the script ends in one; what it returns satisfies `Q`. -/
def Ensures (h : Handler E R W) (I : W → Prop) (p : Script E R σ ε α) (Q : α → Prop) : Prop :=
  ∀ s w, I w → I (p.exec h s w).world ∧ ∀ a, (p.exec h s w).result = .ok a → Q a

namespace Ensures

variable {h : Handler E R W} {I : W → Prop} {Q Q' : α → Prop} {p : Script E R σ ε α}

lemma pure {a : α} (ha : Q a) : Ensures h I (Pure.pure a : Script E R σ ε α) Q :=
  fun _ _ hw => ⟨hw, fun _ hb => Except.ok.inj hb ▸ ha⟩

lemma throw (e : ε) : Ensures h I (MonadExcept.throw e : Script E R σ ε α) Q :=
  fun _ _ hw => ⟨hw, fun _ hb => nomatch hb⟩

lemma ofExcept {x : Except ε α} (hx : ∀ a, x = .ok a → Q a) :
    Ensures h I (MonadExcept.ofExcept x : Script E R σ ε α) Q := by
  intro s w hw
  rw [exec_ofExcept]
  exact ⟨hw, hx⟩

/-- One effect. -/
lemma perform {e : E} {Q : R e → Prop} (he : ∀ w, I w → I (h e w).2 ∧ Q (h e w).1) :
    Ensures h I (Script.perform e : Script E R σ ε (R e)) Q :=
  fun _ w hw => ⟨(he w hw).1, fun _ hb => Except.ok.inj hb ▸ (he w hw).2⟩

/-- **Sequencing.** -/
theorem bind {f : α → Script E R σ ε β} {Q' : β → Prop} (hp : Ensures h I p Q)
    (hf : ∀ a, Q a → Ensures h I (f a) Q') : Ensures h I (p >>= f) Q' := by
  intro s w hw
  obtain ⟨hworld, hresult⟩ := hp s w hw
  rw [exec_bind]
  rcases ho : p.exec h s w with ⟨e | a, s', w'⟩ <;> rw [ho] at hworld hresult
  · exact ⟨hworld, fun _ hb => nomatch hb⟩
  · exact hf a (hresult a rfl) s' w' hworld

/-- **A handler.** -/
theorem tryCatch {f : ε → Script E R σ ε α} (hp : Ensures h I p Q) (hf : ∀ e, Ensures h I (f e) Q) :
    Ensures h I (tryCatch p f) Q := by
  intro s w hw
  obtain ⟨hworld, hresult⟩ := hp s w hw
  rw [exec_tryCatch]
  rcases ho : p.exec h s w with ⟨e | a, s', w'⟩ <;> rw [ho] at hworld hresult
  · exact hf e s' w' hworld
  · exact ⟨hworld, hresult⟩

end Ensures

end FastapiTemplate.Effects.Script
