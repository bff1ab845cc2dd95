import FastapiTemplate.Core.Pace

/-!
# What a script has read

A third monitor, for scripts that put into a row what they have read in another: its state is every
state of the database the script has read, and a change that is committed satisfies a condition `P` on
them. The condition is one that stays true when more is read.

`Sees P m₀ p Q` is the judgement: from any session whose changes are as `P` asks, having read at least
`m₀`, the script commits only changes of `P`, and returns a value that `Q` relates to what it has read by
then. A script that is `Idle` may be used in it as it is.
-/

namespace FastapiTemplate.Core

open Effects Database Script

variable {S : Schema} {α β : Type} {P : List (Db S) → Change → Prop}

/-- The monitor. -/
def reading (P : List (Db S) → Change → Prop) : Monitor Eff (Answer S) (List (Db S)) where
  allows
    | m, .commit cs => Each (P m) cs
    | _, _ => True
  next
    | m, .query, .ok d => d :: m
    | m, _, _ => m

lemma subset_next (m : List (Db S)) (e : Eff) (r : Answer S e) : m ⊆ (reading P).next m e r := by
  cases e with
  | query =>
    cases r with
    | ok d => exact List.subset_cons_self d m
    | error e => exact List.Subset.refl m
  | _ => exact List.Subset.refl m

/-- A program whose commits satisfy `P` whatever was read. -/
theorem follows_reading {ok : List Change → Prop} (hok : ∀ cs, ok cs → ∀ m, Each (P m) cs)
    {p : Prog Eff (Answer S) α} {f : Phase} {Q : α → Phase → Prop} (hp : p.Follows (pace ok) f Q)
    (m : List (Db S)) : p.Follows (reading P) m fun a m' => m ⊆ m' ∧ ∃ f', Q a f' := by
  induction p generalizing f m with
  | pure a => exact ⟨List.Subset.refl m, f, hp⟩
  | call e k ih =>
    refine ⟨?_, fun r => (ih r (hp.2 r) _).weaken fun a m' h => ⟨List.Subset.trans (subset_next m e r) h.1, h.2⟩⟩
    cases e with
    | commit cs => exact hok cs (ok_of_allows hp.1) m
    | _ => trivial

/-- The condition stays true when more is read. -/
def Lasting (P : List (Db S) → Change → Prop) : Prop :=
  ∀ (m m' : List (Db S)) (c : Change), m ⊆ m' → P m c → P m' c

/-- From any session whose changes are as `P` asks, having read at least `m₀`. -/
def Sees (P : List (Db S) → Change → Prop) (m₀ : List (Db S)) (p : Py S α)
    (Q : List (Db S) → α → Prop := fun _ _ => True) : Prop :=
  ∀ (s : Session) (m : List (Db S)), m₀ ⊆ m → Each (P m) s.pending → Wp (reading P) p s m
    (fun a s' m' => Q m' a ∧ Each (P m') s'.pending ∧ m ⊆ m') fun _ s' m' => Each (P m') s'.pending ∧ m ⊆ m'

namespace Sees

variable {m₀ : List (Db S)} {Q : List (Db S) → α → Prop} {R : List (Db S) → β → Prop}

theorem bind {p : Py S α} {f : α → Py S β} (hp : Sees P m₀ p Q)
    (hf : ∀ a m₁, m₀ ⊆ m₁ → Q m₁ a → Sees P m₁ (f a) R) : Sees P m₀ (p >>= f) R := by
  intro s m hm hs
  rw [wp_bind]
  refine (hp s m hm hs).mono ?_ fun _ _ _ h => h
  rintro a s' m' ⟨ha, hs', hm'⟩
  refine (hf a m' (List.Subset.trans hm hm') ha s' m' (List.Subset.refl m') hs').mono ?_ ?_
  · exact fun _ _ _ h => ⟨h.1, h.2.1, List.Subset.trans hm' h.2.2⟩
  · exact fun _ _ _ h => ⟨h.1, List.Subset.trans hm' h.2⟩

theorem tryCatch {p : Py S α} {f : Exn → Py S α} (hp : Sees P m₀ p Q) (hf : ∀ e, Sees P m₀ (f e) Q) :
    Sees P m₀ (MonadExcept.tryCatch p f) Q := by
  intro s m hm hs
  refine wp_tryCatch.2 ((hp s m hm hs).mono (fun _ _ _ h => h) ?_)
  rintro e s' m' ⟨hs', hm'⟩
  refine (hf e s' m' (List.Subset.trans hm hm') hs').mono ?_ ?_
  · exact fun _ _ _ h => ⟨h.1, h.2.1, List.Subset.trans hm' h.2.2⟩
  · exact fun _ _ _ h => ⟨h.1, List.Subset.trans hm' h.2⟩

lemma mono {p : Py S α} {Q' : List (Db S) → α → Prop} (hp : Sees P m₀ p Q) (h : ∀ m a, Q m a → Q' m a) :
    Sees P m₀ p Q' := fun s m hm hs =>
  (hp s m hm hs).mono (fun a _ m' ha => ⟨h m' a ha.1, ha.2⟩) fun _ _ _ h => h

lemma pure {a : α} (h : ∀ m, m₀ ⊆ m → Q m a) : Sees P m₀ (Pure.pure a : Py S α) Q :=
  fun _ m hm hs => ⟨h m hm, hs, List.Subset.refl m⟩

lemma throw (e : Exn) : Sees P m₀ (MonadExcept.throw e : Py S α) Q :=
  fun _ m _ hs => ⟨hs, List.Subset.refl m⟩

lemma map {p : Py S α} {f : α → β} (hp : Sees P m₀ p Q) : Sees P m₀ (f <$> p) :=
  bind hp fun _ _ _ _ => pure fun _ _ => trivial

variable (hmono : Lasting P)

include hmono

/-- A script that commits nothing. -/
theorem of_idle {p : Py S α} {Q : α → Prop} (h : Idle p Q) : Sees P m₀ p fun _ => Q := by
  intro s m _ hs
  have hp := follows_reading (P := P) (fun _ h => h.elim) (h (fun _ => False) s .fresh) m
  refine hp.weaken ?_
  rintro ⟨r, s'⟩ m' ⟨hm, f, hend⟩
  have hkept : ∀ {cs : List Change}, cs = s.pending → Each (P m') cs := by
    rintro cs rfl
    exact hs.mono fun c => hmono m m' c hm
  cases r with
  | ok a => exact ⟨hend.1, hkept hend.2.1, hm⟩
  | error e => exact ⟨hkept hend.1, hm⟩

/-- The rows of a `SELECT` are stored in a state that was read. -/
theorem select (rows : Db S → List α) (tenant : α → Option ℤ) (p : α → Bool) :
    Sees P m₀ (Core.select rows tenant p) fun m as => ∃ d ∈ m, ∀ a ∈ as, a ∈ rows d ∧ p a = true := by
  intro s m _ hs
  unfold Core.select
  rw [wp_bind, wp_getState]
  unfold Core.execute
  rw [wp_bind, wp_getState]
  split
  · exact ⟨hs, List.Subset.refl m⟩
  rw [wp_bind, wp_perform]
  refine ⟨trivial, ?_⟩
  rintro (e | d)
  · exact wp_bind.2 ⟨hs, List.Subset.refl m⟩
  · refine ⟨⟨d, List.mem_cons_self, fun a ha => ?_⟩, hs.mono fun c => hmono _ _ c (List.subset_cons_self d m),
      List.subset_cons_self d m⟩
    obtain ⟨hmem, hp⟩ := List.mem_filter.1 ha
    exact ⟨hmem, (Bool.and_eq_true _ _ ▸ hp).2⟩

lemma add {c : Change} (hc : P m₀ c) : Sees P m₀ (Core.add c : Py S Unit) :=
  fun _ m hm hs => ⟨trivial, hs.snoc (hmono _ _ _ hm hc), List.Subset.refl m⟩

omit hmono

lemma rollback : Sees P m₀ (Core.rollback : Py S Unit) :=
  fun _ m _ _ => ⟨trivial, each_nil _, List.Subset.refl m⟩

theorem commit : Sees P m₀ (Core.commit : Py S (List ℤ)) := by
  intro s m _ hs
  unfold Core.commit
  rw [wp_bind, wp_getState]
  split
  · exact ⟨hs, List.Subset.refl m⟩
  rw [wp_bind, wp_perform]
  refine ⟨hs, ?_⟩
  rintro (e | ids)
  · exact ⟨hs, List.Subset.refl m⟩
  · exact ⟨trivial, each_nil _, List.Subset.refl m⟩

end Sees

end FastapiTemplate.Core
