import Mathlib.Data.List.Chain

/-!
# Journals

A journal is what a run leaves behind: a list of labelled steps, each with the state it led to.
`Journal R a log b` says that the log leads from `a` to `b` by steps of `R`. Its uses are an invariant
of every state on the way (`Journal.invariant`), a relation between any two states in a row
(`Journal.isChain`), and a transitive relation between any earlier and any later state
(`Journal.pairwise`).
-/

namespace FastapiTemplate.Effects

variable {σ κ : Type}

/-- The log leads from one state to the other by steps of `R`. -/
def Journal (R : σ → κ → σ → Prop) : σ → List (κ × σ) → σ → Prop
  | a, [], b => b = a
  | a, (k, c) :: log, b => R a k c ∧ Journal R c log b

namespace Journal

variable {R R' : σ → κ → σ → Prop} {a b c : σ} {log log' : List (κ × σ)}

theorem append (h : Journal R a log b) (h' : Journal R b log' c) :
    Journal R a (log ++ log') c := by
  induction log generalizing a with
  | nil =>
    have hb : b = a := h
    rw [← hb]
    exact h'
  | cons e log ih => exact ⟨h.1, ih h.2⟩

lemma snoc {k : κ} (h : Journal R a log b) (hk : R b k c) : Journal R a (log ++ [(k, c)]) c :=
  h.append ⟨hk, rfl⟩

theorem mono (hR : ∀ a k b, R a k b → R' a k b) (h : Journal R a log b) : Journal R' a log b := by
  induction log generalizing a with
  | nil => exact h
  | cons e log ih => exact ⟨hR _ _ _ h.1, ih h.2⟩

/-- **Invariants.** What every step preserves holds in every state of the journal. -/
theorem invariant {I : σ → Prop} (hI : ∀ a k b, R a k b → I a → I b) (h : Journal R a log b)
    (ha : I a) : ∀ s ∈ a :: log.map Prod.snd, I s := by
  induction log generalizing a with
  | nil => simpa using ha
  | cons e log ih =>
    intro s hs
    rcases List.mem_cons.1 hs with rfl | hs
    · exact ha
    · exact ih h.2 (hI _ _ _ h.1 ha) s hs

/-- The steps of a journal, known to keep an invariant. -/
theorem keeping {I : σ → Prop} (hI : ∀ a k b, R a k b → I a → I b) (h : Journal R a log b) (ha : I a) :
    Journal (fun a k b => R a k b ∧ I a ∧ I b) a log b := by
  induction log generalizing a with
  | nil => exact h
  | cons e log ih =>
    have hb : I e.2 := hI _ _ _ h.1 ha
    exact ⟨⟨h.1, ha, hb⟩, ih h.2 hb⟩

/-- The journal ends where it leads to. -/
lemma last_mem (h : Journal R a log b) : b ∈ a :: log.map Prod.snd := by
  induction log generalizing a with
  | nil =>
    have hb : b = a := h
    exact hb ▸ List.mem_cons_self
  | cons e log ih => exact List.mem_cons_of_mem _ (ih h.2)

/-- What relates the two ends of every step, and composes, relates every state to the last one. -/
theorem to_last {T : σ → σ → Prop} (hT : ∀ a k b, R a k b → T a b) (hrefl : ∀ a, T a a)
    (htrans : ∀ a b c, T a b → T b c → T a c) (h : Journal R a log b) :
    ∀ s ∈ a :: log.map Prod.snd, T s b := by
  induction log generalizing a with
  | nil =>
    have hb : b = a := h
    intro s hs
    rw [List.mem_singleton.1 hs, hb]
    exact hrefl a
  | cons e log ih =>
    intro s hs
    rcases List.mem_cons.1 hs with rfl | hs
    · exact htrans _ _ _ (hT _ _ _ h.1) (ih h.2 e.2 List.mem_cons_self)
    · exact ih h.2 s hs

/-- Two states in a row are related as the ends of a step are. -/
theorem isChain {T : σ → σ → Prop} (hT : ∀ a k b, R a k b → T a b) (h : Journal R a log b) :
    (a :: log.map Prod.snd).IsChain T := by
  induction log generalizing a with
  | nil => exact .singleton a
  | cons e log ih => exact List.isChain_cons_cons.2 ⟨hT _ _ _ h.1, ih h.2⟩

/-- **Relations between states.** What relates the two ends of every step, and composes, relates every
earlier state to every later one. -/
theorem pairwise {T : σ → σ → Prop} (hT : ∀ a k b, R a k b → T a b)
    (htrans : ∀ a b c, T a b → T b c → T a c) (h : Journal R a log b) :
    (a :: log.map Prod.snd).Pairwise T := by
  induction log generalizing a with
  | nil => exact List.pairwise_singleton T a
  | cons e log ih =>
    have hrest := ih h.2
    rw [List.map_cons, List.pairwise_cons]
    refine ⟨fun s hs => ?_, hrest⟩
    have hstep : T a e.2 := hT _ _ _ h.1
    rcases List.mem_cons.1 hs with rfl | hs
    · exact hstep
    · exact htrans _ _ _ hstep ((List.pairwise_cons.1 hrest).1 s hs)

end Journal

end FastapiTemplate.Effects
