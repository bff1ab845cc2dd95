import Mathlib.Data.Int.Interval
import Mathlib.Data.Finset.Card
import Mathlib.Logic.Function.Basic

/-!
# Tickets

A counter that adds one for each taker and answers with the sum gives out the tickets `1`, `2`, …, once
each, in whatever order the takers come. `Tickets ticket k` is the state after `k` of them; `card_le`
counts the takers with a ticket up to a bound.
-/

namespace FastapiTemplate.Store

variable {ι : Type} {ticket : ι → Option ℤ} {k : ℕ}

/-- The tickets up to `k` have been given out, each to one taker. -/
structure Tickets (ticket : ι → Option ℤ) (k : ℕ) : Prop where
  range : ∀ i v, ticket i = some v → 1 ≤ v ∧ v ≤ k
  taker : ∀ v : ℤ, 1 ≤ v → v ≤ k → ∃! i, ticket i = some v

namespace Tickets

lemma none : Tickets (fun _ : ι => Option.none) 0 := ⟨nofun, fun v h h' => by omega⟩

/-- The next ticket goes to a taker who has none. -/
theorem issue [DecidableEq ι] (h : Tickets ticket k) {i : ι} (hi : ticket i = Option.none) :
    Tickets (Function.update ticket i (some (k + 1 : ℤ))) (k + 1) where
  range j v hj := by
    by_cases hji : j = i
    · subst hji
      rw [Function.update_self, Option.some.injEq] at hj
      omega
    · rw [Function.update_of_ne hji] at hj
      have := h.range j v hj
      omega
  taker v hv hvk := by
    by_cases hlast : v = k + 1
    · -- the new ticket is nobody else's
      refine ⟨i, by simp [hlast], fun j hj => ?_⟩
      by_contra hji
      dsimp only at hj
      rw [Function.update_of_ne hji] at hj
      have := (h.range j v hj).2
      omega
    · obtain ⟨j, hj, hunique⟩ := h.taker v hv (by omega)
      have hne : ∀ j', ticket j' = some v → j' ≠ i := by
        rintro j' hj' rfl
        rw [hi] at hj'
        cases hj'
      refine ⟨j, by simpa [hne j hj] using hj, fun j' hj' => hunique j' ?_⟩
      by_cases hji : j' = i
      · subst hji
        simp only [Function.update_self, Option.some.injEq] at hj'
        omega
      · simpa [hji] using hj'

/-- **How many tickets are within a bound.** -/
theorem card_le [Fintype ι] (h : Tickets ticket k) (q : ℤ) :
    (Finset.univ.filter fun i => ∃ v ∈ ticket i, v ≤ q).card = min k q.toNat := by
  have himage : (Finset.univ.filter fun i => ∃ v ∈ ticket i, v ≤ q).image (fun i => (ticket i).getD 0) =
      Finset.Icc 1 (min (k : ℤ) q) := by
    ext v
    simp only [Finset.mem_image, Finset.mem_filter, Finset.mem_univ, true_and, Finset.mem_Icc, le_min_iff]
    constructor
    · rintro ⟨i, ⟨v', hi, hq⟩, rfl⟩
      rw [Option.mem_def] at hi
      have := h.range i v' hi
      rw [hi, Option.getD_some]
      exact ⟨this.1, this.2, hq⟩
    · rintro ⟨hv, hk, hq⟩
      obtain ⟨i, hi, -⟩ := h.taker v hv hk
      exact ⟨i, ⟨v, hi, hq⟩, by rw [hi]; rfl⟩
  have hinj : Set.InjOn (fun i => (ticket i).getD 0)
      (Finset.univ.filter fun i => ∃ v ∈ ticket i, v ≤ q : Finset ι) := by
    intro i hi j hj hij
    obtain ⟨v, hv, -⟩ := (Finset.mem_filter.1 (Finset.mem_coe.1 hi)).2
    obtain ⟨v', hv', -⟩ := (Finset.mem_filter.1 (Finset.mem_coe.1 hj)).2
    rw [Option.mem_def] at hv hv'
    simp only [hv, hv', Option.getD_some] at hij
    subst hij
    obtain ⟨hr, hr'⟩ := h.range i v hv
    exact (h.taker v hr hr').unique hv hv'
  rw [← Finset.card_image_of_injOn hinj, himage, Int.card_Icc]
  omega

/-- How many tickets there are. -/
theorem card_takers [Fintype ι] (h : Tickets ticket k) :
    (Finset.univ.filter fun i => (ticket i).isSome).card = k := by
  have hle := h.card_le k
  rw [Int.toNat_natCast, min_self] at hle
  rw [← hle]
  refine congrArg Finset.card (Finset.filter_congr fun i _ => ?_)
  constructor
  · intro hi
    obtain ⟨v, hv⟩ := Option.isSome_iff_exists.1 hi
    exact ⟨v, hv, (h.range i v hv).2⟩
  · rintro ⟨v, hv, -⟩
    exact Option.isSome_iff_exists.2 ⟨v, hv⟩

end Tickets

end FastapiTemplate.Store
