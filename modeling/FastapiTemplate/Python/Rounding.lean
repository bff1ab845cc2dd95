import FastapiTemplate.Python.Value
import Mathlib.Algebra.Order.Floor.Ring

/-!
# Rounding

`round` keeps the order of the numbers and leaves integers as they are, so it keeps the bounds that are integers.
-/

namespace FastapiTemplate.Python

variable {q r : ℚ} {n : ℤ}

lemma roundHalfEven_intCast (n : ℤ) : roundHalfEven n = n := by simp [roundHalfEven]

lemma roundHalfEven_zero : roundHalfEven 0 = 0 := by exact_mod_cast roundHalfEven_intCast 0

lemma floor_le_roundHalfEven (q : ℚ) : ⌊q⌋ ≤ roundHalfEven q := by
  unfold roundHalfEven
  split_ifs <;> omega

lemma roundHalfEven_le_floor_add_one (q : ℚ) : roundHalfEven q ≤ ⌊q⌋ + 1 := by
  unfold roundHalfEven
  split_ifs <;> omega

/-- Over one integer the larger number is rounded up if the smaller one is. -/
lemma roundHalfEven_le_of_floor_eq (hfloor : ⌊q⌋ = ⌊r⌋) (h : q ≤ r) : roundHalfEven q ≤ roundHalfEven r := by
  by_cases hdown : q - ⌊q⌋ < 1 / 2
  · have hq : roundHalfEven q = ⌊q⌋ := if_pos hdown
    rw [hq, hfloor]
    exact floor_le_roundHalfEven r
  by_cases hup : 1 / 2 < r - ⌊r⌋
  · have hr : roundHalfEven r = ⌊r⌋ + 1 := by
      unfold roundHalfEven
      rw [if_neg (not_lt.2 hup.le), if_pos hup]
    rw [hr, ← hfloor]
    exact roundHalfEven_le_floor_add_one q
  · -- both are halfway
    rw [hfloor] at hdown
    have heq : q = r := by linarith
    rw [heq]

/-- **Rounding is monotone.** -/
theorem roundHalfEven_mono (h : q ≤ r) : roundHalfEven q ≤ roundHalfEven r := by
  rcases (Int.floor_le_floor h).eq_or_lt with hfloor | hfloor
  · exact roundHalfEven_le_of_floor_eq hfloor h
  · -- an integer lies between the two
    calc roundHalfEven q ≤ ⌊q⌋ + 1 := roundHalfEven_le_floor_add_one q
      _ ≤ ⌊r⌋ := hfloor
      _ ≤ roundHalfEven r := floor_le_roundHalfEven r

/-- A number is rounded up to an integer from less than a half below it, and from half below it if it is even. -/
theorem roundHalfEven_eq_iff_of_le (h : q ≤ n) :
    roundHalfEven q = n ↔ n - q < 1 / 2 ∨ (n - q = 1 / 2 ∧ n % 2 = 0) := by
  have hfloor : (⌊q⌋ : ℚ) ≤ q := Int.floor_le q
  have hnext : q < ⌊q⌋ + 1 := Int.lt_floor_add_one q
  have hlow : ⌊q⌋ ≤ n := by exact_mod_cast hfloor.trans h
  unfold roundHalfEven
  by_cases hdown : q - ⌊q⌋ < 1 / 2
  · rw [if_pos hdown]
    constructor
    · intro hn
      rw [← hn]
      exact .inl (by linarith)
    · intro hnear
      have hle : (n : ℚ) - q ≤ 1 / 2 := hnear.elim le_of_lt fun hhalf => hhalf.1.le
      have hlt : n < ⌊q⌋ + 1 := by
        have hcast : (n : ℚ) < ⌊q⌋ + 1 := by linarith
        exact_mod_cast hcast
      omega
  · rw [if_neg hdown]
    -- the number is no integer, so `n` is above its floor
    have hup : ⌊q⌋ + 1 ≤ n := by
      have hcast : (⌊q⌋ : ℚ) < n := by linarith [not_lt.1 hdown]
      exact_mod_cast hcast
    have hone : (n : ℚ) - q ≤ 1 / 2 → n = ⌊q⌋ + 1 := by
      intro hle
      have hcast : (n : ℚ) < ⌊q⌋ + 1 + 1 := by linarith
      have hlt : n < ⌊q⌋ + 1 + 1 := by exact_mod_cast hcast
      omega
    by_cases habove : 1 / 2 < q - ⌊q⌋
    · rw [if_pos habove]
      constructor
      · intro hn
        rw [← hn]
        push_cast
        exact .inl (by linarith)
      · intro hnear
        exact (hone (hnear.elim le_of_lt fun hhalf => hhalf.1.le)).symm
    · rw [if_neg habove]
      have hhalf : q - ⌊q⌋ = 1 / 2 := le_antisymm (not_lt.1 habove) (not_lt.1 hdown)
      constructor
      · intro hn
        split at hn
        · omega
        · rw [← hn]
          push_cast
          exact .inr ⟨by linarith, by omega⟩
      · intro hnear
        have hn := hone (hnear.elim le_of_lt fun hhalf => hhalf.1.le)
        rcases hnear with hlt | ⟨-, heven⟩
        · rw [hn] at hlt
          push_cast at hlt
          linarith
        · rw [if_neg (by omega)]
          exact hn.symm

lemma le_roundHalfEven (h : (n : ℚ) ≤ q) : n ≤ roundHalfEven q := by
  have hround := roundHalfEven_mono h
  rwa [roundHalfEven_intCast] at hround

lemma roundHalfEven_le (h : q ≤ n) : roundHalfEven q ≤ n := by
  have hround := roundHalfEven_mono h
  rwa [roundHalfEven_intCast] at hround

end FastapiTemplate.Python
