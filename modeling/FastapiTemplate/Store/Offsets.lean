import Mathlib.Data.List.Pairwise
import Mathlib.Data.List.Nodup
import Mathlib.Data.List.Sort
import Mathlib.Algebra.Order.Group.Nat
import Mathlib.Order.Basic

/-!
# Pages by offset

`ORDER BY key DESC OFFSET skip LIMIT limit`. Rows with one key may come in any order, and in another order each time:
that is left to the plan with which a query is answered. If the keys differ, the plan does not matter
(`orderedBy_eq`), and the pages at the multiples of `limit` below a total put together are all rows if there are no
more of them than the total (`flatMap_offsets`).
-/

namespace FastapiTemplate.Store

variable {α β : Type}

/-- The order in which a query comes upon the rows. -/
abbrev Plan (α : Type) : Type := { order : List α → List α // ∀ rows, (order rows).Perm rows }

/-- The rows as they come, sorted by a key, the largest first. -/
def orderedBy [LinearOrder β] (key : α → β) (plan : Plan α) (rows : List α) : List α :=
  (plan.val rows).mergeSort fun a b => decide (key b ≤ key a)

/-- `OFFSET skip LIMIT limit` -/
def slice (skip limit : ℕ) (rows : List α) : List α := (rows.drop skip).take limit

/-- The multiples of `limit` below the total. -/
def offsets (limit total : ℕ) : List ℕ := (List.range ((total + limit - 1) / limit)).map (· * limit)

/-! ### The order -/

section Order

variable [LinearOrder β] {key : α → β} {plan plan' : Plan α} {rows : List α}

lemma orderedBy_perm : (orderedBy key plan rows).Perm rows :=
  (List.mergeSort_perm _ _).trans (plan.property rows)

lemma pairwise_orderedBy : (orderedBy key plan rows).Pairwise fun a b => key b ≤ key a := by
  have htrans : ∀ a b c : α, decide (key b ≤ key a) = true → decide (key c ≤ key b) = true →
      decide (key c ≤ key a) = true := by
    intro a b c hab hbc
    exact decide_eq_true ((of_decide_eq_true hbc).trans (of_decide_eq_true hab))
  have htotal : ∀ a b : α, (decide (key b ≤ key a) || decide (key a ≤ key b)) = true := by
    intro a b
    simpa using le_total (key b) (key a)
  exact (List.pairwise_mergeSort htrans htotal _).imp of_decide_eq_true

/-- **Rows with different keys have one order.** -/
theorem orderedBy_eq (hkeys : (rows.map key).Nodup) : orderedBy key plan rows = orderedBy key plan' rows := by
  have hinj : ∀ a ∈ rows, ∀ b ∈ rows, key a = key b → a = b := fun a ha b hb h => List.inj_on_of_nodup_map hkeys ha hb h
  refine List.Perm.eq_of_pairwise ?_ pairwise_orderedBy pairwise_orderedBy
    (orderedBy_perm.trans orderedBy_perm.symm)
  intro a b ha hb hba hab
  exact hinj a (orderedBy_perm.mem_iff.1 ha) b (orderedBy_perm.mem_iff.1 hb) (le_antisymm hab hba)

end Order

/-! ### The pages -/

section Pages

variable {skip limit total : ℕ} {rows : List α}

lemma flatMap_slices (rows : List α) (limit pages : ℕ) :
    ((List.range pages).flatMap fun i => slice (i * limit) limit rows) = rows.take (pages * limit) := by
  induction pages with
  | zero => simp
  | succ pages ih =>
    rw [List.range_succ, List.flatMap_append, ih, Nat.succ_mul, List.take_add, List.flatMap_singleton]
    rfl

/-- **The pages put together are the rows.** -/
theorem flatMap_offsets (hlimit : 0 < limit) (htotal : rows.length ≤ total) :
    ((offsets limit total).flatMap fun skip => slice skip limit rows) = rows := by
  have hall : total ≤ (total + limit - 1) / limit * limit := by
    have hmod := Nat.div_add_mod (total + limit - 1) limit
    have hlt := Nat.mod_lt (total + limit - 1) hlimit
    rw [Nat.mul_comm] at hmod
    omega
  unfold offsets
  rw [List.flatMap_map, flatMap_slices, List.take_of_length_le (htotal.trans hall)]

lemma slice_ne_nil (hlimit : 0 < limit) (hskip : skip < rows.length) : slice skip limit rows ≠ [] := by
  intro hnil
  have hlength := congrArg List.length hnil
  unfold slice at hlength
  rw [List.length_take, List.length_drop, List.length_nil] at hlength
  omega

end Pages

end FastapiTemplate.Store
