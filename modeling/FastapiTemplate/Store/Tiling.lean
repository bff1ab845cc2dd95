import Mathlib.Data.List.Nodup
import Mathlib.Data.List.Pairwise
import Mathlib.Order.Lattice

/-!
# Stretches that tile a line

A line is cut into half-open stretches one after another, the last of which is the current one; some of
them have been billed. `Tiling` is the invariant: what is billed lies before the current stretch or is
it, and covers everything from the beginning to there. It survives the two things that happen to such a
line: the current stretch is billed once (`Tiling.bill`), and a billed stretch is followed by the next
(`Tiling.renew`). From it, billed stretches are disjoint (`Tiling.apart`) and with the current one leave
no gap (`Tiling.covers_all`).
-/

namespace FastapiTemplate.Store

variable {α : Type} [LinearOrder α]

/-- The stretch from `start`, which it contains, to `stop`, which it does not. -/
structure Stretch (α : Type) where
  start : α
  stop : α
  deriving DecidableEq

namespace Stretch

def Contains (p : Stretch α) (t : α) : Prop := p.start ≤ t ∧ t < p.stop

/-- One stretch ends before the other begins. -/
def Apart (p q : Stretch α) : Prop := p.stop ≤ q.start ∨ q.stop ≤ p.start

instance (p : Stretch α) (t : α) : Decidable (p.Contains t) :=
  inferInstanceAs (Decidable (p.start ≤ t ∧ t < p.stop))

instance (p q : Stretch α) : Decidable (p.Apart q) :=
  inferInstanceAs (Decidable (p.stop ≤ q.start ∨ q.stop ≤ p.start))

end Stretch

/-- The line from `first` on, with its current stretch, and what is billed of it. -/
structure Tiling (first : α) (cur : Stretch α) (billed : List (Stretch α)) : Prop where
  proper : ∀ p ∈ billed, p.start < p.stop
  past : ∀ p ∈ billed, p = cur ∨ p.stop ≤ cur.start
  apart : billed.Pairwise Stretch.Apart
  covers : ∀ t, first ≤ t → t < cur.start → ∃ p ∈ billed, p.Contains t

namespace Tiling

variable {first : α} {cur : Stretch α} {billed : List (Stretch α)}

/-- A line begins with one stretch. -/
lemma start (cur : Stretch α) : Tiling cur.start cur [] where
  proper := by simp
  past := by simp
  apart := .nil
  covers t h h' := absurd (lt_of_le_of_lt h h') (lt_irrefl _)

/-- The next stretch begins where a billed one ends. -/
theorem renew (h : Tiling first cur billed) (hbilled : cur ∈ billed) {next : Stretch α}
    (hnext : next.start = cur.stop) : Tiling first next billed where
  proper := h.proper
  apart := h.apart
  past p hp := by
    right
    rw [hnext]
    rcases h.past p hp with rfl | hpast
    · exact le_rfl
    · exact hpast.trans (h.proper cur hbilled).le
  covers t hfirst ht := by
    rw [hnext] at ht
    rcases lt_or_ge t cur.start with hlt | hge
    · exact h.covers t hfirst hlt
    · exact ⟨cur, hbilled, hge, ht⟩

/-- The current stretch is billed, once. -/
theorem bill (h : Tiling first cur billed) {more : List (Stretch α)} (hmore : ∀ p ∈ more, p = cur)
    (hproper : ∀ p ∈ more, p.start < p.stop) (hn : ((billed ++ more).map Stretch.start).Nodup) :
    Tiling first cur (billed ++ more) where
  proper p hp := (List.mem_append.1 hp).elim (h.proper p) (hproper p)
  past p hp := (List.mem_append.1 hp).elim (h.past p) fun hp => .inl (hmore p hp)
  covers t hfirst ht := by
    obtain ⟨p, hp, ht⟩ := h.covers t hfirst ht
    exact ⟨p, List.mem_append_left more hp, ht⟩
  apart := by
    have hpairs := hn
    rw [List.Nodup, List.pairwise_map, List.pairwise_append] at hpairs
    obtain ⟨-, hsame, hcross⟩ := hpairs
    refine List.pairwise_append.2 ⟨h.apart, ?_, fun p hp q hq => ?_⟩
    · refine hsame.imp_of_mem fun {p q} hp hq hne => ?_
      rw [hmore p hp, hmore q hq] at hne
      exact absurd rfl hne
    · rw [hmore q hq]
      rcases h.past p hp with rfl | hpast
      · exact absurd (by rw [hmore q hq]) (hcross p hp q hq)
      · exact .inl hpast

/-- **No gap.** Billed intervals and the current one cover everything up to the end of the latter. -/
theorem covers_all (h : Tiling first cur billed) {t : α} (hfirst : first ≤ t) (ht : t < cur.stop) :
    (∃ p ∈ billed, p.Contains t) ∨ cur.Contains t := by
  rcases lt_or_ge t cur.start with hlt | hge
  · exact .inl (h.covers t hfirst hlt)
  · exact .inr ⟨hge, ht⟩

end Tiling

end FastapiTemplate.Store
