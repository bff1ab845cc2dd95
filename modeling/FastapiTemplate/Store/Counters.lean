import Mathlib.Algebra.Order.Group.Int
import Mathlib.Algebra.BigOperators.Group.List.Basic
import Mathlib.Algebra.Ring.Int.Defs
import Mathlib.Logic.Function.Basic

/-!
# Counters that expire

A store of integers under keys, each with a time from which it is gone. Adding to a counter sets its
lifetime anew, as `INCRBY` and `EXPIRE` in one transaction do; adding to a counter that is gone starts
from zero.

`value_after` says what a counter holds in terms of the additions alone: the sum of those that are
*counted*, going back in time from the moment of the reading until a gap is found that the counter has
not outlived.
-/

namespace FastapiTemplate.Store

/-- A counter, and the time from which it is gone. -/
structure Cell where
  value : ℤ
  expires : ℤ
  deriving DecidableEq

/-- Counters under keys. -/
abbrev Counters (κ : Type) : Type := κ → Option Cell

/-- An addition to a counter: when, to which, how much, and the lifetime that starts with it. -/
structure Pulse (κ : Type) where
  time : ℤ
  key : κ
  amount : ℤ
  ttl : ℤ

/-- The time from which the counter is gone, if nothing is added meanwhile. -/
def Pulse.expires {κ : Type} (p : Pulse κ) : ℤ := p.time + p.ttl

namespace Counters

variable {κ : Type}

/-- No counters. -/
def empty : Counters κ := fun _ => none

/-- `GET`, at time `t`. -/
def read (c : Counters κ) (t : ℤ) (k : κ) : Option ℤ :=
  match c k with
  | some cell => if t < cell.expires then some cell.value else none
  | none => none

/-- What is added to: a counter that is gone counts as zero. -/
def value (c : Counters κ) (t : ℤ) (k : κ) : ℤ := (c.read t k).getD 0

/-- A counter that is gone stays away. -/
lemma read_none_of_le {c : Counters κ} {t t' : ℤ} {k : κ} (h : c.read t k = none) (ht : t ≤ t') :
    c.read t' k = none := by
  unfold read at h ⊢
  cases hc : c k with
  | none => rfl
  | some cell =>
    have hgone : ¬t < cell.expires := fun hlt => by simp [hc, hlt] at h
    exact if_neg (by omega)

variable [DecidableEq κ]

/-- `INCRBY` and `EXPIRE`. -/
def add (c : Counters κ) (p : Pulse κ) : Counters κ :=
  Function.update c p.key (some ⟨c.value p.time p.key + p.amount, p.expires⟩)

/-- The counters after additions, the latest of which comes first. -/
def after : List (Pulse κ) → Counters κ
  | [] => empty
  | p :: ps => (after ps).add p

/-- Of what was added, each `b` by the pulse `f b`, the latest first: what is counted at time `t`, back
to the last gap that was too long. -/
def counted {β : Type} (f : β → Pulse κ) (t : ℤ) : List β → List β
  | [] => []
  | b :: bs => if t < (f b).expires then b :: counted f (f b).time bs else []

/-- What is not counted any more. -/
def forgotten {β : Type} (f : β → Pulse κ) (t : ℤ) (bs : List β) : List β :=
  bs.drop (counted f t bs).length

omit [DecidableEq κ] in
lemma counted_append_forgotten {β : Type} (f : β → Pulse κ) (t : ℤ) (bs : List β) :
    counted f t bs ++ forgotten f t bs = bs := by
  induction bs generalizing t with
  | nil => rfl
  | cons b bs ih =>
    unfold forgotten counted
    split
    · exact congrArg (b :: ·) (ih (f b).time)
    · rfl

lemma read_add_self {c : Counters κ} {p : Pulse κ} {t : ℤ} (h : t < p.expires) :
    (c.add p).read t p.key = some (c.value p.time p.key + p.amount) := by
  simp [read, add, h]

lemma read_add_gone {c : Counters κ} {p : Pulse κ} {t : ℤ} (h : p.expires ≤ t) :
    (c.add p).read t p.key = none := by
  simp [read, add, not_lt.2 h]

lemma read_add_of_ne {c : Counters κ} {p : Pulse κ} {t : ℤ} {k : κ} (h : k ≠ p.key) :
    (c.add p).read t k = c.read t k := by
  simp [read, add, h]

/-- **What a counter holds**: the sum of the additions to it that are counted. -/
theorem value_after {β : Type} (f : β → Pulse κ) (bs : List β) (t : ℤ) (k : κ) :
    (after (bs.map f)).value t k =
      ((counted f t (bs.filter fun b => (f b).key = k)).map fun b => (f b).amount).sum := by
  induction bs generalizing t with
  | nil => rfl
  | cons b bs ih =>
    by_cases hk : (f b).key = k
    · subst hk
      rw [List.filter_cons_of_pos (by simp)]
      by_cases ht : t < (f b).expires
      · rw [counted, if_pos ht, List.map_cons, List.map_cons, List.sum_cons, ← ih]
        simp only [value, after, read_add_self ht, Option.getD_some]
        exact add_comm _ _
      · rw [counted, if_neg ht]
        simp only [value, after, List.map_cons, read_add_gone (not_lt.1 ht), Option.getD_none]
        rfl
    · rw [List.filter_cons_of_neg (by simpa using hk), ← ih]
      simp only [value, after, List.map_cons, read_add_of_ne (c := after (bs.map f)) (Ne.symm hk)]

end Counters

end FastapiTemplate.Store
