import Mathlib.Algebra.Order.Group.Defs
import Mathlib.Data.List.Basic

/-!
# Sorted sets

Members with scores under a key that expires, the way Redis keeps them. The times and the scores are of any ordered
group.

A log of events in a window is kept in such a set by `SortedSet.record`: each event drops those that have left the
window, adds itself with its time as score, and lets the key live for another window. If time does not go back, the
set shows exactly the events of the window that ends now, at any time (`Tracks.record`): its key never expires while one
of them is in the window (`Tracks.mem_live`).
-/

namespace FastapiTemplate.Store

/-- Members with their scores, and the time at which the key expires. -/
structure SortedSet (μ K : Type) where
  scores : List (μ × K) := []
  deadline : Option K := none

namespace SortedSet

variable {μ K : Type} [LinearOrder K]

def expired (s : SortedSet μ K) (t : K) : Bool := s.deadline.any fun d => decide (d ≤ t)

/-- What is there at time `t`. -/
def live (s : SortedSet μ K) (t : K) : SortedSet μ K := if s.expired t then {} else s

/-- `ZREMRANGEBYSCORE`, from the lowest score on; a set without members has no key. -/
def zremrangebyscore (s : SortedSet μ K) (max : K) : SortedSet μ K :=
  let scores := s.scores.filter fun e => decide (max < e.2)
  { scores, deadline := if scores.isEmpty then none else s.deadline }

/-- `ZADD` -/
def zadd [DecidableEq μ] (s : SortedSet μ K) (member : μ) (score : K) : SortedSet μ K :=
  { s with
    scores :=
      if member ∈ s.scores.map Prod.fst then s.scores.map fun e => if e.1 = member then (member, score) else e
      else s.scores ++ [(member, score)] }

/-- `ZCARD` -/
def zcard (s : SortedSet μ K) : ℕ := s.scores.length

/-- `EXPIRE` -/
def expire [Add K] (s : SortedSet μ K) (t ttl : K) : SortedSet μ K := { s with deadline := some (t + ttl) }

/-! ### A log of a window -/

variable [AddCommGroup K]

/-- At any later time, the set shows the events of the log that are in the window. -/
def Tracks (w : K) (s : SortedSet μ K) (log : List (μ × K)) : Prop :=
  ∀ t, (∀ e ∈ log, e.2 ≤ t) →
    ((s.live t).zremrangebyscore (t - w)).scores = log.filter fun e => decide (t - w < e.2)

variable {s : SortedSet μ K} {w t : K} {log : List (μ × K)} {member : μ}

lemma Tracks.empty : Tracks w ({} : SortedSet μ K) [] := fun _ _ => rfl

/-- **No event that is in the window is lost**, neither by a later one nor because the key expires. -/
theorem Tracks.mem_live (h : Tracks w s log) (ht : ∀ e ∈ log, e.2 ≤ t) {e : μ × K} (he : e ∈ log) (hin : t - w < e.2) :
    e ∈ (s.live t).scores := by
  have hshown : e ∈ ((s.live t).zremrangebyscore (t - w)).scores := by
    rw [h t ht]
    exact List.mem_filter.2 ⟨he, decide_eq_true hin⟩
  exact List.mem_of_mem_filter hshown

variable [DecidableEq μ]

/-- The event `(member, t)`, in a window of length `w`. -/
def record (s : SortedSet μ K) (w : K) (member : μ) (t : K) : SortedSet μ K :=
  (((s.live t).zremrangebyscore (t - w)).zadd member t).expire t w

/-- What is recorded: the events that were in the window, and the new one. -/
lemma Tracks.scores_record (h : Tracks w s log) (ht : ∀ e ∈ log, e.2 ≤ t) (hmember : member ∉ log.map Prod.fst) :
    (s.record w member t).scores = (log.filter fun e => decide (t - w < e.2)) ++ [(member, t)] := by
  have hnew : member ∉ (log.filter fun e => decide (t - w < e.2)).map Prod.fst := fun hmem =>
    hmember (List.map_subset _ (List.filter_subset_self _) hmem)
  show (zadd _ member t).scores = _
  unfold zadd
  dsimp only
  rw [h t ht, if_neg hnew]

variable [IsOrderedAddMonoid K]

/-- **An event is recorded.** -/
theorem Tracks.record (h : Tracks w s log) (ht : ∀ e ∈ log, e.2 ≤ t) (hmember : member ∉ log.map Prod.fst) :
    Tracks w (s.record w member t) (log ++ [(member, t)]) := by
  intro t' ht'
  have hle : t ≤ t' := ht' (member, t) (by simp)
  by_cases hexpired : t + w ≤ t'
  · -- the key has expired, and all events have left the window
    have hnone : (log ++ [(member, t)]).filter (fun e => decide (t' - w < e.2)) = [] := by
      rw [List.filter_eq_nil_iff]
      intro e he
      have hbefore : e.2 ≤ t := by
        rcases List.mem_append.1 he with he | he
        · exact ht e he
        · rw [List.mem_singleton.1 he]
      have hout : e.2 ≤ t' - w := hbefore.trans (le_sub_iff_add_le.2 hexpired)
      simpa using hout
    have hlive : (s.record w member t).live t' = {} := by simp [live, expired, SortedSet.record, expire, hexpired]
    rw [hnone, hlive]
    rfl
  · have hlive : (s.record w member t).live t' = s.record w member t := by
      simp [live, expired, SortedSet.record, expire, hexpired]
    rw [hlive]
    show (s.record w member t).scores.filter _ = _
    rw [h.scores_record ht hmember, List.filter_append, List.filter_append, List.filter_filter]
    congr 1
    refine List.filter_congr fun e _ => ?_
    have hmono : t' - w < e.2 → t - w < e.2 := (sub_le_sub_right hle w).trans_lt
    simpa using hmono

end SortedSet

end FastapiTemplate.Store
