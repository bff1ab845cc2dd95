import FastapiTemplate.Core.RateLimiter
import Mathlib.Data.Fintype.EquivFin

/-!
# The reset of the rate limiter

`reset` is meant to be the time from which there is room in the window again. The code adds the window to the current
time and takes it off as well, so what it returns is the current time (`reset_eq`): the next check at that time is
allowed only if the pipeline took so long that enough checks had left the window meanwhile (`reset_kept_iff`).
-/

namespace FastapiTemplate.Core

open Store

variable {K : Type} [LinearOrder K] {key : String} {limit window : ℤ} {checks : List (Check K)} {c : Check K}

/-! ### Windows and histories -/

/-- A later window of the key holds no more of these checks. -/
lemma countP_since_le {start start' : K} (h : start ≤ start') :
    checks.countP (Check.since key start') ≤ checks.countP (Check.since key start) := by
  refine List.countP_mono_left fun d _ hd => ?_
  obtain ⟨hkey, hin⟩ := of_decide_eq_true hd
  exact decide_eq_true ⟨hkey, h.trans_lt hin⟩

lemma countP_since_others {others : List (Check K)} (h : ∀ o ∈ others, o.key ≠ key) (start : K) :
    others.countP (Check.since key start) = 0 := by
  refine List.countP_eq_zero.2 fun o ho hin => ?_
  exact h o ho (of_decide_eq_true hin).1

/-- The same check again, at another time. -/
def Check.again (c : Check K) (member : String) (now : K) : Check K := { c with member := member, now := now }

lemma InTime.now_le (h : InTime key limit window (checks ++ [c])) : ∀ d ∈ checks ++ [c], d.now ≤ c.now := by
  intro d hd
  rcases List.mem_append.1 hd with hd | hd
  · exact (List.pairwise_append.1 h.clocks).2.2 d hd c (List.mem_singleton_self c)
  · exact (congrArg Check.now (List.mem_singleton.1 hd)).le

/-- A history goes on with its last check made again, under a new member. -/
lemma InTime.again {member : String} {now : K} (h : InTime key limit window (checks ++ [c])) (hnow : c.now ≤ now)
    (hmember : member ∉ (checks ++ [c]).map Check.member) :
    InTime key limit window (checks ++ [c] ++ [c.again member now]) where
  clocks := by
    refine List.pairwise_append.2 ⟨h.clocks, List.pairwise_singleton _ _, fun d hd e he => ?_⟩
    rw [List.mem_singleton.1 he]
    exact (h.now_le d hd).trans hnow
  members := by
    rw [List.map_append, List.map_singleton]
    refine List.nodup_append.2 ⟨h.members, List.nodup_singleton _, fun m hm m' hm' => ?_⟩
    rw [List.mem_singleton.1 hm']
    rintro rfl
    exact hmember hm
  settings e he hkey := by
    rcases List.mem_append.1 he with he | he
    · exact h.settings e he hkey
    · rw [List.mem_singleton.1 he] at hkey ⊢
      exact h.settings c (by simp) hkey

/-! ### The reset -/

variable [Field K] [FloorRing K] {redis : SortedSets K}

/-- What is returned is the current time. -/
lemma reset_eq : (check redis c).1.reset = truncate c.returned := by
  rw [check_fst]
  dsimp only
  rw [sub_sub_cancel, sub_add_cancel]

/-- The reset of a check is kept to: the next check on the key, if it comes no earlier, is allowed. -/
def ResetKept (key : String) (limit window : ℤ) (checks : List (Check K)) (c : Check K) : Prop :=
  ∀ (others : List (Check K)) (d : Check K), (∀ o ∈ others, o.key ≠ key) → d.key = key →
    InTime key limit window (checks ++ c :: (others ++ [d])) →
    max ((check (afterChecks noSets checks) c).1.reset : K) c.now ≤ d.now →
    (check (afterChecks noSets (checks ++ c :: others)) d).1.allowed = true

variable [IsStrictOrderedRing K]

/-- Whether the next check is allowed, by what is in its window. -/
lemma next_allowed_iff {others : List (Check K)} {d : Check K} (hwindow : 0 < window) (hothers : ∀ o ∈ others, o.key ≠ key)
    (hkey : d.key = key) (h : InTime key limit window (checks ++ c :: (others ++ [d]))) :
    (check (afterChecks noSets (checks ++ c :: others)) d).1.allowed = true ↔
      ((checks ++ [c]).countP (Check.since key (d.now - window)) : ℤ) < limit := by
  have hsplit : checks ++ c :: (others ++ [d]) = checks ++ c :: others ++ [d] := by simp
  have hself : Check.since key (d.now - window) d = true :=
    decide_eq_true ⟨hkey, sub_lt_self _ (Int.cast_pos.2 hwindow)⟩
  have hcount : (checks ++ c :: others ++ [d]).countP (Check.since key (d.now - window)) =
      (checks ++ [c]).countP (Check.since key (d.now - window)) + 1 := by
    rw [List.countP_append, List.countP_singleton, if_pos hself, List.append_cons, List.countP_append,
      countP_since_others hothers, Nat.add_zero]
  rw [hsplit] at h
  rw [allowed_iff h hkey hwindow, hcount]
  push_cast
  omega

/-- **When the reset is kept to**: exactly if there is room in the window that ends with it. -/
theorem reset_kept_iff (h : InTime key limit window (checks ++ [c])) (hkey : c.key = key) (hwindow : 0 < window) :
    ResetKept key limit window checks c ↔
      ((checks ++ [c]).countP (Check.since key (max (truncate c.returned : K) c.now - window)) : ℤ) < limit := by
  constructor
  · intro hkept
    obtain ⟨member, hmember⟩ := Infinite.exists_notMem_finset ((checks ++ [c]).map Check.member).toFinset
    have hnew : member ∉ (checks ++ [c]).map Check.member := fun hmem => hmember (List.mem_toFinset.2 hmem)
    have hother : ∀ o ∈ ([] : List (Check K)), o.key ≠ key := fun o ho => absurd ho List.not_mem_nil
    -- the next check comes at the reset itself
    have hnext : InTime key limit window
        (checks ++ c :: ([] ++ [c.again member (max (truncate c.returned : K) c.now)])) := by
      rw [List.nil_append, List.append_cons]
      exact h.again (le_max_right _ _) hnew
    have hagain : (c.again member (max (truncate c.returned : K) c.now)).key = key := hkey
    have hallowed := hkept [] _ hother hagain hnext (by rw [reset_eq]; exact le_rfl)
    exact (next_allowed_iff hwindow hother hagain hnext).1 hallowed
  · intro hroom others d hothers hdkey hnext hnow
    rw [reset_eq] at hnow
    rw [next_allowed_iff hwindow hothers hdkey hnext]
    have hle : (checks ++ [c]).countP (Check.since key (d.now - window)) ≤
        (checks ++ [c]).countP (Check.since key (max (truncate c.returned : K) c.now - window)) :=
      countP_since_le (sub_le_sub_right hnow (window : K))
    omega

/-- The reset of a rejected check is not kept to, if the answer comes within the second of the check. -/
theorem reset_not_kept (h : InTime key limit window (checks ++ [c])) (hkey : c.key = key) (hwindow : 0 < window)
    (hrejected : (check (afterChecks noSets checks) c).1.allowed = false) (hprompt : (truncate c.returned : K) ≤ c.now) :
    ¬ResetKept key limit window checks c := by
  rw [reset_kept_iff h hkey hwindow, max_eq_right hprompt]
  intro hroom
  have hallowed := (allowed_iff h hkey hwindow).2 hroom.le
  rw [hrejected] at hallowed
  cases hallowed

namespace Sample

/-- A check on a key that allows one in a minute. -/
def onePerMinute (member : String) (now : ℚ) : Check ℚ where
  key := "ip"
  limit := 1
  windowSeconds := 60
  member := member
  now := now
  returned := now

/-- The second check of a minute is rejected. -/
lemma onePerMinute_inTime : InTime "ip" 1 60 ([onePerMinute "a" 1000] ++ [onePerMinute "b" 1001]) where
  clocks := by
    simp only [onePerMinute, List.singleton_append, List.pairwise_cons, List.mem_singleton]
    norm_num
  members := by decide
  settings c hc _ := by
    simp only [List.singleton_append, List.mem_cons, List.not_mem_nil, or_false] at hc
    rcases hc with rfl | rfl <;> exact ⟨rfl, rfl⟩

end Sample

open Sample in
/-- A check that is rejected at second 1001 is told 1001, and the next check at that time is rejected as well. -/
theorem reset_is_now :
    (check (afterChecks noSets [onePerMinute "a" 1000]) (onePerMinute "b" 1001)).1 = ⟨false, 0, 1001⟩ ∧
      (check (afterChecks noSets [onePerMinute "a" 1000, onePerMinute "b" 1001]) (onePerMinute "c" 1001)).1.allowed =
        false ∧
      ¬ResetKept "ip" 1 60 [onePerMinute "a" 1000] (onePerMinute "b" 1001) :=
  ⟨by decide +kernel, by decide +kernel,
    reset_not_kept onePerMinute_inTime rfl (by decide) (by decide +kernel) (by decide +kernel)⟩

open Sample in
/-- The condition there: two checks are in the window, and there is room for one. -/
theorem reset_kept_iff_onePerMinute :
    ResetKept "ip" 1 60 [onePerMinute "a" 1000] (onePerMinute "b" 1001) ↔
      (([onePerMinute "a" 1000] ++ [onePerMinute "b" 1001]).countP
        (Check.since "ip" (max (truncate (1001 : ℚ) : ℚ) 1001 - (60 : ℤ))) : ℤ) < 1 :=
  reset_kept_iff onePerMinute_inTime rfl (by decide)

end FastapiTemplate.Core
