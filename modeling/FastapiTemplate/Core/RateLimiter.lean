import FastapiTemplate.Store.SortedSet
import Mathlib.Algebra.Order.Floor.Ring
import Mathlib.Data.Rat.Floor
import Mathlib.Data.List.Induction
import Mathlib.Logic.Function.Basic
import Mathlib.Tactic.NormNum

/-!
# The rate limiter

`RedisSlidingWindowLimiter` of `core.rate_limiter`. Every check is recorded, whether it is allowed or not: it is allowed
if the window that ends with it holds at most `limit` checks, itself included (`allowed_iff`).

A check is one step of Redis, at the time that the caller read from the clock. Times are of an ordered field.
-/

namespace FastapiTemplate.Core

open Store

/-- The arguments of `check`, the member `str(uuid.uuid4())`, and what `time.time()` returns before and after the
pipeline. -/
structure Check (K : Type) where
  key : String
  limit : ℤ
  windowSeconds : ℤ
  member : String
  now : K
  returned : K

structure RateLimitResult where
  allowed : Bool
  remaining : ℤ
  reset : ℤ
  deriving DecidableEq, Repr

variable {K : Type}

/-! ### The code -/

section Code

variable [LinearOrder K] [Field K] [FloorRing K]

/-- `int(x)` -/
def truncate (x : K) : ℤ := if 0 ≤ x then ⌊x⌋ else ⌈x⌉

/-- The sorted sets of Redis. -/
abbrev SortedSets (K : Type) : Type := String → SortedSet String K

/-- `check`: the result, and what the pipeline leaves. -/
def check (redis : SortedSets K) (c : Check K) : RateLimitResult × SortedSets K :=
  let windowStart := c.now - c.windowSeconds
  let pruned := ((redis c.key).live c.now).zremrangebyscore windowStart
  let added := pruned.zadd c.member c.now
  let count : ℤ := added.zcard
  let renewed := added.expire c.now c.windowSeconds
  ({ allowed := decide (count ≤ c.limit)
     remaining := max 0 (c.limit - count)
     reset := truncate (c.returned - (c.now - windowStart) + c.windowSeconds) },
    Function.update redis c.key renewed)

/-- The sorted sets after one check after another. -/
def afterChecks (redis : SortedSets K) (checks : List (Check K)) : SortedSets K :=
  checks.foldl (fun redis c => (check redis c).2) redis

/-- The checks with their results. -/
def results (redis : SortedSets K) : List (Check K) → List (Check K × RateLimitResult)
  | [] => []
  | c :: rest => (c, (check redis c).1) :: results (check redis c).2 rest

/-- No keys. -/
def noSets : SortedSets K := fun _ => {}

end Code

/-! ### What the checks leave -/

/-- Checks in the order in which Redis executes them: the clocks do not go backwards, no two members are equal, and all
checks of the key have one limit and one window. -/
structure InTime [LE K] (key : String) (limit window : ℤ) (checks : List (Check K)) : Prop where
  clocks : checks.Pairwise fun c c' => c.now ≤ c'.now
  members : (checks.map Check.member).Nodup
  settings : ∀ c ∈ checks, c.key = key → c.limit = limit ∧ c.windowSeconds = window

/-- The check is on the key, and after `start`. -/
def Check.since [LinearOrder K] (key : String) (start : K) (c : Check K) : Bool := c.key = key ∧ start < c.now

variable {key : String} {limit window : ℤ} {checks : List (Check K)} {c : Check K}

/-- The events that the checks of a key leave in its set. -/
def logOf (key : String) (checks : List (Check K)) : List (String × K) :=
  (checks.filter fun c => c.key = key).map fun c => (c.member, c.now)

lemma logOf_concat : logOf key (checks ++ [c]) = logOf key checks ++ if c.key = key then [(c.member, c.now)] else [] := by
  unfold logOf
  rw [List.filter_append, List.map_append]
  by_cases hkey : c.key = key <;> simp [hkey]

variable [LinearOrder K]

/-- How many events of a key are after `start`. -/
lemma length_filter_logOf (start : K) : ((logOf key checks).filter fun e => decide (start < e.2)).length =
    checks.countP (Check.since key start) := by
  unfold logOf
  rw [← List.countP_eq_length_filter, List.countP_map, List.countP_filter]
  refine List.countP_congr fun c _ => ?_
  simp [Check.since, and_comm]

lemma InTime.before {more : List (Check K)} (h : InTime key limit window (checks ++ more)) :
    InTime key limit window checks where
  clocks := (List.pairwise_append.1 h.clocks).1
  members := by
    have hmembers := h.members
    rw [List.map_append] at hmembers
    exact (List.nodup_append.1 hmembers).1
  settings d hd := h.settings d (List.mem_append_left _ hd)

lemma InTime.log_le (h : InTime key limit window (checks ++ [c])) : ∀ e ∈ logOf key checks, e.2 ≤ c.now := by
  intro e he
  obtain ⟨d, hd, rfl⟩ := List.mem_map.1 he
  exact (List.pairwise_append.1 h.clocks).2.2 d (List.mem_of_mem_filter hd) c (List.mem_singleton_self c)

lemma InTime.member_new (h : InTime key limit window (checks ++ [c])) : c.member ∉ (logOf key checks).map Prod.fst := by
  have hmembers := h.members
  rw [List.map_append, List.nodup_append] at hmembers
  intro hmem
  obtain ⟨e, he, heq⟩ := List.mem_map.1 hmem
  obtain ⟨d, hd, rfl⟩ := List.mem_map.1 he
  exact hmembers.2.2 _ (List.mem_map_of_mem (List.mem_of_mem_filter hd)) _ (by simp) heq

variable [Field K] [FloorRing K] {redis : SortedSets K}

lemma afterChecks_concat : afterChecks redis (checks ++ [c]) = (check (afterChecks redis checks) c).2 := by
  simp [afterChecks]

lemma afterChecks_append (more : List (Check K)) :
    afterChecks redis (checks ++ more) = afterChecks (afterChecks redis checks) more :=
  List.foldl_append

lemma results_concat :
    results redis (checks ++ [c]) = results redis checks ++ [(c, (check (afterChecks redis checks) c).1)] := by
  induction checks generalizing redis with
  | nil => rfl
  | cons c' rest ih =>
    simp only [List.cons_append, results, ih]
    rfl

lemma map_results : (results redis checks).map Prod.fst = checks := by
  induction checks generalizing redis with
  | nil => rfl
  | cons c rest ih => simp [results, ih]

lemma check_of_ne (h : c.key ≠ key) : (check redis c).2 key = redis key :=
  Function.update_of_ne (Ne.symm h) _ _

lemma check_self (hwindow : c.windowSeconds = window) :
    (check redis c).2 c.key = (redis c.key).record (window : K) c.member c.now := by
  rw [← hwindow]
  exact Function.update_self _ _ _

/-- The result, in terms of the set that the pipeline leaves. -/
lemma check_fst : (check redis c).1 =
    { allowed := decide ((((check redis c).2 c.key).zcard : ℤ) ≤ c.limit)
      remaining := max 0 (c.limit - ((check redis c).2 c.key).zcard)
      reset := truncate (c.returned - (c.now - (c.now - c.windowSeconds)) + c.windowSeconds) } := by
  simp only [check, Function.update_self]
  rfl

variable [IsStrictOrderedRing K]

/-- The set of a key after the checks. -/
theorem tracks_afterChecks (h : InTime key limit window checks) :
    SortedSet.Tracks (window : K) (afterChecks noSets checks key) (logOf key checks) := by
  induction checks using List.reverseRecOn with
  | nil => exact SortedSet.Tracks.empty
  | append_singleton checks c ih =>
    rw [afterChecks_concat, logOf_concat]
    by_cases hkey : c.key = key
    · subst hkey
      rw [check_self (h.settings c (by simp) rfl).2, if_pos rfl]
      exact (ih h.before).record h.log_le h.member_new
    · rw [check_of_ne hkey, if_neg hkey, List.append_nil]
      exact ih h.before

/-- The count that a check of the key gets. -/
lemma zcard_check (h : InTime key limit window (checks ++ [c])) (hkey : c.key = key) (hwindow : 0 < window) :
    ((check (afterChecks noSets checks) c).2 key).zcard = (checks ++ [c]).countP (Check.since key (c.now - window)) := by
  subst hkey
  have hin : c.now - window < c.now := sub_lt_self _ (Int.cast_pos.2 hwindow)
  rw [check_self (h.settings c (by simp) rfl).2, SortedSet.zcard,
    (tracks_afterChecks h.before).scores_record h.log_le h.member_new, List.length_append, length_filter_logOf,
    List.countP_append, List.countP_singleton]
  simp [Check.since, hin]

/-- **Which checks are allowed.** -/
theorem allowed_iff (h : InTime key limit window (checks ++ [c])) (hkey : c.key = key) (hwindow : 0 < window) :
    (check (afterChecks noSets checks) c).1.allowed = true ↔
      ((checks ++ [c]).countP (Check.since key (c.now - window)) : ℤ) ≤ limit := by
  rw [check_fst, ← zcard_check h hkey hwindow, ← (h.settings c (by simp) hkey).1, hkey]
  exact decide_eq_true_iff

lemma remaining_eq (h : InTime key limit window (checks ++ [c])) (hkey : c.key = key) (hwindow : 0 < window) :
    (check (afterChecks noSets checks) c).1.remaining =
      max 0 (limit - (checks ++ [c]).countP (Check.since key (c.now - window))) := by
  rw [check_fst, ← zcard_check h hkey hwindow, ← (h.settings c (by simp) hkey).1, hkey]

/-! ### The window -/

/-- The check is on the key, in the window of this length that ends at `t`, and is allowed. -/
def allowedIn (key : String) (window : ℤ) (t : K) (r : Check K × RateLimitResult) : Bool :=
  r.1.key = key ∧ t - window < r.1.now ∧ r.1.now ≤ t ∧ r.2.allowed

/-- No window holds more than `limit` allowed checks; what remains after an allowed check is the number of further ones
that are allowed at the same instant; and at any time, the checks in the window that ends then are still there. -/
structure SlidingWindow (key : String) (limit window : ℤ) (checks : List (Check K)) : Prop where
  bound : ∀ t : K, ((results noSets checks).countP (allowedIn key window t) : ℤ) ≤ limit
  remaining : ∀ before c after, checks = before ++ c :: after → c.key = key →
    (check (afterChecks noSets before) c).1.allowed = true → ∀ further : List (Check K),
      (∀ d ∈ further, d.key = key ∧ d.now = c.now) → InTime key limit window (before ++ c :: further) →
      (results (afterChecks noSets (before ++ [c])) further).map (fun r => r.2.allowed) =
        (List.range further.length).map fun (i : ℕ) => decide ((i : ℤ) < (check (afterChecks noSets before) c).1.remaining)
  kept : ∀ t : K, (∀ c ∈ checks, c.now ≤ t) → ∀ c ∈ checks, c.key = key → t - window < c.now →
    (c.member, c.now) ∈ ((afterChecks noSets checks key).live t).scores

lemma countP_allowedIn_le (h : InTime key limit window checks) (hlimit : 0 ≤ limit) (hwindow : 0 < window) (t : K) :
    ((results noSets checks).countP (allowedIn key window t) : ℤ) ≤ limit := by
  induction checks using List.reverseRecOn with
  | nil => simpa [results] using hlimit
  | append_singleton checks c ih =>
    by_cases hin : allowedIn key window t (c, (check (afterChecks noSets checks) c).1) = true
    · -- all that are allowed in this window are in the one that ends with `c`
      have hc := hin
      simp only [allowedIn, decide_eq_true_eq] at hc
      obtain ⟨hkey, -, hle, hallowed⟩ := hc
      have hsub : (results noSets (checks ++ [c])).countP (allowedIn key window t) ≤
          (checks ++ [c]).countP (Check.since key (c.now - window)) := by
        have hmap : (results noSets (checks ++ [c])).map Prod.fst = checks ++ [c] := map_results
        rw [← hmap, List.countP_map, hmap]
        refine List.countP_mono_left fun r _ hr => ?_
        simp only [allowedIn, decide_eq_true_eq] at hr
        have hstart : c.now - window ≤ t - window := sub_le_sub_right hle _
        exact decide_eq_true ⟨hr.1, hstart.trans_lt hr.2.1⟩
      have hcount := (allowed_iff h hkey hwindow).1 hallowed
      omega
    · rw [results_concat, List.countP_append, List.countP_singleton, if_neg hin, Nat.add_zero]
      exact ih h.before

lemma further_allowed (hwindow : 0 < window) {further : List (Check K)} (hkey : c.key = key)
    (hsame : ∀ d ∈ further, d.key = key ∧ d.now = c.now) (h : InTime key limit window (checks ++ c :: further))
    (hallowed : (check (afterChecks noSets checks) c).1.allowed = true) :
    (results (afterChecks noSets (checks ++ [c])) further).map (fun r => r.2.allowed) =
      (List.range further.length).map fun (i : ℕ) =>
        decide ((i : ℤ) < (check (afterChecks noSets checks) c).1.remaining) := by
  induction further using List.reverseRecOn with
  | nil => rfl
  | append_singleton further d ih =>
    have hsplit : checks ++ c :: (further ++ [d]) = checks ++ [c] ++ further ++ [d] := by simp
    rw [hsplit] at h
    have hc : InTime key limit window (checks ++ [c]) := h.before.before
    have hd := hsame d (by simp)
    have hbefore : InTime key limit window (checks ++ c :: further) := by
      have hprefix := h.before
      rwa [List.append_assoc] at hprefix
    have hwindowed : ∀ e ∈ further, Check.since key (c.now - (window : K)) e = true := by
      intro e he
      obtain ⟨hekey, henow⟩ := hsame e (List.mem_append_left _ he)
      exact decide_eq_true ⟨hekey, by rw [henow]; exact sub_lt_self _ (Int.cast_pos.2 hwindow)⟩
    have hlast : Check.since key (c.now - (window : K)) d = true :=
      decide_eq_true ⟨hd.1, by rw [hd.2]; exact sub_lt_self _ (Int.cast_pos.2 hwindow)⟩
    have hcount : (checks ++ [c] ++ further ++ [d]).countP (Check.since key (c.now - (window : K))) =
        (checks ++ [c]).countP (Check.since key (c.now - (window : K))) + further.length + 1 := by
      rw [List.countP_append, List.countP_append, List.countP_eq_length.2 hwindowed, List.countP_singleton, if_pos hlast]
    have hflag : (check (afterChecks (afterChecks noSets (checks ++ [c])) further) d).1.allowed =
        decide ((further.length : ℤ) < (check (afterChecks noSets checks) c).1.remaining) := by
      rw [← afterChecks_append, Bool.eq_iff_iff, allowed_iff h hd.1 hwindow, hd.2, hcount, decide_eq_true_iff,
        remaining_eq hc hkey hwindow]
      have hle := (allowed_iff hc hkey hwindow).1 hallowed
      push_cast
      omega
    rw [results_concat, List.map_append, ih (fun e he => hsame e (List.mem_append_left _ he)) hbefore, List.length_append,
      List.length_singleton, List.range_succ, List.map_append, List.map_singleton, List.map_singleton, hflag]

namespace Sample

/-- A check on a key that allows one in a second. -/
def onePerSecond (member : String) (now : ℚ) : Check ℚ where
  key := "ip"
  limit := 1
  windowSeconds := 1
  member := member
  now := now
  returned := now

/-- The second one is too early. -/
def threeChecks : List (Check ℚ) := [onePerSecond "a" 0, onePerSecond "b" (1 / 2), onePerSecond "c" (3 / 2)]

end Sample

example : (results noSets Sample.threeChecks).map (fun r => r.2.allowed) = [true, false, true] := by decide +kernel

end FastapiTemplate.Core
