import FastapiTemplate.Billing.Standing

/-!
# The schedule of one subscription

What any sequence of sweeps does to one standing, at whatever times they run. With `m` positions left
below the limit, the standing is past due for the first `m` ticks that are due and suspended by the
next one (`ticks_of_pastDue`), and the delays that the ticks set do not decrease (`delays_sorted`).
-/

namespace FastapiTemplate.Billing

open Core Database Python

namespace Standing

variable {P : Policy} {x : Standing} {t : Datetime}

/-- The sweep at `now` sees the standing. -/
def due (now : Datetime) (x : Standing) : Bool :=
  x.status == .pastDue && match x.nextRetry with
    | some t => decide (t ≤ now)
    | none => false

/-- The move of a tick. -/
def tickMove (P : Policy) (now : Datetime) (x : Standing) : Move :=
  if P.limit ≤ x.failures then .expire else .remind now

/-- One sweep. -/
def swept (P : Policy) (now : Datetime) (x : Standing) : Standing :=
  if x.due now then (x.tickMove P now).apply P x else x

/-- The sweeps at the given times, one after another. -/
def sweptAll (P : Policy) : List Datetime → Standing → Standing
  | [], x => x
  | t :: ts, x => sweptAll P ts (x.swept P t)

/-- How many of the sweeps are due. -/
def dueTicks (P : Policy) : List Datetime → Standing → ℕ
  | [], _ => 0
  | t :: ts, x => (if x.due t then 1 else 0) + dueTicks P ts (x.swept P t)

/-- The delays that the ticks below the limit set. -/
def delays (P : Policy) : List Datetime → Standing → List Timedelta
  | [], _ => []
  | t :: ts, x =>
    if x.due t && decide (x.failures < P.limit) then
      P.delay (x.failures + 1) :: delays P ts (x.swept P t)
    else delays P ts (x.swept P t)

/-- The positions left below the limit. -/
def left (P : Policy) (x : Standing) : ℕ := (P.limit - x.failures).toNat

/-! ### One sweep -/

lemma due_pastDue (h : x.due t = true) : x.status = .pastDue := by
  simp only [due, Bool.and_eq_true, beq_iff_eq] at h
  exact h.1

lemma not_due (h : x.status ≠ .pastDue) : x.due t = false := by simp [due, h]

lemma swept_of_not_due (h : x.due t = false) : x.swept P t = x := by simp [swept, h]

/-- Below the limit a tick raises the count by one and keeps the status. -/
lemma swept_below (hd : x.due t = true) (hl : x.failures < P.limit) :
    x.swept P t = ⟨.pastDue, x.failures + 1, some (t + P.delay (x.failures + 1))⟩ := by
  have hn : ¬P.limit ≤ x.failures := by omega
  simp [swept, hd, tickMove, hn, Move.apply, advance, due_pastDue hd]

/-- At the limit it suspends. -/
lemma swept_limit (hd : x.due t = true) (hl : P.limit ≤ x.failures) :
    x.swept P t = ⟨.suspended, x.failures, none⟩ := by
  simp [swept, hd, tickMove, hl, Move.apply]

lemma delays_of_not_due (ts : List Datetime) (h : x.due t = false) :
    delays P (t :: ts) x = delays P ts (x.swept P t) := by
  rw [delays, h]
  rfl

lemma delays_limit (ts : List Datetime) (h : P.limit ≤ x.failures) :
    delays P (t :: ts) x = delays P ts (x.swept P t) := by
  have hl : ¬x.failures < P.limit := by omega
  rw [delays, if_neg (by simp [hl])]

lemma delays_below (ts : List Datetime) (hd : x.due t = true) (hl : x.failures < P.limit) :
    delays P (t :: ts) x = P.delay (x.failures + 1) :: delays P ts (x.swept P t) := by
  rw [delays, if_pos (by simp [hd, hl])]

/-! ### Any number of sweeps -/

/-- A suspended standing is left alone. -/
lemma suspended_stays (ts : List Datetime) (h : x.status = .suspended) :
    sweptAll P ts x = x ∧ dueTicks P ts x = 0 := by
  induction ts with
  | nil => exact ⟨rfl, rfl⟩
  | cons t ts ih =>
    have hd : x.due t = false := not_due (by rw [h]; decide)
    refine ⟨?_, ?_⟩
    · rw [sweptAll, swept_of_not_due hd]
      exact ih.1
    · rw [dueTicks, swept_of_not_due hd, ih.2, hd]
      rfl

/-- **The schedule terminates.** Of the ticks that are due, the first `x.left P` each raise the count
by one, and the next one suspends; there is no further one. -/
theorem ticks_of_pastDue (ts : List Datetime) (hx : x.status = .pastDue) :
    dueTicks P ts x ≤ x.left P + 1 ∧
    (dueTicks P ts x ≤ x.left P → (sweptAll P ts x).status = .pastDue ∧
      (sweptAll P ts x).failures = x.failures + dueTicks P ts x) ∧
    (dueTicks P ts x = x.left P + 1 → (sweptAll P ts x).status = .suspended) := by
  induction ts generalizing x with
  | nil => exact ⟨by simp [dueTicks], fun _ => ⟨hx, by simp [sweptAll, dueTicks]⟩, by simp [dueTicks]⟩
  | cons t ts ih =>
    cases hd : x.due t with
    | false =>
      have hs : x.swept P t = x := swept_of_not_due hd
      have hn : dueTicks P (t :: ts) x = dueTicks P ts x := by simp [dueTicks, hs, hd]
      have ha : sweptAll P (t :: ts) x = sweptAll P ts x := by simp [sweptAll, hs]
      rw [hn, ha]
      exact ih hx
    | true =>
      have hn : dueTicks P (t :: ts) x = dueTicks P ts (x.swept P t) + 1 := by
        rw [dueTicks, hd, if_pos rfl]
        omega
      rw [hn, sweptAll]
      by_cases hl : P.limit ≤ x.failures
      · have hleft : x.left P = 0 := by
          unfold left
          omega
        have hstatus : (x.swept P t).status = .suspended := by rw [swept_limit hd hl]
        obtain ⟨hstay, hzero⟩ := suspended_stays (P := P) ts hstatus
        rw [hstay, hzero, hleft]
        exact ⟨le_refl _, fun h => absurd h (by omega), fun _ => hstatus⟩
      · have hstep := swept_below (P := P) hd (by omega)
        have hleft : x.left P = (x.swept P t).left P + 1 := by
          rw [hstep]
          unfold left
          show (P.limit - x.failures).toNat = (P.limit - (x.failures + 1)).toNat + 1
          omega
        have hcount : (x.swept P t).failures = x.failures + 1 := by rw [hstep]
        obtain ⟨hle, hbelow, htop⟩ := ih (x := x.swept P t) (by rw [hstep])
        rw [hleft]
        refine ⟨by omega, fun h => ?_, fun h => htop (by omega)⟩
        obtain ⟨hst, hf⟩ := hbelow (by omega)
        refine ⟨hst, ?_⟩
        rw [hf, hcount]
        push_cast
        ring

/-- A delay set later is that of a later position. -/
lemma le_of_mem_delays (hmono : ∀ m n, m ≤ n → P.delay m ≤ P.delay n) (ts : List Datetime) {n : ℤ}
    (hn : n ≤ x.failures) : ∀ d ∈ delays P ts x, P.delay (n + 1) ≤ d := by
  induction ts generalizing x with
  | nil => simp [delays]
  | cons t ts ih =>
    have hswept : n ≤ (x.swept P t).failures := by
      cases hd : x.due t with
      | false => rw [swept_of_not_due hd]; exact hn
      | true =>
        by_cases hl : P.limit ≤ x.failures
        · rw [swept_limit hd hl]; exact hn
        · rw [swept_below hd (by omega)]
          show n ≤ x.failures + 1
          omega
    intro d hd
    unfold delays at hd
    split at hd
    · rcases List.mem_cons.1 hd with rfl | hd
      · exact hmono _ _ (by omega)
      · exact ih hswept d hd
    · exact ih hswept d hd

/-- **The delays do not decrease** from tick to tick. -/
theorem delays_sorted (hmono : ∀ m n, m ≤ n → P.delay m ≤ P.delay n) (ts : List Datetime)
    (x : Standing) :
    (delays P ts x).Pairwise (· ≤ ·) := by
  induction ts generalizing x with
  | nil => exact .nil
  | cons t ts ih =>
    unfold delays
    split
    · rename_i h
      simp only [Bool.and_eq_true, decide_eq_true_eq] at h
      refine List.pairwise_cons.2 ⟨fun d hd => ?_, ih _⟩
      refine le_of_mem_delays hmono ts ?_ d hd
      rw [swept_below h.1 h.2]
      show x.failures ≤ x.failures + 1
      omega
    · exact ih _

/-- No delay is over the cap. -/
theorem delays_le {cap : Timedelta} (hcap : ∀ n, P.delay n ≤ cap) (ts : List Datetime) (x : Standing) :
    ∀ d ∈ delays P ts x, d ≤ cap := by
  induction ts generalizing x with
  | nil => simp [delays]
  | cons t ts ih =>
    intro d hd
    unfold delays at hd
    split at hd
    · rcases List.mem_cons.1 hd with rfl | hd
      · exact hcap _
      · exact ih _ d hd
    · exact ih _ d hd

end Standing

end FastapiTemplate.Billing
