import FastapiTemplate.Billing.Dunning

/-!
# The standing of a subscription

The abstract machine behind the writers. A *standing* is the part of a row that the lifecycle and the
dunning schedule are about: the status, the count of failed payments and the next retry. A *move* is
what a writer does to it; `Move.Allowed` is the check the writer makes first.

* every move but `trial` follows the transition table (`Move.legal_iff`), and a terminal standing
  admits no other move that changes it (`Move.final`);
* `Standing.Coherent`, the status and the schedule agreeing, is kept by exactly the moves that satisfy
  `Move.Schedules` (`Move.coherent_iff`);
* `Standing.Bounded`, the schedule within the limit, is kept by exactly the moves that satisfy
  `Move.Bounds` (`Move.bounded_iff`).
-/

namespace FastapiTemplate.Billing

open Core Database Python

/-- A change of status that is none, or one the transition table allows. -/
def Legal (s t : SubscriptionStatus) : Prop := t = s ∨ t ∈ allowedTransitions s

/-- What the dunning schedule depends on. -/
structure Policy where
  limit : ℤ
  delay : ℤ → Timedelta

def Settings.policy (cfg : Settings) : Policy := ⟨cfg.dunningMaxAttempts, fun n => backoffDelay cfg n⟩

@[ext] structure Standing where
  status : SubscriptionStatus
  failures : ℤ
  nextRetry : Option Datetime
  deriving DecidableEq

inductive Move where
  /-- Leaves the standing alone. -/
  | edit
  /-- Assigns a status the table allows. -/
  | assign (target : SubscriptionStatus)
  /-- Assigns `trialing`, which the table allows nowhere. -/
  | trial
  /-- A failed payment. -/
  | fail (now : Datetime)
  /-- A tick of the sweep below the limit. -/
  | remind (now : Datetime)
  /-- A tick of the sweep at the limit. -/
  | expire
  /-- A payment of an invoice. -/
  | recover
  deriving DecidableEq

namespace Standing

/-- One schedule position further on. -/
def advance (P : Policy) (now : Datetime) (x : Standing) : Standing :=
  { x with failures := x.failures + 1, nextRetry := some (now + P.delay (x.failures + 1)) }

/-- Status and schedule agree: in dunning the next retry is set, out of it nothing is left. -/
structure Coherent (x : Standing) : Prop where
  pastDue : x.status = .pastDue → 1 ≤ x.failures ∧ x.nextRetry ≠ none
  clear : x.status = .active ∨ x.status = .trialing → x.failures = 0 ∧ x.nextRetry = none

instance (x : Standing) : Decidable x.Coherent :=
  decidable_of_iff ((x.status = .pastDue → 1 ≤ x.failures ∧ x.nextRetry ≠ none) ∧
    (x.status = .active ∨ x.status = .trialing → x.failures = 0 ∧ x.nextRetry = none))
    ⟨fun h => ⟨h.1, h.2⟩, fun h => ⟨h.pastDue, h.clear⟩⟩

/-- In dunning the schedule is within the limit. -/
def Bounded (P : Policy) (x : Standing) : Prop := x.status = .pastDue → x.failures ≤ P.limit

instance (P : Policy) (x : Standing) : Decidable (x.Bounded P) :=
  inferInstanceAs (Decidable (x.status = .pastDue → x.failures ≤ P.limit))

/-- No way out of the status. -/
def Final (x : Standing) : Prop := allowedTransitions x.status = []

end Standing

namespace Move

def Allowed (P : Policy) : Move → Standing → Prop
  | .edit, _ => True
  | .assign target, x => target ∈ allowedTransitions x.status
  | .trial, x => x.status ≠ .trialing
  | .fail _, x => x.status = .pastDue ∨ .pastDue ∈ allowedTransitions x.status
  | .remind _, x => x.status = .pastDue ∧ x.failures < P.limit
  | .expire, x => x.status = .pastDue ∧ P.limit ≤ x.failures
  | .recover, x => x.status = .pastDue

def apply (P : Policy) : Move → Standing → Standing
  | .edit, x => x
  | .assign .suspended, x => { x with status := .suspended, nextRetry := none }
  | .assign .active, x => if x.status = .pastDue then ⟨.active, 0, none⟩ else { x with status := .active }
  | .assign target, x => { x with status := target }
  | .trial, x => { x with status := .trialing }
  | .fail now, x => { x.advance P now with status := .pastDue }
  | .remind now, x => x.advance P now
  | .expire, x => { x with status := .suspended, nextRetry := none }
  | .recover, _ => ⟨.active, 0, none⟩

variable {P : Policy} {mv : Move} {x : Standing}

/-! ### Transitions -/

/-- The status that an assignment leads to. -/
lemma assign_status (target : SubscriptionStatus) :
    ((Move.assign target).apply P x).status = target := by
  cases target <;> simp only [apply]
  split <;> rfl

/-- **Every move but `trial` follows the transition table.** -/
theorem legal (hmv : mv ≠ .trial) (h : mv.Allowed P x) : Legal x.status (mv.apply P x).status := by
  cases mv with
  | edit => exact .inl rfl
  | assign target => rw [assign_status]; exact .inr h
  | trial => exact absurd rfl hmv
  | fail now =>
    rcases h with h | h
    · exact .inl h.symm
    · exact .inr h
  | remind now => exact .inl rfl
  | expire =>
    right
    rw [h.1]
    simp [apply, allowedTransitions]
  | recover =>
    right
    have hx : x.status = .pastDue := h
    rw [hx]
    simp [apply, allowedTransitions]

theorem legal_iff (h : mv.Allowed P x) : Legal x.status (mv.apply P x).status ↔ mv ≠ .trial := by
  refine ⟨?_, fun hmv => legal hmv h⟩
  rintro hl rfl
  rcases hl with hl | hl
  · exact h hl.symm
  · exact trialing_not_mem_allowedTransitions _ hl

/-- A terminal standing stays as it is. -/
theorem final (hmv : mv ≠ .trial) (hx : x.Final) (h : mv.Allowed P x) : mv.apply P x = x := by
  have hpd : x.status ≠ .pastDue := by
    intro hp
    rw [Standing.Final, hp] at hx
    cases hx
  cases mv with
  | edit => rfl
  | assign target =>
    have hmem : target ∈ allowedTransitions x.status := h
    rw [hx] at hmem
    cases hmem
  | trial => exact absurd rfl hmv
  | fail now =>
    rcases h with h | h
    · exact absurd h hpd
    · rw [hx] at h; cases h
  | remind now => exact absurd h.1 hpd
  | expire => exact absurd h.1 hpd
  | recover => exact absurd h hpd

/-! ### Coherence -/

/-- The moves that leave status and schedule in agreement: not the two that write `past_due` or
`trialing` without the schedule, unless there is none to write. -/
def Schedules (x : Standing) : Move → Prop
  | .assign target => target ≠ .pastDue
  | .trial => x.failures = 0 ∧ x.nextRetry = none
  | _ => True

/-- **Status and schedule stay in agreement.** -/
theorem coherent (hs : mv.Schedules x) (h : mv.Allowed P x) (hx : x.Coherent) :
    (mv.apply P x).Coherent := by
  cases mv with
  | edit => exact hx
  | assign target =>
    have hstatus : ((Move.assign target).apply P x).status = target := assign_status target
    refine ⟨fun hp => absurd (hstatus.symm.trans hp) hs, fun hc => ?_⟩
    rw [hstatus] at hc
    rcases hc with rfl | rfl
    · simp only [apply]
      split
      · exact ⟨rfl, rfl⟩
      · rename_i hpd
        -- the table lets only `trialing` and `past_due` into `active`
        have htr : x.status = .trialing := by
          have hmem : SubscriptionStatus.active ∈ allowedTransitions x.status := h
          revert hmem hpd
          cases x.status <;> simp [allowedTransitions]
        exact hx.clear (.inr htr)
    · exact absurd h (trialing_not_mem_allowedTransitions _)
  | trial => exact ⟨(by intro hp; cases hp), fun _ => hs⟩
  | fail now =>
    refine ⟨fun _ => ⟨?_, by simp [apply, Standing.advance]⟩, by rintro (h | h) <;> cases h⟩
    have hnonneg : 0 ≤ x.failures := by
      rcases h with h | h
      · have := (hx.pastDue h).1; omega
      · have hlive : x.status = .active ∨ x.status = .trialing := by
          revert h
          cases x.status <;> simp [allowedTransitions]
        rw [(hx.clear hlive).1]
    have : (apply P (.fail now) x).failures = x.failures + 1 := rfl
    omega
  | remind now =>
    refine ⟨fun _ => ⟨?_, by simp [apply, Standing.advance]⟩, fun hc => ?_⟩
    · have hpos := (hx.pastDue h.1).1
      have : (apply P (.remind now) x).failures = x.failures + 1 := rfl
      omega
    · have hc' : x.status = .active ∨ x.status = .trialing := hc
      rw [h.1] at hc'
      rcases hc' with hc' | hc' <;> cases hc'
  | expire => exact ⟨(by intro hp; cases hp), by rintro (h | h) <;> cases h⟩
  | recover => exact ⟨(by intro hp; cases hp), fun _ => ⟨rfl, rfl⟩⟩

theorem coherent_iff (h : mv.Allowed P x) (hx : x.Coherent) :
    (mv.apply P x).Coherent ↔ mv.Schedules x := by
  refine ⟨fun hc => ?_, fun hs => coherent hs h hx⟩
  cases mv with
  | assign target =>
    rintro rfl
    -- only a live row may go past due, and out of dunning its count is zero
    have hlive : x.status = .active ∨ x.status = .trialing := by
      have hmem : SubscriptionStatus.pastDue ∈ allowedTransitions x.status := h
      revert hmem
      cases x.status <;> simp [allowedTransitions]
    have hone : 1 ≤ x.failures := (hc.pastDue rfl).1
    rw [(hx.clear hlive).1] at hone
    omega
  | trial => exact hc.clear (.inr rfl)
  | _ => trivial

/-! ### The bound -/

/-- The moves that keep the schedule within the limit. -/
def Bounds (P : Policy) (x : Standing) : Move → Prop
  | .fail _ => x.failures < P.limit
  | .assign target => target = .pastDue → x.failures ≤ P.limit
  | _ => True

/-- **The schedule stays within the limit**, unless a failure comes when it is reached. -/
theorem bounded (hb : mv.Bounds P x) (h : mv.Allowed P x) (hx : x.Bounded P) :
    (mv.apply P x).Bounded P := by
  intro hstatus
  cases mv with
  | edit => exact hx hstatus
  | assign target =>
    rw [assign_status] at hstatus
    subst hstatus
    exact hb rfl
  | trial => cases hstatus
  | fail now =>
    have hlt : x.failures < P.limit := hb
    have : (apply P (.fail now) x).failures = x.failures + 1 := rfl
    omega
  | remind now =>
    have hlt := h.2
    have : (apply P (.remind now) x).failures = x.failures + 1 := rfl
    omega
  | expire => cases hstatus
  | recover => cases hstatus

theorem bounded_iff (h : mv.Allowed P x) (hx : x.Bounded P) :
    (mv.apply P x).Bounded P ↔ mv.Bounds P x := by
  refine ⟨fun hb => ?_, fun hb => bounded hb h hx⟩
  cases mv with
  | assign target => rintro rfl; exact hb rfl
  | fail now =>
    have hle : x.failures + 1 ≤ P.limit := hb rfl
    show x.failures < P.limit
    omega
  | _ => trivial

end Move

end FastapiTemplate.Billing
