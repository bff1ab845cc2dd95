import Mathlib.Data.Option.Basic
import Mathlib.Logic.Function.Basic
import Mathlib.Order.Basic
import Mathlib.Data.Int.Order.Basic

/-!
# Keys that expire

A store of values under keys that may have a deadline, the way Redis keeps them: a key is there up to its
deadline and gone after it; a write to a key that is there keeps its deadline; `EXPIRE` sets it anew, and
deletes the key if no time to live is left.

A collection under such a key has one deadline for all its members, so a member stays only as long as no
two changes in a row are further apart than the time to live set by the earlier one. `Holds` says this in
terms of the changes alone, and `Tracks` that a store is in step with them.
-/

namespace FastapiTemplate.Store

/-- A value, and the last instant at which it is there. -/
structure Lease (α : Type) where
  value : α
  deadline : Option ℤ

/-- The deadline is not past. -/
def Lease.lasts {α : Type} (l : Lease α) (t : ℤ) : Bool := l.deadline.all fun d => decide (t ≤ d)

/-- Values under keys. -/
abbrev Expiring (κ α : Type) : Type := κ → Option (Lease α)

namespace Expiring

variable {κ α : Type}

/-- No keys. -/
def empty : Expiring κ α := fun _ => none

/-- A key, if it is there at time `t`. -/
def live (s : Expiring κ α) (t : ℤ) (k : κ) : Option (Lease α) := (s k).filter fun l => l.lasts t

/-- `GET`, at time `t`. -/
def get (s : Expiring κ α) (t : ℤ) (k : κ) : Option α := (s.live t k).map Lease.value

lemma lasts_earlier {l : Lease α} {t t' : ℤ} (h : l.lasts t' = true) (ht : t ≤ t') : l.lasts t = true := by
  unfold Lease.lasts at h ⊢
  cases hd : l.deadline with
  | none => rfl
  | some d =>
    rw [hd] at h
    have hle : t' ≤ d := of_decide_eq_true h
    exact decide_eq_true (ht.trans hle)

lemma live_eq_some {s : Expiring κ α} {t : ℤ} {k : κ} {l : Lease α} :
    s.live t k = some l ↔ s k = some l ∧ l.lasts t = true := Option.filter_eq_some_iff

lemma get_eq_some {s : Expiring κ α} {t : ℤ} {k : κ} {a : α} :
    s.get t k = some a ↔ ∃ l, s k = some l ∧ l.lasts t = true ∧ l.value = a := by
  unfold get
  rw [Option.map_eq_some_iff]
  exact exists_congr fun l => by rw [live_eq_some, and_assoc]

lemma get_of_eq {s : Expiring κ α} {k : κ} {l : Lease α} (h : s k = some l) (t : ℤ) :
    s.get t k = if l.lasts t then some l.value else none := by
  unfold get live
  rw [h, Option.filter_some]
  split <;> rfl

/-- What is there was there before, unchanged. -/
lemma get_earlier {s : Expiring κ α} {t t' : ℤ} {k : κ} {a : α} (h : s.get t' k = some a) (ht : t ≤ t') :
    s.get t k = some a := by
  obtain ⟨l, hl, hlasts, rfl⟩ := get_eq_some.1 h
  exact get_eq_some.2 ⟨l, hl, lasts_earlier hlasts ht, rfl⟩

variable [DecidableEq κ]

/-- A write; a key that is there keeps its deadline. -/
def put (s : Expiring κ α) (t : ℤ) (k : κ) (a : α) : Expiring κ α :=
  Function.update s k (some ⟨a, (s.live t k).bind Lease.deadline⟩)

/-- `DEL` -/
def delete (s : Expiring κ α) (k : κ) : Expiring κ α := Function.update s k none

/-- `EXPIRE` -/
def expire (s : Expiring κ α) (t : ℤ) (k : κ) (ttl : ℤ) : Expiring κ α :=
  match s.live t k with
  | none => s
  | some l => if 0 < ttl then Function.update s k (some ⟨l.value, some (t + ttl)⟩) else s.delete k

/-- `SETEX`, with a positive time to live. -/
def setex (s : Expiring κ α) (t : ℤ) (k : κ) (a : α) (ttl : ℤ) : Expiring κ α :=
  Function.update s k (some ⟨a, some (t + ttl)⟩)

section Rules

variable {s : Expiring κ α} {t t' ttl : ℤ} {k k' : κ} {a : α}

@[simp] lemma get_put_of_ne (h : k' ≠ k) : (s.put t k a).get t' k' = s.get t' k' := by
  simp [get, live, put, h]

@[simp] lemma get_delete_self : (s.delete k).get t k = none := by
  simp [get, live, delete]

@[simp] lemma get_delete_of_ne (h : k' ≠ k) : (s.delete k).get t k' = s.get t k' := by
  simp [get, live, delete, h]

@[simp] lemma get_expire_of_ne (h : k' ≠ k) : (s.expire t k ttl).get t' k' = s.get t' k' := by
  unfold expire
  cases s.live t k with
  | none => rfl
  | some l =>
    show get (if 0 < ttl then _ else _) t' k' = _
    split
    · simp [get, live, h]
    · exact get_delete_of_ne h

/-- What a write leaves is there at that moment. -/
lemma live_put_self : ∃ l, (s.put t k a).live t k = some l ∧ l.value = a := by
  refine ⟨⟨a, (s.live t k).bind Lease.deadline⟩, live_eq_some.2 ⟨by simp [put], ?_⟩, rfl⟩
  cases hl : s.live t k with
  | none => rfl
  | some l => exact (live_eq_some.1 hl).2

/-- **A write with a new time to live**: the value is there until it ends. -/
theorem get_put_expire :
    ((s.put t k a).expire t k ttl).get t' k = if 0 < ttl ∧ t' ≤ t + ttl then some a else none := by
  obtain ⟨l, hl, rfl⟩ := live_put_self (s := s) (t := t) (k := k) (a := a)
  unfold expire
  rw [hl]
  by_cases httl : 0 < ttl
  · simp only [httl, if_true, true_and]
    rw [get_of_eq (Function.update_self ..)]
    simp [Lease.lasts]
  · simp [httl]

/-- A write to a key that is there is read until the old deadline. -/
lemma get_put_self_of_live {b : α} (hb : s.get t k = some b) :
    (s.put t k a).get t' k = (s.get t' k).map fun _ => a := by
  obtain ⟨l, hl, hlasts, -⟩ := get_eq_some.1 hb
  have hlive : s.live t k = some l := live_eq_some.2 ⟨hl, hlasts⟩
  rw [get_of_eq hl, get_of_eq (l := ⟨a, l.deadline⟩) (by simp [put, hlive])]
  show (if l.lasts t' then _ else _) = _
  split <;> rfl

end Rules

/-- Every value, live or not, satisfies `P`. -/
def All (P : κ → α → Prop) (s : Expiring κ α) : Prop := ∀ k l, s k = some l → P k l.value

namespace All

variable {P : κ → α → Prop} {s : Expiring κ α} {t ttl : ℤ} {k : κ} {a : α}

omit [DecidableEq κ] in
lemma get (h : All P s) (ha : s.get t k = some a) : P k a := by
  obtain ⟨l, hl, -, rfl⟩ := get_eq_some.1 ha
  exact h k l hl

lemma update {l : Option (Lease α)} (h : All P s) (hl : ∀ l' ∈ l, P k l'.value) :
    All P (Function.update s k l) := by
  intro k' l' hl'
  by_cases hk : k' = k
  · subst hk
    rw [Function.update_self] at hl'
    exact hl l' hl'
  · rw [Function.update_of_ne hk] at hl'
    exact h k' l' hl'

lemma put (h : All P s) (ha : P k a) : All P (s.put t k a) :=
  h.update fun _ hl => Option.some.inj hl ▸ ha

lemma delete (h : All P s) : All P (s.delete k) := h.update fun _ hl => nomatch hl

lemma expire (h : All P s) : All P (s.expire t k ttl) := by
  unfold Expiring.expire
  cases hl : s.live t k with
  | none => exact h
  | some l =>
    show All P (if 0 < ttl then _ else _)
    split
    · exact h.update fun _ hl' => Option.some.inj hl' ▸ h k l (live_eq_some.1 hl).1
    · exact h.delete

end All

/-! ### Collections -/

/-- A change of a collection: a member is added with a new time to live for all, one is taken out, or the
key is deleted. -/
inductive Change (μ : Type) where
  | touch (time ttl : ℤ) (member : μ)
  | drop (member : μ)
  | clear

variable {μ : Type}

/-- The member is in the collection at time `t`, after changes the latest of which comes first: it was
added, has not been taken out since, and no time to live has run out since. -/
def Holds (m : μ) : ℤ → List (Change μ) → Prop
  | _, [] => False
  | t, .touch time ttl m' :: cs => (0 < ttl ∧ t ≤ time + ttl) ∧ (m' = m ∨ Holds m time cs)
  | t, .drop m' :: cs => m' ≠ m ∧ Holds m t cs
  | _, .clear :: _ => False

/-- Only what was added is there. -/
lemma Holds.touched {m : μ} {t : ℤ} {cs : List (Change μ)} (h : Holds m t cs) :
    ∃ time ttl, .touch time ttl m ∈ cs := by
  induction cs generalizing t with
  | nil => exact h.elim
  | cons c cs ih =>
    cases c with
    | touch time ttl m' =>
      rcases h.2 with rfl | h
      · exact ⟨time, ttl, List.mem_cons_self⟩
      · obtain ⟨time', ttl', hmem⟩ := ih h
        exact ⟨time', ttl', List.mem_cons_of_mem _ hmem⟩
    | drop m' =>
      obtain ⟨time, ttl, hmem⟩ := ih h.2
      exact ⟨time, ttl, List.mem_cons_of_mem _ hmem⟩
    | clear => exact h.elim

/-- From time `t` on the members of the key are those that the changes say. -/
def Tracks (mem : μ → α → Prop) (s : Expiring κ α) (k : κ) (t : ℤ) (cs : List (Change μ)) : Prop :=
  ∀ t', t ≤ t' → ∀ m, (∃ a, s.get t' k = some a ∧ mem m a) ↔ Holds m t' cs

namespace Tracks

variable {mem : μ → α → Prop} {s : Expiring κ α} {k k' : κ} {t t' ttl : ℤ} {cs : List (Change μ)} {a : α}

omit [DecidableEq κ] in
lemma later (h : Tracks mem s k t cs) (ht : t ≤ t') : Tracks mem s k t' cs :=
  fun t'' ht'' => h t'' (ht.trans ht'')

/-- A member is added and the time to live set. -/
theorem touch {m : μ} (h : Tracks mem s k t cs)
    (ha : ∀ m', mem m' a ↔ m' = m ∨ ∃ b, s.get t k = some b ∧ mem m' b) :
    Tracks mem ((s.put t k a).expire t k ttl) k t (.touch t ttl m :: cs) := by
  intro t' ht' m'
  rw [get_put_expire]
  have hmem : mem m' a ↔ m = m' ∨ Holds m' t cs := by
    rw [ha, h t le_rfl m']
    exact or_congr eq_comm Iff.rfl
  show _ ↔ (0 < ttl ∧ t' ≤ t + ttl) ∧ (m = m' ∨ Holds m' t cs)
  by_cases hlasts : 0 < ttl ∧ t' ≤ t + ttl
  · rw [if_pos hlasts, and_iff_right hlasts, ← hmem]
    exact ⟨fun ⟨_, hb, hm⟩ => Option.some.inj hb ▸ hm, fun hm => ⟨a, rfl, hm⟩⟩
  · rw [if_neg hlasts]
    exact iff_of_false (fun ⟨_, hb, _⟩ => nomatch hb) fun hm => hlasts hm.1

/-- A member is taken out of a key that is there. -/
theorem drop {m : μ} {b : α} (h : Tracks mem s k t cs) (hb : s.get t k = some b)
    (ha : ∀ m', mem m' a ↔ m' ≠ m ∧ mem m' b) : Tracks mem (s.put t k a) k t (.drop m :: cs) := by
  intro t' ht' m'
  rw [get_put_self_of_live hb]
  show _ ↔ m ≠ m' ∧ Holds m' t' cs
  rw [← h t' ht' m']
  constructor
  · rintro ⟨_, hget, hmem⟩
    obtain ⟨b', hb', rfl⟩ := Option.map_eq_some_iff.1 hget
    obtain rfl : b' = b := Option.some.inj ((get_earlier hb' ht').symm.trans hb)
    obtain ⟨hne, hmem⟩ := (ha m').1 hmem
    exact ⟨hne.symm, b', hb', hmem⟩
  · rintro ⟨hne, b', hb', hmem⟩
    obtain rfl : b' = b := Option.some.inj ((get_earlier hb' ht').symm.trans hb)
    exact ⟨a, by rw [hb']; rfl, (ha m').2 ⟨hne.symm, hmem⟩⟩

/-- The last member is taken out. -/
theorem drop_last {m : μ} {b : α} (h : Tracks mem s k t cs) (hb : s.get t k = some b)
    (hlast : ∀ m', mem m' b → m' = m) : Tracks mem (s.delete k) k t (.drop m :: cs) := by
  intro t' ht' m'
  rw [get_delete_self]
  refine iff_of_false (fun ⟨_, hget, _⟩ => nomatch hget) ?_
  rintro ⟨hne, hm⟩
  obtain ⟨b', hb', hmem⟩ := (h t' ht' m').2 hm
  obtain rfl : b' = b := Option.some.inj ((get_earlier hb' ht').symm.trans hb)
  exact hne (hlast m' hmem).symm

omit [DecidableEq κ] in
/-- Nothing is taken out of a key that is gone. -/
theorem drop_gone {m : μ} (h : Tracks mem s k t cs) (hgone : s.get t k = none) :
    Tracks mem s k t (.drop m :: cs) := by
  intro t' ht' m'
  have hnone : s.get t' k = none := by
    by_contra hne
    obtain ⟨b, hb⟩ := Option.ne_none_iff_exists'.1 hne
    rw [get_earlier hb ht'] at hgone
    cases hgone
  refine iff_of_false (fun ⟨_, hget, _⟩ => by rw [hnone] at hget; cases hget) ?_
  rintro ⟨-, hm⟩
  obtain ⟨b, hb, -⟩ := (h t' ht' m').2 hm
  rw [hnone] at hb
  cases hb

omit [DecidableEq κ] in
/-- Another key was changed. -/
lemma congr {s' : Expiring κ α} (h : Tracks mem s k t cs) (hs : ∀ t', s'.get t' k = s.get t' k) :
    Tracks mem s' k t cs := by
  intro t' ht' m
  rw [hs]
  exact h t' ht' m

end Tracks

end Expiring

end FastapiTemplate.Store
