import FastapiTemplate.Effects.Calls
import Mathlib.Logic.Function.Basic

/-!
# Answers kept for later

A cache in front of a service that answers requests in a changing world. An answer is kept under the request's key for
some time, and given again to whoever asks under this key.

`Own` says that what is given is what the service had for this request when the answer was kept. It holds in every run
exactly if the service has the same answer for all requests of a key, and in one run exactly if that is so wherever an
answer is given again (`own_forall_iff`, `each_own_iff`).
-/

namespace FastapiTemplate.Store

open Effects

/-- Requests `Q`, worlds `W`, answers `R` that look like `V` to the client and are kept as `S` under keys `K`. A time to
live of 0 is for good. -/
structure Memo (Q W R V S K : Type) where
  key : Q → Option K
  ttl : Q → ℕ
  serve : Q → W → R
  store : R → Option S
  replay : S → R
  view : R → V
  faithful : ∀ r s, store r = some s → view (replay s) = view r

namespace Memo

variable {Q W R V S K : Type}

/-- A request, made at some time in some world. -/
structure Call (Q W : Type) where
  request : Q
  now : ℕ
  world : W

/-- What is kept until when, with the request and the world that it is of. -/
structure Entry (Q W S : Type) where
  stored : S
  expires : Option ℕ
  asker : Q
  moment : W

abbrev Entries (Q W S K : Type) := K → Option (Entry Q W S)

variable (m : Memo Q W R V S K)

/-- What is found for a request. -/
def hit (entries : Entries Q W S K) (call : Call Q W) : Option (Entry Q W S) :=
  (m.key call.request).bind fun key => (entries key).filter fun entry => entry.expires.all fun until_ => call.now < until_

/-- What is given. -/
def answer (entries : Entries Q W S K) (call : Call Q W) : R :=
  match m.hit entries call with
  | some entry => m.replay entry.stored
  | none => m.serve call.request call.world

/-- What the service has for the request is kept. -/
def entryOf (call : Call Q W) (stored : S) : Entry Q W S where
  stored := stored
  expires := if m.ttl call.request = 0 then none else some (call.now + m.ttl call.request)
  asker := call.request
  moment := call.world

variable [DecidableEq K]

def step (call : Call Q W) (entries : Entries Q W S K) : Entries Q W S K :=
  match m.hit entries call with
  | some _ => entries
  | none =>
    match m.key call.request, m.store (m.serve call.request call.world) with
    | some key, some stored => Function.update entries key (some (m.entryOf call stored))
    | _, _ => entries

/-- The world that an answer is of: the present one, or the one in which it was kept. -/
def moment (entries : Entries Q W S K) (call : Call Q W) : W := ((m.hit entries call).map Entry.moment).getD call.world

/-- What is given is what the service has, or had then, for this request. -/
def Own (entries : Entries Q W S K) (call : Call Q W) : Prop :=
  m.view (m.answer entries call) = m.view (m.serve call.request (m.moment entries call))

/-- What is found is what the service had then for this request too. -/
def Shared (entries : Entries Q W S K) (call : Call Q W) : Prop :=
  ∀ entry, m.hit entries call = some entry →
    m.view (m.serve entry.asker entry.moment) = m.view (m.serve call.request entry.moment)

/-- What is kept under a key is of a request with this key. -/
def Honest (entries : Entries Q W S K) : Prop :=
  ∀ key entry, entries key = some entry →
    m.key entry.asker = some key ∧ m.store (m.serve entry.asker entry.moment) = some entry.stored

variable {m} {entries : Entries Q W S K}

omit [DecidableEq K] in
lemma Honest.hit (h : m.Honest entries) {call : Call Q W} {entry : Entry Q W S} (hhit : m.hit entries call = some entry) :
    m.key entry.asker = m.key call.request ∧ m.store (m.serve entry.asker entry.moment) = some entry.stored := by
  obtain ⟨key, hkey, hentry⟩ := Option.bind_eq_some_iff.1 hhit
  obtain ⟨hasker, hstored⟩ := h key entry (Option.filter_eq_some_iff.1 hentry).1
  exact ⟨hasker.trans hkey.symm, hstored⟩

lemma Honest.step (h : m.Honest entries) (call : Call Q W) : m.Honest (m.step call entries) := by
  unfold Memo.step
  split
  · exact h
  · split
    · rename_i key stored hkey hstored
      intro other entry hentry
      by_cases hother : other = key
      · subst hother
        rw [Function.update_self] at hentry
        obtain rfl := Option.some.inj hentry
        exact ⟨hkey, hstored⟩
      · rw [Function.update_of_ne hother] at hentry
        exact h other entry hentry
    · exact h

omit [DecidableEq K] in
/-- **An answer is the request's own exactly if what is found is.** -/
theorem own_iff_shared (h : m.Honest entries) (call : Call Q W) : m.Own entries call ↔ m.Shared entries call := by
  unfold Own Shared answer moment
  cases hhit : m.hit entries call with
  | none => simp
  | some entry => simp [m.faithful _ _ (h.hit hhit).2]

variable (m) in
/-- **One run.** All answers are the requests' own exactly if all that are given again are. -/
theorem each_own_iff (calls : List (Call Q W)) :
    Each m.step m.Own (fun _ => none) calls ↔ Each m.step m.Shared (fun _ => none) calls := by
  refine each_congr_of_inv (I := m.Honest) (fun entries call h _ => h.step call) (fun entries call h => own_iff_shared h call) ?_
  intro key entry h
  cases h

/-- The service has the same answer for all requests of a key, if it is one to keep. -/
def Blind (m : Memo Q W R V S K) : Prop :=
  ∀ q q' world, (m.key q).isSome → m.key q = m.key q' → (m.store (m.serve q world)).isSome →
    m.view (m.serve q world) = m.view (m.serve q' world)

variable (m) in
/-- **All runs.** All answers are the requests' own exactly if the service does not tell the requests of a key apart. -/
theorem own_forall_iff : (∀ calls, Each m.step m.Own (fun _ => none) calls) ↔ m.Blind := by
  constructor
  · intro hown q q' world hkey hsame hstore
    obtain ⟨key, hkey⟩ := Option.isSome_iff_exists.1 hkey
    obtain ⟨stored, hstored⟩ := Option.isSome_iff_exists.1 hstore
    -- One after the other, at the same time.
    have hshared := ((m.each_own_iff [⟨q, 0, world⟩, ⟨q', 0, world⟩]).1 (hown _)).2.1
    refine hshared (m.entryOf ⟨q, 0, world⟩ stored) ?_
    have hstep : m.step ⟨q, 0, world⟩ (fun _ => none)
        = Function.update (fun _ => none) key (some (m.entryOf ⟨q, 0, world⟩ stored)) := by
      simp [Memo.step, Memo.hit, hkey, hstored]
    rw [hstep]
    have hlive : ((m.entryOf ⟨q, 0, world⟩ stored).expires.all fun until_ => 0 < until_) = true := by
      by_cases httl : m.ttl q = 0 <;> simp [entryOf, httl, Nat.pos_of_ne_zero]
    simp [Memo.hit, ← hsame, hkey, hlive]
  · intro hblind calls
    rw [m.each_own_iff]
    have hall : ∀ entries, m.Honest entries → Each m.step m.Shared entries calls := by
      induction calls with
      | nil => exact fun _ _ => trivial
      | cons call calls ih =>
        refine fun entries h => ⟨fun entry hhit => ?_, ih _ (h.step call)⟩
        obtain ⟨hkey, hstored⟩ := h.hit hhit
        refine hblind _ _ _ ?_ hkey (by simp [hstored])
        rw [hkey]
        obtain ⟨key, hsome, _⟩ := Option.bind_eq_some_iff.1 hhit
        simp [hsome]
    refine hall _ fun key entry h => ?_
    cases h

end Memo

end FastapiTemplate.Store
