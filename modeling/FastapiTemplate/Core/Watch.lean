import FastapiTemplate.Core.Runtime
import FastapiTemplate.Database.Flush

/-!
# Watching the runtime

The monitor that the safety arguments share. Its state is what a script has seen of the world: the
first state of the database it read, the states it read since its last commit, its first reading of
the clock, whether it has written a subscription, and the event it has put into the ledger and not
handled yet. Two things are restricted: what may be committed, given what was seen, and that a handler
is entered for the event in hand only; the scripts watched do not use Redis. `wp_select`, `wp_commit` and so on are the rules of the
runtime's operations under it.
-/

namespace FastapiTemplate.Core

open Effects Database Python Script

variable {S : Schema} {α β : Type}

/-- What a script has seen; whatever it read, there was a first read. -/
structure View (S : Schema) where
  start : Option (Db S) := none
  reads : List (Db S) := []
  asked : Option Datetime := none
  wrote : Bool := false
  token : Option String := none
  informed : reads ≠ [] → start ≠ none := by simp

/-- The change writes the subscriptions. -/
def writes (c : Change) : Bool := c.target.isSome || c.opened.isSome

lemma not_writes {cs : List Change} (h : cs.any writes = false) :
    ∀ c ∈ cs, c.target = none ∧ c.opened = none := by
  intro c hc
  have hw : writes c = false := by simpa using List.any_eq_false.1 h c hc
  simpa [writes] using hw

/-- The event a change puts into the ledger. -/
def recorded : Change → Option String
  | .insertStripeEvent row => some row.eventId
  | _ => none

namespace View

def read (m : View S) (d : Db S) : View S :=
  { m with
    start := m.start.or (some d)
    reads := d :: m.reads
    informed := fun _ => by cases m.start <;> simp }

def tick (m : View S) (t : Datetime) : View S := { m with asked := m.asked.or (some t) }

/-- After a commit nothing that was read before it counts any more. -/
def committed (m : View S) (cs : List Change) : View S :=
  { m with
    reads := []
    wrote := m.wrote || cs.any writes
    token := (cs.findSome? recorded).or m.token
    informed := fun h => absurd rfl h }

/-- The event in hand is being handled. -/
def entered (m : View S) : View S := { m with token := none }

@[simp] lemma read_start (m : View S) (d : Db S) : (m.read d).start = m.start.or (some d) := rfl
@[simp] lemma read_reads (m : View S) (d : Db S) : (m.read d).reads = d :: m.reads := rfl
@[simp] lemma read_asked (m : View S) (d : Db S) : (m.read d).asked = m.asked := rfl
@[simp] lemma read_wrote (m : View S) (d : Db S) : (m.read d).wrote = m.wrote := rfl
@[simp] lemma tick_start (m : View S) (t : Datetime) : (m.tick t).start = m.start := rfl
@[simp] lemma tick_reads (m : View S) (t : Datetime) : (m.tick t).reads = m.reads := rfl
@[simp] lemma tick_wrote (m : View S) (t : Datetime) : (m.tick t).wrote = m.wrote := rfl
@[simp] lemma committed_start (m : View S) (cs : List Change) : (m.committed cs).start = m.start := rfl
@[simp] lemma committed_asked (m : View S) (cs : List Change) : (m.committed cs).asked = m.asked := rfl

@[simp] lemma entered_start (m : View S) : m.entered.start = m.start := rfl
@[simp] lemma entered_reads (m : View S) : m.entered.reads = m.reads := rfl
@[simp] lemma entered_asked (m : View S) : m.entered.asked = m.asked := rfl
@[simp] lemma entered_wrote (m : View S) : m.entered.wrote = m.wrote := rfl

/-- What was seen before is seen after: nothing was committed in between. -/
structure Grows (m m' : View S) : Prop where
  start : ∀ d, m.start = some d → m'.start = some d
  reads : ∀ d ∈ m.reads, d ∈ m'.reads
  asked : ∀ t, m.asked = some t → m'.asked = some t
  wrote : m'.wrote = m.wrote

namespace Grows

lemma informed {m m' : View S} (h : Grows m m') (hm : m.start ≠ none) : m'.start ≠ none := by
  obtain ⟨d, hd⟩ := Option.ne_none_iff_exists'.1 hm
  rw [h.start d hd]
  exact nofun

lemma refl (m : View S) : Grows m m := ⟨fun _ h => h, fun _ h => h, fun _ h => h, rfl⟩

lemma trans {m m' m'' : View S} (h : Grows m m') (h' : Grows m' m'') : Grows m m'' where
  start d hd := h'.start d (h.start d hd)
  reads d hd := h'.reads d (h.reads d hd)
  asked t ht := h'.asked t (h.asked t ht)
  wrote := h'.wrote.trans h.wrote

lemma read (m : View S) (d : Db S) : Grows m (m.read d) where
  start e he := by simp [View.read, he]
  reads e he := List.mem_cons_of_mem _ he
  asked _ ht := ht
  wrote := rfl

lemma tick (m : View S) (t : Datetime) : Grows m (m.tick t) where
  start _ hd := hd
  reads _ hd := hd
  asked u hu := by simp [View.tick, hu]
  wrote := rfl

end Grows

end View

/-- The monitor: `ok` says which commits are allowed. -/
def watch (ok : View S → List Change → Prop) : Monitor Eff (Answer S) (View S) where
  allows m
    | .commit cs => ok m cs
    | .enter eventId => m.token = some eventId
    | .redis _ => False
    | _ => True
  next m
    | .now, t => m.tick t
    | .query, .ok d => m.read d
    | .commit cs, .ok _ => m.committed cs
    | .enter _, _ => m.entered
    | _, _ => m

/-! ### The rules -/

section Rules

variable {ok : View S → List Change → Prop} {s : Session} {m : View S}
  {X : Exn → Session → View S → Prop}

theorem wp_datetimeNow {Q : Datetime → Session → View S → Prop} :
    Wp (watch ok) (datetimeNow : Py S Datetime) s m Q X ↔ ∀ t, Q t s (m.tick t) := by
  simp [datetimeNow, watch]

/-- A value or a raise, where nothing is asked of a raise. -/
lemma wp_ofExcept_ok {Q : α → Session → View S → Prop} {x : Except Exn α} (hX : ∀ e s m, X e s m)
    (h : ∀ a, x = .ok a → Q a s m) :
    Wp (watch ok) (MonadExcept.ofExcept x : Py S α) s m Q X :=
  (wp_ofExcept x).2 ⟨h, fun e _ => hX e s m⟩

theorem wp_abort {Q : α → Session → View S → Prop} (e : Exn) :
    Wp (watch ok) (abort e : Py S α) s m Q X ↔ X e { s with aborted := true } m := by
  simp [abort]

/-- The first read of a script is also the one it starts from. -/
theorem wp_execute {Q : α → Session → View S → Prop} {q : Db S → α}
    (hok : ∀ d, Q (q d) s (m.read d)) (herr : ∀ e a, X e { s with aborted := a } m) :
    Wp (watch ok) (execute q) s m Q X := by
  unfold execute
  rw [wp_bind, wp_getState]
  split
  · exact herr _ s.aborted
  · rw [wp_bind, wp_perform]
    refine ⟨trivial, ?_⟩
    rintro (e | d)
    · exact (wp_abort e).2 (herr e true)
    · exact hok d

theorem wp_select {Q : List α → Session → View S → Prop} {rows : Db S → List α}
    {tenant : α → Option ℤ} {p : α → Bool}
    (hok : ∀ d as, (∀ a ∈ as, a ∈ rows d ∧ p a = true) → as.Sublist (rows d) → Q as s (m.read d))
    (herr : ∀ e a, X e { s with aborted := a } m) :
    Wp (watch ok) (select rows tenant p) s m Q X := by
  unfold select
  rw [wp_bind, wp_getState]
  refine wp_execute (fun d => hok d _ ?_ List.filter_sublist) herr
  intro a ha
  obtain ⟨hmem, hp⟩ := List.mem_filter.1 ha
  exact ⟨hmem, (Bool.and_eq_true _ _ ▸ hp).2⟩

lemma scalarOneOrNone_some {as : List α} {a : α} (h : scalarOneOrNone as = .ok (some a)) :
    a ∈ as := by
  rcases as with _ | ⟨b, _ | ⟨c, as⟩⟩
  · cases h
  · cases h; exact List.mem_singleton_self a
  · cases h

lemma scalarOneOrNone_none {as : List α} (h : scalarOneOrNone as = .ok none) : as = [] := by
  rcases as with _ | ⟨b, _ | ⟨c, as⟩⟩
  · rfl
  · cases h
  · cases h

/-- A `SELECT` for at most one row. -/
theorem wp_selectOne {Q : Option α → Session → View S → Prop} {rows : Db S → List α}
    {tenant : α → Option ℤ} {p : α → Bool} (hnone : ∀ d, Q none s (m.read d))
    (hsome : ∀ d, ∀ a ∈ rows d, p a = true → Q (some a) s (m.read d))
    (herr : ∀ e a m', View.Grows m m' → X e { s with aborted := a } m') :
    Wp (watch ok) (do let as ← select rows tenant p; MonadExcept.ofExcept (scalarOneOrNone as))
      s m Q X := by
  rw [wp_bind]
  refine wp_select (fun d as has _ => ?_) fun e a => herr e a m (.refl m)
  rw [wp_ofExcept]
  constructor
  · intro o ho
    cases o with
    | none => exact hnone d
    | some a =>
      obtain ⟨hmem, hp⟩ := has a (scalarOneOrNone_some ho)
      exact hsome d a hmem hp
  · intro e _
    exact herr e s.aborted _ (.read m d)

@[simp] theorem wp_add {Q : Unit → Session → View S → Prop} (c : Change) :
    Wp (watch ok) (add c) s m Q X ↔ Q () { s with pending := s.pending ++ [c] } m := Iff.rfl

@[simp] theorem wp_rollback {Q : Unit → Session → View S → Prop} :
    Wp (watch ok) rollback s m Q X ↔ Q () s.rolledBack m := Iff.rfl

theorem wp_commit {Q : List ℤ → Session → View S → Prop} (hallow : ok m s.pending)
    (hok : ∀ ids, Q ids { s with pending := [] } (m.committed s.pending))
    (herr : ∀ e (s' : Session), X e s' m) :
    Wp (watch ok) (commit : Py S (List ℤ)) s m Q X := by
  unfold commit
  rw [wp_bind, wp_getState]
  split
  · exact herr _ s
  · rw [wp_bind, wp_perform]
    refine ⟨hallow, ?_⟩
    rintro (e | ids)
    · exact herr e s.broken
    · exact hok ids

theorem wp_refresh {Q : α → Session → View S → Prop} {rows : Db S → List α}
    {tenant : α → Option ℤ} {p : α → Bool}
    (hok : ∀ d, ∀ a ∈ rows d, p a = true → Q a s (m.read d))
    (herr : ∀ e a m', View.Grows m m' → X e { s with aborted := a } m') :
    Wp (watch ok) (refresh rows tenant p) s m Q X := by
  unfold refresh
  rw [wp_bind]
  refine wp_select (fun d as has _ => ?_) fun e a => herr e a m (.refl m)
  cases as with
  | nil => exact herr _ s.aborted _ (.read m d)
  | cons row as =>
    obtain ⟨hmem, hp⟩ := has row List.mem_cons_self
    exact hok d row hmem hp

theorem wp_publish {Q : Unit → Session → View S → Prop} {bus : EventBus} {event : Event}
    (hok : Q () s m) (herr : ∀ e, X e s m) :
    Wp (watch ok) (bus.publish event : Py S Unit) s m Q X := by
  unfold EventBus.publish
  rw [wp_bind, wp_perform]
  refine ⟨trivial, fun r => ?_⟩
  rw [wp_ofExcept]
  exact ⟨fun _ _ => hok, fun e _ => herr e⟩

theorem wp_enter {Q : Unit → Session → View S → Prop} {eventId : String} :
    Wp (watch ok) (perform (Eff.enter eventId) : Py S Unit) s m Q X ↔
      m.token = some eventId ∧ Q () s m.entered := by
  rw [wp_perform]
  exact and_congr Iff.rfl ⟨fun h => h (), fun h _ => h⟩

end Rules

end FastapiTemplate.Core
