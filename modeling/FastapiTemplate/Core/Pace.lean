import FastapiTemplate.Core.Watch

/-!
# The pace of commits

A second monitor, for what a script commits and in which order. Every commit satisfies `ok`; once a
commit has gone through that is more than an entry of the ledger, no later one writes a subscription;
and after a refused commit that would have written one, there is none at all.

Five judgements follow the text of a script:

* `Idle`: it commits nothing and leaves the session's changes alone;
* `Adds`: it commits nothing, and what it adds to the session satisfies `P`;
* `Once`: with nothing pending and nothing committed, it keeps the pace and leaves nothing pending;
* `Commits`: with given changes pending and nothing committed, its one commit satisfies `ok`;
* `Steady`: it commits as often as it likes, but never a subscription.
-/

namespace FastapiTemplate.Core

open Effects Database Python Script

variable {S : Schema} {α β : Type}

/-- How far a script has come. -/
inductive Phase where
  /-- Nothing was committed but entries of the ledger. -/
  | fresh
  /-- Something was committed. -/
  | settled
  /-- A commit that writes a subscription was refused. -/
  | refused
  deriving DecidableEq

/-- The phase after a commit went through. -/
def Phase.committed (p : Phase) (cs : List Change) : Phase :=
  if cs.all fun c => (recorded c).isSome then p else .settled

/-- The phase after a commit was refused. -/
def Phase.rejected (p : Phase) (cs : List Change) : Phase := if cs.any writes then .refused else p

/-- The monitor. -/
def pace (ok : List Change → Prop) : Monitor Eff (Answer S) Phase where
  allows
    | .fresh, .commit cs => ok cs
    | .settled, .commit cs => ok cs ∧ cs.any writes = false
    | .refused, .commit _ => False
    | _, _ => True
  next
    | p, .commit cs, .ok _ => p.committed cs
    | p, .commit cs, .error _ => p.rejected cs
    | p, _, _ => p

/-- What is committed satisfies `ok`. -/
lemma ok_of_allows {ok : List Change → Prop} {p : Phase} {cs : List Change}
    (h : (pace (S := S) ok).allows p (.commit cs)) : ok cs := by
  cases p with
  | fresh => exact h
  | settled => exact h.1
  | refused => exact h.elim

/-- Every change satisfies `P`. -/
def Each (P : Change → Prop) (cs : List Change) : Prop := ∀ c ∈ cs, P c

lemma each_nil (P : Change → Prop) : Each P [] := fun _ h => by cases h

lemma Each.append {P : Change → Prop} {cs cs' : List Change} (h : Each P cs) (h' : Each P cs') :
    Each P (cs ++ cs') := fun x hx => (List.mem_append.1 hx).elim (h x) (h' x)

lemma Each.snoc {P : Change → Prop} {cs : List Change} {c : Change} (h : Each P cs) (hc : P c) :
    Each P (cs ++ [c]) := h.append fun x hx => by rwa [List.mem_singleton.1 hx]

lemma Each.not_writes {P : Change → Prop} {cs : List Change} (h : Each P cs)
    (hP : ∀ c, P c → writes c = false) : cs.any writes = false :=
  List.any_eq_false.2 fun c hc => by simp [hP c (h c hc)]

lemma Each.mono {P Q : Change → Prop} {cs : List Change} (hPQ : ∀ c, P c → Q c) (h : Each P cs) :
    Each Q cs := fun c hc => hPQ c (h c hc)

/-- A pace that asks less of a commit. -/
lemma wp_pace_mono {ok ok' : List Change → Prop} {p : Py S α} {s : Session} {m : Phase}
    {Q : α → Session → Phase → Prop} {X : Exn → Session → Phase → Prop} (h : ∀ cs, ok cs → ok' cs)
    (hp : Wp (pace ok) p s m Q X) : Wp (pace ok') p s m Q X := by
  have hnext : (pace (S := S) ok').next = (pace ok).next := rfl
  show (p s).Follows (pace ok') m (Ends Q X)
  refine Prog.Follows.relax (M := pace ok) (fun m e ha => ?_) hnext hp
  cases e with
  | commit cs =>
    cases m with
    | fresh => exact h cs ha
    | settled => exact ⟨h cs ha.1, ha.2⟩
    | refused => exact ha
  | _ => cases m <;> trivial

/-! ### Idle scripts -/

/-- The script commits nothing and leaves the session's changes alone; a normal return satisfies
`Q`. -/
def Idle (p : Py S α) (Q : α → Prop := fun _ => True) : Prop :=
  ∀ (ok : List Change → Prop) (s : Session) (m : Phase), Wp (pace ok) p s m
    (fun a s' m' => Q a ∧ s'.pending = s.pending ∧ m' = m) fun _ s' m' => s'.pending = s.pending ∧ m' = m

namespace Idle

variable {Q : α → Prop} {R : β → Prop}

theorem bind {p : Py S α} {f : α → Py S β} (hp : Idle p Q) (hf : ∀ a, Q a → Idle (f a) R) :
    Idle (p >>= f) R := by
  intro ok s m
  rw [wp_bind]
  refine (hp ok s m).mono ?_ fun _ _ _ h => h
  rintro a s' m' ⟨ha, hs, rfl⟩
  refine (hf a ha ok s' m').mono ?_ ?_
  · rintro b s'' m'' ⟨hb, hs', rfl⟩
    exact ⟨hb, hs'.trans hs, rfl⟩
  · rintro e s'' m'' ⟨hs', rfl⟩
    exact ⟨hs'.trans hs, rfl⟩

theorem tryCatch {p : Py S α} {f : Exn → Py S α} (hp : Idle p Q) (hf : ∀ e, Idle (f e) Q) :
    Idle (MonadExcept.tryCatch p f) Q := by
  intro ok s m
  refine wp_tryCatch.2 ((hp ok s m).mono (fun _ _ _ h => h) ?_)
  rintro e s' m' ⟨hs, rfl⟩
  refine (hf e ok s' m').mono ?_ ?_
  · rintro a s'' m'' ⟨ha, hs', rfl⟩
    exact ⟨ha, hs'.trans hs, rfl⟩
  · rintro e' s'' m'' ⟨hs', rfl⟩
    exact ⟨hs'.trans hs, rfl⟩

lemma mono {p : Py S α} {Q' : α → Prop} (hp : Idle p Q) (h : ∀ a, Q a → Q' a) : Idle p Q' :=
  fun ok s m => (hp ok s m).mono (fun a _ _ ha => ⟨h a ha.1, ha.2⟩) fun _ _ _ h => h

lemma pure {a : α} (h : Q a) : Idle (Pure.pure a : Py S α) Q := fun _ _ _ => ⟨h, rfl, rfl⟩

lemma throw (e : Exn) : Idle (MonadExcept.throw e : Py S α) Q := fun _ _ _ => ⟨rfl, rfl⟩

lemma ofExcept {x : Except Exn α} (h : ∀ a, x = .ok a → Q a) :
    Idle (MonadExcept.ofExcept x : Py S α) Q := fun _ _ _ =>
  (wp_ofExcept x).2 ⟨fun a ha => ⟨h a ha, rfl, rfl⟩, fun _ _ => ⟨rfl, rfl⟩⟩

/-- A value or a raise, of which nothing is needed. -/
lemma checked (x : Except Exn α) : Idle (MonadExcept.ofExcept x : Py S α) := ofExcept fun _ _ => trivial

lemma datetimeNow : Idle (Core.datetimeNow : Py S Datetime) :=
  fun _ _ m => ⟨by cases m <;> trivial, fun _ => ⟨trivial, rfl, rfl⟩⟩

lemma enter (eventId : String) : Idle (perform (Eff.enter eventId) : Py S Unit) :=
  fun _ _ m => ⟨by cases m <;> trivial, fun _ => ⟨trivial, rfl, rfl⟩⟩

lemma getState : Idle (Script.getState : Py S Session) := fun _ _ _ => ⟨trivial, rfl, rfl⟩

/-- The session's changes stay, whatever else of it is changed. -/
lemma modifyState {f : Session → Session} (hf : ∀ s, (f s).pending = s.pending) :
    Idle (Script.modifyState f : Py S Unit) := fun _ s _ => ⟨trivial, hf s, rfl⟩

lemma abort (e : Exn) : Idle (Core.abort e : Py S α) Q :=
  bind (modifyState fun _ => rfl) fun _ _ => throw e

lemma execute (q : Db S → α) : Idle (Core.execute q) fun a => ∃ d, a = q d := by
  refine bind getState fun s _ => ?_
  split
  · exact throw _
  · refine bind (Q := fun _ => True) (fun _ _ m => ⟨by cases m <;> trivial, fun _ => ⟨trivial, rfl, rfl⟩⟩)
      fun answer _ => ?_
    cases answer with
    | ok d => exact pure ⟨d, rfl⟩
    | error e => exact abort e

/-- What a `SELECT` finds satisfies its condition. -/
lemma select (rows : Db S → List α) (tenant : α → Option ℤ) (p : α → Bool) :
    Idle (Core.select rows tenant p) fun as => ∀ a ∈ as, p a = true := by
  refine bind getState fun s _ => (execute _).mono ?_
  rintro as ⟨d, rfl⟩ a ha
  exact (Bool.and_eq_true _ _ ▸ (List.mem_filter.1 ha).2).2

lemma selectOne (rows : Db S → List α) (tenant : α → Option ℤ) (p : α → Bool) :
    Idle (do let as ← Core.select rows tenant p; MonadExcept.ofExcept (scalarOneOrNone as) :
      Py S (Option α)) fun o => ∀ a, o = some a → p a = true :=
  bind (select rows tenant p) fun _ has => ofExcept fun o ho a hoa =>
    has a (scalarOneOrNone_some (by rw [ho, hoa]))

lemma refresh (rows : Db S → List α) (tenant : α → Option ℤ) (p : α → Bool) :
    Idle (Core.refresh rows tenant p) fun a => p a = true := by
  refine bind (select rows tenant p) fun as has => ?_
  cases as with
  | nil => exact throw _
  | cons a as => exact pure (has a List.mem_cons_self)

lemma publish (bus : EventBus) (event : Event) : Idle (bus.publish event : Py S Unit) :=
  bind (Q := fun _ => True) (fun _ _ m => ⟨by cases m <;> trivial, fun _ => ⟨trivial, rfl, rfl⟩⟩)
    fun _ _ => checked _

lemma redis (command : RedisCommand) : Idle (Core.redis command : Py S (Option ℤ)) :=
  bind (Q := fun _ => True) (fun _ _ m => ⟨by cases m <;> trivial, fun _ => ⟨trivial, rfl, rfl⟩⟩)
    fun _ _ => checked _

lemma attributes (loaded : ℕ) : Idle (Core.attributes loaded : Py S Unit) := by
  refine bind getState fun s _ => ?_
  split
  · exact pure trivial
  · exact throw _

end Idle

/-! ### Scripts that add changes -/

/-- The changes `cs` and more of `P`. -/
def Extends (P : Change → Prop) (cs cs' : List Change) : Prop := ∃ more, Each P more ∧ cs' = cs ++ more

namespace Extends

variable {P : Change → Prop} {cs cs' cs'' : List Change}

lemma refl (P : Change → Prop) (cs : List Change) : Extends P cs cs :=
  ⟨[], each_nil P, (List.append_nil cs).symm⟩

lemma trans (h : Extends P cs cs') (h' : Extends P cs' cs'') : Extends P cs cs'' := by
  obtain ⟨more, hmore, rfl⟩ := h
  obtain ⟨more', hmore', rfl⟩ := h'
  exact ⟨more ++ more', hmore.append hmore', List.append_assoc cs more more'⟩

lemma each (h : Extends P cs cs') (hcs : Each P cs) : Each P cs' := by
  obtain ⟨more, hmore, rfl⟩ := h
  exact hcs.append hmore

end Extends

variable {P : Change → Prop}

/-- The script commits nothing, and adds only changes of `P`. -/
def Adds (P : Change → Prop) (p : Py S α) (Q : α → Prop := fun _ => True) : Prop :=
  ∀ (ok : List Change → Prop) (s : Session) (m : Phase), Wp (pace ok) p s m
    (fun a s' m' => Q a ∧ Extends P s.pending s'.pending ∧ m' = m)
    fun _ s' m' => Extends P s.pending s'.pending ∧ m' = m

namespace Adds

variable {Q : α → Prop} {R : β → Prop}

lemma of_idle {p : Py S α} (h : Idle p Q) : Adds P p Q := fun ok s m =>
  (h ok s m).mono (fun _ _ _ ⟨ha, hp, hm⟩ => ⟨ha, by rw [hp]; exact .refl P _, hm⟩)
    fun _ _ _ ⟨hp, hm⟩ => ⟨by rw [hp]; exact .refl P _, hm⟩

theorem bind {p : Py S α} {f : α → Py S β} (hp : Adds P p Q) (hf : ∀ a, Q a → Adds P (f a) R) :
    Adds P (p >>= f) R := by
  intro ok s m
  rw [wp_bind]
  refine (hp ok s m).mono ?_ fun _ _ _ h => h
  rintro a s' m' ⟨ha, hs, rfl⟩
  exact (hf a ha ok s' m').mono (fun _ _ _ h => ⟨h.1, hs.trans h.2.1, h.2.2⟩)
    fun _ _ _ h => ⟨hs.trans h.1, h.2⟩

theorem tryCatch {p : Py S α} {f : Exn → Py S α} (hp : Adds P p Q) (hf : ∀ e, Adds P (f e) Q) :
    Adds P (MonadExcept.tryCatch p f) Q := by
  intro ok s m
  refine wp_tryCatch.2 ((hp ok s m).mono (fun _ _ _ h => h) ?_)
  rintro e s' m' ⟨hs, rfl⟩
  exact (hf e ok s' m').mono (fun _ _ _ h => ⟨h.1, hs.trans h.2.1, h.2.2⟩)
    fun _ _ _ h => ⟨hs.trans h.1, h.2⟩

lemma add {c : Change} (hc : P c) : Adds P (Core.add c : Py S Unit) :=
  fun _ _ _ => ⟨trivial, ⟨[c], (each_nil P).snoc hc, rfl⟩, rfl⟩

lemma map {p : Py S α} {f : α → β} (hp : Adds P p Q) (hf : ∀ a, Q a → R (f a)) : Adds P (f <$> p) R :=
  bind hp fun a ha => of_idle (.pure (hf a ha))

end Adds

/-! ### Scripts that commit once -/

/-- From a session with changes of `P` and nothing committed yet, the script keeps the pace, and
leaves nothing pending when it returns. -/
def Closes (P : Change → Prop) (p : Py S α) : Prop :=
  ∀ s : Session, Each P s.pending → Wp (pace (Each P)) p s .fresh
    (fun _ s' m' => s'.pending = [] ∧ m' ≠ .refused) fun _ _ _ => True

/-- With nothing pending and nothing committed, the script keeps the pace and leaves nothing pending. -/
def Once (P : Change → Prop) (p : Py S α) : Prop :=
  ∀ s : Session, s.pending = [] → Wp (pace (Each P)) p s .fresh
    (fun _ s' m' => s'.pending = [] ∧ m' ≠ .refused) fun _ _ _ => True

lemma Phase.committed_ne (p : Phase) (cs : List Change) (h : p ≠ .refused) : p.committed cs ≠ .refused := by
  unfold Phase.committed
  split
  · exact h
  · decide

/-- A commit under the monitor. -/
theorem wp_commit_pace {ok : List Change → Prop} {s : Session} {m : Phase}
    {Q : List ℤ → Session → Phase → Prop} {X : Exn → Session → Phase → Prop}
    (hallow : (pace (S := S) ok).allows m (.commit s.pending))
    (hok : ∀ ids, Q ids { s with pending := [] } (m.committed s.pending))
    (haborted : ∀ e, X e s m) (herr : ∀ e, X e s.broken (m.rejected s.pending)) :
    Wp (pace ok) (commit : Py S (List ℤ)) s m Q X := by
  unfold commit
  rw [wp_bind, wp_getState]
  split
  · exact haborted _
  · rw [wp_bind, wp_perform]
    refine ⟨hallow, ?_⟩
    rintro (e | ids)
    · exact herr e
    · exact hok ids

namespace Closes

variable {Q : α → Prop}

theorem bind {p : Py S α} {f : α → Py S β} (hp : Adds P p Q) (hf : ∀ a, Q a → Closes P (f a)) :
    Closes P (p >>= f) := by
  intro s hs
  rw [wp_bind]
  refine (hp _ s .fresh).mono ?_ fun _ _ _ _ => trivial
  rintro a s' m' ⟨ha, hs', rfl⟩
  exact hf a ha s' (hs'.each hs)

/-- What follows writes nothing more. -/
theorem andThen {p : Py S α} {f : α → Py S β} (hp : Closes P p) (hf : ∀ a, Idle (f a)) :
    Closes P (p >>= f) := by
  intro s hs
  rw [wp_bind]
  refine (hp s hs).mono ?_ fun _ _ _ _ => trivial
  rintro a s' m' ⟨hs', hm⟩
  refine (hf a _ s' m').mono ?_ fun _ _ _ _ => trivial
  rintro b s'' m'' ⟨-, hs'', rfl⟩
  exact ⟨hs''.trans hs', hm⟩

lemma commit : Closes P (Core.commit : Py S (List ℤ)) := fun s hs =>
  wp_commit_pace hs (fun _ => ⟨rfl, Phase.committed_ne _ _ (by decide)⟩) (fun _ => trivial) fun _ => trivial

/-- A commit, and a handler of its failure that raises in the end. -/
lemma commitOrThrow {f : Exn → Py S α} {a : α}
    (hf : ∀ e ok s m, Wp (pace ok) (f e) s m (fun _ _ _ => False) fun _ _ _ => True) :
    Closes P (MonadExcept.tryCatch (do let _keys ← Core.commit; return a) f) := by
  intro s hs
  refine wp_tryCatch.2 (wp_bind.2 (wp_commit_pace hs
    (fun _ => ⟨rfl, Phase.committed_ne _ _ (by decide)⟩) (fun e => ?_) fun e => ?_))
  · exact (hf e _ _ _).mono (fun _ _ _ h => h.elim) fun _ _ _ _ => trivial
  · exact (hf e _ _ _).mono (fun _ _ _ h => h.elim) fun _ _ _ _ => trivial

end Closes

namespace Once

variable {Q : α → Prop}

lemma of_closes {p : Py S α} (h : Closes P p) : Once P p := fun s hs =>
  h s (by rw [hs]; exact each_nil P)

lemma of_idle {p : Py S α} (h : Idle p Q) : Once P p := fun s hs => by
  refine (h _ s .fresh).mono ?_ fun _ _ _ _ => trivial
  rintro a s' m' ⟨-, hs', rfl⟩
  exact ⟨hs'.trans hs, by decide⟩

lemma pure (a : α) : Once P (Pure.pure a : Py S α) := of_idle (.pure (Q := fun _ => True) trivial)

lemma throw (e : Exn) : Once P (MonadExcept.throw e : Py S α) := of_idle (.throw (Q := fun _ => True) e)

theorem bind {p : Py S α} {f : α → Py S β} (hp : Idle p Q) (hf : ∀ a, Q a → Once P (f a)) :
    Once P (p >>= f) := by
  intro s hs
  rw [wp_bind]
  refine (hp _ s .fresh).mono ?_ fun _ _ _ _ => trivial
  rintro a s' m' ⟨ha, hs', rfl⟩
  exact hf a ha s' (hs'.trans hs)

theorem andThen {p : Py S α} {f : α → Py S β} (hp : Once P p) (hf : ∀ a, Idle (f a)) :
    Once P (p >>= f) := by
  intro s hs
  rw [wp_bind]
  refine (hp s hs).mono ?_ fun _ _ _ _ => trivial
  rintro a s' m' ⟨hs', hm⟩
  refine (hf a _ s' m').mono ?_ fun _ _ _ _ => trivial
  rintro b s'' m'' ⟨-, hs'', rfl⟩
  exact ⟨hs''.trans hs', hm⟩

end Once

/-! ### The one commit of a script -/

/-- With the changes `cs` pending and nothing committed, whatever the script commits satisfies `ok`. -/
def Commits (ok : List Change → Prop) (cs : List Change) (p : Py S α) : Prop :=
  ∀ s : Session, s.pending = cs → Wp (pace ok) p s .fresh (fun _ _ _ => True) fun _ _ _ => True

namespace Commits

variable {ok : List Change → Prop} {cs : List Change} {Q : α → Prop}

lemma of_idle {p : Py S α} (h : Idle p Q) : Commits ok cs p := fun s _ =>
  (h ok s .fresh).mono (fun _ _ _ _ => trivial) fun _ _ _ _ => trivial

lemma throw (e : Exn) : Commits ok cs (MonadExcept.throw e : Py S α) :=
  of_idle (.throw (Q := fun _ => True) e)

theorem bind {p : Py S α} {f : α → Py S β} (hp : Idle p Q) (hf : ∀ a, Q a → Commits ok cs (f a)) :
    Commits ok cs (p >>= f) := by
  intro s hs
  rw [wp_bind]
  refine (hp ok s .fresh).mono ?_ fun _ _ _ _ => trivial
  rintro a s' m' ⟨ha, hs', rfl⟩
  exact hf a ha s' (hs'.trans hs)

/-- What follows commits nothing more. -/
theorem andThen {p : Py S α} {f : α → Py S β} (hp : Commits ok cs p) (hf : ∀ a, Idle (f a)) :
    Commits ok cs (p >>= f) := by
  intro s hs
  rw [wp_bind]
  refine (hp s hs).mono (fun a s' m' _ => ?_) fun _ _ _ _ => trivial
  exact (hf a ok s' m').mono (fun _ _ _ _ => trivial) fun _ _ _ _ => trivial

theorem add {c : Change} {f : Unit → Py S β} (hf : Commits ok (cs ++ [c]) (f ())) :
    Commits ok cs (Core.add c >>= f) := fun s hs =>
  wp_bind.2 (hf { s with pending := s.pending ++ [c] } (by rw [hs]))

theorem adds {P : Change → Prop} {p : Py S α} {f : α → Py S β} (hp : Adds P p Q)
    (hf : ∀ a cs', Extends P cs cs' → Commits ok cs' (f a)) : Commits ok cs (p >>= f) := by
  intro s hs
  rw [wp_bind]
  refine (hp ok s .fresh).mono ?_ fun _ _ _ _ => trivial
  rintro a s' m' ⟨-, hs', rfl⟩
  exact hf a s'.pending (hs ▸ hs') s' rfl

lemma commit (h : ok cs) : Commits ok cs (Core.commit : Py S (List ℤ)) := fun s hs =>
  wp_commit_pace (by subst hs; exact h) (fun _ => trivial) (fun _ => trivial) fun _ => trivial

end Commits

/-! ### Scripts that write no subscription -/

/-- The script commits changes of `P`, as often as it likes; nothing was refused to it. -/
def Steady (P : Change → Prop) (p : Py S α) (Q : α → Prop := fun _ => True) : Prop :=
  ∀ (s : Session) (m : Phase), Each P s.pending → m ≠ .refused → Wp (pace (Each P)) p s m
    (fun a s' m' => Q a ∧ Each P s'.pending ∧ m' ≠ .refused) fun _ s' m' => Each P s'.pending ∧ m' ≠ .refused

namespace Steady

variable {Q : α → Prop} {R : β → Prop}

lemma of_idle {p : Py S α} (h : Idle p Q) : Steady P p Q := fun s m hs hm => by
  refine (h _ s m).mono ?_ ?_
  · rintro a s' m' ⟨ha, hp, rfl⟩
    exact ⟨ha, by rwa [hp], hm⟩
  · rintro e s' m' ⟨hp, rfl⟩
    exact ⟨by rwa [hp], hm⟩

theorem bind {p : Py S α} {f : α → Py S β} (hp : Steady P p Q) (hf : ∀ a, Q a → Steady P (f a) R) :
    Steady P (p >>= f) R := by
  intro s m hs hm
  rw [wp_bind]
  exact (hp s m hs hm).mono (fun a s' m' h => hf a h.1 s' m' h.2.1 h.2.2) fun _ _ _ h => h

theorem tryCatch {p : Py S α} {f : Exn → Py S α} (hp : Steady P p Q) (hf : ∀ e, Steady P (f e) Q) :
    Steady P (MonadExcept.tryCatch p f) Q := fun s m hs hm =>
  wp_tryCatch.2 ((hp s m hs hm).mono (fun _ _ _ h => h) fun e s' m' h => hf e s' m' h.1 h.2)

lemma map {p : Py S α} {f : α → β} (hp : Steady P p Q) (hf : ∀ a, Q a → R (f a)) :
    Steady P (f <$> p) R := bind hp fun a ha => of_idle (.pure (hf a ha))

lemma throw (e : Exn) : Steady P (MonadExcept.throw e : Py S α) Q := of_idle (.throw e)

lemma add {c : Change} (hc : P c) : Steady P (Core.add c : Py S Unit) :=
  fun _ _ hs hm => ⟨trivial, hs.snoc hc, hm⟩

lemma rollback : Steady P (Core.rollback : Py S Unit) := fun _ _ _ hm => ⟨trivial, each_nil P, hm⟩

lemma commit (hP : ∀ c, P c → writes c = false) : Steady P (Core.commit : Py S (List ℤ)) := by
  intro s m hs hm
  have hquiet : s.pending.any writes = false := hs.not_writes hP
  refine wp_commit_pace ?_ (fun _ => ⟨trivial, each_nil P, Phase.committed_ne _ _ hm⟩) (fun _ => ⟨hs, hm⟩)
    fun _ => ⟨hs, ?_⟩
  · cases m with
    | fresh => exact hs
    | settled => exact ⟨hs, hquiet⟩
    | refused => exact absurd rfl hm
  · rw [Phase.rejected, hquiet]
    exact hm

end Steady

end FastapiTemplate.Core
