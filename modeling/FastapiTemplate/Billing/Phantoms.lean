import FastapiTemplate.Billing.Notifications
import FastapiTemplate.Billing.Storable

/-!
# Notifications of changes that are not committed

A dunning event announces an image of a subscription. The sweep, `handle_payment_failed` and `mark_paid`
publish before they commit, so a fault after the first publication leaves events of changes that do not
exist. `notifications_committed_iff` says which faults do, for each of the three.
-/

namespace FastapiTemplate.Billing

open Core Database Python Effects Script

variable {S : Schema} {cfg : Settings} {s : Session} {w : World S}

/-- The event announces the change. -/
def Announces (c : Change) (e : Event) : Prop :=
  ∃ loaded cur suffix uid, c = .updateSubscription loaded cur ∧ e = dunningEvent suffix cur uid

/-- Every event published announces a change that was committed. -/
def NoPhantom (w : World S) : Prop := ∀ e ∈ w.published, ∃ entry ∈ w.log, ∃ c ∈ entry.1, Announces c e

lemma announces_of_mem_notices {suffix : String} {loaded cur : Subscription} {uids : List ℤ} {e : Event}
    (h : e ∈ notices suffix cur uids) : Announces (.updateSubscription loaded cur) e := by
  obtain ⟨uid, -, rfl⟩ := List.mem_map.1 h
  exact ⟨loaded, cur, suffix, some uid, rfl, rfl⟩

/-- Announced first and committed afterwards: no event is left without its change if nobody is told, or
if the commit goes through. -/
theorem Announcement.noPhantom_iff {suffix : String} {loaded sub : Subscription} {cs : List Change}
    {w' : World S} (h : Announcement suffix sub cs w w') (hmem : .updateSubscription loaded sub ∈ cs)
    (hp : w.published = []) (hl : w.log = []) :
    NoPhantom w' ↔ Silent w sub ∨ Through w sub cs := by
  cases h with
  | unresolved hquery hframe hpublished =>
    rw [hp] at hpublished
    refine ⟨fun _ => .inl (.inl hquery), fun _ e he => ?_⟩
    rw [hpublished] at he
    cases he
  | cut hquery hcut hframe hpublished =>
    have hlog : w'.log = [] := hframe.log.trans hl
    rw [hp, List.nil_append] at hpublished
    constructor
    · intro hall
      -- with nothing committed, nothing can have been published
      have hnil : notices suffix sub ((audience w.db sub).take
          (sent w.env.busFails w.busCalls (audience w.db sub).length)) = [] := by
        refine List.eq_nil_iff_forall_not_mem.2 fun e he => ?_
        obtain ⟨entry, hentry, -⟩ := hall e (by rw [hpublished]; exact he)
        rw [hlog] at hentry
        cases hentry
      rcases List.take_eq_nil_iff.1 (List.map_eq_nil_iff.1 hnil) with hzero | hnobody
      · rcases sent_eq_zero.1 hzero with hlen | hfails
        · exact .inl (.inr (.inl (List.length_eq_zero_iff.1 hlen)))
        · exact .inl (.inr (.inr hfails))
      · exact .inl (.inr (.inl hnobody))
    · rintro ((hunres | hnobody | hfails) | hthrough)
      · exact absurd hunres hquery
      · rw [hnobody] at hpublished
        intro e he
        rw [hpublished] at he
        cases he
      · rw [sent_eq_zero.2 (.inr hfails), List.take_zero] at hpublished
        intro e he
        rw [hpublished] at he
        cases he
      · exact absurd hthrough hcut
  | through hquery hthrough ids d hcommit hdb henv hlog hpublished =>
    refine ⟨fun _ => .inr hthrough, fun _ e he => ?_⟩
    rw [hpublished, hp, List.nil_append] at he
    exact ⟨(cs, d), by rw [hlog]; simp, _, hmem, announces_of_mem_notices he⟩

/-- Where the schema has nothing against the change, it only depends on the faults. -/
lemma Announcement.noPhantom_iff_clear {suffix : String} {loaded sub : Subscription} {cs : List Change}
    {w' : World S} (h : Announcement suffix sub cs w w') (hmem : .updateSubscription loaded sub ∈ cs)
    (hp : w.published = []) (hl : w.log = []) (hc : ∃ ids d, w.db.commit cs = .ok (ids, d)) :
    NoPhantom w' ↔ Silent w sub ∨ Clear w sub := by
  rw [h.noPhantom_iff hmem hp hl]
  exact or_congr_right ⟨fun hthrough => hthrough.1, fun hclear => ⟨hclear, hc⟩⟩

/-! ### The ticks of a sweep -/

/-- The recipients' queries of ticks over some rows. -/
def trips : List Subscription → ℕ
  | [] => 0
  | x :: xs => if x.tenantId = none then trips xs else trips xs + 1

/-- The ticks that have somebody to tell, up to the first whose recipients' query fails; `n` round trips
were made before. -/
def openings (d : Db S) (fails : ℕ → Bool) : ℕ → List Subscription → ℕ
  | _, [] => 0
  | n, x :: xs =>
    if x.tenantId = none then openings d fails n xs
    else if fails n then 0
    else (if audience d x = [] then 0 else 1) + openings d fails (n + 1) xs

lemma tenantId_ticked (cfg : Settings) (now t : Datetime) (row : Subscription) :
    (ticked cfg now t row).tenantId = row.tenantId := by
  unfold ticked
  split <;> rfl

/-- What a tick of a row leaves, the transaction not being aborted before. -/
inductive Told (w : World S) (row : Subscription) (s' : Session) (w' : World S) : Prop where
  /-- The recipients' query fails. -/
  | unresolved (hquery : Unresolved w row) (aborted : s'.aborted = true)
      (published : w'.published = w.published)
  /-- There is nobody to tell. -/
  | nobody (hquery : ¬Unresolved w row) (audience : audience w.db row = []) (aborted : s'.aborted = false)
      (published : w'.published = w.published) (dbCalls : w'.dbCalls = (resolved w row).dbCalls)
      (busCalls : w'.busCalls = w.busCalls)
  /-- The first publication raises. -/
  | mute (hquery : ¬Unresolved w row) (audience : audience w.db row ≠ [])
      (hfails : w.env.busFails w.busCalls = true) (aborted : s'.aborted = false)
      (published : w'.published = w.published) (dbCalls : w'.dbCalls = (resolved w row).dbCalls)
      (busCalls : w'.busCalls = w.busCalls + 1)
  | told (hquery : ¬Unresolved w row) (audience : audience w.db row ≠ [])
      (hgoes : w.env.busFails w.busCalls = false) (aborted : s'.aborted = false) (events : List Event)
      (published : w'.published = w.published ++ events) (some : events ≠ [])
      (announced : ∀ e ∈ events, ∃ c ∈ s'.pending, Announces c e)
      (dbCalls : w'.dbCalls = (resolved w row).dbCalls)

lemma resolved_eq (w : World S) (row : Subscription) :
    (resolved w row).published = w.published ∧ (resolved w row).busCalls = w.busCalls := by
  unfold resolved
  split <;> exact ⟨rfl, rfl⟩

/-- A tick may have read the clock before it publishes, which does not matter. -/
lemma same_ticked (cfg : Settings) (now t : Datetime) (row : Subscription) {w w' : World S}
    (hw' : w' = w ∨ w' = w.ticked) :
    Unresolved w' (ticked cfg now t row) = Unresolved w row ∧
      audience w'.db (ticked cfg now t row) = audience w.db row ∧
      (resolved w' (ticked cfg now t row)).dbCalls = (resolved w row).dbCalls ∧
      w'.env = w.env ∧ w'.busCalls = w.busCalls ∧ w'.published = w.published := by
  unfold Unresolved audience resolved
  rw [tenantId_ticked]
  rcases hw' with rfl | rfl
  · exact ⟨rfl, rfl, rfl, rfl, rfl, rfl⟩
  · refine ⟨rfl, rfl, ?_, rfl, rfl, rfl⟩
    split <;> rfl

theorem tick_told (cfg : Settings) (bus : EventBus) (now : Datetime) {row : Subscription}
    (hpd : row.status = .pastDue) (ht : s.tenant = none) (ha : s.aborted = false) :
    Told w row ((tick cfg (some bus) now (.of row)).exec serve s w).state
      ((tick cfg (some bus) now (.of row)).exec serve s w).world := by
  obtain ⟨t, suffix, w', hw', hexec⟩ := exec_tick_publish (s := s) (w := w) cfg (some bus) now hpd
  obtain ⟨hquery, haud, hdb, henv, hbus, hpub⟩ := same_ticked cfg now t row hw'
  have hres := resolved_eq w' (ticked cfg now t row)
  rw [hexec, Outcome.next_state, Outcome.next_world, exec_publishToRecipients bus suffix
    (s := { s with pending := s.pending ++ [.updateSubscription row (ticked cfg now t row)] }) ha
    (by rw [ht]; rfl)]
  by_cases hq : Unresolved w row
  · rw [if_pos (by rw [hquery]; exact hq)]
    exact .unresolved hq rfl hpub
  rw [if_neg (by rw [hquery]; exact hq), haud, henv, hbus]
  by_cases hnobody : audience w.db row = []
  · refine .nobody hq hnobody ?_ ?_ ?_ ?_ <;> simp only [hnobody, List.length_nil, sent, if_true]
    · exact ha
    · simp [notices, World.announced, hres.1, hpub]
    · exact hdb
    · exact (hres.2.trans hbus)
  have hlen : (audience w.db row).length ≠ 0 := fun h => hnobody (List.length_eq_zero_iff.1 h)
  cases hf : w.env.busFails w.busCalls with
  | true =>
    have hzero : sent w.env.busFails w.busCalls (audience w.db row).length = 0 :=
      sent_eq_zero.2 (.inr hf)
    refine .mute hq hnobody hf ?_ ?_ ?_ ?_ <;> simp only [hzero, if_neg (Ne.symm hlen)]
    · exact ha
    · simp [notices, World.announced, hres.1, hpub]
    · exact hdb
    · show (resolved w' (ticked cfg now t row)).busCalls + 1 = _
      rw [hres.2, hbus]
  | false =>
    have hpos : sent w.env.busFails w.busCalls (audience w.db row).length ≠ 0 := by
      intro h
      rcases sent_eq_zero.1 h with h | h
      · exact hlen h
      · rw [hf] at h
        cases h
    have htake : (audience w.db row).take (sent w.env.busFails w.busCalls (audience w.db row).length) ≠ [] := by
      intro h
      rcases List.take_eq_nil_iff.1 h with h | h
      · exact hpos h
      · exact hnobody h
    have hann : ∀ uids, ∀ e ∈ notices suffix (ticked cfg now t row) uids,
        ∃ c ∈ s.pending ++ [.updateSubscription row (ticked cfg now t row)], Announces c e :=
      fun uids e he => ⟨_, List.mem_append_right _ (List.mem_singleton_self _),
        announces_of_mem_notices he⟩
    have hne : ∀ uids : List ℤ, uids ≠ [] → notices suffix (ticked cfg now t row) uids ≠ [] :=
      fun uids h h' => h (List.map_eq_nil_iff.1 h')
    by_cases hall : sent w.env.busFails w.busCalls (audience w.db row).length = (audience w.db row).length
    · simp only [if_pos hall]
      refine .told hq hnobody hf ha _ ?_ (hne _ hnobody) (hann _) hdb
      show (resolved w' (ticked cfg now t row)).published ++ _ = _
      rw [hres.1, hpub]
    · simp only [if_neg hall]
      refine .told hq hnobody hf ha _ ?_ (hne _ htake) (hann _) hdb
      show (resolved w' (ticked cfg now t row)).published ++ _ = _
      rw [hres.1, hpub]

/-- A tick in an aborted transaction publishes nothing. -/
lemma tick_aborted (cfg : Settings) (bus : Option EventBus) (now : Datetime) {row : Subscription}
    (hpd : row.status = .pastDue) (ha : s.aborted = true) :
    ((tick cfg bus now (.of row)).exec serve s w).state.aborted = true ∧
      ((tick cfg bus now (.of row)).exec serve s w).world.published = w.published := by
  obtain ⟨t, suffix, w', hw', hexec⟩ := exec_tick_publish (s := s) (w := w) cfg bus now hpd
  obtain ⟨r', hr'⟩ := exec_publishToRecipients_aborted (w := w')
    (s := { s with pending := s.pending ++ [.updateSubscription row (ticked cfg now t row)] }) bus suffix
    (ticked cfg now t row) ha
  rw [hexec, Outcome.next_state, Outcome.next_world, hr']
  refine ⟨ha, ?_⟩
  rcases hw' with rfl | rfl <;> rfl

theorem processEach_aborted (cfg : Settings) (bus : Option EventBus) (now : Datetime)
    (subs : List Subscription) (st : SweepStats) (hpd : ∀ row ∈ subs, row.status = .pastDue)
    (ha : s.aborted = true) :
    ((processEach cfg bus now st subs).exec serve s w).state.aborted = true ∧
      ((processEach cfg bus now st subs).exec serve s w).world.published = w.published := by
  induction subs generalizing st s w with
  | nil => exact ⟨ha, rfl⟩
  | cons row subs ih =>
    obtain ⟨st₁, hcons⟩ := exec_processEach_cons (s := s) (w := w) cfg bus now row subs st
    obtain ⟨ha₁, hp₁⟩ := tick_aborted (s := s) (w := w) cfg bus now (hpd row List.mem_cons_self) ha
    obtain ⟨ha₂, hp₂⟩ := ih (s := ((tick cfg bus now (.of row)).exec serve s w).state)
      (w := ((tick cfg bus now (.of row)).exec serve s w).world) st₁
      (fun x hx => hpd x (List.mem_cons_of_mem _ hx)) ha₁
    rw [hcons]
    exact ⟨ha₂, hp₂.trans hp₁⟩

/-- What a sweep has published when it comes to its commit. -/
structure Spoken (w : World S) (subs : List Subscription) (s' : Session) (w' : World S)
    (events : List Event) : Prop where
  published : w'.published = w.published ++ events
  announced : ∀ e ∈ events, ∃ c ∈ s'.pending, Announces c e
  silent : events = [] ↔
    ∀ i < openings w.db w.env.dbFails w.dbCalls subs, w.env.busFails (w.busCalls + i) = true
  resolved : s'.aborted = false ↔ ∀ n < trips subs, w.env.dbFails (w.dbCalls + n) = false
  dbCalls : s'.aborted = false → w'.dbCalls = w.dbCalls + trips subs

section Count

variable {row : Subscription} {subs : List Subscription}

lemma openings_resolved (h : ¬Unresolved w row) :
    openings w.db w.env.dbFails w.dbCalls (row :: subs) = (if audience w.db row = [] then 0 else 1) +
      openings w.db w.env.dbFails (resolved w row).dbCalls subs := by
  conv_lhs => unfold openings
  unfold resolved
  by_cases ht : row.tenantId = none
  · have hnobody : audience w.db row = [] := by simp [audience, ht]
    rw [if_pos ht, if_pos ht, if_pos hnobody, Nat.zero_add]
  · have hup : ¬w.env.dbFails w.dbCalls = true := fun hf => h ⟨ht, hf⟩
    rw [if_neg ht, if_neg ht, if_neg hup]
    rfl

lemma openings_unresolved (h : Unresolved w row) :
    openings w.db w.env.dbFails w.dbCalls (row :: subs) = 0 := by
  unfold openings
  rw [if_neg h.1, if_pos h.2]

lemma trips_resolved (subs : List Subscription) (h : ¬Unresolved w row) :
    (resolved w row).dbCalls + trips subs = w.dbCalls + trips (row :: subs) ∧
      ((∀ n < trips subs, w.env.dbFails ((resolved w row).dbCalls + n) = false) ↔
        ∀ n < trips (row :: subs), w.env.dbFails (w.dbCalls + n) = false) := by
  have hcons : trips (row :: subs) = if row.tenantId = none then trips subs else trips subs + 1 := rfl
  rw [hcons]
  unfold resolved
  by_cases ht : row.tenantId = none
  · rw [if_pos ht, if_pos ht]
    exact ⟨rfl, Iff.rfl⟩
  · have hup : w.env.dbFails w.dbCalls = false := by
      by_contra hf
      exact h ⟨ht, by simpa using hf⟩
    rw [if_neg ht, if_neg ht]
    have hshift : ∀ n, w.queried.dbCalls + n = w.dbCalls + (n + 1) := by
      intro n
      show w.dbCalls + 1 + n = _
      omega
    refine ⟨hshift _, fun hrest => Nat.forall_lt_succ_left.2 ⟨hup, fun n hn => ?_⟩, fun hall n hn => ?_⟩
    · rw [← hshift]
      exact hrest n hn
    · rw [hshift]
      exact hall (n + 1) (by omega)

/-- The round trips of the rest of the ticks, counted from before a tick that was resolved. -/
lemma Spoken.after {w₁ w' : World S} {s' : Session} {events : List Event} (h : Spoken w₁ subs s' w' events)
    (hquery : ¬Unresolved w row) (henv : w₁.env = w.env) (hcalls : w₁.dbCalls = (Billing.resolved w row).dbCalls) :
    (s'.aborted = false ↔ ∀ n < trips (row :: subs), w.env.dbFails (w.dbCalls + n) = false) ∧
      (s'.aborted = false → w'.dbCalls = w.dbCalls + trips (row :: subs)) := by
  obtain ⟨hsum, htrips⟩ := trips_resolved subs hquery
  rw [← hsum, ← htrips, h.resolved, henv, hcalls]
  refine ⟨Iff.rfl, fun hup => ?_⟩
  rw [← hcalls]
  exact h.dbCalls (h.resolved.2 (by rwa [henv, hcalls]))

variable {w₁ w' : World S} {s' : Session} {events : List Event}

/-- No row is due. -/
lemma Spoken.nil (ha : s.aborted = false) : Spoken w [] s w [] := by
  refine ⟨(List.append_nil _).symm, nofun, ?_, ?_, fun _ => rfl⟩
  · exact ⟨fun _ i hi => absurd hi (Nat.not_lt_zero i), fun _ => rfl⟩
  · exact ⟨fun _ n hn => absurd hn (Nat.not_lt_zero n), fun _ => ha⟩

/-- The first tick aborts the transaction. -/
lemma Spoken.unresolved (hquery : Unresolved w row) (ha : s'.aborted = true) (hpublished : w'.published = w.published) :
    Spoken w (row :: subs) s' w' [] := by
  have hnot : s'.aborted ≠ false := by
    rw [ha]
    exact Bool.noConfusion
  refine ⟨by rw [List.append_nil, hpublished], nofun, ?_, iff_of_false hnot ?_, fun hno => absurd hno hnot⟩
  · rw [openings_unresolved hquery]
    exact ⟨fun _ i hi => absurd hi (Nat.not_lt_zero i), fun _ => rfl⟩
  · intro hup
    have htrips : trips (row :: subs) = trips subs + 1 := if_neg hquery.1
    have hfirst : w.env.dbFails (w.dbCalls + 0) = false := hup 0 (by omega)
    rw [Nat.add_zero, hquery.2] at hfirst
    cases hfirst

/-- The first tick has nobody to tell. -/
lemma Spoken.nobody (h : Spoken w₁ subs s' w' events) (henv : w₁.env = w.env) (hdb : w₁.db = w.db)
    (hquery : ¬Unresolved w row) (hnobody : audience w.db row = []) (hpublished : w₁.published = w.published)
    (hdbCalls : w₁.dbCalls = (Billing.resolved w row).dbCalls) (hbusCalls : w₁.busCalls = w.busCalls) :
    Spoken w (row :: subs) s' w' events := by
  obtain ⟨hresolved, hcalls⟩ := h.after hquery henv hdbCalls
  refine ⟨by rw [h.published, hpublished], h.announced, ?_, hresolved, hcalls⟩
  have hsilent := h.silent
  rw [hdb, henv, hdbCalls, hbusCalls] at hsilent
  rw [openings_resolved hquery, if_pos hnobody, Nat.zero_add]
  exact hsilent

/-- Its first publication raises. -/
lemma Spoken.mute (h : Spoken w₁ subs s' w' events) (henv : w₁.env = w.env) (hdb : w₁.db = w.db)
    (hquery : ¬Unresolved w row) (haudience : audience w.db row ≠ []) (hfails : w.env.busFails w.busCalls = true)
    (hpublished : w₁.published = w.published) (hdbCalls : w₁.dbCalls = (Billing.resolved w row).dbCalls)
    (hbusCalls : w₁.busCalls = w.busCalls + 1) : Spoken w (row :: subs) s' w' events := by
  obtain ⟨hresolved, hcalls⟩ := h.after hquery henv hdbCalls
  refine ⟨by rw [h.published, hpublished], h.announced, ?_, hresolved, hcalls⟩
  have hsilent := h.silent
  rw [hdb, henv, hdbCalls, hbusCalls] at hsilent
  rw [openings_resolved hquery, if_neg haudience, Nat.add_comm, Nat.forall_lt_succ_left, hsilent]
  constructor
  · intro hall
    refine ⟨hfails, fun i hi => ?_⟩
    rw [← Nat.add_assoc, Nat.add_right_comm]
    exact hall i hi
  · rintro ⟨-, hall⟩ i hi
    rw [Nat.add_right_comm, Nat.add_assoc]
    exact hall i hi

/-- Somebody is told; the rest of the ticks does not take back what is to be written. -/
lemma Spoken.told (h : Spoken w₁ subs s' w' events) (henv : w₁.env = w.env) (hquery : ¬Unresolved w row)
    (haudience : audience w.db row ≠ []) (hgoes : w.env.busFails w.busCalls = false) {s₁ : Session} {told : List Event}
    (hpublished : w₁.published = w.published ++ told) (hsome : told ≠ [])
    (hannounced : ∀ e ∈ told, ∃ c ∈ s₁.pending, Announces c e) (hpending : s₁.pending ⊆ s'.pending)
    (hdbCalls : w₁.dbCalls = (Billing.resolved w row).dbCalls) : Spoken w (row :: subs) s' w' (told ++ events) := by
  obtain ⟨hresolved, hcalls⟩ := h.after hquery henv hdbCalls
  refine ⟨by rw [h.published, hpublished, List.append_assoc], fun e he => ?_, ?_, hresolved, hcalls⟩
  · rcases List.mem_append.1 he with he | he
    · obtain ⟨c, hc, hce⟩ := hannounced e he
      exact ⟨c, hpending hc, hce⟩
    · exact h.announced e he
  · rw [openings_resolved hquery, if_neg haudience, Nat.add_comm]
    refine iff_of_false (fun hnil => hsome (List.append_eq_nil_iff.1 hnil).1) fun hall => ?_
    have hfirst : w.env.busFails (w.busCalls + 0) = true := hall 0 (by omega)
    rw [Nat.add_zero, hgoes] at hfirst
    cases hfirst

end Count

/-- **The ticks of a sweep**, with a bus and every fault. -/
theorem processEach_spoken (cfg : Settings) (bus : EventBus) (now : Datetime) (subs : List Subscription)
    (st : SweepStats) (hpd : ∀ row ∈ subs, row.status = .pastDue) (ht : s.tenant = none)
    (ha : s.aborted = false) :
    ∃ events, Spoken w subs ((processEach cfg (some bus) now st subs).exec serve s w).state
      ((processEach cfg (some bus) now st subs).exec serve s w).world events := by
  induction subs generalizing st s w with
  | nil => exact ⟨[], .nil ha⟩
  | cons row subs ih =>
    obtain ⟨st₁, hcons⟩ := exec_processEach_cons (s := s) (w := w) cfg (some bus) now row subs st
    obtain ⟨c, -, hadd⟩ := exec_tick (s := s) (w := w) cfg (some bus) now (hpd row List.mem_cons_self)
    have htold := tick_told (w := w) cfg bus now (hpd row List.mem_cons_self) ht ha
    have hpd' : ∀ x ∈ subs, x.status = .pastDue := fun x hx => hpd x (List.mem_cons_of_mem _ hx)
    rw [hcons]
    generalize (tick cfg (some bus) now (.of row)).exec serve s w = o₁ at htold hadd
    obtain ⟨r₁, s₁, w₁⟩ := o₁
    -- what the rest of the ticks publishes, if the first one left the transaction alive
    have hrest : s₁.aborted = false → ∃ events, Spoken w₁ subs
        ((processEach cfg (some bus) now st₁ subs).exec serve s₁ w₁).state
        ((processEach cfg (some bus) now st₁ subs).exec serve s₁ w₁).world events :=
      fun ha₁ => ih (w := w₁) st₁ hpd' (hadd.tenant.trans ht) ha₁
    have henv : w₁.env = w.env := hadd.env
    have hdb : w₁.db = w.db := hadd.db
    cases htold with
    | unresolved hquery haborted hpublished =>
      obtain ⟨ha₂, hp₂⟩ := processEach_aborted (s := s₁) (w := w₁) cfg (some bus) now subs st₁ hpd' haborted
      exact ⟨[], .unresolved hquery ha₂ (hp₂.trans hpublished)⟩
    | nobody hquery hnobody haborted hpublished hdbCalls hbusCalls =>
      obtain ⟨events, h⟩ := hrest haborted
      exact ⟨events, h.nobody henv hdb hquery hnobody hpublished hdbCalls hbusCalls⟩
    | mute hquery haudience hfails haborted hpublished hdbCalls hbusCalls =>
      obtain ⟨events, h⟩ := hrest haborted
      exact ⟨events, h.mute henv hdb hquery haudience hfails hpublished hdbCalls hbusCalls⟩
    | told hquery haudience hgoes haborted told hpublished hsome hannounced hdbCalls =>
      obtain ⟨events, h⟩ := hrest haborted
      obtain ⟨cs, -, -, -, hadded⟩ := exec_processEach (s := s₁) (w := w₁) cfg (some bus) now subs st₁ hpd'
      have hpending : s₁.pending ⊆ ((processEach cfg (some bus) now st₁ subs).exec serve s₁ w₁).state.pending := by
        rw [hadded.pending]
        exact List.subset_append_left _ _
      exact ⟨told ++ events, h.told henv hquery haudience hgoes hpublished hsome hannounced hpending hdbCalls⟩

/-! ### The sweep -/

/-- The faults that leave no event of a sweep without its change: the due rows are not found, no
publication goes through, or nothing on the way to the commit fails. -/
def SweepSound (cfg : Settings) (db : Db S) (env : Env) : Prop :=
  env.dbFails 0 = true ∨
  (∀ i < openings db env.dbFails 1 (dueRows db (env.clock 0)), env.busFails i = true) ∨
  (∀ n < trips (dueRows db (env.clock 0)) + 2, env.dbFails n = false) ∧
    ∀ x ∈ dueRows db (env.clock 0), cfg.dunningMaxAttempts ≤ x.failedPaymentCount →
      S.accepts .suspended = true

/-- The commit of a sweep is reached and goes through if no round trip fails and the schema admits the ticks. -/
lemma commits_iff {db : Db S} {env : Env} {s' : Session} {w' : World S} {cs : List Change}
    (hselect : env.dbFails 0 = false) (hcs : List.Forall₂ (TickOf cfg (env.clock 0)) (dueRows db (env.clock 0)) cs)
    (hdb : w'.db = db) (henv : w'.env = env) (hpending : s'.pending = cs)
    (hresolved : s'.aborted = false ↔ ∀ n < trips (dueRows db (env.clock 0)), env.dbFails (1 + n) = false)
    (hcalls : s'.aborted = false → w'.dbCalls = 1 + trips (dueRows db (env.clock 0))) :
    (s'.aborted = false ∧ w'.env.dbFails w'.dbCalls = false ∧ ∃ ids d, w'.db.commit s'.pending = .ok (ids, d)) ↔
      (∀ n < trips (dueRows db (env.clock 0)) + 2, env.dbFails n = false) ∧
        ∀ x ∈ dueRows db (env.clock 0), cfg.dunningMaxAttempts ≤ x.failedPaymentCount →
          S.accepts .suspended = true := by
  rw [hdb, hpending, henv]
  constructor
  · rintro ⟨ha, hf, ids, d, hc⟩
    refine ⟨Nat.forall_lt_succ_left.2 ⟨hselect, fun n hn => ?_⟩, fun x hx hl =>
      accepts_of_commit hcs hc hx hl⟩
    rw [hcalls ha] at hf
    rcases Nat.lt_succ_iff_lt_or_eq.1 hn with hlt | rfl
    · rw [Nat.add_comm]
      exact hresolved.1 ha n hlt
    · rw [Nat.add_comm]
      exact hf
  · rintro ⟨hup, hacc⟩
    have ha : s'.aborted = false := hresolved.2 fun n hn => hup (1 + n) (by omega)
    refine ⟨ha, ?_, commit_ticks hcs hacc⟩
    rw [hcalls ha]
    exact hup _ (by omega)

/-- A sweep whose first query went through, when it comes to its commit. -/
structure Reached (cfg : Settings) (db : Db S) (env : Env) (st : SweepStats) (s' : Session) (w' : World S)
    (cs : List Change) (events : List Event) : Prop where
  run : sweep cfg db env = finish ⟨.ok st, s', w'⟩
  counts : ((processEach cfg (some {}) (env.clock 0) ⟨(dueRows db (env.clock 0)).length, 0, 0, 0⟩
    (dueRows db (env.clock 0))).exec serve {} (World.start db env).ticked.queried).result = .ok st
  ticks : List.Forall₂ (TickOf cfg (env.clock 0)) (dueRows db (env.clock 0)) cs
  unwritten : w'.db = db
  log : w'.log = []
  pending : s'.pending = cs
  spoken : Spoken (World.start db env).ticked.queried (dueRows db (env.clock 0)) s' w' events
  through : (s'.aborted = false ∧ w'.env.dbFails w'.dbCalls = false ∧ ∃ ids d, w'.db.commit s'.pending = .ok (ids, d)) ↔
    (∀ n < trips (dueRows db (env.clock 0)) + 2, env.dbFails n = false) ∧
      ∀ x ∈ dueRows db (env.clock 0), cfg.dunningMaxAttempts ≤ x.failedPaymentCount → S.accepts .suspended = true

theorem sweep_reached (cfg : Settings) {db : Db S} {env : Env} (hselect : env.dbFails 0 = false) :
    ∃ st s' w' cs events, Reached cfg db env st s' w' cs events := by
  have hpd : ∀ row ∈ dueRows db (env.clock 0), row.status = .pastDue := fun row h => status_of_mem_dueRows h
  obtain ⟨cs, st, hcs, hres, hadd⟩ := exec_processEach (s := {})
    (w := (World.start db env).ticked.queried) cfg (some {}) (env.clock 0) (dueRows db (env.clock 0))
    ⟨(dueRows db (env.clock 0)).length, 0, 0, 0⟩ hpd
  obtain ⟨events, h⟩ := processEach_spoken (s := {}) (w := (World.start db env).ticked.queried) cfg {}
    (env.clock 0) (dueRows db (env.clock 0)) ⟨(dueRows db (env.clock 0)).length, 0, 0, 0⟩ hpd rfl rfl
  have hrun := exec_sweep cfg db env
  rw [hselect, if_neg Bool.false_ne_true] at hrun
  refine ⟨st, _, _, cs, events, ?_, hres, hcs, hadd.db, hadd.log, hadd.pending, h, ?_⟩
  · rw [hrun, ← hres]
  · exact commits_iff hselect hcs hadd.db hadd.env hadd.pending h.resolved h.dbCalls

theorem sweep_noPhantom_iff (cfg : Settings) (db : Db S) (env : Env) :
    NoPhantom (sweep cfg db env).world ↔ SweepSound cfg db env := by
  unfold SweepSound
  cases hselect : env.dbFails 0 with
  | true =>
    rw [exec_sweep, hselect]
    refine ⟨fun _ => .inl rfl, fun _ => ?_⟩
    exact fun e he => by cases he
  | false =>
  obtain ⟨st, s', w', cs, events, hreached⟩ := sweep_reached cfg hselect
  rw [hreached.run]
  have h := hreached.spoken
  have hlog := hreached.log
  have hpublished : w'.published = events := h.published
  have hsilent : events = [] ↔ ∀ i < openings db env.dbFails 1 (dueRows db (env.clock 0)),
      env.busFails i = true := by
    have hs := h.silent
    simpa only [World.ticked, World.queried, World.start, Nat.zero_add] using hs
  have hthrough := hreached.through
  rcases finish_ok st s' w' with ⟨ids, d, ha, hf, hc, heq⟩ | ⟨hno, e, s'', w'', heq, hframe, hpub⟩
  · -- the commit goes through, and with it everything announced
    rw [heq]
    refine ⟨fun _ => .inr (.inr (hthrough.1 ⟨ha, hf, ids, d, hc⟩)), fun _ e he => ?_⟩
    have he' : e ∈ events := by
      rw [← hpublished]
      exact he
    obtain ⟨c, hc', hce⟩ := h.announced e he'
    exact ⟨(s'.pending, d), by simp [World.committed], c, hc', hce⟩
  · -- nothing is committed
    have hlog' : w''.log = [] := hframe.log.trans hlog
    have hpub' : w''.published = events := hpub.trans hpublished
    rw [heq]
    constructor
    · intro hall
      refine .inr (.inl (hsilent.1 (List.eq_nil_iff_forall_not_mem.2 fun e he => ?_)))
      obtain ⟨entry, hentry, -⟩ := hall e (by rw [hpub']; exact he)
      rw [hlog'] at hentry
      cases hentry
    · rintro (hfalse | hmute | hgoes) e he
      · cases hfalse
      · rw [hpub', hsilent.2 hmute] at he
        cases he
      · exact absurd (hthrough.2 hgoes) hno

/-! ### The handlers -/

/-- The faults that leave no event of a failed payment without its change. -/
def FailureSound (db : Db S) (tenant : Option ℤ) (env : Env) (bus : Option EventBus) (obj : Value) : Prop :=
  bus = none ∨ ∀ x, Records (World.start db env) tenant obj x →
    Silent (World.start db env).queried.ticked x ∨ Clear (World.start db env).queried.ticked x

/-- The faults that leave no event of a recovery without its change. -/
def PaymentSound (db : Db S) (tenant : Option ℤ) (env : Env) (bus : Option EventBus) (invoiceId : ℤ) :
    Prop :=
  bus = none ∨ ∀ inv x, Pays (World.start db env) tenant invoiceId inv x →
    Silent (World.start db env).queried.ticked.queried x ∨
      Clear (World.start db env).queried.ticked.queried x

lemma noPhantom_of_silent (h : w.published = []) : NoPhantom w := by
  intro e he
  rw [h] at he
  cases he

section Handlers

variable {db : Db S} {tenant : Option ℤ} {env : Env}
  (hS : ∀ st : SubscriptionStatus, st.isLive = true → S.accepts st = true)

include hS

theorem handlePaymentFailed_noPhantom_iff (cfg : Settings) (obj : Value) (bus : Option EventBus) :
    NoPhantom ((handlePaymentFailed cfg obj bus : Py S String).exec serve { tenant := tenant }
      (World.start db env)).world ↔ FailureSound db tenant env bus obj := by
  unfold FailureSound
  cases bus with
  | none =>
    refine ⟨fun _ => .inl rfl, fun _ => noPhantom_of_silent ?_⟩
    exact Says.silent (says_handlePaymentFailed obj (.inl rfl)) _ _
  | some bus =>
    have hbus : ¬some bus = none := by simp
    rw [or_iff_right hbus]
    by_cases hx : ∃ x, Records (World.start db env) tenant obj x
    · obtain ⟨x, hx⟩ := hx
      obtain ⟨d', hd', -⟩ := commit_failed cfg hS ((World.start db env).env.clock 0) hx.mem hx.2.2
      have hrun := exec_handlePaymentFailed (s := { tenant := tenant }) cfg bus rfl rfl hx
      rw [hrun.noPhantom_iff_clear (List.mem_singleton_self _) rfl rfl ⟨_, _, hd'⟩]
      constructor
      · intro h x' hx'
        rw [hx'.unique hx]
        exact h
      · intro hall
        exact hall x hx
    · have hnone : ∀ x, ¬Records (World.start db env) tenant obj x := fun x h => hx ⟨x, h⟩
      refine ⟨fun _ x h => absurd h (hnone x), fun _ => noPhantom_of_silent ?_⟩
      exact (exec_handlePaymentFailed_idle (s := { tenant := tenant }) cfg bus rfl hnone).2

theorem markPaid_noPhantom_iff (invoiceId : ℤ) (bus : Option EventBus) :
    NoPhantom ((markPaid invoiceId bus : Py S Invoice).exec serve { tenant := tenant }
      (World.start db env)).world ↔ PaymentSound db tenant env bus invoiceId := by
  unfold PaymentSound
  cases bus with
  | none =>
    refine ⟨fun _ => .inl rfl, fun _ => noPhantom_of_silent ?_⟩
    exact Says.silent (says_markPaid invoiceId) _ _
  | some bus =>
    have hbus : ¬some bus = none := by simp
    rw [or_iff_right hbus]
    by_cases hx : ∃ inv x, Pays (World.start db env) tenant invoiceId inv x
    · obtain ⟨inv, x, hx⟩ := hx
      have hcommit := commit_recovered hS ((World.start db env).env.clock 0)
        (List.mem_filter.1 (scalarOneOrNone_some hx.found)).1 hx.payable
        (List.mem_filter.1 (scalarOneOrNone_some hx.settles.found)).1 hx.settles.dunning
      have hrun := exec_markPaid (s := { tenant := tenant }) bus rfl rfl hx
      rw [hrun.noPhantom_iff_clear (List.mem_cons_of_mem _ (List.mem_singleton_self _)) rfl rfl hcommit]
      -- a recovery leaves the tenant, and so the recipients, as they are
      have hsame : (Silent (World.start db env).queried.ticked.queried (recovered x) ↔
          Silent (World.start db env).queried.ticked.queried x) ∧
          (Clear (World.start db env).queried.ticked.queried (recovered x) ↔
            Clear (World.start db env).queried.ticked.queried x) := by
        unfold Silent Clear Unresolved audience resolved
        rw [(recovered_keeps x).2.1]
        exact ⟨Iff.rfl, Iff.rfl⟩
      rw [hsame.1, hsame.2]
      constructor
      · intro h inv' x' hx'
        rw [hx'.unique hx]
        exact h
      · intro hall
        exact hall inv x hx
    · have hnone : ∀ inv x, ¬Pays (World.start db env) tenant invoiceId inv x :=
        fun inv x h => hx ⟨inv, x, h⟩
      refine ⟨fun _ inv x h => absurd h (hnone inv x), fun _ => noPhantom_of_silent ?_⟩
      exact exec_markPaid_idle (s := { tenant := tenant }) bus rfl rfl hnone

end Handlers

/-- **No phantom notifications.** Under a schema that accepts the live statuses, a run of the sweep, of
`handle_payment_failed` or of `mark_paid` publishes only events of changes that it commits, exactly under
the faults named: nobody is told, or nothing fails between the first publication and the end of the
commit. -/
theorem notifications_committed_iff
    (hS : ∀ st : SubscriptionStatus, st.isLive = true → S.accepts st = true) (cfg : Settings) (db : Db S)
    (tenant : Option ℤ) (env : Env) :
    (NoPhantom (sweep cfg db env).world ↔ SweepSound cfg db env) ∧
    (∀ obj bus, NoPhantom ((handlePaymentFailed cfg obj bus : Py S String).exec serve
      { tenant := tenant } (World.start db env)).world ↔ FailureSound db tenant env bus obj) ∧
    ∀ invoiceId bus, NoPhantom ((markPaid invoiceId bus : Py S Invoice).exec serve
      { tenant := tenant } (World.start db env)).world ↔ PaymentSound db tenant env bus invoiceId :=
  ⟨sweep_noPhantom_iff cfg db env, fun obj bus => handlePaymentFailed_noPhantom_iff hS cfg obj bus,
    fun invoiceId bus => markPaid_noPhantom_iff hS invoiceId bus⟩

/-- An environment in which one round trip to the database fails. -/
def Sample.failing (n : ℕ) : Env := { Sample.env 1000 with dbFails := fun k => k == n }

/-- The theorem for a sweep whose commit fails. -/
theorem notifications_committed_iff_failing :
    NoPhantom (sweep Sample.settings Sample.owed (Sample.failing 2)).world ↔
      SweepSound Sample.settings Sample.owed (Sample.failing 2) :=
  (notifications_committed_iff (fun _ _ => rfl) Sample.settings Sample.owed none (Sample.failing 2)).1

lemma phantom_of_uncommitted (hp : w.published.length ≠ 0) (hl : w.log.length = 0) : ¬NoPhantom w := by
  intro h
  rcases hpub : w.published with _ | ⟨e, events⟩
  · rw [hpub] at hp
    exact hp rfl
  · obtain ⟨entry, hentry, -⟩ := h e (by rw [hpub]; exact List.mem_cons_self)
    rw [List.length_eq_zero_iff.1 hl] at hentry
    cases hentry

/-- In each of the three the last round trip but none before it fails, and the tenant's user is told of a
change that is not there. -/
theorem uncommitted_notifications :
    ¬NoPhantom (sweep Sample.settings Sample.owed (Sample.failing 2)).world ∧
    ¬NoPhantom ((handlePaymentFailed Sample.settings (.dict [("subscription", .str "sub_1")]) (some {}) :
      Py .metadata String).exec serve {} (World.start Sample.owed (Sample.failing 2))).world ∧
    ¬NoPhantom ((markPaid 1 (some {}) : Py .metadata Invoice).exec serve {}
      (World.start Sample.owed (Sample.failing 3))).world := by
  refine ⟨phantom_of_uncommitted ?_ ?_, phantom_of_uncommitted ?_ ?_, phantom_of_uncommitted ?_ ?_⟩ <;>
    decide +kernel

end FastapiTemplate.Billing
