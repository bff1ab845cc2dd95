import FastapiTemplate.Billing.Dunning
import FastapiTemplate.Core.Exec

/-!
# Publishing inside a transaction

The run of `_publish_to_recipients` with every fault: the recipients' query may fail, and the
publications go through up to the first one that raises. `announce_commit` is the pattern that the
dunning services share, publish first and commit afterwards.
-/

namespace FastapiTemplate.Billing

open Core Database Effects Script

variable {S : Schema} {α : Type} {s : Session} {w : World S}

/-! ### A run of publications -/

/-- How many of `n` publications go through, from the call `i` on, before one raises. -/
def sent (fails : ℕ → Bool) : ℕ → ℕ → ℕ
  | _, 0 => 0
  | i, n + 1 => if fails i then 0 else sent fails (i + 1) n + 1

section Sent

variable {fails : ℕ → Bool} {i n : ℕ}

/-- All go through exactly if none of the calls raises. -/
theorem sent_eq_iff : sent fails i n = n ↔ ∀ k < n, fails (i + k) = false := by
  induction n generalizing i with
  | zero => simp [sent]
  | succ n ih =>
    unfold sent
    cases hf : fails i with
    | true =>
      constructor
      · intro h
        have hzero : (0 : ℕ) = n + 1 := h
        omega
      · intro h
        have hfirst : fails (i + 0) = false := h 0 (by omega)
        rw [Nat.add_zero, hf] at hfirst
        cases hfirst
    | false =>
      rw [if_neg Bool.false_ne_true, Nat.add_right_cancel_iff, ih]
      constructor
      · intro h k hk
        cases k with
        | zero => exact hf
        | succ k =>
          have hstep : fails (i + 1 + k) = false := h k (by omega)
          rwa [show i + (k + 1) = i + 1 + k by omega]
      · intro h k hk
        have hstep : fails (i + (k + 1)) = false := h (k + 1) (by omega)
        rwa [show i + 1 + k = i + (k + 1) by omega]

/-- None goes through exactly if there is none, or the first raises. -/
lemma sent_eq_zero : sent fails i n = 0 ↔ n = 0 ∨ fails i = true := by
  cases n with
  | zero => simp [sent]
  | succ n =>
    unfold sent
    cases fails i <;> simp

end Sent

/-- The events for some recipients. -/
def notices (suffix : String) (sub : Subscription) (uids : List ℤ) : List Event :=
  uids.map fun uid => dunningEvent suffix sub (some uid)

lemma announced_nil (w : World S) : w.announced [] 0 = w := by simp [World.announced]

lemma announced_announced (w : World S) (es es' : List Event) (m n : ℕ) :
    (w.announced es m).announced es' n = w.announced (es ++ es') (m + n) := by
  simp [World.announced, Nat.add_assoc]

/-- **The loop of `_publish_to_recipients`.** -/
theorem exec_publishEach (bus : EventBus) (suffix : String) (sub : Subscription) (uids : List ℤ) :
    (publishEach bus suffix sub uids : Py S Unit).exec serve s w =
      let j := sent w.env.busFails w.busCalls uids.length
      if j = uids.length then ⟨.ok (), s, w.announced (notices suffix sub uids) uids.length⟩
      else ⟨.error .bus, s, w.announced (notices suffix sub (uids.take j)) (j + 1)⟩ := by
  induction uids generalizing w with
  | nil =>
    show (⟨.ok (), s, w⟩ : Outcome Session Exn (World S) Unit) = ⟨.ok (), s, w.announced [] 0⟩
    rw [announced_nil]
  | cons uid uids ih =>
    unfold publishEach
    rw [exec_bind, exec_publish]
    cases hf : w.env.busFails w.busCalls with
    | true =>
      have hzero : sent w.env.busFails w.busCalls (uid :: uids).length = 0 := by simp [sent, hf]
      rw [if_pos rfl, Outcome.next_error, hzero]
      rfl
    | false =>
      have hsucc : sent w.env.busFails w.busCalls (uid :: uids).length
          = sent w.env.busFails (w.busCalls + 1) uids.length + 1 := by simp [sent, hf]
      rw [if_neg Bool.false_ne_true, Outcome.next_ok, ih, hsucc]
      have henv : (w.announced [dunningEvent suffix sub (some uid)] 1).env = w.env := rfl
      have hcalls : (w.announced [dunningEvent suffix sub (some uid)] 1).busCalls = w.busCalls + 1 := rfl
      simp only [henv, hcalls, List.length_cons, Nat.add_right_cancel_iff, announced_announced,
        List.take_succ_cons, notices, List.map_cons, List.singleton_append]
      split
      · rw [Nat.add_comm]
      · rw [Nat.add_comm 1]

/-! ### The recipients -/

/-- The active users of the tenant of a subscription. -/
def audience (d : Db S) (sub : Subscription) : List ℤ :=
  match sub.tenantId with
  | none => []
  | some t => (activeUsers d.users.rows t).map User.id

/-- The recipients' query is not made for a subscription without a tenant. -/
def resolved (w : World S) (sub : Subscription) : World S :=
  if sub.tenantId = none then w else w.queried

/-- The recipients' query fails. -/
def Unresolved (w : World S) (sub : Subscription) : Prop :=
  sub.tenantId ≠ none ∧ w.env.dbFails w.dbCalls = true

instance (w : World S) (sub : Subscription) : Decidable (Unresolved w sub) :=
  inferInstanceAs (Decidable (_ ∧ _))

/-- In the tenant context of a subscription all users of its tenant are visible. -/
lemma filter_visible {current : Option ℤ} {t : ℤ} (h : visible current (some t) = true)
    (users : List User) :
    (users.filter fun u => visible current u.tenantId && (u.tenantId == some t && u.isActive))
      = activeUsers users t := by
  unfold activeUsers
  refine List.filter_congr fun u _ => ?_
  by_cases hu : u.tenantId = some t
  · rw [hu, h]
    simp
  · have hne : (u.tenantId == some t) = false := by simpa using hu
    simp [hne]

theorem exec_resolveRecipients {sub : Subscription} (ha : s.aborted = false)
    (hv : visible s.tenant sub.tenantId = true) :
    (resolveRecipients sub.tenantId : Py S (List ℤ)).exec serve s w =
      if Unresolved w sub then ⟨.error .operationalError, { s with aborted := true }, w.queried⟩
      else ⟨.ok (audience w.db sub), s, resolved w sub⟩ := by
  rcases ht : sub.tenantId with _ | t
  · simp [resolveRecipients, Unresolved, audience, resolved, ht]
  · rw [ht] at hv
    simp only [resolveRecipients, Unresolved, audience, resolved, ht, exec_bind, exec_select, ha,
      Bool.false_eq_true, if_false, ne_eq, reduceCtorEq, not_false_eq_true, true_and]
    split
    · rfl
    · rw [Outcome.next_ok, exec_pure, filter_visible hv]

/-- **`_publish_to_recipients` with a bus.** -/
theorem exec_publishToRecipients (bus : EventBus) (suffix : String) {sub : Subscription}
    (ha : s.aborted = false) (hv : visible s.tenant sub.tenantId = true) :
    (publishToRecipients (some bus) suffix sub : Py S ℕ).exec serve s w =
      if Unresolved w sub then ⟨.error .operationalError, { s with aborted := true }, w.queried⟩
      else
        let uids := audience w.db sub
        let j := sent w.env.busFails w.busCalls uids.length
        if j = uids.length then
          ⟨.ok uids.length, s, (resolved w sub).announced (notices suffix sub uids) uids.length⟩
        else ⟨.error .bus, s, (resolved w sub).announced (notices suffix sub (uids.take j)) (j + 1)⟩ := by
  have hcalls : (resolved w sub).busCalls = w.busCalls := by
    unfold resolved
    split <;> rfl
  have henv : (resolved w sub).env = w.env := by
    unfold resolved
    split <;> rfl
  unfold publishToRecipients
  rw [exec_bind, exec_resolveRecipients ha hv]
  split
  · rfl
  · rw [Outcome.next_ok, exec_bind, exec_publishEach]
    simp only [hcalls, henv]
    split <;> rfl

/-- In an aborted transaction nothing is published. -/
lemma exec_publishToRecipients_aborted (bus : Option EventBus) (suffix : String) (sub : Subscription)
    (ha : s.aborted = true) :
    ∃ r, (publishToRecipients bus suffix sub : Py S ℕ).exec serve s w = ⟨r, s, w⟩ := by
  cases bus with
  | none => exact ⟨.ok 0, rfl⟩
  | some bus =>
    unfold publishToRecipients
    rcases ht : sub.tenantId with _ | t
    · exact ⟨.ok 0, rfl⟩
    · refine ⟨.error .inFailedTransaction, ?_⟩
      simp only [resolveRecipients, exec_bind, exec_select, ha, if_true, Outcome.next_error]

/-! ### Publish, then commit -/

/-- Nothing is published: the recipients' query fails, there is no recipient, or the first publication
raises. -/
def Silent (w : World S) (sub : Subscription) : Prop :=
  Unresolved w sub ∨ audience w.db sub = [] ∨ w.env.busFails w.busCalls = true

/-- Neither a publication raises nor the round trip of the commit fails. -/
def Clear (w : World S) (sub : Subscription) : Prop :=
  (∀ k < (audience w.db sub).length, w.env.busFails (w.busCalls + k) = false) ∧
    w.env.dbFails (resolved w sub).dbCalls = false

/-- The commit is reached and goes through. -/
def Through (w : World S) (sub : Subscription) (cs : List Change) : Prop :=
  Clear w sub ∧ ∃ ids d, w.db.commit cs = .ok (ids, d)

/-- How it ends when the announcement of a change comes before its commit. -/
inductive Announcement (suffix : String) (sub : Subscription) (cs : List Change) (w w' : World S) :
    Prop where
  /-- The recipients are not found out. -/
  | unresolved (hquery : Unresolved w sub) (frame : Frame w w') (published : w'.published = w.published)
  /-- A publication raises or the commit fails. -/
  | cut (hquery : ¬Unresolved w sub) (hcut : ¬Through w sub cs) (frame : Frame w w')
      (published : w'.published = w.published ++ notices suffix sub
        ((audience w.db sub).take (sent w.env.busFails w.busCalls (audience w.db sub).length)))
  | through (hquery : ¬Unresolved w sub) (hthrough : Through w sub cs) (ids : List ℤ) (d : Db S)
      (commit : w.db.commit cs = .ok (ids, d)) (db : w'.db = d) (env : w'.env = w.env)
      (log : w'.log = w.log ++ [(cs, d)])
      (published : w'.published = w.published ++ notices suffix sub (audience w.db sub))

/-- **Publish, then commit.** What comes after the commit neither commits nor publishes. -/
theorem announce_commit (bus : EventBus) (suffix : String) {sub : Subscription}
    (ha : s.aborted = false) (hv : visible s.tenant sub.tenantId = true)
    {K : List ℤ → Session → World S → Outcome Session Exn (World S) α}
    (hK : ∀ ids s w, Frame w (K ids s w).world ∧ (K ids s w).world.published = w.published) :
    Announcement suffix sub s.pending w
      (((publishToRecipients (some bus) suffix sub : Py S ℕ).exec serve s w).next fun _ s w =>
        ((commit : Py S (List ℤ)).exec serve s w).next K).world := by
  have hframe : Frame w (resolved w sub) := by
    unfold resolved
    split
    · exact .refl w
    · exact .queried w
  have hpub : (resolved w sub).published = w.published := by
    unfold resolved
    split <;> rfl
  rw [exec_publishToRecipients bus suffix ha hv]
  by_cases hq : Unresolved w sub
  · rw [if_pos hq]
    exact .unresolved hq (.queried w) rfl
  rw [if_neg hq]
  by_cases hall : sent w.env.busFails w.busCalls (audience w.db sub).length = (audience w.db sub).length
  swap
  · -- a publication raises
    have hcut : ¬Through w sub s.pending := fun h => hall (sent_eq_iff.2 h.1.1)
    refine .cut hq hcut ?_ ?_ <;> simp only [if_neg hall, Outcome.next_error]
    · exact hframe.trans (.announced _ _ _)
    · rw [← hpub]
      rfl
  simp only [if_pos hall, Outcome.next_ok]
  generalize hw₁ : (resolved w sub).announced (notices suffix sub (audience w.db sub))
    (audience w.db sub).length = w₁
  have hframe₁ : Frame w w₁ := by
    rw [← hw₁]
    exact hframe.trans (.announced _ _ _)
  have hpub₁ : w₁.published = w.published ++ notices suffix sub (audience w.db sub) := by
    rw [← hw₁, ← hpub]
    rfl
  have hdb₁ : w₁.dbCalls = (resolved w sub).dbCalls := by rw [← hw₁]; rfl
  have htake : (audience w.db sub).take (sent w.env.busFails w.busCalls (audience w.db sub).length)
      = audience w.db sub := by rw [hall, List.take_length]
  rw [exec_commit, if_neg (by rw [ha]; exact Bool.false_ne_true), hframe₁.env, hframe₁.db, hdb₁]
  cases hfail : w.env.dbFails (resolved w sub).dbCalls with
  | true =>
    have hcut : ¬Through w sub s.pending := by
      intro h
      have hup := h.1.2
      rw [hfail] at hup
      cases hup
    refine .cut hq hcut (hframe₁.trans (.queried w₁)) ?_
    rw [htake]
    exact hpub₁
  | false =>
    rcases hc : w.db.commit s.pending with e | ⟨ids, d⟩
    · have hcut : ¬Through w sub s.pending := by
        rintro ⟨-, ids, d, h⟩
        rw [hc] at h
        cases h
      refine .cut hq hcut (hframe₁.trans (.queried w₁)) ?_
      rw [htake]
      exact hpub₁
    · obtain ⟨hf, hp⟩ := hK ids { s with pending := [] } (w₁.committed s.pending d)
      refine .through hq ⟨⟨sent_eq_iff.1 hall, hfail⟩, ids, d, hc⟩ ids d hc hf.db ?_ ?_ ?_
      · exact hf.env.trans hframe₁.env
      · refine hf.log.trans ?_
        show w₁.log ++ [(s.pending, d)] = _
        rw [hframe₁.log]
      · exact hp.trans hpub₁

end FastapiTemplate.Billing
