import FastapiTemplate.Billing.Writers
import FastapiTemplate.Core.Exec

/-!
# Taking a Stripe subscription over

`handle_subscription_sync` leaves the full new image of the row or the full old one. The new image is
in the database from the commit on, so a raise after it (the row is read back) finds it there. Status
and period go together when the handler answers `"synced"`; where the status is already the one of the
object, the handler answers `"unchanged"` and looks at nothing else (`sync_full_or_nothing`).
-/

namespace FastapiTemplate.Billing

open Core Database Python Effects Script

variable {S : Schema} {s : Session} {w : World S}

/-! ### The pieces of the handler -/

@[simp] lemma exec_statusFromStripe (obj : Value) :
    (statusFromStripe obj : Py S SubscriptionStatus).exec serve s w =
      ⟨statusAt (w.env.clock w.clockReads) obj, s, w.ticked⟩ := by
  unfold statusFromStripe
  rw [exec_bind, exec_datetimeNow, Outcome.next_ok, exec_ofExcept]

@[simp] lemma exec_periodFromStripe (obj : Value) :
    (periodFromStripe obj : Py S (Datetime × Datetime)).exec serve s w =
      ⟨liftBuiltin (periodAt (w.env.clock w.clockReads) obj), s, w.ticked⟩ := by
  unfold periodFromStripe
  rw [exec_bind, exec_datetimeNow, Outcome.next_ok, exec_ofExcept]

/-- At most the clock was read since `w`. -/
structure Waited (w w' : World S) : Prop where
  frame : Frame w w'
  calls : w'.dbCalls = w.dbCalls
  later : w.clockReads ≤ w'.clockReads

namespace Waited

lemma refl (w : World S) : Waited w w := ⟨.refl w, rfl, le_rfl⟩

lemma ticked (w : World S) : Waited w w.ticked := ⟨.ticked w, rfl, Nat.le_succ _⟩

end Waited

/-- Before the status is assigned, key and tenant of the row are as they were loaded. -/
lemma exec_syncBranch (target : SubscriptionStatus) (row : Subscription) :
    let o := (syncBranch target (.of row)).exec serve s w
    o.state = s ∧ Waited w o.world ∧
      ∀ sub, o.result = .ok sub → sub.loaded = row ∧ sub.cur.id = row.id ∧
        sub.cur.tenantId = row.tenantId := by
  have hreset : (resetDunning row).2.tenantId = row.tenantId := by
    unfold resetDunning
    split <;> rfl
  cases target with
  | trialing => exact ⟨rfl, .refl w, fun sub h => by cases h; exact ⟨rfl, rfl, rfl⟩⟩
  | suspended => exact ⟨rfl, .refl w, fun sub h => by cases h; exact ⟨rfl, rfl, rfl⟩⟩
  | canceled =>
    unfold syncBranch
    rw [exec_bind, exec_ofExcept]
    rcases assertTransition (Entity.of row).cur.status .canceled with e | u
    · exact ⟨rfl, .refl w, fun sub h => by cases h⟩
    · exact ⟨rfl, .ticked w, fun sub h => by cases h; exact ⟨rfl, rfl, rfl⟩⟩
  | pastDue =>
    unfold syncBranch
    rw [exec_bind, exec_ofExcept]
    rcases assertTransition (Entity.of row).cur.status .pastDue with e | u
    · exact ⟨rfl, .refl w, fun sub h => by cases h⟩
    · exact ⟨rfl, .refl w, fun sub h => by cases h; exact ⟨rfl, rfl, rfl⟩⟩
  | active =>
    unfold syncBranch
    rw [exec_bind, exec_ofExcept]
    rcases assertTransition (Entity.of row).cur.status .active with e | u
    · exact ⟨rfl, .refl w, fun sub h => by cases h⟩
    · refine ⟨rfl, .refl w, fun sub h => ?_⟩
      rw [Outcome.next_ok, exec_pure] at h
      cases h
      split
      · exact ⟨rfl, resetDunning_id row, hreset⟩
      · exact ⟨rfl, rfl, rfl⟩

/-! ### What is stored afterwards -/

/-- The row with the key of `x` has status and period of the object, read at the clock of the run. -/
def TakenOver (w w' : World S) (obj : Value) (x : Subscription) : Prop :=
  ∃ x', w'.db.subscriptions.get? x.id = some x' ∧
    (∃ k, w.clockReads ≤ k ∧ statusAt (w.env.clock k) obj = .ok x'.status) ∧
    ∃ k, w.clockReads ≤ k ∧
      periodAt (w.env.clock k) obj = .ok (x'.currentPeriodStart, x'.currentPeriodEnd)

/-- The image of a row in the session is stored by the commit. -/
lemma get?_committed {d d' : Db S} {x cur : Subscription} {ids : List ℤ} (hx : x ∈ d.subscriptions.rows)
    (hid : cur.id = x.id) (h : d.commit [.updateSubscription x cur] = .ok (ids, d')) :
    d'.subscriptions.get? x.id = some cur := by
  have hrows := flush_rows (Db.commit_ok h) fun c hc => by
    cases List.mem_singleton.1 hc
    rfl
  have hrew : rewrite [.updateSubscription x cur] x = cur := by
    simp [Change.rewrite, Subscription.writeBack_loaded hid]
  refine Store.Table.get?_eq_some.2 ⟨?_, hid⟩
  rw [Db.subscriptions, hrows]
  exact List.mem_map.2 ⟨x, hx, hrew⟩

/-- Committing the image of a row and reading the row back. -/
lemma exec_storeSynced (x cur : Subscription) (hs : s.pending = []) (ha : s.aborted = false)
    (hx : x ∈ w.db.subscriptions.rows) (hid : cur.id = x.id) (hvis : visible s.tenant cur.tenantId = true) :
    let o := ((do
      add (.updateSubscription x cur)
      tryCatch
        (do
          let _keys ← commit
          return ())
        fun e => do
          rollback
          throw (.conflict ("subscription sync failed: " ++ e.str))
      let _row ← refreshSubscription cur.id
      return "synced") : Py S String).exec serve s w
    (o.world.db = w.db ∧ ∃ e, o.result = .error e) ∨
      o.world.db.subscriptions.get? x.id = some cur ∧
        (o.result = .ok "synced" ∨
          w.env.dbFails (w.dbCalls + 1) = true ∧ ∃ e, o.result = .error e) := by
  simp only [exec_bind, exec_add, exec_tryCatch, exec_commit, hs, ha, List.nil_append, Outcome.next_ok,
    Bool.false_eq_true, if_false]
  by_cases hfail : w.env.dbFails w.dbCalls = true
  · rw [if_pos hfail]
    exact .inl ⟨rfl, _, rfl⟩
  rw [if_neg hfail]
  rcases hc : w.db.commit [.updateSubscription x cur] with e | ⟨ids, d⟩
  · exact .inl ⟨rfl, _, rfl⟩
  right
  have hget : d.subscriptions.get? x.id = some cur := get?_committed hx hid hc
  simp only [Outcome.next_ok, exec_pure, Outcome.rescue_ok]
  unfold refreshSubscription refresh
  rw [exec_bind, exec_select, if_neg (by simp)]
  by_cases hfail' : w.env.dbFails (w.dbCalls + 1) = true
  · rw [if_pos (by simpa [World.committed] using hfail')]
    exact ⟨hget, .inr ⟨hfail', _, rfl⟩⟩
  rw [if_neg (by simpa [World.committed] using hfail'), Outcome.next_ok]
  -- the row is there, and visible
  have hmem : cur ∈ d.subscriptions.rows.filter fun r => visible s.tenant r.tenantId && r.id == cur.id := by
    simp [hvis, (Store.Table.get?_eq_some.1 hget).1]
  rcases hf : d.subscriptions.rows.filter fun r => visible s.tenant r.tenantId && r.id == cur.id with _ | ⟨row, rows⟩
  · rw [hf] at hmem
    cases hmem
  · have hdb : (w.committed [.updateSubscription x cur] d).db = d := rfl
    simp only [hdb, hf]
    exact ⟨hget, .inl rfl⟩

/-- **What a sync leaves behind.** Nothing, or the full new image; and the latter without the answer
only if the row cannot be read back. -/
theorem sync_outcome {obj : Value} {x : Subscription} (hs : s.pending = []) (ha : s.aborted = false)
    (hx : x ∈ w.db.subscriptions.rows) (hname : Names .subscriptionUpdated obj x) :
    let o := (handleSubscriptionSync obj).exec serve s w
    (o.world.db = w.db ∧ o.result ≠ .ok "synced" ∧
      (o.result = .ok "unchanged" → ∃ k, w.clockReads ≤ k ∧ statusAt (w.env.clock k) obj = .ok x.status)) ∨
      TakenOver w o.world obj x ∧
        (o.result = .ok "synced" ∨ w.env.dbFails (w.dbCalls + 2) = true ∧ ∃ e, o.result = .error e) := by
  obtain ⟨key, hkey, hstripe⟩ := hname
  rcases hget : obj.get "id" (.str "") with e | v
  · simp [DomainEvent.reference, hget] at hkey
  have hv : v.toStr = key := by simpa [DomainEvent.reference, hget] using hkey
  unfold handleSubscriptionSync
  simp only [hget, liftBuiltin, exec_bind, exec_ofExcept, Outcome.next_ok]
  unfold getSubscriptionByStripeId
  rw [exec_selectOne _ _ _ ha]
  by_cases hfail : w.env.dbFails w.dbCalls = true
  · rw [if_pos hfail]
    exact .inl ⟨rfl, by simp, by simp⟩
  rw [if_neg hfail]
  rcases ho : scalarOneOrNone (w.db.subscriptions.rows.filter fun r =>
    visible s.tenant r.tenantId && r.stripeSubscriptionId == some v.toStr) with e | (_ | row) <;> rw [ho]
  · exact .inl ⟨rfl, by simp, by simp⟩
  · exact .inl ⟨rfl, by simp, by simp⟩
  -- the row found is the row the object names: Stripe ids are unique
  have hmem := List.mem_filter.1 (scalarOneOrNone_some ho)
  simp only [Bool.and_eq_true, beq_iff_eq] at hmem
  obtain ⟨hrow, hvis, hid⟩ := hmem
  have hsame : row = x := uniqueOn_inj w.db.constraints.stripe hrow hx hid (by rw [hstripe, hv])
  subst hsame
  simp only [Outcome.next_ok, exec_bind, exec_statusFromStripe]
  rcases hst : statusAt (w.queried.env.clock w.queried.clockReads) obj with e | target
  · exact .inl ⟨rfl, by simp, by simp⟩
  rw [Outcome.next_ok]
  by_cases hsame : target = row.status
  · rw [if_pos hsame]
    subst hsame
    exact .inl ⟨rfl, by simp, fun _ => ⟨w.clockReads, le_rfl, hst⟩⟩
  rw [if_neg hsame, exec_bind]
  obtain ⟨hstate, hwait, hsub⟩ := exec_syncBranch (s := s) (w := w.queried.ticked) target row
  rcases hb : (syncBranch target (.of row)).exec serve s w.queried.ticked with ⟨_ | sub, s', w'⟩ <;>
    rw [hb] at hstate hwait hsub <;> simp only at hstate hwait hsub <;> subst hstate
  · exact .inl ⟨hwait.frame.db, by simp, by simp⟩
  obtain ⟨hloaded, hsubid, hsubtenant⟩ := hsub sub rfl
  rw [Outcome.next_ok, exec_bind, exec_periodFromStripe]
  rcases hp : periodAt (w'.env.clock w'.clockReads) obj with e | ⟨periodStart, periodEnd⟩
  · exact .inl ⟨hwait.frame.db, by simp [liftBuiltin], by simp [liftBuiltin]⟩
  simp only [liftBuiltin, Outcome.next_ok]
  obtain ⟨loaded, cur⟩ := sub
  simp only at hloaded hsubid hsubtenant
  subst hloaded
  have hdb : w'.ticked.db = w.db := hwait.frame.db
  rcases exec_storeSynced (s := s') (w := w'.ticked) loaded
    { cur with status := target, currentPeriodStart := periodStart, currentPeriodEnd := periodEnd }
    hs ha (by rw [hdb]; exact hrow) hsubid (by rw [show _ = loaded.tenantId from hsubtenant]; exact hvis) with
    ⟨hkept, e, he⟩ | ⟨hstored, hres⟩
  · refine .inl ⟨hkept.trans hdb, fun h => ?_, fun h => ?_⟩
    · cases he.symm.trans h
    · cases he.symm.trans h
  · have henv : w'.env = w.env := hwait.frame.env
    have hclock : w.clockReads ≤ w'.clockReads := (Nat.le_succ _).trans hwait.later
    have hcalls : w'.ticked.dbCalls + 1 = w.dbCalls + 2 := congrArg (· + 1) hwait.calls
    rw [henv] at hp
    refine .inr ⟨⟨_, hstored, ⟨w.clockReads, le_rfl, hst⟩, w'.clockReads, hclock, hp⟩, hres.imp id ?_⟩
    rintro ⟨hlost, herr⟩
    rw [hcalls, show w'.ticked.env = w.env from henv] at hlost
    exact ⟨hlost, herr⟩

/-- **A sync takes over everything or nothing.** After `"synced"` the stored row has status and period
of the object. After `"unchanged"` it has the status, and is as before. After any other answer, and
after a raise, it is as before, unless the row that was committed could not be read back: then it has
status and period of the object too. -/
theorem sync_full_or_nothing (w : World S) (tenant : Option ℤ) {obj : Value} {x : Subscription}
    (hx : x ∈ w.db.subscriptions.rows) (hname : Names .subscriptionUpdated obj x) :
    let o := (handleSubscriptionSync obj).exec serve { tenant := tenant } w
    (o.result = .ok "synced" → TakenOver w o.world obj x) ∧
    (o.result = .ok "unchanged" → o.world.db = w.db ∧
      ∃ k, w.clockReads ≤ k ∧ statusAt (w.env.clock k) obj = .ok x.status) ∧
    (o.result ≠ .ok "synced" → o.result ≠ .ok "unchanged" → o.world.db = w.db ∨
      w.env.dbFails (w.dbCalls + 2) = true ∧ (∃ e, o.result = .error e) ∧ TakenOver w o.world obj x) := by
  intro o
  rcases sync_outcome (s := { tenant := tenant }) rfl rfl hx hname with
    ⟨hkept, hns, hunchanged⟩ | ⟨htaken, hres⟩
  · exact ⟨fun h => absurd h hns, fun h => ⟨hkept, hunchanged h⟩, fun _ _ => .inl hkept⟩
  · refine ⟨fun _ => htaken, fun h => ?_, fun hns _ => .inr ?_⟩
    · rcases hres with hres | ⟨-, e, he⟩
      · exact absurd (Except.ok.inj (hres.symm.trans h)) (by decide)
      · cases he.symm.trans h
    · rcases hres with hres | ⟨hlost, herr⟩
      · exact absurd hres hns
      · exact ⟨hlost, herr, htaken⟩

namespace Sample

/-- An active subscription that Stripe knows as `sub_1`, paid until day 30. -/
def linked : Db .metadata where
  tables := .seed [] [] [row .active 0 none] []
  admitted := by decide

/-- What Stripe sends when it renews `sub_1` for the days 30 to 60. -/
def renewed (status : String) : Value :=
  .dict [("id", .str "sub_1"), ("status", .str status), ("current_period_start", .int 2592000),
    ("current_period_end", .int 5184000)]

/-- The third round trip fails: the row is not read back. -/
def unread : Env := { env 1000 with dbFails := fun k => k == 2 }

end Sample

/-- The renewal of an active subscription, and a cancellation that cannot be read back. -/
theorem sync_full_or_nothing_linked :
    let w := World.start Sample.linked (Sample.env 1000)
    let x : Subscription := { Sample.row .active 0 none with id := 1 }
    let o := (handleSubscriptionSync (Sample.renewed "active")).exec serve { tenant := none } w
    (o.result = .ok "synced" → TakenOver w o.world (Sample.renewed "active") x) ∧
    (o.result = .ok "unchanged" → o.world.db = w.db ∧
      ∃ k, w.clockReads ≤ k ∧ statusAt (w.env.clock k) (Sample.renewed "active") = .ok x.status) ∧
    (o.result ≠ .ok "synced" → o.result ≠ .ok "unchanged" → o.world.db = w.db ∨
      w.env.dbFails (w.dbCalls + 2) = true ∧ (∃ e, o.result = .error e) ∧
        TakenOver w o.world (Sample.renewed "active") x) :=
  sync_full_or_nothing _ none (by decide) ⟨"sub_1", by decide, rfl⟩

/-- The period is not taken over when the status is the same already; and a raise can leave a changed
row behind. -/
theorem sync_keeps_period :
    (let o := (handleSubscriptionSync (Sample.renewed "active")).exec serve {}
      (World.start Sample.linked (Sample.env 1000))
    o.result = .ok "unchanged" ∧ ∃ x ∈ o.world.db.subscriptions.rows,
      x.stripeSubscriptionId = some "sub_1" ∧
      periodAt 1000 (Sample.renewed "active") ≠ .ok (x.currentPeriodStart, x.currentPeriodEnd)) ∧
    (let o := (handleSubscriptionSync (Sample.renewed "canceled")).exec serve {}
      (World.start Sample.linked Sample.unread)
    o.result = .error .operationalError ∧ ∃ x ∈ o.world.db.subscriptions.rows, x.status = .canceled) := by
  decide +kernel

end FastapiTemplate.Billing
