import FastapiTemplate.Billing.InvoiceRuns

/-!
# One failure in the invoice sweep

An insert that fails takes the rest of the sweep with it. With an integrity error, `generate_invoice` rolls
back, the loaded rows expire, and the log line of the failure cannot read the row: the sweep ends. With any
other error nobody rolls back, and every later statement fails. `isolated_iff` says which sweeps get through
all the same.
-/

namespace FastapiTemplate.Billing

open Core Database Python Effects Script Store

variable {S : Schema} {f : ℤ → Option Exn} {s : Session} {w : World S}

/-- The sweep comes back having counted all of `subs`, and every one of them without a fault that was not
blocked has got its open invoice. -/
structure Isolated (f : ℤ → Option Exn) (d : Db S) (subs : List Subscription)
    (o : Outcome Session Exn (World S) InvoiceSweepStats) : Prop where
  returns : ∃ st, o.result = .ok st ∧ st.generated + st.skipped + st.failed = subs.length
  served : ∀ x ∈ subs, f x.id = none → ¬Blocked d x → ∃ inv ∈ o.world.db.invoices.rows, BillsPeriod x .open inv

/-- What `subs` must be like: whatever has no fault can be billed; and if an insert fails, then it is not an
integrity error, the failed flush does not expire the rows, and of the subscriptions that come after it all
have their plans and none is waiting for an invoice. -/
structure Isolable (f : ℤ → Option Exn) (flushExpires : Bool) (d : Db S) (subs : List Subscription) : Prop where
  good : ∀ x ∈ subs, f x.id = none → ¬Blocked d x → Invoiceable d x
  first : ∀ before x after e, subs = before ++ x :: after → (∀ y ∈ before, ∀ e, ¬Fails f d y e) → Fails f d x e →
    e ≠ .integrityError ∧ flushExpires = false ∧
      ∀ y ∈ after, (planFor d y).isSome = true ∧ (f y.id ≠ none ∨ Blocked d y)

/-- The first insert that fails, if there is one. -/
lemma exists_first (f : ℤ → Option Exn) (d : Db S) (subs : List Subscription) :
    (∀ x ∈ subs, ∀ e, ¬Fails f d x e) ∨ ∃ before x after e, subs = before ++ x :: after ∧
      (∀ y ∈ before, ∀ e, ¬Fails f d y e) ∧ Fails f d x e := by
  induction subs with
  | nil => exact .inl fun _ h => absurd h List.not_mem_nil
  | cons sub subs ih =>
    by_cases hsub : ∃ e, Fails f d sub e
    · obtain ⟨e, he⟩ := hsub
      exact .inr ⟨[], sub, subs, e, rfl, fun _ h => absurd h List.not_mem_nil, he⟩
    · have hnone : ∀ e, ¬Fails f d sub e := fun e he => hsub ⟨e, he⟩
      rcases ih with hall | ⟨before, x, after, e, rfl, hbefore, hx⟩
      · exact .inl (List.forall_mem_cons.2 ⟨hnone, hall⟩)
      · exact .inr ⟨sub :: before, x, after, e, rfl, List.forall_mem_cons.2 ⟨hnone, hbefore⟩, hx⟩

lemma first_unique {α : Type} {P : α → Prop} {before before' after after' : List α} {x x' : α}
    (hbefore : ∀ y ∈ before, ¬P y) (hbefore' : ∀ y ∈ before', ¬P y) (hx : P x) (hx' : P x')
    (h : before ++ x :: after = before' ++ x' :: after') : before = before' ∧ x = x' ∧ after = after' := by
  induction before generalizing before' with
  | nil =>
    cases before' with
    | nil =>
      obtain ⟨rfl, rfl⟩ := List.cons.inj h
      exact ⟨rfl, rfl, rfl⟩
    | cons b before' => exact absurd ((List.cons.inj h).1 ▸ hx) (hbefore' b List.mem_cons_self)
  | cons a before ih =>
    cases before' with
    | nil => exact absurd ((List.cons.inj h).1 ▸ hx') (hbefore a List.mem_cons_self)
    | cons b before' =>
      obtain ⟨rfl, hrest⟩ := List.cons.inj h
      obtain ⟨rfl, rfl, rfl⟩ := ih (fun y hy => hbefore y (List.mem_cons_of_mem _ hy))
        (fun y hy => hbefore' y (List.mem_cons_of_mem _ hy)) hrest
      exact ⟨rfl, rfl, rfl⟩

section Loop

variable {plans : List Plan} {subs : List Subscription}

lemma Loaded.key {d : Db S} (h : Loaded d plans subs) {x y : Subscription} (hx : x ∈ subs) (hy : y ∈ subs)
    (hid : y.id = x.id) : y = x := List.inj_on_of_nodup_map h.nodup hy hx hid

/-- No insert fails. -/
lemma isolated_of_sound (hs : s.Ready) (hw : w.Up) (hsubs : Loaded w.db plans subs)
    (hsound : ∀ x ∈ subs, ∀ e, ¬Fails f w.db x e) :
    Isolated f w.db subs ((invoiceEach s.expirations plans {} subs).exec (serveFailing f) s w) ↔
      ∀ x ∈ subs, f x.id = none → ¬Blocked w.db x → Invoiceable w.db x := by
  obtain ⟨st', new, w', hexec, hgained, hnew, hall⟩ := exec_invoiceEach {} hs hw hsubs hsound
  have hserved : ∀ x ∈ subs, ¬Blocked w.db x →
      ((∃ inv ∈ w'.db.invoices.rows, BillsPeriod x .open inv) ↔ Invoiceable w.db x) := by
    intro x hx hfree
    rw [hgained.rows]
    exact (served_iff (fun _ h => h) hfree (fun y hy => hsubs.key hx hy) hnew hall).trans (and_iff_right hx)
  have hreturns : ((invoiceEach s.expirations plans {} subs).exec (serveFailing f) s w).result = .ok st' := by
    rw [hexec]
  constructor
  · intro h x hx hfault hfree
    have hserved' := h.served x hx hfault hfree
    rw [hexec] at hserved'
    exact (hserved x hx hfree).1 hserved'
  · intro h
    refine ⟨⟨st', hreturns, (total_of_result hreturns).trans (Nat.zero_add _)⟩, fun x hx hfault hfree => ?_⟩
    rw [hexec]
    exact (hserved x hx hfree).2 (h x hx hfault hfree)

lemma Loaded.sublist {d : Db S} {l : List Subscription} (h : Loaded d plans subs) (hl : l.Sublist subs) :
    Loaded d plans l where
  nodup := h.nodup.sublist (hl.map _)
  live x hx := h.live x (hl.subset hx)
  plans x hx := h.plans x (hl.subset hx)

variable {before after : List Subscription} {x : Subscription} {e : Exn}

/-- The loop up to the first insert that fails. -/
lemma exec_before (hs : s.Ready) (hw : w.Up) (hsubs : Loaded w.db plans (before ++ x :: after))
    (hbefore : ∀ y ∈ before, ∀ e, ¬Fails f w.db y e) (hx : Fails f w.db x e) :
    ∃ st new s' w', w'.db.invoices.rows = w.db.invoices.rows ++ new ∧
      (∀ inv ∈ new, ∃ y ∈ before, ¬Blocked w.db y ∧ Invoiceable w.db y ∧ BillsPeriod y .open inv) ∧
      (∀ y ∈ before, ¬Blocked w.db y → Invoiceable w.db y → ∃ inv ∈ new, BillsPeriod y .open inv) ∧
      (e = .integrityError ∨ s.flushExpires = true →
        (invoiceEach s.expirations plans {} (before ++ x :: after)).exec (serveFailing f) s w =
          ⟨.error .missingGreenlet, s', w'⟩) ∧
      (e ≠ .integrityError → s.flushExpires = false → s'.aborted = true ∧ s'.expirations = s.expirations ∧
        (invoiceEach s.expirations plans {} (before ++ x :: after)).exec (serveFailing f) s w =
          (invoiceEach s.expirations plans st after).exec (serveFailing f) s' w') := by
  have hmem : x ∈ before ++ x :: after := List.mem_append_right _ List.mem_cons_self
  obtain ⟨st, new, w₁, hexec, hgained, hnew, hall⟩ := exec_invoiceEach {} hs hw
    (hsubs.sublist (List.sublist_append_left _ _)) hbefore
  have hothers : ∀ inv ∈ new, inv.subscriptionId ≠ x.id := by
    intro inv hinv hid
    obtain ⟨y, hy, -, -, hbills⟩ := hnew inv hinv
    have hyx := hsubs.key hmem (List.mem_append_left _ hy) (hbills.subscription.symm.trans hid)
    exact hbefore x (hyx ▸ hy) e hx
  obtain ⟨s', w', hdb, hends, hgoes⟩ := exec_invoiceOne_fault (f := f) hs (hgained.toLater.up hw)
    (hsubs.live x hmem) (by rw [planFor_eq hgained.plans]; exact hsubs.plans x hmem)
    (fun h => hx.free ((hgained.blocked_iff hothers).1 h)) ((invoiceable_iff hgained.plans x).2 hx.good) hx.fault
  refine ⟨st.count none, new, s', w', by rw [hdb, hgained.rows], hnew, hall, fun h => ?_, fun he hkeep => ?_⟩
  · rw [exec_invoiceEach_append, hexec, Outcome.next_ok, exec_invoiceEach_cons, hends h, Outcome.next_error]
  · obtain ⟨ha, hsame, hone⟩ := hgoes he hkeep
    refine ⟨ha, hsame, ?_⟩
    rw [exec_invoiceEach_append, hexec, Outcome.next_ok, exec_invoiceEach_cons, hone, Outcome.next_ok]

/-- The first failure ends the sweep. -/
lemma not_isolated (hs : s.Ready) (hw : w.Up) (hsubs : Loaded w.db plans (before ++ x :: after))
    (hbefore : ∀ y ∈ before, ∀ e, ¬Fails f w.db y e) (hx : Fails f w.db x e)
    (hexpired : e = .integrityError ∨ s.flushExpires = true) :
    ¬Isolated f w.db (before ++ x :: after)
        ((invoiceEach s.expirations plans {} (before ++ x :: after)).exec (serveFailing f) s w) := by
  obtain ⟨st, new, s', w', -, -, -, hends, -⟩ := exec_before hs hw hsubs hbefore hx
  rw [hends hexpired]
  rintro ⟨⟨st', hst', -⟩, -⟩
  cases hst'

/-- Whoever comes after the failure does not come before it. -/
lemma Loaded.not_mem_before {d : Db S} (h : Loaded d plans (before ++ x :: after)) {y : Subscription}
    (hy : y ∈ after) : y ∉ before := by
  intro hy'
  have hnodup := h.nodup
  rw [List.map_append, List.nodup_append] at hnodup
  exact hnodup.2.2 y.id (List.mem_map_of_mem hy') y.id (List.mem_map_of_mem (List.mem_cons_of_mem _ hy)) rfl

/-- The sweep goes on after the first failure, in a transaction that is lost. -/
lemma isolated_iff_of_kept (hs : s.Ready) (hw : w.Up) (hsubs : Loaded w.db plans (before ++ x :: after))
    (hbefore : ∀ y ∈ before, ∀ e, ¬Fails f w.db y e) (hx : Fails f w.db x e) (he : e ≠ .integrityError)
    (hkeep : s.flushExpires = false) :
    Isolated f w.db (before ++ x :: after)
        ((invoiceEach s.expirations plans {} (before ++ x :: after)).exec (serveFailing f) s w) ↔
      (∀ y ∈ before ++ x :: after, f y.id = none → ¬Blocked w.db y → Invoiceable w.db y) ∧
        ∀ y ∈ after, (planFor w.db y).isSome = true ∧ (f y.id ≠ none ∨ Blocked w.db y) := by
  obtain ⟨st, new, s', w', hrows, hnew, hall, -, hgoes⟩ := exec_before hs hw hsubs hbefore hx
  obtain ⟨ha, hsame, hexec⟩ := hgoes he hkeep
  obtain ⟨r, hr, hplans⟩ : ∃ r, (invoiceEach s'.expirations plans st after).exec (serveFailing f) s' w' =
      ⟨r, s', w'⟩ ∧ ((∃ st', r = .ok st') ↔ ∀ y ∈ after, (plans.find? fun p => p.id == y.planId).isSome = true) :=
    exec_invoiceEach_aborted st ha
  rw [hsame] at hr
  rw [hr] at hexec
  have hmem : ∀ y ∈ after, y ∈ before ++ x :: after := fun y hy =>
    List.mem_append_right _ (List.mem_cons_of_mem _ hy)
  have hserved : ∀ y ∈ before ++ x :: after, ¬Blocked w.db y →
      ((∃ inv ∈ w'.db.invoices.rows, BillsPeriod y .open inv) ↔ y ∈ before ∧ Invoiceable w.db y) := by
    intro y hy hfree
    rw [hrows]
    exact served_iff (fun _ h => h) hfree (fun z hz => hsubs.key hy (List.mem_append_left _ hz)) hnew hall
  constructor
  · rintro ⟨⟨st', hst', -⟩, hall'⟩
    rw [hexec] at hst' hall'
    refine ⟨fun y hy hfault hfree => ((hserved y hy hfree).1 (hall' y hy hfault hfree)).2, fun y hy => ⟨?_, ?_⟩⟩
    · rw [← hsubs.plans y (hmem y hy)]
      exact hplans.1 ⟨st', hst'⟩ y hy
    · by_contra h
      rw [not_or, not_not] at h
      exact hsubs.not_mem_before hy ((hserved y (hmem y hy) h.2).1 (hall' y (hmem y hy) h.1 h.2)).1
  · rintro ⟨hgood, hlater⟩
    obtain ⟨st', rfl⟩ := hplans.2 fun y hy => by
      rw [hsubs.plans y (hmem y hy)]
      exact (hlater y hy).1
    refine ⟨⟨st', by rw [hexec], ?_⟩, fun y hy hfault hfree => ?_⟩
    · exact (total_of_result (by rw [hexec])).trans (Nat.zero_add _)
    · rw [hexec]
      refine (hserved y hy hfree).2 ⟨?_, hgood y hy hfault hfree⟩
      rcases List.mem_append.1 hy with hy | hy
      · exact hy
      · rcases List.mem_cons.1 hy with rfl | hy
        · rw [hx.fault] at hfault
          cases hfault
        · exact absurd ((hlater y hy).2.resolve_left fun h => h hfault) hfree

/-- An insert fails. -/
lemma isolated_of_fails (hs : s.Ready) (hw : w.Up) (hsubs : Loaded w.db plans (before ++ x :: after))
    (hbefore : ∀ y ∈ before, ∀ e, ¬Fails f w.db y e) (hx : Fails f w.db x e) :
    Isolated f w.db (before ++ x :: after)
        ((invoiceEach s.expirations plans {} (before ++ x :: after)).exec (serveFailing f) s w) ↔
      (∀ y ∈ before ++ x :: after, f y.id = none → ¬Blocked w.db y → Invoiceable w.db y) ∧
        e ≠ .integrityError ∧ s.flushExpires = false ∧
        ∀ y ∈ after, (planFor w.db y).isSome = true ∧ (f y.id ≠ none ∨ Blocked w.db y) := by
  by_cases hexpired : e = .integrityError ∨ s.flushExpires = true
  · refine iff_of_false (not_isolated hs hw hsubs hbefore hx hexpired) ?_
    rintro ⟨-, he, hkeep, -⟩
    rcases hexpired with h | h
    · exact he h
    · rw [hkeep] at h
      cases h
  · have he : e ≠ .integrityError := fun h => hexpired (.inl h)
    have hkeep : s.flushExpires = false := by simpa using fun h => hexpired (.inr h)
    rw [isolated_iff_of_kept hs hw hsubs hbefore hx he hkeep]
    exact ⟨fun ⟨hgood, hlater⟩ => ⟨hgood, he, hkeep, hlater⟩, fun ⟨hgood, _, _, hlater⟩ => ⟨hgood, hlater⟩⟩

/-- **The loop**, wherever the first failure is. -/
theorem isolated_loop {d : Db S} (hs : s.Ready) (hw : w.Up) (hd : w.db = d) (hsubs : Loaded d plans subs) :
    Isolated f d subs ((invoiceEach s.expirations plans {} subs).exec (serveFailing f) s w) ↔
      Isolable f s.flushExpires d subs := by
  subst hd
  rcases exists_first f w.db subs with hsound | ⟨before, x, after, e, rfl, hbefore, hx⟩
  · rw [isolated_of_sound hs hw hsubs hsound]
    refine ⟨fun h => ⟨h, fun before x after e hsplit _ hx => ?_⟩, Isolable.good⟩
    exact absurd hx (hsound x (hsplit ▸ List.mem_append_right _ List.mem_cons_self) e)
  · rw [isolated_of_fails hs hw hsubs hbefore hx]
    constructor
    · rintro ⟨hgood, he, hkeep, hlater⟩
      refine ⟨hgood, fun before' x' after' e' hsplit hbefore' hx' => ?_⟩
      obtain ⟨rfl, rfl, rfl⟩ := first_unique (P := fun y => ∃ e, Fails f w.db y e)
        (fun y hy ⟨e, h⟩ => hbefore y hy e h) (fun y hy ⟨e, h⟩ => hbefore' y hy e h) ⟨e, hx⟩ ⟨e', hx'⟩ hsplit
      have hee : e' = e := Option.some.inj (hx'.fault.symm.trans hx.fault)
      exact ⟨hee ▸ he, hkeep, hlater⟩
    · intro h
      exact ⟨h.good, h.first before x after e rfl hbefore hx⟩

end Loop

/-- **When one failure does not disturb the others.** The sweep runs alone, over the due subscriptions in
whatever order the database returns them; inserting an invoice fails for those with a fault, with any error,
and no other statement fails. Whether the failed flush expires the loaded rows is left open. -/
theorem isolated_iff (f : ℤ → Option Exn) (flushExpires : Bool) (order : RowOrder) (hw : w.Up) :
    let subs := dueSubscriptions order (w.env.clock w.clockReads) w.db
    Isolated f w.db subs
        ((generateDueInvoicesAsync order).exec (serveFailing f) { flushExpires := flushExpires } w) ↔
      Isolable f flushExpires w.db subs := by
  intro subs
  have hs : Session.Ready { flushExpires := flushExpires } := ⟨rfl, rfl, rfl⟩
  obtain ⟨plans, w₁, hdb, hlater, hsubs, hexec⟩ := exec_generateDueInvoices (f := f) hs hw order
  rw [hexec]
  exact isolated_loop hs (hlater.up hw) hdb hsubs

/-! ### Two tenants -/

namespace Sample

/-- The insert for the first tenant fails. -/
def faulty (e : Exn) (id : ℤ) : Option Exn := if id = 1 then some e else none

/-- The second tenant is due as well, has no fault, and no invoice so far. -/
lemma second_due : ∃ x ∈ dueSubscriptions inOrder (dayAfter.env.clock dayAfter.clockReads) dayAfter.db,
    x.id = 2 ∧ ¬Blocked dayAfter.db x := by
  have hdue : ∃ x ∈ dueSubscriptions inOrder (dayAfter.env.clock dayAfter.clockReads) dayAfter.db, x.id = 2 := by
    decide +kernel
  obtain ⟨x, hx, hid⟩ := hdue
  exact ⟨x, hx, hid, fun ⟨i, hi, _⟩ => absurd hi List.not_mem_nil⟩

end Sample

/-- With an integrity error the sweep ends, with another error it goes on in vain: either way the second
tenant gets no invoice. -/
theorem failure_spreads :
    let subs := dueSubscriptions Sample.inOrder (Sample.dayAfter.env.clock Sample.dayAfter.clockReads)
      Sample.dayAfter.db
    ¬Isolated (Sample.faulty .integrityError) Sample.dayAfter.db subs
        ((generateDueInvoicesAsync Sample.inOrder).exec (serveFailing (Sample.faulty .integrityError)) {}
          Sample.dayAfter) ∧
      ¬Isolated (Sample.faulty .operationalError) Sample.dayAfter.db subs
        ((generateDueInvoicesAsync Sample.inOrder).exec (serveFailing (Sample.faulty .operationalError))
          { flushExpires := false } Sample.dayAfter) := by
  obtain ⟨x, hx, hid, hfree⟩ := Sample.second_due
  refine ⟨fun h => ?_, fun h => ?_⟩
  · have hempty : ((generateDueInvoicesAsync Sample.inOrder).exec (serveFailing (Sample.faulty .integrityError)) {}
        Sample.dayAfter).world.db.invoices.rows.length = 0 := by decide +kernel
    obtain ⟨inv, hinv, -⟩ := h.served x hx (by rw [hid]; rfl) hfree
    rw [List.length_eq_zero_iff.1 hempty] at hinv
    exact List.not_mem_nil hinv
  · have hempty : ((generateDueInvoicesAsync Sample.inOrder).exec (serveFailing (Sample.faulty .operationalError))
        { flushExpires := false } Sample.dayAfter).world.db.invoices.rows.length = 0 := by decide +kernel
    obtain ⟨inv, hinv, -⟩ := h.served x hx (by rw [hid]; rfl) hfree
    rw [List.length_eq_zero_iff.1 hempty] at hinv
    exact List.not_mem_nil hinv

/-- No insert fails. -/
theorem isolated_iff_sound :
    let subs := dueSubscriptions Sample.inOrder (Sample.dayAfter.env.clock Sample.dayAfter.clockReads)
      Sample.dayAfter.db
    Isolated (fun _ => none) Sample.dayAfter.db subs
        ((generateDueInvoicesAsync Sample.inOrder).exec (serveFailing fun _ => none) { flushExpires := true }
          Sample.dayAfter) ↔
      Isolable (fun _ => none) true Sample.dayAfter.db subs :=
  isolated_iff (fun _ => none) true Sample.inOrder fun _ _ => rfl

end FastapiTemplate.Billing
