import FastapiTemplate.Database.Schema

/-!
# What a commit does to the subscriptions

A flush rewrites each row by the updates with its key (`flush_rows`), and where the updates of one
commit are of different rows, by at most one of them (`rewrite_of_mem`, `rewrite_of_not_mem`).

`Schema.admits_revise` says when the result is admitted: every status is accepted, and no row enters
a unique index with a new value.
-/

namespace FastapiTemplate.Database

open Core Store

namespace Change

/-- What a change does to a stored subscription. -/
def rewrite : Change → Subscription → Subscription
  | .updateSubscription loaded cur, x => if x.id = loaded.id then loaded.writeBack cur x else x
  | _, x => x

/-- The subscription a change updates. -/
def target : Change → Option ℤ
  | .updateSubscription loaded _ => some loaded.id
  | _ => none

/-- The subscription a change opens. -/
def opened : Change → Option Subscription
  | .insertSubscription row => some row
  | _ => none

@[simp] lemma rewrite_id (c : Change) (x : Subscription) : (c.rewrite x).id = x.id := by
  cases c with
  | updateSubscription loaded cur =>
    simp only [rewrite]
    split <;> rfl
  | _ => rfl

lemma rewrite_of_ne {c : Change} {x : Subscription} (h : c.target ≠ some x.id) :
    c.rewrite x = x := by
  cases c with
  | updateSubscription loaded cur =>
    have hid : x.id ≠ loaded.id := fun hx => h (by simp [target, hx])
    simp [rewrite, hid]
  | _ => rfl

end Change

/-- Writing an unchanged image back changes nothing. -/
lemma Subscription.writeBack_self (a x : Subscription) : a.writeBack a x = x := by
  simp [writeBack]

/-- The changes of one commit, in their order. -/
def rewrite (cs : List Change) (x : Subscription) : Subscription := cs.foldl (fun x c => c.rewrite x) x

/-- The subscriptions a commit updates. -/
def targets (cs : List Change) : List ℤ := cs.filterMap Change.target

@[simp] lemma rewrite_nil (x : Subscription) : rewrite [] x = x := rfl

@[simp] lemma rewrite_cons (c : Change) (cs : List Change) (x : Subscription) :
    rewrite (c :: cs) x = rewrite cs (c.rewrite x) := rfl

@[simp] lemma rewrite_id (cs : List Change) (x : Subscription) : (rewrite cs x).id = x.id := by
  induction cs generalizing x with
  | nil => rfl
  | cons c cs ih => rw [rewrite_cons, ih, Change.rewrite_id]

/-! ### One row -/

theorem rewrite_of_not_mem {cs : List Change} {x : Subscription} (h : x.id ∉ targets cs) :
    rewrite cs x = x := by
  induction cs with
  | nil => rfl
  | cons c cs ih =>
    have hc : c.target ≠ some x.id := by
      intro hc
      exact h (List.mem_filterMap.2 ⟨c, List.mem_cons_self, hc⟩)
    have hcs : x.id ∉ targets cs := by
      intro hx
      obtain ⟨c', hc', ht⟩ := List.mem_filterMap.1 hx
      exact h (List.mem_filterMap.2 ⟨c', List.mem_cons_of_mem _ hc', ht⟩)
    rw [rewrite_cons, Change.rewrite_of_ne hc, ih hcs]

/-- **Updates of different rows do not meet.** A row is rewritten by its own update alone. -/
theorem rewrite_of_mem {cs : List Change} (hn : (targets cs).Nodup) {loaded cur x : Subscription}
    (h : .updateSubscription loaded cur ∈ cs) (hx : x.id = loaded.id) :
    rewrite cs x = loaded.writeBack cur x := by
  induction cs with
  | nil => cases h
  | cons c cs ih =>
    rw [rewrite_cons]
    rcases List.mem_cons.1 h with rfl | h
    · have hother : x.id ∉ targets cs := by
        rw [hx]
        exact (List.nodup_cons.1 hn).1
      have hfirst : (Change.updateSubscription loaded cur).rewrite x = loaded.writeBack cur x := by
        simp [Change.rewrite, hx]
      rw [hfirst]
      exact rewrite_of_not_mem hother
    · have hc : c.target ≠ some x.id := by
        intro hc
        have hmem : x.id ∈ targets cs := List.mem_filterMap.2 ⟨_, h, by simp [Change.target, hx]⟩
        have hn' : (x.id :: targets cs).Nodup := by simpa [targets, hc] using hn
        exact (List.nodup_cons.1 hn').1 hmem
      have hn' : (targets cs).Nodup := by
        unfold targets at hn ⊢
        rw [List.filterMap_cons] at hn
        split at hn
        · exact hn
        · exact (List.nodup_cons.1 hn).2
      rw [Change.rewrite_of_ne hc, ih hn' h]

/-- Either the commit leaves a row alone, or one of its updates is of that row. -/
theorem rewrite_cases {cs : List Change} (hn : (targets cs).Nodup) (x : Subscription) :
    rewrite cs x = x ∨ ∃ loaded cur, .updateSubscription loaded cur ∈ cs ∧ x.id = loaded.id ∧
      rewrite cs x = loaded.writeBack cur x := by
  by_cases hx : x.id ∈ targets cs
  · right
    obtain ⟨c, hc, ht⟩ := List.mem_filterMap.1 hx
    cases c with
    | updateSubscription loaded cur =>
      have hid : x.id = loaded.id := (Option.some.inj ht).symm
      exact ⟨loaded, cur, hc, hid, rewrite_of_mem hn hc hid⟩
    | _ => cases ht
  · exact .inl (rewrite_of_not_mem hx)

/-! ### The table -/

/-- The subscriptions after a commit that opens none. -/
def Tables.rewritten (t : Tables) (cs : List Change) : Tables :=
  { t with subscriptions := t.subscriptions.revise (rewrite cs) (rewrite_id cs) }

lemma apply_update {t : Tables} {loaded cur x : Subscription}
    (h : t.subscriptions.get? loaded.id = some x) :
    (Change.updateSubscription loaded cur).apply t
      = .ok ([], t.rewritten [.updateSubscription loaded cur]) := by
  obtain ⟨hx, hid⟩ := Table.get?_eq_some.1 h
  have hother : ∀ r : Subscription, r.id ≠ x.id →
      rewrite [.updateSubscription loaded cur] r = r := by
    intro r hr
    have hr' : r.id ≠ loaded.id := by rw [← hid]; exact hr
    simp [Change.rewrite, hr']
  by_cases hc : cur = loaded
  · subst hc
    have hid : t.subscriptions.revise (rewrite [.updateSubscription cur cur]) (rewrite_id _)
        = t.subscriptions := by
      refine Table.ext ?_ rfl
      refine (List.map_congr_left fun r _ => ?_).trans (List.map_id _)
      simp [Change.rewrite, Subscription.writeBack_self]
    simp [Change.apply, Tables.rewritten, hid]
  · have hput : t.subscriptions.put (rewrite [.updateSubscription loaded cur] x)
        = t.subscriptions.revise _ (rewrite_id [.updateSubscription loaded cur]) :=
      Table.put_eq_revise hx hother
    have hself : rewrite [.updateSubscription loaded cur] x = loaded.writeBack cur x := by
      have hid' : x.id = loaded.id := hid
      simp [Change.rewrite, hid']
    rw [hself] at hput
    simp only [Change.apply, if_neg hc, h, Tables.rewritten, hput]

lemma rewritten_rewritten (t : Tables) (c : Change) (cs : List Change) :
    (t.rewritten [c]).rewritten cs = t.rewritten (c :: cs) := by
  unfold Tables.rewritten
  congr 1
  refine Table.ext ?_ rfl
  simp [Table.revise, Function.comp_def]

/-- **A flush of updates whose rows exist** succeeds, and rewrites the rows. -/
theorem flush_updates {cs : List Change} {t : Tables}
    (h : ∀ c ∈ cs, ∃ loaded cur, c = .updateSubscription loaded cur ∧
      ∃ x ∈ t.subscriptions.rows, x.id = loaded.id) :
    t.flush cs = .ok ([], t.rewritten cs) := by
  induction cs generalizing t with
  | nil =>
    have hid : t.subscriptions.revise (rewrite []) (rewrite_id []) = t.subscriptions :=
      Table.ext (List.map_id _) rfl
    simp [Tables.flush, Tables.rewritten, hid]
  | cons c cs ih =>
    obtain ⟨loaded, cur, rfl, x, hx, hid⟩ := h c List.mem_cons_self
    have hstep : (Change.updateSubscription loaded cur).apply t
        = .ok ([], t.rewritten [.updateSubscription loaded cur]) :=
      apply_update (Table.get?_eq_some.2 ⟨hx, hid⟩)
    have hrest : ∀ c ∈ cs, ∃ l k, c = .updateSubscription l k ∧
        ∃ y ∈ (t.rewritten [.updateSubscription loaded cur]).subscriptions.rows, y.id = l.id := by
      intro c hc
      obtain ⟨l, k, rfl, y, hy, hyid⟩ := h c (List.mem_cons_of_mem _ hc)
      exact ⟨l, k, rfl, _, List.mem_map_of_mem hy, by rw [rewrite_id, hyid]⟩
    unfold Tables.flush
    rw [hstep]
    have hcs := ih hrest
    rw [rewritten_rewritten] at hcs
    simp [hcs, bind, Except.bind, pure, Except.pure]

/-- A flush goes change by change. -/
lemma flush_cons {c : Change} {cs : List Change} {t t' : Tables} {ids : List ℤ}
    (h : t.flush (c :: cs) = .ok (ids, t')) :
    ∃ ids₁ t₁ ids₂, c.apply t = .ok (ids₁, t₁) ∧ t₁.flush cs = .ok (ids₂, t') := by
  unfold Tables.flush at h
  rcases ha : c.apply t with e | ⟨ids₁, t₁⟩
  · simp [ha, bind, Except.bind] at h
  rcases hf : t₁.flush cs with e | ⟨ids₂, t₂⟩
  · simp [ha, hf, bind, Except.bind] at h
  simp only [ha, hf, bind, Except.bind, pure, Except.pure, Except.ok.injEq, Prod.mk.injEq] at h
  obtain ⟨-, rfl⟩ := h
  exact ⟨ids₁, t₁, ids₂, rfl, hf⟩

/-- What a statement that goes through does to the tables: it puts a row in, it writes the columns that were changed
into the row that is stored, or none was changed. -/
inductive Change.Applied (t : Tables) : Change → Tables → Prop
  | insertSubscription (row : Subscription) :
    Applied t (.insertSubscription row) { t with subscriptions := t.subscriptions.insert row }
  | updateSubscription {loaded cur row : Subscription} (hrow : t.subscriptions.get? loaded.id = some row) :
    Applied t (.updateSubscription loaded cur) { t with subscriptions := t.subscriptions.put (loaded.writeBack cur row) }
  | sameSubscription (row : Subscription) : Applied t (.updateSubscription row row) t
  | insertInvoice (row : Invoice) : Applied t (.insertInvoice row) { t with invoices := t.invoices.insert row }
  | updateInvoice {loaded cur row : Invoice} (hrow : t.invoices.get? loaded.id = some row) :
    Applied t (.updateInvoice loaded cur) { t with invoices := t.invoices.put (loaded.writeBack cur row) }
  | sameInvoice (row : Invoice) : Applied t (.updateInvoice row row) t
  | insertStripeEvent (row : StripeEvent) :
    Applied t (.insertStripeEvent row) { t with stripeEvents := t.stripeEvents.insert row }
  | updateStripeEvent {loaded cur row : StripeEvent} (hrow : t.stripeEvents.get? loaded.id = some row) :
    Applied t (.updateStripeEvent loaded cur) { t with stripeEvents := t.stripeEvents.put (loaded.writeBack cur row) }
  | sameStripeEvent (row : StripeEvent) : Applied t (.updateStripeEvent row row) t

theorem Change.applied {c : Change} {t t' : Tables} {ids : List ℤ} (h : c.apply t = .ok (ids, t')) :
    c.Applied t t' := by
  cases c with
  | insertSubscription row =>
    cases h
    exact .insertSubscription row
  | insertInvoice row =>
    cases h
    exact .insertInvoice row
  | insertStripeEvent row =>
    cases h
    exact .insertStripeEvent row
  | updateSubscription loaded cur =>
    simp only [Change.apply] at h
    split at h
    · rename_i hsame
      cases h
      exact hsame ▸ .sameSubscription cur
    · split at h
      · cases h
      · rename_i row hrow
        cases h
        exact .updateSubscription hrow
  | updateInvoice loaded cur =>
    simp only [Change.apply] at h
    split at h
    · rename_i hsame
      cases h
      exact hsame ▸ .sameInvoice cur
    · split at h
      · cases h
      · rename_i row hrow
        cases h
        exact .updateInvoice hrow
  | updateStripeEvent loaded cur =>
    simp only [Change.apply] at h
    split at h
    · rename_i hsame
      cases h
      exact hsame ▸ .sameStripeEvent cur
    · split at h
      · cases h
      · rename_i row hrow
        cases h
        exact .updateStripeEvent hrow

/-- **What every statement keeps, a flush keeps.** -/
theorem flush_inv {I : Tables → Prop} {cs : List Change} {t t' : Tables} {ids : List ℤ}
    (h : t.flush cs = .ok (ids, t')) (hstep : ∀ c ∈ cs, ∀ s s', c.Applied s s' → I s → I s') (ht : I t) : I t' := by
  induction cs generalizing t ids with
  | nil =>
    cases h
    exact ht
  | cons c cs ih =>
    obtain ⟨ids₁, t₁, ids₂, ha, hf⟩ := flush_cons h
    have ht₁ : I t₁ := hstep c List.mem_cons_self t t₁ (Change.applied ha) ht
    exact ih hf (fun c hc => hstep c (List.mem_cons_of_mem _ hc)) ht₁

/-- A change that writes no subscription leaves the table alone. -/
lemma Change.Applied.keeps {c : Change} {t t' : Tables} (h : c.Applied t t') (ht : c.target = none)
    (ho : c.opened = none) : t'.subscriptions = t.subscriptions := by
  cases h with
  | insertSubscription row => cases ho
  | updateSubscription hrow | sameSubscription => cases ht
  | _ => rfl

theorem flush_keeps {cs : List Change} {t t' : Tables} {ids : List ℤ}
    (h : t.flush cs = .ok (ids, t')) (hcs : ∀ c ∈ cs, c.target = none ∧ c.opened = none) :
    t'.subscriptions = t.subscriptions := by
  refine flush_inv (I := fun s => s.subscriptions = t.subscriptions) h (fun c hc s s' ha hs => ?_) rfl
  exact (ha.keeps (hcs c hc).1 (hcs c hc).2).trans hs

/-- **A flush that opens no subscription rewrites the rows.** -/
theorem flush_rows {cs : List Change} {t t' : Tables} {ids : List ℤ}
    (h : t.flush cs = .ok (ids, t')) (hc : ∀ c ∈ cs, c.opened = none) :
    t'.subscriptions.rows = t.subscriptions.rows.map (rewrite cs) := by
  induction cs generalizing t ids with
  | nil =>
    simp only [Tables.flush, Except.ok.injEq, Prod.mk.injEq] at h
    rw [← h.2]
    exact (List.map_id _).symm
  | cons c cs ih =>
    obtain ⟨ids₁, t₁, ids₂, ha, hf⟩ := flush_cons h
    have hrows : t₁.subscriptions.rows = t.subscriptions.rows.map c.rewrite := by
      cases hct : c.target with
      | none =>
        rw [(Change.applied ha).keeps hct (hc c List.mem_cons_self)]
        refine ((List.map_congr_left fun x _ => ?_).trans (List.map_id _)).symm
        exact Change.rewrite_of_ne (by simp [hct])
      | some id =>
        cases Change.applied ha with
        | updateSubscription hrow =>
          have hput := Except.ok.inj ((apply_update hrow).symm.trans ha)
          exact congrArg (fun p => p.2.subscriptions.rows) hput.symm
        | sameSubscription row =>
          refine ((List.map_congr_left fun x _ => ?_).trans (List.map_id _)).symm
          simp [Change.rewrite, Subscription.writeBack_self]
        | _ => cases hct
    rw [ih hf fun c hc' => hc c (List.mem_cons_of_mem _ hc'), hrows, List.map_map]
    rfl

/-- A commit that opens a subscription appends its row. -/
theorem flush_opened {row : Subscription} {t t' : Tables} {ids : List ℤ}
    (h : t.flush [.insertSubscription row] = .ok (ids, t')) :
    t'.subscriptions = t.subscriptions.insert row := by
  simp only [Tables.flush, Change.apply, bind, Except.bind, pure, Except.pure, Except.ok.injEq,
    Prod.mk.injEq] at h
  rw [← h.2]

/-! ### Admission -/

/-- A rewriting that keeps every indexed value, or drops it, indexes no more than before. -/
lemma filterMap_map_sublist {α β : Type} {f : α → Option β} {g : α → α} {rows : List α}
    (hg : ∀ x ∈ rows, f (g x) = f x ∨ f (g x) = none) :
    ((rows.map g).filterMap f).Sublist (rows.filterMap f) := by
  induction rows with
  | nil => simp
  | cons x rows ih =>
    have ih := ih fun y hy => hg y (List.mem_cons_of_mem _ hy)
    rw [List.map_cons, List.filterMap_cons, List.filterMap_cons]
    rcases hg x List.mem_cons_self with hx | hx
    · rw [hx]
      cases f x with
      | none => exact ih
      | some b => exact ih.cons_cons b
    · rw [hx]
      cases f x with
      | none => exact ih
      | some b => exact ih.cons b

/-- An indexed value belongs to one row. -/
lemma uniqueOn_inj {α β : Type} [DecidableEq β] {f : α → Option β} {rows : List α}
    (h : uniqueOn f rows = true) {a b : α} (ha : a ∈ rows) (hb : b ∈ rows) {k : β} (hfa : f a = some k)
    (hfb : f b = some k) : a = b := by
  unfold uniqueOn at h
  rw [decide_eq_true_eq, List.Nodup, List.pairwise_filterMap] at h
  by_contra hne
  have hsymm : Std.Symm fun x y : α => ∀ c, f x = some c → ∀ c', f y = some c' → c ≠ c' :=
    ⟨fun _ _ hxy c hc c' hc' heq => hxy c' hc' c hc heq.symm⟩
  exact h.forall ha hb hne k hfa k hfb rfl

lemma uniqueOn_map {α β : Type} [DecidableEq β] {f : α → Option β} {g : α → α} {rows : List α}
    (h : uniqueOn f rows = true) (hg : ∀ x ∈ rows, f (g x) = f x ∨ f (g x) = none) :
    uniqueOn f (rows.map g) = true := by
  unfold uniqueOn at h ⊢
  rw [decide_eq_true_eq] at h ⊢
  exact h.sublist (filterMap_map_sublist hg)

/-- **When a rewriting of the subscriptions is admitted.** -/
theorem Schema.admits_revise {S : Schema} {t : Tables} (h : S.admits t = true)
    {f : Subscription → Subscription} {hf : ∀ r, Keyed.key (f r) = Keyed.key r}
    (hacc : ∀ x ∈ t.subscriptions.rows, S.accepts (f x).status = true)
    (hlive : ∀ x ∈ t.subscriptions.rows, liveTenant (f x) = liveTenant x ∨ liveTenant (f x) = none)
    (hstripe : ∀ x ∈ t.subscriptions.rows, (f x).stripeSubscriptionId = x.stripeSubscriptionId) :
    S.admits { t with subscriptions := t.subscriptions.revise f hf } = true := by
  have h := Schema.admits_iff.1 h
  refine Schema.admits_iff.2 { h with
    status := ?_
    live := uniqueOn_map h.live hlive
    stripe := uniqueOn_map h.stripe fun x hx => .inl (hstripe x hx) }
  intro x hx
  obtain ⟨y, hy, rfl⟩ := List.mem_map.1 hx
  exact hacc y hy

/-- **An update of one stored row** is committed, if its status is accepted and no unique index has a
new value. -/
theorem Db.commit_update {S : Schema} {d : Db S} {x x' : Subscription} (hx : x ∈ d.subscriptions.rows)
    (hid : x'.id = x.id) (hacc : S.accepts x'.status = true)
    (hlive : liveTenant x' = liveTenant x ∨ liveTenant x' = none)
    (hstripe : x'.stripeSubscriptionId = x.stripeSubscriptionId) :
    ∃ d' : Db S, d.commit [.updateSubscription x x'] = .ok ([], d') ∧
      d'.tables = d.tables.rewritten [.updateSubscription x x'] := by
  have hflush : d.tables.flush [.updateSubscription x x']
      = .ok ([], d.tables.rewritten [.updateSubscription x x']) := by
    refine flush_updates fun c hc => ?_
    cases List.mem_singleton.1 hc
    exact ⟨x, x', rfl, x, hx, rfl⟩
  -- the row itself is rewritten to its new image, and no other
  have hrow : ∀ y ∈ d.subscriptions.rows, rewrite [.updateSubscription x x'] y = y ∨
      y = x ∧ rewrite [.updateSubscription x x'] y = x' := by
    intro y hy
    by_cases hy' : y.id = x.id
    · have hyx : y = x := d.subscriptions.key_injOn hy hx hy'
      subst hyx
      exact .inr ⟨rfl, by simp [Change.rewrite, Subscription.writeBack_loaded hid]⟩
    · exact .inl (by simp [Change.rewrite, hy'])
  have hadmits : S.admits (d.tables.rewritten [.updateSubscription x x']) = true := by
    refine Schema.admits_revise d.admitted ?_ ?_ ?_
    · intro y hy
      rcases hrow y hy with hsame | ⟨-, hnew⟩
      · rw [hsame]
        exact d.constraints.status y hy
      · rw [hnew]
        exact hacc
    · intro y hy
      rcases hrow y hy with hsame | ⟨rfl, hnew⟩
      · exact .inl (by rw [hsame])
      · rw [hnew]
        exact hlive
    · intro y hy
      rcases hrow y hy with hsame | ⟨rfl, hnew⟩
      · rw [hsame]
      · rw [hnew, hstripe]
  refine ⟨⟨_, hadmits⟩, ?_, rfl⟩
  unfold Db.commit
  rw [hflush]
  exact dif_pos hadmits

/-- A commit goes change by change. -/
lemma Db.commit_cons {S : Schema} {d d₁ : Db S} {c : Change} {cs : List Change}
    (h : c.apply d.tables = .ok ([], d₁.tables)) : d.commit (c :: cs) = d₁.commit cs := by
  have hflush : d.tables.flush (c :: cs) = d₁.tables.flush cs := by
    conv_lhs => unfold Tables.flush
    rw [h]
    rcases hf : d₁.tables.flush cs with e | ⟨ids, t⟩ <;>
      simp [hf, bind, Except.bind, pure, Except.pure]
  unfold Db.commit
  rw [hflush]

/-- An update of a stored invoice that bills what it billed before. -/
lemma Db.apply_updateInvoice {S : Schema} {d : Db S} {i : Invoice} (i' : Invoice)
    (hi : i ∈ d.invoices.rows) (hid : i'.id = i.id) (hperiod : billedPeriod i' = billedPeriod i) :
    ∃ d₁ : Db S, (Change.updateInvoice i i').apply d.tables = .ok ([], d₁.tables) ∧
      d₁.subscriptions = d.subscriptions := by
  by_cases hsame : i' = i
  · exact ⟨d, by simp [Change.apply, hsame], rfl⟩
  have hget : d.tables.invoices.get? i.id = some i := Table.get?_key hi
  have hunique : uniqueOn billedPeriod (d.tables.invoices.put i').rows = true := by
    refine uniqueOn_map d.constraints.period fun y hy => .inl ?_
    by_cases hk : Keyed.key y = Keyed.key i'
    · have hyi : y = i := d.tables.invoices.key_injOn hy hi (hk.trans hid)
      rw [hyi] at hk ⊢
      simp only [Table.overwrite, if_pos hk, hperiod]
    · rw [Table.overwrite_of_ne hk]
  have hadmits : S.admits { d.tables with invoices := d.tables.invoices.put i' } = true :=
    Schema.admits_iff.2 { d.constraints with period := hunique }
  refine ⟨⟨_, hadmits⟩, ?_, rfl⟩
  simp only [Change.apply, if_neg hsame, hget, Invoice.writeBack_loaded hid]

end FastapiTemplate.Database
