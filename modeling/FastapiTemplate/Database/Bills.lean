import FastapiTemplate.Database.Flush

/-!
# What a commit does to the invoices

Change by change: an update rewrites the row with its key, an insertion puts a row at the end, and
nothing else touches the invoices.
-/

namespace FastapiTemplate.Database

open Core Store

/-- Writing an unchanged image back changes nothing. -/
lemma Invoice.writeBack_self (a x : Invoice) : a.writeBack a x = x := by
  simp [writeBack]

namespace Change

/-- What a change does to a stored invoice. -/
def rebill : Change → Invoice → Invoice
  | .updateInvoice loaded cur, x => if x.id = loaded.id then loaded.writeBack cur x else x
  | _, x => x

/-- The invoice a change makes, under the next key. -/
def billed (key : ℤ) : Change → List Invoice
  | .insertInvoice row => [Keyed.withKey key row]
  | _ => []

@[simp] lemma rebill_id (c : Change) (x : Invoice) : (c.rebill x).id = x.id := by
  cases c with
  | updateInvoice loaded cur =>
    simp only [rebill]
    split <;> rfl
  | _ => rfl

end Change

/-- A change of another table. -/
lemma apply_unbilled {c : Change} {t t' : Tables} (hrebill : c.rebill = id)
    (hbilled : c.billed t.invoices.next = []) (h : t'.invoices = t.invoices) :
    t'.invoices.rows = t.invoices.rows.map c.rebill ++ c.billed t.invoices.next := by
  rw [h, hrebill, hbilled, List.map_id, List.append_nil]

/-- **One change of the invoices.** -/
theorem apply_invoiceRows {c : Change} {t t' : Tables} {ids : List ℤ} (h : c.apply t = .ok (ids, t')) :
    t'.invoices.rows = t.invoices.rows.map c.rebill ++ c.billed t.invoices.next := by
  cases Change.applied h with
  | insertInvoice row => exact congrArg (· ++ [_]) (List.map_id _).symm
  | @updateInvoice loaded cur row hrow =>
    obtain ⟨hmem, hid⟩ := Table.get?_eq_some.1 hrow
    refine Eq.trans (List.map_congr_left fun x hx => ?_) (List.append_nil _).symm
    have hid' : row.id = loaded.id := hid
    by_cases hk : x.id = loaded.id
    · rw [t.invoices.key_injOn hx hmem (hk.trans hid'.symm)]
      simp [Table.overwrite, Change.rebill, Invoice.writeBack, hid']
    · simp [Table.overwrite, Change.rebill, Invoice.writeBack, hid', hk]
  | sameInvoice row =>
    refine Eq.trans ?_ (List.append_nil _).symm
    refine ((List.map_congr_left fun x _ => ?_).trans (List.map_id _)).symm
    simp [Change.rebill, Invoice.writeBack_self]
  | _ => exact apply_unbilled rfl rfl rfl

/-- A commit that makes no invoice rewrites the rows one change after another. -/
theorem flush_invoiceRows {cs : List Change} {t t' : Tables} {ids : List ℤ}
    (h : t.flush cs = .ok (ids, t')) (hcs : ∀ c ∈ cs, ∀ row, c ≠ .insertInvoice row) :
    t'.invoices.rows = t.invoices.rows.map fun x => cs.foldl (fun x c => c.rebill x) x := by
  induction cs generalizing t ids with
  | nil =>
    cases h
    exact (List.map_id _).symm
  | cons c cs ih =>
    obtain ⟨ids₁, t₁, ids₂, ha, hf⟩ := flush_cons h
    have hnone : c.billed t.invoices.next = [] := by
      cases c with
      | insertInvoice row => exact absurd rfl (hcs _ List.mem_cons_self row)
      | _ => rfl
    rw [ih hf fun c hc => hcs c (List.mem_cons_of_mem _ hc), apply_invoiceRows ha, hnone, List.append_nil,
      List.map_map]
    rfl

/-- The invoice a change makes. -/
def Change.billing : Change → Option Invoice
  | .insertInvoice row => some row
  | _ => none

/-- **What no update changes** about an invoice: a flush keeps it of every row, and adds the new ones. -/
theorem flush_map {β : Type} (f : Invoice → β) {cs : List Change} {t t' : Tables} {ids : List ℤ}
    (h : t.flush cs = .ok (ids, t')) (hkey : ∀ k row, f (Keyed.withKey k row) = f row)
    (hcs : ∀ loaded cur, .updateInvoice loaded cur ∈ cs → ∀ x, f (loaded.writeBack cur x) = f x) :
    t'.invoices.rows.map f = t.invoices.rows.map f ++ (cs.filterMap Change.billing).map f := by
  induction cs generalizing t ids with
  | nil =>
    cases h
    exact (List.append_nil _).symm
  | cons c cs ih =>
    obtain ⟨ids₁, t₁, ids₂, ha, hf⟩ := flush_cons h
    rw [ih hf fun loaded cur hc => hcs loaded cur (List.mem_cons_of_mem _ hc), apply_invoiceRows ha,
      List.map_append, List.map_map, List.append_assoc]
    congr 1
    · refine List.map_congr_left fun x _ => ?_
      show f (c.rebill x) = f x
      cases c with
      | updateInvoice loaded cur =>
        simp only [Change.rebill]
        split
        · exact hcs loaded cur List.mem_cons_self x
        · rfl
      | _ => rfl
    · rw [List.filterMap_cons]
      cases c with
      | insertInvoice row => simp [Change.billed, Change.billing, hkey]
      | _ => rfl

/-- What holds of the stored and the new rows, and is kept by every update, holds after a flush. -/
theorem flush_forall {p : Invoice → Prop} {cs : List Change} {t t' : Tables} {ids : List ℤ}
    (h : t.flush cs = .ok (ids, t')) (ht : ∀ x ∈ t.invoices.rows, p x)
    (hnew : ∀ row, .insertInvoice row ∈ cs → ∀ k, p (Keyed.withKey k row))
    (hcs : ∀ loaded cur, .updateInvoice loaded cur ∈ cs → ∀ x, p x → p (loaded.writeBack cur x)) :
    ∀ x ∈ t'.invoices.rows, p x := by
  refine flush_inv (I := fun s => ∀ x ∈ s.invoices.rows, p x) h (fun c hc s s' ha hs x hx => ?_) ht
  cases ha with
  | insertInvoice row =>
    rcases Table.mem_insert.1 hx with hold | rfl
    · exact hs x hold
    · exact hnew row hc _
  | updateInvoice hrow =>
    rcases Table.mem_put hx with rfl | ⟨hold, -⟩
    · exact hcs _ _ hc _ (hs _ (Table.get?_eq_some.1 hrow).1)
    · exact hs x hold
  | _ => exact hs x hx

/-! ### Subscriptions are not deleted -/

/-- A row with the key stays. -/
theorem flush_subscription {cs : List Change} {t t' : Tables} {ids : List ℤ} (h : t.flush cs = .ok (ids, t'))
    {x : Subscription} (hx : x ∈ t.subscriptions.rows) : ∃ x' ∈ t'.subscriptions.rows, x'.id = x.id := by
  refine flush_inv (I := fun s => ∃ x' ∈ s.subscriptions.rows, x'.id = x.id) h ?_ ⟨x, hx, rfl⟩
  rintro c - s s' ha ⟨y, hy, hid⟩
  cases ha with
  | insertSubscription row => exact ⟨y, Table.mem_insert.2 (.inl hy), hid⟩
  | updateSubscription hrow => exact ⟨_, List.mem_map_of_mem hy, (Table.key_overwrite _ y).trans hid⟩
  | _ => exact ⟨y, hy, hid⟩

/-! ### Commits that go through -/

/-- A unique index finds at most one row. -/
lemma length_filter_le_one {α β : Type} [DecidableEq β] {f : α → Option β} {rows : List α}
    (h : uniqueOn f rows = true) {p : α → Bool} {k : β} (hp : ∀ a, p a = true → f a = some k) :
    (rows.filter p).length ≤ 1 := by
  have hkeys : (rows.filter p).filterMap f = List.replicate (rows.filter p).length k := by
    refine List.eq_replicate_iff.2 ⟨?_, fun b hb => ?_⟩
    · rw [List.length_filterMap_eq_countP, List.countP_eq_length]
      intro a ha
      rw [hp a (List.mem_filter.1 ha).2]
      rfl
    · obtain ⟨a, ha, hab⟩ := List.mem_filterMap.1 hb
      rw [hp a (List.mem_filter.1 ha).2] at hab
      exact (Option.some.inj hab).symm
  have hnodup : ((rows.filter p).filterMap f).Nodup :=
    (of_decide_eq_true h).sublist (List.filter_sublist.filterMap f)
  rw [hkeys, List.nodup_replicate] at hnodup
  exact hnodup

/-- **A new invoice** is committed if no other one bills the period. -/
theorem Db.commit_insertInvoice {S : Schema} {d : Db S} {row : Invoice}
    (hfree : ∀ i ∈ d.invoices.rows, billedPeriod i ≠ some (row.subscriptionId, row.periodStart)) :
    ∃ d' : Db S, d.commit [.insertInvoice row] = .ok ([d.invoices.next], d') ∧
      d'.invoices = d.invoices.insert row ∧ d'.subscriptions = d.subscriptions ∧ d'.plans = d.plans := by
  have hunique : uniqueOn billedPeriod (d.invoices.insert row).rows = true := by
    have hold := of_decide_eq_true d.constraints.period
    refine decide_eq_true ?_
    show ((d.invoices.rows ++ [Keyed.withKey d.invoices.next row]).filterMap billedPeriod).Nodup
    rw [List.filterMap_append, List.nodup_append]
    refine ⟨hold, ?_, ?_⟩
    · rw [List.filterMap_cons]
      split <;> simp
    · rintro a ha b hb rfl
      obtain ⟨i, hi, hia⟩ := List.mem_filterMap.1 ha
      obtain ⟨x, hx, hxa⟩ := List.mem_filterMap.1 hb
      rw [List.mem_singleton.1 hx] at hxa
      refine hfree i hi ?_
      rw [hia, ← hxa]
      unfold billedPeriod at hxa ⊢
      split at hxa
      · cases hxa
      · rename_i hvoid
        rw [if_neg hvoid]
        rfl
  have hadmits : S.admits { d.tables with invoices := d.invoices.insert row } = true :=
    Schema.admits_iff.2 { d.constraints with period := hunique }
  refine ⟨⟨_, hadmits⟩, ?_, rfl, rfl, rfl⟩
  unfold Db.commit
  simp only [Tables.flush, Change.apply, bind, Except.bind, pure, Except.pure, List.append_nil]
  exact dif_pos hadmits

lemma Change.Applied.plans {c : Change} {t t' : Tables} (h : c.Applied t t') : t'.plans = t.plans := by
  cases h <;> rfl

/-- **An update of the latest invoice** that bills what it billed before. -/
theorem Db.commit_updateLast {S : Schema} {d : Db S} {rows : List Invoice} {i i' : Invoice}
    (hrows : d.invoices.rows = rows ++ [i]) (hid : i'.id = i.id) (hperiod : billedPeriod i' = billedPeriod i) :
    ∃ d' : Db S, d.commit [.updateInvoice i i'] = .ok ([], d') ∧ d'.invoices.rows = rows ++ [i'] ∧
      d'.subscriptions = d.subscriptions ∧ d'.plans = d.plans := by
  have hi : i ∈ d.invoices.rows := by rw [hrows]; exact List.mem_append_right _ List.mem_cons_self
  obtain ⟨d', happly, hsubs⟩ := Db.apply_updateInvoice i' hi hid hperiod
  have hcommit : d.commit [.updateInvoice i i'] = .ok ([], d') := by
    rw [Db.commit_cons happly]
    simp [Db.commit, Tables.flush, d'.admitted]
  refine ⟨d', hcommit, ?_, hsubs, (Change.applied happly).plans⟩
  have hbills := apply_invoiceRows happly
  have hnodup := d.invoices.nodup_keys
  rw [hrows, List.map_append, List.nodup_append] at hnodup
  rw [show d'.tables.invoices.rows = d'.invoices.rows from rfl,
    show d.tables.invoices.rows = rows ++ [i] from hrows, List.map_append] at hbills
  rw [hbills]
  show rows.map _ ++ [(Change.updateInvoice i i').rebill i] ++ [] = _
  rw [List.append_nil]
  congr 1
  · refine (List.map_congr_left fun x hx => ?_).trans (List.map_id _)
    have hne : x.id ≠ i.id := fun heq =>
      hnodup.2.2 x.id (List.mem_map_of_mem hx) i.id (List.mem_map_of_mem List.mem_cons_self) heq
    simp [Change.rebill, hne]
  · simp [Change.rebill, Invoice.writeBack_loaded hid]

end FastapiTemplate.Database
