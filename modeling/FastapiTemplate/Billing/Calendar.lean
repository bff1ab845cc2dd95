import FastapiTemplate.Billing.Pacing
import FastapiTemplate.Core.Exec
import FastapiTemplate.Core.Reads
import FastapiTemplate.Database.Bills
import FastapiTemplate.Store.Tiling

/-!
# Billed periods

The periods of the invoices of a subscription, beside its current period. Nothing in the code makes them
tile time: a request may bill any period, and a change of plan ends a period before it is billed
(`periods_do_not_tile`). `periods_tile` says when they do.
-/

namespace FastapiTemplate.Billing

open Core Database Python Effects Script Store

variable {S : Schema} {ι : Type} [DecidableEq ι]

/-! ### Periods -/

def currentPeriod (sub : Subscription) : Stretch Datetime := ⟨sub.currentPeriodStart, sub.currentPeriodEnd⟩

def invoicePeriod (inv : Invoice) : Stretch Datetime := ⟨inv.periodStart, inv.periodEnd⟩

/-- The periods of the invoices of a subscription that are not void. -/
def billedPeriods (d : Db S) (subscriptionId : ℤ) : List (Stretch Datetime) :=
  (d.invoices.rows.filter fun i => i.subscriptionId == subscriptionId && i.status != .void).map invoicePeriod

/-- The start of the first current period that a subscription had. -/
def firstStart (states : List (Db S)) (subscriptionId : ℤ) : Option Datetime :=
  states.findSome? fun d => (d.subscriptions.get? subscriptionId).map Subscription.currentPeriodStart

/-- The billed periods are disjoint, and with the current one cover the time since the first. -/
def Tiles (states : List (Db S)) (d : Db S) (sub : Subscription) : Prop :=
  (billedPeriods d sub.id).Pairwise Stretch.Apart ∧
  ∀ first ∈ firstStart states sub.id, ∀ t, first ≤ t → t < sub.currentPeriodEnd →
    (∃ p ∈ billedPeriods d sub.id, p.Contains t) ∨ (currentPeriod sub).Contains t

lemma mem_billedPeriods {d : Db S} {subscriptionId : ℤ} {p : Stretch Datetime} :
    p ∈ billedPeriods d subscriptionId ↔ ∃ i ∈ d.invoices.rows, i.subscriptionId = subscriptionId ∧
      i.status ≠ .void ∧ invoicePeriod i = p := by
  simp [billedPeriods, and_assoc]

/-- The unique index: no two of them start at the same time. -/
lemma nodup_starts (d : Db S) (subscriptionId : ℤ) :
    ((billedPeriods d subscriptionId).map Stretch.start).Nodup := by
  have hperiod := d.constraints.period
  unfold uniqueOn at hperiod
  rw [decide_eq_true_eq] at hperiod
  set rows := d.invoices.rows.filter fun i => i.subscriptionId == subscriptionId && i.status != .void
  have hsub : (rows.filterMap billedPeriod).Nodup :=
    hperiod.sublist (List.filter_sublist.filterMap billedPeriod)
  have heq : rows.filterMap billedPeriod =
      ((billedPeriods d subscriptionId).map Stretch.start).map fun t => (subscriptionId, t) := by
    rw [billedPeriods, List.map_map, List.map_map, ← List.filterMap_eq_map]
    refine List.filterMap_congr fun i hi => ?_
    have hi := (List.mem_filter.1 hi).2
    simp only [Bool.and_eq_true, beq_iff_eq, bne_iff_ne] at hi
    simp [billedPeriod, hi.1, hi.2, invoicePeriod]
  rw [heq] at hsub
  exact hsub.of_map _

lemma firstStart_snoc (states : List (Db S)) (d : Db S) (id : ℤ) :
    firstStart (states ++ [d]) id =
      (firstStart states id).or ((d.subscriptions.get? id).map Subscription.currentPeriodStart) := by
  simp [firstStart, List.findSome?_append]

/-! ### What an operation bills -/

/-- The subscription is stored in one of the states. -/
def Stored (m : List (Db S)) (sub : Subscription) : Prop := ∃ d ∈ m, sub ∈ d.subscriptions.rows

/-- An operation that bills writes no subscription, and what it bills is a current period that it has
read. -/
def Billable (op : Operation) (m : List (Db S)) (c : Change) : Prop :=
  (op.Bills → writes c = false) ∧ ∀ row, c = .insertInvoice row → op.Bills ∧
    ∃ sub, Stored m sub ∧ row.subscriptionId = sub.id ∧ invoicePeriod row = currentPeriod sub

lemma Stored.mono {m m' : List (Db S)} {sub : Subscription} (hm : m ⊆ m') (h : Stored m sub) : Stored m' sub :=
  let ⟨d, hd, hsub⟩ := h
  ⟨d, hm hd, hsub⟩

lemma billable_lasting (op : Operation) : Lasting (S := S) (Billable op) := by
  intro m m' c hm h
  refine ⟨h.1, fun row hrow => ?_⟩
  obtain ⟨hop, sub, hsub, hid, hperiod⟩ := h.2 row hrow
  exact ⟨hop, sub, hsub.mono hm, hid, hperiod⟩

section Reading

variable {op : Operation} {m₀ : List (Db S)} {α : Type}

/-- A change of something else. -/
lemma billable_updateInvoice (m : List (Db S)) (loaded cur : Invoice) :
    Billable op m (.updateInvoice loaded cur) := ⟨fun _ => rfl, fun _ h => by cases h⟩

lemma sees_idle {p : Py S α} {Q : α → Prop} (h : Idle p Q) : Sees (Billable op) m₀ p fun _ => Q :=
  .of_idle (billable_lasting op) h

lemma sees_getLiveForTenant (tenantId : Option ℤ) :
    Sees (Billable op) m₀ (getLiveForTenant tenantId : Py S (Option Subscription))
      fun m o => ∀ sub, o = some sub → Stored m sub := by
  refine .bind (.select (billable_lasting op) _ _ _) fun rows m _ hrows => .pure fun m' hm' sub hsub => ?_
  obtain ⟨d, hd, hrows⟩ := hrows
  exact ⟨d, hm' hd, (hrows sub (List.mem_of_mem_getLast? hsub)).1⟩

lemma sees_issue (invoiceId : ℤ) (held : Option Invoice) :
    Sees (Billable op) m₀ (issue invoiceId held : Py S Invoice) := by
  unfold issue
  refine .bind (sees_idle (.selectOne _ _ _)) fun o _ _ _ => ?_
  cases o with
  | none => exact .throw _
  | some row =>
    exact .bind (sees_idle (.checked _)) fun _ _ _ _ => .bind (sees_idle .datetimeNow) fun now m _ _ =>
      .bind (.add (billable_lasting op) (billable_updateInvoice m _ _)) fun _ _ _ _ =>
      .bind .commit fun _ _ _ _ => (sees_idle (.refresh _ _ _)).mono fun _ _ _ => trivial

lemma sees_generateInvoice (hop : op.Bills) {sub : Subscription} (hsub : Stored m₀ sub) (plan : Plan) :
    Sees (Billable op) m₀ (generateInvoice sub plan : Py S Invoice) := by
  unfold generateInvoice
  split
  · exact .throw _
  dsimp only
  split
  · exact .throw _
  refine .bind (sees_idle (.selectOne _ _ _)) fun o m hm _ => ?_
  cases o with
  | some existing => exact .throw _
  | none =>
    refine .bind (sees_idle (idle_appendMeteredLines _ _ _)) fun metered m' hm' _ => .tryCatch ?_ fun e => ?_
    · unfold createInvoice
      refine .bind (sees_idle .datetimeNow) fun now m'' hm'' _ => .bind (.add (billable_lasting op) ?_)
        fun _ _ _ _ => .bind .commit fun _ _ _ _ => (sees_idle (.refresh _ _ _)).mono fun _ _ _ => trivial
      refine ⟨fun _ => rfl, fun row hrow => ⟨hop, sub, ?_, ?_⟩⟩
      · exact hsub.mono (List.Subset.trans hm (List.Subset.trans hm' hm''))
      · cases hrow
        exact ⟨rfl, rfl⟩
    · split
      · exact .bind .rollback fun _ _ _ _ => .throw _
      · exact .throw _

lemma sees_invoiceEach (hop : op.Bills) (loaded : ℕ) (plans : List Plan) {subs : List Subscription}
    (hsubs : ∀ sub ∈ subs, Stored m₀ sub) (st : InvoiceSweepStats) :
    Sees (Billable op) m₀ (invoiceEach loaded plans st subs : Py S InvoiceSweepStats) := by
  have hdue : ∀ {m : List (Db S)} {sub : Subscription} (_ : Stored m sub) (plan : Plan),
      Sees (Billable op) m (invoiceDue sub plan : Py S Billed) := by
    intro m sub hsub plan
    unfold invoiceDue
    refine .bind (sees_idle (.selectOne _ _ _)) fun o m' hm' _ => ?_
    cases o with
    | some existing => exact .pure fun _ _ => trivial
    | none =>
      refine .bind (sees_generateInvoice hop (hsub.mono hm') plan) fun inv _ _ _ => ?_
      split
      · exact .bind (sees_issue _ _) fun _ _ _ _ => .pure fun _ _ => trivial
      · exact .pure fun _ _ => trivial
  have hone : ∀ {m : List (Db S)} {sub : Subscription} (_ : Stored m sub),
      Sees (Billable op) m (invoiceOne loaded plans sub : Py S (Option Billed)) := by
    intro m sub hsub
    unfold invoiceOne
    refine .bind (sees_idle (.attributes _)) fun _ m' hm' _ => .bind (Q := fun _ _ => True) ?_
      fun o m'' hm'' _ => ?_
    · unfold planOf
      split
      · exact .pure fun _ _ => trivial
      · exact (sees_idle (Idle.getPlan _)).mono fun _ _ _ => trivial
    · cases o with
      | none => exact .pure fun _ _ => trivial
      | some plan =>
        exact .tryCatch (.map (hdue (hsub.mono (List.Subset.trans hm' hm'')) plan)) fun _ =>
          .bind (sees_idle (.attributes _)) fun _ _ _ _ => .pure fun _ _ => trivial
  induction subs generalizing st m₀ with
  | nil => exact .pure fun _ _ => trivial
  | cons sub subs ih =>
    exact .bind (hone (hsubs sub List.mem_cons_self)) fun _ _ hm _ =>
      ih (fun sub hsub => (hsubs sub (List.mem_cons_of_mem _ hsub)).mono hm) _

end Reading

/-- The operation voids nothing, and bills no period but the current one. -/
def Operation.OnCurrent : Operation → Prop
  | .voidInvoice _ _ => False
  | .generateInvoice _ periodStart periodEnd => periodStart = none ∧ periodEnd = none
  | _ => True

/-- What such an operation commits. -/
theorem follows_billable (cfg : Settings) {op : Operation} (hop : op.OnCurrent) (tenant : Option ℤ) :
    (op.script (S := S) cfg { tenant := tenant }).Follows (reading (Billable op)) [] fun _ _ => True := by
  have hsees : ∀ {α : Type} {p : Py S α}, Sees (Billable op) [] p →
      Prog.Follows (reading (Billable op)) ((do let _ ← p : Py S Unit) { tenant := tenant }) []
        fun _ _ => True := by
    intro α p hp
    have hwp := hp { tenant := tenant } [] (List.Subset.refl []) (each_nil _)
    have hend : Wp (reading (Billable op)) (do let _ ← p : Py S Unit) { tenant := tenant } []
        (fun _ _ _ => True) fun _ _ _ => True :=
      wp_bind.2 (hwp.mono (fun _ _ _ _ => trivial) fun _ _ _ _ => trivial)
    exact Prog.Follows.weaken hend fun _ _ _ => trivial
  have hother : ¬op.Bills → (op.script (S := S) cfg { tenant := tenant }).Follows (reading (Billable op)) []
      fun _ _ => True := by
    intro hnot
    refine (follows_reading (fun cs hcs m c hc => ?_) (paced cfg op tenant) []).weaken fun _ _ _ => trivial
    refine ⟨fun h => absurd h hnot, ?_⟩
    rintro row rfl
    exact absurd (hcs _ hc).2.2 hnot
  cases op with
  | generateInvoice caller periodStart periodEnd =>
    obtain ⟨rfl, rfl⟩ := hop
    have hbills : (Operation.generateInvoice caller none none).Bills := trivial
    refine hsees ?_
    unfold generateInvoiceEndpoint
    refine .bind (sees_idle (.checked _)) fun _ _ _ _ => ?_
    split
    · exact .throw _
    refine .bind (sees_getLiveForTenant _) fun o m _ ho => ?_
    cases o with
    | none => exact .throw _
    | some sub =>
      refine .bind (sees_idle (Idle.getPlan _)) fun o m' hm' _ => ?_
      cases o with
      | none => exact .throw _
      | some plan =>
        exact .bind (sees_generateInvoice hbills ((ho sub rfl).mono hm') plan) fun inv _ _ _ =>
          .bind (sees_idle (.publish _ _)) fun _ _ _ _ => .pure fun _ _ => trivial
  | invoiceSweep order =>
    have hbills : (Operation.invoiceSweep order).Bills := trivial
    refine hsees ?_
    unfold generateDueInvoicesAsync
    refine .bind (sees_idle .datetimeNow) fun now _ _ _ =>
      .bind (.select (billable_lasting _) _ _ _) fun rows m _ hrows =>
      .bind (Q := fun _ _ => True) ?_ fun plans m' hm' _ => .bind (sees_idle .getState) fun s m'' hm'' _ => ?_
    · unfold loadPlans
      split
      · exact .pure fun _ _ => trivial
      · exact (sees_idle (.execute _)).mono fun _ _ _ => trivial
    · obtain ⟨d, hd, hrows⟩ := hrows
      refine sees_invoiceEach hbills _ _ (fun sub hsub => ?_) _
      exact ⟨d, hm'' (hm' hd), (hrows sub ((order.perm rows).mem_iff.1 hsub)).1⟩
  | request r => exact hother fun h => h
  | issueInvoice caller invoiceId => exact hother fun h => h
  | voidInvoice caller invoiceId => exact hop.elim

/-! ### The calendar of a run -/

/-- The line of every subscription is tiled; no invoice is void, and each belongs to a subscription. -/
structure Calendar (states : List (Db S)) (d : Db S) : Prop where
  standing : ∀ i ∈ d.invoices.rows, i.status ≠ .void
  owned : ∀ i ∈ d.invoices.rows, ∃ x ∈ d.subscriptions.rows, x.id = i.subscriptionId
  known : ∀ id, (firstStart states id).isSome = true → ∃ x ∈ d.subscriptions.rows, x.id = id
  tiled : ∀ x ∈ d.subscriptions.rows, ∃ first, firstStart states x.id = some first ∧
    Tiling first (currentPeriod x) (billedPeriods d x.id)

/-- Every period that a script has read is still current, or billed. -/
def Remembered (d : Db S) (m : List (Db S)) : Prop :=
  ∀ y, Stored m y → ∃ x ∈ d.subscriptions.rows, x.id = y.id ∧
    (currentPeriod x = currentPeriod y ∨ currentPeriod y ∈ billedPeriods d y.id)

/-- Between two states, a subscription keeps its current period, or starts the next where it ended, and
has been billed for it. -/
def Renews (b d : Db S) : Prop :=
  ∀ x ∈ b.subscriptions.rows, ∀ x' ∈ d.subscriptions.rows, x'.id = x.id →
    currentPeriod x' = currentPeriod x ∨
      x'.currentPeriodStart = x.currentPeriodEnd ∧ currentPeriod x ∈ billedPeriods b x.id

/-- Every commit renews the periods that it changes. -/
def Aligned (w : World S) : Eff → Prop
  | .commit cs => Renews w.db (w.commit cs).2.db
  | _ => True

instance (b d : Db S) : Decidable (Renews b d) :=
  inferInstanceAs (Decidable (∀ x ∈ b.subscriptions.rows, ∀ x' ∈ d.subscriptions.rows, x'.id = x.id →
    currentPeriod x' = currentPeriod x ∨
      x'.currentPeriodStart = x.currentPeriodEnd ∧ currentPeriod x ∈ billedPeriods b x.id))

instance (w : World S) : (e : Eff) → Decidable (Aligned w e)
  | .commit cs => inferInstanceAs (Decidable (Renews w.db (w.commit cs).2.db))
  | .now | .query | .publish _ | .enter _ | .redis _ | .recollect _ _ | .remember _ _ _ =>
    inferInstanceAs (Decidable True)

/-- The periods that a commit bills to a subscription. -/
def newPeriods (cs : List Change) (subscriptionId : ℤ) : List (Stretch Datetime) :=
  ((cs.filterMap Change.billing).filter fun i => i.subscriptionId == subscriptionId).map invoicePeriod

lemma mem_newPeriods {cs : List Change} {id : ℤ} {p : Stretch Datetime} :
    p ∈ newPeriods cs id ↔ ∃ row, .insertInvoice row ∈ cs ∧ row.subscriptionId = id ∧ invoicePeriod row = p := by
  have hbilling : ∀ row, row ∈ cs.filterMap Change.billing ↔ .insertInvoice row ∈ cs := by
    intro row
    rw [List.mem_filterMap]
    constructor
    · rintro ⟨c, hc, hrow⟩
      cases c with
      | insertInvoice r =>
        cases hrow
        exact hc
      | _ => cases hrow
    · exact fun h => ⟨_, h, rfl⟩
  simp [newPeriods, hbilling, and_assoc]

section Commit

variable {op : Operation} {b d : Db S} {cs : List Change} {ids : List ℤ} {m : List (Db S)}
  (hf : b.tables.flush cs = .ok (ids, d.tables)) (hlawful : Each (Lawful op) cs) (hop : op.OnCurrent)
  (hstanding : ∀ i ∈ b.invoices.rows, i.status ≠ .void)

include hf hlawful hop hstanding

/-- No operation but a voiding leaves an invoice void. -/
lemma standing_flush : ∀ i ∈ d.invoices.rows, i.status ≠ .void := by
  refine flush_forall hf hstanding (fun row hrow k => ?_) fun loaded cur hc x hx => ?_
  · rw [show (Keyed.withKey k row).status = .draft from (hlawful _ hrow).1]
    decide
  · have hcur : cur.status ≠ .void := by
      intro hv
      obtain ⟨caller, id, rfl⟩ := (hlawful _ hc).2 hv
      exact hop
    show column loaded.status cur.status x.status ≠ .void
    unfold column
    split
    · exact hx
    · exact hcur

/-- A commit adds to the billed periods those of its invoices. -/
lemma billedPeriods_flush (id : ℤ) : billedPeriods d id = billedPeriods b id ++ newPeriods cs id := by
  have hproj : ∀ {e : Db S}, (∀ i ∈ e.invoices.rows, i.status ≠ .void) → billedPeriods e id =
      ((e.invoices.rows.map fun i => (i.subscriptionId, invoicePeriod i)).filter (·.1 == id)).map Prod.snd := by
    intro e he
    rw [List.filter_map, List.map_map]
    unfold billedPeriods
    refine congrArg (List.map invoicePeriod) (List.filter_congr fun i hi => ?_)
    simp [he i hi]
  have hmap := flush_map (fun i => (i.subscriptionId, invoicePeriod i)) hf (fun _ _ => rfl) ?_
  · rw [hproj (standing_flush hf hlawful hop hstanding), hproj hstanding, Db.invoices, hmap,
      List.filter_append, List.map_append]
    refine congrArg (_ ++ ·) ?_
    rw [List.filter_map, List.map_map]
    rfl
  · intro loaded cur hc x
    obtain ⟨⟨-, hrest⟩, -⟩ := hlawful _ hc
    rw [hrest]
    simp [Invoice.writeBack, invoicePeriod]

end Commit

/-- What is read stays current or is billed, when periods are renewed. -/
lemma Remembered.step {b d : Db S} {m : List (Db S)} (h : Remembered b m) (hrenew : Renews b d)
    (hids : ∀ x ∈ b.subscriptions.rows, ∃ x' ∈ d.subscriptions.rows, x'.id = x.id)
    (hbilled : ∀ id, billedPeriods b id ⊆ billedPeriods d id) : Remembered d m := by
  intro y hy
  obtain ⟨x, hx, hid, hperiod⟩ := h y hy
  obtain ⟨x', hx', hid'⟩ := hids x hx
  refine ⟨x', hx', hid'.trans hid, ?_⟩
  rcases hperiod with hcur | hmem
  · rcases hrenew x hx x' hx' hid' with hsame | ⟨-, hmem⟩
    · exact .inl (hsame.trans hcur)
    · right
      rw [hcur, hid] at hmem
      exact hbilled y.id hmem
  · exact .inr (hbilled y.id hmem)

/-- A query reads what is stored. -/
lemma Remembered.query {d : Db S} {m : List (Db S)} (h : Remembered d m) : Remembered d (d :: m) := by
  rintro y ⟨e, he, hy⟩
  rcases List.mem_cons.1 he with rfl | he
  · exact ⟨y, hy, rfl, .inl rfl⟩
  · exact h y ⟨e, he, hy⟩

section Step

variable {states : List (Db S)} {op : Operation} {b d : Db S} {cs : List Change} {ids : List ℤ} {m : List (Db S)}
  {x x' : Subscription} {first : Datetime}

/-- Whoever has an invoice after a commit was there before it. -/
lemma Calendar.owner (h : Calendar states b) (hm : Remembered b m)
    (hf : b.tables.flush cs = .ok (ids, d.tables)) (hlawful : Each (Lawful op) cs) (hbill : Each (Billable op m) cs) :
    ∀ i ∈ d.invoices.rows, ∃ x ∈ b.subscriptions.rows, x.id = i.subscriptionId := by
  refine flush_forall hf h.owned (fun row hrow k => ?_) fun loaded cur hc x hx => ?_
  · obtain ⟨-, y, hy, hsub, -⟩ := (hbill _ hrow).2 row rfl
    obtain ⟨x, hx, hid, -⟩ := hm y hy
    exact ⟨x, hx, hid.trans hsub.symm⟩
  · obtain ⟨⟨-, hrest⟩, -⟩ := hlawful _ hc
    rw [hrest]
    simpa [Invoice.writeBack] using hx

/-- A subscription that had a first period is still there. -/
lemma Calendar.known_snoc (h : Calendar states b)
    (hids : ∀ x ∈ b.subscriptions.rows, ∃ x' ∈ d.subscriptions.rows, x'.id = x.id) (id : ℤ)
    (hid : (firstStart (states ++ [d]) id).isSome = true) : ∃ x ∈ d.subscriptions.rows, x.id = id := by
  rw [firstStart_snoc] at hid
  rcases hfirst : firstStart states id with _ | first
  · rw [hfirst] at hid
    rcases hget : d.subscriptions.get? id with _ | x
    · simp [hget] at hid
    · exact ⟨x, Table.get?_eq_some.1 hget⟩
  · obtain ⟨x, hx, hid⟩ := h.known id (by rw [hfirst]; rfl)
    obtain ⟨x', hx', hid'⟩ := hids x hx
    exact ⟨x', hx', hid'.trans hid⟩

/-- An operation that bills leaves the subscriptions as they are, and bills a current period once. -/
lemma tiling_of_bills (hm : Remembered b m) (hf : b.tables.flush cs = .ok (ids, d.tables))
    (hlawful : Each (Lawful op) cs) (hbill : Each (Billable op m) cs) (hb : op.Bills)
    (hx : x ∈ b.subscriptions.rows) (hx' : x' ∈ d.subscriptions.rows) (hid : x'.id = x.id)
    (hbilled : billedPeriods d x'.id = billedPeriods b x'.id ++ newPeriods cs x'.id)
    (htiling : Tiling first (currentPeriod x) (billedPeriods b x'.id)) :
    Tiling first (currentPeriod x') (billedPeriods d x'.id) := by
  have hsubs : d.subscriptions = b.subscriptions :=
    flush_keeps hf (not_writes (Each.not_writes hbill fun c hc => hc.1 hb))
  rw [hsubs] at hx'
  obtain rfl := b.subscriptions.key_injOn hx' hx hid
  have hn := nodup_starts d x'.id
  rw [hbilled] at hn ⊢
  refine htiling.bill (fun p hp => ?_) (fun p hp => ?_) hn
  · obtain ⟨row, hrow, hsub, rfl⟩ := mem_newPeriods.1 hp
    obtain ⟨-, y, hy, hsub', hperiod⟩ := (hbill _ hrow).2 row rfl
    obtain ⟨x, hx₁, hid₁, hcur⟩ := hm y hy
    have hx : x = x' := b.subscriptions.key_injOn hx₁ hx' (hid₁.trans (hsub'.symm.trans hsub))
    rw [hperiod, ← hx]
    rcases hcur with hcur | hmem
    · exact hcur.symm
    · -- a period billed before is not billed again
      rw [← hsub', hsub, ← hperiod] at hmem
      rw [List.map_append, List.nodup_append] at hn
      exact absurd rfl (hn.2.2 _ (List.mem_map_of_mem hmem) _ (List.mem_map_of_mem hp))
  · obtain ⟨row, hrow, -, rfl⟩ := mem_newPeriods.1 hp
    exact (hlawful _ hrow).2.1

/-- Any other operation bills nothing, and may renew the period. -/
lemma tiling_of_not_bills (hbill : Each (Billable op m) cs) (hrenew : Renews b d) (hb : ¬op.Bills)
    (hx : x ∈ b.subscriptions.rows) (hx' : x' ∈ d.subscriptions.rows) (hid : x'.id = x.id)
    (hbilled : billedPeriods d x'.id = billedPeriods b x'.id ++ newPeriods cs x'.id)
    (htiling : Tiling first (currentPeriod x) (billedPeriods b x'.id)) :
    Tiling first (currentPeriod x') (billedPeriods d x'.id) := by
  have hnew : newPeriods cs x'.id = [] := by
    refine List.eq_nil_iff_forall_not_mem.2 fun p hp => ?_
    obtain ⟨row, hrow, -⟩ := mem_newPeriods.1 hp
    exact hb ((hbill _ hrow).2 row rfl).1
  rw [hbilled, hnew, List.append_nil]
  rcases hrenew x hx x' hx' hid with hsame | ⟨hstart, hmem⟩
  · rw [hsame]
    exact htiling
  · rw [← hid] at hmem
    exact htiling.renew hmem hstart

/-- The line of a new subscription begins. -/
lemma Calendar.opened (h : Calendar states b)
    (howned : ∀ i ∈ d.invoices.rows, ∃ x ∈ b.subscriptions.rows, x.id = i.subscriptionId)
    (hx' : x' ∈ d.subscriptions.rows) (hold : ¬∃ x ∈ b.subscriptions.rows, x'.id = x.id) :
    ∃ first, firstStart (states ++ [d]) x'.id = some first ∧
      Tiling first (currentPeriod x') (billedPeriods d x'.id) := by
  have hnone : firstStart states x'.id = none := by
    by_contra hne
    obtain ⟨x, hx, hid⟩ := h.known x'.id (Option.isSome_iff_ne_none.2 hne)
    exact hold ⟨x, hx, hid.symm⟩
  have hempty : billedPeriods d x'.id = [] := by
    refine List.eq_nil_iff_forall_not_mem.2 fun p hp => ?_
    obtain ⟨i, hi, hsub, -⟩ := mem_billedPeriods.1 hp
    obtain ⟨x, hx, hid⟩ := howned i hi
    exact hold ⟨x, hx, (hid.trans hsub).symm⟩
  have hget : d.subscriptions.get? x'.id = some x' := Table.get?_key hx'
  refine ⟨x'.currentPeriodStart, by rw [firstStart_snoc, hnone, hget]; rfl, ?_⟩
  rw [hempty]
  exact .start (currentPeriod x')

/-- **One commit.** -/
theorem Calendar.step (h : Calendar states b) (hm : Remembered b m)
    (hf : b.tables.flush cs = .ok (ids, d.tables)) (hop : op.OnCurrent) (hlawful : Each (Lawful op) cs)
    (hbill : Each (Billable op m) cs) (hrenew : Renews b d) : Calendar (states ++ [d]) d := by
  have hids : ∀ x ∈ b.subscriptions.rows, ∃ x' ∈ d.subscriptions.rows, x'.id = x.id :=
    fun x hx => flush_subscription hf hx
  have howned := h.owner hm hf hlawful hbill
  refine ⟨standing_flush hf hlawful hop h.standing, fun i hi => ?_, h.known_snoc hids, fun x' hx' => ?_⟩
  · obtain ⟨x, hx, hid⟩ := howned i hi
    obtain ⟨x', hx', hid'⟩ := hids x hx
    exact ⟨x', hx', hid'.trans hid⟩
  · by_cases hold : ∃ x ∈ b.subscriptions.rows, x'.id = x.id
    · obtain ⟨x, hx, hid⟩ := hold
      obtain ⟨first, hfirst, htiling⟩ := h.tiled x hx
      rw [← hid] at hfirst htiling
      have hbilled := billedPeriods_flush hf hlawful hop h.standing x'.id
      refine ⟨first, by rw [firstStart_snoc, hfirst]; rfl, ?_⟩
      by_cases hb : op.Bills
      · exact tiling_of_bills hm hf hlawful hbill hb hx hx' hid hbilled htiling
      · exact tiling_of_not_bills hbill hrenew hb hx hx' hid hbilled htiling
    · exact h.opened howned hx' hold

end Step

/-! ### Every run -/

/-- The beginning of a run: what is invoiced is the current period. -/
def Opening (d : Db S) : Prop :=
  ∀ i ∈ d.invoices.rows, i.status ≠ .void ∧ i.periodStart < i.periodEnd ∧
    ∃ x ∈ d.subscriptions.rows, x.id = i.subscriptionId ∧ currentPeriod x = invoicePeriod i

instance (d : Db S) : Decidable (Opening d) :=
  inferInstanceAs (Decidable (∀ i ∈ d.invoices.rows, i.status ≠ .void ∧ i.periodStart < i.periodEnd ∧
    ∃ x ∈ d.subscriptions.rows, x.id = i.subscriptionId ∧ currentPeriod x = invoicePeriod i))

lemma firstStart_single (d : Db S) {x : Subscription} (hx : x ∈ d.subscriptions.rows) :
    firstStart [d] x.id = some x.currentPeriodStart := by
  have hget : d.subscriptions.get? x.id = some x := Table.get?_key hx
  simp [firstStart, hget]

lemma Opening.calendar {d : Db S} (h : Opening d) : Calendar [d] d := by
  refine ⟨fun i hi => (h i hi).1, fun i hi => ?_, fun id hid => ?_, fun x hx => ?_⟩
  · obtain ⟨-, -, x, hx, hid, -⟩ := h i hi
    exact ⟨x, hx, hid⟩
  · rcases hget : d.subscriptions.get? id with _ | x
    · simp [firstStart, hget] at hid
    · exact ⟨x, Table.get?_eq_some.1 hget⟩
  · refine ⟨_, firstStart_single d hx, ?_⟩
    have hperiods : ∀ p ∈ billedPeriods d x.id, p = currentPeriod x ∧ p.start < p.stop := by
      intro p hp
      obtain ⟨i, hi, hsub, -, rfl⟩ := mem_billedPeriods.1 hp
      obtain ⟨-, hproper, y, hy, hid, hperiod⟩ := h i hi
      rw [d.subscriptions.key_injOn hx hy (hsub.symm.trans hid.symm)]
      exact ⟨hperiod.symm, hproper⟩
    exact (Tiling.start (currentPeriod x)).bill (fun p hp => (hperiods p hp).1)
      (fun p hp => (hperiods p hp).2) (nodup_starts d x.id)

/-- What a script has read, and what its session is about to commit. -/
def billing (op : Operation) : Monitor Eff (Answer S) (Phase × List (Db S)) :=
  (pace (Each (Lawful op))).both (reading (Billable op))

/-- One script reads on, the others remember what they did. -/
lemma remembered_update {d : Db S} {m : ι → Phase × List (Db S)} {m' : Phase × List (Db S)} (i : ι)
    (hall : ∀ j, Remembered d (m j).2) (hm' : Remembered d m'.2) (j : ι) :
    Remembered d (Function.update m i m' j).2 := by
  by_cases hj : j = i
  · rw [hj, Function.update_self]
    exact hm'
  · rw [Function.update_of_ne hj]
    exact hall j

/-- **One effect** of one of the operations. -/
lemma calendar_serve {db : Db S} {op : ι → Operation} (hop : ∀ i, (op i).OnCurrent) (w : World S)
    (m : ι → Phase × List (Db S)) (i : ι) (e : Eff) (hallows : (billing (op i)).allows (m i) e)
    (ha : Aligned w e)
    (h : Calendar (db :: w.log.map Prod.snd) w.db ∧ ∀ j, Remembered w.db (m j).2) :
    Calendar (db :: (serve e w).2.log.map Prod.snd) (serve e w).2.db ∧ ∀ j, Remembered (serve e w).2.db
      (Function.update m i ((billing (op i)).next (m i) e (serve e w).1) j).2 := by
  obtain ⟨hp, hb⟩ := hallows
  obtain ⟨hcal, hrem⟩ := h
  cases e with
  | query =>
    refine ⟨hcal, remembered_update i hrem ?_⟩
    simp only [billing, serve]
    split
    · exact hrem i
    · exact (hrem i).query
  | commit cs =>
    rw [serve_commit]
    rcases w.commit_cases cs with ⟨e, hcommit⟩ | ⟨ids, d, hc, hcommit⟩
    · rw [hcommit]
      exact ⟨hcal, remembered_update i hrem (hrem i)⟩
    have hf := Db.commit_ok hc
    have hrenew : Renews w.db d := by
      have ha : Renews w.db (w.commit cs).2.db := ha
      rwa [hcommit] at ha
    have hlawful : Each (Lawful (op i)) cs := ok_of_allows hp
    have hbilled := billedPeriods_flush hf hlawful (hop i) hcal.standing
    have hrem' : ∀ j, Remembered d (m j).2 := fun j => (hrem j).step hrenew
      (fun x hx => flush_subscription hf hx) fun id => by
        rw [hbilled]
        exact List.subset_append_left _ _
    rw [hcommit]
    simp only [World.committed, List.map_append, List.map_cons, List.map_nil]
    exact ⟨hcal.step (hrem i) hf (hop i) hlawful hb hrenew, remembered_update i hrem' (hrem' i)⟩
  | publish event =>
    simp only [serve]
    split <;> exact ⟨hcal, remembered_update i hrem (hrem i)⟩
  | redis command =>
    simp only [serve]
    split <;> exact ⟨hcal, remembered_update i hrem (hrem i)⟩
  | _ => exact ⟨hcal, remembered_update i hrem (hrem i)⟩

namespace Sample

/-- A subscription to the cheaper of two plans. -/
def subscribed : Db .metadata where
  tables := .seed [plan, { plan with priceCents := 2000 }] [admin] [row .active 0 none] []
  admitted := by decide

/-- Two operations. -/
def twoOperations (first second : Operation) : Bool → Operation
  | false => first
  | true => second

/-- One after the other. -/
def inTurn : List (Effects.Move Bool) := List.replicate 16 (.step false) ++ List.replicate 16 (.step true)

/-- The pool of two operations on that subscription. -/
def calendarPool (env : Env) (first second : Operation) :
    Pool Bool Eff (Answer .metadata) (World .metadata) (Except Exn Unit × Session) :=
  operationPool settings (World.start subscribed env) (twoOperations first second) fun _ => none

/-- Before the end of the period at first, then after it. -/
def lateEnv : Env := { env 0 with clock := fun n => if n < 2 then 1000 else days 31 }

end Sample

end FastapiTemplate.Billing
