import FastapiTemplate.Billing.Operations
import FastapiTemplate.Billing.Pacing
import FastapiTemplate.Core.Faults
import FastapiTemplate.Database.Bills

/-!
# The run of the invoice sweep

What the sweep does when it runs alone and no round trip to the database fails, but inserting an invoice
may. A subscription it comes to is `Blocked` by an invoice of its period, or it is `Invoiceable` and gets an
open one, or there is something wrong with it; in each case the sweep goes on (`exec_invoiceEach`). An
insert that fails is another matter: the session is broken, or the loaded rows have expired.
-/

namespace FastapiTemplate.Billing

open Core Database Python Effects Script Store

variable {S : Schema} {α β : Type} {f : ℤ → Option Exn} {s : Session} {w w' : World S}

/-! ### What can be billed -/

/-- The invoice covers the current period of the subscription. -/
def blocks (sub : Subscription) (i : Invoice) : Bool :=
  i.subscriptionId == sub.id && i.periodStart == sub.currentPeriodStart && blockingStatuses.contains i.status

def Blocked (d : Db S) (sub : Subscription) : Prop := ∃ i ∈ d.invoices.rows, blocks sub i = true

def planFor (d : Db S) (sub : Subscription) : Option Plan := d.plans.rows.find? fun p => p.id == sub.planId

/-- The period is not empty, and the metering can be read, if it is. -/
structure Regular (sub : Subscription) (plan : Plan) : Prop where
  period : sub.currentPeriodStart < sub.currentPeriodEnd
  metering : sub.tenantId = none ∨ ∃ configs, extractMetering plan.metering = .ok configs

/-- There is nothing wrong with the subscription, and it has a plan. -/
def Invoiceable (d : Db S) (sub : Subscription) : Prop := ∃ plan, planFor d sub = some plan ∧ Regular sub plan

/-- The invoice bills the current period of the subscription. -/
structure BillsPeriod (sub : Subscription) (status : InvoiceStatus) (i : Invoice) : Prop where
  subscription : i.subscriptionId = sub.id
  periodStart : i.periodStart = sub.currentPeriodStart
  status : i.status = status

lemma billedPeriod_of_blocks {sub : Subscription} {i : Invoice} (h : blocks sub i = true) :
    billedPeriod i = some (sub.id, sub.currentPeriodStart) := by
  simp only [blocks, Bool.and_eq_true, beq_iff_eq] at h
  obtain ⟨⟨hid, hstart⟩, hstatus⟩ := h
  have hvoid : i.status ≠ .void := mem_blockingStatuses.1 (by simpa using hstatus)
  rw [billedPeriod, if_neg hvoid, hid, hstart]

lemma blocks_of_billedPeriod {sub : Subscription} {i : Invoice}
    (h : billedPeriod i = some (sub.id, sub.currentPeriodStart)) : blocks sub i = true := by
  unfold billedPeriod at h
  split at h
  · cases h
  · rename_i hvoid
    obtain ⟨hid, hstart⟩ := Prod.mk.inj (Option.some.inj h)
    simpa [blocks, hid, hstart] using mem_blockingStatuses.2 hvoid

/-! ### The looks -/

lemma scalarOneOrNone_eq {as : List α} (h : as.length ≤ 1) : scalarOneOrNone as = .ok as.head? := by
  rcases as with _ | ⟨a, _ | ⟨b, as⟩⟩
  · rfl
  · rfl
  · simp at h

lemma exec_findBlocking (hs : s.Ready) (hw : w.Up) (sub : Subscription) :
    (findBlockingForPeriod sub.id sub.currentPeriodStart).exec (serveFailing f) s w =
      ⟨.ok (w.db.invoices.rows.find? (blocks sub)), s, w.queried⟩ := by
  have hone : (w.db.invoices.rows.filter (blocks sub)).length ≤ 1 :=
    length_filter_le_one w.db.constraints.period fun _ => billedPeriod_of_blocks
  unfold findBlockingForPeriod
  rw [exec_idle (Idle.selectOne _ _ _), exec_bind, exec_select_ready hs hw, Outcome.next_ok, exec_ofExcept]
  show (⟨scalarOneOrNone (w.db.invoices.rows.filter (blocks sub)), s, w.queried⟩ :
    Outcome Session Exn (World S) (Option Invoice)) = _
  rw [scalarOneOrNone_eq hone, List.head?_filter]

/-- A plan that was not loaded is not there. -/
lemma exec_getPlan (hs : s.Ready) (hw : w.Up) {id : ℤ} (hnone : w.db.plans.rows.find? (fun p => p.id == id) = none) :
    (getPlan id : Py S (Option Plan)).exec (serveFailing f) s w = ⟨.ok none, s, w.queried⟩ := by
  have hempty : (w.db.plans.rows.filter fun p => p.id == id) = [] :=
    List.filter_eq_nil_iff.2 (List.find?_eq_none.1 hnone)
  unfold getPlan
  rw [exec_idle (.bind (.execute _) fun _ _ => .checked _), exec_bind, exec_execute_ready hs hw, Outcome.next_ok,
    exec_ofExcept, hempty]
  rfl

/-! ### Metering -/

/-- The reading of a counter touches nothing but Redis. -/
lemma exec_getUsage_any (tenantId : ℤ) (dimension : String) (periodStart : Datetime) :
    ∃ used w', (getUsage tenantId dimension periodStart : Py S ℤ).exec serve s w = ⟨.ok used, s, w'⟩ ∧
      w'.db = w.db ∧ w.Later w' := by
  unfold getUsage
  rw [exec_tryCatch, exec_bind, exec_redis]
  split
  · exact ⟨0, _, rfl, rfl, rfl, le_rfl⟩
  · exact ⟨_, _, rfl, rfl, rfl, le_rfl⟩

lemma exec_meterEach_any (tenantId : ℤ) (periodStart : Datetime) (configs : List (String × DimensionConfig)) :
    ∃ lines w', (meterEach tenantId periodStart configs : Py S (List InvoiceLine)).exec serve s w =
      ⟨.ok lines, s, w'⟩ ∧ w'.db = w.db ∧ w.Later w' := by
  induction configs generalizing w with
  | nil => exact ⟨[], w, rfl, rfl, .refl w⟩
  | cons p configs ih =>
    obtain ⟨dimension, cfg⟩ := p
    obtain ⟨used, w₁, husage, hdb₁, hlater₁⟩ := exec_getUsage_any (s := s) (w := w) tenantId dimension periodStart
    obtain ⟨lines, w₂, hlines, hdb₂, hlater₂⟩ := ih (w := w₁)
    refine ⟨(overageLine dimension cfg used).toList ++ lines, w₂, ?_, hdb₂.trans hdb₁, hlater₁.trans hlater₂⟩
    unfold meterEach
    rw [exec_bind, husage, Outcome.next_ok, exec_bind, hlines, Outcome.next_ok, exec_pure]

/-- The lines, or the error of the metering column. -/
lemma exec_appendMeteredLines (plan : Plan) (tenantId : Option ℤ) (periodStart : Datetime) :
    ∃ r w', (appendMeteredLines plan tenantId periodStart : Py S (List InvoiceLine)).exec (serveFailing f) s w =
        ⟨r, s, w'⟩ ∧ w'.db = w.db ∧ w.Later w' ∧
      ((∃ lines, r = .ok lines) ↔ tenantId = none ∨ ∃ configs, extractMetering plan.metering = .ok configs) := by
  rw [exec_idle (idle_appendMeteredLines _ _ _)]
  cases tenantId with
  | none => exact ⟨.ok [], w, rfl, rfl, .refl w, iff_of_true ⟨[], rfl⟩ (.inl rfl)⟩
  | some tenantId =>
    unfold appendMeteredLines
    dsimp only
    rw [exec_bind, exec_ofExcept]
    cases hconfigs : extractMetering plan.metering with
    | error e => exact ⟨_, w, rfl, rfl, .refl w, by simp⟩
    | ok configs =>
      obtain ⟨lines, w', hlines, hdb, hlater⟩ := exec_meterEach_any (s := s) (w := w) tenantId periodStart configs
      exact ⟨.ok lines, w', hlines, hdb, hlater, by simp⟩

/-! ### A new invoice -/

/-- Some time later there are new invoices, and nothing else has changed. -/
structure Gained (w w' : World S) (new : List Invoice) : Prop extends w.Later w' where
  rows : w'.db.invoices.rows = w.db.invoices.rows ++ new
  subscriptions : w'.db.subscriptions = w.db.subscriptions
  plans : w'.db.plans = w.db.plans

lemma Gained.nothing (hlater : w.Later w') (hdb : w'.db = w.db) : Gained w w' [] where
  toLater := hlater
  rows := by rw [hdb, List.append_nil]
  subscriptions := by rw [hdb]
  plans := by rw [hdb]

lemma Gained.trans {w'' : World S} {new new' : List Invoice} (h : Gained w w' new) (h' : Gained w' w'' new') :
    Gained w w'' (new ++ new') where
  toLater := h.toLater.trans h'.toLater
  rows := by rw [h'.rows, h.rows, List.append_assoc]
  subscriptions := h'.subscriptions.trans h.subscriptions
  plans := h'.plans.trans h.plans

/-- What is read meanwhile does not matter. -/
lemma Gained.meanwhile {w'' : World S} {new : List Invoice} (h : Gained w w' new) (hlater : w'.Later w'')
    (hdb : w''.db = w'.db) : Gained w w'' new where
  toLater := h.toLater.trans hlater
  rows := by rw [hdb, h.rows]
  subscriptions := by rw [hdb, h.subscriptions]
  plans := by rw [hdb, h.plans]

section Latest

variable {rows : List Invoice} {inv : Invoice}

/-- The latest invoice, by its key. -/
lemma filter_latest (hrows : w.db.invoices.rows = rows ++ [inv]) :
    (w.db.invoices.rows.filter fun i => i.id == inv.id) = [inv] := by
  have hnodup := w.db.invoices.nodup_keys
  rw [hrows, List.map_append, List.nodup_append] at hnodup
  have hold : (rows.filter fun i => i.id == inv.id) = [] := by
    refine List.filter_eq_nil_iff.2 fun i hi heq => ?_
    exact hnodup.2.2 i.id (List.mem_map_of_mem hi) inv.id (List.mem_map_of_mem List.mem_cons_self)
      (beq_iff_eq.1 heq)
  rw [hrows, List.filter_append, hold]
  simp

lemma exec_refreshLatest (hs : s.Ready) (hw : w.Up) (hrows : w.db.invoices.rows = rows ++ [inv]) :
    (refreshInvoice inv.id : Py S Invoice).exec (serveFailing f) s w = ⟨.ok inv, s, w.queried⟩ := by
  unfold refreshInvoice
  rw [exec_idle (Core.Idle.refresh _ _ _)]
  unfold refresh
  rw [exec_bind, exec_select_ready hs hw, Outcome.next_ok, filter_latest hrows]
  rfl

lemma exec_getLatest (hs : s.Ready) (hw : w.Up) (hrows : w.db.invoices.rows = rows ++ [inv]) :
    (getInvoice inv.id : Py S (Option Invoice)).exec (serveFailing f) s w = ⟨.ok (some inv), s, w.queried⟩ := by
  unfold getInvoice
  rw [exec_idle (Idle.selectOne _ _ _), exec_bind, exec_select_ready hs hw, Outcome.next_ok, filter_latest hrows]
  rfl

end Latest

section Create

variable {row : Invoice}

/-- The second half of `createInvoice`. -/
lemma exec_store (hs : s.Ready) (hw : w.Up) (hsound : failure f (.insertInvoice row) = none)
    (hfree : ∀ i ∈ w.db.invoices.rows, billedPeriod i ≠ some (row.subscriptionId, row.periodStart)) :
    ∃ k w', (do
        add (.insertInvoice row)
        let keys ← commit
        refreshInvoice (keys.headD 0) : Py S Invoice).exec (serveFailing f) s w =
      ⟨.ok (Keyed.withKey k row), s, w'⟩ ∧ Gained w w' [Keyed.withKey k row] := by
  obtain ⟨d, hcommit, hinvoices, hsubs, hplans⟩ := Db.commit_insertInvoice hfree
  have hgained : Gained w (w.committed [.insertInvoice row] d) [Keyed.withKey w.db.invoices.next row] :=
    { env := rfl
      calls := Nat.le_succ _
      rows := congrArg Table.rows hinvoices
      subscriptions := hsubs
      plans := hplans }
  refine ⟨w.db.invoices.next, _, ?_, hgained.meanwhile (.queried _) rfl⟩
  rw [exec_bind, exec_add_failing, Outcome.next_ok, exec_bind, exec_commitOne hs hw hsound hcommit,
    Outcome.next_ok]
  have hkey : (Keyed.withKey w.db.invoices.next row : Invoice).id = w.db.invoices.next := rfl
  rw [List.headD_cons, ← hkey]
  exact exec_refreshLatest hs (hgained.toLater.up hw) hgained.rows

/-- An invoice that can be stored is, as the latest. -/
lemma exec_createInvoice (row : Invoice) (hs : s.Ready) (hw : w.Up) (hfault : f row.subscriptionId = none)
    (hfree : ∀ i ∈ w.db.invoices.rows, billedPeriod i ≠ some (row.subscriptionId, row.periodStart)) :
    ∃ inv w', (createInvoice row).exec (serveFailing f) s w = ⟨.ok inv, s, w'⟩ ∧ Gained w w' [inv] ∧
      inv.subscriptionId = row.subscriptionId ∧ inv.periodStart = row.periodStart ∧ inv.status = row.status := by
  obtain ⟨k, w', hexec, hgained⟩ := exec_store (w := w.ticked) hs ((World.Later.ticked w).up hw)
    (show failure f (.insertInvoice { row with createdAt := w.env.clock w.clockReads }) = none from hfault)
    hfree
  refine ⟨_, w', ?_, ⟨(World.Later.ticked w).trans hgained.toLater, hgained.rows, hgained.subscriptions,
    hgained.plans⟩, rfl, rfl, rfl⟩
  unfold createInvoice
  rw [exec_bind, exec_now_failing, Outcome.next_ok, hexec]

/-- If the insert fails, the session is broken. -/
lemma exec_createInvoice_fault (row : Invoice) (hs : s.Ready) {e : Exn} (hfault : f row.subscriptionId = some e) :
    ∃ cs, (createInvoice row).exec (serveFailing f) s w =
      ⟨.error e, { s with pending := cs }.broken, w.ticked.queried⟩ := by
  refine ⟨[.insertInvoice { row with createdAt := w.env.clock w.clockReads }], ?_⟩
  unfold createInvoice
  rw [exec_bind, exec_now_failing, Outcome.next_ok, exec_bind, exec_add_failing, Outcome.next_ok, exec_bind,
    exec_commitOne_fault hs (c := .insertInvoice { row with createdAt := w.env.clock w.clockReads }) hfault,
    Outcome.next_error]

end Create

/-- The latest invoice, a draft, is issued. -/
lemma exec_issue (hs : s.Ready) (hw : w.Up) {rows : List Invoice} {inv : Invoice}
    (hrows : w.db.invoices.rows = rows ++ [inv]) (hdraft : inv.status = .draft) :
    ∃ inv' w', (issue inv.id (some inv)).exec (serveFailing f) s w = ⟨.ok inv', s, w'⟩ ∧ w.Later w' ∧
      w'.db.invoices.rows = rows ++ [inv'] ∧ w'.db.subscriptions = w.db.subscriptions ∧
      w'.db.plans = w.db.plans ∧ inv'.subscriptionId = inv.subscriptionId ∧ inv'.periodStart = inv.periodStart ∧
      inv'.status = .open := by
  have hup : w.queried.ticked.Up := ((World.Later.queried w).trans (.ticked _)).up hw
  have hid : { inv with status := .open, issuedAt := some (w.env.clock w.clockReads) : Invoice }.id = inv.id := rfl
  have hperiod : billedPeriod { inv with status := .open, issuedAt := some (w.env.clock w.clockReads) } =
      billedPeriod inv := by
    simp [billedPeriod, hdraft]
  obtain ⟨d, hcommit, hd, hsubs, hplans⟩ := Db.commit_updateLast hrows hid hperiod
  have hlater : w.Later (w.queried.ticked.committed [.updateInvoice inv
      { inv with status := .open, issuedAt := some (w.env.clock w.clockReads) }] d) :=
    ⟨rfl, Nat.le_add_right _ 2⟩
  refine ⟨_, _, ?_, hlater.trans (.queried _), hd, hsubs, hplans, rfl, rfl, rfl⟩
  unfold issue
  rw [exec_bind, exec_getLatest hs hw hrows, Outcome.next_ok]
  dsimp only
  rw [Option.getD_some, hdraft, exec_bind, exec_ofExcept]
  show (Outcome.next ⟨.ok (), s, w.queried⟩ _ : Outcome Session Exn (World S) Invoice) = _
  rw [Outcome.next_ok, exec_bind, exec_now_failing, Outcome.next_ok, exec_bind, exec_add_failing, Outcome.next_ok,
    exec_bind]
  refine Eq.trans (congrArg (fun o => Outcome.next o _) (exec_commitOne hs hup rfl hcommit)) ?_
  rw [Outcome.next_ok]
  exact exec_refreshLatest hs (hlater.up hw) hd

/-! ### One subscription -/

section One

variable {sub : Subscription} {plan : Plan}

lemma find?_blocks {d : Db S} (hfree : ¬Blocked d sub) : d.invoices.rows.find? (blocks sub) = none :=
  List.find?_eq_none.2 fun i hi hblocks => hfree ⟨i, hi, hblocks⟩

/-- The row that is stored for the current period. -/
def draftFor (sub : Subscription) (plan : Plan) (lines : List InvoiceLine) : Invoice :=
  applyTotals
    { tenantId := sub.tenantId, subscriptionId := sub.id, status := .draft, currency := plan.currency,
      totalCents := 0, periodStart := sub.currentPeriodStart, periodEnd := sub.currentPeriodEnd,
      lines := planLine plan :: lines }

/-- Up to the insert: the invoice that is stored, if the metering can be read. -/
lemma exec_generateInvoice (hs : s.Ready) (hw : w.Up) (hlive : sub.isLive = true) (hfree : ¬Blocked w.db sub)
    (hregular : Regular sub plan) :
    ∃ lines w₁, w₁.db = w.db ∧ w.Later w₁ ∧
      (generateInvoice sub plan).exec (serveFailing f) s w =
        ((createInvoice (draftFor sub plan lines)).exec (serveFailing f) s w₁).rescue fun e s w =>
          if e = .integrityError then
            ⟨.error (.conflict "An invoice already covers this period"), s.rolledBack, w⟩
          else ⟨.error e, s, w⟩ := by
  obtain ⟨r, w₁, happend, hdb, hlater, hok⟩ := exec_appendMeteredLines (f := f) (s := s) (w := w.queried) plan
    sub.tenantId sub.currentPeriodStart
  obtain ⟨lines, rfl⟩ := hok.2 hregular.metering
  refine ⟨lines, w₁, hdb, (World.Later.queried w).trans hlater, ?_⟩
  unfold generateInvoice
  rw [hlive]
  simp only [Bool.not_true, Bool.false_eq_true, if_false, Option.getD_none, if_neg (not_le.2 hregular.period)]
  rw [exec_bind, exec_findBlocking hs hw, find?_blocks hfree, Outcome.next_ok]
  dsimp only
  rw [exec_bind, happend, Outcome.next_ok, exec_tryCatch]
  refine congrArg (Outcome.rescue _) ?_
  funext e s' w'
  split <;> rfl

/-- With an empty period, or with metering that cannot be read, there is no invoice. -/
lemma exec_generateInvoice_refused (hs : s.Ready) (hw : w.Up) (hlive : sub.isLive = true) (hfree : ¬Blocked w.db sub)
    (hbad : ¬Regular sub plan) :
    ∃ e w', (generateInvoice sub plan).exec (serveFailing f) s w = ⟨.error e, s, w'⟩ ∧ w'.db = w.db ∧
      w.Later w' := by
  unfold generateInvoice
  rw [hlive]
  simp only [Bool.not_true, Bool.false_eq_true, if_false, Option.getD_none]
  by_cases hperiod : sub.currentPeriodEnd ≤ sub.currentPeriodStart
  · rw [if_pos hperiod]
    exact ⟨_, w, rfl, rfl, .refl w⟩
  · obtain ⟨r, w₁, happend, hdb, hlater, hok⟩ := exec_appendMeteredLines (f := f) (s := s) (w := w.queried)
      plan sub.tenantId sub.currentPeriodStart
    rw [if_neg hperiod, exec_bind, exec_findBlocking hs hw, find?_blocks hfree, Outcome.next_ok]
    dsimp only
    rw [exec_bind, happend]
    cases r with
    | ok lines => exact absurd ⟨not_le.1 hperiod, hok.1 ⟨lines, rfl⟩⟩ hbad
    | error e => exact ⟨e, w₁, rfl, hdb, (World.Later.queried w).trans hlater⟩

/-! The body of the `try`. -/

lemma exec_invoiceDue_blocked (hs : s.Ready) (hw : w.Up) (hblocked : Blocked w.db sub) :
    (invoiceDue sub plan).exec (serveFailing f) s w = ⟨.ok .skipped, s, w.queried⟩ := by
  obtain ⟨i, hi, hblocks⟩ := hblocked
  obtain ⟨j, hj⟩ := Option.isSome_iff_exists.1 (List.find?_isSome.2 ⟨i, hi, hblocks⟩)
  unfold invoiceDue
  rw [exec_bind, exec_findBlocking hs hw, hj, Outcome.next_ok]
  rfl

lemma exec_invoiceDue_refused (hs : s.Ready) (hw : w.Up) (hlive : sub.isLive = true) (hfree : ¬Blocked w.db sub)
    (hbad : ¬Regular sub plan) :
    ∃ e w', (invoiceDue sub plan).exec (serveFailing f) s w = ⟨.error e, s, w'⟩ ∧ w'.db = w.db ∧ w.Later w' := by
  obtain ⟨e, w', hexec, hdb, hlater⟩ := exec_generateInvoice_refused (f := f) hs
    ((World.Later.queried w).up hw) hlive hfree hbad
  refine ⟨e, w', ?_, hdb, (World.Later.queried w).trans hlater⟩
  unfold invoiceDue
  rw [exec_bind, exec_findBlocking hs hw, find?_blocks hfree, Outcome.next_ok]
  dsimp only
  rw [exec_bind, hexec, Outcome.next_error]

/-- Generated and issued. -/
lemma exec_invoiceDue_ok (hs : s.Ready) (hw : w.Up) (hlive : sub.isLive = true) (hfree : ¬Blocked w.db sub)
    (hregular : Regular sub plan) (hfault : f sub.id = none) :
    ∃ inv w', (invoiceDue sub plan).exec (serveFailing f) s w = ⟨.ok .generated, s, w'⟩ ∧
      Gained w w' [inv] ∧ BillsPeriod sub .open inv := by
  obtain ⟨lines, w₁, hdb₁, hlater₁, hgenerate⟩ := exec_generateInvoice (f := f) hs
    ((World.Later.queried w).up hw) hlive hfree hregular
  have hlater₁ : w.Later w₁ := (World.Later.queried w).trans hlater₁
  have hdb₁ : w₁.db = w.db := hdb₁
  obtain ⟨inv, w₂, hcreate, hgained₂, hid, hstart, hdraft⟩ := exec_createInvoice (draftFor sub plan lines) hs
    (hlater₁.up hw) hfault fun i hi hbills => by
      rw [hdb₁] at hi
      exact hfree ⟨i, hi, blocks_of_billedPeriod hbills⟩
  obtain ⟨inv', w₃, hissue, hlater₃, hrows₃, hsubs₃, hplans₃, hid', hstart', hopen⟩ := exec_issue (f := f) hs
    ((hlater₁.trans hgained₂.toLater).up hw) hgained₂.rows hdraft
  have hgained : Gained w w₃ [inv'] :=
    { toLater := (hlater₁.trans hgained₂.toLater).trans hlater₃
      rows := by rw [hrows₃, hdb₁]
      subscriptions := by rw [hsubs₃, hgained₂.subscriptions, hdb₁]
      plans := by rw [hplans₃, hgained₂.plans, hdb₁] }
  refine ⟨inv', w₃, ?_, hgained, hid'.trans hid, hstart'.trans hstart, hopen⟩
  have hdraft : inv.status = .draft := hdraft
  unfold invoiceDue
  rw [exec_bind, exec_findBlocking hs hw, find?_blocks hfree, Outcome.next_ok]
  dsimp only
  rw [exec_bind, hgenerate, hcreate, Outcome.rescue_ok, Outcome.next_ok, if_pos hdraft, exec_bind, hissue,
    Outcome.next_ok, exec_pure]

/-- The insert fails, and nothing is stored. Afterwards either the loaded rows have expired, or the
transaction is aborted. -/
lemma exec_invoiceDue_fault (hs : s.Ready) (hw : w.Up) (hlive : sub.isLive = true) (hfree : ¬Blocked w.db sub)
    (hregular : Regular sub plan) {e : Exn}
    (hfault : f sub.id = some e) :
    ∃ e' s' w', (invoiceDue sub plan).exec (serveFailing f) s w = ⟨.error e', s', w'⟩ ∧ w'.db = w.db ∧
      (e = .integrityError ∨ s.flushExpires = true → s'.expirations ≠ s.expirations) ∧
      (e ≠ .integrityError → s.flushExpires = false → s'.aborted = true ∧ s'.expirations = s.expirations) := by
  obtain ⟨lines, w₁, hdb₁, -, hgenerate⟩ := exec_generateInvoice (f := f) hs
    ((World.Later.queried w).up hw) hlive hfree hregular
  obtain ⟨cs, hcreate⟩ := exec_createInvoice_fault (w := w₁) (draftFor sub plan lines) hs hfault
  rw [hcreate, Outcome.rescue_error] at hgenerate
  have hdue : (invoiceDue sub plan).exec (serveFailing f) s w =
      ((generateInvoice sub plan).exec (serveFailing f) s w.queried).next fun inv s w =>
        ((if inv.status = .draft then do
            let _inv ← issue inv.id (some inv)
            return .generated
          else return .generated : Py S Billed)).exec (serveFailing f) s w := by
    unfold invoiceDue
    rw [exec_bind, exec_findBlocking hs hw, find?_blocks hfree, Outcome.next_ok]
    dsimp only
    rw [exec_bind]
  rw [hdue, hgenerate]
  by_cases he : e = .integrityError
  · rw [if_pos he, Outcome.next_error]
    refine ⟨_, _, _, rfl, hdb₁, fun _ => ?_, fun h => absurd he h⟩
    unfold Session.rolledBack Session.broken
    dsimp only
    split <;> omega
  · rw [if_neg he, Outcome.next_error]
    refine ⟨_, _, _, rfl, hdb₁, fun h => ?_, fun _ hkeep => ⟨rfl, ?_⟩⟩
    · simp [Session.broken, h.resolve_left he]
    · simp [Session.broken, hkeep]

/-! With its plan. -/

/-- The plan was loaded, or it is looked for. -/
lemma exec_planOf (hs : s.Ready) (hw : w.Up) {plans : List Plan}
    (hplans : (plans.find? fun p => p.id == sub.planId) = planFor w.db sub) :
    ∃ w', (planOf plans sub).exec (serveFailing f) s w = ⟨.ok (planFor w.db sub), s, w'⟩ ∧ w'.db = w.db ∧
      w.Later w' := by
  unfold planOf
  rw [hplans]
  cases hplan : planFor w.db sub with
  | none => exact ⟨_, exec_getPlan hs hw hplan, rfl, .queried w⟩
  | some plan => exact ⟨w, rfl, rfl, .refl w⟩

/-- What comes of the body of the `try`; the log line of a failure needs the row. -/
lemma exec_invoiceOne {plans : List Plan} (hplan : (plans.find? fun p => p.id == sub.planId) = some plan) :
    (invoiceOne s.expirations plans sub).exec (serveFailing f) s w =
      (((invoiceDue sub plan).exec (serveFailing f) s w).next fun b s w => ⟨.ok (some b), s, w⟩).rescue
        fun _ s' w' => if s'.expirations = s.expirations then ⟨.ok none, s', w'⟩
          else ⟨.error .missingGreenlet, s', w'⟩ := by
  unfold invoiceOne planOf
  rw [exec_bind, exec_attributes, if_pos rfl, Outcome.next_ok, hplan]
  dsimp only
  rw [exec_bind, exec_pure, Outcome.next_ok]
  dsimp only
  rw [exec_tryCatch, exec_map]
  refine congrArg (Outcome.rescue _) ?_
  funext e s' w'
  rw [exec_bind, exec_attributes]
  split <;> rfl

variable {plans : List Plan}

/-- One that can be billed gets its open invoice. -/
theorem exec_invoiceOne_ok (hs : s.Ready) (hw : w.Up) (hlive : sub.isLive = true)
    (hplans : (plans.find? fun p => p.id == sub.planId) = planFor w.db sub) (hfree : ¬Blocked w.db sub)
    (hgood : Invoiceable w.db sub) (hfault : f sub.id = none) :
    ∃ inv w', (invoiceOne s.expirations plans sub).exec (serveFailing f) s w = ⟨.ok (some .generated), s, w'⟩ ∧
      Gained w w' [inv] ∧ BillsPeriod sub .open inv := by
  obtain ⟨plan, hplan, hregular⟩ := hgood
  obtain ⟨inv, w', hdue, hgained, hbills⟩ := exec_invoiceDue_ok hs hw hlive hfree hregular hfault
  refine ⟨inv, w', ?_, hgained, hbills⟩
  rw [exec_invoiceOne (hplans.trans hplan), hdue, Outcome.next_ok, Outcome.rescue_ok]

/-- One that is blocked, or with which something is wrong, is passed over. -/
theorem exec_invoiceOne_over (hs : s.Ready) (hw : w.Up) (hlive : sub.isLive = true)
    (hplans : (plans.find? fun p => p.id == sub.planId) = planFor w.db sub)
    (hover : Blocked w.db sub ∨ ¬Invoiceable w.db sub) :
    ∃ o w', (invoiceOne s.expirations plans sub).exec (serveFailing f) s w = ⟨.ok o, s, w'⟩ ∧ w'.db = w.db ∧
      w.Later w' := by
  cases hplan : planFor w.db sub with
  | none =>
    obtain ⟨w', hexec, hdb, hlater⟩ := exec_planOf (f := f) hs hw hplans
    refine ⟨none, w', ?_, hdb, hlater⟩
    unfold invoiceOne
    rw [exec_bind, exec_attributes, if_pos rfl, Outcome.next_ok, exec_bind, hexec, hplan, Outcome.next_ok]
    rfl
  | some plan =>
    rw [exec_invoiceOne (hplans.trans hplan)]
    by_cases hblocked : Blocked w.db sub
    · rw [exec_invoiceDue_blocked hs hw hblocked]
      exact ⟨_, _, rfl, rfl, .queried w⟩
    · have hirregular : ¬Regular sub plan := fun h => hover.resolve_left hblocked ⟨plan, hplan, h⟩
      obtain ⟨e, w', hdue, hdb, hlater⟩ := exec_invoiceDue_refused (f := f) hs hw hlive hblocked hirregular
      rw [hdue, Outcome.next_error, Outcome.rescue_error, if_pos rfl]
      exact ⟨_, _, rfl, hdb, hlater⟩

/-- If the insert fails: the sweep ends, when the loaded rows have expired; else it goes on in a transaction
that is aborted. -/
theorem exec_invoiceOne_fault (hs : s.Ready) (hw : w.Up) (hlive : sub.isLive = true)
    (hplans : (plans.find? fun p => p.id == sub.planId) = planFor w.db sub) (hfree : ¬Blocked w.db sub)
    (hgood : Invoiceable w.db sub) {e : Exn} (hfault : f sub.id = some e) :
    ∃ s' w', w'.db = w.db ∧
      (e = .integrityError ∨ s.flushExpires = true →
        (invoiceOne s.expirations plans sub).exec (serveFailing f) s w = ⟨.error .missingGreenlet, s', w'⟩) ∧
      (e ≠ .integrityError → s.flushExpires = false → s'.aborted = true ∧ s'.expirations = s.expirations ∧
        (invoiceOne s.expirations plans sub).exec (serveFailing f) s w = ⟨.ok none, s', w'⟩) := by
  obtain ⟨plan, hplan, hregular⟩ := hgood
  obtain ⟨e', s', w', hdue, hdb, hexpired, haborted⟩ := exec_invoiceDue_fault hs hw hlive hfree hregular hfault
  rw [exec_invoiceOne (hplans.trans hplan), hdue, Outcome.next_error, Outcome.rescue_error]
  refine ⟨s', w', hdb, fun h => if_neg (hexpired h), fun he hkeep => ?_⟩
  obtain ⟨ha, hsame⟩ := haborted he hkeep
  exact ⟨ha, hsame, if_pos hsame⟩

/-- In an aborted transaction one fails after the other; and the sweep ends, if a plan has to be looked
for. -/
theorem exec_invoiceOne_aborted (ha : s.aborted = true) :
    (invoiceOne s.expirations plans sub).exec (serveFailing f) s w =
      if ((plans.find? fun p => p.id == sub.planId) : Option Plan).isSome then ⟨.ok none, s, w⟩
      else ⟨.error .inFailedTransaction, s, w⟩ := by
  have hexecute : ∀ {α : Type} (q : Db S → α),
      (execute q).exec (serveFailing f) s w = ⟨.error .inFailedTransaction, s, w⟩ := by
    intro α q
    rw [exec_idle (.execute q), exec_execute, if_pos ha]
  cases hplan : plans.find? fun p => p.id == sub.planId with
  | none =>
    unfold invoiceOne planOf getPlan
    rw [exec_bind, exec_attributes, if_pos rfl, Outcome.next_ok, hplan]
    dsimp only
    rw [exec_bind, exec_bind, hexecute]
    rfl
  | some plan =>
    have hdue : (invoiceDue sub plan).exec (serveFailing f) s w = ⟨.error .inFailedTransaction, s, w⟩ := by
      unfold invoiceDue findBlockingForPeriod select
      rw [exec_bind, exec_bind, exec_bind, exec_getState, Outcome.next_ok, hexecute]
      rfl
    rw [exec_invoiceOne hplan, hdue, Outcome.next_error, Outcome.rescue_error, if_pos rfl]
    rfl

end One

/-! ### The loop -/

/-- How many subscriptions the sweep has counted. -/
def InvoiceSweepStats.total (st : InvoiceSweepStats) : ℕ := st.generated + st.skipped + st.failed

lemma InvoiceSweepStats.total_count (st : InvoiceSweepStats) (o : Option Billed) :
    (st.count o).total = st.total + 1 := by
  rcases o with _ | _ | _ <;> simp only [count, total] <;> omega

section Loop

variable {loaded : ℕ} {plans : List Plan} {subs subs' : List Subscription} {st st' : InvoiceSweepStats}

lemma exec_invoiceEach_cons (h : Handler Eff (Answer S) (World S)) {sub : Subscription} :
    (invoiceEach loaded plans st (sub :: subs)).exec h s w =
      ((invoiceOne loaded plans sub).exec h s w).next fun o s w =>
        (invoiceEach loaded plans (st.count o) subs).exec h s w :=
  exec_bind h (invoiceOne loaded plans sub) _ s w

/-- A sweep that comes back has counted every subscription once. -/
theorem total_of_result {h : Handler Eff (Answer S) (World S)}
    (hst : ((invoiceEach loaded plans st subs).exec h s w).result = .ok st') :
    st'.total = st.total + subs.length := by
  induction subs generalizing st s w with
  | nil =>
    cases hst
    rfl
  | cons sub subs ih =>
    rw [exec_invoiceEach_cons] at hst
    obtain ⟨o, -, hrest⟩ := Outcome.next_result hst
    rw [ih hrest, InvoiceSweepStats.total_count, List.length_cons]
    omega

/-- The loop goes on where it was. -/
lemma exec_invoiceEach_append (h : Handler Eff (Answer S) (World S)) :
    (invoiceEach loaded plans st (subs ++ subs')).exec h s w =
      ((invoiceEach loaded plans st subs).exec h s w).next fun st s w =>
        (invoiceEach loaded plans st subs').exec h s w := by
  induction subs generalizing st s w with
  | nil => rfl
  | cons sub subs ih =>
    rw [List.cons_append, exec_invoiceEach_cons, exec_invoiceEach_cons, Outcome.next_next]
    exact congrArg (Outcome.next _) (funext fun o => funext fun s => funext fun w => ih)

/-- An invoice for one subscription is none for another. -/
lemma Gained.blocked_iff {x : Subscription} {new : List Invoice} (h : Gained w w' new)
    (hne : ∀ inv ∈ new, inv.subscriptionId ≠ x.id) : Blocked w'.db x ↔ Blocked w.db x := by
  unfold Blocked
  rw [h.rows]
  refine ⟨fun ⟨i, hi, hblocks⟩ => ?_, fun ⟨i, hi, hblocks⟩ => ⟨i, List.mem_append_left _ hi, hblocks⟩⟩
  rcases List.mem_append.1 hi with hi | hi
  · exact ⟨i, hi, hblocks⟩
  · simp only [blocks, Bool.and_eq_true, beq_iff_eq] at hblocks
    exact absurd hblocks.1.1 (hne i hi)

lemma planFor_eq {d d' : Db S} (h : d'.plans = d.plans) (sub : Subscription) : planFor d' sub = planFor d sub := by
  unfold planFor
  rw [h]

lemma invoiceable_iff {d d' : Db S} (h : d'.plans = d.plans) (sub : Subscription) :
    Invoiceable d' sub ↔ Invoiceable d sub := by
  unfold Invoiceable
  rw [planFor_eq h]

/-- What the loop needs to know of the subscriptions it is given. -/
structure Loaded (d : Db S) (plans : List Plan) (subs : List Subscription) : Prop where
  nodup : (subs.map Subscription.id).Nodup
  live : ∀ x ∈ subs, x.isLive = true
  plans : ∀ x ∈ subs, plans.find? (fun p => p.id == x.planId) = planFor d x

lemma Loaded.head {d : Db S} {sub : Subscription} (h : Loaded d plans (sub :: subs)) :
    sub.isLive = true ∧ (plans.find? fun p => p.id == sub.planId) = planFor d sub ∧ ∀ x ∈ subs, x.id ≠ sub.id :=
  ⟨h.live sub List.mem_cons_self, h.plans sub List.mem_cons_self, fun _ hx heq =>
    (List.nodup_cons.1 h.nodup).1 (heq ▸ List.mem_map_of_mem hx)⟩

lemma Loaded.tail {d d' : Db S} {sub : Subscription} (h : Loaded d plans (sub :: subs)) (hd : d'.plans = d.plans) :
    Loaded d' plans subs where
  nodup := (List.nodup_cons.1 h.nodup).2
  live x hx := h.live x (List.mem_cons_of_mem _ hx)
  plans x hx := by rw [planFor_eq hd]; exact h.plans x (List.mem_cons_of_mem _ hx)

/-- An insert is attempted, and fails. -/
structure Fails (f : ℤ → Option Exn) (d : Db S) (sub : Subscription) (e : Exn) : Prop where
  free : ¬Blocked d sub
  good : Invoiceable d sub
  fault : f sub.id = some e

/-- **The sweep, as long as no insert fails**: it stores an open invoice for every subscription that is not
blocked and can be billed, and nothing else. -/
theorem exec_invoiceEach (st : InvoiceSweepStats) (hs : s.Ready) (hw : w.Up) (hsubs : Loaded w.db plans subs)
    (hsound : ∀ x ∈ subs, ∀ e, ¬Fails f w.db x e) :
    ∃ st' new w', (invoiceEach s.expirations plans st subs).exec (serveFailing f) s w = ⟨.ok st', s, w'⟩ ∧
      Gained w w' new ∧
      (∀ inv ∈ new, ∃ x ∈ subs, ¬Blocked w.db x ∧ Invoiceable w.db x ∧ BillsPeriod x .open inv) ∧
      ∀ x ∈ subs, ¬Blocked w.db x → Invoiceable w.db x → ∃ inv ∈ new, BillsPeriod x .open inv := by
  induction subs generalizing st w with
  | nil => exact ⟨st, [], w, rfl, .nothing (.refl w) rfl, fun _ h => absurd h List.not_mem_nil,
      fun _ h => absurd h List.not_mem_nil⟩
  | cons sub subs ih =>
    obtain ⟨hlive, hplans, hne⟩ := hsubs.head
    by_cases hgood : ¬Blocked w.db sub ∧ Invoiceable w.db sub
    · -- it gets its invoice, which makes no difference to the others
      have hfault : f sub.id = none := Option.eq_none_iff_forall_ne_some.2 fun e he =>
        hsound sub List.mem_cons_self e ⟨hgood.1, hgood.2, he⟩
      obtain ⟨inv, w₁, hone, hgained, hbills⟩ := exec_invoiceOne_ok hs hw hlive hplans hgood.1 hgood.2 hfault
      have hsame : ∀ x ∈ subs, (Blocked w₁.db x ↔ Blocked w.db x) ∧ (Invoiceable w₁.db x ↔ Invoiceable w.db x) :=
        fun x hx => ⟨hgained.blocked_iff fun i hi => by
          rw [List.mem_singleton.1 hi, hbills.subscription]
          exact (hne x hx).symm, invoiceable_iff hgained.plans x⟩
      obtain ⟨st', new, w', hrest, hgained', hnew, hall⟩ := ih (w := w₁) (st.count (some .generated)) (hgained.up hw)
        (hsubs.tail hgained.plans) fun x hx e hfails => hsound x (List.mem_cons_of_mem _ hx) e
          ⟨fun h => hfails.free ((hsame x hx).1.2 h), (hsame x hx).2.1 hfails.good, hfails.fault⟩
      refine ⟨st', inv :: new, w', by rw [exec_invoiceEach_cons, hone, Outcome.next_ok, hrest],
        hgained.trans hgained', ?_, ?_⟩
      · intro i hi
        rcases List.mem_cons.1 hi with rfl | hi
        · exact ⟨sub, List.mem_cons_self, hgood.1, hgood.2, hbills⟩
        · obtain ⟨x, hx, hfree, hx', hbills⟩ := hnew i hi
          exact ⟨x, List.mem_cons_of_mem _ hx, fun h => hfree ((hsame x hx).1.2 h), (hsame x hx).2.1 hx', hbills⟩
      · intro x hx hfree hx'
        rcases List.mem_cons.1 hx with rfl | hx
        · exact ⟨inv, List.mem_cons_self, hbills⟩
        · obtain ⟨i, hi, hbills⟩ := hall x hx (fun h => hfree ((hsame x hx).1.1 h)) ((hsame x hx).2.2 hx')
          exact ⟨i, List.mem_cons_of_mem _ hi, hbills⟩
    · have hover : Blocked w.db sub ∨ ¬Invoiceable w.db sub := by
        by_contra h
        exact hgood ⟨fun hb => h (.inl hb), by_contra fun hi => h (.inr hi)⟩
      obtain ⟨o, w₁, hone, hdb, hlater⟩ := exec_invoiceOne_over (f := f) hs hw hlive hplans hover
      have hnothing : Gained w w₁ [] := .nothing hlater hdb
      obtain ⟨st', new, w', hrest, hgained', hnew, hall⟩ := ih (w := w₁) (st.count o) (hlater.up hw)
        (hsubs.tail hnothing.plans) fun x hx e hfails => hsound x (List.mem_cons_of_mem _ hx) e (hdb ▸ hfails)
      rw [hdb] at hnew hall
      refine ⟨st', new, w', by rw [exec_invoiceEach_cons, hone, Outcome.next_ok, hrest],
        hnothing.trans hgained', ?_, ?_⟩
      · intro i hi
        obtain ⟨x, hx, h⟩ := hnew i hi
        exact ⟨x, List.mem_cons_of_mem _ hx, h⟩
      · intro x hx hfree hx'
        rcases List.mem_cons.1 hx with rfl | hx
        · exact absurd ⟨hfree, hx'⟩ hgood
        · exact hall x hx hfree hx'

/-- In an aborted transaction nothing is stored, and the sweep comes back only if it needs no plan. -/
theorem exec_invoiceEach_aborted (st : InvoiceSweepStats) (ha : s.aborted = true) :
    ∃ r, (invoiceEach s.expirations plans st subs).exec (serveFailing f) s w = ⟨r, s, w⟩ ∧
      ((∃ st', r = .ok st') ↔ ∀ x ∈ subs, (plans.find? fun p => p.id == x.planId).isSome = true) := by
  induction subs generalizing st with
  | nil => exact ⟨.ok st, rfl, iff_of_true ⟨st, rfl⟩ fun _ h => absurd h List.not_mem_nil⟩
  | cons sub subs ih =>
    rw [exec_invoiceEach_cons, exec_invoiceOne_aborted ha]
    by_cases hplan : (plans.find? fun p => p.id == sub.planId).isSome = true
    · obtain ⟨r, hr, hiff⟩ := ih (st.count none)
      refine ⟨r, by rw [if_pos hplan, Outcome.next_ok, hr], hiff.trans ?_⟩
      rw [List.forall_mem_cons]
      exact (and_iff_right hplan).symm
    · refine ⟨.error .inFailedTransaction, by rw [if_neg hplan, Outcome.next_error], iff_of_false ?_ ?_⟩
      · rintro ⟨st', hst⟩
        cases hst
      · exact fun h => hplan (h sub List.mem_cons_self)

/-- Of the subscriptions that are not blocked, those among `done` that can be billed have got their
invoices. -/
lemma served_iff {rows new : List Invoice} {done : List Subscription} {d : Db S} {x : Subscription}
    (hrows : ∀ i ∈ rows, i ∈ d.invoices.rows) (hfree : ¬Blocked d x) (hkey : ∀ y ∈ done, y.id = x.id → y = x)
    (hnew : ∀ inv ∈ new, ∃ y ∈ done, ¬Blocked d y ∧ Invoiceable d y ∧ BillsPeriod y .open inv)
    (hall : ∀ y ∈ done, ¬Blocked d y → Invoiceable d y → ∃ inv ∈ new, BillsPeriod y .open inv) :
    (∃ inv ∈ rows ++ new, BillsPeriod x .open inv) ↔ x ∈ done ∧ Invoiceable d x := by
  constructor
  · rintro ⟨inv, hinv, hbills⟩
    rcases List.mem_append.1 hinv with hold | hinv
    · refine absurd ⟨inv, hrows inv hold, blocks_of_billedPeriod ?_⟩ hfree
      rw [billedPeriod, if_neg (by rw [hbills.status]; decide), hbills.subscription, hbills.periodStart]
    · obtain ⟨y, hy, -, hgood, hbills'⟩ := hnew inv hinv
      have hyx := hkey y hy (hbills'.subscription.symm.trans hbills.subscription)
      exact hyx ▸ ⟨hy, hgood⟩
  · rintro ⟨hx, hgood⟩
    obtain ⟨inv, hinv, hbills⟩ := hall x hx hfree hgood
    exact ⟨inv, List.mem_append_right _ hinv, hbills⟩

end Loop

/-! ### The sweep -/

/-- The subscriptions the sweep goes through. -/
def dueSubscriptions (order : RowOrder) (now : Datetime) (d : Db S) : List Subscription :=
  order.arrange (d.subscriptions.rows.filter (hasEnded now))

/-- The sweep is its loop over what is due now. -/
theorem exec_generateDueInvoices (hs : s.Ready) (hw : w.Up) (order : RowOrder) :
    ∃ plans w₁, w₁.db = w.db ∧ w.Later w₁ ∧
      Loaded w.db plans (dueSubscriptions order (w.env.clock w.clockReads) w.db) ∧
      (generateDueInvoicesAsync order).exec (serveFailing f) s w =
        (invoiceEach s.expirations plans {} (dueSubscriptions order (w.env.clock w.clockReads) w.db)).exec
          (serveFailing f) s w₁ := by
  have hperm := order.perm (w.db.subscriptions.rows.filter (hasEnded (w.env.clock w.clockReads)))
  have hselect : (select (fun d => d.subscriptions.rows) Subscription.tenantId
      (hasEnded (w.env.clock w.clockReads))).exec (serveFailing f) s w.ticked =
      ⟨.ok (w.db.subscriptions.rows.filter (hasEnded (w.env.clock w.clockReads))), s, w.ticked.queried⟩ := by
    rw [exec_idle (.select _ _ _), exec_select_ready hs ((World.Later.ticked w).up hw)]
    rfl
  have hup : w.ticked.queried.Up := ((World.Later.ticked w).trans (.queried _)).up hw
  obtain ⟨plans, w₁, hload, hdb, hlater, hplans⟩ : ∃ plans w₁,
      (loadPlans (dueSubscriptions order (w.env.clock w.clockReads) w.db) : Py S (List Plan)).exec (serveFailing f) s
        w.ticked.queried = ⟨.ok plans, s, w₁⟩ ∧ w₁.db = w.db ∧ w.ticked.queried.Later w₁ ∧
      ∀ x ∈ dueSubscriptions order (w.env.clock w.clockReads) w.db,
        plans.find? (fun p => p.id == x.planId) = planFor w.db x := by
    unfold loadPlans
    split
    · rename_i hempty
      refine ⟨[], _, rfl, rfl, .refl _, fun x hx => ?_⟩
      rw [List.isEmpty_iff.1 hempty] at hx
      exact absurd hx List.not_mem_nil
    · rw [exec_idle (.execute _), exec_execute_ready hs hup]
      refine ⟨_, _, rfl, rfl, .queried _, fun x hx => ?_⟩
      rw [List.find?_filter]
      refine congrFun (congrArg List.find? (funext fun p => ?_)) _
      by_cases hp : p.id = x.planId
      · have hmem : ((dueSubscriptions order (w.env.clock w.clockReads) w.db).map Subscription.planId).contains
            x.planId = true := List.contains_iff_mem.2 (List.mem_map_of_mem hx)
        rw [hp, hmem]
        simp
      · simp [hp]
  refine ⟨plans, w₁, hdb, ((World.Later.ticked w).trans (.queried _)).trans hlater, ⟨?_, ?_, hplans⟩, ?_⟩
  · exact ((hperm.map _).nodup_iff).2 (List.Nodup.sublist (List.filter_sublist.map _) w.db.subscriptions.nodup_keys)
  · intro x hx
    exact (Bool.and_eq_true_iff.1 (List.mem_filter.1 (hperm.mem_iff.1 hx)).2).1
  · unfold generateDueInvoicesAsync
    rw [exec_bind, exec_now_failing, Outcome.next_ok, exec_bind, hselect, Outcome.next_ok]
    dsimp only
    rw [exec_bind]
    refine Eq.trans (congrArg (fun o => Outcome.next o _) hload) ?_
    rw [Outcome.next_ok, exec_bind, exec_getState, Outcome.next_ok]
    rfl

/-! ### Two tenants -/

namespace Sample

/-- The subscriptions of two tenants, to one plan. -/
def neighbours : Db .metadata where
  tables := .seed [plan] [] [row .active 0 none,
    { row .active 0 none with tenantId := some 2, stripeSubscriptionId := some "sub_2" }] []
  admitted := by decide

/-- The day after both periods have ended. -/
def dayAfter : World .metadata := World.start neighbours (env (days 31))

end Sample

end FastapiTemplate.Billing
