import FastapiTemplate.Billing.InvoiceRuns

/-!
# Drafts that are left over

The sweep generates an invoice and issues it in two commits. If it dies between them, the draft stays, and to
the next sweep it covers the period as an open invoice does: it is never issued. `invoiced_iff` says what a
complete sweep leaves behind, whatever happened before it.
-/

namespace FastapiTemplate.Billing

open Core Database Python Effects Script Store

variable {S : Schema} {w : World S}

/-- The current period of the subscription has an invoice that is open or paid. -/
def Invoiced (d : Db S) (sub : Subscription) : Prop :=
  ∃ inv ∈ d.invoices.rows, BillsPeriod sub .open inv ∨ BillsPeriod sub .paid inv

/-- The sweep alone, where no round trip to the database fails: it comes back, and what is invoiced then was
invoiced before, or was free and could be billed. -/
lemma invoiced_after {s : Session} (hs : s.Ready) (hw : w.Up) (order : RowOrder) :
    ∃ st w', (generateDueInvoicesAsync order).exec serve s w = ⟨.ok st, s, w'⟩ ∧
      ∀ x ∈ dueSubscriptions order (w.env.clock w.clockReads) w.db,
        Invoiced w'.db x ↔ Invoiced w.db x ∨ (¬Blocked w.db x ∧ Invoiceable w.db x) := by
  obtain ⟨plans, w₁, hdb, hlater, hsubs, hexec⟩ := exec_generateDueInvoices (f := fun _ => none) hs hw order
  rw [serveFailing_none] at hexec
  rw [hexec, ← serveFailing_none]
  have hsubs₁ : Loaded w₁.db plans (dueSubscriptions order (w.env.clock w.clockReads) w.db) := by
    rw [hdb]
    exact hsubs
  obtain ⟨st, new, w', hloop, hgained, hnew, hall⟩ :=
    exec_invoiceEach (f := fun _ => none) {} hs (hlater.up hw) hsubs₁
    fun x _ e hx => nomatch hx.fault
  refine ⟨st, w', hloop, fun x hx => ?_⟩
  rw [hdb] at hnew hall
  have hrows : w'.db.invoices.rows = w.db.invoices.rows ++ new := by rw [hgained.rows, hdb]
  constructor
  · rintro ⟨inv, hinv, hbills⟩
    rw [hrows] at hinv
    rcases List.mem_append.1 hinv with hold | hinv
    · exact .inl ⟨inv, hold, hbills⟩
    · -- a new one is for a subscription that was free
      obtain ⟨y, hy, hfree, hgood, hbills'⟩ := hnew inv hinv
      have hid : inv.subscriptionId = x.id := hbills.elim (·.subscription) (·.subscription)
      have hyx : y = x := List.inj_on_of_nodup_map hsubs.nodup hy hx (hbills'.subscription.symm.trans hid)
      exact .inr (hyx ▸ ⟨hfree, hgood⟩)
  · rintro (⟨inv, hinv, hbills⟩ | ⟨hfree, hgood⟩)
    · exact ⟨inv, hrows ▸ List.mem_append_left _ hinv, hbills⟩
    · obtain ⟨inv, hinv, hbills⟩ := hall x hx hfree hgood
      exact ⟨inv, hrows ▸ List.mem_append_right _ hinv, .inl hbills⟩

/-- **When every ended period is invoiced.** After any run of operations of billing, interleaved and killed
anywhere, the sweep runs to completion, alone and with no failure of the database. Every live subscription
whose period has ended then has an open or a paid invoice for it exactly when each of them had one before, or
had none that covers the period, a draft included, and could be billed. -/
theorem invoiced_iff {ι : Type} [DecidableEq ι] (cfg : Settings) (db : Db S) (env : Env) (op : ι → Operation)
    (tenant : ι → Option ℤ) (ms : List (Effects.Move ι)) (order : RowOrder) (flushExpires : Bool)
    (hw : ((operationPool cfg (World.start db env) op tenant).run serve ms).world.Up) :
    let w := ((operationPool cfg (World.start db env) op tenant).run serve ms).world
    let now := w.env.clock w.clockReads
    let o := (generateDueInvoicesAsync order).exec serve { flushExpires := flushExpires } w
    (∃ st, o.result = .ok st) ∧
    ((∀ x ∈ w.db.subscriptions.rows, hasEnded now x = true → Invoiced o.world.db x) ↔
      ∀ x ∈ w.db.subscriptions.rows, hasEnded now x = true →
        Invoiced w.db x ∨ (¬Blocked w.db x ∧ Invoiceable w.db x)) := by
  intro w now o
  have hs : Session.Ready { flushExpires := flushExpires } := ⟨rfl, rfl, rfl⟩
  obtain ⟨st, w', hexec, hiff⟩ := invoiced_after hs hw order
  have ho : o = ⟨.ok st, { flushExpires := flushExpires }, w'⟩ := hexec
  rw [ho]
  refine ⟨⟨st, rfl⟩, forall_congr' fun x => forall_congr' fun hx => forall_congr' fun hended => hiff x ?_⟩
  exact (order.perm _).mem_iff.2 (List.mem_filter.2 ⟨hx, hended⟩)

/-! ### A sweep that dies -/

namespace Sample

/-- One sweep. -/
def sweepOnce : Unit → Operation := fun _ => .invoiceSweep inOrder

/-- It dies after the commit of the first invoice, before it is issued. -/
def dies : List (Effects.Move Unit) := List.replicate 7 (.step ()) ++ [.crash ()]

def afterDeath : World .metadata :=
  ((operationPool settings (World.start neighbours (env (days 31))) sweepOnce fun _ => none).run serve dies).world

end Sample

/-- The next sweep runs to completion, and the invoice of the first tenant is still a draft. -/
theorem draft_left_over :
    let o := (generateDueInvoicesAsync Sample.inOrder).exec serve { flushExpires := true } Sample.afterDeath
    (∃ st, o.result = .ok st) ∧
    ¬∀ x ∈ Sample.afterDeath.db.subscriptions.rows,
      hasEnded (Sample.afterDeath.env.clock Sample.afterDeath.clockReads) x = true → Invoiced o.world.db x := by
  intro o
  have hreturns : o.result.isOk = true := by decide +kernel
  have hdraft : ∀ inv ∈ o.world.db.invoices.rows, inv.subscriptionId = 1 → inv.status = .draft := by decide +kernel
  have hdue : ∃ x ∈ Sample.afterDeath.db.subscriptions.rows,
      x.id = 1 ∧ hasEnded (Sample.afterDeath.env.clock Sample.afterDeath.clockReads) x = true := by decide +kernel
  refine ⟨?_, fun h => ?_⟩
  · cases hr : o.result with
    | ok st => exact ⟨st, rfl⟩
    | error e =>
      rw [hr] at hreturns
      cases hreturns
  · obtain ⟨x, hx, hid, hended⟩ := hdue
    obtain ⟨inv, hinv, hbills⟩ := h x hx hended
    have hstatus := hdraft inv hinv ((hbills.elim (·.subscription) (·.subscription)).trans hid)
    rcases hbills with hopen | hpaid
    · cases hstatus.symm.trans hopen.status
    · cases hstatus.symm.trans hpaid.status

/-- The condition fails after that death. -/
theorem invoiced_iff_death :
    let o := (generateDueInvoicesAsync Sample.inOrder).exec serve { flushExpires := true } Sample.afterDeath
    (∃ st, o.result = .ok st) ∧
    ((∀ x ∈ Sample.afterDeath.db.subscriptions.rows,
        hasEnded (Sample.afterDeath.env.clock Sample.afterDeath.clockReads) x = true → Invoiced o.world.db x) ↔
      ∀ x ∈ Sample.afterDeath.db.subscriptions.rows,
        hasEnded (Sample.afterDeath.env.clock Sample.afterDeath.clockReads) x = true →
          Invoiced Sample.afterDeath.db x ∨ (¬Blocked Sample.afterDeath.db x ∧ Invoiceable Sample.afterDeath.db x)) :=
  invoiced_iff Sample.settings Sample.neighbours (Sample.env (days 31)) Sample.sweepOnce (fun _ => none) Sample.dies
    Sample.inOrder true fun _ _ => by
      show Sample.afterDeath.env.dbFails _ = false
      rfl

end FastapiTemplate.Billing
