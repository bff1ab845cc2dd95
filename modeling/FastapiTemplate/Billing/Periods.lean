import FastapiTemplate.Billing.Pacing
import FastapiTemplate.Core.Exec

/-!
# One invoice for a period

Two invoices of one subscription that are not void never start their periods at the same time
(`one_invoice_per_period`): the unique index covers exactly the statuses that block a period
(`mem_blockingStatuses`), so the code's look for a blocking invoice finds one at most. The look itself
keeps nobody away, as an invoice can be voided or made between it and the commit.
-/

namespace FastapiTemplate.Billing

open Core Database Python Effects Script

variable {S : Schema} {ι : Type} [DecidableEq ι]

/-- No two invoices block one period. -/
def OneBlocking (d : Db S) : Prop :=
  ∀ i ∈ d.invoices.rows, ∀ j ∈ d.invoices.rows, i.status ∈ blockingStatuses → j.status ∈ blockingStatuses →
    i.subscriptionId = j.subscriptionId → i.periodStart = j.periodStart → i = j

theorem oneBlocking (d : Db S) : OneBlocking d := by
  intro i hi j hj hsi hsj hsub hstart
  have hi' : billedPeriod i = some (i.subscriptionId, i.periodStart) :=
    if_neg (mem_blockingStatuses.1 hsi)
  have hj' : billedPeriod j = some (i.subscriptionId, i.periodStart) := by
    rw [hsub, hstart]
    exact if_neg (mem_blockingStatuses.1 hsj)
  exact uniqueOn_inj d.constraints.period hi hj hi' hj'

/-- Rows that are equal once they satisfy the condition give one result. -/
lemma scalarOneOrNone_ne_multiple {α : Type} {rows : List α} {p : α → Bool} (hn : rows.Nodup)
    (h : ∀ a ∈ rows, ∀ b ∈ rows, p a = true → p b = true → a = b) :
    scalarOneOrNone (rows.filter p) ≠ .error .multipleResultsFound := by
  have hf : (rows.filter p).Nodup := hn.filter p
  have hone : ∀ a ∈ rows.filter p, ∀ b ∈ rows.filter p, a = b := fun a ha b hb =>
    h a (List.mem_filter.1 ha).1 b (List.mem_filter.1 hb).1 (List.mem_filter.1 ha).2 (List.mem_filter.1 hb).2
  rcases hr : rows.filter p with _ | ⟨a, _ | ⟨b, rest⟩⟩ <;> rw [hr] at hf hone
  · exact fun h => by cases h
  · exact fun h => by cases h
  · rw [hone a (by simp) b (by simp)] at hf
    simp at hf

/-- The look for a blocking invoice never sees two. -/
theorem findBlockingForPeriod_ne_multiple (subscriptionId : ℤ) (periodStart : Datetime) (s : Session)
    (w : World S) : ((findBlockingForPeriod subscriptionId periodStart).exec serve s w).result ≠
      .error .multipleResultsFound := by
  unfold findBlockingForPeriod
  rw [exec_bind, exec_select]
  split
  · exact fun h => by cases h
  split
  · exact fun h => by cases h
  rw [Outcome.next_ok, exec_ofExcept]
  refine scalarOneOrNone_ne_multiple ?_ ?_
  · exact (List.Nodup.of_map _ w.db.invoices.nodup_keys)
  · intro a ha b hb hpa hpb
    simp only [Bool.and_eq_true, beq_iff_eq, List.contains_iff_mem] at hpa hpb
    obtain ⟨-, ⟨hsa, hta⟩, hba⟩ := hpa
    obtain ⟨-, ⟨hsb, htb⟩, hbb⟩ := hpb
    exact oneBlocking w.db a ha b hb hba hbb (hsa.trans hsb.symm) (hta.trans htb.symm)

/-- **One invoice for a period.** Whatever operations run, interleaved and killed in any way, no
committed state has two invoices of one subscription that are draft, open or paid and start at the same
time, and in no state of the run does the look for a blocking invoice see two. -/
theorem one_invoice_per_period (cfg : Settings) (db : Db S) (env : Env) (op : ι → Operation)
    (tenant : ι → Option ℤ) (ms : List (Effects.Move ι)) :
    let w := ((operationPool cfg (World.start db env) op tenant).run serve ms).world
    (∀ d ∈ db :: w.log.map Prod.snd, OneBlocking d) ∧ OneBlocking w.db ∧
    ∀ (s : Session) (subscriptionId : ℤ) (periodStart : Datetime),
      ((findBlockingForPeriod subscriptionId periodStart).exec serve s w).result ≠
        .error .multipleResultsFound :=
  ⟨fun d _ => oneBlocking d, oneBlocking _, fun s id start => findBlockingForPeriod_ne_multiple id start s _⟩

end FastapiTemplate.Billing
