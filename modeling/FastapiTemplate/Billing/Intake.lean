import FastapiTemplate.Effects.Pool
import FastapiTemplate.Core.Exec
import FastapiTemplate.Database.Ledger
import FastapiTemplate.Billing.Conforms.Events

/-!
# Idempotent intake

Deliveries of Stripe events, and any other requests, run interleaved, and each may be killed between
two effects. The unique index of the ledger lets one commit of an event id through, and a script
enters the handler only with the id it has committed itself and not used yet: `Gate` says so of the
world and of all scripts at once, and `entered_once` is what follows.
-/

namespace FastapiTemplate.Billing

open Core Database Effects Script

variable {S : Schema} {ι : Type} [DecidableEq ι] {cfg : Settings} {r : ι → Request}

/-- Requests that are about to be served, each in its tenant context. -/
def requestPool (cfg : Settings) (w : World S) (r : ι → Request) (tenant : ι → Option ℤ) :
    Pool ι Eff (Answer S) (World S) (Except Exn Unit × Session) where
  world := w
  procs i := some ((r i).script cfg { tenant := tenant i })

omit [DecidableEq ι] in
/-- The requests only do what they may, whatever runs beside them. -/
lemma watched_requestPool (cfg : Settings) (w : World S) (r : ι → Request) (tenant : ι → Option ℤ) :
    (requestPool cfg w r tenant).Watched (fun i => watch (Proper cfg (r i))) fun _ => {} := by
  intro i p hp
  cases hp
  exact Prog.Follows.weaken (conforms cfg (r i) (tenant i)) fun _ _ _ => trivial

/-- Whatever is entered or about to be entered went through the ledger, and no event is in two hands
or was handled while in hand. -/
structure Gate (w : World S) (m : ι → View S) : Prop where
  once : w.entered.Nodup
  recorded : ∀ eventId ∈ w.entered, w.db.Recorded eventId
  held : ∀ i eventId, (m i).token = some eventId → w.db.Recorded eventId ∧ eventId ∉ w.entered
  apart : ∀ i j eventId, (m i).token = some eventId → (m j).token = some eventId → i = j

namespace Gate

variable {w : World S} {m : ι → View S}

/-- Nothing but a commit and an entry has to do with the gate. -/
lemma keep (h : Gate w m) {w' : World S} {i : ι} {v : View S} (hdb : w'.db = w.db)
    (hentered : w'.entered = w.entered) (hv : v.token = (m i).token) :
    Gate w' (Function.update m i v) := by
  have htoken : ∀ j, (Function.update m i v j).token = (m j).token := by
    intro j
    by_cases hj : j = i
    · subst hj
      rw [Function.update_self, hv]
    · rw [Function.update_of_ne hj]
  refine ⟨?_, ?_, ?_, ?_⟩
  · rw [hentered]
    exact h.once
  · rw [hentered, hdb]
    exact h.recorded
  · intro j eventId hj
    rw [hentered, hdb]
    exact h.held j eventId (by rwa [← htoken])
  · intro j k eventId hj hk
    exact h.apart j k eventId (by rwa [← htoken]) (by rwa [← htoken])

/-- Entering a handler uses the event in hand up. -/
lemma enter (h : Gate w m) {i : ι} {eventId : String} (hi : (m i).token = some eventId) :
    Gate { w with entered := w.entered ++ [eventId] } (Function.update m i (m i).entered) := by
  have hother : ∀ j e, (Function.update m i (m i).entered j).token = some e →
      j ≠ i ∧ (m j).token = some e := by
    intro j e hj
    by_cases hji : j = i
    · subst hji
      rw [Function.update_self] at hj
      cases hj
    · rw [Function.update_of_ne hji] at hj
      exact ⟨hji, hj⟩
  refine ⟨?_, ?_, ?_, ?_⟩
  · rw [List.nodup_append]
    refine ⟨h.once, List.nodup_singleton _, ?_⟩
    rintro e he e' he' rfl
    rw [List.mem_singleton] at he'
    subst he'
    exact (h.held i e hi).2 he
  · intro e he
    rcases List.mem_append.1 he with he | he
    · exact h.recorded e he
    · rw [List.mem_singleton.1 he]
      exact (h.held i eventId hi).1
  · intro j e hj
    obtain ⟨hji, hj⟩ := hother j e hj
    refine ⟨(h.held j e hj).1, fun he => ?_⟩
    rcases List.mem_append.1 he with he | he
    · exact (h.held j e hj).2 he
    · rw [List.mem_singleton.1 he] at hj
      exact hji (h.apart j i eventId hj hi)
  · intro j k e hj hk
    exact h.apart j k e (hother j e hj).2 (hother k e hk).2

/-- A commit that puts no event into the ledger. -/
lemma commit (h : Gate w m) {i : ι} {cs : List Change} {d : Db S} {ids : List ℤ}
    (hf : w.db.tables.flush cs = .ok (ids, d.tables)) (hnew : ∀ row, .insertStripeEvent row ∉ cs)
    (hstamp : ∀ loaded cur, .updateStripeEvent loaded cur ∈ cs → cur.eventId = loaded.eventId) :
    Gate (w.committed cs d) (Function.update m i ((m i).committed cs)) := by
  have hnone : cs.findSome? Core.recorded = none := by
    rw [List.findSome?_eq_none_iff]
    intro c hc
    cases c with
    | insertStripeEvent row => exact absurd hc (hnew row)
    | _ => rfl
  have hsame : Gate { w.committed cs d with db := w.db } (Function.update m i ((m i).committed cs)) :=
    h.keep rfl rfl (by simp [View.committed, hnone])
  have hledger : ∀ eventId, d.Recorded eventId ↔ w.db.Recorded eventId :=
    fun _ => Db.recorded_congr hf hnew hstamp
  exact ⟨hsame.once, fun e he => (hledger e).2 (hsame.recorded e he),
    fun j e hj => ⟨(hledger e).2 (hsame.held j e hj).1, (hsame.held j e hj).2⟩, hsame.apart⟩

/-- A commit that puts an event into the ledger: nobody else has it in hand, and it is not handled. -/
lemma record (h : Gate w m) {i : ι} {row : StripeEvent} {d : Db S} {ids : List ℤ}
    (hf : w.db.tables.flush [.insertStripeEvent row] = .ok (ids, d.tables)) :
    Gate (w.committed [.insertStripeEvent row] d)
      (Function.update m i ((m i).committed [.insertStripeEvent row])) := by
  have hfresh : ¬w.db.Recorded row.eventId := Db.not_recorded hf
  have hgrow : ∀ e, w.db.Recorded e → d.Recorded e := fun e he => (Db.recorded_insert hf).2 (.inl he)
  have hcases : ∀ j e, (Function.update m i ((m i).committed [.insertStripeEvent row]) j).token = some e →
      j = i ∧ e = row.eventId ∨ (m j).token = some e := by
    intro j e hj
    by_cases hji : j = i
    · subst hji
      rw [Function.update_self] at hj
      exact .inl ⟨rfl, (Option.some.inj hj).symm⟩
    · rw [Function.update_of_ne hji] at hj
      exact .inr hj
  refine ⟨h.once, fun e he => hgrow e (h.recorded e he), ?_, ?_⟩
  · intro j e hj
    rcases hcases j e hj with ⟨-, rfl⟩ | hj
    · exact ⟨(Db.recorded_insert hf).2 (.inr rfl), fun he => hfresh (h.recorded _ he)⟩
    · exact ⟨hgrow e (h.held j e hj).1, (h.held j e hj).2⟩
  · intro j k e hj hk
    rcases hcases j e hj with ⟨hji, hej⟩ | hj'
    · rcases hcases k e hk with ⟨hki, -⟩ | hk'
      · rw [hji, hki]
      · rw [hej] at hk'
        exact absurd (h.held k _ hk').1 hfresh
    · rcases hcases k e hk with ⟨-, hek⟩ | hk'
      · rw [hek] at hj'
        exact absurd (h.held j _ hj').1 hfresh
      · exact h.apart j k e hj' hk'

/-- **Every allowed effect keeps the gate.** -/
theorem step (w : World S) (m : ι → View S) (i : ι) (e : Eff)
    (ha : (watch (Proper cfg (r i))).allows (m i) e) (h : Gate w m) :
    Gate (serve e w).2
      (Function.update m i ((watch (Proper cfg (r i))).next (m i) e (serve e w).1)) := by
  cases e with
  | now => exact h.keep rfl rfl rfl
  | query =>
    refine h.keep rfl rfl ?_
    simp only [serve]
    split <;> rfl
  | publish event =>
    simp only [serve]
    split <;> exact h.keep rfl rfl rfl
  | enter eventId => exact h.enter ha
  | redis command =>
    simp only [serve]
    split <;> exact h.keep rfl rfl rfl
  | recollect worker tenantId => exact h.keep rfl rfl rfl
  | remember worker tenantId e => exact h.keep rfl rfl rfl
  | commit cs =>
    have hp : Proper cfg (r i) (m i) cs := ha
    rw [serve_commit]
    rcases w.commit_cases cs with ⟨e, hcommit⟩ | ⟨ids, d, hc, hcommit⟩
    · rw [hcommit]
      exact h.keep rfl rfl rfl
    · rw [hcommit]
      have hf := Db.commit_ok hc
      by_cases hnew : ∃ row, .insertStripeEvent row ∈ cs
      · obtain ⟨row, hrow⟩ := hnew
        have hcs := hp.ledger row hrow
        subst hcs
        exact h.record hf
      · exact h.commit hf (fun row hrow => hnew ⟨row, hrow⟩) hp.stamps

end Gate

/-- **Idempotent intake.** Whatever requests are served, however they are interleaved, and wherever
any of them is killed, a domain handler is entered at most once for an event id. -/
theorem entered_once (cfg : Settings) (db : Db S) (env : Env) (r : ι → Request)
    (tenant : ι → Option ℤ) (ms : List (Effects.Move ι)) (eventId : String) :
    ((requestPool cfg (World.start db env) r tenant).run serve ms).world.entered.count eventId ≤ 1 := by
  have hgate : Gate (World.start db env) fun _ : ι => ({} : View S) :=
    ⟨List.nodup_nil, nofun, nofun, nofun⟩
  obtain ⟨m', -, h⟩ := Pool.inv (C := fun _ _ => True) (I := Gate)
    (fun w m i e ha _ hw => Gate.step w m i e ha hw) ms
    (watched_requestPool cfg (World.start db env) r tenant) hgate (Pool.meets_true _ _ ms)
  exact List.nodup_iff_count_le_one.1 h.once eventId

end FastapiTemplate.Billing
