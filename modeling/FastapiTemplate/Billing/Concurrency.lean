import FastapiTemplate.Billing.Intake
import FastapiTemplate.Billing.Transitions

/-!
# Failures, sweeps and recoveries at the same time

Each of the three reads a row, decides on what it read, and writes columns of the row back when it
commits, over whatever is stored by then. `updates_orderly` is what holds of every interleaving in
which no commit is out of date (`Current`): the stored count is what the committed failures, ticks
and recoveries add up to, and the stored statuses follow the transition table. Nothing in the code
prevents a commit that is out of date; `stale_commits` has two of them.
-/

namespace FastapiTemplate.Billing

open Core Database Effects Script Store

variable {S : Schema} {ι : Type} [DecidableEq ι] {cfg : Settings}

/-! ### The jobs -/

/-- A failed payment reported by Stripe, a run of the dunning task, or the payment of an invoice. -/
def Request.IsJob : Request → Prop
  | .dunningSweep | .markPaid _ _ | .payInvoice _ _ => True
  | r => ∃ event, r.event? = some event ∧ eventField event "type" = .ok "invoice.payment_failed"

/-- What the jobs do to a row. -/
def Move.OfJob : Move → Prop
  | .fail _ | .remind _ | .expire | .recover => True
  | _ => False

section Job

variable {r : Request} {start : Option (Db S)} {asked : Option Python.Datetime}

/-- An event of that type has no other handler. -/
lemma handled_paymentFailed {d : Db S} {event obj : Python.Value} {kind : DomainEvent}
    (hty : eventField event "type" = .ok "invoice.payment_failed")
    (hh : handled d event = some (kind, obj)) : kind = .paymentFailed := by
  obtain ⟨eventType, hty', hkind⟩ := handled_kind hh
  rw [hty] at hty'
  cases hty'
  exact (Option.some.inj hkind).symm

lemma Request.IsJob.moves (h : r.IsJob) {row : Subscription} {mv : Move}
    (ho : r.Offers start asked row mv) : mv.OfJob := by
  have hevent : (∃ event, r.event? = some event ∧
      eventField event "type" = .ok "invoice.payment_failed") → mv.OfJob := by
    rintro ⟨event, he, hty⟩
    obtain ⟨d, kind, obj, -, hh, hoffer⟩ := ho.event he
    have hk := handled_paymentFailed hty hh
    subst hk
    obtain ⟨-, now, rfl⟩ := hoffer
    trivial
  cases r with
  | dunningSweep => rcases ho with rfl | ⟨now, rfl⟩ <;> trivial
  | markPaid invoiceId bus =>
    have hmv : mv = .recover := ho
    subst hmv
    trivial
  | payInvoice caller invoiceId =>
    have hmv : mv = .recover := ho
    subst hmv
    trivial
  | _ => exact hevent h

lemma Request.IsJob.not_opens (h : r.IsJob) {x : Standing} : ¬r.Opens start asked x := by
  intro ho
  rcases ho.cases with ⟨user, planId, rfl, -⟩ | ⟨d, event, obj, -, he, hh, -⟩
  · obtain ⟨event, he, -⟩ := h
    cases he
  · have hevent : (∃ event, r.event? = some event ∧
        eventField event "type" = .ok "invoice.payment_failed") → False := by
      rintro ⟨event', he', hty⟩
      rw [he] at he'
      cases he'
      cases handled_paymentFailed hty hh
    cases r with
    | webhook request => exact hevent h
    | processEvent event' bus => exact hevent h
    | _ => cases he

end Job

/-! ### What a commit is to do -/

/-- The count after a job has left a row in a status: a failure or a tick leaves it past due, a
recovery active. -/
def booked (status : SubscriptionStatus) (n : ℤ) : ℤ :=
  match status with
  | .pastDue => n + 1
  | .active => 0
  | _ => n

/-- The status in which a commit leaves the subscription, if it updates it. -/
def outcomeOf (id : ℤ) (cs : List Change) : Option SubscriptionStatus :=
  cs.findSome? fun
    | .updateSubscription loaded cur => if loaded.id = id then some cur.status else none
    | _ => none

/-- The count after the committed failures, ticks and recoveries of a subscription. -/
def accounted (id : ℤ) (n : ℤ) (log : List (List Change × Db S)) : ℤ :=
  log.foldl (fun n e => (outcomeOf id e.1).elim n fun status => booked status n) n

/-- Each row is kept, its count changes by what is committed for it, and its status as the table
allows. -/
def Orderly (b : Db S) (cs : List Change) (d : Db S) : Prop :=
  ∀ x ∈ b.subscriptions.rows, ∃ x' ∈ d.subscriptions.rows, x'.id = x.id ∧
    x'.failedPaymentCount = (outcomeOf x.id cs).elim x.failedPaymentCount
      (fun status => booked status x.failedPaymentCount) ∧
    Legal x.status x'.status

theorem accounted_of_journal {b d : Db S} {log : List (List Change × Db S)}
    (h : Journal Orderly b log d) {x : Subscription} (hx : x ∈ b.subscriptions.rows) :
    ∃ x' ∈ d.subscriptions.rows, x'.id = x.id ∧
      x'.failedPaymentCount = accounted x.id x.failedPaymentCount log := by
  induction log generalizing b x with
  | nil =>
    have hd : d = b := h
    rw [hd]
    exact ⟨x, hx, rfl, rfl⟩
  | cons e log ih =>
    obtain ⟨x', hx', hid, hcount, -⟩ := h.1 x hx
    obtain ⟨x'', hx'', hid', hcount'⟩ := ih h.2 hx'
    refine ⟨x'', hx'', hid'.trans hid, ?_⟩
    rw [hcount', hcount, hid]
    rfl

/-! ### A commit that is not out of date -/

/-- What the job read still holds where it matters. A job that changes the status finds the row in
that status already, or live and in dunning as it was; and unless it suspends the row, or recovers it
and clears a count, it finds the count it read. -/
structure Current (stored loaded cur : Subscription) : Prop where
  status : cur.status ≠ loaded.status → stored.status = cur.status ∨
    stored.isLive = true ∧ (stored.status = .pastDue ↔ loaded.status = .pastDue)
  count : stored.failedPaymentCount = loaded.failedPaymentCount ∨ cur.status = .suspended ∨
    cur.status = .active ∧ loaded.failedPaymentCount ≠ 0

instance (stored loaded cur : Subscription) : Decidable (Current stored loaded cur) :=
  decidable_of_iff ((cur.status ≠ loaded.status → stored.status = cur.status ∨
      stored.isLive = true ∧ (stored.status = .pastDue ↔ loaded.status = .pastDue)) ∧
    (stored.failedPaymentCount = loaded.failedPaymentCount ∨ cur.status = .suspended ∨
      cur.status = .active ∧ loaded.failedPaymentCount ≠ 0)) ⟨fun h => ⟨h.1, h.2⟩, fun h => ⟨h.1, h.2⟩⟩

section WriteBack

variable {P : Policy} {mv : Move} {stored loaded cur : Subscription}

/-- The count that is written over the stored one. -/
lemma booked_writeBack (hjob : mv.OfJob) (hallowed : mv.Allowed P (standing loaded))
    (happly : standing cur = mv.apply P (standing loaded)) (h : Current stored loaded cur) :
    (loaded.writeBack cur stored).failedPaymentCount = booked cur.status stored.failedPaymentCount := by
  have hstatus : cur.status = (mv.apply P (standing loaded)).status := congrArg Standing.status happly
  have hcount : cur.failedPaymentCount = (mv.apply P (standing loaded)).failures :=
    congrArg Standing.failures happly
  have hread := h.count
  show column loaded.failedPaymentCount cur.failedPaymentCount stored.failedPaymentCount = _
  unfold column
  cases mv with
  | fail now =>
    have hs : cur.status = .pastDue := hstatus
    have hc : cur.failedPaymentCount = loaded.failedPaymentCount + 1 := hcount
    have hsame : stored.failedPaymentCount = loaded.failedPaymentCount := by simpa [hs] using hread
    rw [hs, hc, if_neg (by omega), hsame]
    rfl
  | remind now =>
    have hs : cur.status = .pastDue := hstatus.trans hallowed.1
    have hc : cur.failedPaymentCount = loaded.failedPaymentCount + 1 := hcount
    have hsame : stored.failedPaymentCount = loaded.failedPaymentCount := by simpa [hs] using hread
    rw [hs, hc, if_neg (by omega), hsame]
    rfl
  | expire =>
    have hs : cur.status = .suspended := hstatus
    have hc : cur.failedPaymentCount = loaded.failedPaymentCount := hcount
    rw [hs, if_pos hc]
    rfl
  | recover =>
    have hs : cur.status = .active := hstatus
    have hc : cur.failedPaymentCount = 0 := hcount
    rw [hs, hc]
    show _ = (0 : ℤ)
    split
    · -- there was nothing to clear when the row was read, and there is nothing now
      rename_i hzero
      rcases hread with hsame | hsusp | ⟨-, hne⟩
      · rw [hsame, ← hzero]
      · rw [hs] at hsusp
        cases hsusp
      · exact absurd hzero.symm hne
    · rfl
  | edit => exact hjob.elim
  | assign target => exact hjob.elim
  | trial => exact hjob.elim

/-- The status that is written over the stored one. -/
lemma legal_writeBack (hjob : mv.OfJob) (hallowed : mv.Allowed P (standing loaded))
    (happly : standing cur = mv.apply P (standing loaded)) (h : Current stored loaded cur) :
    Legal stored.status (loaded.writeBack cur stored).status := by
  have hstatus : cur.status = (mv.apply P (standing loaded)).status := congrArg Standing.status happly
  show Legal stored.status (column loaded.status cur.status stored.status)
  unfold column
  by_cases hsame : cur.status = loaded.status
  · rw [if_pos hsame]
    exact .inl rfl
  rw [if_neg hsame]
  rcases h.status hsame with hdone | ⟨hlive, hdunning⟩
  · exact .inl hdone.symm
  right
  cases mv with
  | fail now =>
    have hs : cur.status = .pastDue := hstatus
    have hne : stored.status ≠ .pastDue := fun hp => hsame (hs.trans (hdunning.1 hp).symm)
    unfold Subscription.isLive at hlive
    rw [hs]
    cases hst : stored.status <;> simp_all [allowedTransitions, SubscriptionStatus.isLive]
  | remind now => exact absurd hstatus hsame
  | expire =>
    have hs : cur.status = .suspended := hstatus
    rw [hs, hdunning.2 hallowed.1]
    simp [allowedTransitions]
  | recover =>
    have hs : cur.status = .active := hstatus
    rw [hs, hdunning.2 hallowed]
    simp [allowedTransitions]
  | edit => exact hjob.elim
  | assign target => exact hjob.elim
  | trial => exact hjob.elim

end WriteBack

/-! ### Every interleaving -/

/-- The change is not out of date. -/
def UpToDate (d : Db S) : Change → Prop
  | .updateSubscription loaded cur =>
    ∀ x ∈ d.subscriptions.rows, x.id = loaded.id → Current x loaded cur
  | _ => True

/-- A commit that goes through is not out of date. -/
def Timely (w : World S) : Eff → Prop
  | .commit cs => (w.commit cs).1.isOk = true → ∀ c ∈ cs, UpToDate w.db c
  | _ => True

instance (d : Db S) : (c : Change) → Decidable (UpToDate d c)
  | .updateSubscription loaded cur =>
    inferInstanceAs (Decidable (∀ x ∈ d.subscriptions.rows, x.id = loaded.id → Current x loaded cur))
  | .insertSubscription _ | .insertInvoice _ | .updateInvoice _ _ | .insertStripeEvent _
  | .updateStripeEvent _ _ =>
    inferInstanceAs (Decidable True)

instance (w : World S) : (e : Eff) → Decidable (Timely w e)
  | .commit cs => inferInstanceAs (Decidable ((w.commit cs).1.isOk = true → ∀ c ∈ cs, UpToDate w.db c))
  | .now | .query | .publish _ | .enter _ | .redis _ | .recollect _ _ | .remember _ _ _ =>
    inferInstanceAs (Decidable True)

lemma outcomeOf_eq_some {id : ℤ} {cs : List Change} {status : SubscriptionStatus}
    (h : outcomeOf id cs = some status) :
    ∃ loaded cur, .updateSubscription loaded cur ∈ cs ∧ loaded.id = id ∧ cur.status = status := by
  obtain ⟨c, hc, hf⟩ := List.exists_of_findSome?_eq_some h
  cases c with
  | updateSubscription loaded cur =>
    by_cases hid : loaded.id = id
    · exact ⟨loaded, cur, hc, hid, by simpa [hid] using hf⟩
    · simp [hid] at hf
  | _ => cases hf

lemma outcomeOf_eq_none {id : ℤ} {cs : List Change} (h : outcomeOf id cs = none) : id ∉ targets cs := by
  intro hid
  obtain ⟨c, hc, ht⟩ := List.mem_filterMap.1 hid
  have hnone := List.findSome?_eq_none_iff.1 h c hc
  cases c with
  | updateSubscription loaded cur =>
    have hl : loaded.id = id := Option.some.inj ht
    simp [hl] at hnone
  | _ => cases ht

/-- A commit of a job that is not out of date is orderly. -/
theorem orderly_of_current {r : Request} (hjob : r.IsJob) {b d : Db S} {m : View S} {cs : List Change}
    {ids : List ℤ} (hp : Proper cfg r m cs) (hf : b.tables.flush cs = .ok (ids, d.tables))
    (hcur : ∀ c ∈ cs, UpToDate b c) : Orderly b cs d := by
  have hopen : ∀ c ∈ cs, c.opened = none := by
    intro c hc
    cases c with
    | insertSubscription row => exact absurd (hp.opens row hc).2 hjob.not_opens
    | _ => rfl
  intro x hx
  refine ⟨rewrite cs x, ?_, rewrite_id cs x, ?_⟩
  · rw [Db.subscriptions, flush_rows hf hopen]
    exact List.mem_map_of_mem hx
  · rcases ho : outcomeOf x.id cs with _ | status
    · rw [rewrite_of_not_mem (outcomeOf_eq_none ho)]
      exact ⟨rfl, .inl rfl⟩
    · obtain ⟨loaded, cur, hmem, hid, rfl⟩ := outcomeOf_eq_some ho
      obtain ⟨-, -, mv, hoffer, hallowed, happly⟩ := hp.updates loaded cur hmem
      have hmv : mv.OfJob := hjob.moves hoffer
      have hc : Current x loaded cur := hcur _ hmem x hx hid.symm
      rw [rewrite_of_mem hp.apart hmem hid.symm]
      exact ⟨booked_writeBack hmv hallowed happly hc, legal_writeBack hmv hallowed happly hc⟩

/-- **Concurrent updates.** Failed payments, sweeps and recoveries run interleaved, and may be killed.
If no commit is out of date when it goes through, the count of every subscription is what the committed
failures, ticks and recoveries add up to, and the committed statuses follow the transition table. -/
theorem updates_orderly (cfg : Settings) (db : Db S) (env : Env) {r : ι → Request}
    (hjobs : ∀ i, (r i).IsJob) (tenant : ι → Option ℤ) (ms : List (Effects.Move ι))
    (htimely : (requestPool cfg (World.start db env) r tenant).Meets serve Timely ms) :
    let w := ((requestPool cfg (World.start db env) r tenant).run serve ms).world
    (∀ x ∈ db.subscriptions.rows, ∃ x' ∈ w.db.subscriptions.rows, x'.id = x.id ∧
      x'.failedPaymentCount = accounted x.id x.failedPaymentCount w.log) ∧
    (db :: w.log.map Prod.snd).IsChain LegalChange := by
  intro w
  have hstep : ∀ (w : World S) (m : ι → View S) (i : ι) (e : Eff),
      (watch (Proper cfg (r i))).allows (m i) e → Timely w e → Journal Orderly db w.log w.db →
      Journal Orderly db (serve e w).2.log (serve e w).2.db := by
    intro w m i e ha ht h
    refine journal_serve h ?_
    rintro cs ids d rfl hc hcommit
    have hok : (w.commit cs).1.isOk = true := by rw [hcommit]; rfl
    exact orderly_of_current (hjobs i) ha (Db.commit_ok hc) (ht hok)
  obtain ⟨m', -, h⟩ := Pool.inv (C := Timely) (I := fun w _ => Journal Orderly db w.log w.db) hstep ms
    (watched_requestPool cfg (World.start db env) r tenant) rfl htimely
  refine ⟨fun x hx => accounted_of_journal h hx, h.isChain ?_⟩
  intro b cs d hbd x hx
  obtain ⟨x', hx', hid, -, hlegal⟩ := hbd x hx
  exact ⟨x', hx', hid, hlegal⟩

/-! ### Two jobs on one subscription -/

namespace Sample

/-- A subscription with an open invoice. -/
def billed (row : Subscription)
    (h : Schema.metadata.admits (.seed [] [] [row] [openInvoice]) = true) : Db .metadata :=
  ⟨.seed [] [] [row] [openInvoice], h⟩

/-- Two jobs, the first to read and the second to read. -/
def jobs (first second : Request) : Bool → Request
  | false => first
  | true => second

/-- What is left of the world after a schedule of the two; `true` is a step of the second. -/
def interleaved (db : Db .metadata) (first second : Request) (schedule : List Bool) : World .metadata :=
  ((requestPool settings (World.start db (env 1000)) (jobs first second) fun _ => none).run serve
    (schedule.map Effects.Move.step)).world

def failure (eventId : String) : Request := .processEvent (paymentFailed eventId) none

end Sample

/-- A run of the theorem: two failures, one after the other. -/
theorem updates_orderly_failures :
    let db := Sample.billed (Sample.row .active 0 none) (by decide)
    let w := Sample.interleaved db (Sample.failure "evt_1") (Sample.failure "evt_2")
      (List.replicate 10 false ++ List.replicate 10 true)
    (∀ x ∈ db.subscriptions.rows, ∃ x' ∈ w.db.subscriptions.rows, x'.id = x.id ∧
      x'.failedPaymentCount = accounted x.id x.failedPaymentCount w.log) ∧
    (db :: w.log.map Prod.snd).IsChain LegalChange := by
  refine updates_orderly Sample.settings _ (Sample.env 1000) ?_ (fun _ => none) _ (by decide +kernel)
  rintro (_ | _)
  · exact ⟨_, rfl, rfl⟩
  · exact ⟨_, rfl, rfl⟩

/-- Both properties fail when a commit is out of date: of two failures that read the same count one is
lost, and a sweep suspends a subscription whose recovery it has not seen. -/
theorem stale_commits :
    (let db := Sample.billed (Sample.row .active 0 none) (by decide)
      let w := Sample.interleaved db (Sample.failure "evt_1") (Sample.failure "evt_2")
        (List.replicate 4 false ++ List.replicate 10 true ++ List.replicate 6 false)
      ¬∀ x ∈ db.subscriptions.rows, ∃ x' ∈ w.db.subscriptions.rows, x'.id = x.id ∧
        x'.failedPaymentCount = accounted x.id x.failedPaymentCount w.log) ∧
    (let db := Sample.billed (Sample.row .pastDue 4 (some 500)) (by decide)
      let w := Sample.interleaved db .dunningSweep (.markPaid 1 none)
        (List.replicate 2 false ++ List.replicate 5 true ++ List.replicate 3 false)
      ¬(db :: w.log.map Prod.snd).IsChain LegalChange) := by
  decide +kernel

end FastapiTemplate.Billing
