import FastapiTemplate.Billing.Pacing
import FastapiTemplate.Billing.Recovery
import FastapiTemplate.Database.Bills

/-!
# One invoice, issued, paid and voided at the same time

The three operations on an invoice check the transition on the status they read and assign the new one
when they commit, over whatever is stored by then. `invoice_settles` is what holds of every
interleaving in which the invoice is committed from the status that was read (`FromRead`): its statuses
follow the table, and a payment that takes the subscription out of dunning is final. Nothing in the
code prevents a commit over another status; in `invoice_unsettled` an invoice is voided after it was
paid.
-/

namespace FastapiTemplate.Billing

open Core Database Effects Script Store

variable {S : Schema} {ι : Type} [DecidableEq ι]

/-! ### The operations -/

/-- The operation issues, pays or voids a given invoice. -/
def Operation.Settles (invoiceId : ℤ) : Operation → Prop
  | .issueInvoice _ id | .voidInvoice _ id | .request (.payInvoice _ id) | .request (.markPaid id _) =>
    id = invoiceId
  | _ => False

/-- The change updates a subscription. -/
def IsRecovery : Change → Prop
  | .updateSubscription _ _ => True
  | _ => False

/-- What an operation on the invoice commits: a transition of it, and with a payment an update of the
subscription. -/
def Settlement (invoiceId : ℤ) (cs : List Change) : Prop :=
  ∃ inv cur more, cs = .updateInvoice inv cur :: more ∧ inv.id = invoiceId ∧ Transits inv cur ∧
    Each IsRecovery more ∧ (more = [] ∨ cur.status = .paid)

section Commits

variable {invoiceId : ℤ} {inv cur : Invoice}

lemma settlement_single (hid : inv.id = invoiceId) (h : Transits inv cur) :
    Settlement invoiceId [.updateInvoice inv cur] :=
  ⟨inv, cur, [], rfl, hid, h, each_nil _, .inl rfl⟩

lemma settlement_paid {cs : List Change} (hid : inv.id = invoiceId) (h : Transits inv cur)
    (hpaid : cur.status = .paid) (hcs : Extends IsRecovery [.updateInvoice inv cur] cs) :
    Settlement invoiceId cs := by
  obtain ⟨more, hmore, rfl⟩ := hcs
  exact ⟨inv, cur, more, rfl, hid, h, hmore, .inr hpaid⟩

lemma commits_issue (invoiceId : ℤ) :
    Commits (Settlement invoiceId) [] (issue invoiceId : Py S Invoice) := by
  unfold issue
  refine .bind (.selectOne _ _ _) fun o ho => ?_
  cases o with
  | none => exact .throw _
  | some row =>
    have hid : row.id = invoiceId := by simpa using ho row rfl
    exact .bind (Q := fun _ => .open ∈ allowedInvoiceTransitions ((none : Option Invoice).getD row).status)
      (.ofExcept fun _ h => assertInvoiceTransition_ok h) fun _ hallowed =>
      .bind .datetimeNow fun now _ =>
      .add (.andThen (.commit (settlement_single hid ⟨hallowed, rfl⟩)) fun _ =>
        (Core.Idle.refresh _ _ _).mono fun _ _ => trivial)

lemma commits_void (invoiceId : ℤ) :
    Commits (Settlement invoiceId) [] (void invoiceId : Py S Invoice) := by
  unfold void
  refine .bind (.selectOne _ _ _) fun o ho => ?_
  cases o with
  | none => exact .throw _
  | some row =>
    have hid : row.id = invoiceId := by simpa using ho row rfl
    exact .bind (Q := fun _ => .void ∈ allowedInvoiceTransitions row.status)
      (.ofExcept fun _ h => assertInvoiceTransition_ok h) fun _ hallowed =>
      .add (.andThen (.commit (settlement_single hid ⟨hallowed, rfl⟩)) fun _ =>
        (Core.Idle.refresh _ _ _).mono fun _ _ => trivial)

lemma commits_markPaid (invoiceId : ℤ) (bus : Option EventBus) :
    Commits (Settlement invoiceId) [] (markPaid invoiceId bus : Py S Invoice) := by
  unfold markPaid
  refine .bind (.selectOne _ _ _) fun o ho => ?_
  cases o with
  | none => exact .throw _
  | some row =>
    have hid : row.id = invoiceId := by simpa using ho row rfl
    refine .bind (Q := fun _ => .paid ∈ allowedInvoiceTransitions row.status)
      (.ofExcept fun _ h => assertInvoiceTransition_ok h) fun _ hallowed =>
      .bind .datetimeNow fun now _ => .add (.bind (.selectOne _ _ _) fun o _ => ?_)
    have hend : ∀ cs, Extends IsRecovery
        [.updateInvoice row { row with status := .paid, paidAt := some now }] cs →
        Commits (Settlement invoiceId) cs (do let _keys ← commit; refreshInvoice row.id : Py S Invoice) :=
      fun cs hcs => .andThen (.commit (settlement_paid hid ⟨hallowed, rfl⟩ rfl hcs)) fun _ =>
        (Core.Idle.refresh _ _ _).mono fun _ _ => trivial
    cases o with
    | none => exact hend _ (.refl _ _)
    | some sub =>
      dsimp only
      split
      · exact .adds (adds_recoverSubscription (fun _ _ _ => trivial) bus sub) fun _ cs hcs => hend cs hcs
      · exact hend _ (.refl _ _)

/-- The operations on an invoice commit nothing else. -/
lemma commits_settling (cfg : Settings) {op : Operation} (hop : op.Settles invoiceId) :
    Commits (Settlement invoiceId) [] (op.script (S := S) cfg) := by
  have hanswer : ∀ {p : Py S Invoice} (caller : Caller) (suffix : String),
      Commits (Settlement invoiceId) [] p →
      Commits (Settlement invoiceId) [] (do
        let _ ← (do
          ofExcept (permissionChecker ["billing:write"] caller)
          ensureTenantInvoice invoiceId caller.user
          let inv ← p
          (EventBus.mk : EventBus).publish (invoiceEvent suffix inv (some caller.user.id))
          return inv)) := fun caller suffix hp =>
    .andThen (.bind (.checked _) fun _ _ => .bind (idle_ensureTenantInvoice _ _) fun _ _ =>
      .andThen hp fun inv => .bind (.publish _ _) fun _ _ => .pure trivial) fun _ => .pure trivial
  cases op with
  | issueInvoice caller id =>
    cases hop
    exact hanswer caller "issued" (commits_issue _)
  | voidInvoice caller id =>
    cases hop
    exact hanswer caller "voided" (commits_void _)
  | request r =>
    cases r with
    | payInvoice caller id =>
      cases hop
      exact hanswer caller "paid" (commits_markPaid _ _)
    | markPaid id bus =>
      cases hop
      exact .andThen (commits_markPaid _ bus) fun _ => .pure trivial
    | _ => exact hop.elim
  | _ => exact hop.elim

end Commits

/-! ### What a commit does to the invoice -/

/-- The stored status of an invoice. -/
def statusOf (invoiceId : ℤ) (d : Db S) : Option InvoiceStatus :=
  (d.invoices.get? invoiceId).map Invoice.status

/-- Nothing, or a transition of the table. -/
def FollowsTable (s t : Option InvoiceStatus) : Prop :=
  t = s ∨ ∃ a ∈ s, ∃ b ∈ t, b ∈ allowedInvoiceTransitions a

/-- Paid and void are final. -/
def StaysFinal (s t : Option InvoiceStatus) : Prop := s = some .paid ∨ s = some .void → t = s

/-- A commit that is orderly: the status follows the table, and no subscription is written unless the
invoice is paid by then. -/
structure Settled (invoiceId : ℤ) (b d : Db S) : Prop where
  table : FollowsTable (statusOf invoiceId b) (statusOf invoiceId d)
  paid : d.subscriptions = b.subscriptions ∨ statusOf invoiceId d = some .paid

/-- The invoices that a change updates are stored with the status that was read, or with the one that
is assigned. -/
def FromRead (d : Db S) : Change → Prop
  | .updateInvoice loaded cur =>
    ∀ x ∈ d.invoices.rows, x.id = loaded.id → x.status = loaded.status ∨ x.status = cur.status
  | _ => True

/-- A commit that goes through finds the status that was read. -/
def Unmoved (w : World S) : Eff → Prop
  | .commit cs => (w.commit cs).1.isOk = true → ∀ c ∈ cs, FromRead w.db c
  | _ => True

instance (d : Db S) : (c : Change) → Decidable (FromRead d c)
  | .updateInvoice loaded cur => inferInstanceAs (Decidable (∀ x ∈ d.invoices.rows, x.id = loaded.id →
      x.status = loaded.status ∨ x.status = cur.status))
  | .insertSubscription _ | .updateSubscription _ _ | .insertInvoice _ | .insertStripeEvent _
  | .updateStripeEvent _ _ => inferInstanceAs (Decidable True)

instance (w : World S) : (e : Eff) → Decidable (Unmoved w e)
  | .commit cs => inferInstanceAs (Decidable ((w.commit cs).1.isOk = true → ∀ c ∈ cs, FromRead w.db c))
  | .now | .query | .publish _ | .enter _ | .redis _ | .recollect _ _ | .remember _ _ _ =>
    inferInstanceAs (Decidable True)

lemma not_mem_allowedInvoiceTransitions_self (s : InvoiceStatus) : s ∉ allowedInvoiceTransitions s := by
  cases s <;> simp [allowedInvoiceTransitions]

lemma FollowsTable.staysFinal {s t : Option InvoiceStatus} (h : FollowsTable s t) : StaysFinal s t := by
  rintro hfinal
  rcases h with h | ⟨a, ha, b, -, hallowed⟩
  · exact h
  · obtain rfl : s = some a := ha
    rcases hfinal with hf | hf <;> cases hf <;> simp [allowedInvoiceTransitions] at hallowed

lemma StaysFinal.trans {s t u : Option InvoiceStatus} (h : StaysFinal s t) (h' : StaysFinal t u) :
    StaysFinal s u := by
  intro hs
  have ht := h hs
  rw [h' (by rwa [ht]), ht]

/-- What an update of a recovery leaves of the invoices. -/
lemma foldl_rebill_recovery {more : List Change} (h : Each IsRecovery more) (x : Invoice) :
    more.foldl (fun x c => c.rebill x) x = x := by
  induction more with
  | nil => rfl
  | cons c more ih =>
    have hc := h c List.mem_cons_self
    cases c with
    | updateSubscription loaded cur => exact ih fun c hc => h c (List.mem_cons_of_mem _ hc)
    | _ => exact hc.elim

/-- The status that is written over the stored one. -/
lemma status_writeBack {loaded cur x : Invoice} (h : Transits loaded cur)
    (hread : x.status = loaded.status ∨ x.status = cur.status) :
    (loaded.writeBack cur x).status = cur.status ∧
      ((loaded.writeBack cur x).status = x.status ∨
        (loaded.writeBack cur x).status ∈ allowedInvoiceTransitions x.status) := by
  have hne : cur.status ≠ loaded.status := fun heq =>
    not_mem_allowedInvoiceTransitions_self _ (heq ▸ h.allowed)
  have hstatus : (loaded.writeBack cur x).status = cur.status := if_neg hne
  refine ⟨hstatus, ?_⟩
  rcases hread with hr | hr
  · exact .inr (by rw [hstatus, hr]; exact h.allowed)
  · exact .inl (by rw [hstatus, hr])

/-- **One commit**, from the status that was read. -/
theorem settled_of_fromRead {invoiceId : ℤ} {b d : Db S} {cs : List Change} {ids : List ℤ}
    (hcs : Settlement invoiceId cs) (hf : b.tables.flush cs = .ok (ids, d.tables))
    (hread : ∀ c ∈ cs, FromRead b c) : Settled invoiceId b d := by
  obtain ⟨inv, cur, more, rfl, hid, htransits, hmore, hpaid⟩ := hcs
  have hrows := flush_invoiceRows hf fun c hc row hrow => by
    rcases List.mem_cons.1 hc with rfl | hc
    · cases hrow
    · subst hrow
      exact (hmore _ hc).elim
  have hget : d.invoices.get? invoiceId = (b.invoices.get? invoiceId).map
      ((Change.updateInvoice inv cur).rebill) := by
    refine Table.get?_of_rows (f := (Change.updateInvoice inv cur).rebill) (fun r => ?_) ?_ invoiceId
    · exact Change.rebill_id _ r
    · refine hrows.trans (List.map_congr_left fun x _ => ?_)
      exact foldl_rebill_recovery hmore _
  -- the flush went through, so the invoice is there
  obtain ⟨x, hx⟩ : ∃ x, b.invoices.get? inv.id = some x := by
    obtain ⟨ids₁, t₁, ids₂, ha, -⟩ := flush_cons hf
    cases Change.applied ha with
    | updateInvoice hrow => exact ⟨_, hrow⟩
    | sameInvoice row =>
      exact absurd htransits.allowed (not_mem_allowedInvoiceTransitions_self _)
  obtain ⟨hmem, hkey⟩ := Table.get?_eq_some.1 hx
  obtain ⟨hstatus, hstep⟩ := status_writeBack htransits (hread _ List.mem_cons_self x hmem hkey)
  have hrebill : (Change.updateInvoice inv cur).rebill x = inv.writeBack cur x := if_pos hkey
  rw [hid] at hx
  have hb : statusOf invoiceId b = some x.status := by simp [statusOf, hx]
  have hd : statusOf invoiceId d = some (inv.writeBack cur x).status := by
    simp [statusOf, hget, hx, hrebill]
  refine ⟨?_, ?_⟩
  · rw [hb, hd]
    rcases hstep with hsame | hallowed
    · exact .inl (by rw [hsame])
    · exact .inr ⟨x.status, rfl, _, rfl, hallowed⟩
  · rcases hpaid with rfl | hpaid
    · exact .inl (flush_keeps hf fun c hc => by rw [List.mem_singleton.1 hc]; exact ⟨rfl, rfl⟩)
    · exact .inr (by rw [hd, hstatus, hpaid])

/-! ### Every interleaving -/

/-- What is claimed of the committed states of a run: the statuses of the invoice follow the table, paid
and void are final, and a subscription that has left dunning was paid for in the end. -/
structure SettledThroughout (invoiceId : ℤ) (states : List (Db S)) (final : Db S) : Prop where
  follows : (states.map (statusOf invoiceId)).IsChain FollowsTable
  terminal : (states.map (statusOf invoiceId)).Pairwise StaysFinal
  recovered : states.Pairwise fun b d => (∃ x, PaidOut b d x) → statusOf invoiceId final = some .paid

/-- The subscriptions are as they were, or the invoice is paid. -/
lemma settled_pairwise {invoiceId : ℤ} {b d : Db S} {log : List (List Change × Db S)}
    (h : Journal (fun b _ d => Settled invoiceId b d) b log d) :
    (b :: log.map Prod.snd).Pairwise fun b d =>
      (d.subscriptions = b.subscriptions ∨ statusOf invoiceId d = some .paid) ∧
        StaysFinal (statusOf invoiceId b) (statusOf invoiceId d) := by
  refine h.pairwise (fun b _ d hbd => ⟨hbd.paid, hbd.table.staysFinal⟩) ?_
  rintro a b c ⟨hsame, hfinal⟩ ⟨hsame', hfinal'⟩
  refine ⟨?_, hfinal.trans hfinal'⟩
  rcases hsame' with hsame' | hpaid
  · rcases hsame with hsame | hpaid
    · exact .inl (hsame'.trans hsame)
    · exact .inr (by rw [hfinal' (.inl hpaid), hpaid])
  · exact .inr hpaid

lemma not_paidOut {b d : Db S} {x : Subscription} (h : d.subscriptions = b.subscriptions) :
    ¬PaidOut b d x := by
  rintro ⟨hx, hst, x', hx', hid, hst'⟩
  rw [h] at hx'
  rw [b.subscriptions.key_injOn hx' hx hid, hst] at hst'
  cases hst'

theorem settles_of_journal {invoiceId : ℤ} {b d : Db S} {log : List (List Change × Db S)}
    (h : Journal (fun b _ d => Settled invoiceId b d) b log d) :
    SettledThroughout invoiceId (b :: log.map Prod.snd) d where
  follows := by
    rw [List.isChain_map]
    exact h.isChain fun _ _ _ hbd => hbd.table
  terminal := by
    rw [List.pairwise_map]
    exact (settled_pairwise h).imp fun hbd => hbd.2
  recovered := by
    have hlast : ∀ s ∈ b :: log.map Prod.snd, StaysFinal (statusOf invoiceId s) (statusOf invoiceId d) :=
      h.to_last (fun _ _ _ hbd => hbd.table.staysFinal) (fun _ _ => rfl) fun _ _ _ => .trans
    refine (settled_pairwise h).imp_of_mem fun {s t} _ ht hst => ?_
    rintro ⟨x, hx⟩
    rcases hst.1 with hsame | hpaid
    · exact (not_paidOut hsame hx).elim
    · rw [hlast t ht (.inl hpaid), hpaid]

/-- **One invoice at a time.** Any number of operations issue, pay and void one invoice, interleaved and
killed in any way. If every commit that goes through finds the invoice in the status that was read, or
already in the one it assigns, the committed statuses follow the table, paid and void are final, and a
subscription leaves dunning only if the invoice is paid in the end. -/
theorem invoice_settles (cfg : Settings) (db : Db S) (env : Env) (invoiceId : ℤ) {op : ι → Operation}
    (hop : ∀ i, (op i).Settles invoiceId) (tenant : ι → Option ℤ) (ms : List (Effects.Move ι))
    (hread : (operationPool cfg (World.start db env) op tenant).Meets serve Unmoved ms) :
    let w := ((operationPool cfg (World.start db env) op tenant).run serve ms).world
    SettledThroughout invoiceId (db :: w.log.map Prod.snd) w.db := by
  intro w
  have hwatched : (operationPool cfg (World.start db env) op tenant).Watched
      (fun _ => pace (Settlement invoiceId)) fun _ => .fresh := by
    intro i p hp
    cases hp
    exact (commits_settling cfg (hop i) { tenant := tenant i } rfl).weaken fun _ _ _ => trivial
  have hstep : ∀ (w : World S) (m : ι → Phase) (i : ι) (e : Eff),
      (pace (S := S) (Settlement invoiceId)).allows (m i) e → Unmoved w e →
      Journal (fun b _ d => Settled invoiceId b d) db w.log w.db →
      Journal (fun b _ d => Settled invoiceId b d) db (serve e w).2.log (serve e w).2.db := by
    intro w m i e ha hc h
    refine journal_serve h ?_
    rintro cs ids d rfl hd hcommit
    have hok : (w.commit cs).1.isOk = true := by rw [hcommit]; rfl
    exact settled_of_fromRead (ok_of_allows ha) (Db.commit_ok hd) (hc hok)
  obtain ⟨m', -, h⟩ := Pool.inv (C := Unmoved)
    (I := fun w _ => Journal (fun b _ d => Settled invoiceId b d) db w.log w.db) hstep ms hwatched rfl hread
  exact settles_of_journal h

/-! ### A payment and a voiding -/

namespace Sample

/-- The payment of an invoice, and its voiding. -/
def payOrVoid : Bool → Operation
  | false => .request (.payInvoice ⟨admin, none⟩ 1)
  | true => .voidInvoice ⟨admin, none⟩ 1

/-- The pool of the two, for a subscription in dunning. -/
def paidAndVoided : Pool Bool Eff (Answer .metadata) (World .metadata) (Except Exn Unit × Session) :=
  operationPool settings (World.start owed (env 1000)) payOrVoid fun _ => none

end Sample

/-- A payment, and the voiding after it. -/
theorem invoice_settles_alone :
    let w := (Sample.paidAndVoided.run serve
      (List.replicate 8 (.step false) ++ List.replicate 8 (.step true))).world
    SettledThroughout 1 (Sample.owed :: w.log.map Prod.snd) w.db := by
  refine invoice_settles Sample.settings _ (Sample.env 1000) 1 ?_ (fun _ => none) _ (by decide +kernel)
  rintro (_ | _) <;> rfl

/-- Both read the invoice open. The payment takes the subscription out of dunning, and the voiding goes
over it. -/
theorem invoice_unsettled :
    let w := (Sample.paidAndVoided.run serve (List.replicate 2 (.step true) ++
      List.replicate 8 (.step false) ++ List.replicate 8 (.step true))).world
    (∀ second, (Sample.payOrVoid second).Settles 1) ∧
    (Sample.owed :: w.log.map Prod.snd).map (statusOf 1) = [some .open, some .paid, some .void] ∧
    (∃ x, PaidOut Sample.owed w.db x) ∧ ¬SettledThroughout 1 (Sample.owed :: w.log.map Prod.snd) w.db := by
  intro w
  have hstatuses : (Sample.owed :: w.log.map Prod.snd).map (statusOf 1) =
      [some .open, some .paid, some .void] := by decide +kernel
  have hactive : ∃ x' ∈ w.db.subscriptions.rows, x'.id = 1 ∧ x'.status = .active := by decide +kernel
  refine ⟨?_, hstatuses, ⟨_, List.mem_cons_self, rfl, hactive⟩, fun h => ?_⟩
  · rintro (_ | _) <;> rfl
  · have hterminal := h.terminal
    rw [hstatuses] at hterminal
    have hpaid : StaysFinal (some .paid) (some .void) := by
      simp only [List.pairwise_cons] at hterminal
      exact hterminal.2.1 _ List.mem_cons_self
    exact absurd (hpaid (.inl rfl)) (by decide)

end FastapiTemplate.Billing
