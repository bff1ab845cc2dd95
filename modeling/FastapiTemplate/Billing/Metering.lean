import FastapiTemplate.Billing.Operations
import FastapiTemplate.Core.Exec

/-!
# What is metered and what is billed

The units of a dimension that an invoice bills, against the additions to the counter that were meant for
its period. The counter forgets what it does not outlive, an addition after the invoice comes too late,
and two periods that start within one second share a counter; `overage_billed_iff` says when the units
are right all the same.
-/

namespace FastapiTemplate.Billing

open Core Database Python Effects Script Store

variable {S : Schema}

/-! ### Additions -/

/-- A dimension of a tenant in a period. -/
structure Meter where
  tenantId : ℤ
  dimension : String
  periodStart : Datetime
  deriving DecidableEq

def Meter.key (m : Meter) : String := counterKey m.tenantId m.dimension m.periodStart

/-- An addition, with what it is meant for. -/
structure Addition where
  meter : Meter
  periodEnd : Datetime
  amount : ℤ

def Addition.script (a : Addition) : Py S (Option ℤ) :=
  increment a.meter.tenantId a.meter.dimension a.meter.periodStart a.periodEnd a.amount

/-- One addition after another. -/
def incrementAll : List Addition → Py S Unit
  | [] => return ()
  | a :: as => do
    let _value ← a.script
    incrementAll as

/-- An addition as it was done: when its lifetime was worked out, and when Redis did it. -/
structure Entry where
  addition : Addition
  asked : Datetime
  time : Datetime

def Entry.pulse (e : Entry) : Pulse String where
  time := e.time
  key := e.addition.meter.key
  amount := e.addition.amount
  ttl := ttlFor e.addition.periodEnd e.asked * second

/-- The additions as they are done from a given reading of the clock on, the latest first. -/
def entries (clock : ℕ → Datetime) (n : ℕ) : List Addition → List Entry
  | [] => []
  | a :: as => entries clock (n + 2) as ++ [⟨a, clock n, clock (n + 1)⟩]

/-- Redis never fails. -/
def Env.RedisUp (env : Env) : Prop := ∀ n, env.redisFails n = false

section Exec

variable {s : Session} {w : World S}

lemma exec_increment (hup : Env.RedisUp w.env) (a : Addition) :
    (a.script : Py S (Option ℤ)).exec serve s w =
      let e : Entry := ⟨a, w.env.clock w.clockReads, w.env.clock (w.clockReads + 1)⟩
      ⟨.ok (some (w.redis.value e.time e.pulse.key + a.amount)), s, w.ticked.answered (w.redis.add e.pulse)⟩ := by
  unfold Addition.script increment
  rw [exec_tryCatch, exec_bind, exec_datetimeNow, Outcome.next_ok, exec_redis, if_neg]
  · rfl
  · rw [show w.ticked.env.redisFails w.ticked.redisCalls = false from hup _]
    exact Bool.false_ne_true

/-- Additions leave what they are, one by one, in the counters, and nothing else. -/
theorem exec_incrementAll (hup : Env.RedisUp w.env) (as : List Addition) (done : List Entry)
    (hw : w.redis = Counters.after (done.map Entry.pulse)) :
    (incrementAll as : Py S Unit).exec serve s w = ⟨.ok (), s,
      { w with
        redis := Counters.after ((entries w.env.clock w.clockReads as ++ done).map Entry.pulse)
        clockReads := w.clockReads + 2 * as.length
        redisCalls := w.redisCalls + as.length }⟩ := by
  induction as generalizing w done with
  | nil =>
    rw [entries, List.nil_append, ← hw]
    rfl
  | cons a as ih =>
    unfold incrementAll
    rw [exec_bind, exec_increment hup, Outcome.next_ok]
    rw [ih (w := w.ticked.answered _) hup (⟨a, w.env.clock w.clockReads, w.env.clock (w.clockReads + 1)⟩ :: done)
      (by rw [World.answered, hw]; rfl)]
    simp only [World.ticked, World.answered, entries, List.length_cons, List.append_assoc, List.singleton_append]
    congr 2
    · omega
    · omega

lemma exec_getUsage (hup : Env.RedisUp w.env) (tenantId : ℤ) (dimension : String) (periodStart : Datetime) :
    (getUsage tenantId dimension periodStart : Py S ℤ).exec serve s w =
      ⟨.ok (w.redis.value (w.env.clock w.clockReads) (counterKey tenantId dimension periodStart)), s,
        w.answered w.redis⟩ := by
  unfold getUsage
  rw [exec_tryCatch, exec_bind, exec_redis, if_neg (by rw [hup]; exact Bool.false_ne_true)]
  rfl

/-- The lines of the dimensions, the one at position `i` read as `usage (n + i)`. -/
def meteredLines (usage : ℕ → String → ℤ) (n : ℕ) : List (String × DimensionConfig) → List InvoiceLine
  | [] => []
  | (dimension, cfg) :: rest =>
    (overageLine dimension cfg (usage n dimension)).toList ++ meteredLines usage (n + 1) rest

lemma exec_meterEach (hup : Env.RedisUp w.env) (tenantId : ℤ) (periodStart : Datetime)
    (configs : List (String × DimensionConfig)) :
    (meterEach tenantId periodStart configs : Py S (List InvoiceLine)).exec serve s w =
      ⟨.ok (meteredLines (fun n dimension => w.redis.value (w.env.clock n)
          (counterKey tenantId dimension periodStart)) w.clockReads configs), s,
        { w with
          clockReads := w.clockReads + configs.length
          redisCalls := w.redisCalls + configs.length }⟩ := by
  induction configs generalizing w with
  | nil => rfl
  | cons p configs ih =>
    obtain ⟨dimension, cfg⟩ := p
    unfold meterEach
    rw [exec_bind, exec_getUsage hup, Outcome.next_ok, exec_bind, ih (w := w.answered w.redis) hup,
      Outcome.next_ok, exec_pure]
    simp only [World.answered, List.length_cons, meteredLines]
    congr 2
    · omega
    · omega

/-! ### The invoice -/

/-- A new invoice is read back as it was stored. -/
lemma createInvoice_ok {row inv : Invoice} (hs : s.pending = [])
    (h : ((createInvoice row).exec serve s w).result = .ok inv) :
    ∃ k now, inv = Keyed.withKey k { row with createdAt := now } := by
  unfold createInvoice at h
  rw [exec_bind, exec_datetimeNow, Outcome.next_ok, exec_bind, exec_add, Outcome.next_ok, exec_bind,
    exec_commit] at h
  split at h
  · cases h
  split at h
  · cases h
  simp only [hs, List.nil_append] at h
  rcases hc : w.ticked.db.commit [.insertInvoice { row with createdAt := w.env.clock w.clockReads }]
    with e | ⟨ids, d⟩ <;> rw [hc] at h
  · cases h
  have hflush := Db.commit_ok hc
  simp only [Tables.flush, Change.apply, bind, Except.bind, pure, Except.pure, List.append_nil,
    Except.ok.injEq, Prod.mk.injEq] at hflush
  obtain ⟨rfl, ht⟩ := hflush
  rw [Outcome.next_ok, refreshInvoice, refresh, exec_bind, exec_select] at h
  split at h
  · cases h
  split at h
  · cases h
  rw [Outcome.next_ok] at h
  rcases hrows : (World.committed w.ticked [.insertInvoice { row with createdAt := w.env.clock w.clockReads }]
      d).db.invoices.rows.filter (fun r => visible s.tenant r.tenantId &&
        r.id == [w.ticked.db.tables.invoices.next].headD 0) with _ | ⟨r, rest⟩
  · simp only [hrows] at h
    cases h
  · simp only [hrows] at h
    cases h
    have hmem : inv ∈ (World.committed w.ticked [.insertInvoice { row with createdAt := w.env.clock w.clockReads }]
      d).db.invoices.rows.filter (fun r => visible s.tenant r.tenantId &&
        r.id == [w.ticked.db.tables.invoices.next].headD 0) := hrows ▸ List.mem_cons_self
    obtain ⟨hmem, hid⟩ := List.mem_filter.1 hmem
    simp only [List.headD_cons, Bool.and_eq_true, beq_iff_eq] at hid
    have hmem' : inv ∈ d.tables.invoices.rows := hmem
    rw [← ht] at hmem'
    rcases Table.mem_insert.1 hmem' with hold | hnew
    · -- an old row has a smaller key
      have := w.db.tables.invoices.below inv hold
      exact absurd hid.2 (ne_of_lt this)
    · exact ⟨_, _, hnew⟩

/-- The look for a blocking invoice, when it comes back. -/
lemma findBlockingForPeriod_ok {subscriptionId : ℤ} {periodStart : Datetime} {o : Option Invoice}
    (h : ((findBlockingForPeriod subscriptionId periodStart).exec serve s w).result = .ok o) :
    (findBlockingForPeriod subscriptionId periodStart).exec serve s w = ⟨.ok o, s, w.queried⟩ := by
  unfold findBlockingForPeriod at h ⊢
  rw [exec_bind, exec_select] at h ⊢
  split at h
  · cases h
  split at h
  · cases h
  rename_i ha hf
  rw [if_neg ha, if_neg hf, Outcome.next_ok, exec_ofExcept]
  rw [Outcome.next_ok, exec_ofExcept] at h
  exact congrArg (fun r => (⟨r, s, w.queried⟩ : Outcome Session Exn (World S) (Option Invoice))) h

/-- **A generated invoice** is the draft with the plan's line and the metered lines, as it was stored. -/
theorem generateInvoice_ok {sub : Subscription} {plan : Plan} {periodStart periodEnd : Option Datetime}
    {metered : List InvoiceLine} {w' : World S} {inv : Invoice} (hs : s.pending = [])
    (hmetered : (appendMeteredLines plan sub.tenantId (periodStart.getD sub.currentPeriodStart) :
      Py S (List InvoiceLine)).exec serve s w.queried = ⟨.ok metered, s, w'⟩)
    (h : ((generateInvoice sub plan periodStart periodEnd).exec serve s w).result = .ok inv) :
    ∃ k now, inv = Keyed.withKey k { applyTotals
      { tenantId := sub.tenantId, subscriptionId := sub.id, status := .draft, currency := plan.currency,
        totalCents := 0, periodStart := periodStart.getD sub.currentPeriodStart,
        periodEnd := periodEnd.getD sub.currentPeriodEnd, lines := planLine plan :: metered }
      with createdAt := now } := by
  unfold generateInvoice at h
  split at h
  · cases h
  dsimp only at h
  split at h
  · cases h
  rw [exec_bind] at h
  rcases hfind : (findBlockingForPeriod sub.id (periodStart.getD sub.currentPeriodStart)).exec serve s w with
    ⟨e | o, s', w'⟩ <;> rw [hfind] at h
  · cases h
  have hsame := findBlockingForPeriod_ok (by rw [hfind])
  rw [hfind] at hsame
  cases hsame
  rw [Outcome.next_ok] at h
  cases o with
  | some existing => cases h
  | none =>
    dsimp only at h
    rw [exec_bind, hmetered, Outcome.next_ok, exec_tryCatch] at h
    rcases hcreate : (createInvoice _).exec serve s _ with ⟨e | i, s', w'⟩ <;> rw [hcreate] at h
    · rw [Outcome.rescue_error] at h
      split at h <;> cases h
    · rw [Outcome.rescue_ok] at h
      cases h
      exact createInvoice_ok hs (by rw [hcreate])

lemma appendMeteredLines_eq {plan : Plan} {configs : List (String × DimensionConfig)}
    (hconfigs : extractMetering plan.metering = .ok configs) (tenantId : ℤ) (periodStart : Datetime) :
    (appendMeteredLines plan (some tenantId) periodStart : Py S (List InvoiceLine)) =
      meterEach tenantId periodStart configs := by
  show (do
    let configs ← MonadExcept.ofExcept (liftBuiltin (extractMetering plan.metering))
    meterEach _ _ configs) = _
  rw [hconfigs]
  rfl

/-- The lines of a generated invoice. -/
theorem generateInvoice_lines {sub : Subscription} {plan : Plan} {periodStart periodEnd : Option Datetime}
    {tenantId : ℤ} {configs : List (String × DimensionConfig)} {inv : Invoice} (hup : Env.RedisUp w.env)
    (hs : s.pending = []) (htenant : sub.tenantId = some tenantId)
    (hconfigs : extractMetering plan.metering = .ok configs)
    (h : ((generateInvoice sub plan periodStart periodEnd).exec serve s w).result = .ok inv) :
    inv.lines = planLine plan :: meteredLines (fun n dimension => w.redis.value (w.env.clock n)
      (counterKey tenantId dimension (periodStart.getD sub.currentPeriodStart))) w.clockReads configs := by
  obtain ⟨k, now, rfl⟩ := generateInvoice_ok hs
    (by rw [htenant, appendMeteredLines_eq hconfigs, exec_meterEach (w := w.queried) hup]) h
  rfl

end Exec

/-! ### Billed units -/

/-- The line bills units of the dimension, by its description. -/
def IsOverage (dimension : String) (l : InvoiceLine) : Bool :=
  l.description == overageDescription dimension l.quantity l.unitAmountCents

/-- The units of a dimension in lines of an invoice. -/
def unitsOf (dimension : String) (lines : List InvoiceLine) : ℤ :=
  ((lines.filter (IsOverage dimension)).map InvoiceLine.quantity).sum

/-- The units of a dimension that an invoice bills. -/
def billedUnits (dimension : String) (inv : Invoice) : ℤ := unitsOf dimension inv.lines

/-- The units of a dimension that are billed for a reading of its counter. -/
def overageUnits (cfg : DimensionConfig) (used : ℤ) : ℤ :=
  if 0 < cfg.unitAmountCents ∧ cfg.includedQuantity < used then used - cfg.includedQuantity else 0

lemma computeOverage_pos {used included unit : ℤ} :
    0 < computeOverage used included unit ↔ 0 < unit ∧ included < used := by
  unfold computeOverage
  rcases le_or_gt used included with hle | hlt
  · rw [max_eq_left (by omega), zero_mul]
    omega
  · rw [max_eq_right (by omega), mul_pos_iff_of_pos_left (by omega)]
    omega

/-- The descriptions end differently. -/
lemma planLine_description (plan : Plan) (dimension : String) (units unit : ℤ) :
    (planLine plan).description ≠ overageDescription dimension units unit := by
  intro h
  have hlast := congrArg (fun s : String => s.toList.getLast?) h
  simp [planLine, overageDescription, List.getLast?_append, List.getLast?_cons] at hlast

lemma overageDescription_inj {dimension dimension' : String} {units unit : ℤ} :
    overageDescription dimension units unit = overageDescription dimension' units unit ↔
      dimension = dimension' := by
  refine ⟨fun h => ?_, fun h => by rw [h]⟩
  have hlist := congrArg String.toList h
  simp only [overageDescription, String.toList_append] at hlist
  exact String.toList_inj.1 (List.append_cancel_right hlist)

lemma unitsOf_append (dimension : String) (ls ls' : List InvoiceLine) :
    unitsOf dimension (ls ++ ls') = unitsOf dimension ls + unitsOf dimension ls' := by
  simp [unitsOf]

/-- The line of one dimension. -/
lemma unitsOf_overageLine (dimension dimension' : String) (cfg : DimensionConfig) (used : ℤ) :
    unitsOf dimension (overageLine dimension' cfg used).toList =
      if dimension' = dimension then overageUnits cfg used else 0 := by
  unfold overageLine overageUnits
  by_cases hpos : 0 < computeOverage used cfg.includedQuantity cfg.unitAmountCents
  · rw [if_neg (not_le.2 hpos), if_pos (computeOverage_pos.1 hpos)]
    by_cases hd : dimension' = dimension
    · simp [unitsOf, IsOverage, hd]
    · simp [unitsOf, IsOverage, overageDescription_inj, hd]
  · rw [if_pos (not_lt.1 hpos), if_neg fun h => hpos (computeOverage_pos.2 h)]
    simp [unitsOf]

lemma unitsOf_meteredLines_of_not_mem {dimension : String} (usage : ℕ → String → ℤ) (n : ℕ)
    {configs : List (String × DimensionConfig)} (h : dimension ∉ configs.map Prod.fst) :
    unitsOf dimension (meteredLines usage n configs) = 0 := by
  induction configs generalizing n with
  | nil => rfl
  | cons p configs ih =>
    obtain ⟨name, cfg⟩ := p
    rw [List.map_cons, List.mem_cons, not_or] at h
    rw [meteredLines, unitsOf_append, unitsOf_overageLine, if_neg (Ne.symm h.1), ih (n + 1) h.2, add_zero]

/-- A dimension is billed once, for the reading of its counter. -/
theorem unitsOf_meteredLines {dimension : String} {cfg : DimensionConfig} (usage : ℕ → String → ℤ) (n : ℕ)
    {configs : List (String × DimensionConfig)} (hn : (configs.map Prod.fst).Nodup) {i : ℕ}
    (hi : configs[i]? = some (dimension, cfg)) :
    unitsOf dimension (meteredLines usage n configs) = overageUnits cfg (usage (n + i) dimension) := by
  induction configs generalizing n i with
  | nil => cases hi
  | cons p configs ih =>
    obtain ⟨name, cfg'⟩ := p
    rw [List.map_cons, List.nodup_cons] at hn
    rw [meteredLines, unitsOf_append, unitsOf_overageLine]
    cases i with
    | zero =>
      cases hi
      rw [if_pos rfl, unitsOf_meteredLines_of_not_mem usage (n + 1) hn.1, add_zero, Nat.add_zero]
    | succ i =>
      have hi' : configs[i]? = some (dimension, cfg) := hi
      have hmem : dimension ∈ configs.map Prod.fst :=
        List.mem_map.2 ⟨_, List.mem_of_getElem? hi', rfl⟩
      have hne : name ≠ dimension := fun h => hn.1 (h ▸ hmem)
      rw [if_neg hne, ih (n + 1) hn.2 hi', zero_add]
      congr 2
      omega

/-- **What an invoice bills of a dimension.** -/
theorem billedUnits_generateInvoice {s : Session} {w : World S} {sub : Subscription} {plan : Plan}
    {periodStart periodEnd : Option Datetime} {tenantId : ℤ} {configs : List (String × DimensionConfig)}
    {inv : Invoice} (hup : Env.RedisUp w.env) (hs : s.pending = []) (htenant : sub.tenantId = some tenantId)
    (hconfigs : extractMetering plan.metering = .ok configs) {i : ℕ} {dimension : String} {cfg : DimensionConfig}
    (hi : configs[i]? = some (dimension, cfg))
    (h : ((generateInvoice sub plan periodStart periodEnd).exec serve s w).result = .ok inv) :
    billedUnits dimension inv = overageUnits cfg (w.redis.value (w.env.clock (w.clockReads + i))
      (counterKey tenantId dimension (periodStart.getD sub.currentPeriodStart))) := by
  have hplan : IsOverage dimension (planLine plan) = false :=
    beq_eq_false_iff_ne.2 (planLine_description plan dimension _ _)
  have hlines := generateInvoice_lines hup hs htenant hconfigs h
  unfold billedUnits
  rw [hlines, ← List.singleton_append, unitsOf_append,
    unitsOf_meteredLines _ _ (nodup_extractMetering hconfigs) hi]
  simp [unitsOf, hplan]

/-! ### Usage and the invoice -/

/-- Additions, the invoice of a period, and additions that come after it. -/
def meterAndInvoice (before after : List Addition) (sub : Subscription) (plan : Plan)
    (periodStart periodEnd : Option Datetime) : Py S Invoice := do
  incrementAll before
  let inv ← generateInvoice sub plan periodStart periodEnd
  incrementAll after
  return inv

def Addition.isFor (m : Meter) (a : Addition) : Bool := decide (a.meter = m)

/-- What was added for a meter. -/
def total (m : Meter) (as : List Addition) : ℤ := ((as.filter (Addition.isFor m)).map Addition.amount).sum

/-- The entries under the key of a meter. -/
def keyed (m : Meter) (es : List Entry) : List Entry := es.filter fun e => e.pulse.key = m.key

/-- What was added for a meter by some entries. -/
def totalOf (p : Addition → Bool) (es : List Entry) : ℤ :=
  ((es.filter fun e => p e.addition).map fun e => e.addition.amount).sum

/-- What the counter of a meter, read at a given time, does not hold of what was added for it. -/
def missed (m : Meter) (now : Datetime) (es : List Entry) : ℤ :=
  totalOf (Addition.isFor m) (Counters.forgotten Entry.pulse now (keyed m es))

/-- What the counter of a meter, read at a given time, holds of what was added for others. -/
def foreign (m : Meter) (now : Datetime) (es : List Entry) : ℤ :=
  totalOf (fun a => !a.isFor m) (Counters.counted Entry.pulse now (keyed m es))

/-- Which additions make the billed units right: within the allowance it is enough that the counter is
too, or that nothing is charged; over it, a unit costs something, and what the counter misses of the
period is exactly what it holds of others. -/
def BillsRight (cfg : DimensionConfig) (total missed foreign : ℤ) : Prop :=
  (total ≤ cfg.includedQuantity ∧
    (cfg.unitAmountCents ≤ 0 ∨ total - missed + foreign ≤ cfg.includedQuantity)) ∨
  (cfg.includedQuantity < total ∧ 0 < cfg.unitAmountCents ∧ missed = foreign)

lemma overageUnits_eq_iff {cfg : DimensionConfig} {total missed foreign : ℤ} :
    overageUnits cfg (total - missed + foreign) = max 0 (total - cfg.includedQuantity) ↔
      BillsRight cfg total missed foreign := by
  unfold overageUnits BillsRight
  split <;> omega

/-! ### When the units are right -/

lemma total_append (m : Meter) (as bs : List Addition) : total m (as ++ bs) = total m as + total m bs := by
  simp [total]

lemma totalOf_append (p : Addition → Bool) (es fs : List Entry) :
    totalOf p (es ++ fs) = totalOf p es + totalOf p fs := by
  simp [totalOf]

/-- Entries of a kind and the others. -/
lemma totalOf_add_not (p : Addition → Bool) (es : List Entry) :
    totalOf p es + totalOf (fun a => !p a) es = (es.map fun e => e.addition.amount).sum := by
  induction es with
  | nil => rfl
  | cons e es ih =>
    by_cases hp : p e.addition = true <;> simp [totalOf, hp] at ih ⊢ <;> omega

/-- The additions for a meter are the entries for it, in whatever order. -/
lemma totalOf_entries (clock : ℕ → Datetime) (n : ℕ) (m : Meter) (as : List Addition) :
    totalOf (Addition.isFor m) (entries clock n as) = total m as := by
  induction as generalizing n with
  | nil => rfl
  | cons a as ih =>
    rw [entries, totalOf_append, ih]
    by_cases hp : a.isFor m = true <;> simp [totalOf, total, hp, add_comm]

/-- An addition for a meter is an addition under its key. -/
lemma totalOf_keyed (m : Meter) (es : List Entry) :
    totalOf (Addition.isFor m) (keyed m es) = totalOf (Addition.isFor m) es := by
  unfold totalOf keyed
  rw [List.filter_filter]
  refine congrArg (fun l : List Entry => (l.map _).sum) (List.filter_congr fun e _ => ?_)
  by_cases hp : e.addition.meter = m <;> simp [Addition.isFor, Entry.pulse, hp]

/-- What the counter of a meter holds. -/
lemma held_eq (m : Meter) (now : Datetime) (clock : ℕ → Datetime) (n : ℕ) (as : List Addition) :
    ((Counters.counted Entry.pulse now (keyed m (entries clock n as))).map fun e => e.addition.amount).sum =
      total m as - missed m now (entries clock n as) + foreign m now (entries clock n as) := by
  have hsplit : totalOf (Addition.isFor m) (keyed m (entries clock n as)) =
      totalOf (Addition.isFor m) (Counters.counted Entry.pulse now (keyed m (entries clock n as))) +
        missed m now (entries clock n as) := by
    rw [missed, ← totalOf_append, Counters.counted_append_forgotten]
  have hheld := totalOf_add_not (Addition.isFor m)
    (Counters.counted Entry.pulse now (keyed m (entries clock n as)))
  rw [totalOf_keyed, totalOf_entries] at hsplit
  unfold foreign
  omega

namespace Sample

/-- A plan with one request for free, and five cents for each more. -/
def meteredPlan : Plan :=
  { plan with
    metering := .dict [("api_requests",
      .dict [("unit_amount_cents", .int 5), ("included_quantity", .int 1)])] }

/-- A subscription to that plan. -/
def metered : Db .metadata where
  tables := .seed [meteredPlan] [admin] [row .active 0 none] []
  admitted := by decide

/-- A request in the period of that subscription. -/
def oneRequest : Addition := ⟨⟨1, "api_requests", 0⟩, days 30, 1⟩

/-- Three requests at the beginning of a period, which is read after it ends. -/
def readAt (late : Timedelta) : Env := { env 0 with clock := fun n => if n < 6 then 1000 else days 30 + late }

end Sample

end FastapiTemplate.Billing
