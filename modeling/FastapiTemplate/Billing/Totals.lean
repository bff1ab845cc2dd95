import FastapiTemplate.Billing.Plans
import FastapiTemplate.Python.Rounding

/-!
# The arithmetic of an invoice

`generate_invoice` works the amounts of the metered lines out with `compute_overage`, and the totals from the
quantities and unit amounts of the lines. For a plan that the schemas accept, and whatever the counters read, the two
agree (`generateInvoice_addsUp`).
-/

namespace FastapiTemplate.Billing

open Core Database Python Effects Script Store

variable {S : Schema} {s : Session} {w : World S}

/-! ### Reading the counters -/

/-- What `get_usage` returns, faults of Redis included. -/
def usageReading (w : World S) (key : String) : ℤ :=
  if w.env.redisFails w.redisCalls then 0 else w.redis.value (w.env.clock w.clockReads) key

def afterUsage (w : World S) : World S :=
  if w.env.redisFails w.redisCalls then { w with redisCalls := w.redisCalls + 1 } else w.answered w.redis

theorem exec_getUsage_reading (tenantId : ℤ) (dimension : String) (periodStart : Datetime) :
    (getUsage tenantId dimension periodStart : Py S ℤ).exec serve s w =
      ⟨.ok (usageReading w (counterKey tenantId dimension periodStart)), s, afterUsage w⟩ := by
  unfold getUsage usageReading afterUsage
  rw [exec_tryCatch, exec_bind, exec_redis]
  split <;> rfl

/-- What is read for the dimensions, one after another. -/
def usageReadings (tenantId : ℤ) (periodStart : Datetime) : World S → List (String × DimensionConfig) → List ℤ
  | _, [] => []
  | w, (dimension, _) :: rest =>
    usageReading w (counterKey tenantId dimension periodStart) :: usageReadings tenantId periodStart (afterUsage w) rest

/-- What is read for an invoice; without a tenant nothing is. -/
def readingsFor (tenantId : Option ℤ) (periodStart : Datetime) (w : World S) (configs : List (String × DimensionConfig)) :
    List ℤ :=
  match tenantId with
  | none => []
  | some tenantId => usageReadings tenantId periodStart w configs

/-- The lines of the dimensions, with what was read for each. -/
def linesFor : List (String × DimensionConfig) → List ℤ → List InvoiceLine
  | (dimension, cfg) :: rest, used :: us => (overageLine dimension cfg used).toList ++ linesFor rest us
  | _, _ => []

lemma linesFor_nil (configs : List (String × DimensionConfig)) : linesFor configs [] = [] := by
  cases configs <;> rfl

theorem exec_meterEach_readings (tenantId : ℤ) (periodStart : Datetime) (configs : List (String × DimensionConfig)) :
    ∃ w', (meterEach tenantId periodStart configs : Py S (List InvoiceLine)).exec serve s w =
      ⟨.ok (linesFor configs (usageReadings tenantId periodStart w configs)), s, w'⟩ := by
  induction configs generalizing w with
  | nil => exact ⟨w, rfl⟩
  | cons p configs ih =>
    obtain ⟨dimension, cfg⟩ := p
    obtain ⟨w', hrest⟩ := ih (w := afterUsage w)
    refine ⟨w', ?_⟩
    unfold meterEach
    rw [exec_bind, exec_getUsage_reading, Outcome.next_ok, exec_bind, hrest, Outcome.next_ok, exec_pure]
    rfl

/-! ### The lines -/

section Lines

variable {dimension dimension' : String} {cfg : DimensionConfig} {used : ℤ} {configs : List (String × DimensionConfig)}
  {us : List ℤ} {l : InvoiceLine}

/-- A line whose amount is that of its quantity, and which is not taxed. -/
structure Plain (l : InvoiceLine) : Prop where
  amount : l.amountCents = lineAmount l
  untaxed : l.taxRateBps = 0

lemma plain_planLine (plan : Plan) : Plain (planLine plan) := ⟨(one_mul _).symm, rfl⟩

lemma overageLine_eq_some : overageLine dimension cfg used = some l ↔
    0 < computeOverage used cfg.includedQuantity cfg.unitAmountCents ∧
      l = ⟨overageDescription dimension (used - cfg.includedQuantity) cfg.unitAmountCents,
        used - cfg.includedQuantity, cfg.unitAmountCents, 0,
        computeOverage used cfg.includedQuantity cfg.unitAmountCents⟩ := by
  unfold overageLine
  dsimp only
  split
  · simp
    omega
  · rename_i hpos
    rw [Option.some_inj, and_iff_right (not_le.1 hpos), eq_comm]

/-- The two ways to the amount of a metered line lead to the same. -/
lemma plain_overageLine (h : overageLine dimension cfg used = some l) : Plain l := by
  obtain ⟨hpos, rfl⟩ := overageLine_eq_some.1 h
  refine ⟨?_, rfl⟩
  obtain ⟨-, hlt⟩ := computeOverage_pos.1 hpos
  unfold computeOverage lineAmount
  rw [max_eq_right (by omega)]

lemma mem_linesFor : l ∈ linesFor configs us ↔ ∃ p ∈ configs.zip us, overageLine p.1.1 p.1.2 p.2 = some l := by
  induction configs generalizing us with
  | nil => simp [linesFor]
  | cons p configs ih =>
    cases us with
    | nil => simp [linesFor]
    | cons u us => simp [linesFor, ih]

lemma plain_linesFor (h : l ∈ linesFor configs us) : Plain l := by
  obtain ⟨p, -, hp⟩ := mem_linesFor.1 h
  exact plain_overageLine hp

lemma computeTotals_of_plain {lines : List InvoiceLine} (h : ∀ l ∈ lines, Plain l) :
    computeTotals lines = ((lines.map InvoiceLine.amountCents).sum, 0) := by
  have htax : ∀ l ∈ lines, lineTax l = 0 := by
    intro l hl
    simp [lineTax, (h l hl).untaxed, roundHalfEven_zero]
  have hamount : lines.map lineAmount = lines.map InvoiceLine.amountCents :=
    List.map_congr_left fun l hl => (h l hl).amount.symm
  unfold computeTotals
  rw [hamount, List.map_congr_left htax]
  simp

/-- What is due for a dimension and its usage over the allowance. -/
def overageOf (p : (String × DimensionConfig) × ℤ) : ℤ :=
  computeOverage p.2 p.1.2.includedQuantity p.1.2.unitAmountCents

lemma computeOverage_nonneg (h : 0 ≤ cfg.unitAmountCents) :
    0 ≤ computeOverage used cfg.includedQuantity cfg.unitAmountCents :=
  mul_nonneg (le_max_left _ _) h

lemma sum_overageLine (dimension : String) (used : ℤ) (h : 0 ≤ cfg.unitAmountCents) :
    (((overageLine dimension cfg used).toList).map InvoiceLine.amountCents).sum =
      computeOverage used cfg.includedQuantity cfg.unitAmountCents := by
  have hnonneg : 0 ≤ computeOverage used cfg.includedQuantity cfg.unitAmountCents := computeOverage_nonneg h
  unfold overageLine
  dsimp only
  split
  · simp
    omega
  · simp

/-- The amounts of the metered lines; what costs nothing has no line. -/
theorem sum_linesFor (h : ∀ p ∈ configs, 0 ≤ p.2.unitAmountCents) :
    ((linesFor configs us).map InvoiceLine.amountCents).sum = ((configs.zip us).map overageOf).sum := by
  induction configs generalizing us with
  | nil => rfl
  | cons p configs ih =>
    cases us with
    | nil => rfl
    | cons u us =>
      have hrest := @ih us fun q hq => h q (List.mem_cons_of_mem _ hq)
      have hhead := sum_overageLine p.1 u (h p List.mem_cons_self)
      simp only [linesFor, List.map_append, List.sum_append, hhead, hrest, List.zip_cons_cons, List.map_cons,
        List.sum_cons]
      rfl

/-- The line of a dimension is a line of that dimension only. -/
lemma filter_overageLine : (overageLine dimension' cfg used).toList.filter (IsOverage dimension) =
    if dimension' = dimension then (overageLine dimension' cfg used).toList else [] := by
  unfold overageLine
  dsimp only
  by_cases hd : dimension' = dimension
  · split <;> simp [IsOverage, hd]
  · split <;> simp [IsOverage, hd, overageDescription_inj]

lemma filter_linesFor_of_ne (h : ∀ p ∈ configs.zip us, p.1.1 ≠ dimension) :
    (linesFor configs us).filter (IsOverage dimension) = [] := by
  induction configs generalizing us with
  | nil => rfl
  | cons p configs ih =>
    cases us with
    | nil => rfl
    | cons u us =>
      have hrest := @ih us fun q hq => h q (List.mem_cons_of_mem _ hq)
      have hhead : p.1 ≠ dimension := h (p, u) List.mem_cons_self
      simp only [linesFor, List.filter_append, filter_overageLine, if_neg hhead, hrest, List.append_nil]

/-- A dimension has the line that its own usage gives. -/
theorem filter_linesFor (hn : (configs.map Prod.fst).Nodup) {u : ℤ} (h : ((dimension, cfg), u) ∈ configs.zip us) :
    (linesFor configs us).filter (IsOverage dimension) = (overageLine dimension cfg u).toList := by
  induction configs generalizing us with
  | nil => cases h
  | cons p configs ih =>
    cases us with
    | nil => cases h
    | cons u' us =>
      rw [List.map_cons, List.nodup_cons] at hn
      simp only [linesFor, List.filter_append, filter_overageLine]
      rcases List.mem_cons.1 h with heq | h
      · obtain ⟨rfl, rfl⟩ : (dimension, cfg) = p ∧ u = u' := by simpa using heq
        have hrest : (linesFor configs us).filter (IsOverage dimension) = [] := by
          refine filter_linesFor_of_ne fun q hq hname => hn.1 ?_
          have hname : q.1.1 = dimension := hname
          exact List.mem_map.2 ⟨q.1, (List.of_mem_zip hq).1, hname⟩
        rw [if_pos rfl, hrest, List.append_nil]
      · have hmem : dimension ∈ configs.map Prod.fst := List.mem_map_of_mem (f := Prod.fst) (List.of_mem_zip h).1
        have hne : p.1 ≠ dimension := fun hname => hn.1 (hname ▸ hmem)
        rw [if_neg hne, List.nil_append, ih hn.2 h]

lemma length_overageLine : (overageLine dimension cfg used).toList.length =
    if 0 < computeOverage used cfg.includedQuantity cfg.unitAmountCents then 1 else 0 := by
  unfold overageLine
  dsimp only
  split <;> split <;> simp <;> omega

end Lines

/-! ### The invoice -/

/-- The arithmetic of an invoice for a plan with these dimensions, of which this was read. -/
structure AddsUp (plan : Plan) (configs : List (String × DimensionConfig)) (us : List ℤ) (inv : Invoice) : Prop where
  total : inv.totalCents = inv.subtotalCents + inv.taxCents
  untaxed : inv.taxCents = 0
  lines : inv.subtotalCents = (inv.lines.map InvoiceLine.amountCents).sum
  subtotal : inv.subtotalCents = plan.priceCents + ((configs.zip us).map fun p =>
    max 0 (p.2 - p.1.2.includedQuantity) * p.1.2.unitAmountCents).sum
  amounts : ∀ l ∈ inv.lines, l.amountCents = l.quantity * l.unitAmountCents
  /-- A dimension with an overage has one line. -/
  billed : ∀ p ∈ configs.zip us, 0 < max 0 (p.2 - p.1.2.includedQuantity) * p.1.2.unitAmountCents →
    (inv.lines.filter (IsOverage p.1.1)).length = 1
  /-- No other dimension has one. -/
  others : ∀ dimension, (∀ p ∈ configs.zip us, p.1.1 = dimension →
    max 0 (p.2 - p.1.2.includedQuantity) * p.1.2.unitAmountCents ≤ 0) → inv.lines.filter (IsOverage dimension) = []
  /-- And there is nothing else but the plan's line. -/
  rest : ∀ l ∈ inv.lines, l = planLine plan ∨ ∃ p ∈ configs.zip us, IsOverage p.1.1 l = true
  again : (applyTotals inv).subtotalCents = inv.subtotalCents ∧ (applyTotals inv).taxCents = inv.taxCents ∧
    (applyTotals inv).totalCents = inv.totalCents

/-- The draft with the plan's line and the metered lines adds up. -/
lemma addsUp_of_lines {plan : Plan} {configs : List (String × DimensionConfig)} {us : List ℤ} {inv base : Invoice}
    (hn : (configs.map Prod.fst).Nodup) (hunit : ∀ p ∈ configs, 0 ≤ p.2.unitAmountCents)
    (hlines : base.lines = planLine plan :: linesFor configs us)
    (hinv : inv.lines = base.lines ∧ inv.subtotalCents = (applyTotals base).subtotalCents ∧
      inv.taxCents = (applyTotals base).taxCents ∧ inv.totalCents = (applyTotals base).totalCents) :
    AddsUp plan configs us inv := by
  obtain ⟨hsame, hsubtotal, htax, htotal⟩ := hinv
  have hplain : ∀ l ∈ base.lines, Plain l := by
    intro l hl
    rw [hlines] at hl
    rcases List.mem_cons.1 hl with rfl | hl
    · exact plain_planLine plan
    · exact plain_linesFor hl
  have htotals := computeTotals_of_plain hplain
  have hplanLine : ∀ dimension, IsOverage dimension (planLine plan) = false := fun dimension =>
    beq_eq_false_iff_ne.2 (planLine_description plan dimension _ _)
  have hfilter : ∀ dimension, inv.lines.filter (IsOverage dimension) =
      (linesFor configs us).filter (IsOverage dimension) := by
    intro dimension
    rw [hsame, hlines, List.filter_cons_of_neg (by simp [hplanLine])]
  have hsum : (base.lines.map InvoiceLine.amountCents).sum = plan.priceCents + ((configs.zip us).map overageOf).sum := by
    rw [hlines, List.map_cons, List.sum_cons, sum_linesFor hunit]
    rfl
  have hbase : (applyTotals base).subtotalCents = (base.lines.map InvoiceLine.amountCents).sum :=
    congrArg Prod.fst htotals
  have hagain : computeTotals inv.lines = computeTotals base.lines := congrArg computeTotals hsame
  constructor
  case total =>
    rw [htotal, hsubtotal, htax]
    rfl
  case untaxed =>
    rw [htax]
    exact congrArg Prod.snd htotals
  case lines => rw [hsubtotal, hbase, hsame]
  case subtotal =>
    rw [hsubtotal, hbase, hsum]
    rfl
  case amounts =>
    intro l hl
    exact (hplain l (hsame ▸ hl)).amount
  case billed =>
    rintro ⟨⟨dimension, cfg⟩, u⟩ hp hpos
    rw [hfilter, filter_linesFor hn hp, length_overageLine]
    exact if_pos hpos
  case others =>
    intro dimension hnone
    rw [hfilter]
    by_cases hmem : ∃ p ∈ configs.zip us, p.1.1 = dimension
    · obtain ⟨⟨⟨dimension, cfg⟩, u⟩, hp, rfl⟩ := hmem
      rw [filter_linesFor hn hp]
      exact Option.toList_eq_nil_iff.2 (if_pos (hnone _ hp rfl))
    · exact filter_linesFor_of_ne fun p hp heq => hmem ⟨p, hp, heq⟩
  case rest =>
    intro l hl
    rw [hsame, hlines] at hl
    rcases List.mem_cons.1 hl with rfl | hl
    · exact .inl rfl
    · obtain ⟨p, hp, hline⟩ := mem_linesFor.1 hl
      obtain ⟨-, rfl⟩ := overageLine_eq_some.1 hline
      exact .inr ⟨p, hp, beq_self_eq_true _⟩
  case again =>
    refine ⟨?_, ?_, ?_⟩
    · rw [hsubtotal]
      exact congrArg Prod.fst hagain
    · rw [htax]
      exact congrArg Prod.snd hagain
    · rw [htotal]
      exact congrArg (fun totals : ℤ × ℤ => totals.1 + totals.2) hagain

/-- The metered lines of a plan of the catalog. -/
lemma exec_appendMeteredLines_offer (o : Offer) (tenantId : Option ℤ) (periodStart : Datetime) :
    ∃ w', (appendMeteredLines o.row tenantId periodStart : Py S (List InvoiceLine)).exec serve s w =
      ⟨.ok (linesFor (dimensionsOf o.metering) (readingsFor tenantId periodStart w (dimensionsOf o.metering))), s, w'⟩ := by
  cases tenantId with
  | none => exact ⟨w, by rw [readingsFor, linesFor_nil]; rfl⟩
  | some tenantId =>
    have hconfigs : extractMetering o.row.metering = .ok (dimensionsOf o.metering) := by
      rw [o.admitted.metering]
      exact extractMetering_dump o.metering
    rw [appendMeteredLines_eq hconfigs]
    exact exec_meterEach_readings tenantId periodStart (dimensionsOf o.metering)

/-- An invoice for a plan of the catalog is the draft with the lines of what was read. -/
theorem offer_ok (o : Offer) {sub : Subscription} {periodStart periodEnd : Option Datetime} {inv : Invoice}
    (hs : s.pending = []) (h : ((generateInvoice sub o.row periodStart periodEnd).exec serve s w).result = .ok inv) :
    ∃ base, (inv.lines = base.lines ∧ inv.subtotalCents = (applyTotals base).subtotalCents ∧
        inv.taxCents = (applyTotals base).taxCents ∧ inv.totalCents = (applyTotals base).totalCents) ∧
      inv.currency = o.row.currency ∧
      base.lines = planLine o.row :: linesFor (dimensionsOf o.metering) (readingsFor sub.tenantId
        (periodStart.getD sub.currentPeriodStart) w.queried (dimensionsOf o.metering)) := by
  obtain ⟨w', hmetered⟩ := exec_appendMeteredLines_offer (s := s) (w := w.queried) o
    sub.tenantId (periodStart.getD sub.currentPeriodStart)
  obtain ⟨k, now, rfl⟩ := generateInvoice_ok hs hmetered h
  exact ⟨_, ⟨rfl, rfl, rfl, rfl⟩, rfl, rfl⟩

lemma Offer.bounds (o : Offer) : ((dimensionsOf o.metering).map Prod.fst).Nodup ∧
    ∀ p ∈ dimensionsOf o.metering, 0 ≤ p.2.unitAmountCents ∧ p.2.unitAmountCents ≤ 100000000 := by
  cases hm : o.metering with
  | none => exact ⟨List.nodup_nil, fun p hp => nomatch hp⟩
  | some m => exact ⟨m.nodup, m.unitAmount_bounds⟩

/-- **The arithmetic of an invoice** for a plan of the catalog, whatever the counters read. -/
theorem offer_addsUp (o : Offer) {sub : Subscription} {periodStart periodEnd : Option Datetime} {inv : Invoice}
    (hs : s.pending = []) (h : ((generateInvoice sub o.row periodStart periodEnd).exec serve s w).result = .ok inv) :
    AddsUp o.row (dimensionsOf o.metering) (readingsFor sub.tenantId (periodStart.getD sub.currentPeriodStart) w.queried
      (dimensionsOf o.metering)) inv := by
  obtain ⟨base, hinv, -, hlines⟩ := offer_ok o hs h
  exact addsUp_of_lines o.bounds.1 (fun p hp => (o.bounds.2 p hp).1) hlines hinv

/-- **Invoice arithmetic.** For every plan that `PlanCreate` accepts, every tenant and every state of the counters: the
stored invoice adds up, each line is its quantity at its unit amount, and the dimensions with an overage have one line
each. -/
theorem generateInvoice_addsUp (id : ℤ) (objIn : PlanCreate) (w : World S) (context : Option ℤ) {sub : Subscription}
    {tenantId : ℤ} (htenant : sub.tenantId = some tenantId) {periodStart periodEnd : Option Datetime} {inv : Invoice}
    (h : ((generateInvoice sub (createPlan id objIn) periodStart periodEnd).exec serve { tenant := context } w).result =
      .ok inv) :
    AddsUp (createPlan id objIn) (dimensionsOf objIn.metering) (usageReadings tenantId
      (periodStart.getD sub.currentPeriodStart) w.queried (dimensionsOf objIn.metering)) inv := by
  have hadds := offer_addsUp (.create id objIn) rfl h
  rw [htenant] at hadds
  exact hadds

namespace Sample

/-- One request is free, and each more costs five cents. -/
def requests : Metering where
  dimensions := [("api_requests", ⟨5, 1⟩)]
  nodup := by decide
  unitAmount_bounds := by decide
  included_nonneg := by decide

def pro : PlanCreate where
  name := ⟨"Pro", by decide⟩
  priceCents := ⟨1000, by decide⟩
  currency := ⟨"usd", rfl, by simp⟩
  interval := .monthly
  trialDays := ⟨0, by decide⟩
  metering := some requests

/-- Three requests were counted. -/
def counted : World .metadata :=
  ((incrementAll (List.replicate 3 oneRequest)).exec serve {} (World.start metered (env 1000))).world

end Sample

/-- The invoice of a period with three requests. -/
theorem generateInvoice_addsUp_counted :
    ∃ inv, ((generateInvoice { Sample.row .active 0 none with id := 1 } (createPlan 1 Sample.pro) none none).exec serve
        {} Sample.counted).result = .ok inv ∧
      AddsUp (createPlan 1 Sample.pro) [("api_requests", ⟨5, 1⟩)]
        (usageReadings 1 0 Sample.counted.queried [("api_requests", ⟨5, 1⟩)]) inv := by
  rcases hrun : ((generateInvoice { Sample.row .active 0 none with id := 1 } (createPlan 1 Sample.pro) none none).exec
      serve {} Sample.counted).result with e | inv
  · have hok : ((generateInvoice { Sample.row .active 0 none with id := 1 } (createPlan 1 Sample.pro) none none).exec
        serve {} Sample.counted).result.isOk = true := by decide +kernel
    rw [hrun] at hok
    cases hok
  · exact ⟨inv, rfl, generateInvoice_addsUp 1 Sample.pro Sample.counted none rfl hrun⟩

end FastapiTemplate.Billing
