import FastapiTemplate.Billing.Totals
import Mathlib.Algebra.Order.BigOperators.Group.List

/-!
# Values and columns

The schemas bound the price of a plan and the unit amount of a dimension, the columns are `INTEGER` and `String(255)`,
and nothing bounds a product, a sum or the name of a dimension. The tables of the model hold any number and any text;
PostgreSQL refuses a row with a value that its column does not take. `generateInvoice_fits_iff` says for which prices,
counts and names every value fits.
-/

namespace FastapiTemplate.Billing

open Core Database Python Effects Script Store

variable {S : Schema}

/-! ### The columns -/

/-- `Integer` -/
def Int32 (n : ℤ) : Prop := -2147483648 ≤ n ∧ n ≤ 2147483647

instance (n : ℤ) : Decidable (Int32 n) := inferInstanceAs (Decidable (_ ∧ _))

/-- The columns of `plans`. -/
structure PlanFits (plan : Plan) : Prop where
  name : plan.name.length ≤ 100
  priceCents : Int32 plan.priceCents
  currency : plan.currency.length ≤ 3
  trialDays : Int32 plan.trialDays

/-- The columns of `invoice_lines`. -/
structure LineFits (l : InvoiceLine) : Prop where
  description : l.description.length ≤ 255
  quantity : Int32 l.quantity
  unitAmountCents : Int32 l.unitAmountCents
  taxRateBps : Int32 l.taxRateBps
  amountCents : Int32 l.amountCents

/-- The columns of `invoices`, with the lines. -/
structure InvoiceFits (inv : Invoice) : Prop where
  currency : inv.currency.length ≤ 3
  subtotalCents : Int32 inv.subtotalCents
  taxCents : Int32 inv.taxCents
  totalCents : Int32 inv.totalCents
  lines : ∀ l ∈ inv.lines, LineFits l

lemma int32_of_nonneg {n : ℤ} (h : 0 ≤ n) : Int32 n ↔ n ≤ 2147483647 := by
  unfold Int32
  omega

/-- Of what the schemas admit, only a price can be too large. -/
lemma planFits_iff {plan : Plan} {m : Option Metering} (h : Admitted plan m) :
    PlanFits plan ↔ plan.priceCents ≤ 2147483647 := by
  have htrial := h.trialDays
  rw [← int32_of_nonneg h.price.1]
  refine ⟨PlanFits.priceCents, fun hprice => ⟨h.name.2, hprice, h.currency.le, ?_⟩⟩
  unfold Int32
  omega

/-! ### Lines -/

lemma length_overageDescription (dimension : String) (units unit : ℤ) :
    (overageDescription dimension units unit).length =
      dimension.length + (toString units).length + (toString unit).length + 26 := by
  have hopen : " overage (".length = 10 := rfl
  have hat : " units @ ".length = 9 := rfl
  have hclose : " cents)".length = 7 := rfl
  simp only [overageDescription, String.length_append, hopen, hat, hclose]
  omega

lemma length_planLine (plan : Plan) : (planLine plan).description.length = plan.name.length + 22 := by
  have htail : " — subscription period".length = 22 := rfl
  simp only [planLine, String.length_append, htail]

lemma lineFits_planLine {plan : Plan} {m : Option Metering} (h : Admitted plan m) :
    LineFits (planLine plan) ↔ plan.priceCents ≤ 2147483647 := by
  have hname := h.name
  have hlength := length_planLine plan
  rw [← int32_of_nonneg h.price.1]
  refine ⟨LineFits.amountCents, fun hprice => ⟨by omega, ?_, hprice, ?_, hprice⟩⟩
  · show Int32 1
    decide
  · show Int32 0
    decide

/-- The line of a dimension, if its description is short and its amount small. -/
lemma lineFits_overage {dimension : String} {cfg : DimensionConfig} {used : ℤ} {l : InvoiceLine}
    (hunit : cfg.unitAmountCents ≤ 100000000) (hline : overageLine dimension cfg used = some l) :
    LineFits l ↔ computeOverage used cfg.includedQuantity cfg.unitAmountCents ≤ 2147483647 ∧
      dimension.length + (toString (used - cfg.includedQuantity)).length +
        (toString cfg.unitAmountCents).length + 26 ≤ 255 := by
  obtain ⟨hpos, rfl⟩ := overageLine_eq_some.1 hline
  obtain ⟨hcents, hunits⟩ := computeOverage_pos.1 hpos
  rw [← length_overageDescription, ← int32_of_nonneg hpos.le]
  refine ⟨fun h => ⟨h.amountCents, h.description⟩, fun ⟨hamount, hlength⟩ => ⟨hlength, ?_, ?_, ?_, hamount⟩⟩
  · -- the quantity is at most the amount
    have hle : used - cfg.includedQuantity ≤ (used - cfg.includedQuantity) * cfg.unitAmountCents :=
      le_mul_of_one_le_right (by omega) (by omega)
    have hmax : computeOverage used cfg.includedQuantity cfg.unitAmountCents =
        (used - cfg.includedQuantity) * cfg.unitAmountCents := by
      unfold computeOverage
      rw [max_eq_right (by omega)]
    have hbound := hamount.2
    refine ⟨?_, ?_⟩ <;> dsimp only <;> omega
  · refine ⟨?_, ?_⟩ <;> dsimp only <;> omega
  · show Int32 0
    decide

/-! ### Invoices -/

section Invoices

variable {s : Session} {w : World S} {configs : List (String × DimensionConfig)} {us : List ℤ}

lemma overageOf_nonneg (hunit : ∀ p ∈ configs, 0 ≤ p.2.unitAmountCents) :
    ∀ p ∈ configs.zip us, 0 ≤ overageOf p := fun p hp =>
  computeOverage_nonneg (hunit p.1 (List.of_mem_zip hp).1)

lemma sum_overageOf_nonneg (hunit : ∀ p ∈ configs, 0 ≤ p.2.unitAmountCents) :
    0 ≤ ((configs.zip us).map overageOf).sum := by
  refine List.sum_nonneg fun n hn => ?_
  obtain ⟨p, hp, rfl⟩ := List.mem_map.1 hn
  exact overageOf_nonneg hunit p hp

/-- One amount is at most the sum of all. -/
lemma overageOf_le_sum (hunit : ∀ p ∈ configs, 0 ≤ p.2.unitAmountCents) {p : (String × DimensionConfig) × ℤ}
    (hp : p ∈ configs.zip us) : overageOf p ≤ ((configs.zip us).map overageOf).sum := by
  refine List.single_le_sum (fun n hn => ?_) _ (List.mem_map_of_mem hp)
  obtain ⟨q, hq, rfl⟩ := List.mem_map.1 hn
  exact overageOf_nonneg hunit q hq

/-- The metered lines of which the sum is small fit, if their descriptions do. -/
lemma lineFits_linesFor (hunit : ∀ p ∈ configs, 0 ≤ p.2.unitAmountCents ∧ p.2.unitAmountCents ≤ 100000000)
    (hsum : ((configs.zip us).map overageOf).sum ≤ 2147483647) :
    (∀ l ∈ linesFor configs us, LineFits l) ↔ ∀ p ∈ configs.zip us, 0 < overageOf p →
      p.1.1.length + (toString (p.2 - p.1.2.includedQuantity)).length +
        (toString p.1.2.unitAmountCents).length + 26 ≤ 255 := by
  have hle : ∀ p ∈ configs.zip us, overageOf p ≤ 2147483647 := fun p hp =>
    (overageOf_le_sum (fun q hq => (hunit q hq).1) hp).trans hsum
  constructor
  · intro h p hp hpos
    have hline := (@overageLine_eq_some p.1.1 p.1.2 p.2 _).2 ⟨hpos, rfl⟩
    exact ((lineFits_overage (hunit p.1 (List.of_mem_zip hp).1).2 hline).1 (h _ (mem_linesFor.2 ⟨p, hp, hline⟩))).2
  · intro h l hl
    obtain ⟨p, hp, hline⟩ := mem_linesFor.1 hl
    have hpos : 0 < overageOf p := (overageLine_eq_some.1 hline).1
    exact (lineFits_overage (hunit p.1 (List.of_mem_zip hp).1).2 hline).2 ⟨hle p hp, h p hp hpos⟩

/-- An invoice fits if what is due for the period does, and the names of the dimensions are short. -/
theorem invoiceFits_iff (o : Offer) {sub : Subscription} {periodStart periodEnd : Option Datetime} {inv : Invoice}
    (hs : s.pending = []) (h : ((generateInvoice sub o.row periodStart periodEnd).exec serve s w).result = .ok inv)
    (hus : us = readingsFor sub.tenantId (periodStart.getD sub.currentPeriodStart) w.queried
      (dimensionsOf o.metering)) :
    InvoiceFits inv ↔ o.row.priceCents + (((dimensionsOf o.metering).zip us).map overageOf).sum ≤ 2147483647 ∧
      ∀ p ∈ (dimensionsOf o.metering).zip us, 0 < overageOf p →
        p.1.1.length + (toString (p.2 - p.1.2.includedQuantity)).length +
          (toString p.1.2.unitAmountCents).length + 26 ≤ 255 := by
  have hunit := o.bounds.2
  have hadds := offer_addsUp o hs h
  obtain ⟨base, ⟨hsame, -, -, -⟩, hcurrency, hlines⟩ := offer_ok o hs h
  rw [← hus] at hadds hlines
  rw [← hsame] at hlines
  have hsubtotal : inv.subtotalCents = o.row.priceCents + (((dimensionsOf o.metering).zip us).map overageOf).sum :=
    hadds.subtotal
  have htotal := hadds.total
  have htax := hadds.untaxed
  have hprice := o.admitted.price.1
  have hnonneg := @sum_overageOf_nonneg _ us fun q hq => (hunit q hq).1
  rw [← hsubtotal]
  have hsplit : (∀ l ∈ inv.lines, LineFits l) ↔ LineFits (planLine o.row) ∧
      ∀ l ∈ linesFor (dimensionsOf o.metering) us, LineFits l := by
    rw [hlines, List.forall_mem_cons]
  constructor
  · intro hfits
    have hbound := hfits.subtotalCents.2
    exact ⟨hbound, (lineFits_linesFor hunit (by omega)).1 (hsplit.1 hfits.lines).2⟩
  · rintro ⟨hbound, hnames⟩
    have hmetered := (lineFits_linesFor hunit (by omega)).2 hnames
    have hplan := (lineFits_planLine o.admitted).2 (by omega)
    refine ⟨?_, ?_, ?_, ?_, hsplit.2 ⟨hplan, hmetered⟩⟩
    · rw [hcurrency, o.admitted.currency]
    · exact (int32_of_nonneg (by omega)).2 hbound
    · exact (int32_of_nonneg htax.ge).2 (by omega)
    · exact (int32_of_nonneg (by omega)).2 (by omega)

end Invoices

/-- **Billing values and their columns.** A plan is created, updated any number of times and then invoiced, with
whatever counts. Every value that is written fits its column exactly if no price, and no sum of what is due for the
period, is over 2147483647, and the name of a dimension with an overage leaves room for the rest of the description. -/
theorem generateInvoice_fits_iff (id : ℤ) (objIn : PlanCreate) (updates : List PlanUpdate) (w : World S)
    (context : Option ℤ) {sub : Subscription} {periodStart periodEnd : Option Datetime} {inv : Invoice} {us : List ℤ}
    (hus : us = readingsFor sub.tenantId (periodStart.getD sub.currentPeriodStart) w.queried
      (dimensionsOf (offered id objIn updates).metering))
    (h : ((generateInvoice sub (offered id objIn updates).row periodStart periodEnd).exec serve { tenant := context }
      w).result = .ok inv) :
    (∀ n, PlanFits (offered id objIn (updates.take n)).row) ∧ InvoiceFits inv ↔
      (∀ n, (offered id objIn (updates.take n)).row.priceCents ≤ 2147483647) ∧
      (offered id objIn updates).row.priceCents +
        (((dimensionsOf (offered id objIn updates).metering).zip us).map fun p =>
          max 0 (p.2 - p.1.2.includedQuantity) * p.1.2.unitAmountCents).sum ≤ 2147483647 ∧
      ∀ p ∈ (dimensionsOf (offered id objIn updates).metering).zip us,
        0 < max 0 (p.2 - p.1.2.includedQuantity) * p.1.2.unitAmountCents →
          p.1.1.length + (toString (p.2 - p.1.2.includedQuantity)).length +
            (toString p.1.2.unitAmountCents).length + 26 ≤ 255 := by
  refine and_congr (forall_congr' fun n => planFits_iff (offered id objIn (updates.take n)).admitted) ?_
  exact invoiceFits_iff (offered id objIn updates) rfl h hus

namespace Sample

/-- The price is doubled later. -/
def doubled : PlanUpdate where
  priceCents := some (some ⟨2000, by decide⟩)

/-- A unit costs a million. -/
def bulk : PlanCreate :=
  { pro with
    name := ⟨"Bulk", by decide⟩
    metering := some
      { dimensions := [("api_requests", ⟨100000000, 0⟩)]
        nodup := by decide
        unitAmount_bounds := by decide
        included_nonneg := by decide } }

/-- Twenty-two units were counted. -/
def countedBulk : World .metadata :=
  ((incrementAll [⟨⟨1, "api_requests", 0⟩, days 30, 22⟩]).exec serve {} (World.start metered (env 1000))).world

end Sample

/-- A plan whose price was changed, and an invoice for it. -/
theorem generateInvoice_fits_iff_doubled :
    ∃ inv, ((generateInvoice { Sample.row .active 0 none with id := 1 } (offered 1 Sample.pro [Sample.doubled]).row none
        none).exec serve {} Sample.counted).result = .ok inv ∧
      let us := readingsFor (some 1) 0 Sample.counted.queried [("api_requests", ⟨5, 1⟩)]
      ((∀ n, PlanFits (offered 1 Sample.pro ([Sample.doubled].take n)).row) ∧ InvoiceFits inv ↔
        (∀ n, (offered 1 Sample.pro ([Sample.doubled].take n)).row.priceCents ≤ 2147483647) ∧
        2000 + (([("api_requests", (⟨5, 1⟩ : DimensionConfig))].zip us).map fun p =>
          max 0 (p.2 - p.1.2.includedQuantity) * p.1.2.unitAmountCents).sum ≤ 2147483647 ∧
        ∀ p ∈ [("api_requests", (⟨5, 1⟩ : DimensionConfig))].zip us,
          0 < max 0 (p.2 - p.1.2.includedQuantity) * p.1.2.unitAmountCents →
            p.1.1.length + (toString (p.2 - p.1.2.includedQuantity)).length +
              (toString p.1.2.unitAmountCents).length + 26 ≤ 255) := by
  rcases hrun : ((generateInvoice { Sample.row .active 0 none with id := 1 } (offered 1 Sample.pro [Sample.doubled]).row
      none none).exec serve {} Sample.counted).result with e | inv
  · have hok : ((generateInvoice { Sample.row .active 0 none with id := 1 }
        (offered 1 Sample.pro [Sample.doubled]).row none none).exec serve {} Sample.counted).result.isOk = true := by
      decide +kernel
    rw [hrun] at hok
    cases hok
  · exact ⟨inv, rfl, generateInvoice_fits_iff 1 Sample.pro [Sample.doubled] Sample.counted none rfl hrun⟩

/-- A plan of thirty million does not fit, and an invoice does not for a plan that does. -/
theorem not_generateInvoice_fits :
    ¬PlanFits (createPlan 1 { Sample.pro with priceCents := ⟨3000000000, by decide⟩ }) ∧
      PlanFits (createPlan 1 Sample.bulk) ∧
      ∃ inv, ((generateInvoice { Sample.row .active 0 none with id := 1 } (createPlan 1 Sample.bulk) none none).exec serve
        {} Sample.countedBulk).result = .ok inv ∧ ¬InvoiceFits inv := by
  refine ⟨fun h => absurd h.priceCents (by decide), (planFits_iff (Offer.create 1 Sample.bulk).admitted).2 (by decide), ?_⟩
  have hsubtotal : ((generateInvoice { Sample.row .active 0 none with id := 1 } (createPlan 1 Sample.bulk) none none).exec
      serve {} Sample.countedBulk).result.toOption.map Invoice.subtotalCents = some 2200001000 := by decide +kernel
  rcases hrun : ((generateInvoice { Sample.row .active 0 none with id := 1 } (createPlan 1 Sample.bulk) none none).exec
      serve {} Sample.countedBulk).result with e | inv
  · rw [hrun] at hsubtotal
    cases hsubtotal
  · rw [hrun] at hsubtotal
    have hvalue : inv.subtotalCents = 2200001000 := Option.some_inj.1 hsubtotal
    refine ⟨inv, rfl, fun h => ?_⟩
    have hbound := h.subtotalCents.2
    omega

end FastapiTemplate.Billing
