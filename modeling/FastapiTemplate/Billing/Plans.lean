import FastapiTemplate.Billing.Metering

/-!
# The plan catalog

`billing.schemas.plan` with the bounds of its fields, and `create` and `update` of `billing.crud.plan` on a row. The
slug and the description of a plan are left out: nothing here reads them.
-/

namespace FastapiTemplate.Billing

open Core Database Python

/-! ### Schemas -/

/-- `dict[str, DimensionConfig]`; the keys of a dict are different. -/
structure Metering where
  dimensions : List (String × DimensionConfig)
  nodup : (dimensions.map Prod.fst).Nodup
  unitAmount_bounds : ∀ p ∈ dimensions, 0 ≤ p.2.unitAmountCents ∧ p.2.unitAmountCents ≤ 100000000
  included_nonneg : ∀ p ∈ dimensions, 0 ≤ p.2.includedQuantity

/-- `Field(..., min_length=1, max_length=100)` -/
abbrev PlanName : Type := { s : String // 1 ≤ s.length ∧ s.length ≤ 100 }

/-- `Field(..., ge=0, le=10_000_000_000)` -/
abbrev PriceCents : Type := { n : ℤ // 0 ≤ n ∧ n ≤ 10000000000 }

/-- `Field(0, ge=0, le=365)` -/
abbrev TrialDays : Type := { n : ℤ // 0 ≤ n ∧ n ≤ 365 }

/-- `Field("usd", min_length=3, max_length=3, pattern=r"^[a-z]{3}$")` -/
abbrev Currency : Type := { s : String // s.length = 3 ∧ ∀ ch ∈ s.toList, 'a' ≤ ch ∧ ch ≤ 'z' }

structure PlanCreate where
  name : PlanName
  priceCents : PriceCents
  currency : Currency
  interval : PlanInterval
  trialDays : TrialDays
  isActive : Bool := true
  metering : Option Metering := none

/-- The fields of a request that are set; a field may be set to null. -/
structure PlanUpdate where
  name : Option (Option PlanName) := none
  priceCents : Option (Option PriceCents) := none
  trialDays : Option (Option TrialDays) := none
  isActive : Option (Option Bool) := none
  metering : Option (Option Metering) := none

/-! ### Rows -/

/-- `DimensionConfig.model_dump()` -/
def dumpDimension (cfg : DimensionConfig) : Value :=
  .dict [("unit_amount_cents", .int cfg.unitAmountCents), ("included_quantity", .int cfg.includedQuantity)]

/-- The metering of a plan as JSON. -/
def dumpMetering : Option Metering → Value
  | none => .none
  | some m => .dict (m.dimensions.map fun p => (p.1, dumpDimension p.2))

/-- `CRUDPlan.create`: the row with the next key. -/
def createPlan (id : ℤ) (objIn : PlanCreate) : Plan where
  id := id
  name := objIn.name
  priceCents := objIn.priceCents
  currency := objIn.currency
  interval := objIn.interval
  trialDays := objIn.trialDays
  isActive := objIn.isActive
  metering := dumpMetering objIn.metering

/-- What is assigned to a column that cannot be null. -/
def notNull {α : Type} (set : Option (Option α)) (old : α) : Except Exn α :=
  match set with
  | none => .ok old
  | some none => .error .integrityError
  | some (some a) => .ok a

/-- `CRUDPlan.update` -/
def updatePlan (dbObj : Plan) (objIn : PlanUpdate) : Except Exn Plan := do
  let name ← notNull (objIn.name.map fun o => o.map Subtype.val) dbObj.name
  let priceCents ← notNull (objIn.priceCents.map fun o => o.map Subtype.val) dbObj.priceCents
  let trialDays ← notNull (objIn.trialDays.map fun o => o.map Subtype.val) dbObj.trialDays
  let isActive ← notNull objIn.isActive dbObj.isActive
  return { dbObj with
    name := name
    priceCents := priceCents
    trialDays := trialDays
    isActive := isActive
    metering := (objIn.metering.map dumpMetering).getD dbObj.metering }

/-! ### What the schemas admit -/

/-- The dimensions of a metering. -/
def dimensionsOf (m : Option Metering) : List (String × DimensionConfig) := (m.map Metering.dimensions).getD []

/-- A row within the bounds of the schemas. -/
structure Admitted (plan : Plan) (m : Option Metering) : Prop where
  name : 1 ≤ plan.name.length ∧ plan.name.length ≤ 100
  price : 0 ≤ plan.priceCents ∧ plan.priceCents ≤ 10000000000
  currency : plan.currency.length = 3
  trialDays : 0 ≤ plan.trialDays ∧ plan.trialDays ≤ 365
  metering : plan.metering = dumpMetering m

/-- Setting a new key appends it. -/
lemma setItem_of_notMem {β : Type} {k : String} {x : β} {kvs : List (String × β)} (h : k ∉ kvs.map Prod.fst) :
    Value.setItem k x kvs = kvs ++ [(k, x)] := by
  induction kvs with
  | nil => rfl
  | cons p kvs ih =>
    obtain ⟨k', y⟩ := p
    rw [List.map_cons, List.mem_cons, not_or] at h
    unfold Value.setItem
    rw [if_neg (by simpa using Ne.symm h.1), ih h.2]
    rfl

lemma extractEach_dump {out kvs : List (String × DimensionConfig)} (h : ((out ++ kvs).map Prod.fst).Nodup) :
    extractEach out (kvs.map fun p => (p.1, dumpDimension p.2)) = .ok (out ++ kvs) := by
  induction kvs generalizing out with
  | nil => rw [List.append_nil, List.map_nil, extractEach]
  | cons p kvs ih =>
    obtain ⟨name, cfg⟩ := p
    have hname : name ∉ out.map Prod.fst := by
      rw [List.map_append, List.map_cons, List.nodup_append] at h
      exact fun hmem => h.2.2 _ hmem _ List.mem_cons_self rfl
    have hdict : (dumpDimension cfg).isDict = true := rfl
    have hread : dimensionConfig (dumpDimension cfg) = .ok cfg := rfl
    have hnext : out ++ (name, cfg) :: kvs = (out ++ [(name, cfg)]) ++ kvs := by simp
    rw [List.map_cons, extractEach, if_pos hdict, hread]
    dsimp only
    rw [setItem_of_notMem hname, hnext]
    rw [hnext] at h
    exact ih h

/-- **The metering is read back as it was dumped.** -/
theorem extractMetering_dump (m : Option Metering) : extractMetering (dumpMetering m) = .ok (dimensionsOf m) := by
  cases m with
  | none => rfl
  | some m =>
    have hn := m.nodup
    show extractMetering (.dict (m.dimensions.map fun p => (p.1, dumpDimension p.2))) = .ok m.dimensions
    generalize m.dimensions = dims at hn
    unfold extractMetering
    cases dims with
    | nil => rfl
    | cons p ps =>
      rw [if_neg (by simp [Value.truthy])]
      have hread := @extractEach_dump [] (p :: ps) hn
      exact hread

lemma notNull_cases {α : Type} {p : α → Prop} {set : Option (Option { a : α // p a })} {old new : α} (hold : p old)
    (h : notNull (set.map fun o => o.map Subtype.val) old = .ok new) : p new := by
  rcases set with _ | _ | a
  · cases h
    exact hold
  · cases h
  · cases h
    exact a.2

/-- A row within the bounds of the schemas is updated within them. -/
lemma admitted_update {plan plan' : Plan} {m : Option Metering} {objIn : PlanUpdate} (hplan : Admitted plan m)
    (h : updatePlan plan objIn = .ok plan') : Admitted plan' (objIn.metering.getD m) := by
  unfold updatePlan at h
  obtain ⟨name, hname, h⟩ := bind_eq_ok.1 h
  obtain ⟨priceCents, hprice, h⟩ := bind_eq_ok.1 h
  obtain ⟨trialDays, htrial, h⟩ := bind_eq_ok.1 h
  obtain ⟨isActive, -, h⟩ := bind_eq_ok.1 h
  cases h
  refine ⟨notNull_cases (p := fun s : String => 1 ≤ s.length ∧ s.length ≤ 100) hplan.name hname,
    notNull_cases (p := fun n : ℤ => 0 ≤ n ∧ n ≤ 10000000000) hplan.price hprice, hplan.currency,
    notNull_cases (p := fun n : ℤ => 0 ≤ n ∧ n ≤ 365) hplan.trialDays htrial, ?_⟩
  cases hmetering : objIn.metering with
  | none => exact hplan.metering
  | some m' => rfl

/-- A plan of the catalog: its row, and the metering that was accepted for it. -/
structure Offer where
  row : Plan
  metering : Option Metering
  admitted : Admitted row metering

def Offer.create (id : ℤ) (objIn : PlanCreate) : Offer where
  row := createPlan id objIn
  metering := objIn.metering
  admitted := ⟨objIn.name.2, objIn.priceCents.2, objIn.currency.2.1, objIn.trialDays.2, rfl⟩

/-- An update that raises is rolled back. -/
def Offer.update (o : Offer) (objIn : PlanUpdate) : Offer :=
  match h : updatePlan o.row objIn with
  | .ok row => ⟨row, objIn.metering.getD o.metering, admitted_update o.admitted h⟩
  | .error _ => o

/-- A plan that was created and then updated any number of times. -/
def offered (id : ℤ) (objIn : PlanCreate) (updates : List PlanUpdate) : Offer :=
  updates.foldl Offer.update (.create id objIn)

end FastapiTemplate.Billing
