import FastapiTemplate.Core.Runtime

/-!
# Usage metering

`billing.services.usage`: the counters of billable dimensions in Redis, and the reading of a plan's
metering column. Every failure of a counter is caught: an addition then returns nothing, and a reading
returns zero.

The time stamp of a period is cut off to whole seconds, toward zero. The source does that to a float,
which is exact enough for it up to the year 2500.
-/

namespace FastapiTemplate.Billing

open Core Database Python Effects Script

variable {S : Schema}

/-! ### Counters -/

/-- `COUNTER_TTL_GRACE_SECONDS` -/
def counterTtlGraceSeconds : ℤ := 3600

/-- `DEFAULT_DIMENSION` -/
def defaultDimension : String := "api_requests"

/-- `int(d.timestamp())` -/
def timestamp (d : Datetime) : ℤ := d.tdiv second

def counterKey (tenantId : ℤ) (dimension : String) (periodStart : Datetime) : String :=
  "billing:usage:" ++ toString tenantId ++ ":" ++ dimension ++ ":" ++ toString (timestamp periodStart)

/-- The lifetime of a counter in seconds. -/
def ttlFor (periodEnd now : Datetime) : ℤ :=
  max 60 ((periodEnd - now).tdiv second + counterTtlGraceSeconds)

/-- The new value of the counter, or `none` on any failure. -/
def increment (tenantId : ℤ) (dimension : String) (periodStart periodEnd : Datetime)
    (amount : ℤ := 1) : Py S (Option ℤ) :=
  tryCatch
    (do
      let now ← datetimeNow
      redis (.incrby (counterKey tenantId dimension periodStart) amount (ttlFor periodEnd now)))
    fun _ => pure none

/-- The value of the counter; zero when it is missing, and on any failure. -/
def getUsage (tenantId : ℤ) (dimension : String) (periodStart : Datetime) : Py S ℤ :=
  tryCatch
    (do
      let value ← redis (.get (counterKey tenantId dimension periodStart))
      return value.getD 0)
    fun _ => pure 0

/-- Billable cents of one dimension. -/
def computeOverage (used includedQuantity unitAmountCents : ℤ) : ℤ :=
  max 0 (used - includedQuantity) * unitAmountCents

/-! ### The metering column -/

/-- The two numbers of a dimension's configuration. -/
def dimensionConfig (cfg : Value) : Except BuiltinError DimensionConfig := do
  let unitAmountCents ← (← cfg.get "unit_amount_cents" (.int 0)).toInt
  let includedQuantity ← (← cfg.get "included_quantity" (.int 0)).toInt
  return ⟨unitAmountCents, includedQuantity⟩

/-- The loop of `extract_metering`: what is no object is passed over, and so is an object with a
number that `int` refuses. -/
def extractEach (out : List (String × DimensionConfig)) :
    List (String × Value) → Except BuiltinError (List (String × DimensionConfig))
  | [] => .ok out
  | (name, cfg) :: rest =>
    if cfg.isDict then
      match dimensionConfig cfg with
      | .ok config => extractEach (Value.setItem name config out) rest
      | .error .typeError | .error .valueError => extractEach out rest
      | .error e => .error e
    else extractEach out rest

/-- A plan's raw metering as configurations by dimension. -/
def extractMetering (planMetering : Value) : Except BuiltinError (List (String × DimensionConfig)) :=
  if !planMetering.truthy then .ok []
  else match planMetering with
    | .dict kvs => extractEach [] kvs
    | _ => .error .attributeError

/-! ### Facts about counters -/

/-- A counter that is added to in its period outlives the period. -/
theorem le_add_ttlFor {periodEnd now t : Datetime} (h : now ≤ t) :
    periodEnd ≤ t + ttlFor periodEnd now * second := by
  have hlt : periodEnd - now < ((periodEnd - now).tdiv second + 1) * second :=
    Int.lt_tdiv_add_one_mul_self _ (by decide)
  have hmax : (periodEnd - now).tdiv second + counterTtlGraceSeconds ≤ ttlFor periodEnd now := le_max_right _ _
  unfold counterTtlGraceSeconds at hmax
  unfold second at hlt hmax ⊢
  linarith

/-- A dimension is configured once. -/
theorem nodup_extractEach {kvs : List (String × Value)} {out configs : List (String × DimensionConfig)}
    (h : extractEach out kvs = .ok configs) (hout : (out.map Prod.fst).Nodup) :
    (configs.map Prod.fst).Nodup := by
  induction kvs generalizing out with
  | nil =>
    cases h
    exact hout
  | cons p kvs ih =>
    obtain ⟨name, cfg⟩ := p
    unfold extractEach at h
    split at h
    · split at h
      · exact ih h (Value.nodup_setItem name _ hout)
      · exact ih h hout
      · exact ih h hout
      · cases h
    · exact ih h hout

theorem nodup_extractMetering {planMetering : Value} {configs : List (String × DimensionConfig)}
    (h : extractMetering planMetering = .ok configs) : (configs.map Prod.fst).Nodup := by
  unfold extractMetering at h
  split at h
  · cases h
    exact List.nodup_nil
  · split at h
    · exact nodup_extractEach h List.nodup_nil
    · cases h

end FastapiTemplate.Billing
