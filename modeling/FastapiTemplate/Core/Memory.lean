import FastapiTemplate.Python.Time

/-!
# What a worker process remembers

The snapshots of a tenant's metering that `billing.api.deps` keeps in a dictionary of the process.
-/

namespace FastapiTemplate.Core

open Python

/-- The price and the allowance of a metered dimension. -/
structure DimensionConfig where
  unitAmountCents : ℤ
  includedQuantity : ℤ
  deriving DecidableEq

/-- `_Entitlements`; without a period it remembers that there is no live subscription. -/
structure Entitlements where
  config : List (String × DimensionConfig)
  periodStart : Option Datetime
  periodEnd : Option Datetime
  expiresAt : Datetime
  deriving DecidableEq

/-- `_Entitlements.fresh` -/
def Entitlements.fresh (e : Entitlements) (now : Datetime) : Bool := decide (now < e.expiresAt)

/-- `_entitlements_cache` of every worker process, by tenant. -/
abbrev Memory : Type := ℕ → ℤ → Option Entitlements

/-- `_entitlements_cache[tenant_id] = e` in one process. -/
def Memory.set (m : Memory) (worker : ℕ) (tenantId : ℤ) (e : Entitlements) : Memory :=
  fun w t => if w = worker ∧ t = tenantId then some e else m w t

end FastapiTemplate.Core
