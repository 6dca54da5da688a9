import AiStore.Library.Decimal
import AiStore.Offline.Contracts

/-! The projected price guard, in decimals. -/

set_option autoImplicit false

namespace AiStore.Offline

open Library

/-- What `Decimal(fee_rate)` makes of its argument. -/
inductive FeeRate where
  | finite (rate : Decimal)
  /-- An infinity or NaN. -/
  | special
  | unreadable

inductive PriceError where
  /-- `ConflictError`. -/
  | conflict (message : String)
  /-- `decimal.InvalidOperation`: a result has too many digits. -/
  | invalidOperation
  deriving DecidableEq

inductive PriceStatus where
  | ready | blocked
  deriving DecidableEq

structure DemoPriceCalculation where
  sellingPriceMinor : Int
  supplyCostMinor : Int
  variableCostMinor : Int
  feeRate : Decimal
  projectedContributionMinor : Int
  projectedMargin : Decimal
  status : PriceStatus

def quantized (number : Decimal) (exponent : Int) : Except PriceError Decimal :=
  match number.quantize exponent with
  | none => .error .invalidOperation
  | some result => .ok result

/-- `calculate_demo_price`. -/
def calculateDemoPrice (selling supply variableCost : Int) (feeRate : FeeRate) : Except PriceError DemoPriceCalculation := do
  if selling < 0 ∨ supply < 0 ∨ variableCost < 0 then throw (.conflict "invalid DEMO price inputs")
  let rate ← match feeRate with
    | .unreadable => throw (.conflict "invalid fee rate")
    | .special => throw (.conflict "invalid fee rate or selling price")
    | .finite rate => pure rate
  if rate.lt (.ofInt 0) ∨ !rate.lt (.ofInt 1) ∨ selling ≤ 0 then throw (.conflict "invalid fee rate or selling price")
  let price := Decimal.ofInt selling
  let contribution := ((price.sub (.ofInt supply)).sub (.ofInt variableCost)).sub (price.mul rate)
  let contributionMinor ← quantized contribution 0
  let margin ← quantized (contribution.div price) (-4)
  -- display rounding must never promote a proposal below the threshold
  let eligible := (price.mul ⟨false, 10, -2⟩).le contribution
  pure {
    sellingPriceMinor := selling
    supplyCostMinor := supply
    variableCostMinor := variableCost
    feeRate := rate
    projectedContributionMinor := contributionMinor.toInt
    projectedMargin := margin
    status := if eligible then .ready else .blocked }

end AiStore.Offline
