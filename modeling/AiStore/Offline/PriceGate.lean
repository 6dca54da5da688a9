import AiStore.Library.DecimalValue
import AiStore.Offline.Price

/-! Where the price guard decides what exact arithmetic decides. -/

set_option autoImplicit false

namespace AiStore.Offline

open Library
open Library.Decimal

/-- What a sale contributes, in exact arithmetic. -/
def exactContribution (selling supply variableCost : Int) (rate : ℚ) : ℚ :=
  selling - supply - variableCost - selling * rate

/-- No step of the calculation has to round, and both of its results have room in 28 digits. -/
structure WithinContext (selling supply variableCost : Int) (rate : ℚ) : Prop where
  cost : Representable ((selling : ℚ) - supply)
  costs : Representable ((selling : ℚ) - supply - variableCost)
  fee : Representable (selling * rate)
  contribution : Representable (exactContribution selling supply variableCost rate)
  threshold : Representable ((selling : ℚ) / 10)
  contribution_room : |exactContribution selling supply variableCost rate| < room
  margin_room : |exactContribution selling supply variableCost rate| < room * 10 ^ (-4 : Int) * selling

section

variable {selling supply variableCost : Int} {rate : Decimal}

/-- `contribution`, as it is computed. -/
def computedContribution (selling supply variableCost : Int) (rate : Decimal) : Decimal :=
  (((Decimal.ofInt selling).sub (.ofInt supply)).sub (.ofInt variableCost)).sub ((Decimal.ofInt selling).mul rate)

theorem computedContribution_value (within : WithinContext selling supply variableCost rate.value) :
    (computedContribution selling supply variableCost rate).value =
      exactContribution selling supply variableCost rate.value := by
  have cost : ((Decimal.ofInt selling).sub (.ofInt supply)).value = selling - supply := by
    rw [sub_value] <;> rw [value_ofInt, value_ofInt]
    exact within.cost
  have costs : (((Decimal.ofInt selling).sub (.ofInt supply)).sub (.ofInt variableCost)).value =
      selling - supply - variableCost := by
    rw [sub_value] <;> rw [cost, value_ofInt]
    exact within.costs
  have fee : ((Decimal.ofInt selling).mul rate).value = selling * rate.value := by
    rw [mul_value] <;> rw [value_ofInt]
    exact within.fee
  rw [computedContribution, sub_value] <;> rw [costs, fee]
  · rfl
  · exact within.contribution

theorem threshold_value (within : WithinContext selling supply variableCost rate.value) :
    ((Decimal.ofInt selling).mul ⟨false, 10, -2⟩).value = selling / 10 := by
  have tenth : (⟨false, 10, -2⟩ : Decimal).value = 1 / 10 := by norm_num [value, signed]
  rw [mul_value] <;> rw [value_ofInt, tenth, mul_one_div]
  exact within.threshold

/-- An accepted calculation is of its contribution, once that and the margin can be quantized. -/
theorem calculateDemoPrice_eq {contributionMinor margin : Decimal} (positive : 0 < selling) (supplied : 0 ≤ supply)
    (varied : 0 ≤ variableCost) (least : 0 ≤ rate.value) (most : rate.value < 1)
    (minor : (computedContribution selling supply variableCost rate).quantize 0 = some contributionMinor)
    (margined : ((computedContribution selling supply variableCost rate).div (.ofInt selling)).quantize (-4) = some margin) :
    calculateDemoPrice selling supply variableCost (.finite rate) = .ok {
      sellingPriceMinor := selling
      supplyCostMinor := supply
      variableCostMinor := variableCost
      feeRate := rate
      projectedContributionMinor := contributionMinor.toInt
      projectedMargin := margin
      status := if ((Decimal.ofInt selling).mul ⟨false, 10, -2⟩).le (computedContribution selling supply variableCost rate)
        then .ready else .blocked } := by
  -- no input is refused
  have inputs : ¬ (selling < 0 ∨ supply < 0 ∨ variableCost < 0) := by omega
  have rated : ¬ (rate.lt (.ofInt 0) = true ∨ (!rate.lt (.ofInt 1)) = true ∨ selling ≤ 0) := by
    rintro (negative | large | unpriced)
    · rw [lt_iff_value, value_ofInt, Int.cast_zero] at negative
      exact absurd negative (not_lt.mpr least)
    · rw [Bool.not_eq_true', ← Bool.not_eq_true, lt_iff_value, value_ofInt, Int.cast_one] at large
      exact large most
    · omega
  simp only [computedContribution] at minor margined
  simp only [calculateDemoPrice, if_neg inputs, pure_bind, if_neg rated, quantized, minor, margined, computedContribution]
  rfl

end

end AiStore.Offline
