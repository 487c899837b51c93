/-
What the truncations of the edge model cost: how far the modeled net edge is
from the exact one, and that its comparison with a whole number of basis points
is the one of the untruncated edge.
-/

import ArbitrageBot.QuoteEngine.Edge

namespace ArbitrageBot

open DecimalRounding

/-- The five settings that are charged on the amount put in. -/
structure Settings.NonNegativeBps (settings : Settings) : Prop where
  quoteDrift : 0 ≤ settings.costQuoteDriftBufferBps
  slippage : 0 ≤ settings.costSlippageBufferBps
  routerOverhead : 0 ≤ settings.costRouterOverheadBps
  failedTx : 0 ≤ settings.costFailedTxAllowanceBps
  safetyMargin : 0 ≤ settings.costSafetyMarginBps

def Settings.costBps (settings : Settings) : Int :=
  settings.costQuoteDriftBufferBps + settings.costSlippageBufferBps +
    settings.costRouterOverheadBps + settings.costFailedTxAllowanceBps +
    settings.costSafetyMarginBps

/-- The net edge with no cost truncated. -/
def unroundedNetEdge (settings : Settings)
    (initialAmount expectedFinalAmount dexFeeCost gasCost : Rat) : Rat :=
  expectedFinalAmount - initialAmount - dexFeeCost - gasCost -
    initialAmount * settings.costBps / 10000

/-- What `apply_bps` cuts off. -/
def truncationLoss (amount : Rat) (bps : Int) : Rat :=
  amount * bps / 10000 - applyBps amount bps

theorem truncationLoss_bounds {amount : Rat} {bps : Int} (amountNonneg : 0 ≤ amount)
    (bpsNonneg : 0 ≤ bps) :
    0 ≤ truncationLoss amount bps ∧ truncationLoss amount bps < 1 / 10 ^ 8 := by
  have product : 0 ≤ amount * bps := mul_nonneg amountNonneg (Int.cast_nonneg bpsNonneg)
  have charge : 0 ≤ amount * bps / 10000 := div_nonneg product (by positivity)
  have below := quantizeDown_le 8 charge
  have above := lt_quantizeDown_add 8 charge
  unfold truncationLoss applyBps
  constructor
  · linarith only [below]
  · linarith only [above]

namespace ModeledEdgeCalculator

variable {settings : Settings} {initialAmount expectedFinalAmount dexFeeCost gasCost : Rat}

/-- The modeled edge is above the exact one by what the five charges lose. -/
theorem calculate_sub_unrounded :
    (calculate settings initialAmount expectedFinalAmount dexFeeCost
        gasCost).modeledNetEdgeAmount -
      unroundedNetEdge settings initialAmount expectedFinalAmount dexFeeCost gasCost =
        truncationLoss initialAmount settings.costQuoteDriftBufferBps +
          truncationLoss initialAmount settings.costSlippageBufferBps +
          truncationLoss initialAmount settings.costRouterOverheadBps +
          truncationLoss initialAmount settings.costFailedTxAllowanceBps +
          truncationLoss initialAmount settings.costSafetyMarginBps := by
  simp only [calculate, CostBreakdown.total, unroundedNetEdge, Settings.costBps, truncationLoss]
  push_cast
  ring

theorem intCast_le_bps (positive : 0 < initialAmount) {threshold : Int} (atLeast : 1 ≤ threshold) :
    let result := calculate settings initialAmount expectedFinalAmount dexFeeCost gasCost
    (threshold : Rat) ≤ result.modeledNetEdgeBps ↔
      threshold * initialAmount ≤ result.modeledNetEdgeAmount * 10000 := by
  intro result
  have bps : result.modeledNetEdgeBps =
      quantizeDown 5 (result.modeledNetEdgeAmount / initialAmount * 10000) := by
    change toBps result.modeledNetEdgeAmount initialAmount = _
    rw [toBps, if_neg positive.ne']
  rw [bps, intCast_le_quantizeDown 5 atLeast, div_mul_eq_mul_div, le_div_iff₀ positive]

/-- The five truncations together lose less than five units of the eighth decimal place, and
truncating the basis points does not move a threshold. -/
theorem rounding_exact (costs : settings.NonNegativeBps) (positive : 0 < initialAmount) :
    let result := calculate settings initialAmount expectedFinalAmount dexFeeCost gasCost
    let excess := result.modeledNetEdgeAmount -
      unroundedNetEdge settings initialAmount expectedFinalAmount dexFeeCost gasCost
    (0 ≤ excess ∧ excess < 5 / 10 ^ 8) ∧
      ∀ threshold : Int, 1 ≤ threshold →
        ((threshold : Rat) ≤ result.modeledNetEdgeBps ↔
          threshold * initialAmount ≤ result.modeledNetEdgeAmount * 10000) := by
  intro result excess
  have drift := truncationLoss_bounds positive.le costs.quoteDrift
  have slippage := truncationLoss_bounds positive.le costs.slippage
  have router := truncationLoss_bounds positive.le costs.routerOverhead
  have failed := truncationLoss_bounds positive.le costs.failedTx
  have margin := truncationLoss_bounds positive.le costs.safetyMargin
  refine ⟨?_, fun threshold atLeast => intCast_le_bps positive atLeast⟩
  simp only [excess, result, calculate_sub_unrounded]
  constructor
  · linarith only [drift.1, slippage.1, router.1, failed.1, margin.1]
  · linarith only [drift.2, slippage.2, router.2, failed.2, margin.2]

theorem rounding_exact_third :
    (calculate shipped (1 / 3) 1 0 0).modeledNetEdgeAmount -
        unroundedNetEdge shipped (1 / 3) 1 0 0 < 5 / 10 ^ 8 ∧
      ((30 : Int) : Rat) ≤ (calculate shipped (1 / 3) 1 0 0).modeledNetEdgeBps := by
  have costs : shipped.NonNegativeBps :=
    ⟨by decide, by decide, by decide, by decide, by decide⟩
  obtain ⟨⟨-, small⟩, exact_⟩ := @rounding_exact shipped (1 / 3) 1 0 0 costs (by norm_num)
  refine ⟨small, (exact_ 30 (by decide)).mpr ?_⟩
  decide +kernel

end ModeledEdgeCalculator

end ArbitrageBot
