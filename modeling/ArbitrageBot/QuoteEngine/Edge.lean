/-
The modeled edge of a round trip: the quoted result less the amount put in and all costs,
in USDC and in basis points.
-/

import ArbitrageBot.Library.DecimalRounding
import ArbitrageBot.Quote

namespace ArbitrageBot

open DecimalRounding

def toBps (numerator denominator : Rat) : Rat :=
  if denominator = 0 then 0 else quantizeDown 5 (numerator / denominator * 10000)

def applyBps (amount bps : Rat) : Rat := quantizeDown 8 (amount * bps / 10000)

structure CostBreakdown where
  dexFeeCost : Rat
  gasCost : Rat
  quoteDriftBuffer : Rat
  slippageBuffer : Rat
  routerOverhead : Rat
  failedTxAllowance : Rat
  safetyMargin : Rat

def CostBreakdown.total (costs : CostBreakdown) : Rat :=
  costs.dexFeeCost + costs.gasCost + costs.quoteDriftBuffer + costs.slippageBuffer +
    costs.routerOverhead + costs.failedTxAllowance + costs.safetyMargin

structure EdgeResult where
  expectedFinalAmount : Rat
  modeledNetEdgeAmount : Rat
  modeledNetEdgeBps : Rat
  costBreakdown : CostBreakdown

def ModeledEdgeCalculator.calculate (settings : Settings)
    (initialAmount expectedFinalAmount dexFeeCost gasCost : Rat) : EdgeResult :=
  let costs : CostBreakdown :=
    { dexFeeCost, gasCost
      quoteDriftBuffer := applyBps initialAmount settings.costQuoteDriftBufferBps
      slippageBuffer := applyBps initialAmount settings.costSlippageBufferBps
      routerOverhead := applyBps initialAmount settings.costRouterOverheadBps
      failedTxAllowance := applyBps initialAmount settings.costFailedTxAllowanceBps
      safetyMargin := applyBps initialAmount settings.costSafetyMarginBps }
  let modeledNetEdgeAmount := expectedFinalAmount - initialAmount - costs.total
  { expectedFinalAmount, modeledNetEdgeAmount
    modeledNetEdgeBps := toBps modeledNetEdgeAmount initialAmount
    costBreakdown := costs }

structure Settings.NonNegativeCosts (settings : Settings) : Prop where
  quoteDrift : 0 ≤ settings.costQuoteDriftBufferBps
  slippage : 0 ≤ settings.costSlippageBufferBps
  routerOverhead : 0 ≤ settings.costRouterOverheadBps
  failedTx : 0 ≤ settings.costFailedTxAllowanceBps
  safetyMargin : 0 ≤ settings.costSafetyMarginBps
  gasPrice : 0 ≤ settings.gasPriceGweiDefault
  gasToken : 0 ≤ settings.gasTokenPriceUsdc

theorem toBps_mono {lower upper denominator : Rat} (ordered : lower ≤ upper)
    (nonneg : 0 ≤ denominator) : toBps lower denominator ≤ toBps upper denominator := by
  unfold toBps
  split
  · exact le_refl 0
  · have ratio : lower / denominator ≤ upper / denominator :=
      div_le_div_of_nonneg_right ordered nonneg
    exact quantizeDown_mono 5 (mul_le_mul_of_nonneg_right ratio (by positivity))

theorem applyBps_nonneg {amount : Rat} {bps : Int} (amountNonneg : 0 ≤ amount)
    (bpsNonneg : 0 ≤ bps) : 0 ≤ applyBps amount bps := by
  have product : 0 ≤ amount * bps := mul_nonneg amountNonneg (Int.cast_nonneg bpsNonneg)
  exact quantizeDown_nonneg 8 (div_nonneg product (by positivity))

/-- Costs only take away, and truncation keeps the order: the modeled edge is at most the raw
one. -/
theorem ModeledEdgeCalculator.calculate_le_raw {settings : Settings}
    (costs : settings.NonNegativeCosts) {initialAmount expectedFinalAmount dexFeeCost gasCost : Rat}
    (amount : 0 ≤ initialAmount) (fees : 0 ≤ dexFeeCost) (gas : 0 ≤ gasCost) :
    (calculate settings initialAmount expectedFinalAmount dexFeeCost gasCost).modeledNetEdgeBps ≤
      toBps (expectedFinalAmount - initialAmount) initialAmount := by
  apply toBps_mono _ amount
  have drift := applyBps_nonneg amount costs.quoteDrift
  have slippage := applyBps_nonneg amount costs.slippage
  have router := applyBps_nonneg amount costs.routerOverhead
  have failed := applyBps_nonneg amount costs.failedTx
  have margin := applyBps_nonneg amount costs.safetyMargin
  simp only [CostBreakdown.total]
  linarith only [drift, slippage, router, failed, margin, fees, gas]

end ArbitrageBot
