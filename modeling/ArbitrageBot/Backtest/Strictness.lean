/-
Two replays of the same rows whose parameters differ in their gates only: the
stricter one admits nothing that the other blocks.
-/

import ArbitrageBot.Backtest.Metrics

namespace ArbitrageBot

open Fallible GuardChain PythonDecimal PythonJson

namespace BacktestEngine

/-! ### When a row is eligible -/

structure WithinThresholds (gates : Gates) (modeledEdgeBps slippageBps quoteAge : Decimal) :
    Prop where
  edge : modeledEdgeBps.isLess gates.minEdge = .ok false
  slippage : gates.maxSlippage.isLess slippageBps = .ok false
  age : gates.maxQuoteAge.isLess quoteAge = .ok false

def ShareAdmitted (gates : Gates) (amount liquidity : Decimal) : Prop :=
  ∃ share, amount.div liquidity = .ok share ∧ gates.liquidityCapRatio.isLess share = .ok false

/-- The tail of `_recompute_blocked_reason`, which reads the amounts. -/
def AmountAdmitted (payload : JsonObject) (gates : Gates) : Prop :=
  ∃ amountIn liquidity, (payload.getD "initial_amount" (.text "0")).decimal = .ok amountIn ∧
    0 < amountIn ∧
    (payload.getD "smaller_pool_liquidity_usdc" (.text "0")).decimal = .ok liquidity ∧
    0 < liquidity ∧ ShareAdmitted gates amountIn liquidity

/-- An amount of zero takes no share of the pool. -/
def PoolAdmitted (gates : Gates) (amount liquidity : Decimal) : Prop :=
  0 < liquidity ∧ (amount ≤ 0 ∨ 0 < amount ∧ ShareAdmitted gates amount liquidity)

theorem refuseStatuses_eq_none {guards : List (Guard Unit Refusal)} :
    refuseStatuses guards = .ok none ↔ ∀ guard ∈ guards, guard.passes = true := by
  rw [refuseStatuses, Except.ok.injEq, Option.map_eq_none_iff, firstFailure_eq_none]

theorem thresholdChecks_passed {gates : Gates} {modeledEdgeBps slippageBps quoteAge : Decimal} :
    (∀ check ∈ thresholdChecks gates modeledEdgeBps slippageBps quoteAge, check = .ok none) ↔
      WithinThresholds gates modeledEdgeBps slippageBps quoteAge := by
  simp only [thresholdChecks, List.forall_mem_cons, refuseIf_eq_none, List.not_mem_nil,
    false_implies, implies_true, and_true]
  exact ⟨fun passed => ⟨passed.1, passed.2.1, passed.2.2⟩,
    fun within => ⟨within.edge, within.slippage, within.age⟩⟩

theorem refuseAmounts_eq_none {payload : JsonObject} {gates : Gates} :
    refuseAmounts payload gates = .ok none ↔ AmountAdmitted payload gates := by
  constructor
  · intro judged
    obtain ⟨amountIn, readAmount, judged⟩ := bind_eq_ok.mp judged
    obtain ⟨empty, compared, judged⟩ := bind_eq_ok.mp judged
    cases empty with
    | true => cases judged
    | false =>
        obtain ⟨liquidity, readLiquidity, judged⟩ := bind_eq_ok.mp judged
        obtain ⟨dry, comparedLiquidity, judged⟩ := bind_eq_ok.mp judged
        cases dry with
        | true => cases judged
        | false =>
            obtain ⟨share, divided, judged⟩ := bind_eq_ok.mp judged
            obtain ⟨exceeds, comparedShare, judged⟩ := bind_eq_ok.mp judged
            cases exceeds with
            | true => cases judged
            | false =>
                exact ⟨amountIn, liquidity, readAmount, Decimal.isAtMost_eq_false.mp compared,
                  readLiquidity, Decimal.isAtMost_eq_false.mp comparedLiquidity, share, divided,
                  comparedShare⟩
  · intro admitted
    obtain ⟨amountIn, liquidity, readAmount, positive, readLiquidity, liquid, share, divided,
      within⟩ := admitted
    simp only [refuseAmounts, readAmount, Decimal.isAtMost_eq_false.mpr positive, readLiquidity,
      Decimal.isAtMost_eq_false.mpr liquid, divided, within, bind, Except.bind,
      Bool.false_eq_true, if_false, pure, Except.pure]

theorem refusePool_eq_none {reading : SnapshotReading} {gates : Gates} :
    refusePool reading gates = .ok none ↔
      PoolAdmitted gates reading.initialAmount reading.smallerLiquidity := by
  constructor
  · intro judged
    obtain ⟨dry, comparedLiquidity, judged⟩ := bind_eq_ok.mp judged
    cases dry with
    | true => cases judged
    | false =>
        refine ⟨Decimal.isAtMost_eq_false.mp comparedLiquidity, ?_⟩
        obtain ⟨positive, compared, judged⟩ := bind_eq_ok.mp judged
        cases positive with
        | false => exact .inl (Decimal.isLess_eq_false.mp compared).1
        | true =>
            obtain ⟨share, divided, judged⟩ := bind_eq_ok.mp judged
            obtain ⟨exceeds, comparedShare, judged⟩ := bind_eq_ok.mp judged
            cases exceeds with
            | true => cases judged
            | false =>
                exact .inr ⟨Decimal.isLess_eq_true.mp compared, share, divided, comparedShare⟩
  · intro admitted
    obtain ⟨liquid, empty | ⟨positive, share, divided, within⟩⟩ := admitted
    · have notPositive : Decimal.isLess 0 reading.initialAmount = .ok false :=
        Decimal.isLess_eq_false.mpr ⟨empty, rfl⟩
      simp only [refusePool, Decimal.isAtMost_eq_false.mpr liquid, notPositive, bind, Except.bind,
        Bool.false_eq_true, if_false, pure, Except.pure]
    · simp only [refusePool, Decimal.isAtMost_eq_false.mpr liquid,
        Decimal.isLess_eq_true.mpr positive, divided, within, bind, Except.bind,
        Bool.false_eq_true, if_false, if_true, pure, Except.pure]

theorem opportunityChecks_passed {read : Statuses} {params : JsonObject} {gates : Gates}
    {row : OpportunityRow} :
    firstRefusal (opportunityChecks read params gates row) = .ok none ↔
      (∀ guard ∈ opportunityGuards read params row.payload, guard.passes = true) ∧
        WithinThresholds gates row.modeledEdgeBps row.expectedSlippageBps row.quoteAgeSeconds ∧
        AmountAdmitted row.payload gates := by
  rw [firstRefusal_eq_none, opportunityChecks, List.cons_append, List.forall_mem_cons,
    List.forall_mem_append, List.forall_mem_singleton, refuseStatuses_eq_none,
    thresholdChecks_passed, refuseAmounts_eq_none]

theorem snapshotChecks_passed {params : JsonObject} {gates : Gates} {reading : SnapshotReading}
    {row : MarketSnapshot} :
    firstRefusal (snapshotChecks params gates reading row) = .ok none ↔
      (∀ guard ∈ snapshotGuards reading.statuses params row.metadata, guard.passes = true) ∧
        WithinThresholds gates reading.modeledEdgeBps reading.slippageBps row.quoteAgeSeconds ∧
        PoolAdmitted gates reading.initialAmount reading.smallerLiquidity := by
  rw [firstRefusal_eq_none, snapshotChecks, List.cons_append, List.forall_mem_cons,
    List.forall_mem_append, List.forall_mem_singleton, refuseStatuses_eq_none,
    thresholdChecks_passed, refusePool_eq_none]

theorem recomputeBlockedReason_eligible {row : OpportunityRow} {gates : Gates}
    {params : JsonObject} {legacySupportFallback : Bool} {read : Statuses} :
    recomputeBlockedReason row gates params legacySupportFallback = .ok (none, read) ↔
      opportunityStatuses row.payload legacySupportFallback = .ok read ∧
        firstRefusal (opportunityChecks read params gates row) = .ok none := by
  constructor
  · intro judged
    obtain ⟨statuses, readStatuses, judged⟩ := bind_eq_ok.mp judged
    obtain ⟨refusal, refused, judged⟩ := bind_eq_ok.mp judged
    cases judged
    exact ⟨readStatuses, refused⟩
  · rintro ⟨readStatuses, passed⟩
    simp only [recomputeBlockedReason, readStatuses, passed, bind, Except.bind, pure, Except.pure]

theorem opportunityOutcome_eligible {gates : Gates} {params : JsonObject}
    {legacySupportFallback : Bool} {row : OpportunityRow} {outcome : RowOutcome} {fill : Fill}
    (judged : opportunityOutcome gates params legacySupportFallback row = .ok outcome)
    (eligible : outcome.verdict = .inr fill) :
    ∃ read, recomputeBlockedReason row gates params legacySupportFallback = .ok (none, read) := by
  obtain ⟨⟨refusal, read⟩, recomputed, judged⟩ := bind_eq_ok.mp judged
  cases refusal with
  | some refusal =>
      cases judged
      cases eligible
  | none => exact ⟨read, recomputed⟩

/-- What the snapshot loop has read of a row when it comes to its guards. -/
structure SnapshotReading.ReadFrom (reading : SnapshotReading) (row : MarketSnapshot)
    (health : Option RouteHealth) : Prop where
  amounts : ∃ amount final empty,
    metadataAmount row.metadata "initial_amount" row.amountIn = .ok amount ∧
      metadataAmount row.metadata "final_amount" row.quotedAmountOut = .ok final ∧
      amount.isAtMost 0 = .ok empty ∧
      reading.initialAmount = (if empty = true then 0 else amount) ∧
      final.sub reading.initialAmount = .ok reading.expectedPnl
  statuses : snapshotStatuses row.metadata health = .ok reading.statuses

theorem readSnapshot_readFrom {defaults : SnapshotDefaults} {row : MarketSnapshot}
    {health : Option RouteHealth} {reading : SnapshotReading}
    (read : readSnapshot defaults row health = .ok reading) : reading.ReadFrom row health := by
  obtain ⟨amount, readAmount, read⟩ := bind_eq_ok.mp read
  obtain ⟨final, readFinal, read⟩ := bind_eq_ok.mp read
  obtain ⟨empty, compared, read⟩ := bind_eq_ok.mp read
  obtain ⟨expectedPnl, taken, read⟩ := bind_eq_ok.mp read
  obtain ⟨modeledEdgeBps, -, read⟩ := bind_eq_ok.mp read
  obtain ⟨slippageBps, -, read⟩ := bind_eq_ok.mp read
  obtain ⟨smallerLiquidity, -, read⟩ := bind_eq_ok.mp read
  obtain ⟨statuses, readStatuses, read⟩ := bind_eq_ok.mp read
  cases read
  exact ⟨⟨amount, final, empty, readAmount, readFinal, compared, rfl, taken⟩, readStatuses⟩

theorem snapshotOutcome_eligible {gates : Gates} {defaults : SnapshotDefaults}
    {params : JsonObject} {row : MarketSnapshot} {health : Option RouteHealth}
    {outcome : RowOutcome} {fill : Fill}
    (judged : snapshotOutcome gates defaults params row health = .ok outcome)
    (eligible : outcome.verdict = .inr fill) :
    ∃ reading, readSnapshot defaults row health = .ok reading ∧
      firstRefusal (snapshotChecks params gates reading row) = .ok none := by
  obtain ⟨reading, read, judged⟩ := bind_eq_ok.mp judged
  obtain ⟨refusal, refused, judged⟩ := bind_eq_ok.mp judged
  cases refusal with
  | some refusal =>
      cases judged
      cases eligible
  | none => exact ⟨reading, read, refused⟩

/-! ### Stricter gates -/

/-- The parameters that only decide who is blocked. -/
def gateParameters : List String :=
  [ "min_modeled_edge_bps", "max_slippage_bps", "max_quote_age_seconds", "liquidity_cap_ratio",
    "min_fee_confidence_status", "min_balance_confidence_status" ]

structure Gates.Stricter (loose strict : Gates) : Prop where
  minEdge : loose.minEdge ≤ strict.minEdge
  maxSlippage : strict.maxSlippage ≤ loose.maxSlippage
  maxQuoteAge : strict.maxQuoteAge ≤ loose.maxQuoteAge
  liquidityCapRatio : strict.liquidityCapRatio ≤ loose.liquidityCapRatio

/-- The second parameter set differs from the first in its gates only, each at least as
strict. -/
structure StricterParams (loose strict : JsonObject) : Prop where
  gates : ∃ looseGates strictGates, Gates.read loose = .ok looseGates ∧
    Gates.read strict = .ok strictGates ∧ looseGates.Stricter strictGates
  fee : (minFeeConfidence loose).rank ≤ (minFeeConfidence strict).rank
  balance : (minBalanceConfidence loose).rank ≤ (minBalanceConfidence strict).rank
  rest : ∀ key, key ∉ gateParameters → loose.get? key = strict.get? key

section Stricter

variable {loose strict : JsonObject} {looseGates strictGates : Gates}

theorem penalty_eq (stricter : StricterParams loose strict) (baseAmount : Decimal) {key : String}
    (applies : Bool) (other : key ∉ gateParameters) :
    penalty loose baseAmount key applies = penalty strict baseAmount key applies := by
  rw [penalty, penalty, JsonObject.getD_congr _ (stricter.rest key other)]

theorem computePenalties_eq (stricter : StricterParams loose strict) :
    ∀ initialAmount baseExpected feeStatus balanceStatus,
      computePenalties initialAmount baseExpected feeStatus balanceStatus loose =
        computePenalties initialAmount baseExpected feeStatus balanceStatus strict := by
  intro initialAmount baseExpected feeStatus balanceStatus
  have gas : "gas_penalty_bps" ∉ gateParameters := by decide
  have quoteDrift : "quote_drift_buffer_bps" ∉ gateParameters := by decide
  have latency : "latency_penalty_bps" ∉ gateParameters := by decide
  have fallbackFee : "fallback_fee_penalty_bps" ∉ gateParameters := by decide
  have unverifiedFee : "unverified_fee_penalty_bps" ∉ gateParameters := by decide
  have unverifiedBalance : "unverified_balance_penalty_bps" ∉ gateParameters := by decide
  simp only [computePenalties, penalty_eq stricter _ _ gas, penalty_eq stricter _ _ quoteDrift,
    penalty_eq stricter _ _ latency, penalty_eq stricter _ _ fallbackFee,
    penalty_eq stricter _ _ unverifiedFee, penalty_eq stricter _ _ unverifiedBalance]

theorem defaults_eq (stricter : StricterParams loose strict) :
    SnapshotDefaults.read loose = SnapshotDefaults.read strict := by
  have gasCost := stricter.rest "default_gas_cost_usdc" (by decide)
  have slippage := stricter.rest "default_slippage_bps" (by decide)
  rw [SnapshotDefaults.read, SnapshotDefaults.read, JsonObject.getD_congr _ gasCost,
    JsonObject.getD_congr _ slippage]

theorem feeGuards_eased (stricter : StricterParams loose strict) (read : Statuses) :
    Eased (feeGuards read strict) (feeGuards read loose) := by
  refine .cons id (.cons ?_ .nil)
  intro passed
  simp only [guard, feeConfidenceAtLeast, decide_eq_true_eq] at passed ⊢
  exact stricter.fee.trans passed

theorem balanceGuards_eased (stricter : StricterParams loose strict) (read : Statuses)
    (payload : JsonObject) :
    Eased (balanceGuards read strict payload) (balanceGuards read loose payload) := by
  refine .cons id (.cons id (.cons ?_ .nil))
  intro passed
  simp only [guard, balanceConfidenceAtLeast, decide_eq_true_eq] at passed ⊢
  exact stricter.balance.trans passed

theorem WithinThresholds.of_stricter (tighter : looseGates.Stricter strictGates)
    {modeledEdgeBps slippageBps quoteAge : Decimal}
    (within : WithinThresholds strictGates modeledEdgeBps slippageBps quoteAge) :
    WithinThresholds looseGates modeledEdgeBps slippageBps quoteAge :=
  ⟨Decimal.isLess_eq_false_of_le tighter.minEdge within.edge,
    Decimal.isLess_eq_false_of_ge tighter.maxSlippage within.slippage,
    Decimal.isLess_eq_false_of_ge tighter.maxQuoteAge within.age⟩

theorem ShareAdmitted.of_stricter (tighter : looseGates.Stricter strictGates)
    {amount liquidity : Decimal} (admitted : ShareAdmitted strictGates amount liquidity) :
    ShareAdmitted looseGates amount liquidity := by
  obtain ⟨share, divided, within⟩ := admitted
  exact ⟨share, divided, Decimal.isLess_eq_false_of_ge tighter.liquidityCapRatio within⟩

theorem AmountAdmitted.of_stricter (tighter : looseGates.Stricter strictGates)
    {payload : JsonObject} (admitted : AmountAdmitted payload strictGates) :
    AmountAdmitted payload looseGates := by
  obtain ⟨amountIn, liquidity, readAmount, positive, readLiquidity, liquid, share⟩ := admitted
  exact ⟨amountIn, liquidity, readAmount, positive, readLiquidity, liquid,
    share.of_stricter tighter⟩

theorem PoolAdmitted.of_stricter (tighter : looseGates.Stricter strictGates)
    {amount liquidity : Decimal} (admitted : PoolAdmitted strictGates amount liquidity) :
    PoolAdmitted looseGates amount liquidity :=
  ⟨admitted.1, admitted.2.imp_right fun share => ⟨share.1, share.2.of_stricter tighter⟩⟩

/-! ### Rows -/

theorem opportunity_admitted (stricter : StricterParams loose strict)
    (tighter : looseGates.Stricter strictGates) {legacySupportFallback : Bool}
    {row : OpportunityRow} {outcome : RowOutcome} {fill : Fill}
    (judged : opportunityOutcome strictGates strict legacySupportFallback row = .ok outcome)
    (eligible : outcome.verdict = .inr fill) :
    opportunityOutcome looseGates loose legacySupportFallback row = .ok outcome := by
  obtain ⟨read, recomputed⟩ := opportunityOutcome_eligible judged eligible
  obtain ⟨readStatuses, passed⟩ := recomputeBlockedReason_eligible.mp recomputed
  obtain ⟨passes, thresholds, amounts⟩ := opportunityChecks_passed.mp passed
  have eased : Eased (opportunityGuards read strict row.payload)
      (opportunityGuards read loose row.payload) :=
    (((Eased.refl _).append (feeGuards_eased stricter read)).append (Eased.refl _)).append
      (balanceGuards_eased stricter read row.payload)
  have recomputedLoose := recomputeBlockedReason_eligible.mpr ⟨readStatuses,
    opportunityChecks_passed.mpr ⟨eased.passes passes, thresholds.of_stricter tighter,
      amounts.of_stricter tighter⟩⟩
  rw [← judged]
  simp only [opportunityOutcome, recomputed, recomputedLoose, bind, Except.bind,
    computePenalties_eq stricter]

theorem snapshot_admitted (stricter : StricterParams loose strict)
    (tighter : looseGates.Stricter strictGates) {defaults : SnapshotDefaults}
    {row : MarketSnapshot} {health : Option RouteHealth} {outcome : RowOutcome} {fill : Fill}
    (judged : snapshotOutcome strictGates defaults strict row health = .ok outcome)
    (eligible : outcome.verdict = .inr fill) :
    snapshotOutcome looseGates defaults loose row health = .ok outcome := by
  obtain ⟨reading, read, passed⟩ := snapshotOutcome_eligible judged eligible
  obtain ⟨passes, thresholds, pool⟩ := snapshotChecks_passed.mp passed
  have eased : Eased (snapshotGuards reading.statuses strict row.metadata)
      (snapshotGuards reading.statuses loose row.metadata) :=
    (((Eased.refl _).append (feeGuards_eased stricter _)).append
      (balanceGuards_eased stricter _ _)).append (Eased.refl _)
  have passedLoose := snapshotChecks_passed.mpr ⟨eased.passes passes,
    thresholds.of_stricter tighter, pool.of_stricter tighter⟩
  rw [← judged]
  simp only [snapshotOutcome, read, passed, passedLoose, bind, Except.bind,
    computePenalties_eq stricter]

end Stricter

/-! ### Replays -/

/-- What the stricter replay of a row admits, the other one admits at the same PnL. -/
def Admits (loose strict : Except String RowOutcome) : Prop :=
  ∀ outcome fill, strict = .ok outcome → outcome.verdict = .inr fill →
    ∃ admitted same, loose = .ok admitted ∧ admitted.verdict = .inr same ∧
      same.simulatedPnl = fill.simulatedPnl

def TradesAdmit (loose strict : List BacktestTrade) : Prop :=
  List.Forall₂ (fun strictTrade looseTrade => strictTrade.status = "eligible" →
    looseTrade.status = "eligible" ∧ looseTrade.simulatedPnl = strictTrade.simulatedPnl)
    strict loose

theorem trade_admits {key : RunKey} {loose strict : RowOutcome}
    {looseTrade strictTrade : BacktestTrade} (admits : Admits (.ok loose) (.ok strict))
    (looseInserted : loose.trade key = .ok looseTrade)
    (strictInserted : strict.trade key = .ok strictTrade)
    (eligible : strictTrade.status = "eligible") :
    looseTrade.status = "eligible" ∧ looseTrade.simulatedPnl = strictTrade.simulatedPnl := by
  obtain ⟨-, looseStatus, looseKept⟩ := trade_eq_ok looseInserted
  obtain ⟨-, strictStatus, strictKept⟩ := trade_eq_ok strictInserted
  cases verdict : strict.verdict with
  | inl refusal =>
      rw [verdict, Sum.elim_inl, eligible] at strictStatus
      exact absurd strictStatus (by decide)
  | inr fill =>
      obtain ⟨admitted, same, judged, admittedVerdict, pnl⟩ := admits strict fill rfl verdict
      cases judged
      rw [admittedVerdict, Sum.elim_inr] at looseStatus looseKept
      rw [verdict, Sum.elim_inr, ← pnl, looseKept] at strictKept
      exact ⟨looseStatus, Except.ok.inj strictKept⟩

theorem tradesAdmit_of_replayed {ρ : Type} {key : RunKey}
    {looseJudge strictJudge : ρ → Except String RowOutcome} {rows : List ρ}
    {looseDone strictDone : Finished} {looseOutcomes strictOutcomes : List RowOutcome}
    (admits : ∀ row, Admits (looseJudge row) (strictJudge row))
    (loose : Replayed key looseJudge rows looseDone looseOutcomes)
    (strict : Replayed key strictJudge rows strictDone strictOutcomes) :
    TradesAdmit looseDone.2 strictDone.2 := by
  have looseLength := loose.judged.length_eq.symm.trans strict.judged.length_eq
  refine List.forall₂_iff_get.mpr ⟨?_, fun index strictBound looseBound eligible => ?_⟩
  · rw [← strict.trades.length_eq, ← loose.trades.length_eq, looseLength]
  · have looseInside : index < looseOutcomes.length := by
      rw [loose.trades.length_eq]
      exact looseBound
    have strictInside : index < strictOutcomes.length := looseLength ▸ looseInside
    have inside : index < rows.length := by
      rw [strict.judged.length_eq]
      exact strictInside
    have here := admits (rows.get ⟨index, inside⟩)
    rw [loose.judged.get inside looseInside, strict.judged.get inside strictInside] at here
    exact trade_admits here (loose.trades.get looseInside looseBound)
      (strict.trades.get strictInside strictBound) eligible

theorem opportunity_admits {loose strict : JsonObject} {looseGates strictGates : Gates}
    (stricter : StricterParams loose strict) (tighter : looseGates.Stricter strictGates)
    (legacySupportFallback : Bool) (row : OpportunityRow) :
    Admits (opportunityOutcome looseGates loose legacySupportFallback row)
      (opportunityOutcome strictGates strict legacySupportFallback row) := by
  intro outcome fill judged eligible
  exact ⟨outcome, fill, opportunity_admitted stricter tighter judged eligible, eligible, rfl⟩

theorem snapshot_admits {loose strict : JsonObject} {looseGates strictGates : Gates}
    (stricter : StricterParams loose strict) (tighter : looseGates.Stricter strictGates)
    (defaults : SnapshotDefaults) (row : MarketSnapshot) (health : Option RouteHealth) :
    Admits (snapshotOutcome looseGates defaults loose row health)
      (snapshotOutcome strictGates defaults strict row health) := by
  intro outcome fill judged eligible
  exact ⟨outcome, fill, snapshot_admitted stricter tighter judged eligible, eligible, rfl⟩

end BacktestEngine

namespace Sample

open BacktestEngine

def tenBps : JsonObject := [("min_modeled_edge_bps", .number "10")]

/-- A parser that knows the texts of some objects; no other text is JSON here. -/
def loadsOf (objects : List JsonObject) (text : String) : Option JsonDocument :=
  (objects.find? fun entries => dumps entries = text).map JsonDocument.object

def looseParams : JsonObject := [("max_slippage_bps", .text "Infinity")]

def strictParams : JsonObject :=
  [("min_modeled_edge_bps", .number "10"), ("min_fee_confidence_status", .text "venue_declared")]

theorem strictParams_stricter : StricterParams looseParams strictParams := by
  constructor
  · refine ⟨⟨.finite 0, .infinity false, .finite 9999, .finite 1⟩,
      ⟨.finite 10, .finite 9999, .finite 9999, .finite 1⟩, by decide +kernel, by decide +kernel,
      by constructor <;> decide +kernel⟩
  · decide
  · decide
  · intro key other
    simp only [gateParameters, List.mem_cons, not_or] at other
    have edge : (key == "min_modeled_edge_bps") = false := beq_false_of_ne other.1
    have slippage : (key == "max_slippage_bps") = false := beq_false_of_ne other.2.1
    have fee : (key == "min_fee_confidence_status") = false := beq_false_of_ne other.2.2.2.2.1
    simp [JsonObject.get?, looseParams, strictParams, List.lookup_cons, edge, slippage, fee]

/-- The four rows that pass the gates, and one of a thin edge. -/
def thinRows : List OpportunityRow := { replayRow 4 with modeledEdgeBps := .finite 5 } :: replayRows

theorem thinRows_replayed (params : JsonObject) (eligibleCount : Nat)
    (counted : (evaluateOpportunityRows runKey thinRows params false).toOption.any
      (fun finished => finished.1.eligibleCount = eligibleCount) = true) :
    ∃ finished, evaluateOpportunityRows runKey thinRows params false = .ok finished ∧
      finished.1.eligibleCount = eligibleCount := by
  cases result : evaluateOpportunityRows runKey thinRows params false with
  | error reason =>
      rw [result] at counted
      cases counted
  | ok finished =>
      rw [result] at counted
      exact ⟨finished, rfl, of_decide_eq_true counted⟩

end Sample

end ArbitrageBot
