/-
No guard of `evaluate` is inverted: what is at least as safe as something tradable
is itself tradable, whatever the settings and the state of the manager.
-/

import Mathlib.Algebra.Order.Field.Basic
import ArbitrageBot.Risk.Evaluate

namespace ArbitrageBot

open GuardChain

/-- The health of the second input is at least as good as the first's. -/
structure HealthierThan (first second : HealthSnapshot) : Prop where
  dbKnown : first.dbKnown = true → second.dbKnown = true
  dbReachable : first.dbReachable = true → second.dbReachable = true
  rpcKnown : first.rpcKnown = true → second.rpcKnown = true
  rpcReachable : first.rpcReachable = true → second.rpcReachable = true
  signingKnown : first.signingKnown = true → second.signingKnown = true
  signingOk : first.signingOk = true → second.signingOk = true
  feeKnown : first.feeKnown = true → second.feeKnown = true
  quoteMatchKnown : first.quoteMatchKnown = true → second.quoteMatchKnown = true
  quoteMatch : first.quoteMatch = true → second.quoteMatch = true
  balanceMatchKnown : first.balanceMatchKnown = true → second.balanceMatchKnown = true
  balanceMatch : first.balanceMatch = true → second.balanceMatch = true
  clockSkewOk : first.clockSkewOk = true → second.clockSkewOk = true
  feeStatus : (normalizeFeeConfidence (some first.feeKnownStatus) none).rank ≤
    (normalizeFeeConfidence (some second.feeKnownStatus) none).rank
  quoteMatchStatus : (normalizeQuoteMatchStatus (some first.quoteMatchStatus)).rank ≤
    (normalizeQuoteMatchStatus (some second.quoteMatchStatus)).rank
  balanceStatus : (normalizeBalanceConfidence (some first.balanceMatchStatus) none).rank ≤
    (normalizeBalanceConfidence (some second.balanceMatchStatus) none).rank
  healthAge : second.healthAgeSeconds ≤ first.healthAgeSeconds
  alertFailures : second.alertFailures ≤ first.alertFailures
  revertRate : second.contractRevertRate ≤ first.contractRevertRate
  rpcErrorRate : second.rpcErrorRate5m ≤ first.rpcErrorRate5m
  gasNow : second.gasNow ≤ first.gasNow
  gasP90 : second.gasP90 = first.gasP90
  liquidityChange : |second.liquidityChangePct| ≤ |first.liquidityChangePct|

/-- Two evaluations of one route under one mode, the second at least as safe in every component. -/
structure AtLeastAsSafe (first second : Evaluation) : Prop where
  routeId : second.quote.routeId = first.quote.routeId
  strategy : second.quote.strategy = first.quote.strategy
  pair : second.quote.pair = first.quote.pair
  venues : second.quote.venueTokens = first.quote.venueTokens
  mode : second.mode = first.mode
  freshnessLimit : first.quoteFreshnessLimit ≤ second.quoteFreshnessLimit
  health : HealthierThan first.health second.health
  available : first.quote.metadata.get "quote_unavailable" "false" ≠ "true" →
    second.quote.metadata.get "quote_unavailable" "false" ≠ "true"
  poolHealth : first.quote.metadata.get "pool_health" "false" = "true" →
    second.quote.metadata.get "pool_health" "false" = "true"
  noDepeg : first.depegDetected = false → second.depegDetected = false
  deviation : |second.referenceDeviationBps| ≤ |first.referenceDeviationBps|
  quoteAge : second.quote.quoteAgeSeconds ≤ first.quote.quoteAgeSeconds
  slippage : second.quote.expectedSlippageBps ≤ first.quote.expectedSlippageBps
  amount : second.quote.initialAmount ≤ first.quote.initialAmount
  liquidity : first.smallerPoolLiquidityUsdc ≤ second.smallerPoolLiquidityUsdc
  wallet : first.walletBalanceUsdc ≤ second.walletBalanceUsdc
  edgeBps : first.quote.modeledNetEdgeBps ≤ second.quote.modeledNetEdgeBps
  edgeAmount : first.quote.modeledNetEdgeAmount ≤ second.quote.modeledNetEdgeAmount
  persisted : first.quote.persistedSeconds ≤ second.quote.persistedSeconds

/-! ### The statuses that count as nothing rank below all others -/

theorem FeeConfidence.known_of_rank {lower upper : FeeConfidence} (ranked : lower.rank ≤ upper.rank)
    (known : lower ≠ .unknown) : upper ≠ .unknown := by
  rintro rfl
  cases lower <;> simp_all [FeeConfidence.rank]

theorem QuoteMatch.known_of_rank {lower upper : QuoteMatch} (ranked : lower.rank ≤ upper.rank)
    (known : lower ≠ .unknown) : upper ≠ .unknown := by
  rintro rfl
  cases lower <;> simp_all [QuoteMatch.rank]

theorem BalanceConfidence.known_of_rank {lower upper : BalanceConfidence}
    (ranked : lower.rank ≤ upper.rank) (known : lower ≠ .unknown) : upper ≠ .unknown := by
  rintro rfl
  cases lower <;> simp_all [BalanceConfidence.rank]

theorem BalanceConfidence.matched_of_rank {lower upper : BalanceConfidence}
    (ranked : lower.rank ≤ upper.rank) (known : lower ≠ .unknown) (fits : lower ≠ .mismatch) :
    upper ≠ .mismatch := by
  rintro rfl
  cases lower <;> simp_all [BalanceConfidence.rank]

/-! ### The guards, group by group -/

section Groups

variable {settings : Settings} {manager : GlobalRiskManager} {first second : Evaluation}

theorem pauseGuards_safer (safer : AtLeastAsSafe first second) :
    pauseGuards manager second.quote = pauseGuards manager first.quote := by
  simp only [pauseGuards, safer.routeId, safer.strategy, safer.pair, safer.venues]

theorem balance_known_of_passes {input : Evaluation}
    (passed : ∀ guard ∈ healthGuards settings input, guard.passes = true) :
    normalizeBalanceConfidence (some input.health.balanceMatchStatus) none ≠ .unknown := by
  have position : (healthGuards settings input)[14]? = some _ := rfl
  have known := passed _ (List.mem_of_getElem? position)
  simp only [Bool.and_eq_true, decide_eq_true_eq] at known
  exact known.2

theorem liquid_of_passes {input : Evaluation}
    (passed : ∀ guard ∈ marketGuards settings input, guard.passes = true) :
    0 < input.smallerPoolLiquidityUsdc := by
  have position : (marketGuards settings input)[7]? = some _ := rfl
  exact of_decide_eq_true (passed _ (List.mem_of_getElem? position))

/-- An unknown balance ranks below a mismatch but would pass where the mismatch does not: only
the check before it keeps the ranks and the guards in step. -/
theorem healthGuards_eased (safer : AtLeastAsSafe first second)
    (balanceKnown :
      normalizeBalanceConfidence (some first.health.balanceMatchStatus) none ≠ .unknown) :
    Eased (healthGuards settings first) (healthGuards settings second) := by
  have healthier := safer.health
  have fee : requiredFeeStatus settings second = requiredFeeStatus settings first := by
    simp only [requiredFeeStatus, safer.mode]
  have quote : requiredQuoteStatus settings second = requiredQuoteStatus settings first := by
    simp only [requiredQuoteStatus, safer.mode]
  have balance : requiredBalanceStatus settings second = requiredBalanceStatus settings first := by
    simp only [requiredBalanceStatus, safer.mode]
  simp only [Eased, healthGuards, List.forall₂_cons, decide_eq_true_eq, Bool.and_eq_true,
    List.Forall₂.nil, and_true, fee, quote, balance]
  refine ⟨safer.available, fun fresh => healthier.healthAge.trans fresh, healthier.dbKnown,
    healthier.dbReachable, healthier.rpcKnown, healthier.rpcReachable, healthier.signingKnown,
    healthier.signingOk, healthier.feeKnown, ?_, ?_, ?_, ?_, ?_, ?_, ?_, ?_,
    healthier.clockSkewOk, ?_, ?_⟩
  · exact FeeConfidence.known_of_rank healthier.feeStatus
  · intro verified
    exact decide_eq_true (le_trans (of_decide_eq_true verified) healthier.feeStatus)
  · rintro ⟨known, status⟩
    exact ⟨healthier.quoteMatchKnown known,
      QuoteMatch.known_of_rank healthier.quoteMatchStatus status⟩
  · intro verified
    exact decide_eq_true (le_trans (of_decide_eq_true verified) healthier.quoteMatchStatus)
  · split
    · exact healthier.quoteMatch
    · exact id
  · rintro ⟨known, status⟩
    exact ⟨healthier.balanceMatchKnown known,
      BalanceConfidence.known_of_rank healthier.balanceStatus status⟩
  · rintro ⟨matched, fits⟩
    exact ⟨healthier.balanceMatch matched,
      BalanceConfidence.matched_of_rank healthier.balanceStatus balanceKnown fits⟩
  · intro verified
    exact decide_eq_true (le_trans (of_decide_eq_true verified) healthier.balanceStatus)
  · intro reverting
    exact healthier.revertRate.trans reverting
  · intro alerting
    exact healthier.alertFailures.trans_lt alerting

theorem marketGuards_eased (safer : AtLeastAsSafe first second)
    (amount : 0 ≤ second.quote.initialAmount) (liquid : 0 < first.smallerPoolLiquidityUsdc) :
    Eased (marketGuards settings first) (marketGuards settings second) := by
  have healthier := safer.health
  have share : second.quote.initialAmount / second.smallerPoolLiquidityUsdc ≤
      first.quote.initialAmount / first.smallerPoolLiquidityUsdc :=
    div_le_div₀ (amount.trans safer.amount) safer.amount liquid safer.liquidity
  simp only [Eased, marketGuards, List.forall₂_cons, decide_eq_true_eq, Bool.and_eq_true,
    Bool.not_eq_true', List.Forall₂.nil, and_true, healthier.gasP90]
  refine ⟨?_, safer.poolHealth, ?_, ?_, ?_, ?_, ?_, ?_, ?_, ?_⟩
  · intro fresh
    exact (safer.quoteAge.trans fresh).trans (mod_cast safer.freshnessLimit)
  · intro quiet
    exact healthier.rpcErrorRate.trans quiet
  · intro cheap
    exact healthier.gasNow.trans cheap
  · intro steady
    exact healthier.liquidityChange.trans steady
  · rintro ⟨pegged, near⟩
    exact ⟨safer.noDepeg pegged, safer.deviation.trans near⟩
  · intro bounded
    exact safer.amount.trans bounded
  · intro available
    exact available.trans_le safer.liquidity
  · intro small
    exact share.trans small
  · intro covered
    exact (safer.amount.trans covered).trans safer.wallet

theorem modeGuards_eased (safer : AtLeastAsSafe first second) :
    Eased (modeGuards settings first) (modeGuards settings second) := by
  simp only [modeGuards, safer.mode]
  split
  · simp only [Eased, List.forall₂_cons, decide_eq_true_eq, List.Forall₂.nil, and_true]
    refine ⟨id, ?_, ?_, ?_, ?_⟩
    · intro edge
      exact edge.trans safer.edgeBps
    · intro lasting
      exact lasting.trans safer.persisted
    · intro tight
      exact safer.slippage.trans tight
    · intro profitable
      exact profitable.trans safer.edgeAmount
  · simp only [Eased, List.forall₂_cons, decide_eq_true_eq, List.Forall₂.nil, and_true]
    refine ⟨?_, ?_, ?_⟩
    · intro edge
      exact edge.trans safer.edgeBps
    · intro lasting
      exact lasting.trans safer.persisted
    · intro tight
      exact safer.slippage.trans tight

theorem statelessGuards_safer (safer : AtLeastAsSafe first second)
    (amount : 0 ≤ second.quote.initialAmount)
    (passed : ∀ guard ∈ statelessGuards settings first, guard.passes = true) :
    ∀ guard ∈ statelessGuards settings second, guard.passes = true := by
  simp only [statelessGuards, List.forall_mem_append] at passed ⊢
  obtain ⟨⟨health, market⟩, mode⟩ := passed
  refine ⟨⟨?_, ?_⟩, ?_⟩
  · exact (healthGuards_eased safer (balance_known_of_passes health)).passes health
  · exact (marketGuards_eased safer amount (liquid_of_passes market)).passes market
  · exact (modeGuards_eased safer).passes mode

end Groups

/-- No guard is inverted. -/
theorem evaluate_tradable_of_safer (settings : Settings) (manager : GlobalRiskManager)
    (now : Instant) (first second : Evaluation) (safer : AtLeastAsSafe first second)
    (amount : 0 ≤ second.quote.initialAmount)
    (tradable : (manager.evaluate settings now first).1.tradable = true) :
    (manager.evaluate settings now second).1.tradable = true := by
  rw [GlobalRiskManager.evaluate_tradable] at tradable ⊢
  obtain ⟨pauses, stateless, route⟩ := tradable
  refine ⟨?_, statelessGuards_safer safer amount stateless, ?_⟩
  · rw [pauseGuards_safer safer]
    exact pauses
  · rw [safer.routeId]
    exact route

/-- No manager lets through what a fresh one without the kill switch stops. -/
theorem evaluate_tradable_fresh {settings : Settings} {manager : GlobalRiskManager} {now : Instant}
    {input : Evaluation} (tradable : (manager.evaluate settings now input).1.tradable = true)
    (created : Instant) :
    (((GlobalRiskManager.create settings created).setGlobalKill false).evaluate settings now
      input).1.tradable = true := by
  rw [GlobalRiskManager.evaluate_tradable] at tradable ⊢
  obtain ⟨-, stateless, route⟩ := tradable
  refine ⟨?_, stateless, ?_⟩
  · simp [pauseGuards, GlobalRiskManager.setGlobalKill, GlobalRiskManager.create]
  · simp only [routeGuards, GlobalRiskManager.pruneRoute, Function.update_self,
      RouteStats.pruneExecutions, List.forall_mem_cons, decide_eq_true_eq] at route
    obtain ⟨rate, failures, losses, -⟩ := route
    simp only [routeGuards, GlobalRiskManager.pruneRoute, Function.update_self,
      RouteStats.pruneExecutions, GlobalRiskManager.setGlobalKill, GlobalRiskManager.create,
      List.forall_mem_cons, decide_eq_true_eq, List.dropWhile_nil, List.length_nil,
      List.not_mem_nil, false_imp_iff, implies_true, and_true]
    omega

/-- A larger wallet and a smaller amount than in the calm evaluation. -/
def calmerInput (route : String) : Evaluation :=
  { calmInput route with
    quote := { calmQuote route with initialAmount := 50 }
    walletBalanceUsdc := 2000 }

theorem evaluate_tradable_of_safer_calm :
    AtLeastAsSafe (calmInput "r") (calmerInput "r") ∧
      (((GlobalRiskManager.create shipped 0).evaluate shipped 0 (calmerInput "r")).1.tradable =
        true) := by
  have sameHealth : HealthierThan calmHealth calmHealth :=
    ⟨id, id, id, id, id, id, id, id, id, id, id, id, le_rfl, le_rfl, le_rfl, le_rfl, le_rfl, le_rfl,
      le_rfl, le_rfl, rfl, le_rfl⟩
  have safer : AtLeastAsSafe (calmInput "r") (calmerInput "r") :=
    { routeId := rfl, strategy := rfl, pair := rfl, venues := rfl, mode := rfl
      freshnessLimit := le_rfl, health := sameHealth, available := id, poolHealth := id
      noDepeg := id, deviation := le_rfl, quoteAge := le_rfl, slippage := le_rfl
      amount := by decide, liquidity := le_rfl, wallet := by decide, edgeBps := le_rfl
      edgeAmount := le_rfl, persisted := le_rfl }
  have tradable :
      ((GlobalRiskManager.create shipped 0).evaluate shipped 0 (calmInput "r")).1.tradable = true := by
    decide +kernel
  exact ⟨safer, evaluate_tradable_of_safer shipped (.create shipped 0) 0 (calmInput "r")
    (calmerInput "r") safer (by decide) tradable⟩

end ArbitrageBot
