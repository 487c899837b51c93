/-
`GlobalRiskManager.evaluate`: the guards in source order, grouped by what they
read, and the verdict of the first one that fails.
-/

import ArbitrageBot.Library.GuardChain
import ArbitrageBot.Risk.Manager

namespace ArbitrageBot

open GuardChain PythonText

structure Evaluation where
  quote : RouteQuote
  mode : RunMode
  quoteFreshnessLimit : Int
  health : HealthSnapshot
  walletBalanceUsdc : Rat
  referenceDeviationBps : Rat
  depegDetected : Bool
  smallerPoolLiquidityUsdc : Rat

def RouteQuote.venueTokens (quote : RouteQuote) : List String :=
  ((split ('-', '>') (quote.metadata.get "venues" "")).map strip).filter (fun venue => venue ≠ "")

def pauseGuards (manager : GlobalRiskManager) (quote : RouteQuote) : List (Guard String String) :=
  [ { check := "global_pause", passes := !manager.globalKillSwitch, reason := "global_pause" },
    { check := "strategy_pause", passes := quote.strategy ∉ manager.strategyPaused,
      reason := "strategy_paused" },
    { check := "route_pause", passes := quote.routeId ∉ manager.routePaused,
      reason := "route_disabled" },
    { check := "pair_pause", passes := quote.pair ∉ manager.pairPaused, reason := "pair_disabled" },
    { check := "venue_pause",
      passes := quote.venueTokens.all (fun venue => venue ∉ manager.venuePaused),
      reason := "venue_disabled" } ]

section Stateless

variable (settings : Settings) (input : Evaluation)

def requiredFeeStatus : FeeConfidence :=
  if input.mode = .live then settings.liveMinFeeConfidenceStatus else .fallbackOnly

def requiredQuoteStatus : QuoteMatch :=
  if input.mode = .live then settings.liveMinQuoteMatchStatus else .matched

def requiredBalanceStatus : BalanceConfidence :=
  if input.mode = .live then settings.liveMinBalanceConfidenceStatus else .internalOk

def balanceMatchReason (health : HealthSnapshot) : String :=
  let failureReason := norm (some health.balanceFailureReason)
  if failureReason = "wallet_balance_mismatch" then "wallet_balance_mismatch"
  else if failureReason = "inventory_drift" then "inventory_drift"
  else "balance_mismatch"

def healthGuards : List (Guard String String) :=
  let quote := input.quote
  let health := input.health
  let feeStatus := normalizeFeeConfidence (some health.feeKnownStatus) none
  let quoteMatchStatus := normalizeQuoteMatchStatus (some health.quoteMatchStatus)
  let balanceStatus := normalizeBalanceConfidence (some health.balanceMatchStatus) none
  [ { check := "quote_unavailable",
      passes := quote.metadata.get "quote_unavailable" "false" ≠ "true",
      reason := "quote_unavailable" },
    { check := "health_fresh",
      passes := health.healthAgeSeconds ≤ settings.healthSnapshotStaleSeconds,
      reason := "stale_health" },
    { check := "db_known", passes := health.dbKnown, reason := "health_unknown" },
    { check := "db_reachable", passes := health.dbReachable, reason := "db_unreachable" },
    { check := "rpc_known", passes := health.rpcKnown, reason := "health_unknown" },
    { check := "rpc_reachable", passes := health.rpcReachable, reason := "rpc_unreachable" },
    { check := "signing_known", passes := health.signingKnown, reason := "health_unknown" },
    { check := "signing_ok", passes := health.signingOk, reason := "signing_error" },
    { check := "fee_known", passes := health.feeKnown, reason := "fee_unknown" },
    { check := "fee_status_known", passes := feeStatus ≠ .unknown, reason := "fee_unknown" },
    { check := "fee_status_verified",
      passes := feeConfidenceAtLeast feeStatus (requiredFeeStatus settings input),
      reason := "fee_unverified" },
    { check := "quote_match_known",
      passes := health.quoteMatchKnown && quoteMatchStatus ≠ .unknown,
      reason := "health_unknown" },
    { check := "quote_match_status_verified",
      passes := quoteMatchStatusAtLeast quoteMatchStatus (requiredQuoteStatus settings input),
      reason := "quote_mismatch" },
    { check := "quote_match",
      passes := if requiredQuoteStatus settings input = .matched then health.quoteMatch else true,
      reason := "quote_mismatch" },
    { check := "balance_match_known",
      passes := health.balanceMatchKnown && balanceStatus ≠ .unknown,
      reason := "balance_unverified" },
    { check := "balance_match",
      passes := health.balanceMatch && balanceStatus ≠ .mismatch,
      reason := balanceMatchReason health },
    { check := "balance_status_verified",
      passes := balanceConfidenceAtLeast balanceStatus (requiredBalanceStatus settings input),
      reason := "balance_unverified" },
    { check := "clock_skew_ok", passes := health.clockSkewOk, reason := "clock_skew" },
    { check := "contract_revert_rate", passes := health.contractRevertRate ≤ 1 / 5,
      reason := "contract_revert_rate_high" },
    { check := "alert_health",
      passes := health.alertFailures < settings.alertFailureStopThreshold,
      reason := "alert_subsystem_failure" } ]

def marketGuards : List (Guard String String) :=
  let quote := input.quote
  let health := input.health
  let gasBaseline := if 0 < health.gasP90 then health.gasP90 else 1
  [ { check := "quote_fresh", passes := quote.quoteAgeSeconds ≤ input.quoteFreshnessLimit,
      reason := "stale_quote" },
    { check := "pool_health", passes := quote.metadata.get "pool_health" "false" = "true",
      reason := "pool_unhealthy" },
    { check := "rpc_error_rate",
      passes := health.rpcErrorRate5m ≤ settings.rpcErrorRateStopPct5m,
      reason := "rpc_error_spike" },
    { check := "gas_spike", passes := health.gasNow ≤ gasBaseline * settings.gasSpikeMultiplier,
      reason := "gas_spike" },
    { check := "liq_drop", passes := |health.liquidityChangePct| ≤ settings.liquidityDropStopPct,
      reason := "liquidity_too_low" },
    { check := "depeg_guard",
      passes := !input.depegDetected && |input.referenceDeviationBps| ≤ settings.depegThresholdBps,
      reason := "depeg_guard" },
    { check := "notional_limit", passes := quote.initialAmount ≤ settings.liveMaxNotionalUsdc,
      reason := "notional_too_large" },
    { check := "liquidity_available", passes := 0 < input.smallerPoolLiquidityUsdc,
      reason := "liquidity_unavailable" },
    { check := "pool_share_limit",
      passes := quote.initialAmount / input.smallerPoolLiquidityUsdc ≤
        settings.liveMaxNotionalPctOfSmallerPool,
      reason := "pool_share_too_large" },
    { check := "wallet_balance", passes := quote.initialAmount ≤ input.walletBalanceUsdc,
      reason := "insufficient_balance" } ]

/-- The thresholds of the run mode: only live has its own, the other modes share the shadow's. -/
def modeGuards : List (Guard String String) :=
  let quote := input.quote
  if input.mode = .live then
    [ { check := "mode_allowed", passes := settings.liveEnableFlag, reason := "live_disabled" },
      { check := "modeled_edge", passes := settings.liveMinNetEdgeBps ≤ quote.modeledNetEdgeBps,
        reason := "below_threshold" },
      { check := "persist", passes := settings.liveMinEdgePersistSeconds ≤ quote.persistedSeconds,
        reason := "edge_not_persistent" },
      { check := "slippage", passes := quote.expectedSlippageBps ≤ settings.liveMaxSlippageBps,
        reason := "slippage_too_high" },
      { check := "profit_abs",
        passes := settings.liveMinProfitAbsoluteUsdc ≤ quote.modeledNetEdgeAmount,
        reason := "below_min_profit" } ]
  else
    [ { check := "modeled_edge", passes := settings.shadowMinNetEdgeBps ≤ quote.modeledNetEdgeBps,
        reason := "below_threshold" },
      { check := "persist",
        passes := settings.shadowMinEdgePersistSeconds ≤ quote.persistedSeconds,
        reason := "edge_not_persistent" },
      { check := "slippage", passes := quote.expectedSlippageBps ≤ settings.shadowMaxSlippageBps,
        reason := "slippage_too_high" } ]

def statelessGuards : List (Guard String String) :=
  healthGuards settings input ++ marketGuards settings input ++ modeGuards settings input

end Stateless

/-- The guards on the route's own statistics, executions already pruned. -/
def routeGuards (settings : Settings) (manager : GlobalRiskManager) (now : Instant)
    (routeId : String) : List (Guard String String) :=
  let stats := manager.routeStats routeId
  [ { check := "route_rate_limit",
      passes := (stats.executions.length : Int) < settings.liveMaxTradesPerRoutePer10m,
      reason := "cooldown" },
    { check := "consecutive_failures",
      passes := (stats.consecutiveFailures : Int) < settings.liveMaxConsecutiveFailuresPerRoute,
      reason := "too_many_failures" },
    { check := "consecutive_losses",
      passes := (stats.consecutiveLosses : Int) < settings.liveMaxConsecutiveLossesPerRoute,
      reason := "too_many_losses" },
    { check := "cooldown",
      passes :=
        match manager.cooldownUntil routeId with
        | none => true
        | some expiry => expiry ≤ now
      reason := "cooldown" } ]

def GlobalRiskManager.pruneRoute (manager : GlobalRiskManager) (now : Instant) (routeId : String) :
    GlobalRiskManager :=
  { manager with
    routeStats := Function.update manager.routeStats routeId
      ((manager.routeStats routeId).pruneExecutions now) }

def earlyGuards (settings : Settings) (manager : GlobalRiskManager) (input : Evaluation) :
    List (Guard String String) :=
  pauseGuards manager input.quote ++ healthGuards settings input ++ marketGuards settings input

/-- The manager after the route's statistics were looked at, if they were. -/
def GlobalRiskManager.afterEvaluate (settings : Settings) (manager : GlobalRiskManager)
    (now : Instant) (input : Evaluation) : GlobalRiskManager :=
  if (earlyGuards settings manager input).all Guard.passes then
    manager.pruneRoute now input.quote.routeId
  else manager

def evaluateGuards (settings : Settings) (manager : GlobalRiskManager) (now : Instant)
    (input : Evaluation) : List (Guard String String) :=
  earlyGuards settings manager input ++
    routeGuards settings (manager.afterEvaluate settings now input) now input.quote.routeId ++
    modeGuards settings input

def verdict (guards : List (Guard String String)) : OpportunityDecision :=
  match firstFailure guards with
  | none => { tradable := true, blockedReason := "", checks := recorded guards }
  | some guard => { tradable := false, blockedReason := guard.reason, checks := recorded guards }

def GlobalRiskManager.evaluate (settings : Settings) (manager : GlobalRiskManager) (now : Instant)
    (input : Evaluation) : OpportunityDecision × GlobalRiskManager :=
  (verdict (evaluateGuards settings manager now input), manager.afterEvaluate settings now input)

/-- A route's state, persisted or not, keeps the route from being tradable. -/
def RouteState.blocks (settings : Settings) (now : Instant) (state : RouteState) : Bool :=
  state.paused || state.cooldownUntil.any (fun expiry => now < expiry) ||
    settings.liveMaxConsecutiveFailuresPerRoute ≤ state.consecutiveFailures ||
    settings.liveMaxConsecutiveLossesPerRoute ≤ state.consecutiveLosses

/-! ### The verdict -/

theorem verdict_tradable {guards : List (Guard String String)} :
    (verdict guards).tradable = true ↔ ∀ guard ∈ guards, guard.passes = true := by
  rw [← firstFailure_eq_none, verdict]
  split <;> simp_all

namespace GlobalRiskManager

variable {settings : Settings} {manager : GlobalRiskManager} {now : Instant} {input : Evaluation}

theorem evaluate_tradable :
    (manager.evaluate settings now input).1.tradable = true ↔
      (∀ guard ∈ pauseGuards manager input.quote, guard.passes = true) ∧
      (∀ guard ∈ statelessGuards settings input, guard.passes = true) ∧
      ∀ guard ∈ routeGuards settings (manager.pruneRoute now input.quote.routeId) now
        input.quote.routeId, guard.passes = true := by
  rw [evaluate, verdict_tradable, evaluateGuards, statelessGuards, afterEvaluate, earlyGuards]
  simp only [List.forall_mem_append, List.all_eq_true]
  constructor
  · rintro ⟨⟨⟨⟨pauses, health⟩, market⟩, route⟩, mode⟩
    rw [if_pos ⟨⟨pauses, health⟩, market⟩] at route
    exact ⟨pauses, ⟨⟨health, market⟩, mode⟩, route⟩
  · rintro ⟨pauses, ⟨⟨health, market⟩, mode⟩, route⟩
    rw [if_pos ⟨⟨pauses, health⟩, market⟩]
    exact ⟨⟨⟨⟨pauses, health⟩, market⟩, route⟩, mode⟩

theorem evaluate_blocked_of_pause {guard : Guard String String}
    (member : guard ∈ pauseGuards manager input.quote) (fails : guard.passes = false) :
    (manager.evaluate settings now input).1.tradable = false := by
  rw [← Bool.not_eq_true, evaluate_tradable]
  rintro ⟨pauses, -, -⟩
  rw [pauses guard member] at fails
  cases fails

theorem evaluate_blocked_of_globalKill (killed : manager.globalKillSwitch = true) :
    (manager.evaluate settings now input).1.tradable = false := by
  apply evaluate_blocked_of_pause List.mem_cons_self
  simp [killed]

theorem evaluate_reason_of_routePaused (paused : input.quote.routeId ∈ manager.routePaused) :
    (manager.evaluate settings now input).1.blockedReason ∈
      ["global_pause", "strategy_paused", "route_disabled"] := by
  have split : evaluateGuards settings manager now input =
      (pauseGuards manager input.quote).take 3 ++
        (evaluateGuards settings manager now input).drop 3 := rfl
  have fails : ∃ guard ∈ (pauseGuards manager input.quote).take 3, guard.passes = false :=
    ⟨_, .tail _ (.tail _ List.mem_cons_self), by simp [paused]⟩
  obtain ⟨guard, member, fails⟩ := fails
  rw [evaluate, verdict, split, firstFailure_append_of_fails member fails]
  cases found : firstFailure ((pauseGuards manager input.quote).take 3) with
  | none =>
      have passes := firstFailure_eq_none.mp found guard member
      rw [fails] at passes
      cases passes
  | some decisive =>
      change decisive.reason ∈ ((pauseGuards manager input.quote).take 3).map Guard.reason
      exact List.mem_map_of_mem (firstFailure_mem found).1

theorem evaluate_not_fatal_of_routePaused (paused : input.quote.routeId ∈ manager.routePaused) :
    (manager.evaluate settings now input).1.blockedReason ∉ fatalFailureCategories := by
  have disjoint : ∀ reason ∈ ["global_pause", "strategy_paused", "route_disabled"],
      reason ∉ fatalFailureCategories := by decide
  exact disjoint _ (evaluate_reason_of_routePaused paused)

theorem evaluate_blockedReason {reason : String} (stated : reason ≠ "") :
    (manager.evaluate settings now input).1.blockedReason = reason ↔
      (firstFailure (evaluateGuards settings manager now input)).map Guard.reason =
        some reason := by
  rw [evaluate, verdict]
  cases firstFailure (evaluateGuards settings manager now input) with
  | none => simp [stated.symm]
  | some guard => simp

theorem balanceMatchReason_ne (health : HealthSnapshot) :
    balanceMatchReason health ≠ "quote_unavailable" := by
  unfold balanceMatchReason
  dsimp only
  split
  · decide
  · split <;> decide

/-- No other guard gives this reason. -/
theorem evaluate_quoteUnavailable_iff :
    (manager.evaluate settings now input).1.blockedReason = "quote_unavailable" ↔
      (∀ guard ∈ pauseGuards manager input.quote, guard.passes = true) ∧
        input.quote.metadata.get "quote_unavailable" "false" = "true" := by
  have chain : evaluateGuards settings manager now input =
      pauseGuards manager input.quote ++
        { check := "quote_unavailable"
          passes := input.quote.metadata.get "quote_unavailable" "false" ≠ "true"
          reason := "quote_unavailable" } ::
        ((healthGuards settings input).tail ++ marketGuards settings input ++
          routeGuards settings (manager.afterEvaluate settings now input) now input.quote.routeId ++
          modeGuards settings input) := by
    simp only [evaluateGuards, earlyGuards, List.append_assoc]
    rfl
  rw [evaluate_blockedReason (by decide), chain, firstFailure_reason_iff]
  · simp
  · simp [pauseGuards]
  · simp only [List.forall_mem_append]
    refine ⟨⟨⟨?_, ?_⟩, ?_⟩, ?_⟩
    · simp [healthGuards, balanceMatchReason_ne]
    · simp [marketGuards]
    · simp [routeGuards]
    · unfold modeGuards
      dsimp only
      split <;> simp

theorem evaluate_blocked_of_routeState
    (blocks : (manager.getRouteState input.quote.routeId).blocks settings now = true) :
    (manager.evaluate settings now input).1.tradable = false := by
  rw [← Bool.not_eq_true, evaluate_tradable]
  rintro ⟨pauses, -, route⟩
  simp only [routeGuards, pruneRoute, Function.update_self, RouteStats.pruneExecutions,
    List.forall_mem_cons, decide_eq_true_eq] at route
  obtain ⟨-, failures, losses, cooldown, -⟩ := route
  simp only [RouteState.blocks, getRouteState, Bool.or_eq_true, decide_eq_true_eq] at blocks
  rcases blocks with ((paused | cooling) | failed) | lost
  · have pause := pauses _ (.tail _ (.tail _ List.mem_cons_self))
    simp [paused] at pause
  · obtain ⟨expiry, running, later⟩ := (Option.any_eq_true _ _).mp cooling
    simp only [running, decide_eq_true_eq] at cooldown later
    exact absurd later (not_lt.mpr cooldown)
  · exact absurd failures (not_lt.mpr (of_decide_eq_true failed))
  · exact absurd losses (not_lt.mpr (of_decide_eq_true lost))

theorem getRouteState_pruneRoute (manager : GlobalRiskManager) (now : Instant)
    (pruned route : String) :
    (manager.pruneRoute now pruned).getRouteState route = manager.getRouteState route := by
  by_cases same : route = pruned
  · subst same
    simp only [getRouteState, pruneRoute, Function.update_self, RouteStats.pruneExecutions]
    rfl
  · apply getRouteState_congr
    all_goals simp [pruneRoute, same]

end GlobalRiskManager

/-! ### An evaluation that only the manager can block -/

def calmQuote (route : String) : RouteQuote :=
  { routeId := route, strategy := "hyperevm_dex_dex", pair := "USDC/USDT0", direction := "forward"
    initialAmount := 100, finalAmount := 103, rawSpreadAmount := 3, rawEdgeBps := 0
    modeledNetEdgeAmount := 2, modeledNetEdgeBps := 200, expectedSlippageBps := 0
    gasCostUsdc := 0, quoteAgeSeconds := 0, allCosts := 1, persistedSeconds := 60
    metadata := [("venues", "ramses_v3->hybra_v3"), ("pool_health", "true")] }

def calmHealth : HealthSnapshot :=
  { healthAgeSeconds := 0, dbReachable := true, dbKnown := true, rpcReachable := true,
    rpcKnown := true, signingOk := true, signingKnown := true, feeKnown := true,
    feeKnownStatus := "chain_verified", quoteMatch := true, quoteMatchKnown := true,
    quoteMatchStatus := "matched", balanceMatch := true, balanceMatchKnown := true,
    balanceMatchStatus := "wallet_verified", clockSkewOk := true }

def calmInput (route : String) : Evaluation :=
  { quote := calmQuote route, mode := .paper, quoteFreshnessLimit := 3, health := calmHealth
    walletBalanceUsdc := 1000, referenceDeviationBps := 0, depegDetected := false
    smallerPoolLiquidityUsdc := 1000000 }

theorem calmInput_passes (route : String) :
    ∀ guard ∈ statelessGuards shipped (calmInput route), guard.passes = true := by
  rw [← List.all_eq_true]
  change (statelessGuards shipped (calmInput "")).all Guard.passes = true
  decide +kernel

end ArbitrageBot
