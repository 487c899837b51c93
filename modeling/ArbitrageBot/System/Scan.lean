/-
What `BotRunner._scan_loop` holds between two awaits, and the pure parts of one
iteration: the quote handed to the risk manager and the outcome of a trade. The
answers of quote engines, wallet and chain are inputs.
-/

import ArbitrageBot.System.Database

namespace ArbitrageBot

structure QuoteAnswer where
  quote : RouteQuote
  smallerPoolLiquidityUsdc : Rat

def smallerPool : Except String QuoteAnswer → Rat
  | .ok found => found.smallerPoolLiquidityUsdc
  | .error _ => 0

/-- What the outside answers at an await of the loop; each await looks at its own part. -/
structure ScanAnswers where
  walletBalanceUsdc : Rat := 0
  quote : Except String QuoteAnswer := .error ""
  health : HealthSnapshot := {}
  chainValid : Bool := true

structure ScanCursor where
  currentMode : RunMode
  walletBalanceUsdc : Rat
  route : Route
  rest : List Route

namespace ScanCursor

variable (settings : Settings) (cursor : ScanCursor)

def strategyMode : RunMode :=
  if cursor.route.strategy = "hyperevm_dex_dex" then cursor.currentMode else .paper

def staleLimit : Int :=
  if cursor.route.strategy = "hyperevm_dex_dex" then settings.globalStaleQuoteStopSeconds
  else settings.shadowStaleQuoteSeconds

def buildUnavailableQuote (reason : String) : RouteQuote :=
  let route := cursor.route
  { routeId := route.id, strategy := route.strategy, pair := route.pair
    direction := route.direction, initialAmount := 0, finalAmount := 0, rawSpreadAmount := 0
    rawEdgeBps := 0, modeledNetEdgeAmount := 0, modeledNetEdgeBps := 0, expectedSlippageBps := 0
    gasCostUsdc := 0, quoteAgeSeconds := 999, allCosts := 0, persistedSeconds := 0
    status := "blocked", blockedReason := "quote_unavailable"
    metadata :=
      [("pool_health", "false"), ("quote_unavailable", "true"),
        ("quote_unavailable_reason", reason), ("support_status", "unsupported"),
        ("fee_known", "false"), ("fee_known_status", "unknown"),
        ("fee_provenance", "unavailable"), ("quote_match", "unknown"),
        ("quote_match_status", "unknown"), ("balance_match_status", "unknown"),
        ("balance_failure_reason", "quote_unavailable"), ("smaller_pool_liquidity_usdc", "0"),
        ("venues", route.venueA ++ "->" ++ route.venueB),
        ("mode_profile", cursor.strategyMode.value)] }

/-- Both engines label their quotes with the route they were asked about. -/
def quote (answer : Except String QuoteAnswer) : RouteQuote :=
  match answer with
  | .ok found =>
      { found.quote with
        routeId := cursor.route.id
        strategy := cursor.route.strategy
        pair := cursor.route.pair
        direction := cursor.route.direction }
  | .error reason => cursor.buildUnavailableQuote reason

def evaluation (answers : ScanAnswers) : Evaluation :=
  { quote := cursor.quote answers.quote
    mode := cursor.strategyMode
    quoteFreshnessLimit := cursor.staleLimit settings
    health := answers.health
    walletBalanceUsdc := cursor.walletBalanceUsdc
    referenceDeviationBps := (cursor.quote answers.quote).rawEdgeBps
    depegDetected := false
    smallerPoolLiquidityUsdc := smallerPool answers.quote }

@[simp] theorem evaluation_routeId (answers : ScanAnswers) :
    (cursor.evaluation settings answers).quote.routeId = cursor.route.id := by
  simp only [evaluation, quote]
  split <;> rfl

end ScanCursor

/-! ### Execution -/

structure ExecutionResult where
  ok : Bool
  realizedPnl : Option Rat := none
  blockedReason : Option String := none

def PaperExecutionEngine.execute (opportunity : RouteQuote) : ExecutionResult :=
  { ok := true, realizedPnl := some (opportunity.modeledNetEdgeAmount - 1 / 50) }

def LiveDryRunExecutionEngine.dryRun (chainValid : Bool) : ExecutionResult :=
  if chainValid then { ok := true }
  else { ok := false, blockedReason := some "chain_id_mismatch" }

structure TradeOutcome where
  txStatus : String
  failureCategory : String
  realizedPnl : Rat

namespace TradeOutcome

def isFailed (outcome : TradeOutcome) : Bool :=
  outcome.txStatus ∈ ["failed", "reverted", "dry_run_blocked"]

def category (outcome : TradeOutcome) : String :=
  if outcome.isFailed && outcome.failureCategory = "" then "scan_fatal"
  else outcome.failureCategory

def fatalFailure (outcome : TradeOutcome) : Bool :=
  outcome.category ≠ "" && outcome.category ∈ fatalFailureCategories

def operation (outcome : TradeOutcome) (routeId : String) : RiskOp :=
  if outcome.isFailed then
    .markFailure routeId outcome.category ("tx_status=" ++ outcome.txStatus)
  else .markSuccess routeId outcome.realizedPnl

end TradeOutcome

def ScanCursor.execute (cursor : ScanCursor) (quote : RouteQuote) (chainValid : Bool) :
    TradeOutcome :=
  if cursor.strategyMode = .paper then
    let result := PaperExecutionEngine.execute quote
    let txStatus := if result.ok then "success" else "failed"
    { txStatus := txStatus
      failureCategory := if txStatus = "failed" then "revert" else ""
      realizedPnl := result.realizedPnl.getD 0 }
  else
    let result := LiveDryRunExecutionEngine.dryRun chainValid
    { txStatus := if result.ok then "dry_run" else "dry_run_blocked"
      failureCategory := if result.ok then "" else result.blockedReason.getD "scan_fatal"
      realizedPnl := 0 }

/-- Every trade the loop counts as failed has a fatal category. -/
theorem ScanCursor.execute_fatal {cursor : ScanCursor} {quote : RouteQuote} {chainValid : Bool}
    (failed : (cursor.execute quote chainValid).isFailed = true) :
    (cursor.execute quote chainValid).category ∈ fatalFailureCategories := by
  revert failed
  unfold execute
  split
  · intro failed
    exact absurd failed (by simp [TradeOutcome.isFailed, PaperExecutionEngine.execute])
  · cases chainValid with
    | true =>
        intro failed
        exact absurd failed (by simp [TradeOutcome.isFailed, LiveDryRunExecutionEngine.dryRun])
    | false => exact fun _ => by decide

/-! ### Where the loop stands -/

structure Trade where
  quote : RouteQuote
  attemptId : Nat
  outcome : TradeOutcome

/-- The await at which `_scan_loop` is suspended, with what it has read so far. -/
inductive ScanPc
  | idle
  | controlRead (control : RuntimeControl)
  | routesPending (control : RuntimeControl)
  | routesRead (control : RuntimeControl) (routes : List Route)
  | ddPausing (control : RuntimeControl) (walletBalanceUsdc : Rat) (routes : List Route)
  | quoting (cursor : ScanCursor)
  | observing (cursor : ScanCursor) (quote : RouteQuote) (decision : OpportunityDecision)
  | judging (cursor : ScanCursor) (quote : RouteQuote) (decision : OpportunityDecision)
  | attempting (cursor : ScanCursor) (quote : RouteQuote)
  | executing (cursor : ScanCursor) (quote : RouteQuote) (attemptId : Nat)
  | persisting (cursor : ScanCursor) (state : RouteState) (trade : Option Trade)
  | reporting (cursor : ScanCursor) (trade : Trade)
  | updating (cursor : ScanCursor) (trade : Trade) (cooldownTriggered : Bool)
  | recording (cursor : ScanCursor) (trade : Trade) (cooldownTriggered : Bool)

/-- `for route in routes`: the strategies without an engine are skipped. -/
def ScanPc.forRoutes (mode : RunMode) (walletBalanceUsdc : Rat) : List Route → ScanPc
  | [] => .idle
  | route :: rest =>
      if route.strategy = "hyperevm_dex_dex" ∨ route.strategy = "base_virtual_shadow" then
        .quoting { currentMode := mode, walletBalanceUsdc, route, rest }
      else forRoutes mode walletBalanceUsdc rest

def ScanCursor.nextRoute (cursor : ScanCursor) : ScanPc :=
  .forRoutes cursor.currentMode cursor.walletBalanceUsdc cursor.rest

theorem ScanPc.forRoutes_cases (mode : RunMode) (walletBalanceUsdc : Rat) (routes : List Route) :
    ScanPc.forRoutes mode walletBalanceUsdc routes = .idle ∨
      ∃ cursor, ScanPc.forRoutes mode walletBalanceUsdc routes = .quoting cursor := by
  induction routes with
  | nil => exact .inl rfl
  | cons route rest ih =>
      unfold forRoutes
      split
      · exact .inr ⟨_, rfl⟩
      · exact ih

end ArbitrageBot
