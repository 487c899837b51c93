/-
The two quote engines. Every adapter call may answer or raise, and a raise anywhere ends
the quote; the time since which an edge has stood is written before the last calls are made.
-/

import ArbitrageBot.QuoteEngine.Edge
import ArbitrageBot.System.Bot

namespace ArbitrageBot

open DecimalRounding PythonText

/-! ### Adapters -/

/-- `none` where the state has no `pool_fee_tier` that reads as a number. -/
structure PoolState where
  poolFeeTier : Option Rat := none

structure LiquiditySnapshot where
  liquidityUsd : Rat := 0

/-- A DEX adapter as it answers the calls of one quote. -/
structure DexAdapter where
  supported : Bool
  supportReason : String
  quoteExactInput (tokenIn tokenOut : String) (amountIn : Rat) (feeTier : Option Int)
    (poolId : Option String) : Except String Rat
  quoteExactOutput (tokenIn tokenOut : String) (amountOut : Rat) (feeTier : Option Int)
    (poolId : Option String) : Except String Rat
  estimateGas (routeName : String) : Except String Int
  getPoolState (poolId : String) : Except String PoolState
  getLiquiditySnapshot (poolId : String) : Except String LiquiditySnapshot
  isPoolHealthy (poolId : String) : Except String Bool

structure CexAdapter where
  getMarketStatus (symbol : String) : Except String String
  getBestBidAsk (symbol : String) : Except String (Rat × Rat)
  getTradingFeeDetails (symbol side makerOrTaker : String) : Except String (Int × String)

/-! ### What both engines share -/

/-- The text of the `KeyError` for a venue without an adapter. -/
def keyError (venue : String) : String := "\x27" ++ venue ++ "\x27"

theorem Except.bind_ok {α β : Type} {call : Except String α} {next : α → Except String β}
    {result : β} (returned : (call >>= next) = .ok result) :
    ∃ answer, call = .ok answer ∧ next answer = .ok result := by
  cases call with
  | error reason => cases returned
  | ok answer => exact ⟨answer, rfl, returned⟩

/-- The clock at the three places where a quote reads it. -/
structure QuoteTimes where
  start : Instant
  finish : Instant
  judged : Instant

/-- `_edge_started_at`, by route. -/
abbrev EdgeTimes := String → Option Instant

def boolText (flag : Bool) : String := if flag then "true" else "false"

def updatePersistence (threshold : Int) (now : Instant) (routeId : String) (modeledEdgeBps : Rat)
    (startedAt : EdgeTimes) : Rat × EdgeTimes :=
  if threshold ≤ modeledEdgeBps then
    let firstSeen := (startedAt routeId).getD now
    (totalSeconds (now - firstSeen), Function.update startedAt routeId (some firstSeen))
  else (0, Function.update startedAt routeId none)

def estimateGasUsdc (settings : Settings) (gasUnits : Int) : Rat :=
  let gasNative := gasUnits * settings.gasPriceGweiDefault * (1 / 1000000000)
  nearest 8 (gasNative * settings.gasTokenPriceUsdc)

def quoteMatches (tolerance amountIn : Rat) (answer : Except String Rat) : Bool :=
  match answer with
  | .ok back => if amountIn ≤ 0 then false else |(back - amountIn) / amountIn| ≤ tolerance
  | .error _ => false

def dexFeeStatus (poolState : PoolState) (configuredPoolFeeTier : Int) (mock : Bool) :
    FeeConfidence × String :=
  if mock then (.configOnly, "mock_config")
  else
    let poolFee := (poolState.poolFeeTier.map roundDown).getD 0
    if poolFee ≤ 0 then (.configOnly, "config_only")
    else if 0 < configuredPoolFeeTier ∧ poolFee ≠ configuredPoolFeeTier then
      (.unknown, "pool_fee_mismatch")
    else (.chainVerified, "chain_pool_fee")

def cexFeeStatusFromProvenance (provenance : String) : FeeConfidence :=
  let normalized := lower (strip provenance)
  if normalized = "fallback_only" then .fallbackOnly
  else if normalized = "config_only" then .configOnly
  else if normalized ∈ ["venue_declared", "symbol_override", "venue_default"] then .venueDeclared
  else if normalized ∈ ["acct_verified", "account_verified"] then .acctVerified
  else .unknown

/-- `min_fee_confidence` of two levels; the first of equals is kept. -/
def minFeeConfidence (first second : FeeConfidence) : FeeConfidence :=
  if second.rank < first.rank then second else first

def quoteSource (settings : Settings) : String :=
  if settings.useMockMarketData then "mock" else "real"

/-- What both engines write of an available quote. -/
structure EngineMetadata (metadata : Metadata) : Prop where
  fee : ∃ fee : FeeConfidence, metadata.lookup "fee_known_status" = some fee.text ∧
    metadata.lookup "fee_known" = some (boolText (fee ≠ .unknown))
  quoteMatch : ∃ status : QuoteMatch, status ≠ .unknown ∧
    metadata.lookup "quote_match_status" = some status.text
  support : metadata.lookup "support_status" = none
  available : metadata.lookup "quote_unavailable" = none
  source : ∃ settings : Settings, metadata.lookup "quote_source" = some (quoteSource settings)
  slippage : metadata.lookup "expected_slippage_bps" = none

theorem matchText (matched : Bool) :
    ∃ status : QuoteMatch, status ≠ .unknown ∧
      (some (if matched then "matched" else "mismatch") : Option String) = some status.text := by
  cases matched with
  | true => exact ⟨.matched, by decide, rfl⟩
  | false => exact ⟨.mismatch, by decide, rfl⟩

structure RouteQuote.Reports (quote : RouteQuote) (modeledEdgeBps rawEdgeBps persisted : Rat) :
    Prop where
  modeled : quote.modeledNetEdgeBps = modeledEdgeBps
  raw : quote.rawEdgeBps = rawEdgeBps
  persistedSeconds : quote.persistedSeconds = persisted
  metadata : EngineMetadata quote.metadata

/-! ### Two pools on one chain -/

namespace HyperDexDexQuoteEngine

structure Legs where
  adapterA : DexAdapter
  adapterB : DexAdapter
  outLeg1 : Rat
  outLeg2 : Rat
  gasUnits : Int

def quoteLegs (route : Route) (amountIn : Rat) (venueA venueB : Option DexAdapter) :
    Except String Legs := do
  let some adapterA := venueA | .error (keyError route.venueA)
  let some adapterB := venueB | .error (keyError route.venueB)
  if !adapterA.supported || !adapterB.supported then
    .error ("unsupported adapter route=" ++ route.name ++ " a=" ++ adapterA.supportReason ++
      " b=" ++ adapterB.supportReason)
  let outLeg1 ← adapterA.quoteExactInput "USDC" "USDT0" amountIn (some route.quoterFeeTierA)
    (some route.poolA)
  let outLeg2 ← adapterB.quoteExactInput "USDT0" "USDC" outLeg1 (some route.quoterFeeTierB)
    (some route.poolB)
  let gasUnitsA ← adapterA.estimateGas route.name
  let gasUnitsB ← adapterB.estimateGas route.name
  return { adapterA, adapterB, outLeg1, outLeg2, gasUnits := gasUnitsA + gasUnitsB }

def estimateDexFeeCost (amountIn : Rat) (feeABps feeBBps : Int) : Rat :=
  nearest 8 (amountIn * ((feeABps + feeBBps : Int) : Rat) / 10000)

def edge (settings : Settings) (route : Route) (amountIn : Rat) (legs : Legs) : EdgeResult :=
  ModeledEdgeCalculator.calculate settings amountIn legs.outLeg2
    (estimateDexFeeCost amountIn route.economicFeeBpsA route.economicFeeBpsB)
    (estimateGasUsdc settings legs.gasUnits)

def quoteMatchHyper (route : Route) (amountIn : Rat) (legs : Legs) : Bool :=
  quoteMatches (1 / 100) amountIn
    (legs.adapterA.quoteExactOutput "USDC" "USDT0" legs.outLeg1 (some route.quoterFeeTierA)
      (some route.poolA))

def report (settings : Settings) (route : Route) (amountIn : Rat) (legs : Legs)
    (quoteAge persisted : Rat) : Except String QuoteAnswer := do
  let poolHealthA ← legs.adapterA.isPoolHealthy route.poolA
  let poolHealthB ← legs.adapterB.isPoolHealthy route.poolB
  let poolStateA ← legs.adapterA.getPoolState route.poolA
  let poolStateB ← legs.adapterB.getPoolState route.poolB
  let liquidityA ← legs.adapterA.getLiquiditySnapshot route.poolA
  let liquidityB ← legs.adapterB.getLiquiditySnapshot route.poolB
  let matched := quoteMatchHyper route amountIn legs
  let feeA := dexFeeStatus poolStateA route.poolFeeTierA settings.useMockMarketData
  let feeB := dexFeeStatus poolStateB route.poolFeeTierB settings.useMockMarketData
  let feeKnownStatus := minFeeConfidence feeA.1 feeB.1
  let edge := edge settings route amountIn legs
  return {
    smallerPoolLiquidityUsdc := min liquidityA.liquidityUsd liquidityB.liquidityUsd
    quote :=
      { routeId := route.id, strategy := route.strategy, pair := route.pair
        direction := route.direction, initialAmount := amountIn, finalAmount := legs.outLeg2
        rawSpreadAmount := legs.outLeg2 - amountIn
        rawEdgeBps := toBps (legs.outLeg2 - amountIn) amountIn
        modeledNetEdgeAmount := edge.modeledNetEdgeAmount
        modeledNetEdgeBps := edge.modeledNetEdgeBps, expectedSlippageBps := 1
        gasCostUsdc := estimateGasUsdc settings legs.gasUnits, quoteAgeSeconds := quoteAge
        allCosts := edge.costBreakdown.total, persistedSeconds := persisted
        metadata :=
          [("pool_health", boolText (poolHealthA && poolHealthB)),
            ("venues", route.venueA ++ "->" ++ route.venueB),
            ("pool_fee_tier_a", toString route.poolFeeTierA),
            ("pool_fee_tier_b", toString route.poolFeeTierB),
            ("quoter_fee_tier_a", toString route.quoterFeeTierA),
            ("quoter_fee_tier_b", toString route.quoterFeeTierB),
            ("economic_fee_bps_a", toString route.economicFeeBpsA),
            ("economic_fee_bps_b", toString route.economicFeeBpsB),
            ("fee_known", boolText (feeKnownStatus ≠ .unknown)),
            ("fee_known_status", feeKnownStatus.text), ("fee_source", feeA.2),
            ("fee_provenance", feeA.2 ++ "|" ++ feeB.2), ("quote_match", boolText matched),
            ("quote_match_status", if matched then "matched" else "mismatch"),
            ("quote_source", quoteSource settings)] } }

def quoteRoute (settings : Settings) (route : Route) (amountIn : Rat) (modeProfile : RunMode)
    (venueA venueB : Option DexAdapter) (times : QuoteTimes) (startedAt : EdgeTimes) :
    Except String QuoteAnswer × EdgeTimes :=
  match quoteLegs route amountIn venueA venueB with
  | .error reason => (.error reason, startedAt)
  | .ok legs =>
      let threshold :=
        if modeProfile = .live then settings.liveMinNetEdgeBps else settings.shadowMinNetEdgeBps
      let persistence := updatePersistence threshold times.judged route.id
        (edge settings route amountIn legs).modeledNetEdgeBps startedAt
      (report settings route amountIn legs (totalSeconds (times.finish - times.start))
        persistence.1, persistence.2)

theorem report_returns {settings : Settings} {route : Route} {amountIn : Rat} {legs : Legs}
    {quoteAge persisted : Rat} {found : QuoteAnswer}
    (reported : report settings route amountIn legs quoteAge persisted = .ok found) :
    found.quote.Reports (edge settings route amountIn legs).modeledNetEdgeBps
      (toBps (legs.outLeg2 - amountIn) amountIn) persisted := by
  obtain ⟨poolHealthA, -, reported⟩ := Except.bind_ok reported
  obtain ⟨poolHealthB, -, reported⟩ := Except.bind_ok reported
  obtain ⟨poolStateA, -, reported⟩ := Except.bind_ok reported
  obtain ⟨poolStateB, -, reported⟩ := Except.bind_ok reported
  obtain ⟨liquidityA, -, reported⟩ := Except.bind_ok reported
  obtain ⟨liquidityB, -, reported⟩ := Except.bind_ok reported
  obtain rfl := Except.ok.inj reported
  exact ⟨rfl, rfl, rfl, ⟨_, rfl, rfl⟩, matchText _, rfl, rfl, ⟨settings, rfl⟩, rfl⟩

end HyperDexDexQuoteEngine

/-! ### An exchange against a pool -/

namespace ShadowCexDexQuoteEngine

structure Legs where
  dex : DexAdapter
  virtualAmount : Rat
  cexBid : Rat
  cexFeeBps : Int
  cexFeeProvenance : String
  gasUnits : Int

def Legs.expectedUsdc (legs : Legs) : Rat := legs.virtualAmount * legs.cexBid

def quoteLegs (route : Route) (amountInUsdc : Rat) (venueA : Option CexAdapter)
    (venueB : Option DexAdapter) : Except String Legs := do
  let some cex := venueA | .error (keyError route.venueA)
  let some dex := venueB | .error (keyError route.venueB)
  if !dex.supported then
    .error ("dex unsupported " ++ route.venueB ++ ": " ++ dex.supportReason)
  let status ← cex.getMarketStatus "VIRTUALUSDC"
  if status ≠ "trading" then
    .error ("cex market not trading: " ++ route.venueA ++ " status=" ++ status)
  let virtualAmount ← dex.quoteExactInput "USDC" "VIRTUAL" amountInUsdc none none
  let (cexBid, _) ← cex.getBestBidAsk "VIRTUALUSDC"
  let (cexFeeBps, cexFeeProvenance) ← cex.getTradingFeeDetails "VIRTUALUSDC" "sell" "taker"
  let gasUnits ← dex.estimateGas route.name
  return { dex, virtualAmount, cexBid, cexFeeBps, cexFeeProvenance, gasUnits }

def feeCost (route : Route) (amountInUsdc : Rat) (legs : Legs) : Rat :=
  legs.expectedUsdc * legs.cexFeeBps / 10000 + amountInUsdc * route.economicFeeBpsB / 10000

def edge (settings : Settings) (route : Route) (amountInUsdc : Rat) (legs : Legs) : EdgeResult :=
  ModeledEdgeCalculator.calculate settings amountInUsdc legs.expectedUsdc
    (feeCost route amountInUsdc legs) (estimateGasUsdc settings legs.gasUnits)

def quoteMatchShadow (route : Route) (amountInUsdc : Rat) (legs : Legs) : Bool :=
  quoteMatches (2 / 100) amountInUsdc
    (legs.dex.quoteExactOutput "USDC" "VIRTUAL" legs.virtualAmount (some route.quoterFeeTierB)
      (some route.poolB))

def report (settings : Settings) (route : Route) (amountInUsdc : Rat) (legs : Legs)
    (quoteAge persisted : Rat) : Except String QuoteAnswer := do
  let poolHealth ← legs.dex.isPoolHealthy route.poolB
  let poolLiquidity ← legs.dex.getLiquiditySnapshot route.poolB
  let poolState ← legs.dex.getPoolState route.poolB
  let matched := quoteMatchShadow route amountInUsdc legs
  let dexFee := dexFeeStatus poolState route.poolFeeTierB settings.useMockMarketData
  let feeKnownStatus :=
    minFeeConfidence (cexFeeStatusFromProvenance legs.cexFeeProvenance) dexFee.1
  let edge := edge settings route amountInUsdc legs
  return {
    smallerPoolLiquidityUsdc := poolLiquidity.liquidityUsd
    quote :=
      { routeId := route.id, strategy := route.strategy, pair := route.pair
        direction := route.direction, initialAmount := amountInUsdc
        finalAmount := legs.expectedUsdc, rawSpreadAmount := legs.expectedUsdc - amountInUsdc
        rawEdgeBps := toBps (legs.expectedUsdc - amountInUsdc) amountInUsdc
        modeledNetEdgeAmount := edge.modeledNetEdgeAmount
        modeledNetEdgeBps := edge.modeledNetEdgeBps, expectedSlippageBps := 5
        gasCostUsdc := estimateGasUsdc settings legs.gasUnits, quoteAgeSeconds := quoteAge
        allCosts := edge.costBreakdown.total, persistedSeconds := persisted
        metadata :=
          [("pool_health", boolText poolHealth),
            ("venues", route.venueA ++ "->" ++ route.venueB),
            ("pool_fee_tier_b", toString route.poolFeeTierB),
            ("quoter_fee_tier_b", toString route.quoterFeeTierB),
            ("economic_fee_bps_b", toString route.economicFeeBpsB),
            ("fee_known", boolText (feeKnownStatus ≠ .unknown)),
            ("fee_known_status", feeKnownStatus.text), ("fee_source", legs.cexFeeProvenance),
            ("fee_provenance", "cex:" ++ legs.cexFeeProvenance ++ "|dex:" ++ dexFee.2),
            ("quote_match", boolText matched),
            ("quote_match_status", if matched then "matched" else "mismatch"),
            ("quote_source", quoteSource settings),
            ("cex_fee_bps", toString legs.cexFeeBps)] } }

def quoteRoute (settings : Settings) (route : Route) (amountInUsdc : Rat)
    (venueA : Option CexAdapter) (venueB : Option DexAdapter) (times : QuoteTimes)
    (startedAt : EdgeTimes) : Except String QuoteAnswer × EdgeTimes :=
  match quoteLegs route amountInUsdc venueA venueB with
  | .error reason => (.error reason, startedAt)
  | .ok legs =>
      let persistence := updatePersistence settings.shadowMinNetEdgeBps times.judged route.id
        (edge settings route amountInUsdc legs).modeledNetEdgeBps startedAt
      (report settings route amountInUsdc legs (totalSeconds (times.finish - times.start))
        persistence.1, persistence.2)

theorem report_returns {settings : Settings} {route : Route} {amountIn : Rat} {legs : Legs}
    {quoteAge persisted : Rat} {found : QuoteAnswer}
    (reported : report settings route amountIn legs quoteAge persisted = .ok found) :
    found.quote.Reports (edge settings route amountIn legs).modeledNetEdgeBps
      (toBps (legs.expectedUsdc - amountIn) amountIn) persisted := by
  obtain ⟨poolHealth, -, reported⟩ := Except.bind_ok reported
  obtain ⟨poolLiquidity, -, reported⟩ := Except.bind_ok reported
  obtain ⟨poolState, -, reported⟩ := Except.bind_ok reported
  obtain rfl := Except.ok.inj reported
  exact ⟨rfl, rfl, rfl, ⟨_, rfl, rfl⟩, matchText _, rfl, rfl, ⟨settings, rfl⟩, rfl⟩

end ShadowCexDexQuoteEngine

/-! ### Available quotes -/

inductive AvailableQuote (settings : Settings) (route : Route) : QuoteAnswer → Prop
  | hyper {amountIn : Rat} {modeProfile : RunMode} {venueA venueB : Option DexAdapter}
      {times : QuoteTimes} {startedAt : EdgeTimes} {found : QuoteAnswer} :
      (HyperDexDexQuoteEngine.quoteRoute settings route amountIn modeProfile venueA venueB times
        startedAt).1 = .ok found →
      AvailableQuote settings route found
  | shadow {amountInUsdc : Rat} {venueA : Option CexAdapter} {venueB : Option DexAdapter}
      {times : QuoteTimes} {startedAt : EdgeTimes} {found : QuoteAnswer} :
      (ShadowCexDexQuoteEngine.quoteRoute settings route amountInUsdc venueA venueB times
        startedAt).1 = .ok found →
      AvailableQuote settings route found

theorem AvailableQuote.metadata {settings : Settings} {route : Route} {found : QuoteAnswer}
    (available : AvailableQuote settings route found) : EngineMetadata found.quote.metadata := by
  cases available with
  | @hyper amountIn modeProfile venueA venueB times startedAt _ quoted =>
      unfold HyperDexDexQuoteEngine.quoteRoute at quoted
      split at quoted
      · cases quoted
      · exact (HyperDexDexQuoteEngine.report_returns quoted).metadata
  | @shadow amountInUsdc venueA venueB times startedAt _ quoted =>
      unfold ShadowCexDexQuoteEngine.quoteRoute at quoted
      split at quoted
      · cases quoted
      · exact (ShadowCexDexQuoteEngine.report_returns quoted).metadata

/-! ### Round trips that gain four per cent -/

namespace Sample

def dex : DexAdapter :=
  { supported := true, supportReason := ""
    quoteExactInput := fun _ _ amountIn _ _ => .ok (amountIn * (51 / 50))
    quoteExactOutput := fun _ _ amountOut _ _ => .ok (amountOut * (50 / 51))
    estimateGas := fun _ => .ok 200000
    getPoolState := fun _ => .ok { poolFeeTier := some 5 }
    getLiquiditySnapshot := fun _ => .ok { liquidityUsd := 1000000 }
    isPoolHealthy := fun _ => .ok true }

def cex : CexAdapter :=
  { getMarketStatus := fun _ => .ok "trading"
    getBestBidAsk := fun _ => .ok (51 / 50, 26 / 25)
    getTradingFeeDetails := fun _ _ _ => .ok (10, "fallback_only") }

/-- The edge has stood for a minute. -/
def quoteTimes : QuoteTimes := { start := 60000000, finish := 60000000, judged := 60000000 }

def tradingAnswers (settings : Settings) : ScanAnswers :=
  { answers with
    quote := (HyperDexDexQuoteEngine.quoteRoute settings route 100 .paper (some dex) (some dex)
      quoteTimes fun _ => some 0).1 }

def shadowRoute : Route :=
  { route with
    strategy := "base_virtual_shadow", name := "bybit_vs_uniswap_base", pair := "VIRTUAL/USDC"
    direction := "dex_to_cex", venueA := "bybit", venueB := "uniswap_v3_base", routerA := "bybit"
    routerB := "uniswap_v3_base", isLiveAllowed := false }

def shadowAnswers (settings : Settings) : ScanAnswers :=
  { answers with
    quote := (ShadowCexDexQuoteEngine.quoteRoute settings shadowRoute 100 (some cex) (some dex)
      quoteTimes fun _ => some 0).1 }

end Sample

end ArbitrageBot
