/-
How a replay judges one row: the gates read from the parameters, the statuses
read from the row, the two guard cascades, and the fill of an eligible row.
Amounts are decimals, whose arithmetic and comparisons may raise.
-/

import ArbitrageBot.Library.GuardChain
import ArbitrageBot.Library.PythonJson
import ArbitrageBot.Readiness.Readiness

namespace ArbitrageBot

open Fallible GuardChain PythonDecimal PythonDecimal.Decimal PythonJson PythonText

/-- The columns of `opportunities` that a replay reads; the payload is parsed. -/
structure OpportunityRow where
  timestamp : Instant
  status : String
  modeledEdgeBps : Decimal
  expectedPnlAbs : Decimal
  expectedSlippageBps : Decimal
  gasEstimateUsdc : Decimal
  quoteAgeSeconds : Decimal
  payload : JsonObject

/-- The columns of `market_snapshots` that a replay reads; the metadata is parsed. -/
structure MarketSnapshot where
  timestamp : Instant
  context : String
  amountIn : Decimal
  quotedAmountOut : Decimal
  liquidityUsd : Decimal
  quoteAgeSeconds : Decimal
  metadata : JsonObject

namespace BacktestEngine

/-- `_safe_json` over the parser `loads`, which is `none` where `json.loads` raises. -/
def safeJson (loads : String → Option JsonDocument) (raw : String) : JsonObject :=
  match loads raw with
  | some (.object entries) => entries
  | some .other | none => []

def tenThousand : Decimal := .finite 10000

def toBps (numerator denominator : Decimal) : Except String Decimal := do
  if ← denominator.isAtMost 0 then return 0
  else
    let ratio ← numerator.div denominator
    ratio.mul tenThousand

/-! ### Parameters -/

/-- The thresholds that both loops read before their first row. -/
structure Gates where
  minEdge : Decimal
  maxSlippage : Decimal
  maxQuoteAge : Decimal
  liquidityCapRatio : Decimal
deriving DecidableEq

def Gates.read (params : JsonObject) : Except String Gates := do
  let minEdge ← (params.getD "min_modeled_edge_bps" (.number "0")).decimal
  let maxSlippage ← (params.getD "max_slippage_bps" (.number "9999")).decimal
  let maxQuoteAge ← (params.getD "max_quote_age_seconds" (.number "9999")).decimal
  let liquidityCapRatio ← (params.getD "liquidity_cap_ratio" (.text "1")).decimal
  return { minEdge, maxSlippage, maxQuoteAge, liquidityCapRatio }

def minFeeConfidence (params : JsonObject) : FeeConfidence :=
  normalizeFeeConfidence
    (some (params.getD "min_fee_confidence_status" (.text "fallback_only")).str) none

def minBalanceConfidence (params : JsonObject) : BalanceConfidence :=
  normalizeBalanceConfidence
    (some (params.getD "min_balance_confidence_status" (.text "internal_ok")).str) none

/-! ### Statuses -/

structure Statuses where
  fee : FeeConfidence
  balance : BalanceConfidence
  quoteMatch : QuoteMatch
  support : SupportStatus
  quoteUnavailable : Bool

/-- `normalize_fee_confidence` of two values; a canonical first one is returned before the
hint is looked at. -/
def readFeeConfidence (raw hint : Option JsonValue) : Except String FeeConfidence := do
  let value ← optionalText raw
  if (FeeConfidence.ofText? (norm value)).isSome then return normalizeFeeConfidence value none
  else
    let provenance ← optionalText hint
    return normalizeFeeConfidence value provenance

def readBalanceConfidence (raw hint : Option JsonValue) : Except String BalanceConfidence := do
  let value ← optionalText raw
  if (BalanceConfidence.ofText? (norm value)).isSome then
    return normalizeBalanceConfidence value none
  else
    let evidence ← optionalText hint
    return normalizeBalanceConfidence value evidence

def readQuoteMatchStatus (raw : Option JsonValue) : Except String QuoteMatch := do
  let value ← optionalText raw
  return normalizeQuoteMatchStatus value

def readSupportStatus (raw : Option JsonValue) : Except String SupportStatus := do
  let value ← optionalText raw
  return normalizeSupportStatus value

def isTrue (value : JsonValue) : Bool := lower value.str = "true"

/-- The statuses that a payload carries by itself, in both modes. -/
def payloadStatuses (payload : JsonObject) : Except String Statuses := do
  let fee ← readFeeConfidence (payload.get? "fee_known_status")
    (orElse (payload.get? "fee_provenance") (payload.get? "fee_source"))
  let balance ← readBalanceConfidence (payload.get? "balance_match_status")
    (payload.get? "balance_failure_reason")
  let quoteMatch ← readQuoteMatchStatus (payload.get? "quote_match_status")
  let support ← readSupportStatus (payload.get? "support_status")
  return {
    fee, balance, quoteMatch, support
    quoteUnavailable := isTrue (payload.getD "quote_unavailable" (.text "false")) }

/-- What `_recompute_blocked_reason` makes of them, with the legacy keys of old payloads. -/
def opportunityStatuses (payload : JsonObject) (legacySupportFallback : Bool) :
    Except String Statuses := do
  let read ← payloadStatuses payload
  let feeKnown := isTrue (payload.getD "fee_known" (.text "unknown"))
  let quoteMatch ←
    if read.quoteMatch = .unknown then readQuoteMatchStatus (payload.get? "quote_match")
    else .ok read.quoteMatch
  return { read with
    fee := if read.fee = .unknown ∧ feeKnown = true then .configOnly else read.fee
    quoteMatch := quoteMatch
    support :=
      if legacySupportFallback = true ∧ read.support = .unknown ∧ read.quoteUnavailable = false then
        .supported
      else read.support }

/-- What is unknown is filled in from the current health row, whose support status wins. -/
def Statuses.withHealth (read : Statuses) (health : RouteHealth) : Statuses :=
  let healthSupport := normalizeSupportStatus health.supportStatus
  { read with
    fee :=
      if read.fee = .unknown then normalizeFeeConfidence health.feeKnownStatus none else read.fee
    balance :=
      if read.balance = .unknown then normalizeBalanceConfidence health.balanceMatchStatus none
      else read.balance
    quoteMatch :=
      if read.quoteMatch = .unknown then normalizeQuoteMatchStatus health.quoteMatchStatus
      else read.quoteMatch
    support :=
      if healthSupport ≠ .unknown ∨ read.support = .unknown then healthSupport else read.support }

/-- An unavailable quote of unknown support counts as unsupported. -/
def Statuses.settleSupport (read : Statuses) : Statuses :=
  if read.quoteUnavailable = true ∧ read.support = .unknown then
    { read with support := .unsupported }
  else read

def snapshotStatuses (metadata : JsonObject) (health : Option RouteHealth) :
    Except String Statuses := do
  let read ← payloadStatuses metadata
  return (health.elim read read.withHealth).settleSupport

/-! ### Snapshots -/

/-- What `_evaluate_market_snapshot_rows` reads before its loop, besides the gates. -/
structure SnapshotDefaults where
  gasCost : Decimal
  slippage : Decimal

def SnapshotDefaults.read (params : JsonObject) : Except String SnapshotDefaults := do
  let gasCost ← (params.getD "default_gas_cost_usdc" (.text "0.01")).decimal
  let slippage ← (params.getD "default_slippage_bps" (.text "5")).decimal
  return { gasCost, slippage }

/-- An amount in the metadata, else the one that stands beside it. -/
def metadataAmount (metadata : JsonObject) (key : String) (fallback : Decimal) :
    Except String Decimal :=
  match metadata.get? key with
  | some value => value.decimal
  | none => .ok fallback

/-- What one pass of the snapshot loop reads before its guards. -/
structure SnapshotReading where
  initialAmount : Decimal
  expectedPnl : Decimal
  modeledEdgeBps : Decimal
  slippageBps : Decimal
  smallerLiquidity : Decimal
  statuses : Statuses

def readSnapshot (defaults : SnapshotDefaults) (row : MarketSnapshot)
    (health : Option RouteHealth) : Except String SnapshotReading := do
  let readAmount ← metadataAmount row.metadata "initial_amount" row.amountIn
  let finalAmount ← metadataAmount row.metadata "final_amount" row.quotedAmountOut
  let empty ← readAmount.isAtMost 0
  let initialAmount := if empty then 0 else readAmount
  let expectedPnl ← finalAmount.sub initialAmount
  let modeledEdgeBps ← toBps expectedPnl initialAmount
  let slippageBps ← metadataAmount row.metadata "expected_slippage_bps" defaults.slippage
  let smallerLiquidity ←
    metadataAmount row.metadata "smaller_pool_liquidity_usdc" row.liquidityUsd
  let statuses ← snapshotStatuses row.metadata health
  return { initialAmount, expectedPnl, modeledEdgeBps, slippageBps, smallerLiquidity, statuses }

/-! ### Guards -/

/-- Why a row is blocked, and whether `_recompute_blocked_reason` reports it as unknown. -/
structure Refusal where
  blockedReason : String
  quoteUnknown : Bool
deriving DecidableEq

def guard (passes : Bool) (blockedReason : String) (quoteUnknown : Bool) : Guard Unit Refusal :=
  { check := (), passes := passes, reason := { blockedReason, quoteUnknown } }

def mismatchReason (payload : JsonObject) : String :=
  if lower (strip (payload.getD "balance_failure_reason" (.text "")).str) =
      "wallet_balance_mismatch" then
    "wallet_balance_mismatch"
  else "inventory_drift"

section Guards

variable (read : Statuses) (params payload : JsonObject)

def supportGuards : List (Guard Unit Refusal) :=
  [ guard (!read.quoteUnavailable && read.support ≠ .unsupported) "quote_unavailable" true,
    guard (read.support ≠ .unknown) "health_unknown" true ]

def feeGuards : List (Guard Unit Refusal) :=
  [ guard (read.fee ≠ .unknown) "fee_unknown" true,
    guard (feeConfidenceAtLeast read.fee (minFeeConfidence params)) "fee_unverified" false ]

def quoteMatchGuards : List (Guard Unit Refusal) :=
  [ guard (read.quoteMatch ≠ .unknown) "health_unknown" true,
    guard (read.quoteMatch = .matched) "quote_mismatch" false ]

def balanceGuards : List (Guard Unit Refusal) :=
  [ guard (read.balance ≠ .unknown) "balance_unverified" true,
    guard (read.balance ≠ .mismatch) (mismatchReason payload) false,
    guard (balanceConfidenceAtLeast read.balance (minBalanceConfidence params))
      "balance_unverified" false ]

/-- The guards of `_recompute_blocked_reason` that look at statuses. -/
def opportunityGuards : List (Guard Unit Refusal) :=
  supportGuards read ++ feeGuards read params ++ quoteMatchGuards read ++
    balanceGuards read params payload

/-- Those of `_evaluate_market_snapshot_rows`: balance before quote match. -/
def snapshotGuards : List (Guard Unit Refusal) :=
  supportGuards read ++ feeGuards read params ++ balanceGuards read params payload ++
    quoteMatchGuards read

end Guards

def refuseStatuses (guards : List (Guard Unit Refusal)) : Except String (Option Refusal) :=
  .ok ((firstFailure guards).map Guard.reason)

/-! ### Checks of amounts -/

def thresholdChecks (gates : Gates) (modeledEdgeBps slippageBps quoteAge : Decimal) :
    List (Except String (Option Refusal)) :=
  [ refuseIf (modeledEdgeBps.isLess gates.minEdge) ⟨"below_threshold", false⟩,
    refuseIf (gates.maxSlippage.isLess slippageBps) ⟨"slippage_too_high", false⟩,
    refuseIf (gates.maxQuoteAge.isLess quoteAge) ⟨"stale_quote", false⟩ ]

/-- The end of `_recompute_blocked_reason`, which reads the amounts of the payload. -/
def refuseAmounts (payload : JsonObject) (gates : Gates) : Except String (Option Refusal) := do
  let amountIn ← (payload.getD "initial_amount" (.text "0")).decimal
  if ← amountIn.isAtMost 0 then return some ⟨"health_unknown", true⟩
  else
    let liquidity ← (payload.getD "smaller_pool_liquidity_usdc" (.text "0")).decimal
    if ← liquidity.isAtMost 0 then return some ⟨"liquidity_unavailable", false⟩
    else
      let share ← amountIn.div liquidity
      if ← gates.liquidityCapRatio.isLess share then return some ⟨"pool_share_too_large", false⟩
      else return none

/-- The last two guards of `_evaluate_market_snapshot_rows`, with no lower bound on the amount. -/
def refusePool (reading : SnapshotReading) (gates : Gates) : Except String (Option Refusal) := do
  if ← reading.smallerLiquidity.isAtMost 0 then return some ⟨"liquidity_unavailable", false⟩
  else if ← Decimal.isLess 0 reading.initialAmount then
    let share ← reading.initialAmount.div reading.smallerLiquidity
    if ← gates.liquidityCapRatio.isLess share then return some ⟨"pool_share_too_large", false⟩
    else return none
  else return none

def opportunityChecks (read : Statuses) (params : JsonObject) (gates : Gates)
    (row : OpportunityRow) : List (Except String (Option Refusal)) :=
  refuseStatuses (opportunityGuards read params row.payload) ::
    thresholdChecks gates row.modeledEdgeBps row.expectedSlippageBps row.quoteAgeSeconds ++
    [refuseAmounts row.payload gates]

def snapshotChecks (params : JsonObject) (gates : Gates) (reading : SnapshotReading)
    (row : MarketSnapshot) : List (Except String (Option Refusal)) :=
  refuseStatuses (snapshotGuards reading.statuses params row.metadata) ::
    thresholdChecks gates reading.modeledEdgeBps reading.slippageBps row.quoteAgeSeconds ++
    [refusePool reading gates]

/-! ### Penalties -/

structure Penalties where
  gas : Decimal := 0
  quoteDrift : Decimal := 0
  latency : Decimal := 0
  fallbackFee : Decimal := 0
  unverifiedFee : Decimal := 0
  unverifiedBalance : Decimal := 0

def Penalties.total (penalties : Penalties) : Except String Decimal := do
  let sum ← penalties.gas.add penalties.quoteDrift
  let sum ← sum.add penalties.latency
  let sum ← sum.add penalties.fallbackFee
  let sum ← sum.add penalties.unverifiedFee
  sum.add penalties.unverifiedBalance

structure Charges where
  penalties : Penalties
  total : Decimal
  totalled : penalties.total = .ok total

/-- `max` of two: the later one only where it is greater. -/
def larger (first second : Decimal) : Except String Decimal := do
  if ← first.isLess second then return second else return first

def baseAmount (initialAmount baseExpected : Decimal) : Except String Decimal := do
  let initial ← initialAmount.abs
  let expected ← baseExpected.abs
  let largest ← larger initial expected
  larger largest 0

/-- One penalty, whose parameter is read only where it applies. -/
def penalty (params : JsonObject) (baseAmount : Decimal) (key : String) (applies : Bool) :
    Except String Decimal :=
  if applies then do
    let bps ← (params.getD key (.number "0")).decimal
    let product ← baseAmount.mul bps
    product.div tenThousand
  else .ok 0

def computePenalties (initialAmount baseExpected : Decimal) (feeStatus : FeeConfidence)
    (balanceStatus : BalanceConfidence) (params : JsonObject) : Except String Charges := do
  let baseAmount ← baseAmount initialAmount baseExpected
  let gas ← penalty params baseAmount "gas_penalty_bps" true
  let quoteDrift ← penalty params baseAmount "quote_drift_buffer_bps" true
  let latency ← penalty params baseAmount "latency_penalty_bps" true
  let fallbackFee ← penalty params baseAmount "fallback_fee_penalty_bps"
    (feeStatus = .fallbackOnly)
  let unverifiedFee ← penalty params baseAmount "unverified_fee_penalty_bps"
    (feeStatus ∈ [.fallbackOnly, .configOnly])
  let unverifiedBalance ← penalty params baseAmount "unverified_balance_penalty_bps"
    (balanceStatus ∈ [.unknown, .internalOk, .dbInventoryOk])
  let penalties : Penalties :=
    { gas, quoteDrift, latency, fallbackFee, unverifiedFee, unverifiedBalance }
  let ⟨total, totalled⟩ ← certified penalties.total
  return { penalties, total, totalled }

/-! ### Outcomes -/

def earnings (expected total gasCost : Decimal) : Except String Decimal := do
  let net ← expected.sub total
  net.sub gasCost

structure Fill where
  expected : Decimal
  gasCost : Decimal
  charges : Charges
  simulatedPnl : Decimal
  earned : earnings expected charges.total gasCost = .ok simulatedPnl

def fillOf (expected gasCost : Decimal) (charges : Charges) : Except String Fill := do
  let ⟨simulatedPnl, earned⟩ ← certified (earnings expected charges.total gasCost)
  return { expected, gasCost, charges, simulatedPnl, earned }

/-- The verdict on one row; its trade is recorded either way. -/
structure RowOutcome where
  timestamp : Instant
  feeStatus : FeeConfidence
  balanceStatus : BalanceConfidence
  modeledEdgeBps : Decimal
  expectedPnl : Decimal
  metadata : JsonObject
  /-- The row had been stored as eligible. -/
  wasEligible : Bool
  verdict : Refusal ⊕ Fill

/-- `_recompute_blocked_reason`, with the statuses that it returns. -/
def recomputeBlockedReason (row : OpportunityRow) (gates : Gates) (params : JsonObject)
    (legacySupportFallback : Bool) : Except String (Option Refusal × Statuses) := do
  let read ← opportunityStatuses row.payload legacySupportFallback
  let refusal ← firstRefusal (opportunityChecks read params gates row)
  return (refusal, read)

/-- The body of the loop of `_evaluate_opportunity_rows`, up to the totals. -/
def opportunityOutcome (gates : Gates) (params : JsonObject) (legacySupportFallback : Bool)
    (row : OpportunityRow) : Except String RowOutcome := do
  let (refusal, read) ← recomputeBlockedReason row gates params legacySupportFallback
  let outcome (verdict : Refusal ⊕ Fill) : RowOutcome :=
    { timestamp := row.timestamp, feeStatus := read.fee, balanceStatus := read.balance
      modeledEdgeBps := row.modeledEdgeBps, expectedPnl := row.expectedPnlAbs
      metadata := row.payload, wasEligible := row.status = "eligible", verdict }
  match refusal with
  | some refusal => return outcome (.inl refusal)
  | none =>
    let initialAmount ← (row.payload.getD "initial_amount" (.text "0")).decimal
    let charges ← computePenalties initialAmount row.expectedPnlAbs read.fee read.balance params
    let fill ← fillOf row.expectedPnlAbs row.gasEstimateUsdc charges
    return outcome (.inr fill)

/-- The body of the loop of `_evaluate_market_snapshot_rows`, up to the totals. -/
def snapshotOutcome (gates : Gates) (defaults : SnapshotDefaults) (params : JsonObject)
    (row : MarketSnapshot) (health : Option RouteHealth) : Except String RowOutcome := do
  let reading ← readSnapshot defaults row health
  let refusal ← firstRefusal (snapshotChecks params gates reading row)
  let outcome (verdict : Refusal ⊕ Fill) : RowOutcome :=
    { timestamp := row.timestamp, feeStatus := reading.statuses.fee
      balanceStatus := reading.statuses.balance, modeledEdgeBps := reading.modeledEdgeBps
      expectedPnl := reading.expectedPnl
      metadata := row.metadata.filter (fun entry => entry.1 ≠ "replay_mode") ++
        [("replay_mode", .text "market_snapshots")]
      wasEligible := false, verdict }
  match refusal with
  | some refusal =>
    return outcome (.inl { refusal with
      quoteUnknown := refusal.blockedReason ∈ ["health_unknown", "quote_unavailable"] })
  | none =>
    let charges ← computePenalties reading.initialAmount reading.expectedPnl
      reading.statuses.fee reading.statuses.balance params
    let gasCost ← metadataAmount row.metadata "gas_cost_usdc" defaults.gasCost
    let fill ← fillOf reading.expectedPnl gasCost charges
    return outcome (.inr fill)

end BacktestEngine

end ArbitrageBot
