/-
The two replay loops: the totals after each row, the health rows that the
snapshot loop walks through beside its rows, and the outcome that is stored.
-/

import Mathlib.Data.List.Sort
import ArbitrageBot.Backtest.Verdict
import ArbitrageBot.Library.RunningRisk
import ArbitrageBot.Library.Tally

namespace ArbitrageBot

open PythonDecimal PythonJson RunningRisk Tally

structure BacktestTrade where
  backtestRunId : String
  routeId : String
  timestamp : Instant
  status : String
  blockedReason : String
  modeledEdgeBps : Decimal
  expectedPnl : Decimal
  simulatedPnl : Decimal
  metadata : JsonObject

/-- A row of `route_health_snapshots`, by what a replay reads of it. -/
structure RouteHealthRow where
  timestamp : Instant
  statuses : RouteHealth

/-- What the database keeps of a decimal in a column of the type, or the error where it refuses
it. -/
structure NumericColumns where
  decimal10_5 : Decimal → Except String Decimal
  decimal18_8 : Decimal → Except String Decimal

/-- The run and the route that every trade of a replay names, and the columns that keep it. -/
structure RunKey where
  runId : String
  routeId : String
  columns : NumericColumns

namespace BacktestEngine

/-! ### Totals -/

def Penalties.add (totals penalties : Penalties) : Except String Penalties := do
  let gas ← totals.gas.add penalties.gas
  let quoteDrift ← totals.quoteDrift.add penalties.quoteDrift
  let latency ← totals.latency.add penalties.latency
  let fallbackFee ← totals.fallbackFee.add penalties.fallbackFee
  let unverifiedFee ← totals.unverifiedFee.add penalties.unverifiedFee
  let unverifiedBalance ← totals.unverifiedBalance.add penalties.unverifiedBalance
  return { gas, quoteDrift, latency, fallbackFee, unverifiedFee, unverifiedBalance }

def decimalArithmetic : Arithmetic String Decimal :=
  { add := Decimal.add, sub := Decimal.sub, less := Decimal.isLess }

/-- The local variables of a loop, and the trades inserted so far. -/
structure Totals where
  eligibleCount : Nat := 0
  blockedCount : Nat := 0
  blockedReasons : Counts String := []
  feeDistribution : Counts String := []
  balanceDistribution : Counts String := []
  staleUnknownHealthEvents : Nat := 0
  penaltyTotals : Penalties := {}
  positiveFills : Nat := 0
  risk : Risk Decimal := .start
  modeledEdgeSum : Decimal := 0
  realizedLikeSum : Decimal := 0
  missed : Nat := 0
  trades : List BacktestTrade := []

/-- `insert_backtest_trade` of a row's outcome. -/
def RowOutcome.trade (key : RunKey) (outcome : RowOutcome) : Except String BacktestTrade := do
  let modeledEdgeBps ← key.columns.decimal10_5 outcome.modeledEdgeBps
  let expectedPnl ← key.columns.decimal18_8 outcome.expectedPnl
  let simulatedPnl ← key.columns.decimal18_8
    (outcome.verdict.elim (fun _ => 0) Fill.simulatedPnl)
  return {
    backtestRunId := key.runId
    routeId := key.routeId
    timestamp := outcome.timestamp
    status := outcome.verdict.elim (fun _ => "blocked") fun _ => "eligible"
    blockedReason := outcome.verdict.elim Refusal.blockedReason fun _ => ""
    modeledEdgeBps, expectedPnl, simulatedPnl
    metadata := outcome.metadata }

def Totals.block (totals : Totals) (refusal : Refusal) (wasEligible : Bool) : Totals :=
  { totals with
    blockedCount := totals.blockedCount + 1
    blockedReasons := bump refusal.blockedReason totals.blockedReasons
    staleUnknownHealthEvents :=
      if refusal.quoteUnknown then totals.staleUnknownHealthEvents + 1
      else totals.staleUnknownHealthEvents
    missed := if wasEligible then totals.missed + 1 else totals.missed }

def Totals.fill (totals : Totals) (fill : Fill) (modeledEdgeBps : Decimal) :
    Except String Totals := do
  let penaltyTotals ← totals.penaltyTotals.add fill.charges.penalties
  let gain ← Decimal.isLess 0 fill.simulatedPnl
  let modeledEdgeSum ← totals.modeledEdgeSum.add modeledEdgeBps
  let realizedLikeSum ← totals.realizedLikeSum.add fill.simulatedPnl
  let risk ← totals.risk.add decimalArithmetic fill.simulatedPnl
  return { totals with
    eligibleCount := totals.eligibleCount + 1
    positiveFills := if gain then totals.positiveFills + 1 else totals.positiveFills
    penaltyTotals, modeledEdgeSum, realizedLikeSum, risk }

def Totals.counted (totals : Totals) (outcome : RowOutcome) : Totals :=
  { totals with
    feeDistribution := bump outcome.feeStatus.text totals.feeDistribution
    balanceDistribution := bump outcome.balanceStatus.text totals.balanceDistribution }

def Totals.judged (totals : Totals) (outcome : RowOutcome) : Except String Totals :=
  match outcome.verdict with
  | .inl refusal => .ok (totals.block refusal outcome.wasEligible)
  | .inr fill => totals.fill fill outcome.modeledEdgeBps

/-- The rest of both loop bodies, the inserted trade last. -/
def Totals.record (key : RunKey) (totals : Totals) (outcome : RowOutcome) :
    Except String Totals := do
  let judged ← (totals.counted outcome).judged outcome
  let trade ← outcome.trade key
  return { judged with trades := judged.trades ++ [trade] }

structure ReplayOutcome where
  signals : Nat
  eligibleCount : Nat
  blockedCount : Nat
  blockedReasons : Counts String
  simulatedPnl : Decimal
  hitRate : Decimal
  avgModeledEdgeBps : Decimal
  avgRealizedLikePnl : Decimal
  maxDrawdown : Decimal
  worstSequence : Nat
  missedOpportunities : Nat
  feeConfidenceDistribution : Counts String
  balanceConfidenceDistribution : Counts String
  staleUnknownHealthEventCount : Nat
  penaltyTotals : Penalties

def finalizeOutcome (signals : Nat) (totals : Totals) : Except String ReplayOutcome := do
  let average (sum : Decimal) : Except String Decimal :=
    if 0 < totals.eligibleCount then sum.div (.ofNat totals.eligibleCount) else .ok 0
  let hitRate ← average (.ofNat totals.positiveFills)
  let avgModeledEdgeBps ← average totals.modeledEdgeSum
  let avgRealizedLikePnl ← average totals.realizedLikeSum
  return {
    signals := signals
    eligibleCount := totals.eligibleCount
    blockedCount := totals.blockedCount
    blockedReasons := totals.blockedReasons
    simulatedPnl := totals.risk.cumulative
    hitRate, avgModeledEdgeBps, avgRealizedLikePnl
    maxDrawdown := totals.risk.maxDrawdown
    worstSequence := totals.risk.worstSequence
    missedOpportunities := totals.missed
    feeConfidenceDistribution := totals.feeDistribution
    balanceConfidenceDistribution := totals.balanceDistribution
    staleUnknownHealthEventCount := totals.staleUnknownHealthEvents
    penaltyTotals := totals.penaltyTotals }

/-! ### The loops -/

abbrev Finished := ReplayOutcome × List BacktestTrade

def evaluateOpportunityRows (key : RunKey) (rows : List OpportunityRow) (params : JsonObject)
    (legacySupportFallback : Bool) : Except String Finished := do
  let gates ← Gates.read params
  let totals ← rows.foldlM (fun totals row => do
    let outcome ← opportunityOutcome gates params legacySupportFallback row
    totals.record key outcome) ({} : Totals)
  let report ← finalizeOutcome rows.length totals
  return (report, totals.trades)

/-- `current_health` and the ordered rows from `health_ptr` on. -/
structure HealthCursor where
  current : Option RouteHealthRow
  ahead : List RouteHealthRow

/-- The inner `while` loop, up to the row at `timestamp`. -/
def HealthCursor.advance (timestamp : Instant) (current : Option RouteHealthRow) :
    List RouteHealthRow → HealthCursor
  | [] => { current := current, ahead := [] }
  | next :: rest =>
      if next.timestamp ≤ timestamp then advance timestamp (some next) rest
      else { current := current, ahead := next :: rest }

def evaluateMarketSnapshotRows (key : RunKey) (rows : List MarketSnapshot)
    (healthRows : List RouteHealthRow) (params : JsonObject) : Except String Finished := do
  let candidateRows := rows.filter fun row => row.context = "leg_b"
  let gates ← Gates.read params
  let defaults ← SnapshotDefaults.read params
  let orderedHealth := healthRows.insertionSort fun first second =>
    first.timestamp ≤ second.timestamp
  let start : Totals × HealthCursor := ({}, { current := none, ahead := orderedHealth })
  let (totals, _) ← candidateRows.foldlM (fun (totals, cursor) row => do
    let cursor := HealthCursor.advance row.timestamp cursor.current cursor.ahead
    let outcome ← snapshotOutcome gates defaults params row
      (cursor.current.map RouteHealthRow.statuses)
    let recorded ← totals.record key outcome
    return (recorded, cursor)) start
  let report ← finalizeOutcome candidateRows.length totals
  return (report, totals.trades)

end BacktestEngine

end ArbitrageBot
