/-
Time, run modes and the settings that the modelled code reads, with the
defaults the source ships.
-/

import Mathlib.Data.Rat.Defs
import Mathlib.Algebra.Order.Field.Rat
import ArbitrageBot.Confidence
import ArbitrageBot.Library.DecimalRounding

namespace ArbitrageBot

/-- UTC microseconds: the resolution of the source's timestamps. -/
abbrev Instant := Int

def seconds (count : Int) : Int := count * 1000000

def minutes (count : Int) : Int := seconds (count * 60)

def totalSeconds (span : Int) : Rat := span / 1000000

def date (time : Instant) : Int := time / seconds 86400

theorem date_mono {earlier later : Instant} (ordered : earlier ≤ later) :
    date earlier ≤ date later :=
  Int.ediv_le_ediv (by decide) ordered

inductive RunMode
  | stopped | paper | live
deriving DecidableEq, Repr

def RunMode.value : RunMode → String
  | .stopped => "stopped"
  | .paper => "paper"
  | .live => "live"

structure Settings where
  mode : RunMode := .paper
  liveEnableFlag : Bool := false
  liveExecutionEnabled : Bool := false
  liveConfirmationToken : String := "DISABLED"
  allowLiveWithoutToken : Bool := false
  globalKillSwitch : Bool := false
  allowlistedRouters : String := "0x0000000000000000000000000000000000000010"
  liveMinNetEdgeBps : Int := 30
  liveMinEdgePersistSeconds : Int := 8
  liveMaxSlippageBps : Int := 2
  liveMinProfitAbsoluteUsdc : Rat := 1 / 2
  liveMaxNotionalUsdc : Rat := 100
  liveMaxNotionalPctOfSmallerPool : Rat := 1 / 5000
  liveMaxTradesPerRoutePer10m : Int := 3
  liveMaxConsecutiveFailuresPerRoute : Int := 1
  liveMaxConsecutiveLossesPerRoute : Int := 2
  routeFailureCooldownSeconds : Int := 300
  routeFatalFailureCooldownSeconds : Int := 900
  globalDailyDdStopPct : Rat := 1 / 200
  globalStaleQuoteStopSeconds : Int := 3
  marketDataStalenessStopSeconds : Int := 10
  healthSnapshotStaleSeconds : Int := 30
  liveMinFeeConfidenceStatus : FeeConfidence := .chainVerified
  liveMinBalanceConfidenceStatus : BalanceConfidence := .walletVerified
  liveMinQuoteMatchStatus : QuoteMatch := .matched
  depegThresholdBps : Int := 50
  rpcErrorRateStopPct5m : Rat := 1 / 20
  gasSpikeMultiplier : Rat := 3 / 2
  liquidityDropStopPct : Rat := 3 / 10
  shadowMinNetEdgeBps : Int := 125
  shadowMinEdgePersistSeconds : Int := 20
  shadowMaxSlippageBps : Int := 10
  shadowNotionalUsdc : Rat := 100
  shadowStaleQuoteSeconds : Int := 5
  shadowMinFeeConfidenceForReadiness : FeeConfidence := .fallbackOnly
  shadowMinBalanceConfidenceForReadiness : BalanceConfidence := .internalOk
  shadowMinQuoteMatchForReadiness : QuoteMatch := .matched
  alertFailureStopThreshold : Int := 10
  costQuoteDriftBufferBps : Int := 3
  costSlippageBufferBps : Int := 2
  costRouterOverheadBps : Int := 1
  costFailedTxAllowanceBps : Int := 2
  costSafetyMarginBps : Int := 2
  useMockMarketData : Bool := true
  gasPriceGweiDefault : Rat := 1 / 20
  gasTokenPriceUsdc : Rat := 2500
  commissioningLiveMinObservationDays : Int := 14
  commissioningLiveMinMarketSnapshots : Int := 5000
  commissioningLiveMinOpportunities : Int := 300
  commissioningLiveMinBacktestRunsMarketSnapshots : Int := 3
  commissioningLiveMinBacktestRunsOpportunities : Int := 3
  commissioningLiveMaxQuoteUnavailableRate : Rat := 1 / 20
  commissioningShadowMinObservationDays : Int := 7
  commissioningShadowMinMarketSnapshots : Int := 3000
  commissioningShadowMinOpportunities : Int := 200
  commissioningShadowMinBacktestRunsTotal : Int := 2
  commissioningShadowMaxQuoteUnavailableRate : Rat := 1 / 10
  commissioningWarnHealthUnknownRate : Rat := 1 / 10
  commissioningFailHealthUnknownRate : Rat := 1 / 5
  commissioningWarnFeeUnverifiedRate : Rat := 1 / 5
  commissioningFailFeeUnverifiedRate : Rat := 2 / 5
  commissioningWarnBalanceUnverifiedRate : Rat := 1 / 5
  commissioningFailBalanceUnverifiedRate : Rat := 2 / 5
  commissioningWarnQuoteMismatchRate : Rat := 1 / 10
  commissioningFailQuoteMismatchRate : Rat := 1 / 5
  /-- How the store at `database_url` keeps a number in a `Numeric(18, 8)` column. -/
  numericColumn : Rat → Rat := DecimalRounding.nearest 8

open PythonText in
def Settings.allowlistedRoutersSet (settings : Settings) : List String :=
  ((splitOn ',' settings.allowlistedRouters).filter fun router => strip router ≠ "").map
    fun router => lower (strip router)

def shipped : Settings := {}

end ArbitrageBot
