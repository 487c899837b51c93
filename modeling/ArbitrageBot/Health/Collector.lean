/-
`HealthCollector`: the rolling series that the two loops of the runner record into, and the
snapshot that the risk manager judges by. Every record trims all series by its own time; the
age of the snapshot is the age of the quality status and of nothing else.
-/

import ArbitrageBot.Library.Quantile
import ArbitrageBot.Library.SlidingWindow
import ArbitrageBot.Quote

namespace ArbitrageBot

open PythonText Quantile SlidingWindow

/-- `TimedValue` and `TimedBool`. -/
structure Timed (α : Type) where
  ts : Instant
  value : α

def trim {α : Type} (cutoff : Instant) (entries : List (Timed α)) : List (Timed α) :=
  entries.dropWhile fun entry => entry.ts < cutoff

/-- A dictionary in the order of insertion. -/
def updateKey {β : Type} (key : String) (change : Option β → β) :
    List (String × β) → List (String × β)
  | [] => [(key, change none)]
  | (other, value) :: rest =>
      if other = key then (other, change (some value)) :: rest
      else (other, value) :: updateKey key change rest

inductive SigningState
  | unknown | bad | good
deriving DecidableEq, Repr

def normalizeSigningState (value : Option String) : SigningState :=
  let normalized := lower (strip (value.getD ""))
  if normalized ∈ ["good", "true", "1", "yes"] then .good
  else if normalized ∈ ["bad", "false", "0", "no"] then .bad
  else .unknown

structure HealthCollector where
  rpcLatency : List (Timed Rat) := []
  rpcResults : List (Timed Bool) := []
  dbLatency : List (Timed Rat) := []
  dbResults : List (Timed Bool) := []
  quoteLatency : List (Timed Rat) := []
  quoteAge : List (Timed Rat) := []
  gasSeries : List (Timed Rat) := []
  alertResults : List (Timed Bool) := []
  executionResults : List (Timed Bool) := []
  venueLastSuccess : List (String × Instant) := []
  venueUnavailableEvents : List (String × List Instant) := []
  routeLiquidity : String → List (Timed Rat) := fun _ => []
  heartbeatTs : Instant
  lastQualityUpdate : Instant
  signingState : SigningState := .unknown
  feeStatus : FeeConfidence := .unknown
  feeProvenance : String := ""
  quoteMatchStatus : QuoteMatch := .unknown
  balanceStatus : BalanceConfidence := .unknown
  balanceFailureReason : String := ""

/-- The arguments of `set_quality_status`. -/
structure QualityStatus where
  signingStatus : Option String
  feeKnownStatus : Option String
  feeProvenance : Option String
  quoteMatchStatus : Option String
  balanceMatchStatus : Option String
  balanceFailureReason : Option String := none

structure CommissioningHealthSnapshot where
  rpcLatencyMs : Rat
  rpcErrorRate5m : Rat
  dbLatencyMs : Rat
  quoteLatencyMs : Rat
  gasNow : Rat
  gasP50 : Rat
  gasP90 : Rat
  liquidityChangePct : Rat
  quoteAgeSeconds : Rat
  alertSendSuccessRate : Rat
  contractRevertRate : Rat
  marketDataStalenessSeconds : Rat
  heartbeatLagSeconds : Rat
  routeSmallerPoolLiquidityUsdc : Rat
  quoteUnavailableVenues : List String

/-! ### What is read off a series -/

def latestValue (series : List (Timed Rat)) : Rat := (series.getLast?.map Timed.value).getD 0

def failures (series : List (Timed Bool)) : Nat := series.countP fun entry => !entry.value

def errorRate (series : List (Timed Bool)) : Rat :=
  if series = [] then 0 else (failures series : Rat) / series.length

def quantileOf (share : Rat) (series : List (Timed Rat)) : Rat :=
  quantile share 0 (series.map Timed.value)

/-- The newest result is good, and fewer than half of all are not. -/
def reachable (series : List (Timed Bool)) : Bool :=
  series.getLast?.any Timed.value && errorRate series < 1 / 2

namespace HealthCollector

variable (collector : HealthCollector) (now : Instant)

def create (now : Instant) : HealthCollector := { heartbeatTs := now, lastQualityUpdate := now }

/-- `_trim_all`: five minutes are kept, an hour of gas and liquidity. -/
def trimAll : HealthCollector :=
  let cutoff5m := now - minutes 5
  let cutoff60m := now - minutes 60
  { collector with
    rpcLatency := trim cutoff5m collector.rpcLatency
    rpcResults := trim cutoff5m collector.rpcResults
    dbLatency := trim cutoff5m collector.dbLatency
    dbResults := trim cutoff5m collector.dbResults
    quoteLatency := trim cutoff5m collector.quoteLatency
    quoteAge := trim cutoff5m collector.quoteAge
    alertResults := trim cutoff5m collector.alertResults
    executionResults := trim cutoff5m collector.executionResults
    gasSeries := trim cutoff60m collector.gasSeries
    routeLiquidity := fun route => trim cutoff60m (collector.routeLiquidity route) }

def recordRpcProbe (latencyMs : Rat) (ok : Bool) : HealthCollector :=
  { collector with
    rpcLatency := collector.rpcLatency ++ [⟨now, latencyMs⟩]
    rpcResults := collector.rpcResults ++ [⟨now, ok⟩] : HealthCollector }.trimAll now

def recordDbLatency (latencyMs : Rat) (ok : Bool) : HealthCollector :=
  { collector with
    dbLatency := collector.dbLatency ++ [⟨now, latencyMs⟩]
    dbResults := collector.dbResults ++ [⟨now, ok⟩] : HealthCollector }.trimAll now

def recordQuoteProbe (venue : String) (latencyMs quoteAgeSeconds : Rat)
    (ok quoteUnavailable : Bool) : HealthCollector :=
  { collector with
    quoteLatency := collector.quoteLatency ++ [⟨now, latencyMs⟩]
    quoteAge := collector.quoteAge ++ [⟨now, quoteAgeSeconds⟩]
    venueLastSuccess :=
      if ok then updateKey venue (fun _ => now) collector.venueLastSuccess
      else collector.venueLastSuccess
    venueUnavailableEvents :=
      if quoteUnavailable then
        updateKey venue (fun times => times.getD [] ++ [now]) collector.venueUnavailableEvents
      else collector.venueUnavailableEvents : HealthCollector }.trimAll now

def recordGas (gasGwei : Rat) : HealthCollector :=
  { collector with
    gasSeries := collector.gasSeries ++ [⟨now, gasGwei⟩] : HealthCollector }.trimAll now

def recordLiquidity (routeId : String) (liquidityUsd : Rat) : HealthCollector :=
  { collector with
    routeLiquidity := Function.update collector.routeLiquidity routeId
      (collector.routeLiquidity routeId ++ [⟨now, liquidityUsd⟩]) : HealthCollector }.trimAll now

def recordAlertResult (sentOk : Bool) : HealthCollector :=
  { collector with
    alertResults := collector.alertResults ++ [⟨now, sentOk⟩] : HealthCollector }.trimAll now

def recordExecutionResult (txStatus : String) : HealthCollector :=
  { collector with
    executionResults := collector.executionResults ++
      [⟨now, txStatus ∉ ["reverted", "failed"]⟩] : HealthCollector }.trimAll now

def setHeartbeat (ts : Instant) : HealthCollector := { collector with heartbeatTs := ts }

def setQualityStatus (status : QualityStatus) : HealthCollector :=
  { collector with
    signingState := normalizeSigningState status.signingStatus
    feeStatus := normalizeFeeConfidence status.feeKnownStatus none
    feeProvenance := norm status.feeProvenance
    quoteMatchStatus := normalizeQuoteMatchStatus status.quoteMatchStatus
    balanceStatus := normalizeBalanceConfidence status.balanceMatchStatus none
    balanceFailureReason := norm status.balanceFailureReason
    lastQualityUpdate := now }

/-- Building a snapshot also drops the unavailable events that are older than five minutes. -/
def buildSnapshot (routeId : String) : CommissioningHealthSnapshot × HealthCollector :=
  let routeLiquidity := collector.routeLiquidity routeId
  let latestLiquidity := latestValue routeLiquidity
  let baselineLiquidity := quantileOf (1 / 2) routeLiquidity
  let newest := (collector.venueLastSuccess.map Prod.snd).max?
  let unavailable := collector.venueUnavailableEvents.map fun (venue, times) =>
    (venue, prune (now - minutes 5) times)
  ({ rpcLatencyMs := latestValue collector.rpcLatency
     rpcErrorRate5m := errorRate collector.rpcResults
     dbLatencyMs := latestValue collector.dbLatency
     quoteLatencyMs := latestValue collector.quoteLatency
     gasNow := latestValue collector.gasSeries
     gasP50 := quantileOf (1 / 2) collector.gasSeries
     gasP90 := quantileOf (9 / 10) collector.gasSeries
     liquidityChangePct :=
       if 0 < baselineLiquidity then (latestLiquidity - baselineLiquidity) / baselineLiquidity else 0
     quoteAgeSeconds := latestValue collector.quoteAge
     alertSendSuccessRate := 1 - errorRate collector.alertResults
     contractRevertRate := errorRate collector.executionResults
     marketDataStalenessSeconds :=
       match newest with
       | some newest => totalSeconds (now - newest)
       | none => 999
     heartbeatLagSeconds := totalSeconds (now - collector.heartbeatTs)
     routeSmallerPoolLiquidityUsdc := latestLiquidity
     quoteUnavailableVenues := (unavailable.filter fun venue => venue.2 ≠ []).map Prod.fst },
    { collector with venueUnavailableEvents := unavailable })

def toRiskSnapshot (routeId : String) : HealthSnapshot × HealthCollector :=
  let (snapshot, collector) := collector.buildSnapshot now routeId
  ({ rpcErrorRate5m := snapshot.rpcErrorRate5m
     gasNow := snapshot.gasNow
     gasP90 := snapshot.gasP90
     liquidityChangePct := snapshot.liquidityChangePct
     quoteStaleSeconds := snapshot.quoteAgeSeconds
     healthAgeSeconds := totalSeconds (now - collector.lastQualityUpdate)
     alertFailures := failures collector.alertResults
     dbReachable := reachable collector.dbResults
     dbKnown := collector.dbResults ≠ []
     rpcReachable := reachable collector.rpcResults
     rpcKnown := collector.rpcResults ≠ []
     signingOk := collector.signingState = .good
     signingKnown := collector.signingState ≠ .unknown
     feeKnown := collector.feeStatus ≠ .unknown
     feeKnownStatus := collector.feeStatus.text
     feeProvenance := collector.feeProvenance
     quoteMatch := collector.quoteMatchStatus = .matched
     quoteMatchKnown := collector.quoteMatchStatus ≠ .unknown
     quoteMatchStatus := collector.quoteMatchStatus.text
     balanceMatch := collector.balanceStatus ∉ [.unknown, .mismatch]
     balanceMatchKnown := collector.balanceStatus ≠ .unknown
     balanceMatchStatus := collector.balanceStatus.text
     balanceFailureReason := collector.balanceFailureReason
     clockSkewOk := snapshot.heartbeatLagSeconds < 10
     contractRevertRate := snapshot.contractRevertRate }, collector)

end HealthCollector

/-! ### What a record does to the series of others -/

/-- The three series only lose entries, at the front. -/
structure HealthCollector.Drops (before after : HealthCollector) : Prop where
  rpc : after.rpcResults <:+ before.rpcResults
  db : after.dbResults <:+ before.dbResults
  gas : after.gasSeries <:+ before.gasSeries

theorem trim_suffix {α : Type} (cutoff : Instant) (entries : List (Timed α)) :
    trim cutoff entries <:+ entries :=
  List.dropWhile_suffix _

theorem trim_suffix_unrecorded {α : Type} (cutoff : Instant) (entries : List (Timed α)) :
    trim cutoff entries <:+ entries ++ (none : Option (Timed α)).toList := by
  rw [Option.toList_none, List.append_nil]
  exact trim_suffix cutoff entries

theorem trim_since {α : Type} {cutoff : Instant} {entries : List (Timed α)}
    (ordered : entries.Pairwise fun earlier later => earlier.ts ≤ later.ts) :
    ∀ entry ∈ trim cutoff entries, cutoff ≤ entry.ts := by
  induction entries with
  | nil => exact fun entry member => absurd member List.not_mem_nil
  | cons first rest ih =>
      obtain ⟨behind, restOrdered⟩ := List.pairwise_cons.mp ordered
      unfold trim at ih ⊢
      rw [List.dropWhile_cons]
      split
      · exact ih restOrdered
      · rename_i recent
        have recent : cutoff ≤ first.ts := by simpa using recent
        intro entry member
        rcases List.mem_cons.mp member with rfl | later
        · exact recent
        · exact recent.trans (behind entry later)

/-- No result of a probe is older than this. -/
structure HealthCollector.Since (collector : HealthCollector) (cutoff : Instant) : Prop where
  rpc : ∀ result ∈ collector.rpcResults, cutoff ≤ result.ts
  db : ∀ result ∈ collector.dbResults, cutoff ≤ result.ts

namespace HealthCollector

variable {collector : HealthCollector} {now : Instant}

theorem Drops.refl (collector : HealthCollector) : collector.Drops collector :=
  ⟨List.suffix_rfl, List.suffix_rfl, List.suffix_rfl⟩

theorem Drops.trans {first second third : HealthCollector} (front : first.Drops second)
    (back : second.Drops third) : first.Drops third :=
  ⟨back.rpc.trans front.rpc, back.db.trans front.db, back.gas.trans front.gas⟩

theorem recordQuoteProbe_drops {venue : String} {latencyMs age : Rat} {ok unavailable : Bool} :
    collector.Drops (collector.recordQuoteProbe now venue latencyMs age ok unavailable) :=
  ⟨trim_suffix _ _, trim_suffix _ _, trim_suffix _ _⟩

theorem Since.of_drops {after : HealthCollector} {cutoff : Instant} (since : collector.Since cutoff)
    (drops : collector.Drops after) : after.Since cutoff :=
  ⟨fun result member => since.rpc result (drops.rpc.subset member),
    fun result member => since.db result (drops.db.subset member)⟩

theorem recordQuoteProbe_since {venue : String} {latencyMs age : Rat} {ok unavailable : Bool}
    (rpc : collector.rpcResults.Pairwise fun earlier later => earlier.ts ≤ later.ts)
    (db : collector.dbResults.Pairwise fun earlier later => earlier.ts ≤ later.ts) :
    (collector.recordQuoteProbe now venue latencyMs age ok unavailable).Since (now - minutes 5) :=
  ⟨trim_since rpc, trim_since db⟩

theorem recordLiquidity_drops {routeId : String} {liquidityUsd : Rat} :
    collector.Drops (collector.recordLiquidity now routeId liquidityUsd) :=
  ⟨trim_suffix _ _, trim_suffix _ _, trim_suffix _ _⟩

theorem recordAlertResult_drops {sentOk : Bool} :
    collector.Drops (collector.recordAlertResult now sentOk) :=
  ⟨trim_suffix _ _, trim_suffix _ _, trim_suffix _ _⟩

theorem recordExecutionResult_drops {txStatus : String} :
    collector.Drops (collector.recordExecutionResult now txStatus) :=
  ⟨trim_suffix _ _, trim_suffix _ _, trim_suffix _ _⟩

end HealthCollector

end ArbitrageBot
