/-
The stored replays of a route and what `commissioning_stats_for_route` counts
of them, beside the replays that have completed.
-/

import ArbitrageBot.Library.PythonJson
import ArbitrageBot.Readiness.Promotion

namespace ArbitrageBot

open PythonJson PythonText

structure BacktestRun where
  id : String
  routeId : String
  status : String := "running"
  notes : String

structure BacktestResult where
  backtestRunId : String
  metadata : JsonObject

/-- `backtest_runs` and `backtest_results`. -/
structure BacktestHistory where
  runs : List BacktestRun
  results : List BacktestResult
  /-- `uq_backtest_result_run` -/
  oneResult : (results.map BacktestResult.backtestRunId).Nodup

/-! ### Counting -/

def extractReplayModeFromNotes (notes : String) : String :=
  let parts := (splitOn '|' notes).map strip
  match parts.find? fun part => "replay_mode=".toList.isPrefixOf (lower part).toList with
  | none => "unknown"
  | some part =>
      let value := lower (strip (String.ofList ((part.toList.dropWhile (· ≠ '=')).drop 1)))
      if value = "" then "unknown" else value

namespace BacktestHistory

variable (history : BacktestHistory) (routeId : String)

def routeRuns : List BacktestRun :=
  history.runs.filter fun run => run.routeId = routeId

def replayMode (run : BacktestRun) : String :=
  match history.results.find? fun result => result.backtestRunId = run.id with
  | some result =>
      let mode := lower (strip (result.metadata.getD "replay_mode" (.text "")).str)
      if mode = "" then "unknown" else mode
  | none => extractReplayModeFromNotes run.notes

/-- The runs that `backtest_mode_counts[mode]` counts. -/
def modeRuns (mode : String) : List BacktestRun :=
  (history.routeRuns routeId).filter fun run => history.replayMode run = mode

end BacktestHistory

def completedRuns (runs : List BacktestRun) : Nat :=
  runs.countP fun run => run.status = "completed"

/-- `commissioning_stats_for_route`: the counts of backtest runs, beside the other stats. -/
def CommissioningStats.withBacktests (stats : CommissioningStats) (history : BacktestHistory)
    (routeId : String) : CommissioningStats :=
  { stats with
    backtestRunCountTotal := (history.routeRuns routeId).length
    backtestRunCountMarketSnapshots := (history.modeRuns routeId "market_snapshots").length
    backtestRunCountOpportunities := (history.modeRuns routeId "opportunities").length }

def ReadinessInput.withBacktests (input : ReadinessInput) (history : BacktestHistory)
    (routeId : String) : ReadinessInput :=
  { input with backtestRunCount := (history.routeRuns routeId).length }

/-- The row that commissioning reports from a history of replays and everything else it reads. -/
def reportedRow (history : BacktestHistory) (settings : Settings) (route : Route)
    (stats : CommissioningStats) (now : Instant) (readiness : Option ReadinessInput) :
    CommissioningRow :=
  commissioningRow settings route (stats.withBacktests history route.id)
    (readiness.map fun input =>
      readinessRow settings route now (input.withBacktests history route.id))

theorem length_le_completedRuns {runs : List BacktestRun} :
    runs.length ≤ completedRuns runs ↔ ∀ run ∈ runs, run.status = "completed" := by
  have all : completedRuns runs = runs.length ↔ ∀ run ∈ runs, run.status = "completed" := by
    simp [completedRuns]
  rw [← all]
  constructor
  · intro enough
    exact le_antisymm List.countP_le_length enough
  · intro same
    exact same.ge

/-! ### A history at its own thresholds -/

section Ready

variable {history : BacktestHistory} {route : Route}

/-- Thresholds that a history just meets. -/
def thresholdsAt (history : BacktestHistory) (routeId : String) : Settings :=
  { shipped with
    commissioningLiveMinBacktestRunsMarketSnapshots :=
      (history.modeRuns routeId "market_snapshots").length
    commissioningLiveMinBacktestRunsOpportunities :=
      (history.modeRuns routeId "opportunities").length
    commissioningShadowMinBacktestRunsTotal := (history.routeRuns routeId).length }

def statsAt : CommissioningStats := { Sample.reviewStats with quoteUnavailableRate := 0 }

def rowAt (history : BacktestHistory) (route : Route) : CommissioningRow :=
  reportedRow history (thresholdsAt history route.id) route statsAt 0
    (some Sample.reviewInput)

def factsAt (strategy : String) (runs : Int) : ReadinessFacts :=
  { strategy := strategy, supportStatus := .supported, feeStatus := .venueDeclared
    balanceStatus := .walletVerified, quoteMatchStatus := .matched, cooldownActive := false
    fatalPaused := false, observationCount := 5000, backtestRunCount := runs
    quoteUnavailableRate := 1 / 20 }

theorem readinessFacts_reviewInput (strategy : String) :
    readinessFacts strategy 0 (Sample.reviewInput.withBacktests history route.id) =
      factsAt strategy (history.routeRuns route.id).length := by
  have support : normalizeSupportStatus (some " Good") = .supported := by decide
  have fee : normalizeFeeConfidence (some "venue_default") none = .venueDeclared := by decide
  have balance : normalizeBalanceConfidence (some "wallet") none = .walletVerified := by decide
  have quote : normalizeQuoteMatchStatus (some "YES") = .matched := by decide
  simp only [readinessFacts, ReadinessInput.withBacktests, Sample.reviewInput, Option.elim_some,
    support, fee, balance, quote, factsAt, Option.any_none, Option.any_some, Bool.or_self]

theorem blockersAt {strategy routeId : String} {runs : Int} (replayed : 1 ≤ runs) :
    (factsAt strategy runs).blockers (thresholdsAt history routeId) =
      if strategy = "base_virtual_shadow" then ["observation_only_route"] else [] := by
  have enough : ¬ runs < 1 := not_lt.mpr replayed
  by_cases shadow : strategy = "base_virtual_shadow"
  · simp [ReadinessFacts.blockers, ReadinessFacts.findings, finding, factsAt, thresholdsAt, shipped,
      shadow, enough, feeConfidenceAtLeast, balanceConfidenceAtLeast, quoteMatchStatusAtLeast,
      FeeConfidence.rank, BalanceConfidence.rank, QuoteMatch.rank]
    norm_num
  · simp [ReadinessFacts.blockers, ReadinessFacts.findings, finding, factsAt, shadow, enough,
      feeConfidenceAtLeast, balanceConfidenceAtLeast, quoteMatchStatusAtLeast,
      FeeConfidence.rank, BalanceConfidence.rank, QuoteMatch.rank]
    norm_num

/-- A verdict that stands in the way of nothing. -/
structure ReadinessVerdict.Clear (verdict : ReadinessVerdict) : Prop where
  supported : verdict.supportStatus = .supported
  notRed : verdict.grade ≠ .red
  notFatalPaused : verdict.fatalPaused = false

theorem minimumGatePassed_at {type : RouteType} {verdict : ReadinessVerdict}
    (clear : verdict.Clear) :
    minimumGatePassed (thresholdsAt history route.id) type (statsAt.withBacktests history route.id)
      verdict = true := by
  cases type <;>
    simp [minimumGatePassed, clear.supported, clear.notRed, clear.notFatalPaused,
      minObservationDays, minMarketSnapshots, minOpportunities, maxQuoteUnavailableRate,
      thresholdsAt, shipped, CommissioningStats.withBacktests, statsAt, Sample.reviewStats] <;>
    norm_num

theorem criticalFails_at {type : RouteType} {verdict : ReadinessVerdict}
    (clear : verdict.Clear) :
    criticalFails (evaluateKpis (thresholdsAt history route.id) type
      (statsAt.withBacktests history route.id) verdict) = [] := by
  have grade : verdict.grade = .green ∨ verdict.grade = .yellow := by
    cases known : verdict.grade with
    | green | yellow => simp
    | red => exact absurd known clear.notRed
  cases type <;> rcases grade with green | yellow <;>
    simp [criticalFails, evaluateKpis, backtestKpis, minimumKpi, maximumKpi, rateKpi, enumKpi,
      boolKpi, clear.supported, clear.notFatalPaused, *, minObservationDays, minMarketSnapshots,
      minOpportunities, maxQuoteUnavailableRate, thresholdsAt, shipped,
      CommissioningStats.withBacktests, statsAt, Sample.reviewStats] <;>
    norm_num

theorem verdict_clear (replayed : 1 ≤ (history.routeRuns route.id).length) :
    (readinessVerdict (some (readinessRow (thresholdsAt history route.id) route 0
      (Sample.reviewInput.withBacktests history route.id)))).Clear := by
  have runs : (1 : Int) ≤ (history.routeRuns route.id).length := by omega
  constructor
  · rw [readinessVerdict_supportStatus]
    simp only [readinessRow, readinessFacts_reviewInput, factsAt]
  · rw [readinessVerdict_grade, readinessRow_grade, readinessFacts_reviewInput, blockersAt runs]
    split <;> decide
  · simp only [readinessVerdict, readinessRow, readinessFacts_reviewInput, factsAt,
      Option.elim_some]

theorem reviewReady_at (replayed : 1 ≤ (history.routeRuns route.id).length)
    (live : routeType route.strategy = .liveIntent) :
    (rowAt history route).promotionGateStatus = .reviewReady := by
  have clear := verdict_clear replayed
  exact promotionGateStatus_reviewReady.mpr
    ⟨live, criticalFails_at clear, minimumGatePassed_at clear⟩

theorem observationReady_at (replayed : 1 ≤ (history.routeRuns route.id).length)
    (shadow : routeType route.strategy = .shadow) :
    (rowAt history route).promotionGateStatus = .observationReady := by
  have clear := verdict_clear replayed
  exact promotionGateStatus_observationReady.mpr
    ⟨shadow, criticalFails_at clear, minimumGatePassed_at clear⟩

end Ready

/-! ### Promotion and finished replays -/

/-- Whatever else commissioning reads, a promotion shows enough completed replays. -/
def PromotionNeedsCompletedRuns (history : BacktestHistory) (route : Route) : Prop :=
  ∀ (settings : Settings) (stats : CommissioningStats) (now : Instant)
    (readiness : Option ReadinessInput),
    let status := (reportedRow history settings route stats now readiness).promotionGateStatus
    (status = .reviewReady →
      settings.commissioningLiveMinBacktestRunsMarketSnapshots ≤
          completedRuns (history.modeRuns route.id "market_snapshots") ∧
        settings.commissioningLiveMinBacktestRunsOpportunities ≤
          completedRuns (history.modeRuns route.id "opportunities")) ∧
    (status = .observationReady →
      settings.commissioningShadowMinBacktestRunsTotal ≤
        completedRuns (history.routeRuns route.id))

/-- Each run that the route's type counts has completed. -/
def CountedRunsCompleted (history : BacktestHistory) (route : Route) : Prop :=
  (routeType route.strategy = .liveIntent →
    ∀ mode ∈ ["market_snapshots", "opportunities"], ∀ run ∈ history.modeRuns route.id mode,
      run.status = "completed") ∧
  (routeType route.strategy = .shadow →
    ∀ run ∈ history.routeRuns route.id, run.status = "completed")

theorem commissioningRow_replaysTotal {settings : Settings} {route : Route}
    {stats : CommissioningStats} {readiness : Option ReadinessRow}
    (ready :
      (commissioningRow settings route stats readiness).promotionGateStatus = .observationReady) :
    settings.commissioningShadowMinBacktestRunsTotal ≤ stats.backtestRunCountTotal := by
  obtain ⟨shadow, -, passed⟩ := promotionGateStatus_observationReady.mp ready
  rw [shadow] at passed
  simp only [minimumGatePassed, reduceCtorEq, if_false, Bool.and_eq_true,
    decide_eq_true_eq] at passed
  obtain ⟨⟨⟨⟨⟨-, replays⟩, -⟩, -⟩, -⟩, -⟩ := passed
  exact replays

theorem routeRuns_of_modeRuns {history : BacktestHistory} {routeId mode : String}
    {run : BacktestRun} (member : run ∈ history.modeRuns routeId mode) :
    run ∈ history.routeRuns routeId :=
  List.mem_of_mem_filter member

/-- Promotion rests on finished replays exactly when no counted run has failed or still runs. -/
theorem promotionNeedsCompletedRuns_iff (history : BacktestHistory) (route : Route) :
    PromotionNeedsCompletedRuns history route ↔ CountedRunsCompleted history route := by
  constructor
  · intro needs
    obtain ⟨review, observation⟩ :=
      needs (thresholdsAt history route.id) statsAt 0 (some Sample.reviewInput)
    constructor
    · intro live mode counted run member
      have replayed := List.length_pos_of_mem (routeRuns_of_modeRuns member)
      obtain ⟨snapshots, opportunities⟩ := review (reviewReady_at replayed live)
      simp only [List.mem_cons, List.not_mem_nil, or_false] at counted
      rcases counted with rfl | rfl
      · exact length_le_completedRuns.mp (Int.ofNat_le.mp snapshots) run member
      · exact length_le_completedRuns.mp (Int.ofNat_le.mp opportunities) run member
    · intro shadow run member
      have replayed := List.length_pos_of_mem member
      have total := observation (observationReady_at replayed shadow)
      exact length_le_completedRuns.mp (Int.ofNat_le.mp total) run member
  · rintro ⟨live, shadow⟩ settings stats now readiness
    constructor
    · intro ready
      obtain ⟨type, thresholds, -⟩ := commissioningRow_reviewReady ready
      have snapshots := length_le_completedRuns.mpr (live type "market_snapshots" (by decide))
      have opportunities := length_le_completedRuns.mpr (live type "opportunities" (by decide))
      exact ⟨le_trans thresholds.snapshotReplays (Int.ofNat_le.mpr snapshots),
        le_trans thresholds.opportunityReplays (Int.ofNat_le.mpr opportunities)⟩
    · intro ready
      have type := commissioningRow_observationReady ready
      have total := length_le_completedRuns.mpr (shadow type)
      exact le_trans (commissioningRow_replaysTotal ready) (Int.ofNat_le.mpr total)

namespace Sample

/-- What `BacktestEngine.run` leaves of a replay that raised: no result, and the mode in the
notes. -/
def failedRun (id mode : String) : BacktestRun :=
  { id := id, routeId := route.id, status := "failed", notes := "replay_mode=" ++ mode }

def failedReplays : BacktestHistory :=
  { runs :=
      [ failedRun "1" "market_snapshots", failedRun "2" "market_snapshots",
        failedRun "3" "market_snapshots", failedRun "4" "opportunities",
        failedRun "5" "opportunities", failedRun "6" "opportunities" ]
    results := []
    oneResult := List.nodup_nil }

end Sample

/-- Six replays that all failed carry a route to review under the shipped thresholds. -/
theorem failed_replays_reach_review :
    (reportedRow Sample.failedReplays shipped Sample.route Sample.reviewStats 0
        (some Sample.reviewInput)).promotionGateStatus = .reviewReady ∧
      shipped.commissioningLiveMinBacktestRunsMarketSnapshots = 3 ∧
      completedRuns (Sample.failedReplays.modeRuns Sample.route.id "market_snapshots") = 0 := by
  decide +kernel

end ArbitrageBot
