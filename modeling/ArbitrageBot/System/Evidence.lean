/-
The evidence of a route as the reports read it from the tables: `commissioning_stats_for_route` and
the three queries of readiness. Opportunities are grouped by what blocked them, the replays are
gone through newest first, and what the two reports say of the same rows has to agree.
-/

import ArbitrageBot.Library.Median
import ArbitrageBot.Backtest.History
import ArbitrageBot.Readiness.Report
import ArbitrageBot.System.Overview
import ArbitrageBot.System.Statistics

namespace ArbitrageBot

open BestFirst DecimalRounding LatestPerKey Median PythonJson PythonText Tally

/-- The columns of `market_snapshots` that are counted. -/
structure SnapshotKey where
  routeId : String
  sourceType : String

/-- A row of `backtest_results` with the figures that are compared. -/
structure BacktestFigures extends BacktestResult where
  simulatedPnl : Rat
  maxDrawdown : Rat

structure EvidenceTables where
  opportunities : List (Stamped Opportunity) := []
  tradeAttempts : List TradeAttempt := []
  marketSnapshots : List (Stamped SnapshotKey) := []
  backtestRuns : List (Stamped BacktestRun) := []
  backtestResults : List (Stamped BacktestFigures) := []
  /-- `uq_backtest_result_run` -/
  oneResult : (backtestResults.map fun result => result.row.backtestRunId).Nodup

/-- How a store answers `GROUP BY key ORDER BY count(*) DESC`: every key once with its count, equal
counts in any order. -/
structure GroupedCounts where
  groups : List String → Counts String
  perm : ∀ keys, (groups keys).Perm (tally keys)
  ordered : ∀ keys, (groups keys).Pairwise fun first second => second.2 ≤ first.2

instance : Inhabited GroupedCounts where
  default :=
    { groups := fun keys => bestFirst Prod.snd (tally keys)
      perm := fun _ => bestFirst_perm _
      ordered := fun _ => bestFirst_ordered _ }

/-! ### Queries -/

structure ObservationWindow where
  marketSnapshotCount : Nat
  observationStart : Option Instant
  observationEnd : Option Instant
  observationWindowDays : Rat

structure OpportunityStats where
  totalOpportunities : Nat
  quoteUnavailableCount : Nat
  quoteUnavailableRate : Rat
  blockedTop : Counts String

structure BacktestStats where
  backtestRunCount : Nat
  lastBacktestStatus : String
  lastBacktestPnl : Rat
  lastBacktestMode : String

def blockedReasons (opportunities : List (Stamped Opportunity)) : List String :=
  (opportunities.map fun opportunity => opportunity.row.blockedReason).filter (· ≠ "")

/-- The part of all opportunities that one reason blocked. -/
def shareOf (blockedCounts : Counts String) (opportunityCount : Nat) (reason : String) : Rat :=
  if 0 < opportunityCount then (countOf reason blockedCounts : Rat) / opportunityCount else 0

/-- `str(...).strip().lower() or "unknown"` -/
def modeOrUnknown (raw : String) : String :=
  let mode := lower (strip raw)
  if mode = "" then "unknown" else mode

def BacktestResult.replayMode (result : BacktestResult) : String :=
  modeOrUnknown (result.metadata.getD "replay_mode" (.text "")).str

/-- The totals of the loop over runs. -/
structure BacktestTotals where
  modeCounts : Counts String := [("opportunities", 0), ("market_snapshots", 0)]
  pnlValues : List Rat := []
  drawdowns : List Rat := []
  latestPnl : Rat := 0
  latestMode : String := "none"

def BacktestTotals.add (totals : BacktestTotals) (run : BacktestRun) :
    Option BacktestFigures → BacktestTotals
  | some result =>
      { modeCounts := bump result.replayMode totals.modeCounts
        pnlValues := totals.pnlValues ++ [result.simulatedPnl]
        drawdowns := totals.drawdowns ++ [result.maxDrawdown]
        latestPnl := if totals.latestMode = "none" then result.simulatedPnl else totals.latestPnl
        latestMode := if totals.latestMode = "none" then result.replayMode else totals.latestMode }
  | none =>
      { totals with modeCounts := bump (extractReplayModeFromNotes run.notes) totals.modeCounts }

/-- What `commissioning_stats_for_route` returns. -/
structure RouteEvidence extends CommissioningStats where
  blockedReasonTopN : Counts String
  latestBacktestPnl : Rat
  medianBacktestPnl : Rat
  worstBacktestDrawdown : Rat
  latestBacktestMode : String
  backtestModeCounts : Counts String

namespace EvidenceTables

variable (tables : EvidenceTables) (store : GroupedCounts) (routeId : String)

def routeOpportunities : List (Stamped Opportunity) :=
  tables.opportunities.filter fun opportunity => opportunity.row.quote.routeId = routeId

/-- `observation_window_for_route` -/
def observationWindow (sourceType : String) : ObservationWindow :=
  let rows := tables.marketSnapshots.filter fun snapshot => snapshot.row.routeId = routeId
  let counted := rows.filter fun snapshot =>
    sourceType = "" || snapshot.row.sourceType = sourceType
  let times := (rows.filter fun snapshot => snapshot.row.sourceType = sourceType).map Stamped.stamp
  { marketSnapshotCount := counted.length
    observationStart := times.min?
    observationEnd := times.max?
    observationWindowDays :=
      match times.min?, times.max? with
      | some first, some last => nearest 5 (totalSeconds (last - first) / 86400)
      | _, _ => 0 }

/-- `observation_count` of `market_snapshot_stats_for_route` -/
def observationCount : Nat :=
  tables.marketSnapshots.countP fun snapshot => snapshot.row.routeId = routeId

/-- `opportunity_stats_for_route` -/
def opportunityStats (now : Instant) (sinceHours : Int) : OpportunityStats :=
  let since := now - seconds (sinceHours * 3600)
  let rows := (tables.routeOpportunities routeId).filter fun opportunity =>
    since ≤ opportunity.stamp
  let unavailable := rows.countP fun opportunity =>
    opportunity.row.blockedReason = "quote_unavailable"
  { totalOpportunities := rows.length
    quoteUnavailableCount := unavailable
    quoteUnavailableRate := if 0 < rows.length then (unavailable : Rat) / rows.length else 0
    blockedTop := (store.groups (blockedReasons rows)).take 5 }

def runsNewestFirst : List BacktestRun :=
  (newestFirst Stamped.stamp
    (tables.backtestRuns.filter fun run => run.row.routeId = routeId)).map Stamped.row

def resultOf (run : BacktestRun) : Option BacktestFigures :=
  (tables.backtestResults.find? fun result => result.row.backtestRunId = run.id).map Stamped.row

/-- `backtest_stats_for_route` -/
def backtestStats : BacktestStats :=
  let latestRun := (tables.runsNewestFirst routeId).head?
  let latestResult := latestRun.bind tables.resultOf
  { backtestRunCount := tables.backtestRuns.countP fun run => run.row.routeId = routeId
    lastBacktestStatus := latestRun.elim "none" BacktestRun.status
    lastBacktestPnl := latestResult.elim 0 BacktestFigures.simulatedPnl
    lastBacktestMode := latestResult.elim "unknown" fun result =>
      (result.metadata.getD "replay_mode" (.text "unknown")).str }

def backtestTotals : BacktestTotals :=
  (tables.runsNewestFirst routeId).foldl
    (fun totals run => totals.add run (tables.resultOf run)) {}

/-- `commissioning_stats_for_route` -/
def commissioningStats : RouteEvidence :=
  let observation := tables.observationWindow routeId "real"
  let opportunityCount := (tables.routeOpportunities routeId).length
  let blockedCounts := store.groups (blockedReasons (tables.routeOpportunities routeId))
  let rate := shareOf blockedCounts opportunityCount
  let totals := tables.backtestTotals routeId
  { observationWindowDays := observation.observationWindowDays
    marketSnapshotCount := observation.marketSnapshotCount
    opportunityCount := opportunityCount
    backtestRunCountTotal := (tables.runsNewestFirst routeId).length
    backtestRunCountMarketSnapshots := countOf "market_snapshots" totals.modeCounts
    backtestRunCountOpportunities := countOf "opportunities" totals.modeCounts
    quoteUnavailableRate := rate "quote_unavailable"
    healthUnknownRate := rate "health_unknown"
    feeUnverifiedRate := rate "fee_unverified"
    balanceUnverifiedRate := rate "balance_unverified"
    quoteMismatchRate := rate "quote_mismatch"
    fatalPauseCount := tables.tradeAttempts.countP fun attempt =>
      attempt.routeId = routeId && attempt.isFatalFailure
    cooldownEventCount := tables.tradeAttempts.countP fun attempt =>
      attempt.routeId = routeId && attempt.cooldownTriggered
    blockedReasonTopN := (bestFirst Prod.snd blockedCounts).take 5
    latestBacktestPnl := totals.latestPnl
    medianBacktestPnl := (median totals.pnlValues).getD 0
    worstBacktestDrawdown := totals.drawdowns.max?.getD 0
    latestBacktestMode := totals.latestMode
    backtestModeCounts := totals.modeCounts }

def routeFigures : List BacktestFigures :=
  (tables.runsNewestFirst routeId).filterMap tables.resultOf

/-- The same tables as the other reports of replays see them. -/
def history : BacktestHistory where
  runs := tables.backtestRuns.map Stamped.row
  results := tables.backtestResults.map fun result => result.row.toBacktestResult
  oneResult := by
    rw [List.map_map]
    exact tables.oneResult

end EvidenceTables

def RouteEvidence.rates (evidence : RouteEvidence) : List Rat :=
  [evidence.quoteUnavailableRate, evidence.healthUnknownRate, evidence.feeUnverifiedRate,
    evidence.balanceUnverifiedRate, evidence.quoteMismatchRate]

def ReadinessInput.withEvidence (input : ReadinessInput) (tables : EvidenceTables)
    (store : GroupedCounts) (now : Instant) (routeId : String) : ReadinessInput :=
  { input with
    observationCount := tables.observationCount routeId
    backtestRunCount := (tables.backtestStats routeId).backtestRunCount
    quoteUnavailableRate := (tables.opportunityStats store routeId now 24).quoteUnavailableRate }

/-! ### What is reported -/

section Reported

variable (tables : EvidenceTables) (store : GroupedCounts) (routeId : String)

def EvidenceTables.blockedBy (reason : String) : Nat :=
  (tables.routeOpportunities routeId).countP fun opportunity =>
    opportunity.row.blockedReason = reason

/-- The blocked reasons that are shown are counted exactly, and a reason is left out only of a full
list and only if it is no more frequent than those shown. -/
structure ReasonsTold (shown : Counts String) : Prop where
  counted : ∀ entry ∈ shown,
    entry.1 ≠ "" ∧ 0 < entry.2 ∧ entry.2 = tables.blockedBy routeId entry.1
  ordered : shown.Pairwise fun first second => second.2 ≤ first.2
  leftOut : ∀ reason, reason ≠ "" → 0 < tables.blockedBy routeId reason →
    (∃ entry ∈ shown, entry.1 = reason) ∨
      shown.length = 5 ∧ ∀ entry ∈ shown, tables.blockedBy routeId reason ≤ entry.2

/-- The replays are counted one by one under their modes, and their figures are the median, the
worst and the latest of the results. -/
structure ReplaysTold (evidence : RouteEvidence) : Prop where
  once : (total evidence.backtestModeCounts : Int) = evidence.backtestRunCountTotal
  modes : ∀ mode, countOf mode evidence.backtestModeCounts =
    (tables.history.modeRuns routeId mode).length
  medianPnl : tables.routeFigures routeId ≠ [] →
    Halves ((tables.routeFigures routeId).map BacktestFigures.simulatedPnl)
      evidence.medianBacktestPnl
  worstDrawdown : ∀ figures ∈ tables.routeFigures routeId,
    figures.maxDrawdown ≤ evidence.worstBacktestDrawdown
  drawdownSeen : tables.routeFigures routeId ≠ [] →
    ∃ figures ∈ tables.routeFigures routeId, evidence.worstBacktestDrawdown = figures.maxDrawdown
  latest : ∀ figures, (tables.routeFigures routeId).head? = some figures →
    figures.replayMode ≠ "none" →
      evidence.latestBacktestPnl = figures.simulatedPnl ∧
        evidence.latestBacktestMode = figures.replayMode

/-- Where both reports speak of the same rows they say the same. -/
structure ReportsAgree (evidence : RouteEvidence) (readiness : BacktestStats) : Prop where
  runs : (readiness.backtestRunCount : Int) = evidence.backtestRunCountTotal
  snapshots : evidence.marketSnapshotCount ≤ tables.observationCount routeId
  latest : ∀ run figures, (tables.runsNewestFirst routeId).head? = some run →
    tables.resultOf run = some figures → figures.replayMode ≠ "none" →
      readiness.lastBacktestPnl = evidence.latestBacktestPnl ∧
        modeOrUnknown readiness.lastBacktestMode = evidence.latestBacktestMode

/-- The stats are those of the models that look at one table each. -/
def CountsRows (evidence : CommissioningStats) : Prop :=
  ∀ db : Database, db.opportunities = tables.opportunities.map Stamped.row →
    db.tradeAttempts = tables.tradeAttempts →
      evidence = (evidence.withTables db routeId).withBacktests tables.history routeId

structure EvidenceSound (evidence : RouteEvidence) : Prop where
  rates : ∀ rate ∈ evidence.rates, 0 ≤ rate
  together : evidence.rates.sum ≤ 1
  window : 0 ≤ evidence.observationWindowDays
  reasons : ReasonsTold tables routeId evidence.blockedReasonTopN
  replays : ReplaysTold tables routeId evidence
  agree : ReportsAgree tables routeId evidence (tables.backtestStats routeId)
  rows : CountsRows tables routeId evidence.toCommissioningStats

end Reported

/-! ### Reasons -/

section Reasons

variable {tables : EvidenceTables} {store : GroupedCounts} {routeId : String}

theorem count_blockedReasons (opportunities : List (Stamped Opportunity)) {reason : String}
    (named : reason ≠ "") :
    (blockedReasons opportunities).count reason =
      opportunities.countP fun opportunity => opportunity.row.blockedReason = reason := by
  rw [blockedReasons, List.count_eq_countP, List.countP_filter, List.countP_map]
  apply List.countP_congr
  intro opportunity _listed
  simp only [Function.comp, Bool.and_eq_true, beq_iff_eq, decide_eq_true_eq]
  exact ⟨And.left, fun same => ⟨same, same ▸ named⟩⟩

theorem countOf_groups (store : GroupedCounts) (keys : List String) (key : String) :
    countOf key (store.groups keys) = keys.count key :=
  countOf_of_perm (store.perm keys) key

theorem reasonsTold : ReasonsTold tables routeId
    (tables.commissioningStats store routeId).blockedReasonTopN := by
  have groups := store.perm (blockedReasons (tables.routeOpportunities routeId))
  have counted : ∀ entry ∈ store.groups (blockedReasons (tables.routeOpportunities routeId)),
      entry.1 ≠ "" ∧ 0 < entry.2 ∧ entry.2 = tables.blockedBy routeId entry.1 := by
    intro entry listed
    have inTally := groups.mem_iff.mp listed
    have count := mem_tally inTally
    have seen := mem_keys_tally.mp (List.mem_map_of_mem inTally)
    have named : entry.1 ≠ "" := by simpa using (List.mem_filter.mp seen).2
    refine ⟨named, ?_, ?_⟩
    · rw [count]
      exact List.count_pos_iff.mpr seen
    · rw [count, count_blockedReasons _ named]
      rfl
  constructor
  · intro entry shown
    exact counted entry (mem_bestFirst.mp (List.mem_of_mem_take shown))
  · exact (bestFirst_ordered _).sublist (List.take_sublist _ _)
  · intro reason named blocked
    have seen : reason ∈ blockedReasons (tables.routeOpportunities routeId) := by
      rw [← List.count_pos_iff, count_blockedReasons _ named]
      exact blocked
    obtain ⟨⟨known, count⟩, inTally, rfl⟩ := List.mem_map.mp (mem_keys_tally.mpr seen)
    have listed := groups.mem_iff.mpr inTally
    rcases (@mem_shown_or_leftOut _ _ _ Prod.snd _ 5 _).mp listed with shown | below
    · exact .inl ⟨_, shown, rfl⟩
    · refine .inr ⟨length_shown_of_leftOut below, ?_⟩
      intro entry shown
      rw [← (counted _ listed).2.2]
      exact leftOut_le_shown shown below

end Reasons

/-! ### Rates -/

section Rates

variable {tables : EvidenceTables} {store : GroupedCounts} {routeId : String}

theorem shareOf_nonneg (counts : Counts String) (opportunityCount : Nat) (reason : String) :
    0 ≤ shareOf counts opportunityCount reason := by
  unfold shareOf
  split
  · positivity
  · exact le_rfl

/-- Different reasons together block no more opportunities than there are. -/
theorem sum_shareOf_le (opportunities : List (Stamped Opportunity)) {reasons : List String}
    (distinct : reasons.Nodup) :
    (reasons.map (shareOf (store.groups (blockedReasons opportunities))
      opportunities.length)).sum ≤ 1 := by
  by_cases some_ : 0 < opportunities.length
  · have enough : (reasons.map fun reason => (blockedReasons opportunities).count reason).sum ≤
        opportunities.length := by
      calc (reasons.map fun reason => (blockedReasons opportunities).count reason).sum
          ≤ (blockedReasons opportunities).length := sum_count_le distinct _
        _ ≤ opportunities.length := by
            rw [blockedReasons]
            exact (List.length_filter_le _ _).trans (List.length_map _).le
    have scaled : (reasons.map (shareOf (store.groups (blockedReasons opportunities))
        opportunities.length)).sum =
          ((reasons.map fun reason => (blockedReasons opportunities).count reason).sum : Rat) /
            opportunities.length := by
      clear enough distinct
      induction reasons with
      | nil => simp
      | cons reason rest ih =>
          rw [List.map_cons, List.sum_cons, ih, List.map_cons, List.sum_cons, shareOf,
            if_pos some_, countOf_groups]
          push_cast
          ring
    rw [scaled, div_le_one (by exact_mod_cast some_)]
    exact_mod_cast enough
  · have zero : ∀ share ∈ reasons.map (shareOf (store.groups (blockedReasons opportunities))
        opportunities.length), share = 0 := by
      intro share member
      obtain ⟨reason, -, rfl⟩ := List.mem_map.mp member
      exact if_neg some_
    rw [List.sum_eq_zero zero]
    exact zero_le_one

theorem rates_eq : (tables.commissioningStats store routeId).rates =
    ["quote_unavailable", "health_unknown", "fee_unverified", "balance_unverified",
      "quote_mismatch"].map
      (shareOf (store.groups (blockedReasons (tables.routeOpportunities routeId)))
        (tables.routeOpportunities routeId).length) :=
  rfl

theorem observationWindowDays_nonneg (sourceType : String) :
    0 ≤ (tables.observationWindow routeId sourceType).observationWindowDays := by
  unfold EvidenceTables.observationWindow
  dsimp only
  split
  · rename_i first last earliest latest
    apply nearest_nonneg
    have ordered : first ≤ last :=
      (List.min?_eq_some_iff.mp earliest).2 last (List.max?_eq_some_iff.mp latest).1
    have span : (0 : Rat) ≤ ((last - first : Int) : Rat) := by exact_mod_cast sub_nonneg.mpr ordered
    rw [totalSeconds]
    positivity
  · exact le_rfl

end Rates

/-! ### Replays -/

section Replays

variable {tables : EvidenceTables} {routeId : String}

theorem replayMode_eq (run : BacktestRun) :
    tables.history.replayMode run = (tables.resultOf run).elim
      (extractReplayModeFromNotes run.notes) fun figures => figures.replayMode := by
  have found : (tables.history.results.find? fun result => result.backtestRunId = run.id) =
      (tables.resultOf run).map BacktestFigures.toBacktestResult := by
    rw [EvidenceTables.history, List.find?_map, EvidenceTables.resultOf, Option.map_map]
    rfl
  unfold BacktestHistory.replayMode
  rw [found]
  cases tables.resultOf run with
  | none => rw [Option.map_none, Option.elim_none]
  | some figures =>
      simp only [Option.map_some, Option.elim_some, BacktestResult.replayMode, modeOrUnknown]

structure Totalled (tables : EvidenceTables) (past : List BacktestRun) (totals : BacktestTotals) :
    Prop where
  once : total totals.modeCounts = past.length
  modes : ∀ mode, countOf mode totals.modeCounts =
    past.countP fun run => tables.history.replayMode run = mode
  pnls : totals.pnlValues = (past.filterMap tables.resultOf).map BacktestFigures.simulatedPnl
  drawdowns : totals.drawdowns = (past.filterMap tables.resultOf).map BacktestFigures.maxDrawdown
  latest : ∀ figures, (past.filterMap tables.resultOf).head? = some figures →
    figures.replayMode ≠ "none" →
      totals.latestPnl = figures.simulatedPnl ∧ totals.latestMode = figures.replayMode
  unset : past.filterMap tables.resultOf = [] → totals.latestMode = "none"

theorem totalled_nil : Totalled tables [] {} where
  once := rfl
  modes mode := by
    rw [List.countP_nil, countOf, PythonDict.lookup_cons_if, PythonDict.lookup_cons_if]
    split
    · rfl
    · split <;> rfl
  pnls := rfl
  drawdowns := rfl
  latest figures impossible := by cases impossible
  unset _ := rfl

theorem Totalled.add {past : List BacktestRun} {totals : BacktestTotals}
    (totalled : Totalled tables past totals) (run : BacktestRun) :
    Totalled tables (past ++ [run]) (totals.add run (tables.resultOf run)) := by
  have mode := @replayMode_eq tables run
  have counted : ∀ other, (past ++ [run]).countP
      (fun run => tables.history.replayMode run = other) =
        past.countP (fun run => tables.history.replayMode run = other) +
          if tables.history.replayMode run = other then 1 else 0 := by
    intro other
    rw [List.countP_append, List.countP_singleton]
    simp only [decide_eq_true_eq]
  have listed : (past ++ [run]).filterMap tables.resultOf =
      past.filterMap tables.resultOf ++ (tables.resultOf run).toList := by
    rw [List.filterMap_append]
    cases result : tables.resultOf run with
    | none => rw [List.filterMap_cons_none result]; rfl
    | some figures => rw [List.filterMap_cons_some result]; rfl
  cases result : tables.resultOf run with
  | none =>
      rw [result, Option.elim_none] at mode
      rw [result, Option.toList_none, List.append_nil] at listed
      constructor
      · rw [BacktestTotals.add, total_bump, totalled.once, List.length_append,
          List.length_singleton]
      · intro other
        rw [counted, mode, BacktestTotals.add, countOf_bump, totalled.modes]
      · rw [listed]
        exact totalled.pnls
      · rw [listed]
        exact totalled.drawdowns
      · rw [listed]
        exact totalled.latest
      · rw [listed]
        exact totalled.unset
  | some figures =>
      rw [result, Option.elim_some] at mode
      rw [result, Option.toList_some] at listed
      constructor
      · rw [BacktestTotals.add, total_bump, totalled.once, List.length_append,
          List.length_singleton]
      · intro other
        rw [counted, mode, BacktestTotals.add, countOf_bump, totalled.modes]
      · rw [listed, List.map_append, ← totalled.pnls, BacktestTotals.add, List.map_singleton]
      · rw [listed, List.map_append, ← totalled.drawdowns, BacktestTotals.add, List.map_singleton]
      · intro newest first named
        rw [listed] at first
        rw [BacktestTotals.add]
        dsimp only
        cases before : past.filterMap tables.resultOf with
        | nil =>
            rw [before, List.nil_append, List.head?_cons, Option.some.injEq] at first
            rw [totalled.unset before, if_pos rfl, if_pos rfl, first]
            exact ⟨rfl, rfl⟩
        | cons head rest =>
            rw [before, List.cons_append, List.head?_cons] at first
            obtain ⟨pnl, latest⟩ := totalled.latest newest (by rw [before]; exact first) named
            have set_ : totals.latestMode ≠ "none" := by
              rw [latest]
              exact named
            rw [if_neg set_, if_neg set_]
            exact ⟨pnl, latest⟩
      · intro none_
        rw [listed] at none_
        exact absurd none_ (List.append_ne_nil_of_right_ne_nil _ (List.cons_ne_nil _ _))

theorem totalled_foldl (runs : List BacktestRun) :
    Totalled tables runs
      (runs.foldl (fun totals run => totals.add run (tables.resultOf run)) {}) := by
  induction runs using List.reverseRecOn with
  | nil => exact totalled_nil
  | append_singleton past run ih =>
      rw [List.foldl_append]
      exact ih.add run

theorem runsNewestFirst_perm :
    (tables.runsNewestFirst routeId).Perm (tables.history.routeRuns routeId) := by
  unfold EvidenceTables.runsNewestFirst BacktestHistory.routeRuns EvidenceTables.history
  dsimp only
  rw [List.filter_map]
  exact (newestFirst_perm _).map Stamped.row

theorem length_runsNewestFirst :
    (tables.runsNewestFirst routeId).length = (tables.history.routeRuns routeId).length :=
  runsNewestFirst_perm.length_eq

theorem countOf_modeCounts (mode : String) :
    countOf mode (tables.backtestTotals routeId).modeCounts =
      (tables.history.modeRuns routeId mode).length := by
  have totalled := @totalled_foldl tables (tables.runsNewestFirst routeId)
  rw [EvidenceTables.backtestTotals, totalled.modes, runsNewestFirst_perm.countP_eq,
    BacktestHistory.modeRuns, List.countP_eq_length_filter]

theorem max_drawdown {figures : List BacktestFigures} (some_ : figures ≠ []) :
    ∃ worst ∈ figures, (figures.map BacktestFigures.maxDrawdown).max? = some worst.maxDrawdown ∧
      ∀ other ∈ figures, other.maxDrawdown ≤ worst.maxDrawdown := by
  obtain ⟨largest, found⟩ : ∃ largest,
      (figures.map BacktestFigures.maxDrawdown).max? = some largest :=
    Option.isSome_iff_exists.mp (List.isSome_max?_of_ne_nil (by simpa using some_))
  obtain ⟨member, above⟩ := List.max?_eq_some_iff.mp found
  obtain ⟨worst, inFigures, rfl⟩ := List.mem_map.mp member
  exact ⟨worst, inFigures, found, fun other listed => above _ (List.mem_map_of_mem listed)⟩

theorem replaysTold (store : GroupedCounts) :
    ReplaysTold tables routeId (tables.commissioningStats store routeId) := by
  have totalled := @totalled_foldl tables (tables.runsNewestFirst routeId)
  have pnls : (tables.backtestTotals routeId).pnlValues =
      (tables.routeFigures routeId).map BacktestFigures.simulatedPnl := totalled.pnls
  have drawdowns : (tables.backtestTotals routeId).drawdowns =
      (tables.routeFigures routeId).map BacktestFigures.maxDrawdown := totalled.drawdowns
  have worst : (tables.commissioningStats store routeId).worstBacktestDrawdown =
      ((tables.routeFigures routeId).map BacktestFigures.maxDrawdown).max?.getD 0 := by
    rw [← drawdowns]
    rfl
  constructor
  · exact congrArg Nat.cast totalled.once
  · exact countOf_modeCounts
  · intro some_
    have values : (tables.routeFigures routeId).map BacktestFigures.simulatedPnl ≠ [] :=
      fun empty => some_ (List.map_eq_nil_iff.mp empty)
    obtain ⟨middle, found⟩ := median_found values
    have reported : (tables.commissioningStats store routeId).medianBacktestPnl = middle := by
      rw [EvidenceTables.commissioningStats]
      dsimp only
      rw [pnls, found, Option.getD_some]
    rw [reported]
    exact median_halves found
  · intro figures listed
    obtain ⟨largest, -, found, above⟩ := max_drawdown (List.ne_nil_of_mem listed)
    rw [worst, found, Option.getD_some]
    exact above figures listed
  · intro some_
    obtain ⟨largest, listed, found, -⟩ := max_drawdown some_
    exact ⟨largest, listed, by rw [worst, found, Option.getD_some]⟩
  · exact totalled.latest

/-- Readiness reads a missing mode as unknown before commissioning does. -/
theorem modeOrUnknown_missing (metadata : JsonObject) :
    modeOrUnknown (metadata.getD "replay_mode" (.text "unknown")).str =
      modeOrUnknown (metadata.getD "replay_mode" (.text "")).str := by
  unfold JsonObject.getD
  cases metadata.get? "replay_mode" with
  | none => decide
  | some value => rw [Option.getD_some, Option.getD_some]

theorem reportsAgree (store : GroupedCounts) :
    ReportsAgree tables routeId (tables.commissioningStats store routeId)
      (tables.backtestStats routeId) := by
  constructor
  · have counted : (tables.backtestStats routeId).backtestRunCount =
        (tables.runsNewestFirst routeId).length := by
      rw [EvidenceTables.backtestStats, EvidenceTables.runsNewestFirst, List.length_map,
        (newestFirst_perm _).length_eq, List.countP_eq_length_filter]
    rw [counted]
    rfl
  · have real : ((tables.marketSnapshots.filter fun snapshot =>
        snapshot.row.routeId = routeId).filter fun snapshot =>
          "real" = "" || snapshot.row.sourceType = "real").length ≤
            tables.observationCount routeId := by
      rw [EvidenceTables.observationCount, List.countP_eq_length_filter]
      exact List.length_filter_le _ _
    exact Int.ofNat_le.mpr real
  · intro run figures newest found named
    have first : (tables.routeFigures routeId).head? = some figures := by
      obtain ⟨older, runs⟩ := List.head?_eq_some_iff.mp newest
      rw [EvidenceTables.routeFigures, runs, List.filterMap_cons_some found, List.head?_cons]
    obtain ⟨pnl, mode⟩ := (replaysTold store).latest figures first named
    rw [pnl, mode, EvidenceTables.backtestStats]
    dsimp only
    rw [newest, Option.bind_some, found, Option.elim_some, Option.elim_some]
    exact ⟨rfl, modeOrUnknown_missing figures.metadata⟩

end Replays

/-! ### The rows behind the figures -/

section Rows

variable {tables : EvidenceTables} {store : GroupedCounts} {routeId : String}

theorem opportunityCount_eq {db : Database}
    (opportunities : db.opportunities = tables.opportunities.map Stamped.row) :
    db.opportunityCount routeId = (tables.routeOpportunities routeId).length := by
  rw [Database.opportunityCount, opportunities, List.countP_map,
    EvidenceTables.routeOpportunities, List.countP_eq_length_filter]
  rfl

theorem blockedRate_eq {db : Database}
    (opportunities : db.opportunities = tables.opportunities.map Stamped.row) {reason : String}
    (named : reason ≠ "") :
    db.blockedRate routeId reason =
      shareOf (store.groups (blockedReasons (tables.routeOpportunities routeId)))
        (tables.routeOpportunities routeId).length reason := by
  have blocked : db.blockedCount routeId reason = tables.blockedBy routeId reason := by
    rw [Database.blockedCount, opportunities, List.countP_map, EvidenceTables.blockedBy,
      EvidenceTables.routeOpportunities, List.countP_filter]
    apply List.countP_congr
    intro opportunity _listed
    simp only [Function.comp, Bool.and_eq_true, decide_eq_true_eq]
    exact And.comm
  rw [Database.blockedRate, shareOf, opportunityCount_eq opportunities, blocked, countOf_groups,
    count_blockedReasons _ named]
  rfl

theorem countsRows : CountsRows tables routeId
    (tables.commissioningStats store routeId).toCommissioningStats := by
  intro db opportunities attempts
  have rate : ∀ reason ≠ "", db.blockedRate routeId reason =
      shareOf (store.groups (blockedReasons (tables.routeOpportunities routeId)))
        (tables.routeOpportunities routeId).length reason :=
    fun _ named => blockedRate_eq opportunities named
  rw [CommissioningStats.withBacktests, CommissioningStats.withTables,
    opportunityCount_eq opportunities, rate "quote_unavailable" (by decide),
    rate "health_unknown" (by decide), rate "fee_unverified" (by decide),
    rate "balance_unverified" (by decide), rate "quote_mismatch" (by decide),
    Database.fatalPauseCountForRoute, Database.cooldownEventCountForRoute, attempts,
    ← countOf_modeCounts, ← countOf_modeCounts, ← length_runsNewestFirst]
  rfl

/-- Whatever the tables hold, and in whatever order the store lists equal counts. -/
theorem evidence_sound (tables : EvidenceTables) (store : GroupedCounts) (routeId : String) :
    EvidenceSound tables routeId (tables.commissioningStats store routeId) where
  rates := by
    rw [rates_eq]
    intro rate listed
    obtain ⟨reason, -, rfl⟩ := List.mem_map.mp listed
    exact shareOf_nonneg _ _ reason
  together := by
    rw [rates_eq]
    exact sum_shareOf_le _ (by decide)
  window := observationWindowDays_nonneg "real"
  reasons := reasonsTold
  replays := replaysTold store
  agree := reportsAgree store
  rows := countsRows

end Rows

end ArbitrageBot
