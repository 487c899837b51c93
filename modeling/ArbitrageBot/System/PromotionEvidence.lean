/-
A promotion review and the rows it rests on. The gate reads stats; a row of commissioning that is
built from the tables and ready for review says that the tables hold the snapshots, opportunities
and replays that the thresholds ask for.
-/

import ArbitrageBot.Readiness.KpiGate
import ArbitrageBot.System.Evidence

namespace ArbitrageBot

open DecimalRounding PythonText

/-- The row of commissioning, with the readiness row it takes up, as both read the tables. -/
def rowFromTables (settings : Settings) (route : Route) (tables : EvidenceTables)
    (store : GroupedCounts) (now : Instant) (input : ReadinessInput) : CommissioningRow :=
  commissioningRow settings route (tables.commissioningStats store route.id).toCommissioningStats
    (some (readinessRow settings route now (input.withEvidence tables store now route.id)))

def EvidenceTables.realSnapshots (tables : EvidenceTables) (routeId : String) :
    List (Stamped SnapshotKey) :=
  tables.marketSnapshots.filter fun snapshot =>
    snapshot.row.routeId = routeId && snapshot.row.sourceType = "real"

/-- The largest part of the opportunities that a reason may block. -/
def liveLimits (settings : Settings) : List (String × Rat) :=
  [ ("quote_unavailable", settings.commissioningLiveMaxQuoteUnavailableRate),
    ("health_unknown", max settings.commissioningWarnHealthUnknownRate
      settings.commissioningFailHealthUnknownRate),
    ("fee_unverified", max settings.commissioningWarnFeeUnverifiedRate
      settings.commissioningFailFeeUnverifiedRate),
    ("balance_unverified", max settings.commissioningWarnBalanceUnverifiedRate
      settings.commissioningFailBalanceUnverifiedRate),
    ("quote_mismatch", max settings.commissioningWarnQuoteMismatchRate
      settings.commissioningFailQuoteMismatchRate) ]

/-- Half of the last digit of `observation_window_days`, in microseconds. -/
def windowRounding : Int := 432000

/-- The rows that the thresholds of a live route ask for. -/
structure RowsSupport (settings : Settings) (tables : EvidenceTables) (route : Route) : Prop where
  strategy : route.strategy = "hyperevm_dex_dex"
  snapshots :
    settings.commissioningLiveMinMarketSnapshots ≤ (tables.realSnapshots route.id).length
  span : 1 ≤ settings.commissioningLiveMinObservationDays →
    ∃ first ∈ tables.realSnapshots route.id, ∃ last ∈ tables.realSnapshots route.id,
      settings.commissioningLiveMinObservationDays * seconds 86400 - windowRounding ≤
        last.stamp - first.stamp
  opportunities :
    settings.commissioningLiveMinOpportunities ≤ (tables.routeOpportunities route.id).length
  blocked : ∀ limit ∈ liveLimits settings, (tables.blockedBy route.id limit.1 : Rat) ≤
    limit.2 * (tables.routeOpportunities route.id).length
  snapshotReplays : settings.commissioningLiveMinBacktestRunsMarketSnapshots ≤
    (tables.history.modeRuns route.id "market_snapshots").length
  opportunityReplays : settings.commissioningLiveMinBacktestRunsOpportunities ≤
    (tables.history.modeRuns route.id "opportunities").length
  replayed : (tables.history.routeRuns route.id) ≠ []

section Rows

variable {settings : Settings} {tables : EvidenceTables} {store : GroupedCounts}
  {routeId : String}

theorem rateKpi_not_fails {name note : String} {critical : Bool} {value passMax warnMax : Rat}
    (held : (rateKpi name value passMax warnMax critical note).status ≠ .fail) :
    value ≤ max passMax warnMax := by
  unfold rateKpi at held
  dsimp only at held
  split at held
  · exact le_max_of_le_left (by assumption)
  · split at held
    · exact le_max_of_le_right (by assumption)
    · exact absurd rfl held

/-- A bound on the share bounds the rows. -/
theorem blockedBy_le {reason : String} (named : reason ≠ "") {limit : Rat}
    (bounded : shareOf (store.groups (blockedReasons (tables.routeOpportunities routeId)))
      (tables.routeOpportunities routeId).length reason ≤ limit) :
    (tables.blockedBy routeId reason : Rat) ≤
      limit * (tables.routeOpportunities routeId).length := by
  rw [shareOf, countOf_groups, count_blockedReasons _ named] at bounded
  split at bounded
  · rename_i some_
    rwa [div_le_iff₀ (by exact_mod_cast some_)] at bounded
  · rename_i none_
    have empty : tables.routeOpportunities routeId = [] :=
      List.length_eq_zero_iff.mp (Nat.eq_zero_of_not_pos none_)
    simp [EvidenceTables.blockedBy, empty]

theorem realSnapshots_eq : ((tables.marketSnapshots.filter fun snapshot =>
    snapshot.row.routeId = routeId).filter fun snapshot => snapshot.row.sourceType = "real") =
      tables.realSnapshots routeId := by
  rw [EvidenceTables.realSnapshots, List.filter_filter]
  simp only [Bool.and_comm]

theorem marketSnapshotCount_eq :
    (tables.observationWindow routeId "real").marketSnapshotCount =
      (tables.realSnapshots routeId).length := by
  rw [← realSnapshots_eq]
  rfl

/-- A window of at least a day lies between two snapshots, but for the rounding. -/
theorem span_of_window {days : Int} (some_ : 1 ≤ days)
    (observed : (days : Rat) ≤ (tables.observationWindow routeId "real").observationWindowDays) :
    ∃ first ∈ tables.realSnapshots routeId, ∃ last ∈ tables.realSnapshots routeId,
      days * seconds 86400 - windowRounding ≤ last.stamp - first.stamp := by
  unfold EvidenceTables.observationWindow at observed
  dsimp only at observed
  rw [realSnapshots_eq] at observed
  split at observed
  · rename_i earliest latest foundEarliest foundLatest
    obtain ⟨first, inFirst, rfl⟩ := List.mem_map.mp (List.min?_mem foundEarliest)
    obtain ⟨last, inLast, rfl⟩ := List.mem_map.mp (List.max?_mem foundLatest)
    refine ⟨first, inFirst, last, inLast, ?_⟩
    have near := (abs_le.mp (nearest_near 5 (totalSeconds (last.stamp - first.stamp) / 86400))).2
    have wide : ((days * seconds 86400 - windowRounding : Int) : Rat) ≤
        ((last.stamp - first.stamp : Int) : Rat) := by
      rw [totalSeconds] at near observed
      rw [seconds, windowRounding]
      push_cast at near observed ⊢
      linarith
    exact Int.cast_le.mp wide
  · have positive : (1 : Rat) ≤ days := by exact_mod_cast some_
    linarith

theorem replayed_of_not_red {route : Route} {now : Instant} {input : ReadinessInput}
    (strategy : route.strategy = "hyperevm_dex_dex")
    (notRed : gradeFromBlockers ((readinessFacts route.strategy now
      (input.withEvidence tables store now route.id)).blockers settings) ≠ .red) :
    tables.history.routeRuns route.id ≠ [] := by
  have live : (readinessFacts route.strategy now
      (input.withEvidence tables store now route.id)).strategy ≠ "base_virtual_shadow" := by
    rw [readinessFacts_strategy, strategy]
    decide
  have backtested : (1 : Int) ≤ (tables.backtestStats route.id).backtestRunCount :=
    (liveEvidence_of_not_red live notRed).backtested
  have runs : ((tables.backtestStats route.id).backtestRunCount : Int) =
      (tables.runsNewestFirst route.id).length := (reportsAgree store).runs
  intro none_
  rw [runs, length_runsNewestFirst, none_] at backtested
  exact absurd backtested (by decide)

end Rows

/-- A row that is ready for review rests on rows of the tables. -/
theorem review_rests_on_rows {settings : Settings} {route : Route} {tables : EvidenceTables}
    {store : GroupedCounts} {now : Instant} {input : ReadinessInput}
    (ready :
      (rowFromTables settings route tables store now input).promotionGateStatus = .reviewReady) :
    RowsSupport settings tables route := by
  obtain ⟨live, clean, passed⟩ := promotionGateStatus_reviewReady.mp ready
  have strategy : route.strategy = "hyperevm_dex_dex" := by
    unfold routeType at live
    split at live
    · assumption
    · split at live <;> cases live
  rw [live] at clean passed
  obtain ⟨thresholds, notRed⟩ := liveThresholds_of_minimumGatePassed passed
  have held : ∀ kpi ∈ evaluateKpis settings .liveIntent
      (tables.commissioningStats store route.id).toCommissioningStats
      (readinessVerdict (some (readinessRow settings route now
        (input.withEvidence tables store now route.id)))),
      kpi.critical = true → kpi.status ≠ .fail := by
    intro kpi listed critical failed
    exact criticalFails_ne_nil.mpr ⟨kpi, listed, critical, failed⟩ clean
  simp only [evaluateKpis, List.forall_mem_append, List.forall_mem_cons, List.not_mem_nil,
    false_implies, implies_true, and_true] at held
  obtain ⟨-, -, health, fee, balance, mismatch, -⟩ := held
  have listed : ∀ limit ∈ liveLimits settings,
      limit.1 ≠ "" ∧ shareOf (store.groups (blockedReasons (tables.routeOpportunities route.id)))
        (tables.routeOpportunities route.id).length limit.1 ≤ limit.2 := by
    simp only [liveLimits, List.forall_mem_cons, List.not_mem_nil, false_implies, implies_true,
      and_true]
    refine ⟨⟨by decide, thresholds.quoteUnavailable⟩, ⟨by decide, ?_⟩, ⟨by decide, ?_⟩,
      ⟨by decide, ?_⟩, ⟨by decide, ?_⟩⟩
    · exact rateKpi_not_fails (health rfl)
    · exact rateKpi_not_fails (fee rfl)
    · exact rateKpi_not_fails (balance rfl)
    · exact rateKpi_not_fails (mismatch rfl)
  exact
    { strategy := strategy
      snapshots := by
        rw [← marketSnapshotCount_eq]
        exact thresholds.marketSnapshots
      span := fun some_ => span_of_window some_ thresholds.observationDays
      opportunities := thresholds.opportunities
      blocked := fun limit inLimits =>
        blockedBy_le (listed limit inLimits).1 (listed limit inLimits).2
      snapshotReplays := by
        rw [← countOf_modeCounts]
        exact thresholds.snapshotReplays
      opportunityReplays := by
        rw [← countOf_modeCounts]
        exact thresholds.opportunityReplays
      replayed := by
        rw [readinessVerdict_grade, readinessRow_grade] at notRed
        exact replayed_of_not_red strategy notRed }

namespace Sample

def smallThresholds : Settings :=
  { shipped with
    commissioningLiveMinObservationDays := 1
    commissioningLiveMinMarketSnapshots := 2
    commissioningLiveMinOpportunities := 1
    commissioningLiveMinBacktestRunsMarketSnapshots := 1
    commissioningLiveMinBacktestRunsOpportunities := 1 }

def observedTables : EvidenceTables where
  opportunities :=
    [⟨0, { quote := calmQuote route.id, mode := .paper, status := "eligible"
           blockedReason := "" }⟩]
  marketSnapshots :=
    [⟨0, { routeId := route.id, sourceType := "real" }⟩,
      ⟨seconds 86400, { routeId := route.id, sourceType := "real" }⟩]
  backtestRuns :=
    [⟨0, { id := "first", routeId := route.id, notes := "replay_mode=opportunities" }⟩,
      ⟨1, { id := "second", routeId := route.id, notes := "replay_mode=market_snapshots" }⟩]
  backtestResults := []
  oneResult := List.nodup_nil

end Sample

theorem review_rests_on_rows_sample :
    RowsSupport Sample.smallThresholds Sample.observedTables Sample.route := by
  apply @review_rests_on_rows Sample.smallThresholds Sample.route Sample.observedTables default 0
    Sample.reviewInput
  decide +kernel

end ArbitrageBot
