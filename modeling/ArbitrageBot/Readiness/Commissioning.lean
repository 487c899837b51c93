/-
`CommissioningService._build_route_row`: the KPI table, the minimum gate and the
promotion status that they give.
-/

import ArbitrageBot.Library.DecimalRounding
import ArbitrageBot.Readiness.Readiness

namespace ArbitrageBot

open DecimalRounding

inductive RouteType
  | liveIntent | shadow | other
deriving DecidableEq

inductive KpiStatus
  | pass | warn | fail
deriving DecidableEq

inductive PromotionStatus
  | notReady | observationReady | reviewReady | promotionBlocked
deriving DecidableEq

inductive CommissioningPhase
  | mockSanity | realObservation | replayReview | commissioningReview
deriving DecidableEq

/-- A `KpiEvaluation`, without the texts of its value and threshold. -/
structure Kpi where
  name : String
  status : KpiStatus
  critical : Bool
  note : String

structure CommissioningStats where
  observationWindowDays : Rat
  marketSnapshotCount : Int
  opportunityCount : Int
  backtestRunCountTotal : Int
  backtestRunCountMarketSnapshots : Int
  backtestRunCountOpportunities : Int
  quoteUnavailableRate : Rat
  healthUnknownRate : Rat
  feeUnverifiedRate : Rat
  balanceUnverifiedRate : Rat
  quoteMismatchRate : Rat
  fatalPauseCount : Int
  cooldownEventCount : Int

/-- What commissioning takes from the readiness row. -/
structure ReadinessVerdict where
  supportStatus : SupportStatus
  grade : ReadinessGrade
  fatalPaused : Bool
  blockers : List String
  actions : List String

def readinessVerdict (readiness : Option ReadinessRow) : ReadinessVerdict :=
  { supportStatus :=
      normalizeSupportStatus (some (readiness.elim "unknown" fun row => row.supportStatus.text))
    grade := readiness.elim .red ReadinessRow.grade
    fatalPaused := readiness.elim false ReadinessRow.fatalPaused
    blockers := readiness.elim [] ReadinessRow.blockers
    actions := readiness.elim [] ReadinessRow.actions }

def routeType (strategy : String) : RouteType :=
  if strategy = "hyperevm_dex_dex" then .liveIntent
  else if strategy = "base_virtual_shadow" then .shadow
  else .other

/-! ### The kinds of KPI -/

def minimumKpi (name : String) (value threshold : Rat) (critical : Bool) (note : String) : Kpi :=
  { name, status := if threshold ≤ value then .pass else .fail, critical, note }

/-- `_minimum_kpi(reverse=True)`: too much only warns. -/
def maximumKpi (name : String) (value threshold : Rat) (critical : Bool) (note : String) : Kpi :=
  { name, status := if value ≤ threshold then .pass else .warn, critical, note }

def rateKpi (name : String) (value passMax warnMax : Rat) (critical : Bool) (note : String) : Kpi :=
  { name
    status := if value ≤ passMax then .pass else if value ≤ warnMax then .warn else .fail
    critical, note }

def enumKpi {α : Type*} [DecidableEq α] (name : String) (value : α) (passWhen warnWhen : List α)
    (critical : Bool) (note : String) : Kpi :=
  { name
    status := if value ∈ passWhen then .pass else if value ∈ warnWhen then .warn else .fail
    critical, note }

def boolKpi (name : String) (ok critical : Bool) (note : String) : Kpi :=
  { name, status := if ok then .pass else .fail, critical, note }

/-! ### The thresholds of a route type -/

section Thresholds

variable (settings : Settings) (type : RouteType)

def minObservationDays : Int :=
  if type = .liveIntent then settings.commissioningLiveMinObservationDays
  else settings.commissioningShadowMinObservationDays

def minMarketSnapshots : Int :=
  if type = .liveIntent then settings.commissioningLiveMinMarketSnapshots
  else settings.commissioningShadowMinMarketSnapshots

def minOpportunities : Int :=
  if type = .liveIntent then settings.commissioningLiveMinOpportunities
  else settings.commissioningShadowMinOpportunities

def maxQuoteUnavailableRate : Rat :=
  if type = .liveIntent then settings.commissioningLiveMaxQuoteUnavailableRate
  else settings.commissioningShadowMaxQuoteUnavailableRate

def warnQuoteUnavailableMax : Rat :=
  min (nearest 5 (maxQuoteUnavailableRate settings type * (3 / 2))) 1

end Thresholds

section Row

variable (settings : Settings) (type : RouteType) (stats : CommissioningStats)
  (readiness : ReadinessVerdict)

def backtestKpis : List Kpi :=
  if type = .liveIntent then
    [ minimumKpi "backtest_run_count_market_snapshots" stats.backtestRunCountMarketSnapshots
        settings.commissioningLiveMinBacktestRunsMarketSnapshots true
        "Run additional market_snapshots replay backtests.",
      minimumKpi "backtest_run_count_opportunities" stats.backtestRunCountOpportunities
        settings.commissioningLiveMinBacktestRunsOpportunities true
        "Run additional opportunities replay backtests." ]
  else
    [ minimumKpi "backtest_run_count_total" stats.backtestRunCountTotal
        settings.commissioningShadowMinBacktestRunsTotal true
        "Run additional replay/backtest iterations for observation review." ]

def evaluateKpis : List Kpi :=
  [ minimumKpi "observation_window_days" stats.observationWindowDays
      (minObservationDays settings type) true
      "Collect more real observation days before promotion review.",
    minimumKpi "market_snapshot_count" stats.marketSnapshotCount
      (minMarketSnapshots settings type) true
      "Increase market snapshot persistence volume for this route.",
    minimumKpi "opportunity_count" stats.opportunityCount (minOpportunities settings type) true
      "Collect more opportunity records to reduce sampling bias." ] ++
  backtestKpis settings type stats ++
  [ rateKpi "quote_unavailable_rate" stats.quoteUnavailableRate
      (maxQuoteUnavailableRate settings type) (warnQuoteUnavailableMax settings type) true
      "Reduce quote_unavailable frequency by fixing route support or keeping route out of promotion scope.",
    rateKpi "health_unknown_rate" stats.healthUnknownRate
      settings.commissioningWarnHealthUnknownRate settings.commissioningFailHealthUnknownRate true
      "Stabilize health telemetry so unknown states are rare and explainable.",
    rateKpi "fee_unverified_rate" stats.feeUnverifiedRate
      settings.commissioningWarnFeeUnverifiedRate settings.commissioningFailFeeUnverifiedRate true
      "Increase fee provenance confidence and reduce fallback-only runs.",
    rateKpi "balance_unverified_rate" stats.balanceUnverifiedRate
      settings.commissioningWarnBalanceUnverifiedRate
      settings.commissioningFailBalanceUnverifiedRate true
      "Improve balance verification (wallet/venue) and eliminate inventory drift.",
    rateKpi "quote_mismatch_rate" stats.quoteMismatchRate
      settings.commissioningWarnQuoteMismatchRate settings.commissioningFailQuoteMismatchRate true
      "Address quote mismatch causes before promotion review.",
    enumKpi "support_status" readiness.supportStatus [.supported] [] true
      "Unsupported or unknown support status must be resolved before promotion.",
    enumKpi "readiness_grade" readiness.grade [.green] [.yellow] true
      "Keep route out of promotion while readiness is red.",
    boolKpi "fatal_pause_unresolved" (!readiness.fatalPaused) true
      "Resolve fatal pause conditions and clear route pause with audit logging.",
    maximumKpi "fatal_pause_count" stats.fatalPauseCount 0 false
      "Review repeated fatal failure history before promotion discussions.",
    maximumKpi "cooldown_event_count" stats.cooldownEventCount 0 false
      "Investigate recurring cooldown triggers and reduce instability." ]

def minimumGatePassed : Bool :=
  let backtestOk : Bool :=
    if type = .liveIntent then
      settings.commissioningLiveMinBacktestRunsMarketSnapshots ≤
          stats.backtestRunCountMarketSnapshots &&
        settings.commissioningLiveMinBacktestRunsOpportunities ≤
          stats.backtestRunCountOpportunities
    else settings.commissioningShadowMinBacktestRunsTotal ≤ stats.backtestRunCountTotal
  (minObservationDays settings type : Rat) ≤ stats.observationWindowDays &&
    minMarketSnapshots settings type ≤ stats.marketSnapshotCount &&
    minOpportunities settings type ≤ stats.opportunityCount && backtestOk &&
    stats.quoteUnavailableRate ≤ maxQuoteUnavailableRate settings type &&
    readiness.supportStatus = .supported && readiness.grade ≠ .red && !readiness.fatalPaused

end Row

def criticalFails (kpis : List Kpi) : List String :=
  (kpis.filter fun kpi => kpi.critical && kpi.status = .fail).map Kpi.name

def promotionGateStatus (type : RouteType) (fails : List String) (gatePassed : Bool) :
    PromotionStatus :=
  if fails ≠ [] then .promotionBlocked
  else if !gatePassed then .notReady
  else
    match type with
    | .shadow => .observationReady
    | .liveIntent => .reviewReady
    | .other => .notReady

def phaseForRoute (stats : CommissioningStats) (status : PromotionStatus) : CommissioningPhase :=
  if stats.marketSnapshotCount = 0 ∧ stats.opportunityCount = 0 then .mockSanity
  else if stats.backtestRunCountTotal = 0 then .realObservation
  else if status = .reviewReady ∨ status = .observationReady then .commissioningReview
  else .replayReview

structure CommissioningRow where
  routeId : String
  strategy : String
  routeType : RouteType
  phase : CommissioningPhase
  readinessGrade : ReadinessGrade
  promotionGateStatus : PromotionStatus
  stats : CommissioningStats
  kpiEvaluations : List Kpi
  gateBlockers : List String
  humanActionItems : List String

/-- `_build_route_row`; the readiness row may be missing. -/
def commissioningRow (settings : Settings) (route : Route) (stats : CommissioningStats)
    (readiness : Option ReadinessRow) : CommissioningRow :=
  let type := routeType route.strategy
  let verdict := readinessVerdict readiness
  let kpis := evaluateKpis settings type stats verdict
  let fails := criticalFails kpis
  let status :=
    promotionGateStatus type fails (minimumGatePassed settings type stats verdict)
  let notes := (kpis.filter fun kpi => kpi.note ≠ "" && kpi.status ≠ .pass).map Kpi.note
  { routeId := route.id
    strategy := route.strategy
    routeType := type
    phase := phaseForRoute stats status
    readinessGrade := verdict.grade
    promotionGateStatus := status
    stats := stats
    kpiEvaluations := kpis
    gateBlockers := (fails ++ verdict.blockers).eraseDups
    humanActionItems := (verdict.actions ++ notes).eraseDups }

theorem readinessVerdict_supportStatus (row : ReadinessRow) :
    (readinessVerdict (some row)).supportStatus = row.supportStatus := by
  simp only [readinessVerdict, Option.elim_some, normalizeSupportStatus_text]

/-! ### Critical fails -/

theorem criticalFails_ne_nil {kpis : List Kpi} :
    criticalFails kpis ≠ [] ↔ ∃ kpi ∈ kpis, kpi.critical = true ∧ kpi.status = .fail := by
  simp [criticalFails, List.filter_eq_nil_iff]

theorem promotionGateStatus_blocked {type : RouteType} {fails : List String} {gatePassed : Bool} :
    promotionGateStatus type fails gatePassed = .promotionBlocked ↔ fails ≠ [] := by
  unfold promotionGateStatus
  split
  · rename_i failed
    exact iff_of_true rfl failed
  · rename_i noFails
    split
    · exact iff_of_false nofun noFails
    · cases type with
      | shadow | liveIntent | other => exact iff_of_false nofun noFails

theorem promotionBlocked_iff {settings : Settings} {route : Route} {stats : CommissioningStats}
    {readiness : Option ReadinessRow} :
    (commissioningRow settings route stats readiness).promotionGateStatus = .promotionBlocked ↔
      ∃ kpi ∈ (commissioningRow settings route stats readiness).kpiEvaluations,
        kpi.critical = true ∧ kpi.status = .fail := by
  rw [← criticalFails_ne_nil]
  exact promotionGateStatus_blocked

/-- A fatal pause in the readiness row blocks promotion, for every type of route. -/
theorem commissioningRow_blocked_of_fatalPaused {settings : Settings} {route : Route}
    {stats : CommissioningStats} {row : ReadinessRow} (paused : row.fatalPaused = true) :
    (commissioningRow settings route stats (some row)).promotionGateStatus = .promotionBlocked := by
  rw [promotionBlocked_iff]
  refine ⟨boolKpi "fatal_pause_unresolved" (!row.fatalPaused) true
    "Resolve fatal pause conditions and clear route pause with audit logging.", ?_, rfl, ?_⟩
  · simp [commissioningRow, evaluateKpis, readinessVerdict]
  · simp [boolKpi, paused]

end ArbitrageBot
