/-
The KPI table and the minimum gate side by side: the gate asks of the stats and
of the verdict what the KPIs of the same names ask, and more only of the rate of
unavailable quotes.
-/

import ArbitrageBot.Readiness.Promotion

namespace ArbitrageBot

def CommissioningRow.kpi? (row : CommissioningRow) (name : String) : Option Kpi :=
  row.kpiEvaluations.find? fun kpi => kpi.name = name

/-- The KPIs whose condition to not fail is one of the minimum gate too. -/
def gateKpis : List String :=
  [ "observation_window_days", "market_snapshot_count", "opportunity_count",
    "backtest_run_count_market_snapshots", "backtest_run_count_opportunities",
    "backtest_run_count_total", "support_status", "readiness_grade", "fatal_pause_unresolved" ]

/-! ### When a KPI fails -/

section Kinds

variable {name note : String} {critical : Bool}

@[simp] theorem minimumKpi_name {value threshold : Rat} :
    (minimumKpi name value threshold critical note).name = name :=
  rfl

@[simp] theorem maximumKpi_name {value threshold : Rat} :
    (maximumKpi name value threshold critical note).name = name :=
  rfl

@[simp] theorem rateKpi_name {value passMax warnMax : Rat} :
    (rateKpi name value passMax warnMax critical note).name = name :=
  rfl

@[simp] theorem enumKpi_name {α : Type*} [DecidableEq α] {value : α} {passWhen warnWhen : List α} :
    (enumKpi name value passWhen warnWhen critical note).name = name :=
  rfl

@[simp] theorem boolKpi_name {ok : Bool} : (boolKpi name ok critical note).name = name :=
  rfl

theorem minimumKpi_fails {value threshold : Rat} :
    (minimumKpi name value threshold critical note).status = .fail ↔ ¬threshold ≤ value := by
  unfold minimumKpi
  split <;> simp [*]

theorem rateKpi_passes {value passMax warnMax : Rat} :
    (rateKpi name value passMax warnMax critical note).status = .pass ↔ value ≤ passMax := by
  unfold rateKpi
  split
  · simp [*]
  · split <;> simp [*]

theorem boolKpi_fails {ok : Bool} :
    (boolKpi name ok critical note).status = .fail ↔ ok = false := by
  cases ok <;> simp [boolKpi]

end Kinds

section Table

variable {settings : Settings} {type : RouteType} {stats : CommissioningStats}
  {verdict : ReadinessVerdict}

def quoteUnavailableKpi (settings : Settings) (type : RouteType) (stats : CommissioningStats) :
    Kpi :=
  rateKpi "quote_unavailable_rate" stats.quoteUnavailableRate
    (maxQuoteUnavailableRate settings type) (warnQuoteUnavailableMax settings type) true
    "Reduce quote_unavailable frequency by fixing route support or keeping route out of promotion scope."

theorem find_quoteUnavailable :
    (evaluateKpis settings type stats verdict).find?
        (fun kpi => kpi.name = "quote_unavailable_rate") =
      some (quoteUnavailableKpi settings type stats) := by
  cases type <;>
    simp [evaluateKpis, backtestKpis, minimumKpi, rateKpi, quoteUnavailableKpi]

theorem quoteUnavailableKpi_mem :
    quoteUnavailableKpi settings type stats ∈ evaluateKpis settings type stats verdict := by
  simp [evaluateKpis, quoteUnavailableKpi]

theorem enumKpi_support_fails {name note : String} {critical : Bool} {support : SupportStatus} :
    (enumKpi name support [.supported] [] critical note).status = .fail ↔
      support ≠ .supported := by
  cases support <;> simp [enumKpi]

theorem enumKpi_grade_fails {name note : String} {critical : Bool} {grade : ReadinessGrade} :
    (enumKpi name grade [.green] [.yellow] critical note).status = .fail ↔ grade = .red := by
  cases grade <;> simp [enumKpi]

/-- The gate passes when none of its KPIs fails and the unavailable quotes pass. -/
theorem minimumGatePassed_iff :
    minimumGatePassed settings type stats verdict = true ↔
      (∀ kpi ∈ evaluateKpis settings type stats verdict, kpi.name ∈ gateKpis →
        kpi.status ≠ .fail) ∧
      (quoteUnavailableKpi settings type stats).status = .pass := by
  rw [quoteUnavailableKpi, rateKpi_passes]
  cases type <;>
    simp [minimumGatePassed, evaluateKpis, backtestKpis, gateKpis, minimumKpi_fails,
      enumKpi_support_fails, enumKpi_grade_fails, boolKpi_fails] <;>
    tauto

theorem gateKpis_critical :
    ∀ kpi ∈ evaluateKpis settings type stats verdict,
      kpi.name ∈ gateKpis → kpi.critical = true := by
  cases type <;>
    simp [evaluateKpis, backtestKpis, gateKpis, minimumKpi, rateKpi, enumKpi, boolKpi, maximumKpi]

/-- Once no critical KPI fails, the gate is the KPI of the unavailable quotes. -/
theorem minimumGatePassed_of_clean
    (clean : ¬∃ kpi ∈ evaluateKpis settings type stats verdict,
      kpi.critical = true ∧ kpi.status = .fail) :
    minimumGatePassed settings type stats verdict = true ↔
      (quoteUnavailableKpi settings type stats).status = .pass := by
  rw [minimumGatePassed_iff, and_iff_right_iff_imp]
  intro _ kpi member judged failed
  exact clean ⟨kpi, member, gateKpis_critical kpi member judged, failed⟩

theorem quoteUnavailableKpi_warn
    (clean : ¬∃ kpi ∈ evaluateKpis settings type stats verdict,
      kpi.critical = true ∧ kpi.status = .fail) :
    (quoteUnavailableKpi settings type stats).status = .warn ↔
      (quoteUnavailableKpi settings type stats).status ≠ .pass := by
  cases status : (quoteUnavailableKpi settings type stats).status with
  | pass | warn => simp
  | fail => exact absurd ⟨_, quoteUnavailableKpi_mem, rfl, status⟩ clean

end Table

theorem promotionGateStatus_notReady {type : RouteType} {fails : List String} {gatePassed : Bool}
    (typed : type ≠ .other) :
    promotionGateStatus type fails gatePassed = .notReady ↔ fails = [] ∧ gatePassed = false := by
  cases type with
  | other => exact absurd rfl typed
  | shadow | liveIntent =>
      cases gatePassed <;> by_cases clean : fails = [] <;> simp [promotionGateStatus, clean]

/-- The promotion status of a live-intent or shadow route is what its KPI table says, and the
minimum gate contradicts no KPI. -/
theorem promotionStatus_iff_kpis (settings : Settings) (route : Route)
    (stats : CommissioningStats) (readiness : Option ReadinessRow)
    (typed : routeType route.strategy ≠ .other) :
    let row := commissioningRow settings route stats readiness
    let fails := ∃ kpi ∈ row.kpiEvaluations, kpi.critical = true ∧ kpi.status = .fail
    let unavailable := (row.kpi? "quote_unavailable_rate").map Kpi.status
    let gate := minimumGatePassed settings row.routeType stats (readinessVerdict readiness)
    (row.promotionGateStatus = .promotionBlocked ↔ fails) ∧
    (row.routeType = .liveIntent →
      (row.promotionGateStatus = .reviewReady ↔ ¬fails ∧ unavailable = some .pass)) ∧
    (row.routeType = .shadow →
      (row.promotionGateStatus = .observationReady ↔ ¬fails ∧ unavailable = some .pass)) ∧
    (row.promotionGateStatus = .notReady ↔ ¬fails ∧ unavailable = some .warn) ∧
    (gate = true → ∀ kpi ∈ row.kpiEvaluations, kpi.name ∈ gateKpis → kpi.status ≠ .fail) ∧
    (¬fails → (gate = true ↔ unavailable = some .pass)) := by
  intro row fails unavailable gate
  have found : unavailable =
      some (quoteUnavailableKpi settings (routeType route.strategy) stats).status := by
    change ((evaluateKpis _ _ _ _).find? _).map Kpi.status = _
    rw [find_quoteUnavailable]
    rfl
  have clean : criticalFails row.kpiEvaluations = [] ↔ ¬fails :=
    (not_iff_comm.mp criticalFails_ne_nil).symm
  have passes : ¬fails → (gate = true ↔ unavailable = some .pass) := by
    intro noFails
    rw [found, Option.some_inj]
    exact minimumGatePassed_of_clean noFails
  have warned : ¬fails → (gate = false ↔ unavailable = some .warn) := by
    intro noFails
    rw [found, Option.some_inj, quoteUnavailableKpi_warn noFails, ← Bool.not_eq_true]
    exact not_congr (minimumGatePassed_of_clean noFails)
  have ready : criticalFails row.kpiEvaluations = [] ∧ gate = true ↔
      ¬fails ∧ unavailable = some .pass := by
    rw [clean]
    exact and_congr_right passes
  refine ⟨promotionBlocked_iff, ?_, ?_, ?_, ?_, passes⟩
  · intro live
    rw [← ready]
    exact promotionGateStatus_reviewReady.trans (and_iff_right live)
  · intro shadow
    rw [← ready]
    exact promotionGateStatus_observationReady.trans (and_iff_right shadow)
  · exact (promotionGateStatus_notReady typed).trans
      ((and_congr_left' clean).trans (and_congr_right warned))
  · intro passed
    exact (minimumGatePassed_iff.mp passed).1

/-- At the shipped thresholds with seven unavailable quotes in a hundred. -/
theorem promotionStatus_iff_kpis_warned :
    (commissioningRow shipped Sample.route
      { Sample.reviewStats with quoteUnavailableRate := 7 / 100 }
      (some (readinessRow shipped Sample.route 0 Sample.reviewInput))).promotionGateStatus =
        .notReady := by
  obtain ⟨-, -, -, notReady, -⟩ := promotionStatus_iff_kpis shipped Sample.route
    { Sample.reviewStats with quoteUnavailableRate := 7 / 100 }
    (some (readinessRow shipped Sample.route 0 Sample.reviewInput)) (by decide)
  exact notReady.mpr (by decide +kernel)

end ArbitrageBot
