/-
The reports over all routes: `readiness_summary`, `commissioning_summary`, `commissioning_ranking`
and `daily_summary`. Each count of a summary is told apart from the others by a status of the row,
so the summaries can be reconciled with each other and with the rows.
-/

import ArbitrageBot.Library.BestFirst
import ArbitrageBot.Library.PythonText
import ArbitrageBot.Library.Tally
import ArbitrageBot.Readiness.KpiGate
import ArbitrageBot.Readiness.Ranking

namespace ArbitrageBot

open BestFirst PythonText Tally

/-! ### The rows of all routes -/

def routeReadinessRows (settings : Settings) (now : Instant) (routes : List Route)
    (input : String → ReadinessInput) (routeId : Option String) : List ReadinessRow :=
  (routes.filter fun route => routeId.all fun wanted => route.id = wanted).map fun route =>
    readinessRow settings route now (input route.id)

/-- `readiness_by_route.get(route_id)`: of two rows of one route the later one. -/
def readinessByRoute (rows : List ReadinessRow) (routeId : String) : Option ReadinessRow :=
  rows.reverse.find? fun row => row.routeId = routeId

def commissioningRouteRows (settings : Settings) (routes : List Route)
    (readinessRows : List ReadinessRow) (stats : String → CommissioningStats)
    (routeId : Option String) : List CommissioningRow :=
  (routes.filter fun route => routeId.all fun wanted => route.id = wanted).map fun route =>
    commissioningRow settings route (stats route.id) (readinessByRoute readinessRows route.id)

/-! ### The summaries -/

structure ReadinessSummary where
  redCount : Nat
  yellowCount : Nat
  greenCount : Nat
  totalRoutes : Nat
  latestBacktestMode : String

def readinessSummary (rows : List ReadinessRow) (lastMode : String) : ReadinessSummary :=
  { redCount := rows.countP fun row => row.grade = .red
    yellowCount := rows.countP fun row => row.grade = .yellow
    greenCount := rows.countP fun row => row.grade = .green
    totalRoutes := rows.length
    latestBacktestMode := lastMode }

structure CommissioningSummary where
  totalRoutes : Nat
  routesNotReady : Nat
  routesObservationReady : Nat
  routesReviewReady : Nat
  routesPromotionBlocked : Nat
  liveIntentRoutes : Nat
  shadowRoutes : Nat
  latestBacktestMode : String
  phaseCounts : Counts CommissioningPhase
  gateFailRouteCount : Nat
  gateWarnRouteCount : Nat

def CommissioningRow.hasKpi (row : CommissioningRow) (status : KpiStatus) : Bool :=
  row.kpiEvaluations.any fun kpi => kpi.status = status

def commissioningSummary (rows : List CommissioningRow) (latestMode : String) :
    CommissioningSummary :=
  { totalRoutes := rows.length
    routesNotReady := rows.countP fun row => row.promotionGateStatus = .notReady
    routesObservationReady := rows.countP fun row => row.promotionGateStatus = .observationReady
    routesReviewReady := rows.countP fun row => row.promotionGateStatus = .reviewReady
    routesPromotionBlocked := rows.countP fun row => row.promotionGateStatus = .promotionBlocked
    liveIntentRoutes := rows.countP fun row => row.routeType = .liveIntent
    shadowRoutes := rows.countP fun row => row.routeType = .shadow
    latestBacktestMode := latestMode
    phaseCounts := tally (rows.map CommissioningRow.phase)
    gateFailRouteCount := rows.countP fun row => row.hasKpi .fail
    gateWarnRouteCount := rows.countP fun row => row.hasKpi .warn }

/-! ### The ranking -/

structure KeyKpis where
  observationWindowDays : Rat
  marketSnapshotCount : Int
  opportunityCount : Int
  quoteUnavailableRate : Rat
  backtestRunCountTotal : Int
  backtestRunCountMarketSnapshots : Int
  backtestRunCountOpportunities : Int

structure RankedRow where
  rank : Nat
  routeId : String
  strategy : String
  routeType : RouteType
  phase : CommissioningPhase
  promotionGateStatus : PromotionStatus
  readinessGrade : ReadinessGrade
  score : Rat
  gateBlockers : List String
  humanActionItems : List String
  keyKpis : KeyKpis

def rankedRow (settings : Settings) (rank : Nat) (row : CommissioningRow) : RankedRow :=
  { rank
    routeId := row.routeId
    strategy := row.strategy
    routeType := row.routeType
    phase := row.phase
    promotionGateStatus := row.promotionGateStatus
    readinessGrade := row.readinessGrade
    score := scoreRow settings row
    gateBlockers := row.gateBlockers
    humanActionItems := row.humanActionItems
    keyKpis :=
      { observationWindowDays := row.stats.observationWindowDays
        marketSnapshotCount := row.stats.marketSnapshotCount
        opportunityCount := row.stats.opportunityCount
        quoteUnavailableRate := row.stats.quoteUnavailableRate
        backtestRunCountTotal := row.stats.backtestRunCountTotal
        backtestRunCountMarketSnapshots := row.stats.backtestRunCountMarketSnapshots
        backtestRunCountOpportunities := row.stats.backtestRunCountOpportunities } }

def rankRows (settings : Settings) (rows : List CommissioningRow) : List RankedRow :=
  (bestFirst (scoreRow settings) rows).mapIdx fun index row => rankedRow settings (index + 1) row

def commissioningRanking (settings : Settings) (rows : List CommissioningRow) (limit : Nat) :
    List RankedRow :=
  (rankRows settings rows).take limit

/-! ### The daily summary -/

structure WorstQuoteRoute where
  routeId : String
  strategy : String
  quoteUnavailableRate : Rat
  promotionGateStatus : PromotionStatus

structure RedRoute where
  routeId : String
  strategy : String
  promotionGateStatus : PromotionStatus
  gateBlockers : List String

structure DailySummary where
  totalRoutes : Nat
  reviewReadyCount : Nat
  observationReadyCount : Nat
  promotionBlockedCount : Nat
  gateFailRouteCount : Nat
  gateWarnRouteCount : Nat
  topBlockers : List (String × Nat)
  latestBacktestMode : String
  quoteUnavailableWorstRoutes : List WorstQuoteRoute
  readinessRedRoutes : List RedRoute
  bestCandidateRoutes : List RankedRow

def CommissioningRow.blockerKeys (row : CommissioningRow) : List String :=
  (row.gateBlockers.map strip).filter fun key => key ≠ ""

/-- `daily_summary`; the summary comes from a second reading of the rows. -/
def dailySummary (settings : Settings) (rows : List CommissioningRow)
    (summary : CommissioningSummary) (topN : Nat) : DailySummary :=
  let ranking := rankRows settings rows
  let blockers := tally (rows.flatMap CommissioningRow.blockerKeys)
  let worstQuoteRoutes :=
    (bestFirst (fun row : CommissioningRow => row.stats.quoteUnavailableRate) rows).take topN
  let readinessRedRoutes := (rows.filter fun row => row.readinessGrade = .red).take topN
  { totalRoutes := summary.totalRoutes
    reviewReadyCount := summary.routesReviewReady
    observationReadyCount := summary.routesObservationReady
    promotionBlockedCount := summary.routesPromotionBlocked
    gateFailRouteCount := summary.gateFailRouteCount
    gateWarnRouteCount := summary.gateWarnRouteCount
    topBlockers := (bestFirst Prod.snd blockers).take topN
    latestBacktestMode := summary.latestBacktestMode
    quoteUnavailableWorstRoutes := worstQuoteRoutes.map fun row =>
      { routeId := row.routeId
        strategy := row.strategy
        quoteUnavailableRate := row.stats.quoteUnavailableRate
        promotionGateStatus := row.promotionGateStatus }
    readinessRedRoutes := readinessRedRoutes.map fun row =>
      { routeId := row.routeId
        strategy := row.strategy
        promotionGateStatus := row.promotionGateStatus
        gateBlockers := row.gateBlockers }
    bestCandidateRoutes := ranking.take topN }

/-! ### What a row's status goes with -/

section Row

variable {settings : Settings} {route : Route} {stats : CommissioningStats}
  {readiness : Option ReadinessRow}

theorem maximumKpi_never_fails {name note : String} {critical : Bool} {value threshold : Rat} :
    (maximumKpi name value threshold critical note).status ≠ .fail := by
  unfold maximumKpi
  split <;> simp

theorem critical_of_fails {type : RouteType} {verdict : ReadinessVerdict} :
    ∀ kpi ∈ evaluateKpis settings type stats verdict, kpi.status = .fail → kpi.critical = true := by
  cases type <;>
    simp [evaluateKpis, backtestKpis, minimumKpi, rateKpi, enumKpi, boolKpi, maximumKpi_never_fails]

theorem hasKpi_fail :
    (commissioningRow settings route stats readiness).hasKpi .fail = true ↔
      (commissioningRow settings route stats readiness).promotionGateStatus =
        .promotionBlocked := by
  rw [promotionBlocked_iff, CommissioningRow.hasKpi, List.any_eq_true]
  constructor
  · rintro ⟨kpi, member, failed⟩
    have failed := of_decide_eq_true failed
    exact ⟨kpi, member, critical_of_fails kpi member failed, failed⟩
  · rintro ⟨kpi, member, -, failed⟩
    exact ⟨kpi, member, decide_eq_true failed⟩

theorem commissioningRow_readinessGrade :
    (commissioningRow settings route stats readiness).readinessGrade =
      (readinessVerdict readiness).grade :=
  rfl

theorem promotionBlocked_of_red
    (red : (commissioningRow settings route stats readiness).readinessGrade = .red) :
    (commissioningRow settings route stats readiness).promotionGateStatus = .promotionBlocked := by
  rw [promotionBlocked_iff]
  refine ⟨enumKpi "readiness_grade" (readinessVerdict readiness).grade [.green] [.yellow] true
    "Keep route out of promotion while readiness is red.", ?_, rfl, enumKpi_grade_fails.mpr red⟩
  simp [commissioningRow, evaluateKpis]

theorem hasKpi_warn_of_notReady (typed : routeType route.strategy ≠ .other)
    (notReady :
      (commissioningRow settings route stats readiness).promotionGateStatus = .notReady) :
    (commissioningRow settings route stats readiness).hasKpi .warn = true := by
  obtain ⟨noFails, gate⟩ := (promotionGateStatus_notReady typed).mp notReady
  have clean : ¬∃ kpi ∈ evaluateKpis settings (routeType route.strategy) stats
      (readinessVerdict readiness), kpi.critical = true ∧ kpi.status = .fail := by
    rw [← criticalFails_ne_nil]
    exact not_not_intro noFails
  have unavailable := (quoteUnavailableKpi_warn clean).mpr fun passes => by
    rw [(minimumGatePassed_of_clean clean).mpr passes] at gate
    cases gate
  exact List.any_eq_true.mpr ⟨_, quoteUnavailableKpi_mem, decide_eq_true unavailable⟩

end Row

/-! ### Counting rows -/

theorem length_eq_grades (rows : List ReadinessRow) :
    (rows.countP fun row => row.grade = .red) + (rows.countP fun row => row.grade = .yellow) +
      (rows.countP fun row => row.grade = .green) = rows.length := by
  induction rows with
  | nil => rfl
  | cons row rest ih =>
      cases grade : row.grade <;> simp [grade] <;> omega

theorem length_eq_statuses (rows : List CommissioningRow) :
    (rows.countP fun row => row.promotionGateStatus = .notReady) +
        (rows.countP fun row => row.promotionGateStatus = .observationReady) +
        (rows.countP fun row => row.promotionGateStatus = .reviewReady) +
        (rows.countP fun row => row.promotionGateStatus = .promotionBlocked) = rows.length := by
  induction rows with
  | nil => rfl
  | cons row rest ih =>
      cases status : row.promotionGateStatus <;> simp [status] <;> omega

theorem length_eq_types (rows : List CommissioningRow) :
    (rows.countP fun row => row.routeType = .liveIntent) +
        (rows.countP fun row => row.routeType = .shadow) +
        (rows.countP fun row => row.routeType = .other) = rows.length := by
  induction rows with
  | nil => rfl
  | cons row rest ih =>
      cases type : row.routeType <;> simp [type] <;> omega

/-- Rows that one of two tests covers. -/
theorem countP_le_add {α : Type*} {test first second : α → Bool} {rows : List α}
    (covered : ∀ row ∈ rows, test row = true → first row = true ∨ second row = true) :
    rows.countP test ≤ rows.countP first + rows.countP second := by
  induction rows with
  | nil => exact Nat.zero_le _
  | cons row rest ih =>
      have step := ih fun other member => covered other (.tail row member)
      have here := covered row List.mem_cons_self
      simp only [List.countP_cons]
      cases tested : test row with
      | false =>
          simp only [Bool.false_eq_true, if_false]
          omega
      | true =>
          rcases here tested with one | two
          · simp only [one, if_true]
            omega
          · simp only [two, if_true]
            omega

theorem exists_of_mem_right {α β : Type*} {related : α → β → Prop} {left : List α} {right : List β}
    (paired : List.Forall₂ related left right) {second : β} (listed : second ∈ right) :
    ∃ first ∈ left, related first second := by
  induction paired with
  | nil => cases listed
  | cons fits _ ih =>
      rcases List.mem_cons.mp listed with rfl | later
      · exact ⟨_, List.mem_cons_self, fits⟩
      · obtain ⟨first, member, fits⟩ := ih later
        exact ⟨first, .tail _ member, fits⟩

theorem countP_le_of_forall₂ {α β : Type*} {related : α → β → Prop} {test : α → Bool}
    {wanted : β → Bool} {left : List α} {right : List β} (paired : List.Forall₂ related left right)
    (implied : ∀ first second, related first second → test first = true → wanted second = true) :
    left.countP test ≤ right.countP wanted := by
  induction paired with
  | nil => exact Nat.le_refl _
  | @cons first second _ _ fits _ ih =>
      have here := implied first second fits
      simp only [List.countP_cons]
      cases tested : test first with
      | false =>
          simp only [Bool.false_eq_true, if_false]
          omega
      | true =>
          simp only [here tested, if_true]
          omega

/-! ### Both listings at one content of the tables -/

section Listing

variable {settings : Settings} {now : Instant} {routes : List Route}
  {input : String → ReadinessInput} {stats : String → CommissioningStats}

theorem mem_commissioningRouteRows {readinessRows : List ReadinessRow} {routeId : Option String}
    {row : CommissioningRow}
    (listed : row ∈ commissioningRouteRows settings routes readinessRows stats routeId) :
    ∃ route ∈ routes, row = commissioningRow settings route (stats route.id)
      (readinessByRoute readinessRows route.id) := by
  obtain ⟨route, member, rfl⟩ := List.mem_map.mp listed
  exact ⟨route, (List.mem_filter.mp member).1, rfl⟩

theorem readinessByRoute_eq (distinct : (routes.map Route.id).Nodup) {route : Route}
    (member : route ∈ routes) :
    readinessByRoute (routeReadinessRows settings now routes input none) route.id =
      some (readinessRow settings route now (input route.id)) := by
  have listed : readinessRow settings route now (input route.id) ∈
      routeReadinessRows settings now routes input none :=
    List.mem_map.mpr ⟨route, List.mem_filter.mpr ⟨member, rfl⟩, rfl⟩
  unfold readinessByRoute
  cases found : (routeReadinessRows settings now routes input none).reverse.find?
      fun row => row.routeId = route.id with
  | none =>
      have skipped := List.find?_eq_none.mp found _ (List.mem_reverse.mpr listed)
      exact absurd (decide_eq_true rfl) skipped
  | some row =>
      have named : row.routeId = route.id := by simpa using List.find?_some found
      have among := List.mem_reverse.mp (List.mem_of_find?_eq_some found)
      obtain ⟨other, otherMember, rfl⟩ := List.mem_map.mp among
      rw [List.inj_on_of_nodup_map distinct (List.mem_filter.mp otherMember).1 member named]

end Listing

structure RowReconciles (readiness : ReadinessRow) (row : CommissioningRow) : Prop where
  route : readiness.routeId = row.routeId
  grade : readiness.grade = row.readinessGrade
  fails : row.hasKpi .fail = true ↔ row.promotionGateStatus = .promotionBlocked
  red : readiness.grade = .red → row.promotionGateStatus = .promotionBlocked
  review : row.promotionGateStatus = .reviewReady → row.routeType = .liveIntent
  observation : row.promotionGateStatus = .observationReady → row.routeType = .shadow
  waiting : row.promotionGateStatus = .notReady →
    row.hasKpi .warn = true ∨ row.routeType = .other

/-- The counts of both summaries fit each other. -/
structure Reconciles (readiness : ReadinessSummary) (summary : CommissioningSummary) : Prop where
  routes : readiness.totalRoutes = summary.totalRoutes
  grades : readiness.redCount + readiness.yellowCount + readiness.greenCount = readiness.totalRoutes
  statuses :
    summary.routesNotReady + summary.routesObservationReady + summary.routesReviewReady +
      summary.routesPromotionBlocked = summary.totalRoutes
  phases : total summary.phaseCounts = summary.totalRoutes
  failing : summary.gateFailRouteCount = summary.routesPromotionBlocked
  red : readiness.redCount ≤ summary.routesPromotionBlocked
  review : summary.routesReviewReady ≤ summary.liveIntentRoutes
  observation : summary.routesObservationReady ≤ summary.shadowRoutes
  /-- A route that is neither ready nor blocked warns, or its strategy is of neither type. -/
  waiting : summary.routesNotReady + summary.liveIntentRoutes + summary.shadowRoutes ≤
    summary.gateWarnRouteCount + summary.totalRoutes

section Rows

variable {settings : Settings} {now : Instant} {routes : List Route}
  {input : String → ReadinessInput} {stats : String → CommissioningStats}

theorem rows_reconcile (distinct : (routes.map Route.id).Nodup) :
    List.Forall₂ RowReconciles (routeReadinessRows settings now routes input none)
      (commissioningRouteRows settings routes (routeReadinessRows settings now routes input none)
        stats none) := by
  generalize listing : routeReadinessRows settings now routes input none = readinessRows
  conv_lhs => rw [← listing, routeReadinessRows]
  rw [commissioningRouteRows, List.forall₂_map_left_iff, List.forall₂_map_right_iff,
    List.forall₂_same]
  intro route member
  have read : readinessByRoute readinessRows route.id =
      some (readinessRow settings route now (input route.id)) := by
    rw [← listing]
    exact readinessByRoute_eq distinct (List.mem_filter.mp member).1
  have grade : (readinessRow settings route now (input route.id)).grade =
      (commissioningRow settings route (stats route.id)
        (readinessByRoute readinessRows route.id)).readinessGrade := by
    rw [read, commissioningRow_readinessGrade, readinessVerdict_grade]
  constructor
  · rfl
  · exact grade
  · exact hasKpi_fail
  · intro red
    exact promotionBlocked_of_red (grade ▸ red)
  · intro ready
    exact (commissioningRow_reviewReady ready).1
  · intro ready
    exact commissioningRow_observationReady ready
  · intro notReady
    by_cases other : routeType route.strategy = .other
    · exact .inr other
    · exact .inl (hasKpi_warn_of_notReady other notReady)

end Rows

/-- The two summaries of one content of the tables reconcile, route by route and in every count,
whatever the evidence is. -/
theorem summaries_reconcile (settings : Settings) (now : Instant) (routes : List Route)
    (distinct : (routes.map Route.id).Nodup) (input : String → ReadinessInput)
    (stats : String → CommissioningStats) (latestMode : String) :
    let readinessRows := routeReadinessRows settings now routes input none
    let rows := commissioningRouteRows settings routes readinessRows stats none
    List.Forall₂ RowReconciles readinessRows rows ∧
      Reconciles (readinessSummary readinessRows latestMode)
        (commissioningSummary rows latestMode) := by
  intro readinessRows rows
  have paired : List.Forall₂ RowReconciles readinessRows rows := rows_reconcile distinct
  have reconciled : ∀ row ∈ rows, ∃ readiness, RowReconciles readiness row := by
    intro row listed
    obtain ⟨readiness, -, fits⟩ := exists_of_mem_right paired listed
    exact ⟨readiness, fits⟩
  refine ⟨paired, ?_⟩
  constructor
  · exact paired.length_eq
  · exact length_eq_grades readinessRows
  · exact length_eq_statuses rows
  · exact (total_tally _).trans (List.length_map _)
  · apply List.countP_congr
    intro row listed
    obtain ⟨_, fits⟩ := reconciled row listed
    rw [decide_eq_true_iff]
    exact fits.fails
  · exact countP_le_of_forall₂ paired fun _ _ fits red =>
      decide_eq_true (fits.red (of_decide_eq_true red))
  · apply List.countP_mono_left
    intro row listed ready
    obtain ⟨_, fits⟩ := reconciled row listed
    exact decide_eq_true (fits.review (of_decide_eq_true ready))
  · apply List.countP_mono_left
    intro row listed ready
    obtain ⟨_, fits⟩ := reconciled row listed
    exact decide_eq_true (fits.observation (of_decide_eq_true ready))
  · have types := length_eq_types rows
    have waiting : (rows.countP fun row => row.promotionGateStatus = .notReady) ≤
        (rows.countP fun row => row.hasKpi .warn) +
          rows.countP fun row => row.routeType = .other := by
      apply countP_le_add
      intro row listed notReady
      obtain ⟨_, fits⟩ := reconciled row listed
      exact (fits.waiting (of_decide_eq_true notReady)).imp_right decide_eq_true
    simp only [commissioningSummary]
    omega

namespace Sample

def observedRoute : Route :=
  { route with id := "shadow", strategy := "base_virtual_shadow" }

/-- Both routes with the evidence of the one under review. -/
def reviewRows (settings : Settings) : List CommissioningRow :=
  commissioningRouteRows settings [route, observedRoute]
    (routeReadinessRows settings 0 [route, observedRoute] (fun _ => reviewInput) none)
    (fun _ => reviewStats) none

end Sample

theorem summaries_reconcile_sample :
    List.Forall₂ RowReconciles
        (routeReadinessRows shipped 0 [Sample.route, Sample.observedRoute]
          (fun _ => Sample.reviewInput) none)
        (Sample.reviewRows shipped) ∧
      Reconciles
        (readinessSummary (routeReadinessRows shipped 0 [Sample.route, Sample.observedRoute]
          (fun _ => Sample.reviewInput) none) "opportunities")
        (commissioningSummary (Sample.reviewRows shipped) "opportunities") :=
  summaries_reconcile shipped 0 [Sample.route, Sample.observedRoute] (by decide)
    (fun _ => Sample.reviewInput) (fun _ => Sample.reviewStats) "opportunities"

end ArbitrageBot
