/-
`CommissioningService._score_row`: the points by which routes are ranked, and
that better evidence costs neither points nor standing.
-/

import Mathlib.Algebra.Order.BigOperators.Group.List
import ArbitrageBot.Readiness.Promotion

namespace ArbitrageBot

open DecimalRounding

/-! ### The score -/

def PromotionStatus.points : PromotionStatus → Rat
  | .reviewReady => 45
  | .observationReady => 40
  | .notReady => 20
  | .promotionBlocked => 5

def ReadinessGrade.points : ReadinessGrade → Rat
  | .green => 20
  | .yellow => 10
  | .red => 0

structure RouteThresholds where
  minObservationDays : Rat
  minMarketSnapshots : Rat
  minOpportunities : Rat
  minBacktestMarketSnapshots : Rat
  minBacktestOpportunities : Rat
  minBacktestTotal : Rat

def routeThresholds (settings : Settings) (type : RouteType) : RouteThresholds :=
  if type = .liveIntent then
    { minObservationDays := settings.commissioningLiveMinObservationDays
      minMarketSnapshots := settings.commissioningLiveMinMarketSnapshots
      minOpportunities := settings.commissioningLiveMinOpportunities
      minBacktestMarketSnapshots := settings.commissioningLiveMinBacktestRunsMarketSnapshots
      minBacktestOpportunities := settings.commissioningLiveMinBacktestRunsOpportunities
      minBacktestTotal := 0 }
  else
    { minObservationDays := settings.commissioningShadowMinObservationDays
      minMarketSnapshots := settings.commissioningShadowMinMarketSnapshots
      minOpportunities := settings.commissioningShadowMinOpportunities
      minBacktestMarketSnapshots := 0
      minBacktestOpportunities := 0
      minBacktestTotal := settings.commissioningShadowMinBacktestRunsTotal }

def completionRatio (value required : Rat) : Rat :=
  if required ≤ 0 then 1
  else
    let ratio := value / required
    if ratio < 0 then 0 else min ratio 1

def completionBonus (thresholds : RouteThresholds) (type : RouteType)
    (stats : CommissioningStats) : Rat :=
  let observationRatio :=
    completionRatio stats.observationWindowDays thresholds.minObservationDays
  let snapshotRatio := completionRatio stats.marketSnapshotCount thresholds.minMarketSnapshots
  let opportunityRatio := completionRatio stats.opportunityCount thresholds.minOpportunities
  let backtestRatio :=
    if type = .liveIntent then
      (completionRatio stats.backtestRunCountMarketSnapshots
          thresholds.minBacktestMarketSnapshots +
        completionRatio stats.backtestRunCountOpportunities
          thresholds.minBacktestOpportunities) / 2
    else completionRatio stats.backtestRunCountTotal thresholds.minBacktestTotal
  (observationRatio + snapshotRatio + opportunityRatio + backtestRatio) / 4 * 20

def rawScore (settings : Settings) (row : CommissioningRow) : Rat :=
  let failCount := row.kpiEvaluations.countP fun kpi => kpi.status = .fail
  let warnCount := row.kpiEvaluations.countP fun kpi => kpi.status = .warn
  let liveIntentBonus : Rat := if row.routeType = .liveIntent then 8 else 0
  let thresholds := routeThresholds settings row.routeType
  let quotePenalty := min 15 (row.stats.quoteUnavailableRate * 200)
  row.promotionGateStatus.points + row.readinessGrade.points + liveIntentBonus +
    completionBonus thresholds row.routeType row.stats - failCount * 12 - warnCount * 4 -
    quotePenalty

def clampedScore (settings : Settings) (row : CommissioningRow) : Rat :=
  let score := rawScore settings row
  let score := if score < 0 then 0 else score
  if 100 < score then 100 else score

def scoreRow (settings : Settings) (row : CommissioningRow) : Rat :=
  nearest 3 (clampedScore settings row)

/-! ### Orders of evidence -/

/-- `promotion_blocked`, `not_ready`, and either kind of ready. -/
def PromotionStatus.rank : PromotionStatus → Nat
  | .promotionBlocked => 0
  | .notReady => 1
  | .observationReady | .reviewReady => 2

def ReadinessGrade.rank : ReadinessGrade → Nat
  | .red => 0
  | .yellow => 1
  | .green => 2

/-- What a KPI of this status takes off the score. -/
def KpiStatus.penalty : KpiStatus → Rat
  | .pass => 0
  | .warn => 4
  | .fail => 12

structure CommissioningStats.AtLeastAsGood (worse better : CommissioningStats) : Prop where
  observationDays : worse.observationWindowDays ≤ better.observationWindowDays
  marketSnapshots : worse.marketSnapshotCount ≤ better.marketSnapshotCount
  opportunities : worse.opportunityCount ≤ better.opportunityCount
  replays : worse.backtestRunCountTotal ≤ better.backtestRunCountTotal
  snapshotReplays :
    worse.backtestRunCountMarketSnapshots ≤ better.backtestRunCountMarketSnapshots
  opportunityReplays : worse.backtestRunCountOpportunities ≤ better.backtestRunCountOpportunities
  quoteUnavailable : better.quoteUnavailableRate ≤ worse.quoteUnavailableRate
  healthUnknown : better.healthUnknownRate ≤ worse.healthUnknownRate
  feeUnverified : better.feeUnverifiedRate ≤ worse.feeUnverifiedRate
  balanceUnverified : better.balanceUnverifiedRate ≤ worse.balanceUnverifiedRate
  quoteMismatch : better.quoteMismatchRate ≤ worse.quoteMismatchRate
  fatalPauses : better.fatalPauseCount ≤ worse.fatalPauseCount
  cooldowns : better.cooldownEventCount ≤ worse.cooldownEventCount

structure ReadinessVerdict.AtLeastAsGood (worse better : ReadinessVerdict) : Prop where
  support : worse.supportStatus = .supported → better.supportStatus = .supported
  grade : worse.grade.rank ≤ better.grade.rank
  fatalPaused : better.fatalPaused = true → worse.fatalPaused = true

/-- The same KPI, no worse. -/
structure Kpi.Improves (worse better : Kpi) : Prop where
  critical : worse.critical = better.critical
  penalty : better.status.penalty ≤ worse.status.penalty

/-! ### KPIs -/

section Kpis

variable {name note : String} {critical : Bool}

theorem Kpi.Improves.refl (kpi : Kpi) : Kpi.Improves kpi kpi :=
  ⟨rfl, le_rfl⟩

theorem minimumKpi_improves {worse better threshold : Rat} (ordered : worse ≤ better) :
    (minimumKpi name worse threshold critical note).Improves
      (minimumKpi name better threshold critical note) := by
  refine ⟨rfl, ?_⟩
  by_cases reached : threshold ≤ worse
  · have still : threshold ≤ better := reached.trans ordered
    simp [minimumKpi, reached, still]
  · simp only [minimumKpi, if_neg reached]
    split <;> simp [KpiStatus.penalty]

theorem maximumKpi_improves {worse better threshold : Rat} (ordered : better ≤ worse) :
    (maximumKpi name worse threshold critical note).Improves
      (maximumKpi name better threshold critical note) := by
  refine ⟨rfl, ?_⟩
  by_cases within : worse ≤ threshold
  · have still : better ≤ threshold := ordered.trans within
    simp [maximumKpi, within, still]
  · simp only [maximumKpi, if_neg within]
    split <;> simp [KpiStatus.penalty]

theorem rateKpi_improves {worse better passMax warnMax : Rat} (ordered : better ≤ worse) :
    (rateKpi name worse passMax warnMax critical note).Improves
      (rateKpi name better passMax warnMax critical note) := by
  refine ⟨rfl, ?_⟩
  by_cases passes : better ≤ passMax
  · simp only [rateKpi, if_pos passes]
    split
    · exact le_rfl
    · split <;> simp [KpiStatus.penalty]
  · have failsToo : ¬worse ≤ passMax := fun within => passes (ordered.trans within)
    simp only [rateKpi, if_neg passes, if_neg failsToo]
    by_cases warns : worse ≤ warnMax
    · simp [warns, ordered.trans warns]
    · simp only [if_neg warns]
      split <;> norm_num [KpiStatus.penalty]

theorem boolKpi_improves {worse better : Bool} (ordered : worse = true → better = true) :
    (boolKpi name worse critical note).Improves (boolKpi name better critical note) := by
  refine ⟨rfl, ?_⟩
  cases worse with
  | true => simp [boolKpi, ordered rfl]
  | false => cases better <;> simp [boolKpi, KpiStatus.penalty]

theorem supportKpi_improves {worse better : SupportStatus}
    (ordered : worse = .supported → better = .supported) :
    (enumKpi name worse [.supported] [] critical note).Improves
      (enumKpi name better [.supported] [] critical note) := by
  refine ⟨rfl, ?_⟩
  by_cases supported : worse = .supported
  · rw [supported, ordered supported]
  · by_cases improved : better = .supported <;>
      simp [enumKpi, supported, improved, KpiStatus.penalty]

/-- What the KPI of a grade takes off the score. -/
def ReadinessGrade.penalty : ReadinessGrade → Rat
  | .green => 0
  | .yellow => 4
  | .red => 12

theorem gradeKpi_penalty (grade : ReadinessGrade) :
    (enumKpi name grade [.green] [.yellow] critical note).status.penalty = grade.penalty := by
  cases grade <;> rfl

theorem gradeKpi_improves {worse better : ReadinessGrade} (ordered : worse.rank ≤ better.rank) :
    (enumKpi name worse [.green] [.yellow] critical note).Improves
      (enumKpi name better [.green] [.yellow] critical note) := by
  refine ⟨rfl, ?_⟩
  rw [gradeKpi_penalty, gradeKpi_penalty]
  revert ordered
  cases worse <;> cases better <;> norm_num [ReadinessGrade.penalty, ReadinessGrade.rank]

end Kpis

section Better

variable {settings : Settings} {type : RouteType} {worse better : CommissioningStats}
  {worseVerdict betterVerdict : ReadinessVerdict}

theorem backtestKpis_improve (stats : worse.AtLeastAsGood better) :
    List.Forall₂ Kpi.Improves (backtestKpis settings type worse)
      (backtestKpis settings type better) := by
  unfold backtestKpis
  split
  · exact .cons (minimumKpi_improves (Int.cast_le.mpr stats.snapshotReplays))
      (.cons (minimumKpi_improves (Int.cast_le.mpr stats.opportunityReplays)) .nil)
  · exact .cons (minimumKpi_improves (Int.cast_le.mpr stats.replays)) .nil

theorem evaluateKpis_improve (stats : worse.AtLeastAsGood better)
    (verdict : worseVerdict.AtLeastAsGood betterVerdict) :
    List.Forall₂ Kpi.Improves (evaluateKpis settings type worse worseVerdict)
      (evaluateKpis settings type better betterVerdict) := by
  unfold evaluateKpis
  refine List.rel_append (List.rel_append ?_ (backtestKpis_improve stats)) ?_
  · exact .cons (minimumKpi_improves stats.observationDays)
      (.cons (minimumKpi_improves (Int.cast_le.mpr stats.marketSnapshots))
        (.cons (minimumKpi_improves (Int.cast_le.mpr stats.opportunities)) .nil))
  · refine .cons (rateKpi_improves stats.quoteUnavailable) ?_
    refine .cons (rateKpi_improves stats.healthUnknown) ?_
    refine .cons (rateKpi_improves stats.feeUnverified) ?_
    refine .cons (rateKpi_improves stats.balanceUnverified) ?_
    refine .cons (rateKpi_improves stats.quoteMismatch) ?_
    refine .cons (supportKpi_improves verdict.support) ?_
    refine .cons (gradeKpi_improves verdict.grade) ?_
    refine .cons (boolKpi_improves ?_) ?_
    · have paused := verdict.fatalPaused
      cases before : betterVerdict.fatalPaused <;> simp_all
    · exact .cons (maximumKpi_improves (Int.cast_le.mpr stats.fatalPauses))
        (.cons (maximumKpi_improves (Int.cast_le.mpr stats.cooldowns)) .nil)

end Better

/-- The fails and the warnings cost what the KPIs cost one by one. -/
theorem penalties_eq_sum (kpis : List Kpi) :
    ((kpis.countP fun kpi => kpi.status = .fail : Nat) : Rat) * 12 +
        ((kpis.countP fun kpi => kpi.status = .warn : Nat) : Rat) * 4 =
      (kpis.map fun kpi => kpi.status.penalty).sum := by
  induction kpis with
  | nil => simp
  | cons kpi rest ih =>
      rw [List.map_cons, List.sum_cons, ← ih, List.countP_cons, List.countP_cons]
      cases status : kpi.status with
      | pass => simp [KpiStatus.penalty]
      | warn =>
          simp [KpiStatus.penalty]
          ring
      | fail =>
          simp [KpiStatus.penalty]
          ring

theorem penalties_le {worse better : List Kpi} (improved : List.Forall₂ Kpi.Improves worse better) :
    (better.map fun kpi => kpi.status.penalty).sum ≤
      (worse.map fun kpi => kpi.status.penalty).sum := by
  induction improved with
  | nil => exact le_rfl
  | cons here _ ih =>
      simp only [List.map_cons, List.sum_cons]
      exact add_le_add here.penalty ih

theorem Kpi.Improves.not_fail {worse better : Kpi} (improved : worse.Improves better)
    (ok : worse.status ≠ .fail) : better.status ≠ .fail := by
  intro failed
  have penalty := improved.penalty
  rw [failed] at penalty
  cases before : worse.status with
  | fail => exact ok before
  | pass | warn =>
      rw [before] at penalty
      norm_num [KpiStatus.penalty] at penalty

theorem criticalFails_eq_nil {kpis : List Kpi} :
    criticalFails kpis = [] ↔ ∀ kpi ∈ kpis, kpi.critical = true → kpi.status ≠ .fail := by
  rw [← not_iff_not, ← ne_eq, criticalFails_ne_nil]
  push Not
  rfl

theorem clean_of_improves {worse better : List Kpi}
    (improved : List.Forall₂ Kpi.Improves worse better) (clean : criticalFails worse = []) :
    criticalFails better = [] := by
  rw [criticalFails_eq_nil] at clean ⊢
  induction improved with
  | nil => exact clean
  | cons here _ ih =>
      rw [List.forall_mem_cons] at clean ⊢
      obtain ⟨first, others⟩ := clean
      refine ⟨fun critical => here.not_fail (first (here.critical.trans critical)), ih others⟩

/-! ### The gate and the status -/

section Status

variable {settings : Settings} {type : RouteType} {worse better : CommissioningStats}
  {worseVerdict betterVerdict : ReadinessVerdict}

theorem notRed_of_rank {worse better : ReadinessGrade} (ordered : worse.rank ≤ better.rank)
    (notRed : worse ≠ .red) : better ≠ .red := by
  rintro rfl
  cases worse with
  | red => exact notRed rfl
  | green | yellow => exact absurd ordered (by decide)

theorem minimumGatePassed_mono (stats : worse.AtLeastAsGood better)
    (verdict : worseVerdict.AtLeastAsGood betterVerdict)
    (passed : minimumGatePassed settings type worse worseVerdict = true) :
    minimumGatePassed settings type better betterVerdict = true := by
  simp only [minimumGatePassed, Bool.and_eq_true, decide_eq_true_eq, Bool.not_eq_true'] at passed ⊢
  obtain ⟨⟨⟨⟨⟨⟨⟨days, snapshots⟩, opportunities⟩, replays⟩, unavailable⟩, support⟩, notRed⟩,
    unpaused⟩ := passed
  refine ⟨⟨⟨⟨⟨⟨⟨days.trans stats.observationDays, snapshots.trans stats.marketSnapshots⟩,
    opportunities.trans stats.opportunities⟩, ?_⟩, stats.quoteUnavailable.trans unavailable⟩,
    verdict.support support⟩, notRed_of_rank verdict.grade notRed⟩, ?_⟩
  · split at replays
    · rename_i live
      simp only [live, if_true, Bool.and_eq_true, decide_eq_true_eq] at replays ⊢
      exact ⟨replays.1.trans stats.snapshotReplays, replays.2.trans stats.opportunityReplays⟩
    · rename_i notLive
      simp only [notLive, if_false, decide_eq_true_eq] at replays ⊢
      exact replays.trans stats.replays
  · by_contra paused
    rw [Bool.not_eq_false] at paused
    rw [verdict.fatalPaused paused] at unpaused
    cases unpaused

/-- Of one type of route, the status rises with cleaner KPIs and with the gate. -/
theorem promotionGateStatus_mono {worseFails betterFails : List String}
    {worseGate betterGate : Bool}
    (fails : worseFails = [] → betterFails = []) (gate : worseGate = true → betterGate = true) :
    (promotionGateStatus type worseFails worseGate).rank ≤
        (promotionGateStatus type betterFails betterGate).rank ∧
      (promotionGateStatus type worseFails worseGate).points ≤
        (promotionGateStatus type betterFails betterGate).points := by
  by_cases clean : worseFails = []
  · rw [clean, fails clean]
    cases worseGate with
    | true =>
        rw [gate rfl]
        exact ⟨le_rfl, le_rfl⟩
    | false =>
        cases betterGate <;> cases type <;>
          norm_num [promotionGateStatus, PromotionStatus.rank, PromotionStatus.points]
  · have lowest : promotionGateStatus type worseFails worseGate = .promotionBlocked :=
      promotionGateStatus_blocked.mpr clean
    rw [lowest]
    cases promotionGateStatus type betterFails betterGate <;>
      norm_num [PromotionStatus.rank, PromotionStatus.points]

end Status

/-! ### The score -/

section Score

variable {settings : Settings} {type : RouteType} {worse better : CommissioningStats}

theorem completionRatio_mono {lower upper required : Rat} (ordered : lower ≤ upper) :
    completionRatio lower required ≤ completionRatio upper required := by
  unfold completionRatio
  split
  · exact le_rfl
  · rename_i positive
    have ratio : lower / required ≤ upper / required :=
      div_le_div_of_nonneg_right ordered (le_of_not_ge positive)
    simp only
    split
    · split
      · exact le_rfl
      · rename_i nonneg
        exact le_min (not_lt.mp nonneg) zero_le_one
    · rename_i nonneg
      rw [if_neg (not_lt.mpr ((not_lt.mp nonneg).trans ratio))]
      exact min_le_min_right 1 ratio

theorem completionBonus_mono {thresholds : RouteThresholds} (stats : worse.AtLeastAsGood better) :
    completionBonus thresholds type worse ≤ completionBonus thresholds type better := by
  have observation :=
    @completionRatio_mono _ _ thresholds.minObservationDays stats.observationDays
  have snapshot := @completionRatio_mono _ _ thresholds.minMarketSnapshots
    (Int.cast_le.mpr stats.marketSnapshots)
  have opportunity := @completionRatio_mono _ _ thresholds.minOpportunities
    (Int.cast_le.mpr stats.opportunities)
  have snapshotReplay := @completionRatio_mono _ _ thresholds.minBacktestMarketSnapshots
    (Int.cast_le.mpr stats.snapshotReplays)
  have opportunityReplay := @completionRatio_mono _ _ thresholds.minBacktestOpportunities
    (Int.cast_le.mpr stats.opportunityReplays)
  have replay := @completionRatio_mono _ _ thresholds.minBacktestTotal
    (Int.cast_le.mpr stats.replays)
  simp only [completionBonus]
  split
  · linarith
  · linarith

theorem ReadinessGrade.points_mono {lower upper : ReadinessGrade}
    (ordered : lower.rank ≤ upper.rank) : lower.points ≤ upper.points := by
  revert ordered
  cases lower <;> cases upper <;> norm_num [ReadinessGrade.rank, ReadinessGrade.points]

theorem clamp_mono {lower upper : Rat} (ordered : lower ≤ upper) :
    (let score := if lower < 0 then 0 else lower
      if 100 < score then 100 else score) ≤
      let score := if upper < 0 then 0 else upper
      if 100 < score then 100 else score := by
  simp only
  split_ifs <;> linarith

theorem clampedScore_mono {worse better : CommissioningRow}
    (ordered : rawScore settings worse ≤ rawScore settings better) :
    clampedScore settings worse ≤ clampedScore settings better :=
  clamp_mono ordered

end Score

/-- What better evidence does to the row that is ranked. -/
structure CommissioningRow.Improves (worse better : CommissioningRow) : Prop where
  sameType : worse.routeType = better.routeType
  status : worse.promotionGateStatus.rank ≤ better.promotionGateStatus.rank ∧
    worse.promotionGateStatus.points ≤ better.promotionGateStatus.points
  grade : worse.readinessGrade.rank ≤ better.readinessGrade.rank
  kpis : List.Forall₂ Kpi.Improves worse.kpiEvaluations better.kpiEvaluations
  stats : worse.stats.AtLeastAsGood better.stats

theorem rawScore_mono {settings : Settings} {worse better : CommissioningRow}
    (improves : worse.Improves better) : rawScore settings worse ≤ rawScore settings better := by
  have bonus := @completionBonus_mono better.routeType _ _
    (routeThresholds settings better.routeType) improves.stats
  have grade := ReadinessGrade.points_mono improves.grade
  have penalties := penalties_le improves.kpis
  rw [← penalties_eq_sum, ← penalties_eq_sum] at penalties
  have quotes : min 15 (better.stats.quoteUnavailableRate * 200) ≤
      min 15 (worse.stats.quoteUnavailableRate * 200) :=
    min_le_min_left 15 (mul_le_mul_of_nonneg_right improves.stats.quoteUnavailable (by norm_num))
  simp only [rawScore, improves.sameType]
  linarith only [improves.status.2, bonus, grade, penalties, quotes]

theorem commissioningRow_improves {settings : Settings} {worseRoute betterRoute : Route}
    {worseStats betterStats : CommissioningStats}
    {worseReadiness betterReadiness : Option ReadinessRow}
    (sameType : routeType worseRoute.strategy = routeType betterRoute.strategy)
    (stats : worseStats.AtLeastAsGood betterStats)
    (verdict : (readinessVerdict worseReadiness).AtLeastAsGood
      (readinessVerdict betterReadiness)) :
    (commissioningRow settings worseRoute worseStats worseReadiness).Improves
      (commissioningRow settings betterRoute betterStats betterReadiness) := by
  have kpis : List.Forall₂ Kpi.Improves
      (evaluateKpis settings (routeType betterRoute.strategy) worseStats
        (readinessVerdict worseReadiness))
      (evaluateKpis settings (routeType betterRoute.strategy) betterStats
        (readinessVerdict betterReadiness)) := evaluateKpis_improve stats verdict
  constructor
  · exact sameType
  · simp only [commissioningRow, sameType]
    exact promotionGateStatus_mono (clean_of_improves kpis) (minimumGatePassed_mono stats verdict)
  · exact verdict.grade
  · simp only [commissioningRow, sameType]
    exact kpis
  · exact stats

/-- Of two routes of one type, the one with the better evidence ranks no lower. -/
theorem better_evidence_never_lower (settings : Settings) (worseRoute betterRoute : Route)
    (worseStats betterStats : CommissioningStats)
    (worseReadiness betterReadiness : Option ReadinessRow)
    (sameType : routeType worseRoute.strategy = routeType betterRoute.strategy)
    (stats : worseStats.AtLeastAsGood betterStats)
    (verdict : (readinessVerdict worseReadiness).AtLeastAsGood
      (readinessVerdict betterReadiness)) :
    let worse := commissioningRow settings worseRoute worseStats worseReadiness
    let better := commissioningRow settings betterRoute betterStats betterReadiness
    worse.promotionGateStatus.rank ≤ better.promotionGateStatus.rank ∧
      clampedScore settings worse ≤ clampedScore settings better ∧
      scoreRow settings worse ≤ scoreRow settings better := by
  intro worse better
  have improves : worse.Improves better := commissioningRow_improves sameType stats verdict
  have clamped : clampedScore settings worse ≤ clampedScore settings better :=
    clampedScore_mono (rawScore_mono improves)
  exact ⟨improves.status.1, clamped, nearest_mono 3 clamped⟩

namespace Sample

/-- The readiness row of the route under review. -/
def reviewReadiness : Option ReadinessRow := some (readinessRow shipped route 0 reviewInput)

/-- A day short of the minimum, with more unavailable quotes. -/
def shorterStats : CommissioningStats :=
  { reviewStats with observationWindowDays := 13, quoteUnavailableRate := 7 / 100 }

end Sample

theorem better_evidence_never_lower_sample :
    scoreRow shipped (commissioningRow shipped Sample.route Sample.shorterStats none) ≤
      scoreRow shipped (commissioningRow shipped Sample.route Sample.reviewStats
        Sample.reviewReadiness) := by
  have stats : Sample.shorterStats.AtLeastAsGood Sample.reviewStats := by
    constructor <;> decide +kernel
  have verdict :
      (readinessVerdict none).AtLeastAsGood (readinessVerdict Sample.reviewReadiness) := by
    constructor <;> decide +kernel
  exact (better_evidence_never_lower shipped Sample.route Sample.route Sample.shorterStats
    Sample.reviewStats none Sample.reviewReadiness rfl stats verdict).2.2

end ArbitrageBot
