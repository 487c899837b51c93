/-
What the ranking of routes promises: a list of so many routes leaves out nothing better than it
shows, and while the quotes of live routes have to be available often enough, no blocked route
stands above one under review. The points alone do not say so: warnings can cost a route under
review more than its status is worth.
-/

import ArbitrageBot.Readiness.Report

namespace ArbitrageBot

open BestFirst DecimalRounding

/-! ### Bounds of the parts of a score -/

section Parts

variable {settings : Settings} {type : RouteType} {stats : CommissioningStats}
  {verdict : ReadinessVerdict}

theorem completionRatio_le_one (value required : Rat) : completionRatio value required ≤ 1 := by
  unfold completionRatio
  dsimp only
  split
  · exact le_rfl
  · split
    · exact zero_le_one
    · exact min_le_right _ _

theorem completionRatio_eq_one {value required : Rat} (reached : required ≤ value) :
    completionRatio value required = 1 := by
  unfold completionRatio
  dsimp only
  split
  · rfl
  · rename_i positive
    have ratio : 1 ≤ value / required := (one_le_div (not_le.mp positive)).mpr reached
    rw [if_neg (not_lt.mpr (zero_le_one.trans ratio)), min_eq_right ratio]

theorem completionBonus_le (thresholds : RouteThresholds) :
    completionBonus thresholds type stats ≤ 20 := by
  have observation := completionRatio_le_one stats.observationWindowDays
    thresholds.minObservationDays
  have snapshot := completionRatio_le_one stats.marketSnapshotCount thresholds.minMarketSnapshots
  have opportunity := completionRatio_le_one stats.opportunityCount thresholds.minOpportunities
  have snapshotReplay := completionRatio_le_one stats.backtestRunCountMarketSnapshots
    thresholds.minBacktestMarketSnapshots
  have opportunityReplay := completionRatio_le_one stats.backtestRunCountOpportunities
    thresholds.minBacktestOpportunities
  have replay := completionRatio_le_one stats.backtestRunCountTotal thresholds.minBacktestTotal
  simp only [completionBonus]
  split <;> linarith

theorem completionBonus_of_thresholds (reached : LiveThresholds settings stats) :
    completionBonus (routeThresholds settings .liveIntent) .liveIntent stats = 20 := by
  simp only [completionBonus, routeThresholds, if_true]
  rw [completionRatio_eq_one reached.observationDays,
    completionRatio_eq_one (Int.cast_le.mpr reached.marketSnapshots),
    completionRatio_eq_one (Int.cast_le.mpr reached.opportunities),
    completionRatio_eq_one (Int.cast_le.mpr reached.snapshotReplays),
    completionRatio_eq_one (Int.cast_le.mpr reached.opportunityReplays)]
  norm_num

theorem KpiStatus.penalty_nonneg (status : KpiStatus) : 0 ≤ status.penalty := by
  cases status <;> norm_num [KpiStatus.penalty]

theorem KpiStatus.penalty_le_four {status : KpiStatus} (notFailed : status ≠ .fail) :
    status.penalty ≤ 4 := by
  cases status with
  | fail => exact absurd rfl notFailed
  | pass | warn => norm_num [KpiStatus.penalty]

/-- A route is blocked by a KPI that fails, which costs it at least twelve points. -/
theorem blocked_penalties {kpis : List Kpi} (blocked : criticalFails kpis ≠ []) :
    12 ≤ (kpis.map fun kpi => kpi.status.penalty).sum := by
  obtain ⟨kpi, member, -, failed⟩ := criticalFails_ne_nil.mp blocked
  have part : kpi.status.penalty ≤ (kpis.map fun kpi => kpi.status.penalty).sum := by
    apply List.single_le_sum
    · intro penalty listed
      obtain ⟨other, -, rfl⟩ := List.mem_map.mp listed
      exact other.status.penalty_nonneg
    · exact List.mem_map.mpr ⟨kpi, member, rfl⟩
  rw [failed] at part
  exact part

theorem minimumKpi_penalty {name note : String} {value threshold : Rat} {critical : Bool}
    (reached : threshold ≤ value) :
    (minimumKpi name value threshold critical note).status.penalty = 0 := by
  rw [minimumKpi, if_pos reached]
  rfl

theorem rateKpi_penalty {name note : String} {value passMax warnMax : Rat} {critical : Bool}
    (within : value ≤ passMax) :
    (rateKpi name value passMax warnMax critical note).status.penalty = 0 := by
  rw [rateKpi_passes.mpr within]
  rfl

/-- What still can warn of a route under review: four rates, the grade and two counts. -/
theorem ready_penalties
    (clean : criticalFails (evaluateKpis settings .liveIntent stats verdict) = [])
    (passed : minimumGatePassed settings .liveIntent stats verdict = true) :
    ((evaluateKpis settings .liveIntent stats verdict).map fun kpi => kpi.status.penalty).sum ≤
      24 + verdict.grade.penalty := by
  obtain ⟨reached, -⟩ := liveThresholds_of_minimumGatePassed passed
  have warned : ∀ kpi ∈ evaluateKpis settings .liveIntent stats verdict,
      kpi.critical = true → kpi.status.penalty ≤ 4 := by
    intro kpi member critical
    exact KpiStatus.penalty_le_four (criticalFails_eq_nil.mp clean kpi member critical)
  have counted : ∀ name note value critical,
      (maximumKpi name value 0 critical note).status.penalty ≤ 4 := by
    intro name note value critical
    exact KpiStatus.penalty_le_four maximumKpi_never_fails
  simp only [minimumGatePassed, Bool.and_eq_true, decide_eq_true_eq, Bool.not_eq_true'] at passed
  obtain ⟨⟨⟨-, support⟩, -⟩, unpaused⟩ := passed
  have supported : ∀ name note critical,
      (enumKpi name verdict.supportStatus [.supported] [] critical note).status.penalty = 0 := by
    intro name note critical
    rw [support]
    rfl
  have clear : ∀ name note critical,
      (boolKpi name (!verdict.fatalPaused) critical note).status.penalty = 0 := by
    intro name note critical
    rw [unpaused]
    rfl
  have healthUnknown := warned (rateKpi "health_unknown_rate" stats.healthUnknownRate
    settings.commissioningWarnHealthUnknownRate settings.commissioningFailHealthUnknownRate true
    "Stabilize health telemetry so unknown states are rare and explainable.")
    (by simp [evaluateKpis]) rfl
  have feeUnverified := warned (rateKpi "fee_unverified_rate" stats.feeUnverifiedRate
    settings.commissioningWarnFeeUnverifiedRate settings.commissioningFailFeeUnverifiedRate true
    "Increase fee provenance confidence and reduce fallback-only runs.")
    (by simp [evaluateKpis]) rfl
  have balanceUnverified := warned (rateKpi "balance_unverified_rate" stats.balanceUnverifiedRate
    settings.commissioningWarnBalanceUnverifiedRate
    settings.commissioningFailBalanceUnverifiedRate true
    "Improve balance verification (wallet/venue) and eliminate inventory drift.")
    (by simp [evaluateKpis]) rfl
  have quoteMismatch := warned (rateKpi "quote_mismatch_rate" stats.quoteMismatchRate
    settings.commissioningWarnQuoteMismatchRate settings.commissioningFailQuoteMismatchRate true
    "Address quote mismatch causes before promotion review.")
    (by simp [evaluateKpis]) rfl
  have fatalPauses := counted "fatal_pause_count"
    "Review repeated fatal failure history before promotion discussions." stats.fatalPauseCount
    false
  have cooldowns := counted "cooldown_event_count"
    "Investigate recurring cooldown triggers and reduce instability." stats.cooldownEventCount
    false
  simp only [evaluateKpis, backtestKpis, if_true, List.map_append, List.map_cons, List.map_nil,
    List.sum_append, List.sum_cons, List.sum_nil, minObservationDays, minMarketSnapshots,
    minOpportunities, maxQuoteUnavailableRate]
  rw [minimumKpi_penalty reached.observationDays,
    minimumKpi_penalty (Int.cast_le.mpr reached.marketSnapshots),
    minimumKpi_penalty (Int.cast_le.mpr reached.opportunities),
    minimumKpi_penalty (Int.cast_le.mpr reached.snapshotReplays),
    minimumKpi_penalty (Int.cast_le.mpr reached.opportunityReplays),
    rateKpi_penalty reached.quoteUnavailable, supported, clear, gradeKpi_penalty]
  linarith

end Parts

/-! ### Under review against blocked -/

section Separation

variable {settings : Settings} {row ready blocked : CommissioningRow}

structure Built (settings : Settings) (row : CommissioningRow) : Prop where
  made : ∃ route readiness, row = commissioningRow settings route row.stats readiness
  rate : 0 ≤ row.stats.quoteUnavailableRate

theorem grade_points_sub_penalty {grade : ReadinessGrade} (notRed : grade ≠ .red) :
    6 ≤ grade.points - grade.penalty := by
  cases grade with
  | red => exact absurd rfl notRed
  | green | yellow => norm_num [ReadinessGrade.points, ReadinessGrade.penalty]

theorem ReadinessGrade.points_le (grade : ReadinessGrade) : grade.points ≤ 20 := by
  cases grade <;> norm_num [ReadinessGrade.points]

theorem rawScore_of_reviewReady (built : Built settings row)
    (status : row.promotionGateStatus = .reviewReady) :
    55 - min 15 (settings.commissioningLiveMaxQuoteUnavailableRate * 200) ≤
      rawScore settings row := by
  obtain ⟨route, readiness, made⟩ := built.made
  rw [made] at status
  obtain ⟨live, clean, passed⟩ := promotionGateStatus_reviewReady.mp status
  rw [live] at clean passed
  obtain ⟨reached, notRed⟩ := liveThresholds_of_minimumGatePassed passed
  have kpis : row.kpiEvaluations =
      evaluateKpis settings .liveIntent row.stats (readinessVerdict readiness) := by
    rw [← live]
    exact congrArg CommissioningRow.kpiEvaluations made
  have grade : row.readinessGrade = (readinessVerdict readiness).grade :=
    congrArg CommissioningRow.readinessGrade made
  have type : row.routeType = .liveIntent :=
    (congrArg CommissioningRow.routeType made).trans live
  have statusOf : row.promotionGateStatus = .reviewReady :=
    (congrArg CommissioningRow.promotionGateStatus made).trans status
  have penalties := ready_penalties clean passed
  rw [← kpis, ← penalties_eq_sum] at penalties
  have points := grade_points_sub_penalty notRed
  have quotes : min 15 (row.stats.quoteUnavailableRate * 200) ≤
      min 15 (settings.commissioningLiveMaxQuoteUnavailableRate * 200) :=
    min_le_min_left 15 (mul_le_mul_of_nonneg_right reached.quoteUnavailable (by norm_num))
  simp only [rawScore, statusOf, type, grade, if_true, completionBonus_of_thresholds reached,
    PromotionStatus.points]
  linarith

theorem rawScore_of_promotionBlocked (built : Built settings row)
    (status : row.promotionGateStatus = .promotionBlocked) : rawScore settings row ≤ 41 := by
  obtain ⟨route, readiness, made⟩ := built.made
  have fails : criticalFails row.kpiEvaluations ≠ [] := by
    rw [made] at status ⊢
    exact promotionGateStatus_blocked.mp status
  have penalties := blocked_penalties fails
  rw [← penalties_eq_sum] at penalties
  have grade := row.readinessGrade.points_le
  have bonus := @completionBonus_le row.routeType row.stats
    (routeThresholds settings row.routeType)
  have quotes : 0 ≤ min 15 (row.stats.quoteUnavailableRate * 200) :=
    le_min (by norm_num) (mul_nonneg built.rate (by norm_num))
  have live : (if row.routeType = .liveIntent then (8 : Rat) else 0) ≤ 8 := by
    split <;> norm_num
  simp only [rawScore, status, PromotionStatus.points]
  linarith

/-- Scores are rounded to thousandths, so the gap has to be as wide as one. -/
theorem blocked_below_review
    (narrow : settings.commissioningLiveMaxQuoteUnavailableRate * 200 ≤ 13999 / 1000)
    (builtReady : Built settings ready) (builtBlocked : Built settings blocked)
    (reviewReady : ready.promotionGateStatus = .reviewReady)
    (promotionBlocked : blocked.promotionGateStatus = .promotionBlocked) :
    scoreRow settings blocked < scoreRow settings ready := by
  have above := rawScore_of_reviewReady builtReady reviewReady
  have below := rawScore_of_promotionBlocked builtBlocked promotionBlocked
  have penalty := min_le_right 15 (settings.commissioningLiveMaxQuoteUnavailableRate * 200)
  have clampedAbove : 41001 / 1000 ≤ clampedScore settings ready := by
    simp only [clampedScore]
    split_ifs <;> linarith
  have clampedBelow : clampedScore settings blocked ≤ 41 := by
    simp only [clampedScore]
    split_ifs <;> linarith
  have floor : nearest 3 (41001 / 1000) = 41001 / 1000 :=
    @nearest_of_scaled 3 _ 41001 (by norm_num)
  have ceiling : nearest 3 41 = 41 := @nearest_of_scaled 3 _ 41000 (by norm_num)
  calc scoreRow settings blocked ≤ nearest 3 41 := nearest_mono 3 clampedBelow
    _ = 41 := ceiling
    _ < 41001 / 1000 := by norm_num
    _ = nearest 3 (41001 / 1000) := floor.symm
    _ ≤ scoreRow settings ready := nearest_mono 3 clampedAbove

end Separation

/-! ### The ranking -/

section Ranking

variable {settings : Settings} {rows : List CommissioningRow} {limit : Nat}

def rankedFirst (settings : Settings) (rows : List CommissioningRow) (limit : Nat) :
    List CommissioningRow :=
  (bestFirst (scoreRow settings) rows).take limit

theorem commissioningRanking_eq :
    commissioningRanking settings rows limit =
      (rankedFirst settings rows limit).mapIdx fun index row =>
        rankedRow settings (index + 1) row := by
  apply List.ext_getElem?
  intro index
  rw [commissioningRanking, rankRows, rankedFirst, List.getElem?_take, List.getElem?_mapIdx,
    List.getElem?_mapIdx, List.getElem?_take]
  split <;> rfl

/-- A field that the ranking copies stands as in the rows behind it. -/
theorem map_commissioningRanking {α : Type*} {field : RankedRow → α} {origin : CommissioningRow → α}
    (copied : ∀ rank row, field (rankedRow settings rank row) = origin row) :
    (commissioningRanking settings rows limit).map field =
      (rankedFirst settings rows limit).map origin := by
  apply List.ext_getElem?
  intro index
  rw [commissioningRanking_eq, List.getElem?_map, List.getElem?_mapIdx, List.getElem?_map,
    Option.map_map]
  congr 1
  funext row
  exact copied (index + 1) row

theorem mem_commissioningRanking {entry : RankedRow}
    (listed : entry ∈ commissioningRanking settings rows limit) :
    ∃ row ∈ rankedFirst settings rows limit, entry = rankedRow settings entry.rank row := by
  rw [commissioningRanking_eq] at listed
  obtain ⟨index, inside, rfl⟩ := List.mem_mapIdx.mp listed
  exact ⟨_, List.getElem_mem inside, rfl⟩

theorem exists_entry {row : CommissioningRow} (shown : row ∈ rankedFirst settings rows limit) :
    ∃ rank, rankedRow settings rank row ∈ commissioningRanking settings rows limit := by
  obtain ⟨index, inside, rfl⟩ := List.getElem_of_mem shown
  refine ⟨index + 1, ?_⟩
  rw [commissioningRanking_eq]
  exact List.mem_mapIdx.mpr ⟨index, inside, rfl⟩

theorem ranks_commissioningRanking :
    (commissioningRanking settings rows limit).map RankedRow.rank =
      List.range' 1 (min limit rows.length) := by
  have length : (rankedFirst settings rows limit).length = min limit rows.length := by
    rw [rankedFirst, List.length_take, (bestFirst_perm rows).length_eq]
  rw [commissioningRanking_eq, ← length]
  apply List.ext_getElem?
  intro index
  rw [List.getElem?_map, List.getElem?_mapIdx]
  by_cases inside : index < (rankedFirst settings rows limit).length
  · rw [List.getElem?_eq_getElem inside, List.getElem?_range' inside]
    simp only [rankedRow, Option.map_some, Nat.one_mul, Nat.add_comm 1 index]
  · have outside := not_lt.mp inside
    rw [List.getElem?_eq_none outside, List.getElem?_eq_none (by rwa [List.length_range'])]
    rfl

/-- What is promised of a ranking of so many of the rows. -/
structure Ranked (settings : Settings) (rows : List CommissioningRow) (limit : Nat)
    (ranking : List RankedRow) : Prop where
  ranks : ranking.map RankedRow.rank = List.range' 1 (min limit rows.length)
  listed : ∀ entry ∈ ranking, ∃ row ∈ rows, entry = rankedRow settings entry.rank row
  descending : ranking.Pairwise fun first second => second.score ≤ first.score
  covered : ∀ row ∈ rows, (∃ rank, rankedRow settings rank row ∈ ranking) ∨
    ∀ entry ∈ ranking, scoreRow settings row ≤ entry.score
  /-- Routes of one score stand in the order of the listing. -/
  ties : ∀ score, ((ranking.filter fun entry => entry.score = score).map RankedRow.routeId) <+:
    (rows.filter fun row => scoreRow settings row = score).map CommissioningRow.routeId

structure ReviewFirst (settings : Settings) (rows : List CommissioningRow)
    (ranking : List RankedRow) : Prop where
  review : ranking.Pairwise fun first second =>
    first.promotionGateStatus = .promotionBlocked → second.promotionGateStatus ≠ .reviewReady
  /-- No blocked route takes the place of one under review. -/
  reviewShown : ∀ entry ∈ ranking, entry.promotionGateStatus = .promotionBlocked →
    ∀ row ∈ rows, row.promotionGateStatus = .reviewReady →
      ∃ rank, rankedRow settings rank row ∈ ranking

theorem mem_rankedFirst {row : CommissioningRow} (shown : row ∈ rankedFirst settings rows limit) :
    row ∈ rows :=
  mem_bestFirst.mp (List.mem_of_mem_take shown)

theorem rankedFirst_ordered :
    (rankedFirst settings rows limit).Pairwise fun first second =>
      scoreRow settings second ≤ scoreRow settings first :=
  (bestFirst_ordered rows).sublist (List.take_sublist _ _)

theorem shown_or_below {row : CommissioningRow} (listed : row ∈ rows) :
    row ∈ rankedFirst settings rows limit ∨
      ∀ shown ∈ rankedFirst settings rows limit,
        scoreRow settings row ≤ scoreRow settings shown := by
  rcases (@mem_shown_or_leftOut _ _ _ (scoreRow settings) _ limit _).mp listed with shown | below
  · exact .inl shown
  · exact .inr fun other shown => leftOut_le_shown shown below

theorem ties_commissioningRanking (score : Rat) :
    (((commissioningRanking settings rows limit).filter fun entry => entry.score = score).map
      RankedRow.routeId) <+:
      (rows.filter fun row => scoreRow settings row = score).map CommissioningRow.routeId := by
  have pairs : (commissioningRanking settings rows limit).map
        (fun entry => (entry.score, entry.routeId)) =
      (rankedFirst settings rows limit).map fun row => (scoreRow settings row, row.routeId) :=
    map_commissioningRanking fun _ _ => rfl
  have filtered := congrArg (fun listed => (listed.filter fun pair : Rat × String =>
    pair.1 = score).map Prod.snd) pairs
  simp only [List.filter_map, List.map_map] at filtered
  have behind : ((rankedFirst settings rows limit).filter fun row => scoreRow settings row = score)
      <+: rows.filter fun row => scoreRow settings row = score := by
    have same : ∀ first second : CommissioningRow,
        decide (scoreRow settings first = score) = true →
        decide (scoreRow settings second = score) = true →
        scoreRow settings first = scoreRow settings second := by
      intro first second firstScore secondScore
      exact (of_decide_eq_true firstScore).trans (of_decide_eq_true secondScore).symm
    rw [← filter_bestFirst same rows]
    exact (List.take_prefix limit _).filter _
  have mapped := behind.map CommissioningRow.routeId
  exact filtered ▸ mapped

theorem ranked_commissioningRanking :
    Ranked settings rows limit (commissioningRanking settings rows limit) := by
  constructor
  · exact ranks_commissioningRanking
  · intro entry listed
    obtain ⟨row, shown, same⟩ := mem_commissioningRanking listed
    exact ⟨row, mem_rankedFirst shown, same⟩
  · have scores : (commissioningRanking settings rows limit).map RankedRow.score =
        (rankedFirst settings rows limit).map (scoreRow settings) :=
      map_commissioningRanking fun _ _ => rfl
    rw [← List.pairwise_map (R := fun first second : Rat => second ≤ first), scores,
      List.pairwise_map]
    exact rankedFirst_ordered
  · intro row listed
    rcases shown_or_below listed with shown | below
    · exact .inl (exists_entry shown)
    · right
      intro entry ranked
      obtain ⟨other, shown, same⟩ := mem_commissioningRanking ranked
      rw [same]
      exact below other shown
  · exact ties_commissioningRanking

/-- A ranking is in order and leaves out nothing better than it shows, and where the limit on
unavailable quotes is narrow no blocked route stands above, or in the place of, one under review. -/
theorem ranking_sound (settings : Settings) (routes : List Route)
    (readinessRows : List ReadinessRow) (stats : String → CommissioningStats)
    (routeId : Option String) (limit : Nat) :
    let rows := commissioningRouteRows settings routes readinessRows stats routeId
    let ranking := commissioningRanking settings rows limit
    Ranked settings rows limit ranking ∧
      ((∀ routeId, 0 ≤ (stats routeId).quoteUnavailableRate) →
        settings.commissioningLiveMaxQuoteUnavailableRate * 200 ≤ 13999 / 1000 →
        ReviewFirst settings rows ranking) := by
  intro rows ranking
  refine ⟨ranked_commissioningRanking, ?_⟩
  intro rates narrow
  have built : ∀ row ∈ rows, Built settings row := by
    intro row listed
    obtain ⟨route, -, rfl⟩ := mem_commissioningRouteRows listed
    exact ⟨⟨route, _, rfl⟩, rates route.id⟩
  have separated : ∀ ready ∈ rows, ∀ blocked ∈ rows, ready.promotionGateStatus = .reviewReady →
      blocked.promotionGateStatus = .promotionBlocked →
      scoreRow settings blocked < scoreRow settings ready := by
    intro ready readyListed blocked blockedListed
    exact blocked_below_review narrow (built ready readyListed) (built blocked blockedListed)
  constructor
  · have statuses : ranking.map RankedRow.promotionGateStatus =
        (rankedFirst settings rows limit).map CommissioningRow.promotionGateStatus :=
      map_commissioningRanking fun _ _ => rfl
    rw [← List.pairwise_map (R := fun first second : PromotionStatus =>
      first = .promotionBlocked → second ≠ .reviewReady), statuses, List.pairwise_map]
    apply rankedFirst_ordered.imp_of_mem
    intro first second firstShown secondShown ordered blocked ready
    exact absurd ordered (not_le.mpr (separated second (mem_rankedFirst secondShown) first
      (mem_rankedFirst firstShown) ready blocked))
  · intro entry ranked blocked row listed ready
    obtain ⟨other, shown, same⟩ := mem_commissioningRanking ranked
    rw [same] at blocked
    rcases shown_or_below listed with rowShown | below
    · exact exists_entry rowShown
    · exact absurd (below other shown)
        (not_le.mpr (separated row listed other (mem_rankedFirst shown) ready blocked))

end Ranking

theorem ranking_sound_shipped :
    let ranking := commissioningRanking shipped (Sample.reviewRows shipped) 1
    Ranked shipped (Sample.reviewRows shipped) 1 ranking ∧
      ReviewFirst shipped (Sample.reviewRows shipped) ranking := by
  obtain ⟨ranked, reviewed⟩ := ranking_sound shipped [Sample.route, Sample.observedRoute]
    (routeReadinessRows shipped 0 [Sample.route, Sample.observedRoute]
      (fun _ => Sample.reviewInput) none) (fun _ => Sample.reviewStats) none 1
  refine ⟨ranked, reviewed ?_ ?_⟩
  · intro routeId
    norm_num [Sample.reviewStats]
  · norm_num [shipped]

/-- With more unavailable quotes allowed, warnings put a route under review below a blocked one. -/
example :
    let settings := { shipped with commissioningLiveMaxQuoteUnavailableRate := 3 / 40 }
    let warned : CommissioningStats :=
      { Sample.reviewStats with
        quoteUnavailableRate := 3 / 40, healthUnknownRate := 1 / 5, feeUnverifiedRate := 2 / 5
        balanceUnverifiedRate := 2 / 5, quoteMismatchRate := 1 / 5, fatalPauseCount := 1
        cooldownEventCount := 1 }
    let failing : CommissioningStats :=
      { Sample.reviewStats with quoteUnavailableRate := 0, healthUnknownRate := 1 }
    let cooling : ReadinessInput := { Sample.reviewInput with observationCount := 0 }
    let ready := commissioningRow settings Sample.route warned
      (some (readinessRow settings Sample.route 0 cooling))
    let blocked := commissioningRow settings Sample.route failing
      (some (readinessRow settings Sample.route 0 Sample.reviewInput))
    ready.promotionGateStatus = .reviewReady ∧
      blocked.promotionGateStatus = .promotionBlocked ∧
      scoreRow settings ready < scoreRow settings blocked := by
  decide +kernel

end ArbitrageBot
