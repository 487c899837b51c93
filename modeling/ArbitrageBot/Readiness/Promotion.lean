/-
What a promotion status says about the evidence under it: the statuses of the
latest health row, the runtime row, and the counts against their thresholds.
-/

import ArbitrageBot.Readiness.Commissioning
import ArbitrageBot.System.Bot

namespace ArbitrageBot

/-! ### What a grade below red excludes -/

section Grade

variable {settings : Settings} {facts : ReadinessFacts}

theorem unsupported_mem_blockers (differs : facts.supportStatus ≠ .supported) :
    "unsupported_route" ∈ facts.blockers settings := by
  simp [ReadinessFacts.blockers, ReadinessFacts.findings, finding, differs]

theorem feeUnverified_mem_blockers (live : facts.strategy ≠ "base_virtual_shadow")
    (below : feeConfidenceAtLeast facts.feeStatus .venueDeclared = false) :
    "fee_unverified" ∈ facts.blockers settings := by
  simp [ReadinessFacts.blockers, ReadinessFacts.findings, finding, live, below]

theorem balanceMismatch_mem_blockers (mismatch : facts.balanceStatus = .mismatch) :
    "balance_mismatch" ∈ facts.blockers settings := by
  simp [ReadinessFacts.blockers, ReadinessFacts.findings, finding, mismatch]

theorem balanceUnverified_mem_blockers (live : facts.strategy ≠ "base_virtual_shadow")
    (noMismatch : facts.balanceStatus ≠ .mismatch)
    (below : balanceConfidenceAtLeast facts.balanceStatus .walletVerified = false) :
    "balance_unverified" ∈ facts.blockers settings := by
  simp [ReadinessFacts.blockers, ReadinessFacts.findings, finding, live, noMismatch, below]

theorem quoteMatchUnverified_mem_blockers (live : facts.strategy ≠ "base_virtual_shadow")
    (below : quoteMatchStatusAtLeast facts.quoteMatchStatus .matched = false) :
    "quote_match_unverified" ∈ facts.blockers settings := by
  simp [ReadinessFacts.blockers, ReadinessFacts.findings, finding, live, below]

theorem backtestMissing_mem_blockers (missing : facts.backtestRunCount < 1) :
    "backtest_missing" ∈ facts.blockers settings := by
  simp [ReadinessFacts.blockers, ReadinessFacts.findings, finding, missing]

theorem not_mem_blockers_of_not_red
    (notRed : gradeFromBlockers (facts.blockers settings) ≠ .red) :
    ∀ blocker ∈ criticalBlockers, blocker ∉ facts.blockers settings := by
  intro blocker critical reported
  exact notRed (gradeFromBlockers_red.mpr ⟨blocker, reported, critical⟩)

theorem matched_of_atLeast {status : QuoteMatch}
    (atLeast : quoteMatchStatusAtLeast status .matched = true) : status = .matched := by
  cases status with
  | matched => rfl
  | unknown | mismatch => cases atLeast

/-- The floors under every route that is not a shadow route. -/
structure LiveEvidence (facts : ReadinessFacts) : Prop where
  supported : facts.supportStatus = .supported
  feeDeclared : feeConfidenceAtLeast facts.feeStatus .venueDeclared = true
  balanceVerified : balanceConfidenceAtLeast facts.balanceStatus .walletVerified = true
  quoteMatched : facts.quoteMatchStatus = .matched
  backtested : 1 ≤ facts.backtestRunCount
  notFatalPaused : facts.fatalPaused = false

/-- Each floor has its blocker among the critical ones. -/
theorem liveEvidence_of_not_red (live : facts.strategy ≠ "base_virtual_shadow")
    (notRed : gradeFromBlockers (facts.blockers settings) ≠ .red) : LiveEvidence facts := by
  have excluded := not_mem_blockers_of_not_red notRed
  constructor
  · by_contra differs
    exact excluded _ (by decide) (unsupported_mem_blockers differs)
  · by_contra below
    exact excluded _ (by decide) (feeUnverified_mem_blockers live (eq_false_of_ne_true below))
  · have noMismatch : facts.balanceStatus ≠ .mismatch := by
      intro mismatch
      exact excluded _ (by decide) (balanceMismatch_mem_blockers mismatch)
    by_contra below
    exact excluded _ (by decide)
      (balanceUnverified_mem_blockers live noMismatch (eq_false_of_ne_true below))
  · apply matched_of_atLeast
    by_contra below
    exact excluded _ (by decide)
      (quoteMatchUnverified_mem_blockers live (eq_false_of_ne_true below))
  · by_contra missing
    exact excluded _ (by decide) (backtestMissing_mem_blockers (not_le.mp missing))
  · by_contra paused
    exact excluded _ (by decide) (fatalPaused_mem_blockers (eq_true_of_ne_false paused))

end Grade

/-! ### The gate -/

theorem promotionGateStatus_reviewReady {type : RouteType} {fails : List String}
    {gatePassed : Bool} :
    promotionGateStatus type fails gatePassed = .reviewReady ↔
      type = .liveIntent ∧ fails = [] ∧ gatePassed = true := by
  cases type <;> cases gatePassed <;> by_cases clean : fails = [] <;>
    simp [promotionGateStatus, clean]

theorem promotionGateStatus_observationReady {type : RouteType} {fails : List String}
    {gatePassed : Bool} :
    promotionGateStatus type fails gatePassed = .observationReady ↔
      type = .shadow ∧ fails = [] ∧ gatePassed = true := by
  cases type <;> cases gatePassed <;> by_cases clean : fails = [] <;>
    simp [promotionGateStatus, clean]

/-- The thresholds on the stats of a live-intent route. -/
structure LiveThresholds (settings : Settings) (stats : CommissioningStats) : Prop where
  observationDays :
    (settings.commissioningLiveMinObservationDays : Rat) ≤ stats.observationWindowDays
  marketSnapshots : settings.commissioningLiveMinMarketSnapshots ≤ stats.marketSnapshotCount
  opportunities : settings.commissioningLiveMinOpportunities ≤ stats.opportunityCount
  snapshotReplays :
    settings.commissioningLiveMinBacktestRunsMarketSnapshots ≤
      stats.backtestRunCountMarketSnapshots
  opportunityReplays :
    settings.commissioningLiveMinBacktestRunsOpportunities ≤ stats.backtestRunCountOpportunities
  quoteUnavailable :
    stats.quoteUnavailableRate ≤ settings.commissioningLiveMaxQuoteUnavailableRate

theorem liveThresholds_of_minimumGatePassed {settings : Settings} {stats : CommissioningStats}
    {readiness : ReadinessVerdict}
    (passed : minimumGatePassed settings .liveIntent stats readiness = true) :
    LiveThresholds settings stats ∧ readiness.grade ≠ .red := by
  simp only [minimumGatePassed, minObservationDays, minMarketSnapshots, minOpportunities,
    maxQuoteUnavailableRate, if_true, Bool.and_eq_true, decide_eq_true_eq] at passed
  obtain ⟨⟨⟨⟨⟨⟨⟨days, snapshots⟩, opportunities⟩, replays⟩, unavailable⟩, -⟩, notRed⟩, -⟩ := passed
  exact ⟨⟨days, snapshots, opportunities, replays.1, replays.2, unavailable⟩, notRed⟩

/-! ### From the health strings to the promotion status -/

section Row

variable {settings : Settings} {route : Route} {stats : CommissioningStats}

theorem commissioningRow_reviewReady {readiness : Option ReadinessRow}
    (ready :
      (commissioningRow settings route stats readiness).promotionGateStatus = .reviewReady) :
    routeType route.strategy = .liveIntent ∧ LiveThresholds settings stats ∧
      (readinessVerdict readiness).grade ≠ .red := by
  obtain ⟨live, -, passed⟩ := promotionGateStatus_reviewReady.mp ready
  rw [live] at passed
  exact ⟨live, liveThresholds_of_minimumGatePassed passed⟩

theorem commissioningRow_observationReady {readiness : Option ReadinessRow}
    (ready :
      (commissioningRow settings route stats readiness).promotionGateStatus = .observationReady) :
    routeType route.strategy = .shadow :=
  (promotionGateStatus_observationReady.mp ready).1

theorem not_pausedByFatal {strategy : String} {now : Instant} {input : ReadinessInput}
    (clear : (readinessFacts strategy now input).fatalPaused = false) :
    ∀ runtime, input.runtime = some runtime →
      ¬ (runtime.paused = true ∧ runtime.lastFailureFatal = true) := by
  rintro runtime present ⟨paused, fatal⟩
  simp [readinessFacts, present, paused, fatal] at clear

theorem readinessRow_grade (now : Instant) (input : ReadinessInput) :
    (readinessRow settings route now input).grade =
      gradeFromBlockers ((readinessFacts route.strategy now input).blockers settings) := by
  simp only [readinessRow]

theorem readinessVerdict_grade (row : ReadinessRow) :
    (readinessVerdict (some row)).grade = row.grade :=
  rfl

theorem readinessFacts_strategy (strategy : String) (now : Instant) (input : ReadinessInput) :
    (readinessFacts strategy now input).strategy = strategy :=
  rfl

end Row

/-- A route under review has every status at its floor and every count at its threshold,
whatever strings its latest health row holds. -/
theorem reviewReady_sound (settings : Settings) (route : Route) (stats : CommissioningStats)
    (now : Instant) (input : ReadinessInput) :
    let readiness := readinessRow settings route now input
    let row := commissioningRow settings route stats (some readiness)
    (route.strategy = "hyperevm_dex_dex" → row.promotionGateStatus = .reviewReady →
      readiness.supportStatus = .supported ∧
      feeConfidenceAtLeast readiness.feeKnownStatus .venueDeclared = true ∧
      balanceConfidenceAtLeast readiness.balanceMatchStatus .walletVerified = true ∧
      readiness.quoteMatchStatus = .matched ∧
      1 ≤ input.backtestRunCount ∧
      (∀ runtime, input.runtime = some runtime →
        ¬ (runtime.paused = true ∧ runtime.lastFailureFatal = true)) ∧
      LiveThresholds settings stats) ∧
    (route.strategy = "base_virtual_shadow" → row.promotionGateStatus ≠ .reviewReady) ∧
    (route.strategy = "hyperevm_dex_dex" → row.promotionGateStatus ≠ .observationReady) := by
  intro readiness row
  refine ⟨?_, ?_, ?_⟩
  · intro hyper ready
    obtain ⟨-, thresholds, notRed⟩ := commissioningRow_reviewReady ready
    have live : (readinessFacts route.strategy now input).strategy ≠ "base_virtual_shadow" := by
      rw [readinessFacts_strategy, hyper]
      decide
    rw [readinessVerdict_grade, readinessRow_grade] at notRed
    have evidence := liveEvidence_of_not_red live notRed
    exact ⟨evidence.supported, evidence.feeDeclared, evidence.balanceVerified,
      evidence.quoteMatched, evidence.backtested, not_pausedByFatal evidence.notFatalPaused,
      thresholds⟩
  · intro shadow ready
    have live := (commissioningRow_reviewReady ready).1
    rw [shadow] at live
    revert live
    decide
  · intro hyper ready
    have isShadow := commissioningRow_observationReady ready
    rw [hyper] at isShadow
    revert isShadow
    decide

namespace Sample

/-- Exactly at the shipped thresholds. -/
def reviewStats : CommissioningStats :=
  { observationWindowDays := 14, marketSnapshotCount := 5000, opportunityCount := 300
    backtestRunCountTotal := 6, backtestRunCountMarketSnapshots := 3
    backtestRunCountOpportunities := 3, quoteUnavailableRate := 1 / 20, healthUnknownRate := 0
    feeUnverifiedRate := 0, balanceUnverifiedRate := 0, quoteMismatchRate := 0
    fatalPauseCount := 0, cooldownEventCount := 0 }

/-- Legacy spellings of the statuses at their floors. -/
def reviewInput : ReadinessInput :=
  { runtime := none
    latestHealth := some
      { supportStatus := some " Good", feeKnownStatus := some "venue_default"
        balanceMatchStatus := some "wallet", quoteMatchStatus := some "YES"
        cooldownActive := false }
    observationCount := 5000, backtestRunCount := 6, quoteUnavailableRate := 1 / 20 }

end Sample

theorem reviewReady_sound_sample :
    (readinessRow shipped Sample.route 0 Sample.reviewInput).quoteMatchStatus = .matched ∧
      LiveThresholds shipped Sample.reviewStats := by
  have ready :
      (commissioningRow shipped Sample.route Sample.reviewStats
        (some (readinessRow shipped Sample.route 0 Sample.reviewInput))).promotionGateStatus =
          .reviewReady := by
    decide +kernel
  obtain ⟨-, -, -, matched, -, -, thresholds⟩ :=
    (reviewReady_sound shipped Sample.route Sample.reviewStats 0 Sample.reviewInput).1 rfl ready
  exact ⟨matched, thresholds⟩

end ArbitrageBot
