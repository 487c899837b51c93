/-
`ReadinessService._build_route_row`: what blocks a route's readiness, from its
persisted runtime state, its latest health snapshot and its counts.
-/

import ArbitrageBot.System.Database

namespace ArbitrageBot

/-- The columns of `route_health_snapshots` that readiness reads; a missing row reads as unknown. -/
structure RouteHealth where
  supportStatus : Option String
  feeKnownStatus : Option String
  balanceMatchStatus : Option String
  quoteMatchStatus : Option String
  cooldownActive : Bool

inductive ReadinessGrade
  | green | yellow | red
deriving DecidableEq

structure ReadinessInput where
  runtime : Option RouteState
  latestHealth : Option RouteHealth
  observationCount : Int
  backtestRunCount : Int
  quoteUnavailableRate : Rat

structure ReadinessRow where
  routeId : String
  strategy : String
  supportStatus : SupportStatus
  feeKnownStatus : FeeConfidence
  balanceMatchStatus : BalanceConfidence
  quoteMatchStatus : QuoteMatch
  cooldownActive : Bool
  fatalPaused : Bool
  observationCount : Int
  quoteUnavailableRate : Rat
  backtestRunCount : Int
  grade : ReadinessGrade
  blockers : List String
  actions : List String

structure ReadinessFacts where
  strategy : String
  supportStatus : SupportStatus
  feeStatus : FeeConfidence
  balanceStatus : BalanceConfidence
  quoteMatchStatus : QuoteMatch
  cooldownActive : Bool
  fatalPaused : Bool
  observationCount : Int
  backtestRunCount : Int
  quoteUnavailableRate : Rat

def finding (holds : Bool) (blocker action : String) : List (String × String) :=
  if holds then [(blocker, action)] else []

def ReadinessFacts.findings (settings : Settings) (facts : ReadinessFacts) :
    List (String × String) :=
  let isShadow : Bool := facts.strategy = "base_virtual_shadow"
  let minFeeStatus :=
    if isShadow then settings.shadowMinFeeConfidenceForReadiness else .venueDeclared
  let minBalanceStatus :=
    if isShadow then settings.shadowMinBalanceConfidenceForReadiness else .walletVerified
  let minQuoteStatus :=
    if isShadow then settings.shadowMinQuoteMatchForReadiness else .matched
  finding (facts.supportStatus ≠ .supported) "unsupported_route"
      "Resolve adapter/quoter support and eliminate quote_unavailable before readiness review." ++
    finding (!feeConfidenceAtLeast facts.feeStatus minFeeStatus) "fee_unverified"
      (if isShadow then "Increase fee provenance confidence for shadow observation quality."
        else "Collect venue/account or chain-verified fee provenance for this route.") ++
    (if facts.balanceStatus = .mismatch then
      [("balance_mismatch", "Investigate balance drift and reconcile DB/inventory/wallet state.")]
    else
      finding (!balanceConfidenceAtLeast facts.balanceStatus minBalanceStatus) "balance_unverified"
        (if isShadow then
          "Keep inventory checks at least internal/db-consistent for observation readiness."
        else "Add wallet/venue balance verification and keep drift checks green.")) ++
    finding (!quoteMatchStatusAtLeast facts.quoteMatchStatus minQuoteStatus)
      "quote_match_unverified"
      "Stabilize quote consistency checks to avoid unknown/mismatch states." ++
    finding (facts.observationCount < 20) "insufficient_observations"
      "Accumulate more real observation records before readiness gating." ++
    finding (facts.backtestRunCount < 1) "backtest_missing"
      "Run both opportunities and market_snapshots replay for this route." ++
    finding (1 / 5 ≤ facts.quoteUnavailableRate) "quote_unavailable_rate_high"
      "Reduce quote_unavailable rate by fixing route support/health dependencies." ++
    finding facts.cooldownActive "cooldown_active"
      "Clear cooldown only after root cause analysis and audit logging." ++
    finding facts.fatalPaused "fatal_paused"
      "Keep route paused until fatal failure category is resolved and re-tested." ++
    finding isShadow "observation_only_route"
      "Shadow routes are observation-readiness only; live-intent gate is not applicable."

def ReadinessFacts.blockers (settings : Settings) (facts : ReadinessFacts) : List String :=
  (facts.findings settings).map Prod.fst

def ReadinessFacts.actions (settings : Settings) (facts : ReadinessFacts) : List String :=
  ((facts.findings settings).map Prod.snd).eraseDups

/-- Shadow and live-intent routes have the same critical blockers. -/
def criticalBlockers : List String :=
  ["unsupported_route", "fee_unverified", "balance_mismatch", "balance_unverified",
    "quote_match_unverified", "backtest_missing", "fatal_paused"]

def gradeFromBlockers (blockers : List String) : ReadinessGrade :=
  if blockers = [] then .green
  else if blockers.any (fun blocker => blocker ∈ criticalBlockers) then .red
  else .yellow

def readinessFacts (strategy : String) (now : Instant) (input : ReadinessInput) :
    ReadinessFacts :=
  let health := input.latestHealth
  { strategy := strategy
    supportStatus := normalizeSupportStatus (health.elim (some "unknown") RouteHealth.supportStatus)
    feeStatus :=
      normalizeFeeConfidence (health.elim (some "unknown") RouteHealth.feeKnownStatus) none
    balanceStatus :=
      normalizeBalanceConfidence (health.elim (some "unknown") RouteHealth.balanceMatchStatus) none
    quoteMatchStatus :=
      normalizeQuoteMatchStatus (health.elim (some "unknown") RouteHealth.quoteMatchStatus)
    cooldownActive :=
      input.runtime.any (fun row => row.cooldownUntil.any fun expiry => now < expiry) ||
        health.any RouteHealth.cooldownActive
    fatalPaused := input.runtime.any fun row => row.paused && row.lastFailureFatal
    observationCount := input.observationCount
    backtestRunCount := input.backtestRunCount
    quoteUnavailableRate := input.quoteUnavailableRate }

/-- `_build_route_row`, at `now`. -/
def readinessRow (settings : Settings) (route : Route) (now : Instant) (input : ReadinessInput) :
    ReadinessRow :=
  let facts := readinessFacts route.strategy now input
  { routeId := route.id
    strategy := route.strategy
    supportStatus := facts.supportStatus
    feeKnownStatus := facts.feeStatus
    balanceMatchStatus := facts.balanceStatus
    quoteMatchStatus := facts.quoteMatchStatus
    cooldownActive := facts.cooldownActive
    fatalPaused := facts.fatalPaused
    observationCount := facts.observationCount
    quoteUnavailableRate := facts.quoteUnavailableRate
    backtestRunCount := facts.backtestRunCount
    grade := gradeFromBlockers (facts.blockers settings)
    blockers := facts.blockers settings
    actions := facts.actions settings }

/-! ### Grades -/

theorem gradeFromBlockers_red {blockers : List String} :
    gradeFromBlockers blockers = .red ↔ ∃ blocker ∈ blockers, blocker ∈ criticalBlockers := by
  unfold gradeFromBlockers
  split
  · rename_i empty
    simp [empty]
  · split
    · rename_i critical
      simpa using critical
    · rename_i minor
      simpa using minor

theorem fatalPaused_mem_blockers {settings : Settings} {facts : ReadinessFacts}
    (paused : facts.fatalPaused = true) : "fatal_paused" ∈ facts.blockers settings := by
  simp [ReadinessFacts.blockers, ReadinessFacts.findings, finding, paused]

theorem readinessRow_red_of_fatalPaused {settings : Settings} {route : Route} {now : Instant}
    {input : ReadinessInput} (paused : (readinessRow settings route now input).fatalPaused = true) :
    (readinessRow settings route now input).grade = .red := by
  simp only [readinessRow, gradeFromBlockers_red] at paused ⊢
  refine ⟨"fatal_paused", fatalPaused_mem_blockers paused, ?_⟩
  simp only [criticalBlockers, List.mem_cons, true_or, or_true]

end ArbitrageBot
