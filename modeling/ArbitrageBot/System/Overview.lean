/-
`Repository.overview`, the figures of the dashboard, beside the other readers of
`route_runtime_states`. All of them compare a stored cooldown with the clock; the overview alone
compares it as it comes from the store, so it lives on rows that carry a time zone, and on naive
ones only while no route has failed.
-/

import ArbitrageBot.Library.LatestPerKey
import ArbitrageBot.Library.PythonDatetime
import ArbitrageBot.Readiness.Readiness

namespace ArbitrageBot

open LatestPerKey PythonDatetime

/-- A row with the column that its readers order or filter it by. -/
structure Stamped (α : Type) where
  stamp : Instant
  row : α

/-- A row of `route_runtime_states` as the driver returns it. -/
structure RouteRuntimeRow where
  routeId : String
  paused : Bool := false
  cooldownUntil : Option Datetime := none
  lastFailureCategory : String := ""
  lastFailureReason : String := ""
  lastFailureFatal : Bool := false
  lastFailureAt : Option Datetime := none
  consecutiveFailures : Int := 0
  consecutiveLosses : Int := 0
  updatedAt : Instant

structure WalletBalance where
  venue : String
  token : String
  available : Rat
  reserved : Rat
  total : Rat
  usdValue : Rat

structure BacktestSummary where
  simulatedPnl : Rat
  eligibleCount : Int
  blockedCount : Int
  hitRate : Rat

/-- What the overview reads; of snapshots their times only, of backtest runs their ids. -/
structure OverviewTables where
  runtimeControls : List (Stamped RuntimeControl) := []
  executions : List (Stamped Execution) := []
  tradeAttempts : List TradeAttempt := []
  opportunities : List (Stamped Opportunity) := []
  balances : List WalletBalance := []
  marketSnapshots : List Instant := []
  backtestRuns : List String := []
  backtestResults : List (Stamped BacktestSummary) := []
  routeRuntimeStates : List RouteRuntimeRow := []

structure VenueInventory where
  venue : String
  token : String
  amount : Rat
  usdValue : Rat

structure Overview where
  currentMode : RunMode
  globalStatus : String
  realizedPnl : Rat
  unrealizedPnl : Rat := 0
  todayPnl : Rat
  cumulativePnl : Rat
  tradeCount : Nat
  successRate : Rat
  failureRate : Rat
  revertedTxCount : Nat
  openExposures : Nat := 0
  walletBalances : List WalletBalance
  inventoryByVenue : List VenueInventory
  latestOpportunitiesCount : Nat
  quoteUnavailableCount : Nat
  unhealthyVenuesCount : Nat
  observationRecordsCount : Nat
  backtestRunsCount : Nat
  persistentCooldownRoutesCount : Nat
  fatalPausedRoutesCount : Nat
  latestBacktestSummary : Option BacktestSummary
  activeKillSwitches : List String

/-! ### The readers of a cooldown -/

/-- `cooldown_until and cooldown_until > now` -/
def cooldownRunning (cooldownUntil : Option Datetime) (now : Instant) : Except String Bool :=
  match cooldownUntil with
  | none => .ok false
  | some expiry => expiry.after (utc now)

def asUtc (datetime : Option Datetime) : Option Datetime := datetime.map Datetime.inUtc

namespace RouteRuntimeRow

variable (row : RouteRuntimeRow) (now : Instant)

/-- The check of `ReadinessService._build_route_row`. -/
def readinessCooldown : Except String Bool := cooldownRunning (asUtc row.cooldownUntil) now

/-- The check of `Repository.overview`. -/
def overviewCooldown : Except String Bool := cooldownRunning row.cooldownUntil now

def coolingDown : Bool := row.cooldownUntil.any fun expiry => now < expiry.instant

/-- The row as the risk manager hydrates it. -/
def state : RouteState :=
  { paused := row.paused
    cooldownUntil := row.cooldownUntil.map Datetime.instant
    lastFailureCategory := row.lastFailureCategory
    lastFailureReason := row.lastFailureReason
    lastFailureFatal := row.lastFailureFatal
    lastFailureAt := row.lastFailureAt.map Datetime.instant
    consecutiveFailures := row.consecutiveFailures
    consecutiveLosses := row.consecutiveLosses }

/-- No zone came with the cooldown, as from a store that keeps none. -/
def isNaive : Prop := ∀ expiry, row.cooldownUntil = some expiry → expiry.isAware = false

def isZoned : Prop := ∀ expiry, row.cooldownUntil = some expiry → expiry.isAware = true

end RouteRuntimeRow

/-- A persisted state as a store without time zones returns it. -/
def RouteState.unzoned (state : RouteState) (routeId : String) (updatedAt : Instant) :
    RouteRuntimeRow :=
  let drop (instant : Instant) : Datetime := { wall := instant, offset := none }
  { routeId := routeId
    paused := state.paused
    cooldownUntil := state.cooldownUntil.map drop
    lastFailureCategory := state.lastFailureCategory
    lastFailureReason := state.lastFailureReason
    lastFailureFatal := state.lastFailureFatal
    lastFailureAt := state.lastFailureAt.map drop
    consecutiveFailures := state.consecutiveFailures
    consecutiveLosses := state.consecutiveLosses
    updatedAt := updatedAt }

/-! ### The overview -/

def realizedPnlSum (executions : List (Stamped Execution)) : Rat :=
  (executions.map fun execution => execution.row.realizedPnl).sum

def WalletBalance.inventory (balance : WalletBalance) : VenueInventory :=
  { venue := balance.venue, token := balance.token, amount := balance.total
    usdValue := balance.usdValue }

namespace OverviewTables

variable (tables : OverviewTables) (now : Instant)

/-- `get_runtime_control` inserts the row that it does not find. -/
def getRuntimeControl : RuntimeControl × OverviewTables :=
  match (newestFirst Stamped.stamp tables.runtimeControls).head? with
  | some found => (found.row, tables)
  | none => ({}, { tables with runtimeControls := [⟨now, {}⟩] })

def listBalances : List WalletBalance :=
  tables.balances.insertionSort fun first second =>
    first.venue < second.venue ∨ first.venue = second.venue ∧ first.token ≤ second.token

def listRouteRuntimeStates : List RouteRuntimeRow :=
  newestFirst RouteRuntimeRow.updatedAt tables.routeRuntimeStates

def executionCount (statuses : List String) : Nat :=
  tables.executions.countP fun execution => execution.row.txStatus ∈ statuses

/-- `Decimal(count) / Decimal(exec_total)`, when there is an execution. -/
def executionRate (count : Nat) : Rat :=
  if 0 < tables.executions.length then (count : Rat) / tables.executions.length else 0

def quoteUnavailableCount (sinceMinutes : Int) : Nat :=
  let since := now - minutes sinceMinutes
  tables.opportunities.countP fun opportunity =>
    since ≤ opportunity.stamp && opportunity.row.blockedReason = "quote_unavailable"

def unhealthyVenuesCount (sinceMinutes : Int) : Nat :=
  let since := now - minutes sinceMinutes
  let rows := tables.opportunities.filter fun opportunity =>
    since ≤ opportunity.stamp &&
      opportunity.row.blockedReason ∈ ["pool_unhealthy", "quote_unavailable"]
  (rows.flatMap fun opportunity => opportunity.row.quote.venueTokens).dedup.length

def marketSnapshotCount (sinceMinutes : Int) : Nat :=
  let since := now - minutes sinceMinutes
  tables.marketSnapshots.countP fun stamp => since ≤ stamp

def overview : Except String Overview × OverviewTables :=
  let (control, tables) := tables.getRuntimeControl now
  let todayStart := seconds 86400 * date now
  let today := tables.executions.filter fun execution => todayStart ≤ execution.stamp
  let succeeded := tables.executionCount ["success", "dry_run"]
  let reverted := tables.executionCount ["reverted", "failed", "dry_run_blocked"]
  let latestOpportunities := tables.opportunities.countP fun opportunity =>
    now - minutes 5 ≤ opportunity.stamp
  let balances := tables.listBalances
  let runtimeStates := tables.listRouteRuntimeStates
  let shown := do
    let persistentCooldownRoutes ← countWhere (fun row => row.overviewCooldown now) runtimeStates
    return {
      currentMode := control.mode
      globalStatus := if control.globalPause then "stopped" else "healthy"
      realizedPnl := realizedPnlSum tables.executions
      todayPnl := realizedPnlSum today
      cumulativePnl := realizedPnlSum tables.executions
      tradeCount := tables.tradeAttempts.length
      successRate := tables.executionRate succeeded
      failureRate := tables.executionRate reverted
      revertedTxCount := reverted
      walletBalances := balances
      inventoryByVenue := balances.map WalletBalance.inventory
      latestOpportunitiesCount := latestOpportunities
      quoteUnavailableCount := tables.quoteUnavailableCount now 60
      unhealthyVenuesCount := tables.unhealthyVenuesCount now 60
      observationRecordsCount := tables.marketSnapshotCount now (60 * 24)
      backtestRunsCount := tables.backtestRuns.length
      persistentCooldownRoutesCount := persistentCooldownRoutes
      fatalPausedRoutesCount := runtimeStates.countP fun row => row.paused && row.lastFailureFatal
      latestBacktestSummary :=
        (newestFirst Stamped.stamp tables.backtestResults).head?.map Stamped.row
      activeKillSwitches := if control.globalPause then ["global_pause"] else [] }
  (shown, tables)

end OverviewTables

/-- The overview returns and counts the routes whose cooldown lies in the future, which are those
that readiness finds cooling down. -/
structure OverviewSurvives (now : Instant) (tables : OverviewTables) (shown : Overview) : Prop where
  returned : (tables.overview now).1 = .ok shown
  counted : shown.persistentCooldownRoutesCount =
    tables.routeRuntimeStates.countP fun row => row.coolingDown now
  agreed : ∀ row ∈ tables.routeRuntimeStates, row.readinessCooldown now = .ok (row.coolingDown now)

/-! ### What the readers find -/

section Readers

variable {now : Instant} {row : RouteRuntimeRow} {tables : OverviewTables}

/-- Readiness reads every row, with or without a zone. -/
theorem readinessCooldown_eq : row.readinessCooldown now = .ok (row.coolingDown now) := by
  rw [RouteRuntimeRow.readinessCooldown, RouteRuntimeRow.coolingDown, asUtc]
  cases row.cooldownUntil with
  | none => rfl
  | some expiry => exact Datetime.inUtc_after now

theorem unzoned_isNaive (state : RouteState) (routeId : String) (updatedAt : Instant) :
    (state.unzoned routeId updatedAt).isNaive := by
  intro expiry running
  obtain ⟨instant, -, rfl⟩ := Option.map_eq_some_iff.mp running
  rfl

theorem overviewCooldown_of_zoned (zoned : row.isZoned) :
    row.overviewCooldown now = .ok (row.coolingDown now) := by
  rw [RouteRuntimeRow.overviewCooldown, RouteRuntimeRow.coolingDown]
  cases running : row.cooldownUntil with
  | none => rfl
  | some expiry => exact Datetime.after_utc_of_aware (zoned expiry running) now

theorem zoned_of_overviewCooldown {found : Bool} (read : row.overviewCooldown now = .ok found) :
    row.isZoned := by
  intro expiry running
  by_contra naive
  rw [RouteRuntimeRow.overviewCooldown, running, cooldownRunning,
    Datetime.after_utc_of_naive (Bool.eq_false_iff.mpr naive)] at read
  cases read

theorem getRuntimeControl_states :
    (tables.getRuntimeControl now).2.routeRuntimeStates = tables.routeRuntimeStates := by
  unfold OverviewTables.getRuntimeControl
  split <;> rfl

theorem mem_listed :
    row ∈ (tables.getRuntimeControl now).2.listRouteRuntimeStates ↔
      row ∈ tables.routeRuntimeStates := by
  rw [OverviewTables.listRouteRuntimeStates, mem_newestFirst, getRuntimeControl_states]

theorem countP_listed (test : RouteRuntimeRow → Bool) :
    (tables.getRuntimeControl now).2.listRouteRuntimeStates.countP test =
      tables.routeRuntimeStates.countP test := by
  have same : (tables.getRuntimeControl now).2.listRouteRuntimeStates.Perm
      (tables.getRuntimeControl now).2.routeRuntimeStates := newestFirst_perm _
  rw [same.countP_eq, getRuntimeControl_states]

/-- Nothing but the count of the cooldowns can raise. -/
theorem overview_ok_iff {count : Nat} :
    (∃ shown, (tables.overview now).1 = .ok shown ∧ shown.persistentCooldownRoutesCount = count) ↔
      countWhere (fun row => row.overviewCooldown now)
        (tables.getRuntimeControl now).2.listRouteRuntimeStates = .ok count := by
  unfold OverviewTables.overview
  dsimp only
  cases countWhere (fun row : RouteRuntimeRow => row.overviewCooldown now)
    (tables.getRuntimeControl now).2.listRouteRuntimeStates with
  | error raised =>
      refine iff_of_false ?_ nofun
      rintro ⟨shown, returned, -⟩
      cases returned
  | ok counted =>
      rw [Except.ok.injEq]
      constructor
      · rintro ⟨shown, returned, rfl⟩
        cases returned
        rfl
      · rintro rfl
        exact ⟨_, rfl, rfl⟩

theorem overview_survives_iff_zoned :
    (∃ shown, OverviewSurvives now tables shown) ↔
      ∀ row ∈ tables.routeRuntimeStates, row.isZoned := by
  constructor
  · rintro ⟨shown, returned, -, -⟩ row member
    have counted := overview_ok_iff.mp ⟨shown, returned, rfl⟩
    obtain ⟨found, read⟩ := checked_of_countWhere counted row (mem_listed.mpr member)
    exact zoned_of_overviewCooldown read
  · intro zoned
    have counted : countWhere (fun row => row.overviewCooldown now)
        (tables.getRuntimeControl now).2.listRouteRuntimeStates =
        .ok (tables.routeRuntimeStates.countP fun row => row.coolingDown now) := by
      rw [← @countP_listed now]
      apply countWhere_ok
      intro row listed
      exact overviewCooldown_of_zoned (zoned row (mem_listed.mp listed))
    obtain ⟨shown, returned, same⟩ := overview_ok_iff.mpr counted
    exact ⟨shown, returned, same, fun _ _ => readinessCooldown_eq⟩

end Readers

/-- On rows from a store without time zones the overview survives exactly as long as no route has
a cooldown, running or over. -/
theorem overview_survives_iff (now : Instant) (tables : OverviewTables)
    (naive : ∀ row ∈ tables.routeRuntimeStates, row.isNaive) :
    (∃ shown, OverviewSurvives now tables shown) ↔
      ∀ row ∈ tables.routeRuntimeStates, row.cooldownUntil = none := by
  rw [overview_survives_iff_zoned]
  refine forall₂_congr fun row member => ?_
  constructor
  · intro zoned
    cases running : row.cooldownUntil with
    | none => rfl
    | some expiry =>
        have zone := zoned expiry running
        rw [naive row member expiry running] at zone
        cases zone
  · intro unset expiry running
    rw [unset] at running
    cases running

/-- Three routes without a cooldown, two of them with a history of losses and pauses. -/
def unfailedTables : OverviewTables :=
  { routeRuntimeStates :=
      [{ routeId := "r", updatedAt := 0 },
        { routeId := "s", paused := true, consecutiveLosses := 2, updatedAt := 5 },
        { routeId := "t", consecutiveFailures := 1, lastFailureCategory := "slippage"
          lastFailureAt := some { wall := 3, offset := none }, updatedAt := 3 }] }

/-- A route without a quote, after its failure was persisted. -/
def failedTables : OverviewTables :=
  let manager : GlobalRiskManager :=
    (GlobalRiskManager.create shipped 0).markFailure shipped 0 "r" "quote_unavailable"
      "opportunity blocked: quote_unavailable"
  { routeRuntimeStates := [(manager.getRouteState "r").unzoned "r" 0] }

theorem overview_survives_iff_samples :
    (∃ shown, OverviewSurvives 10 unfailedTables shown) ∧
      (∃ row ∈ failedTables.routeRuntimeStates, row.isNaive ∧ row.cooldownUntil.isSome = true) ∧
      ¬∃ shown, OverviewSurvives 0 failedTables shown := by
  have unset : ∀ row ∈ unfailedTables.routeRuntimeStates, row.cooldownUntil = none := by
    simp [unfailedTables]
  have unfailedNaive : ∀ row ∈ unfailedTables.routeRuntimeStates, row.isNaive := by
    intro row member expiry running
    rw [unset row member] at running
    cases running
  have failedNaive : ∀ row ∈ failedTables.routeRuntimeStates, row.isNaive := by
    intro row member
    rw [List.mem_singleton.mp member]
    exact unzoned_isNaive _ "r" 0
  refine ⟨(overview_survives_iff 10 unfailedTables unfailedNaive).mpr unset,
    ⟨_, List.mem_cons_self, failedNaive _ List.mem_cons_self, rfl⟩, ?_⟩
  intro survives
  have cleared :=
    (overview_survives_iff 0 failedTables failedNaive).mp survives _ List.mem_cons_self
  cases cleared

/-- One failure is enough, for as long as its row is there. -/
theorem overview_raises_of_failure {settings : Settings} {manager : GlobalRiskManager}
    {failedAt updatedAt now : Instant} {routeId category reason : String} {tables : OverviewTables}
    (persisted : ((manager.markFailure settings failedAt routeId category reason).getRouteState
      routeId).unzoned routeId updatedAt ∈ tables.routeRuntimeStates) :
    ¬∃ shown, OverviewSurvives now tables shown := by
  rw [overview_survives_iff_zoned]
  intro zoned
  have zone := zoned _ persisted
  simp only [RouteRuntimeRow.isZoned, RouteState.unzoned, GlobalRiskManager.getRouteState,
    GlobalRiskManager.markFailure, Function.update_self, Option.map_some, Option.some.injEq,
    forall_eq'] at zone
  cases zone

theorem overview_raises_failed :
    (∀ row ∈ failedTables.routeRuntimeStates, row.isNaive) ∧
      (failedTables.overview 0).1 = .error mixedComparison ∧
      ¬∃ shown, OverviewSurvives 0 failedTables shown := by
  refine ⟨?_, rfl, overview_raises_of_failure List.mem_cons_self⟩
  intro row member
  rw [List.mem_singleton.mp member]
  exact unzoned_isNaive _ "r" 0

end ArbitrageBot
