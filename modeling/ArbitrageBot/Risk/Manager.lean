/-
The in-memory risk manager: pause sets, cooldowns and per-route statistics, and
the operations that change them. `evaluate` is in its own module.

Every operation that reads the clock takes the instant it runs at. The route
statistics are a total function because the source reads them through a
defaultdict; counters are natural numbers because hydration clamps them.
-/

import Mathlib.Data.Finset.Basic
import Mathlib.Logic.Function.Basic
import ArbitrageBot.Quote

namespace ArbitrageBot

structure RouteStats where
  consecutiveFailures : Nat := 0
  consecutiveLosses : Nat := 0
  executions : List Instant := []
  lastFailureCategory : String := ""
  lastFailureReason : String := ""
  lastFailureAt : Option Instant := none
  lastFailureFatal : Bool := false
deriving DecidableEq

def fatalFailureCategories : List String :=
  ["quote_mismatch", "revert", "invalid_address", "chain_id_mismatch",
    "router_allowlist_violation", "stale_critical_data", "quote_unavailable", "scan_fatal"]

structure GlobalRiskManager where
  globalKillSwitch : Bool
  strategyPaused : Finset String := ∅
  routePaused : Finset String := ∅
  pairPaused : Finset String := ∅
  venuePaused : Finset String := ∅
  cooldownUntil : String → Option Instant := fun _ => none
  routeStats : String → RouteStats := fun _ => {}
  dailyRealizedPnl : Rat := 0
  dayAnchor : Int

def GlobalRiskManager.create (settings : Settings) (now : Instant) : GlobalRiskManager :=
  { globalKillSwitch := settings.globalKillSwitch, dayAnchor := date now }

/-- The persisted part of a route's state, as `get_route_state` returns it and as
`hydrate_route_state` takes it; a stored counter is any integer. -/
structure RouteState where
  paused : Bool
  cooldownUntil : Option Instant
  lastFailureCategory : String
  lastFailureReason : String
  lastFailureFatal : Bool
  lastFailureAt : Option Instant
  consecutiveFailures : Int
  consecutiveLosses : Int
deriving DecidableEq

namespace GlobalRiskManager

variable (manager : GlobalRiskManager)

def setGlobalKill (paused : Bool) : GlobalRiskManager :=
  { manager with globalKillSwitch := paused }

def pauseStrategy (strategy : String) : GlobalRiskManager :=
  { manager with strategyPaused := insert strategy manager.strategyPaused }

def resumeStrategy (strategy : String) : GlobalRiskManager :=
  { manager with strategyPaused := manager.strategyPaused.erase strategy }

def pauseRoute (routeId : String) : GlobalRiskManager :=
  { manager with routePaused := insert routeId manager.routePaused }

def resumeRoute (routeId : String) : GlobalRiskManager :=
  { manager with routePaused := manager.routePaused.erase routeId }

def pausePair (pair : String) : GlobalRiskManager :=
  { manager with pairPaused := insert pair manager.pairPaused }

def resumePair (pair : String) : GlobalRiskManager :=
  { manager with pairPaused := manager.pairPaused.erase pair }

def pauseVenue (venue : String) : GlobalRiskManager :=
  { manager with venuePaused := insert venue manager.venuePaused }

def resumeVenue (venue : String) : GlobalRiskManager :=
  { manager with venuePaused := manager.venuePaused.erase venue }

def resetDailyIfNeeded (now : Instant) : GlobalRiskManager :=
  if date now ≠ manager.dayAnchor then
    { manager with dayAnchor := date now, dailyRealizedPnl := 0 }
  else manager

end GlobalRiskManager

def RouteStats.withoutFailure (stats : RouteStats) : RouteStats :=
  { stats with
    consecutiveFailures := 0
    lastFailureCategory := ""
    lastFailureReason := ""
    lastFailureAt := none
    lastFailureFatal := false }

def RouteStats.pruneExecutions (stats : RouteStats) (now : Instant) : RouteStats :=
  { stats with executions := stats.executions.dropWhile (fun time => time < now - minutes 10) }

namespace GlobalRiskManager

variable (settings : Settings) (manager : GlobalRiskManager)

/-- `clear_cooldown(route_id)`; an absent or empty id clears every route. -/
def clearCooldown (routeId : Option String) : GlobalRiskManager :=
  match routeId with
  | none | some "" =>
      { manager with
        cooldownUntil := fun _ => none
        routeStats := fun route => (manager.routeStats route).withoutFailure }
  | some route =>
      { manager with
        cooldownUntil := Function.update manager.cooldownUntil route none
        routeStats :=
          Function.update manager.routeStats route (manager.routeStats route).withoutFailure }

def failureCooldownSeconds (category : String) : Int :=
  if category ∈ fatalFailureCategories then settings.routeFatalFailureCooldownSeconds
  else settings.routeFailureCooldownSeconds

def markFailure (now : Instant) (routeId category reason : String) : GlobalRiskManager :=
  let stats := manager.routeStats routeId
  let fatal := decide (category ∈ fatalFailureCategories)
  { manager with
    routeStats := Function.update manager.routeStats routeId
      { stats with
        consecutiveFailures := stats.consecutiveFailures + 1
        lastFailureCategory := category
        lastFailureReason := reason
        lastFailureAt := some now
        lastFailureFatal := fatal }
    cooldownUntil := Function.update manager.cooldownUntil routeId
      (some (now + seconds (failureCooldownSeconds settings category)))
    routePaused := if fatal then insert routeId manager.routePaused else manager.routePaused }

def markSuccess (now : Instant) (routeId : String) (realizedPnl : Rat) : GlobalRiskManager :=
  let anchored := manager.resetDailyIfNeeded now
  let stats := (anchored.routeStats routeId).withoutFailure
  let counted : RouteStats :=
    { stats with
      consecutiveLosses := if realizedPnl < 0 then stats.consecutiveLosses + 1 else 0
      executions := stats.executions ++ [now] }
  { anchored with
    dailyRealizedPnl := anchored.dailyRealizedPnl + realizedPnl
    routeStats := Function.update anchored.routeStats routeId (counted.pruneExecutions now) }

def shouldStopForDailyDd (balanceBaseline : Rat) : Bool :=
  if balanceBaseline ≤ 0 then true
  else settings.globalDailyDdStopPct ≤ -manager.dailyRealizedPnl / balanceBaseline

def cooldownRemainingSeconds (now : Instant) (routeId : String) : Int :=
  match manager.cooldownUntil routeId with
  | none => 0
  | some expiry => max ((expiry - now).tdiv (seconds 1)) 0

def getRouteState (routeId : String) : RouteState :=
  let stats := manager.routeStats routeId
  { paused := routeId ∈ manager.routePaused
    cooldownUntil := manager.cooldownUntil routeId
    lastFailureCategory := stats.lastFailureCategory
    lastFailureReason := stats.lastFailureReason
    lastFailureFatal := stats.lastFailureFatal
    lastFailureAt := stats.lastFailureAt
    consecutiveFailures := stats.consecutiveFailures
    consecutiveLosses := stats.consecutiveLosses }

def hydrateRouteState (now : Instant) (routeId : String) (row : RouteState) : GlobalRiskManager :=
  { manager with
    routeStats := Function.update manager.routeStats routeId
      { manager.routeStats routeId with
        consecutiveFailures := (max 0 row.consecutiveFailures).toNat
        consecutiveLosses := (max 0 row.consecutiveLosses).toNat
        lastFailureCategory := row.lastFailureCategory
        lastFailureReason := row.lastFailureReason
        lastFailureFatal := row.lastFailureFatal
        lastFailureAt := row.lastFailureAt }
    routePaused :=
      if row.paused then insert routeId manager.routePaused else manager.routePaused.erase routeId
    cooldownUntil := Function.update manager.cooldownUntil routeId
      (row.cooldownUntil.filter (fun expiry => now < expiry)) }

end GlobalRiskManager

/-- The operations of the manager as data, `evaluate` apart. -/
inductive RiskOp
  | setGlobalKill (paused : Bool)
  | pauseStrategy (strategy : String)
  | resumeStrategy (strategy : String)
  | pauseRoute (routeId : String)
  | resumeRoute (routeId : String)
  | pausePair (pair : String)
  | resumePair (pair : String)
  | pauseVenue (venue : String)
  | resumeVenue (venue : String)
  | clearCooldown (routeId : Option String)
  | markFailure (routeId category reason : String)
  | markSuccess (routeId : String) (realizedPnl : Rat)
  | hydrateRouteState (routeId : String) (row : RouteState)

def RiskOp.apply (settings : Settings) (now : Instant) (manager : GlobalRiskManager) :
    RiskOp → GlobalRiskManager
  | .setGlobalKill paused => manager.setGlobalKill paused
  | .pauseStrategy strategy => manager.pauseStrategy strategy
  | .resumeStrategy strategy => manager.resumeStrategy strategy
  | .pauseRoute routeId => manager.pauseRoute routeId
  | .resumeRoute routeId => manager.resumeRoute routeId
  | .pausePair pair => manager.pausePair pair
  | .resumePair pair => manager.resumePair pair
  | .pauseVenue venue => manager.pauseVenue venue
  | .resumeVenue venue => manager.resumeVenue venue
  | .clearCooldown routeId => manager.clearCooldown routeId
  | .markFailure routeId category reason => manager.markFailure settings now routeId category reason
  | .markSuccess routeId realizedPnl => manager.markSuccess now routeId realizedPnl
  | .hydrateRouteState routeId row => manager.hydrateRouteState now routeId row

def GlobalRiskManager.applyAll (settings : Settings) (now : Instant) (manager : GlobalRiskManager)
    (ops : List RiskOp) : GlobalRiskManager :=
  ops.foldl (fun current op => op.apply settings now current) manager

/-- The operations that may change what `getRouteState` says of a route. -/
def RiskOp.touches (op : RiskOp) (route : String) : Bool :=
  match op with
  | .pauseRoute routeId | .resumeRoute routeId | .markFailure routeId _ _ | .markSuccess routeId _
  | .hydrateRouteState routeId _ => routeId = route
  | .clearCooldown none | .clearCooldown (some "") => true
  | .clearCooldown (some routeId) => routeId = route
  | _ => false

/-- The operations that only the loop and start-up perform. -/
def RiskOp.byOperator : RiskOp → Bool
  | .markFailure _ _ _ | .markSuccess _ _ | .hydrateRouteState _ _ => false
  | _ => true

def RiskOp.failsFatally (route : String) : RiskOp → Bool
  | .markFailure routeId category _ => routeId = route && category ∈ fatalFailureCategories
  | _ => false

/-! ### What the operations do to one route -/

namespace GlobalRiskManager

variable {settings : Settings} {manager : GlobalRiskManager}

@[simp] theorem resetDailyIfNeeded_routeStats (now : Instant) :
    (manager.resetDailyIfNeeded now).routeStats = manager.routeStats := by
  unfold resetDailyIfNeeded
  split <;> rfl

@[simp] theorem resetDailyIfNeeded_routePaused (now : Instant) :
    (manager.resetDailyIfNeeded now).routePaused = manager.routePaused := by
  unfold resetDailyIfNeeded
  split <;> rfl

@[simp] theorem resetDailyIfNeeded_cooldownUntil (now : Instant) :
    (manager.resetDailyIfNeeded now).cooldownUntil = manager.cooldownUntil := by
  unfold resetDailyIfNeeded
  split <;> rfl

theorem clearCooldown_covered (manager : GlobalRiskManager) {routeId : Option String} {route : String}
    (covered : (RiskOp.clearCooldown routeId).touches route = true) :
    (manager.clearCooldown routeId).cooldownUntil route = none ∧
      (manager.clearCooldown routeId).routeStats route =
        (manager.routeStats route).withoutFailure := by
  unfold clearCooldown
  split
  · exact ⟨rfl, rfl⟩
  · exact ⟨rfl, rfl⟩
  · rename_i target notEmpty
    have same : target = route := by
      simpa [RiskOp.touches] using covered
    subst same
    simp

theorem getRouteState_congr {other : GlobalRiskManager} {route : String}
    (paused : route ∈ other.routePaused ↔ route ∈ manager.routePaused)
    (cooldown : other.cooldownUntil route = manager.cooldownUntil route)
    (stats : other.routeStats route = manager.routeStats route) :
    other.getRouteState route = manager.getRouteState route := by
  simp only [getRouteState, cooldown, stats, decide_eq_decide.mpr paused]

theorem getRouteState_markFailure_fatal {settings : Settings} {now : Instant}
    {route category reason : String} (fatal : category ∈ fatalFailureCategories) :
    ((manager.markFailure settings now route category reason).getRouteState route).paused = true ∧
      ((manager.markFailure settings now route category reason).getRouteState
        route).lastFailureFatal = true := by
  constructor <;> simp [getRouteState, markFailure, fatal]

end GlobalRiskManager

/-- Frame: an operation that does not touch a route leaves its state alone. -/
theorem RiskOp.getRouteState_apply {op : RiskOp} {route : String}
    (untouched : op.touches route = false) (settings : Settings) (now : Instant)
    (manager : GlobalRiskManager) :
    (op.apply settings now manager).getRouteState route = manager.getRouteState route := by
  cases op with
  | setGlobalKill | pauseStrategy | resumeStrategy | pausePair | resumePair | pauseVenue
  | resumeVenue => rfl
  | pauseRoute routeId =>
      have other : route ≠ routeId := fun same => by simp [touches, same] at untouched
      refine GlobalRiskManager.getRouteState_congr ?_ rfl rfl
      simp [apply, GlobalRiskManager.pauseRoute, other]
  | resumeRoute routeId =>
      have other : route ≠ routeId := fun same => by simp [touches, same] at untouched
      refine GlobalRiskManager.getRouteState_congr ?_ rfl rfl
      simp [apply, GlobalRiskManager.resumeRoute, other]
  | clearCooldown routeId =>
      match routeId with
      | none => simp [touches] at untouched
      | some target =>
          by_cases empty : target = ""
          · subst empty
            simp [touches] at untouched
          · have other : route ≠ target := fun same => by
              subst same
              simp [touches] at untouched
            apply GlobalRiskManager.getRouteState_congr
            all_goals simp [apply, GlobalRiskManager.clearCooldown, other]
  | markFailure routeId category reason =>
      have other : route ≠ routeId := fun same => by simp [touches, same] at untouched
      apply GlobalRiskManager.getRouteState_congr
      all_goals simp only [apply, GlobalRiskManager.markFailure]
      · split <;> simp [other]
      · exact Function.update_of_ne other _ _
      · exact Function.update_of_ne other _ _
  | markSuccess routeId realizedPnl =>
      have other : route ≠ routeId := fun same => by simp [touches, same] at untouched
      apply GlobalRiskManager.getRouteState_congr
      all_goals simp [apply, GlobalRiskManager.markSuccess, other]
  | hydrateRouteState routeId row =>
      have other : route ≠ routeId := fun same => by simp [touches, same] at untouched
      apply GlobalRiskManager.getRouteState_congr
      all_goals simp only [apply, GlobalRiskManager.hydrateRouteState]
      · split <;> simp [other]
      · exact Function.update_of_ne other _ _
      · exact Function.update_of_ne other _ _

theorem GlobalRiskManager.applyAll_preserves {settings : Settings} {now : Instant}
    {Holds : GlobalRiskManager → Prop} {ops : List RiskOp} {manager : GlobalRiskManager}
    (base : Holds manager)
    (preserved : ∀ op ∈ ops, ∀ current, Holds current → Holds (op.apply settings now current)) :
    Holds (manager.applyAll settings now ops) := by
  induction ops generalizing manager with
  | nil => exact base
  | cons op rest ih =>
      exact ih (preserved op List.mem_cons_self manager base)
        fun later member => preserved later (.tail op member)

theorem GlobalRiskManager.getRouteState_applyAll {settings : Settings} {now : Instant}
    {manager : GlobalRiskManager} {ops : List RiskOp} {route : String}
    (untouched : ∀ op ∈ ops, op.touches route = false) :
    (manager.applyAll settings now ops).getRouteState route = manager.getRouteState route := by
  induction ops generalizing manager with
  | nil => rfl
  | cons op rest ih =>
      have first := op.getRouteState_apply (untouched op List.mem_cons_self) settings now manager
      exact (ih fun later member => untouched later (.tail op member)).trans first

end ArbitrageBot
