/-
The way of a route's state into `route_runtime_states` and back. `get_route_state` writes the two
timestamps as text, both writers of the row parse the text again, the store gives the columns back
with a zone or without one, and `_as_utc` reads them. Nothing is lost on the way.
-/

import ArbitrageBot.Library.IsoFormat
import ArbitrageBot.System.Hydration
import ArbitrageBot.System.Overview

namespace ArbitrageBot

open PythonDatetime IsoFormat

/-- What `get_route_state` returns. -/
structure RouteStateDict where
  routeId : String
  consecutiveFailures : Nat
  consecutiveLosses : Nat
  lastFailureCategory : String
  lastFailureReason : String
  lastFailureFatal : Bool
  lastFailureAt : String
  cooldownUntil : String
  cooldownRemainingSeconds : Int
  routePaused : Bool
deriving DecidableEq

/-- `value.isoformat() if value else ""` -/
def isoOrEmpty (value : Option Datetime) : String :=
  match value with
  | none => ""
  | some datetime => text datetime

/-- A text that does not parse counts as no timestamp. -/
def parseOrNone (raw : String) : Option Datetime := if raw = "" then none else parse raw

def GlobalRiskManager.getRouteStateDict (manager : GlobalRiskManager) (now : Instant)
    (routeId : String) : RouteStateDict :=
  let stats := manager.routeStats routeId
  { routeId
    consecutiveFailures := stats.consecutiveFailures
    consecutiveLosses := stats.consecutiveLosses
    lastFailureCategory := stats.lastFailureCategory
    lastFailureReason := stats.lastFailureReason
    lastFailureFatal := stats.lastFailureFatal
    lastFailureAt := isoOrEmpty (stats.lastFailureAt.map utc)
    cooldownUntil := isoOrEmpty ((manager.cooldownUntil routeId).map utc)
    cooldownRemainingSeconds := manager.cooldownRemainingSeconds now routeId
    routePaused := routeId ∈ manager.routePaused }

/-- The columns that both writers pass to `upsert_route_runtime_state`, which stamps them. -/
def RouteStateDict.columns (state : RouteStateDict) (routeId : String) (updatedAt : Instant) :
    RouteRuntimeRow :=
  { routeId
    paused := state.routePaused
    cooldownUntil := parseOrNone state.cooldownUntil
    lastFailureCategory := state.lastFailureCategory
    lastFailureReason := state.lastFailureReason
    lastFailureFatal := state.lastFailureFatal
    lastFailureAt := parseOrNone state.lastFailureAt
    consecutiveFailures := state.consecutiveFailures
    consecutiveLosses := state.consecutiveLosses
    updatedAt }

namespace GlobalRiskManager

variable (manager : GlobalRiskManager) (now : Instant) (routeId : String)

def persistRouteRuntimeState : RouteRuntimeRow :=
  (manager.getRouteStateDict now routeId).columns routeId now

def persistRouteState : RouteRuntimeRow :=
  (manager.getRouteStateDict now routeId).columns routeId now

end GlobalRiskManager

/-- What the driver returns of a timestamp column: the instant that went in as UTC, in any zone, or
as a naive UTC time from a store without zones. -/
structure UtcColumn where
  returned : Datetime → Datetime
  same : ∀ instant, (returned (utc instant)).instant = instant

def UtcColumn.unzoned : UtcColumn where
  returned datetime := { datetime with offset := none }
  same instant := by rw [Datetime.instant, utc, Option.getD_none, Int.sub_zero]

/-- A store that returns timestamps in the zone of the session. -/
def UtcColumn.inZone (session : Int) : UtcColumn where
  returned datetime := { wall := datetime.instant + session, offset := some session }
  same instant := by
    rw [Datetime.instant, Datetime.instant_utc, Option.getD_some, Int.add_sub_cancel]

def RouteRuntimeRow.through (row : RouteRuntimeRow) (column : UtcColumn) : RouteRuntimeRow :=
  { row with
    cooldownUntil := row.cooldownUntil.map column.returned
    lastFailureAt := row.lastFailureAt.map column.returned }

/-- The columns that `/route-health` shows of a stored row. -/
structure PersistedRuntimeState where
  paused : Bool
  cooldownUntil : String
  lastFailureCategory : String
  lastFailureReason : String
  lastFailureFatal : Bool
  lastFailureAt : String
  consecutiveFailures : Int
  consecutiveLosses : Int
deriving DecidableEq

def RouteRuntimeRow.persistedRuntimeState (row : RouteRuntimeRow) : PersistedRuntimeState :=
  { paused := row.paused
    cooldownUntil := isoOrEmpty row.cooldownUntil
    lastFailureCategory := row.lastFailureCategory
    lastFailureReason := row.lastFailureReason
    lastFailureFatal := row.lastFailureFatal
    lastFailureAt := isoOrEmpty row.lastFailureAt
    consecutiveFailures := row.consecutiveFailures
    consecutiveLosses := row.consecutiveLosses }

def RouteStateDict.persisted (state : RouteStateDict) : PersistedRuntimeState :=
  { paused := state.routePaused
    cooldownUntil := state.cooldownUntil
    lastFailureCategory := state.lastFailureCategory
    lastFailureReason := state.lastFailureReason
    lastFailureFatal := state.lastFailureFatal
    lastFailureAt := state.lastFailureAt
    consecutiveFailures := state.consecutiveFailures
    consecutiveLosses := state.consecutiveLosses }

/-- The text of a naive UTC time with the zone added. -/
def withZone (text : String) : String := if text = "" then "" else text ++ "+00:00"

def PersistedRuntimeState.inUtc (shown : PersistedRuntimeState) : PersistedRuntimeState :=
  { shown with
    cooldownUntil := withZone shown.cooldownUntil
    lastFailureAt := withZone shown.lastFailureAt }

/-! ### Runs of the manager on a calendar -/

def GlobalRiskManager.applyTimed (settings : Settings) (manager : GlobalRiskManager)
    (timed : List (Instant × RiskOp)) : GlobalRiskManager :=
  timed.foldl (fun current entry => entry.2.apply settings entry.1 current) manager

/-- The timestamps that an operation records are ones that `datetime` has; computing another one
raises there. -/
def RiskOp.onCalendar (settings : Settings) (now : Instant) : RiskOp → Prop
  | .markFailure _ category _ =>
      IsoFormat.onCalendar now ∧ IsoFormat.onCalendar
        (now + seconds (GlobalRiskManager.failureCooldownSeconds settings category))
  | .hydrateRouteState _ row =>
      (∀ expiry, row.cooldownUntil = some expiry → IsoFormat.onCalendar expiry) ∧
        ∀ failed, row.lastFailureAt = some failed → IsoFormat.onCalendar failed
  | _ => True

structure GlobalRiskManager.OnCalendar (manager : GlobalRiskManager) : Prop where
  cooldown : ∀ route expiry, manager.cooldownUntil route = some expiry → onCalendar expiry
  failure : ∀ route failed, (manager.routeStats route).lastFailureAt = some failed →
    onCalendar failed

/-- What the two writers store of a route comes back as the route's state, by way of text and of
the column, hydrates a manager to it, and is shown as memory shows it. -/
structure ComesBack (manager : GlobalRiskManager) (now : Instant) (routeId : String) : Prop where
  byLoop : ∀ column, ((manager.persistRouteRuntimeState now routeId).through column).state =
    manager.getRouteState routeId
  byApi : ∀ column, ((manager.persistRouteState now routeId).through column).state =
    manager.getRouteState routeId
  hydrated : ∀ column later (fresh : GlobalRiskManager),
    (fresh.hydrateRouteState later routeId
      ((manager.persistRouteRuntimeState now routeId).through column).state).getRouteState routeId =
        (manager.getRouteState routeId).hydrated later
  naive : ((manager.persistRouteRuntimeState now routeId).through .unzoned) =
    (manager.getRouteState routeId).unzoned routeId now
  shown :
    ((manager.persistRouteRuntimeState now routeId).through (.inZone 0)).persistedRuntimeState =
      (manager.getRouteStateDict now routeId).persisted
  shownNaive :
    ((manager.persistRouteRuntimeState now routeId).through .unzoned).persistedRuntimeState.inUtc =
      (manager.getRouteStateDict now routeId).persisted

/-! ### One state -/

section Text

variable {manager : GlobalRiskManager} {now : Instant} {routeId : String}

theorem parseOrNone_isoOrEmpty {value : Option Instant}
    (dated : ∀ instant, value = some instant → onCalendar instant) :
    parseOrNone (isoOrEmpty (value.map utc)) = value.map utc := by
  cases value with
  | none => rfl
  | some instant =>
      rw [Option.map_some, isoOrEmpty, parseOrNone, if_neg (text_ne_empty _)]
      exact parse_text (representable_utc (dated instant rfl))

/-- The row holds the timestamps themselves. -/
theorem columns_eq (dated : manager.OnCalendar) :
    manager.persistRouteRuntimeState now routeId =
      { routeId
        paused := (manager.getRouteState routeId).paused
        cooldownUntil := (manager.getRouteState routeId).cooldownUntil.map utc
        lastFailureCategory := (manager.getRouteState routeId).lastFailureCategory
        lastFailureReason := (manager.getRouteState routeId).lastFailureReason
        lastFailureFatal := (manager.getRouteState routeId).lastFailureFatal
        lastFailureAt := (manager.getRouteState routeId).lastFailureAt.map utc
        consecutiveFailures := (manager.getRouteState routeId).consecutiveFailures
        consecutiveLosses := (manager.getRouteState routeId).consecutiveLosses
        updatedAt := now } := by
  simp only [GlobalRiskManager.persistRouteRuntimeState, RouteStateDict.columns,
    GlobalRiskManager.getRouteStateDict, GlobalRiskManager.getRouteState,
    parseOrNone_isoOrEmpty (dated.cooldown routeId), parseOrNone_isoOrEmpty (dated.failure routeId)]

theorem returned_instant (column : UtcColumn) (value : Option Instant) :
    ((value.map utc).map column.returned).map Datetime.instant = value := by
  cases value with
  | none => rfl
  | some instant => simp only [Option.map_some, column.same]

theorem persisted_state (dated : manager.OnCalendar) (column : UtcColumn) :
    ((manager.persistRouteRuntimeState now routeId).through column).state =
      manager.getRouteState routeId := by
  rw [columns_eq dated]
  simp only [RouteRuntimeRow.through, RouteRuntimeRow.state, returned_instant]

theorem inZone_zero (value : Option Instant) :
    (value.map utc).map (UtcColumn.inZone 0).returned = value.map utc := by
  cases value with
  | none => rfl
  | some instant =>
      simp only [Option.map_some, UtcColumn.inZone, Datetime.instant_utc, Int.add_zero]
      rfl

theorem withZone_unzoned (value : Option Instant) :
    withZone (isoOrEmpty ((value.map utc).map UtcColumn.unzoned.returned)) =
      isoOrEmpty (value.map utc) := by
  cases value with
  | none => rfl
  | some instant =>
      rw [Option.map_some, Option.map_some, isoOrEmpty, isoOrEmpty, withZone,
        if_neg (text_ne_empty _), text_utc]
      rfl

theorem comesBack (dated : manager.OnCalendar) : ComesBack manager now routeId where
  byLoop := persisted_state dated
  byApi := persisted_state dated
  hydrated column later fresh := by
    rw [persisted_state dated, getRouteState_hydrate]
  naive := by
    rw [columns_eq dated]
    simp only [RouteRuntimeRow.through, RouteState.unzoned, Option.map_map, UtcColumn.unzoned,
      Function.comp_def, utc]
  shown := by
    rw [columns_eq dated]
    simp only [RouteRuntimeRow.through, RouteRuntimeRow.persistedRuntimeState, inZone_zero,
      RouteStateDict.persisted, GlobalRiskManager.getRouteStateDict,
      GlobalRiskManager.getRouteState]
  shownNaive := by
    rw [columns_eq dated]
    simp only [RouteRuntimeRow.through, RouteRuntimeRow.persistedRuntimeState,
      PersistedRuntimeState.inUtc, withZone_unzoned, RouteStateDict.persisted,
      GlobalRiskManager.getRouteStateDict, GlobalRiskManager.getRouteState]

end Text

/-! ### Runs -/

section Runs

variable {settings : Settings} {manager : GlobalRiskManager} {now : Instant}

theorem create_onCalendar (settings : Settings) (created : Instant) :
    (GlobalRiskManager.create settings created).OnCalendar := by
  constructor <;> intro route instant absent <;> cases absent

/-- A cleared cooldown leaves timestamps that were there before. -/
theorem clearCooldown_onCalendar (dated : manager.OnCalendar) (routeId : Option String) :
    (manager.clearCooldown routeId).OnCalendar := by
  obtain ⟨cooldown, failure⟩ := dated
  unfold GlobalRiskManager.clearCooldown
  split
  · constructor <;> intro route instant absent <;> cases absent
  · constructor <;> intro route instant absent <;> cases absent
  · constructor
    · intro route expiry running
      simp only [Function.update_apply] at running
      split at running
      · cases running
      · exact cooldown route expiry running
    · intro route time recorded
      simp only [Function.update_apply] at recorded
      split at recorded
      · cases recorded
      · exact failure route time recorded

theorem markSuccess_onCalendar (dated : manager.OnCalendar) (routeId : String)
    (realizedPnl : Rat) : (manager.markSuccess now routeId realizedPnl).OnCalendar := by
  obtain ⟨cooldown, failure⟩ := dated
  have anchored : (manager.resetDailyIfNeeded now).cooldownUntil = manager.cooldownUntil ∧
      (manager.resetDailyIfNeeded now).routeStats = manager.routeStats := by
    unfold GlobalRiskManager.resetDailyIfNeeded
    split <;> exact ⟨rfl, rfl⟩
  constructor
  · intro route expiry running
    simp only [GlobalRiskManager.markSuccess, anchored.1] at running
    exact cooldown route expiry running
  · intro route time recorded
    simp only [GlobalRiskManager.markSuccess, anchored.2, Function.update_apply] at recorded
    split at recorded
    · cases recorded
    · exact failure route time recorded

theorem apply_onCalendar (dated : manager.OnCalendar) {op : RiskOp}
    (permitted : op.onCalendar settings now) : (op.apply settings now manager).OnCalendar := by
  obtain ⟨cooldown, failure⟩ := id dated
  cases op with
  | markFailure routeId category reason =>
      obtain ⟨failed, expires⟩ := permitted
      constructor
      · intro route expiry running
        simp only [RiskOp.apply, GlobalRiskManager.markFailure, Function.update_apply] at running
        split at running
        · cases running
          exact expires
        · exact cooldown route expiry running
      · intro route time recorded
        simp only [RiskOp.apply, GlobalRiskManager.markFailure, Function.update_apply] at recorded
        split at recorded
        · cases recorded
          exact failed
        · exact failure route time recorded
  | hydrateRouteState routeId row =>
      obtain ⟨rowCooldown, rowFailure⟩ := permitted
      constructor
      · intro route expiry running
        simp only [RiskOp.apply, GlobalRiskManager.hydrateRouteState, Function.update_apply]
          at running
        split at running
        · exact rowCooldown expiry (Option.eq_some_of_filter_eq_some running)
        · exact cooldown route expiry running
      · intro route time recorded
        simp only [RiskOp.apply, GlobalRiskManager.hydrateRouteState, Function.update_apply]
          at recorded
        split at recorded
        · exact rowFailure time recorded
        · exact failure route time recorded
  | clearCooldown routeId => exact clearCooldown_onCalendar dated routeId
  | markSuccess routeId realizedPnl => exact markSuccess_onCalendar dated routeId realizedPnl
  | _ => exact ⟨cooldown, failure⟩

theorem applyTimed_onCalendar (dated : manager.OnCalendar) {timed : List (Instant × RiskOp)}
    (permitted : ∀ entry ∈ timed, entry.2.onCalendar settings entry.1) :
    (manager.applyTimed settings timed).OnCalendar := by
  induction timed generalizing manager with
  | nil => exact dated
  | cons entry rest ih =>
      obtain ⟨first, others⟩ := List.forall_mem_cons.mp permitted
      exact ih (apply_onCalendar dated first) others

end Runs

theorem persisted_comes_back {settings : Settings} {created : Instant}
    {timed : List (Instant × RiskOp)}
    (permitted : ∀ entry ∈ timed, entry.2.onCalendar settings entry.1) (now : Instant)
    (routeId : String) :
    ComesBack ((GlobalRiskManager.create settings created).applyTimed settings timed) now routeId :=
  comesBack (applyTimed_onCalendar (create_onCalendar settings created) permitted)

/-- A revert at noon of 14 November 2023, seen by the loop a minute later. -/
theorem persisted_comes_back_revert :
    ComesBack ((GlobalRiskManager.create {} 1699963200000000).applyTimed {}
      [(1699963200000000, .markFailure "route" "revert" "reverted"),
        (1699963260000000, .pauseVenue "venue")]) 1699963260000000 "route" := by
  apply persisted_comes_back
  intro entry member
  simp only [List.mem_cons, List.not_mem_nil, or_false] at member
  rcases member with rfl | rfl
  · refine ⟨?_, ?_⟩ <;> constructor <;> decide
  · trivial

end ArbitrageBot
