/-
The tables that the scan loop, the control handlers and the start-up share, and
the repository's writes to them. Every write here is one commit.
-/

import Mathlib.Data.List.AList
import Mathlib.Data.List.Sort
import ArbitrageBot.Risk.Evaluate

namespace ArbitrageBot

structure RuntimeControl where
  mode : RunMode := .paper
  globalPause : Bool := false

structure Route where
  id : String
  strategy : String
  name : String
  pair : String
  direction : String
  venueA : String
  venueB : String
  routerA : String
  routerB : String
  maxNotionalUsdc : Rat
  enabled : Bool
  isLiveAllowed : Bool
  killSwitch : Bool
  poolA : String := ""
  poolB : String := ""
  quoterFeeTierA : Int := 5
  quoterFeeTierB : Int := 5
  poolFeeTierA : Int := 5
  poolFeeTierB : Int := 5
  economicFeeBpsA : Int := 5
  economicFeeBpsB : Int := 5

/-- A row of `opportunities`; the quote is the row's payload. -/
structure Opportunity where
  quote : RouteQuote
  mode : RunMode
  status : String
  blockedReason : String

structure TradeAttempt where
  routeId : String
  strategy : String
  mode : RunMode
  inputAmount : Rat
  expectedOutputAmount : Rat
  expectedPnl : Rat
  status : String
  blockedReason : String := ""
  failureCategory : String := ""
  isFatalFailure : Bool := false
  cooldownTriggered : Bool := false

structure Execution where
  attemptId : Nat
  routeId : String
  strategy : String
  mode : RunMode
  txStatus : String
  inputAmount : Rat
  outputAmount : Rat
  expectedPnl : Rat
  realizedPnl : Rat
  failureCategory : String
  isFatalFailure : Bool
  cooldownTriggered : Bool

/-- The row as its `Numeric(18, 8)` columns keep it. -/
def TradeAttempt.kept (numericColumn : Rat → Rat) (row : TradeAttempt) : TradeAttempt :=
  { row with
    inputAmount := numericColumn row.inputAmount
    expectedOutputAmount := numericColumn row.expectedOutputAmount
    expectedPnl := numericColumn row.expectedPnl }

def Execution.kept (numericColumn : Rat → Rat) (row : Execution) : Execution :=
  { row with
    inputAmount := numericColumn row.inputAmount
    outputAmount := numericColumn row.outputAmount
    expectedPnl := numericColumn row.expectedPnl
    realizedPnl := numericColumn row.realizedPnl }

/-- `routeStates` is `route_runtime_states`, the latest update first; the id of an attempt is its
position. -/
structure Database where
  control : RuntimeControl
  routes : List Route
  routeStates : AList (fun _ : String => RouteState)
  opportunities : List Opportunity := []
  tradeAttempts : List TradeAttempt := []
  executions : List Execution := []

namespace Database

variable (db : Database)

def setMode (mode : RunMode) : Database :=
  { db with control := { db.control with mode := mode } }

def setGlobalPause (value : Bool) : Database :=
  { db with control := { db.control with globalPause := value } }

def setRouteEnabled (routeId : String) (enabled : Bool) : Database :=
  { db with
    routes := db.routes.map fun route =>
      if route.id = routeId then { route with enabled := enabled } else route }

/-- `get_routes(enabled_only=True)`. -/
def getRoutes : List Route :=
  db.routes.filter fun route => route.enabled && !route.killSwitch

/-- `list_routes`, by strategy and name. -/
def listRoutes : List Route :=
  db.routes.insertionSort fun first second =>
    first.strategy < second.strategy ∨
      first.strategy = second.strategy ∧ first.name ≤ second.name

def listRouteRuntimeStates : List (String × RouteState) :=
  db.routeStates.entries.map fun row => (row.1, row.2)

def getRouteRuntimeState (routeId : String) : Option RouteState :=
  db.routeStates.lookup routeId

def upsertRouteRuntimeState (routeId : String) (state : RouteState) : Database :=
  { db with routeStates := db.routeStates.insert routeId state }

def insertOpportunity (row : Opportunity) : Database :=
  { db with opportunities := db.opportunities ++ [row] }

def insertTradeAttempt (numericColumn : Rat → Rat) (row : TradeAttempt) : Database :=
  { db with tradeAttempts := db.tradeAttempts ++ [row.kept numericColumn] }

def updateTradeAttemptOutcome (attemptId : Nat) (status blockedReason failureCategory : String)
    (isFatalFailure cooldownTriggered : Bool) : Database :=
  { db with
    tradeAttempts := db.tradeAttempts.modify attemptId fun row =>
      { row with
        status := status
        blockedReason := blockedReason
        failureCategory := failureCategory
        isFatalFailure := isFatalFailure
        cooldownTriggered := cooldownTriggered } }

def insertExecution (numericColumn : Rat → Rat) (row : Execution) : Database :=
  { db with executions := db.executions ++ [row.kept numericColumn] }

def attemptsOf (routeId : String) : Nat :=
  (db.tradeAttempts.map TradeAttempt.routeId).count routeId

/-! ### What the writes leave alone -/

variable {db : Database}

theorem getRouteRuntimeState_upsert (routeId other : String) (state : RouteState) :
    (db.upsertRouteRuntimeState routeId state).getRouteRuntimeState other =
      if other = routeId then some state else db.getRouteRuntimeState other := by
  unfold getRouteRuntimeState upsertRouteRuntimeState
  split
  · rename_i same
    subst same
    exact AList.lookup_insert _
  · rename_i different
    exact AList.lookup_insert_ne different

theorem mem_listRouteRuntimeStates {routeId : String} {row : RouteState} :
    (routeId, row) ∈ db.listRouteRuntimeStates ↔ db.getRouteRuntimeState routeId = some row := by
  rw [getRouteRuntimeState, ← Option.mem_def, AList.mem_lookup_iff, listRouteRuntimeStates,
    List.mem_map]
  constructor
  · rintro ⟨⟨key, value⟩, stored, same⟩
    cases same
    exact stored
  · intro stored
    exact ⟨⟨routeId, row⟩, stored, rfl⟩

theorem mem_listRoutes {route : Route} : route ∈ db.listRoutes ↔ route ∈ db.routes :=
  List.mem_insertionSort _

theorem setRouteEnabled_ids (routeId : String) (enabled : Bool) :
    (db.setRouteEnabled routeId enabled).routes.map Route.id = db.routes.map Route.id := by
  rw [setRouteEnabled, List.map_map]
  apply List.map_congr_left
  intro route _member
  simp only [Function.comp]
  split <;> rfl

theorem map_routeId_modify {change : TradeAttempt → TradeAttempt}
    (kept : ∀ row, (change row).routeId = row.routeId) (rows : List TradeAttempt)
    (position : Nat) :
    (rows.modify position change).map TradeAttempt.routeId = rows.map TradeAttempt.routeId := by
  induction rows generalizing position with
  | nil => simp
  | cons row rest ih =>
      cases position with
      | zero => simp [kept]
      | succ previous => simp [ih]

theorem attemptsOf_insert (numericColumn : Rat → Rat) (routeId : String) (row : TradeAttempt) :
    (db.insertTradeAttempt numericColumn row).attemptsOf routeId =
      db.attemptsOf routeId + if row.routeId = routeId then 1 else 0 := by
  simp [attemptsOf, insertTradeAttempt, TradeAttempt.kept, List.count_append,
    List.count_singleton]

theorem attemptsOf_update (routeId : String) (attemptId : Nat)
    (status blockedReason failureCategory : String) (isFatalFailure cooldownTriggered : Bool) :
    (db.updateTradeAttemptOutcome attemptId status blockedReason failureCategory isFatalFailure
      cooldownTriggered).attemptsOf routeId = db.attemptsOf routeId := by
  unfold attemptsOf updateTradeAttemptOutcome
  rw [map_routeId_modify]
  intro row
  rfl

end Database

end ArbitrageBot
