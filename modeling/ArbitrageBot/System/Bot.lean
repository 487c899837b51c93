/-
One process: the database, the risk manager, the scan loop, the start-up and the
control handlers, interleaved at their await points.
-/

import ArbitrageBot.System.Control
import ArbitrageBot.System.Scan

namespace ArbitrageBot

/-- `BotRunner.start` after it has created the scan task: it lists the persisted rows, then
hydrates them all in one stretch; only then are requests served. -/
inductive BootPc
  | starting
  | listed (rows : List (String × RouteState))
  | serving
deriving DecidableEq

structure Bot where
  db : Database
  manager : GlobalRiskManager
  runtimeArmed : Bool
  boot : BootPc
  scan : ScanPc
  handlers : List Handler
  clock : Instant

inductive Action
  | scan (answers : ScanAnswers)
  | scanRaise
  | boot
  | request (request : Request)
  | handler (index : Nat)
  | abort (index : Nat)

abbrev Event := Instant × Action

namespace Bot

variable (settings : Settings) (now : Instant) (bot : Bot)

/-- Tell the manager about a trade or a block, and snapshot the route to persist it. -/
def mark (op : RiskOp) (cursor : ScanCursor) (trade : Option Trade) : Bot :=
  let manager := op.apply settings now bot.manager
  { bot with
    manager := manager
    scan := .persisting cursor (manager.getRouteState cursor.route.id) trade }

/-- The loop's operation on a blocked opportunity: only fatal reasons count as failures. -/
def blockOperation (cursor : ScanCursor) (decision : OpportunityDecision) : Option RiskOp :=
  if decision.blockedReason ∈ fatalFailureCategories then
    some (.markFailure cursor.route.id decision.blockedReason
      ("opportunity blocked: " ++ decision.blockedReason))
  else none

def scanStep (answers : ScanAnswers) : Bot :=
  match bot.scan with
  | .idle => { bot with scan := .controlRead bot.db.control }
  | .controlRead control =>
      { bot with
        manager := bot.manager.setGlobalKill control.globalPause
        scan := .routesPending control }
  | .routesPending control => { bot with scan := .routesRead control bot.db.getRoutes }
  | .routesRead control routes =>
      let balance := answers.walletBalanceUsdc
      if bot.manager.shouldStopForDailyDd settings balance then
        { bot with
          manager := bot.manager.setGlobalKill true
          scan := .ddPausing control balance routes }
      else { bot with scan := .forRoutes control.mode balance routes }
  | .ddPausing control balance routes =>
      -- the session still holds the row of `controlRead` and writes only the columns that change
      { bot with
        db := if control.globalPause then bot.db else bot.db.setGlobalPause true
        scan := .forRoutes control.mode balance routes }
  | .quoting cursor =>
      let input := cursor.evaluation settings answers
      let result := bot.manager.evaluate settings now input
      { bot with manager := result.2, scan := .observing cursor input.quote result.1 }
  | .observing cursor quote decision =>
      let row : Opportunity :=
        { quote, mode := cursor.strategyMode
          status := if decision.tradable then "eligible" else "blocked"
          blockedReason := decision.blockedReason }
      { bot with db := bot.db.insertOpportunity row, scan := .judging cursor quote decision }
  | .judging cursor quote decision =>
      if decision.tradable then
        if cursor.strategyMode = .stopped then { bot with scan := cursor.nextRoute }
        else { bot with scan := .attempting cursor quote }
      else
        match blockOperation cursor decision with
        | some op => bot.mark settings now op cursor none
        | none => { bot with scan := cursor.nextRoute }
  | .attempting cursor quote =>
      let row : TradeAttempt :=
        { routeId := cursor.route.id, strategy := cursor.route.strategy
          mode := cursor.strategyMode, inputAmount := quote.initialAmount
          expectedOutputAmount := quote.finalAmount, expectedPnl := quote.modeledNetEdgeAmount
          status := "submitted" }
      { bot with
        db := bot.db.insertTradeAttempt settings.numericColumn row
        scan := .executing cursor quote bot.db.tradeAttempts.length }
  | .executing cursor quote attemptId =>
      let outcome := cursor.execute quote answers.chainValid
      bot.mark settings now (outcome.operation cursor.route.id) cursor
        (some { quote, attemptId, outcome })
  | .persisting cursor state trade =>
      { bot with
        db := bot.db.upsertRouteRuntimeState cursor.route.id state
        scan :=
          match trade with
          | none => cursor.nextRoute
          | some trade => .reporting cursor trade }
  | .reporting cursor trade =>
      let triggered := decide (0 < bot.manager.cooldownRemainingSeconds now cursor.route.id)
      { bot with scan := .updating cursor trade triggered }
  | .updating cursor trade triggered =>
      let outcome := trade.outcome
      let reported := if outcome.isFailed then outcome.category else ""
      { bot with
        db := bot.db.updateTradeAttemptOutcome trade.attemptId outcome.txStatus reported reported
          (outcome.isFailed && outcome.fatalFailure) (outcome.isFailed && triggered)
        scan := .recording cursor trade triggered }
  | .recording cursor trade triggered =>
      let row : Execution :=
        { attemptId := trade.attemptId, routeId := cursor.route.id
          strategy := cursor.route.strategy, mode := cursor.strategyMode
          txStatus := trade.outcome.txStatus, inputAmount := trade.quote.initialAmount
          outputAmount := trade.quote.finalAmount
          expectedPnl := trade.quote.modeledNetEdgeAmount
          realizedPnl := trade.outcome.realizedPnl, failureCategory := trade.outcome.category
          isFatalFailure := trade.outcome.fatalFailure, cooldownTriggered := triggered }
      { bot with
        db := bot.db.insertExecution settings.numericColumn row
        scan := cursor.nextRoute }

/-- One instruction of a handler, and the instructions it puts before the rest. -/
def runInstr : Instr → Bot × List Instr
  | .commitGlobalPause value => ({ bot with db := bot.db.setGlobalPause value }, [])
  | .commitMode mode => ({ bot with db := bot.db.setMode mode }, [])
  | .commitRouteEnabled routeId enabled =>
      ({ bot with db := bot.db.setRouteEnabled routeId enabled }, [])
  | .armLive => ({ bot with runtimeArmed := true }, [])
  | .disarmLive => ({ bot with runtimeArmed := false }, [])
  | .operate op => ({ bot with manager := op.apply settings now bot.manager }, [])
  | .killAndDisarm =>
      ({ bot with manager := bot.manager.setGlobalKill true, runtimeArmed := false }, [])
  | .snapshot op routeId =>
      let manager := bot.manager.applyAll settings now op.toList
      ({ bot with manager := manager }, [.commitRouteState routeId (manager.getRouteState routeId)])
  | .commitRouteState routeId state =>
      ({ bot with db := bot.db.upsertRouteRuntimeState routeId state }, [])
  | .snapshotAll => (bot, bot.db.listRoutes.map fun route => .snapshot none route.id)
  | .reply => (bot, [])

def handlerStep (index : Nat) : Option Bot :=
  match bot.handlers[index]? with
  | some { request, todo := instr :: rest } =>
      let (after, added) := bot.runInstr settings now instr
      some { after with handlers := after.handlers.set index { request, todo := added ++ rest } }
  | _ => none

def bootStep : Option Bot :=
  match bot.boot with
  | .starting => some { bot with boot := .listed bot.db.listRouteRuntimeStates }
  | .listed rows =>
      let hydrations := rows.map fun row => RiskOp.hydrateRouteState row.1 row.2
      some
        { bot with
          manager := bot.manager.applyAll settings now hydrations
          boot := .serving }
  | .serving => none

def step (event : Event) : Option Bot :=
  let bot := { bot with clock := event.1 }
  match event.2 with
  | .scan answers => some (bot.scanStep settings event.1 answers)
  | .scanRaise => some { bot with scan := .idle }
  | .boot => bot.bootStep settings event.1
  | .request request =>
      match bot.boot with
      | .serving => some { bot with handlers := bot.handlers ++ [request.start settings] }
      | _ => none
  | .handler index => bot.handlerStep settings event.1 index
  | .abort index =>
      some { bot with handlers := bot.handlers.modify index fun handler => { handler with todo := [] } }

/-- A process that has just started on a database that earlier ones may have written. -/
def launch (settings : Settings) (db : Database) (now : Instant) : Bot :=
  { db := db, manager := .create settings now, runtimeArmed := false, boot := .starting
    scan := .idle, handlers := [], clock := now }

end Bot

/-! ### A process with one route -/

namespace Sample

def route : Route :=
  { id := "r", strategy := "hyperevm_dex_dex", name := "ramses_to_hybra_usdc_roundtrip"
    pair := "USDC/USDt0", direction := "forward", venueA := "ramses_v3", venueB := "hybra_v3"
    routerA := "0x0000000000000000000000000000000000000010"
    routerB := "0x0000000000000000000000000000000000000010", maxNotionalUsdc := 100
    enabled := true, isLiveAllowed := true, killSwitch := false }

def db : Database := { control := {}, routes := [route], routeStates := ∅ }

def started : Bot :=
  { db := db, manager := .create shipped 0, runtimeArmed := false, boot := .starting
    scan := .idle, handlers := [], clock := 0 }

def serving : Bot := { started with boot := .serving }

/-- A depeg threshold above the minimal edges, without which no quote of an engine is tradable. -/
def tradingSettings : Settings := { shipped with depegThresholdBps := 500, useMockMarketData := false }

def liveSettings : Settings := { tradingSettings with liveEnableFlag := true }

def answers : ScanAnswers :=
  { walletBalanceUsdc := 1000, health := calmHealth
    quote := .ok { quote := calmQuote "r", smallerPoolLiquidityUsdc := 1000000 } }

def toEvaluation : List Event :=
  [(1, .scan {}), (2, .scan {}), (3, .scan {}), (4, .scan answers)]

/-- The same iteration without a quote, up to the failure that this is. -/
def toFailure : List Event :=
  toEvaluation ++ [(5, .scan { answers with quote := .error "rpc" }), (6, .scan {})]

end Sample

end ArbitrageBot
