/-
Where realized PnL goes. The loop tells the risk manager of a success several commits before it
stores the execution, so what an exception or a restart cuts off in between is counted in memory
and in no table; nothing else separates the two but the column of `executions`, which keeps eight
places of what the manager is told in full.
-/

import ArbitrageBot.Risk.DailyDrawdown
import ArbitrageBot.System.TradeLedger

namespace ArbitrageBot

open Transition
open Sample (tradingSettings)

/-! ### What is told, stored and in between -/

/-- The column `realized_pnl`, whose sum `overview` reports. -/
def Database.realized (db : Database) : List Rat := db.executions.map Execution.realizedPnl

/-- The PnL of a trade that the manager knows and no execution carries yet. -/
def ScanPc.unrecordedPnl : ScanPc → Rat
  | .persisting _ _ (some trade) | .reporting _ trade | .updating _ trade _
  | .recording _ trade _ => trade.outcome.realizedPnl
  | _ => 0

/-- The success that the loop tells the manager at an event. -/
def Bot.success (bot : Bot) (event : Event) : Option Success :=
  match event.2, bot.scan with
  | .scan answers, .executing cursor quote _ =>
      let outcome := cursor.execute quote answers.chainValid
      if outcome.isFailed then none
      else some
        { routeId := cursor.route.id, realizedPnl := outcome.realizedPnl, time := event.1 }
  | _, _ => none

def Bot.lostPnl (bot : Bot) (event : Event) : Rat :=
  match event.2 with
  | .scanRaise => bot.scan.unrecordedPnl
  | _ => 0

/-- The result that the loop hands over to be stored as an execution. -/
def Bot.handed (bot : Bot) (event : Event) : Option Rat :=
  match event.2, bot.scan with
  | .scan _, .recording _ trade _ => some trade.outcome.realizedPnl
  | _, _ => none

def pnlOf (successes : List Success) : Rat := (successes.map Success.realizedPnl).sum

theorem pnlOf_append (past : List Success) (latest : Option Success) :
    pnlOf (past ++ latest.toList) = pnlOf past + pnlOf latest.toList := by
  rw [pnlOf, List.map_append, List.sum_append]
  rfl

theorem unrecordedPnl_forRoutes (mode : RunMode) (balance : Rat) (routes : List Route) :
    (ScanPc.forRoutes mode balance routes).unrecordedPnl = 0 := by
  rcases ScanPc.forRoutes_cases mode balance routes with idle | ⟨cursor, quoting⟩
  · rw [idle]
    rfl
  · rw [quoting]
    rfl

theorem ScanCursor.execute_failed_pnl {cursor : ScanCursor} {quote : RouteQuote}
    {chainValid : Bool} (failed : (cursor.execute quote chainValid).isFailed = true) :
    (cursor.execute quote chainValid).realizedPnl = 0 := by
  unfold execute at failed ⊢
  split
  · rename_i onPaper
    rw [if_pos onPaper] at failed
    exact absurd failed (by simp [TradeOutcome.isFailed, PaperExecutionEngine.execute])
  · rfl

/-! ### The step -/

section

variable {settings : Settings} {now : Instant} {bot after : Bot} {event : Event}

namespace Bot

theorem scanStep_pnl (answers : ScanAnswers) :
    (bot.scanStep settings now answers).scan.unrecordedPnl +
        (bot.handed (now, .scan answers)).toList.sum =
      bot.scan.unrecordedPnl + pnlOf (bot.success (now, .scan answers)).toList := by
  cases place : bot.scan with
  | executing cursor quote attemptId =>
      simp only [scanStep, success, handed, place, mark]
      split
      · rename_i failed
        have nothing := ScanCursor.execute_failed_pnl failed
        simp only [ScanPc.unrecordedPnl, nothing, pnlOf, Option.toList_none, List.map_nil,
          List.sum_nil]
      · simp only [ScanPc.unrecordedPnl, pnlOf, Option.toList_some, Option.toList_none,
          List.map_cons, List.map_nil, List.sum_cons, List.sum_nil, add_zero, zero_add]
  | recording cursor trade triggered =>
      simp only [scanStep, success, handed, place, ScanCursor.nextRoute, unrecordedPnl_forRoutes]
      simp only [ScanPc.unrecordedPnl, pnlOf, Option.toList_some, Option.toList_none,
        List.map_nil, List.sum_cons, List.sum_nil, add_zero, zero_add]
  | routesRead control routes =>
      simp only [scanStep, success, handed, place]
      split
      · rfl
      · rw [unrecordedPnl_forRoutes]
        rfl
  | ddPausing control balance routes =>
      simp only [scanStep, success, handed, place, unrecordedPnl_forRoutes]
      rfl
  | judging cursor quote decision =>
      simp only [scanStep, success, handed, place]
      split
      · split
        · rw [ScanCursor.nextRoute, unrecordedPnl_forRoutes]
          rfl
        · rfl
      · cases blockOperation cursor decision with
        | none =>
            dsimp only
            rw [ScanCursor.nextRoute, unrecordedPnl_forRoutes]
            rfl
        | some op => rfl
  | persisting cursor state trade =>
      simp only [scanStep, success, handed, place]
      cases trade with
      | none =>
          dsimp only
          rw [ScanCursor.nextRoute, unrecordedPnl_forRoutes]
          rfl
      | some trade => rfl
  | _ =>
      simp only [scanStep, success, handed, place]
      rfl

theorem scanStep_realized (answers : ScanAnswers) :
    (bot.scanStep settings now answers).db.realized =
      bot.db.realized ++
        (bot.handed (now, .scan answers)).toList.map settings.numericColumn := by
  cases place : bot.scan with
  | recording cursor trade triggered =>
      simp only [scanStep, handed, place, Database.realized, Database.insertExecution,
        Execution.kept, List.map_append, Option.toList_some, List.map_cons, List.map_nil]
  | routesRead | ddPausing =>
      simp only [scanStep, handed, place]
      split <;> exact (List.append_nil _).symm
  | judging cursor quote decision =>
      simp only [scanStep, handed, place]
      split
      · split <;> exact (List.append_nil _).symm
      · cases blockOperation cursor decision <;> exact (List.append_nil _).symm
  | _ =>
      simp only [scanStep, handed, place]
      exact (List.append_nil _).symm

theorem step_pnl (taken : bot.step settings event = some after) :
    after.scan.unrecordedPnl + (bot.handed event).toList.sum + bot.lostPnl event =
        bot.scan.unrecordedPnl + pnlOf (bot.success event).toList ∧
      after.db.realized =
        bot.db.realized ++ (bot.handed event).toList.map settings.numericColumn := by
  obtain ⟨now, action⟩ := event
  rcases step_cases taken with ⟨answers, rfl, rfl⟩ | ⟨rfl, rfl⟩ | ⟨rfl, booted⟩ |
    ⟨request, rfl, -, rfl⟩ | ⟨index, rfl, handled⟩ | ⟨index, rfl, rfl⟩
  · rw [lostPnl, add_zero]
    exact ⟨@scanStep_pnl settings now { bot with clock := now } answers,
      @scanStep_realized settings now { bot with clock := now } answers⟩
  · -- what was in between is lost
    refine ⟨?_, (List.append_nil _).symm⟩
    simp only [lostPnl, success, handed, pnlOf, ScanPc.unrecordedPnl, Option.toList_none,
      List.map_nil, List.sum_nil, add_zero, zero_add]
  · rcases bootStep_some booted with ⟨-, rfl⟩ | ⟨rows, -, rfl⟩
    · exact ⟨add_zero _, (List.append_nil _).symm⟩
    · exact ⟨add_zero _, (List.append_nil _).symm⟩
  · exact ⟨add_zero _, (List.append_nil _).symm⟩
  · obtain ⟨request, instr, rest, found, rfl⟩ := handlerStep_some handled
    refine ⟨?_, ?_⟩
    · cases instr <;> exact add_zero _
    · cases instr <;> exact (List.append_nil _).symm
  · exact ⟨add_zero _, (List.append_nil _).symm⟩

end Bot

end

/-! ### Over process lifetimes -/

def successAt (entry : Bot × LifeEvent) : Option Success :=
  match entry.2 with
  | .running event => entry.1.success event
  | .restart _ => none

def lostAt (entry : Bot × LifeEvent) : Rat :=
  match entry.2 with
  | .running event => entry.1.lostPnl event
  | .restart _ => entry.1.scan.unrecordedPnl

def handedAt (entry : Bot × LifeEvent) : Option Rat :=
  match entry.2 with
  | .running event => entry.1.handed event
  | .restart _ => none

def successesIn (trace : List (Bot × LifeEvent)) : List Success := trace.filterMap successAt

def handedIn (trace : List (Bot × LifeEvent)) : List Rat := trace.filterMap handedAt

def lostIn (trace : List (Bot × LifeEvent)) : Rat := (trace.map lostAt).sum

theorem filterMap_concat {α β : Type*} (found : α → Option β) (past : List α) (latest : α) :
    (past ++ [latest]).filterMap found = past.filterMap found ++ (found latest).toList := by
  rw [List.filterMap_append, List.filterMap_cons, List.filterMap_nil]
  cases found latest <;> rfl

theorem lostIn_concat (trace : List (Bot × LifeEvent)) (entry : Bot × LifeEvent) :
    lostIn (trace ++ [entry]) = lostIn trace + lostAt entry := by
  rw [lostIn, List.map_append, List.sum_append]
  simp only [List.map_cons, List.map_nil, List.sum_cons, List.sum_nil, add_zero]
  rfl

theorem lifeStep_pnl {settings : Settings} {bot after : Bot} {lifeEvent : LifeEvent}
    (taken : lifeStep settings bot lifeEvent = some after) :
    after.scan.unrecordedPnl + (handedAt (bot, lifeEvent)).toList.sum + lostAt (bot, lifeEvent) =
        bot.scan.unrecordedPnl + pnlOf (successAt (bot, lifeEvent)).toList ∧
      after.db.realized =
        bot.db.realized ++ (handedAt (bot, lifeEvent)).toList.map settings.numericColumn := by
  cases lifeEvent with
  | running event => exact Bot.step_pnl taken
  | restart now =>
      cases taken
      refine ⟨?_, (List.append_nil _).symm⟩
      simp only [lostAt, handedAt, successAt, Bot.launch, pnlOf, ScanPc.unrecordedPnl,
        Option.toList_none, List.map_nil, List.sum_nil, add_zero, zero_add]

/-- A column that is off by at most `error` for each entry. -/
theorem sum_map_near {column : Rat → Rat} {error : Rat}
    (near : ∀ value, |column value - value| ≤ error) (values : List Rat) :
    |(values.map column).sum - values.sum| ≤ values.length * error := by
  induction values with
  | nil => simp
  | cons value rest ih =>
      have first := near value
      rw [abs_le] at first ih ⊢
      simp only [List.map_cons, List.sum_cons, List.length_cons]
      push_cast
      constructor <;> linarith

/-- One trade is stored; then the process is restarted while the next waits to be stored. -/
def toldThenCut : List LifeEvent :=
  [.running (1, .boot), .running (2, .boot)] ++
    ((List.range 22).map fun (offset : Nat) =>
      .running (3 + offset, .scan (Sample.tradingAnswers tradingSettings))) ++ [.restart 40]

def RiskOp.success? (now : Instant) : RiskOp → Option Success
  | .markSuccess routeId realizedPnl => some { routeId, realizedPnl, time := now }
  | _ => none

theorem GlobalRiskManager.applyAll_cons (settings : Settings) (now : Instant)
    (manager : GlobalRiskManager) (op : RiskOp) (ops : List RiskOp) :
    manager.applyAll settings now (op :: ops) =
      (op.apply settings now manager).applyAll settings now ops := rfl

theorem GlobalRiskManager.clearCooldown_daily (manager : GlobalRiskManager)
    (routeId : Option String) :
    (manager.clearCooldown routeId).dayAnchor = manager.dayAnchor ∧
      (manager.clearCooldown routeId).dailyRealizedPnl = manager.dailyRealizedPnl := by
  unfold clearCooldown
  split <;> exact ⟨rfl, rfl⟩

/-- Only a success moves the daily result, and it moves the day along with it. -/
theorem DailyLedger.applyAll {manager : GlobalRiskManager} {past : List Success}
    {latest now : Instant} (ledger : DailyLedger manager past latest) (later : latest ≤ now)
    (settings : Settings) (ops : List RiskOp) :
    DailyLedger (manager.applyAll settings now ops) (past ++ ops.filterMap (RiskOp.success? now))
        (lastSuccessTime latest (ops.filterMap (RiskOp.success? now))) ∧
      lastSuccessTime latest (ops.filterMap (RiskOp.success? now)) ≤ now := by
  induction ops generalizing manager past latest with
  | nil =>
      rw [List.filterMap_nil, List.append_nil]
      exact ⟨ledger, later⟩
  | cons op rest ih =>
      rw [GlobalRiskManager.applyAll_cons]
      cases op with
      | markSuccess routeId realizedPnl =>
          have told := @DailyLedger.markSuccess _ _ _ ⟨routeId, realizedPnl, now⟩ ledger later
          obtain ⟨held, upTo⟩ := ih told (le_refl now)
          rw [List.append_assoc] at held
          exact ⟨held, upTo⟩
      | clearCooldown routeId =>
          obtain ⟨anchor, result⟩ := manager.clearCooldown_daily routeId
          exact ih ⟨anchor.trans ledger.anchored, result.trans ledger.realized, ledger.past⟩ later
      | _ => exact ih ⟨ledger.anchored, ledger.realized, ledger.past⟩ later

theorem filterMap_success_of_operators {now : Instant} {ops : List RiskOp}
    (operators : ∀ op ∈ ops, op.byOperator = true) :
    ops.filterMap (RiskOp.success? now) = [] := by
  rw [List.filterMap_eq_nil_iff]
  intro op member
  have byOperator := operators op member
  cases op with
  | markSuccess => cases byOperator
  | _ => rfl

namespace Bot

variable {settings : Settings} {bot after : Bot} {event : Event}

theorem operations_successes (lawful : bot.lawful) :
    (bot.operations settings event).filterMap (RiskOp.success? event.1) =
      (bot.success event).toList := by
  obtain ⟨now, action⟩ := event
  cases action with
  | scan answers =>
      cases place : bot.scan with
      | executing cursor quote attemptId =>
          simp only [operations, scanOperations, success, place, TradeOutcome.operation]
          split <;> rfl
      | routesRead mode routes =>
          simp only [operations, scanOperations, success, place]
          split <;> rfl
      | judging cursor quote decision =>
          simp only [operations, scanOperations, success, place, blockOperation]
          split
          · rfl
          · split <;> rfl
      | _ =>
          simp only [operations, scanOperations, success, place]
          rfl
  | boot =>
      simp only [operations, success]
      split
      · rename_i rows _
        rw [List.filterMap_map]
        exact List.filterMap_eq_nil_iff.mpr fun _ _ => rfl
      · rfl
  | handler index =>
      apply filterMap_success_of_operators
      intro op member
      simp only [operations] at member
      cases next : bot.instr? index with
      | none => simp [next] at member
      | some instr =>
          obtain ⟨handler, inHandlers, inTodo⟩ := instr?_some next
          simp only [next, Option.map_some, Option.getD_some] at member
          exact lawful handler inHandlers instr inTodo op member
  | _ => rfl

end Bot

/-- The successes that the manager of the current process was told of. -/
def toldAfter (told : List Success) (entry : Bot × LifeEvent) : List Success :=
  match entry.2 with
  | .running event => told ++ (entry.1.success event).toList
  | .restart _ => []

def toldSince (trace : List (Bot × LifeEvent)) : List Success := trace.foldl toldAfter []

def startedAfter (started : Instant) (entry : Bot × LifeEvent) : Instant :=
  match entry.2 with
  | .running _ => started
  | .restart now => now

def startedAt (started : Instant) (trace : List (Bot × LifeEvent)) : Instant :=
  trace.foldl startedAfter started

/-- A clock that does not run backwards while a process lives. -/
def lifeOnward (bot : Bot) : LifeEvent → Prop
  | .running event => bot.clock ≤ event.1
  | .restart _ => True

theorem toldSince_concat (trace : List (Bot × LifeEvent)) (entry : Bot × LifeEvent) :
    toldSince (trace ++ [entry]) = toldAfter (toldSince trace) entry := by
  rw [toldSince, List.foldl_append]
  rfl

theorem startedAt_concat (started : Instant) (trace : List (Bot × LifeEvent))
    (entry : Bot × LifeEvent) :
    startedAt started (trace ++ [entry]) = startedAfter (startedAt started trace) entry := by
  rw [startedAt, List.foldl_append]
  rfl

/-- The daily result of the manager, while its process lives. -/
structure DailyHeld (started : Instant) (told : List Success) (bot : Bot) : Prop where
  lawful : bot.lawful
  ledger : DailyLedger bot.manager told (lastSuccessTime started told)
  upTo : lastSuccessTime started told ≤ bot.clock

theorem DailyHeld.launch (settings : Settings) (db : Database) (started : Instant) :
    DailyHeld started [] (.launch settings db started) := by
  refine ⟨?_, .create settings started, le_refl started⟩
  intro handler member
  cases member

theorem DailyHeld.step {settings : Settings} {started : Instant} {told : List Success}
    {bot after : Bot} {event : Event} (held : DailyHeld started told bot)
    (onward : bot.clock ≤ event.1) (taken : bot.step settings event = some after) :
    DailyHeld started (told ++ (bot.success event).toList) after := by
  have applied := held.ledger.applyAll (held.upTo.trans onward) settings
    (bot.operations settings event)
  rw [Bot.operations_successes held.lawful] at applied
  obtain ⟨grown, upTo⟩ := applied
  have latest : lastSuccessTime started (told ++ (bot.success event).toList) =
      lastSuccessTime (lastSuccessTime started told) (bot.success event).toList :=
    List.foldl_append
  rw [← latest] at grown upTo
  refine ⟨Bot.step_lawful held.lawful taken, ?_, ?_⟩
  · rcases Bot.step_manager taken with same | ⟨route, same, none⟩
    · rw [same]
      exact grown
    · -- an evaluation prunes executions and leaves the daily result
      rw [none] at grown
      rw [same]
      exact ⟨grown.anchored, grown.realized, grown.past⟩
  · rw [Bot.step_clock taken]
    exact upTo

def lifeOnwardTest (entry : Bot × LifeEvent) : Bool :=
  match entry.2 with
  | .running event => entry.1.clock ≤ event.1
  | .restart _ => true

theorem lifeOnward_of_test {bot : Bot} {event : LifeEvent}
    (passes : lifeOnwardTest (bot, event) = true) : lifeOnward bot event := by
  cases event with
  | running event =>
      have later : bot.clock ≤ event.1 := of_decide_eq_true passes
      exact later
  | restart now => trivial

end ArbitrageBot
