/-
What one step does, said once: the operations it performs on the manager and what it
commits to the database. The invariants over runs are proved from these and never
from the step function.
-/

import ArbitrageBot.System.Bot

namespace ArbitrageBot

/-! ### The effects of an event, read off the state before it -/

def Instr.operations : Instr → List RiskOp
  | .operate op => [op]
  | .killAndDisarm => [.setGlobalKill true]
  | .snapshot op _ => op.toList
  | _ => []

def Instr.upsert : Instr → Option (String × RouteState)
  | .commitRouteState routeId state => some (routeId, state)
  | _ => none

def Instr.pauseWrite : Instr → Option Bool
  | .commitGlobalPause value => some value
  | _ => none

/-- An instruction that lifts the pause, in the row or in the manager. -/
def Instr.lifts : Instr → Bool
  | .commitGlobalPause value => !value
  | .operate (.setGlobalKill paused) => !paused
  | .snapshot (some (.setGlobalKill paused)) _ => !paused
  | _ => false

def ScanPc.upsert : ScanPc → Option (String × RouteState)
  | .persisting cursor state _ => some (cursor.route.id, state)
  | _ => none

def ScanPc.pauseWrite : ScanPc → Option Bool
  | .ddPausing control _ _ => if control.globalPause then none else some true
  | _ => none

def ScanPc.attempt : ScanPc → Option String
  | .attempting cursor _ => some cursor.route.id
  | _ => none

namespace Bot

variable (settings : Settings) (bot : Bot)

def scanOperations (answers : ScanAnswers) : List RiskOp :=
  match bot.scan with
  | .controlRead control => [.setGlobalKill control.globalPause]
  | .routesRead _ _ =>
      if bot.manager.shouldStopForDailyDd settings answers.walletBalanceUsdc then
        [.setGlobalKill true]
      else []
  | .judging cursor _ decision =>
      if decision.tradable then [] else (blockOperation cursor decision).toList
  | .executing cursor quote _ =>
      [(cursor.execute quote answers.chainValid).operation cursor.route.id]
  | _ => []

def instr? (index : Nat) : Option Instr :=
  bot.handlers[index]?.bind fun handler => handler.todo.head?

def operations (event : Event) : List RiskOp :=
  match event.2 with
  | .scan answers => bot.scanOperations settings answers
  | .boot =>
      match bot.boot with
      | .listed rows => rows.map fun row => .hydrateRouteState row.1 row.2
      | _ => []
  | .handler index => ((bot.instr? index).map Instr.operations).getD []
  | _ => []

def commits (event : Event) : Option (String × RouteState) :=
  match event.2 with
  | .scan _ => bot.scan.upsert
  | .handler index => (bot.instr? index).bind Instr.upsert
  | _ => none

/-- The value of `global_pause` that an event commits. -/
def pauseWrite (event : Event) : Option Bool :=
  match event.2 with
  | .scan _ => bot.scan.pauseWrite
  | .handler index => (bot.instr? index).bind Instr.pauseWrite
  | _ => none

def attempts (event : Event) : Option String :=
  match event.2 with
  | .scan _ => bot.scan.attempt
  | _ => none

def verdict (event : Event) : Option (String × OpportunityDecision) :=
  match event.2, bot.scan with
  | .scan answers, .quoting cursor =>
      some (cursor.route.id,
        (bot.manager.evaluate settings event.1 (cursor.evaluation settings answers)).1)
  | _, _ => none

end Bot

def Bot.recordsFatal (settings : Settings) (bot : Bot) (event : Event) (routeId : String) : Bool :=
  (bot.operations settings event).any (RiskOp.failsFatally routeId)

def Bot.trades (settings : Settings) (bot : Bot) (event : Event) : Bool :=
  (bot.verdict settings event).any fun found => found.2.tradable

/-! ### The step -/

namespace Bot

variable {settings : Settings} {now : Instant} {bot after : Bot} {event : Event}

theorem scanStep_frame (answers : ScanAnswers) :
    (bot.scanStep settings now answers).handlers = bot.handlers ∧
      (bot.scanStep settings now answers).boot = bot.boot ∧
      (bot.scanStep settings now answers).clock = bot.clock := by
  unfold scanStep
  split
  case h_8 => split <;> [split; split] <;> exact ⟨rfl, rfl, rfl⟩
  case h_4 => dsimp only; split <;> exact ⟨rfl, rfl, rfl⟩
  all_goals exact ⟨rfl, rfl, rfl⟩

theorem runInstr_frame (instr : Instr) :
    (bot.runInstr settings now instr).1.handlers = bot.handlers ∧
      (bot.runInstr settings now instr).1.scan = bot.scan ∧
      (bot.runInstr settings now instr).1.boot = bot.boot ∧
      (bot.runInstr settings now instr).1.clock = bot.clock := by
  cases instr <;> exact ⟨rfl, rfl, rfl, rfl⟩

theorem handlerStep_some {index : Nat}
    (taken : bot.handlerStep settings now index = some after) :
    ∃ request instr rest, bot.handlers[index]? = some ⟨request, instr :: rest⟩ ∧
      after = { (bot.runInstr settings now instr).1 with
        handlers :=
          bot.handlers.set index ⟨request, (bot.runInstr settings now instr).2 ++ rest⟩ } := by
  unfold handlerStep at taken
  split at taken
  · rename_i request instr rest found
    refine ⟨request, instr, rest, found, ?_⟩
    rw [Option.some.injEq] at taken
    rw [← taken, (runInstr_frame instr).1]
  · cases taken

theorem bootStep_some (taken : bot.bootStep settings now = some after) :
    (bot.boot = .starting ∧ after = { bot with boot := .listed bot.db.listRouteRuntimeStates }) ∨
    ∃ rows, bot.boot = .listed rows ∧
      after = { bot with
        manager := bot.manager.applyAll settings now
          (rows.map fun row => .hydrateRouteState row.1 row.2)
        boot := .serving } := by
  unfold bootStep at taken
  split at taken
  · rename_i starting
    exact .inl ⟨starting, (Option.some.inj taken).symm⟩
  · rename_i rows listed
    exact .inr ⟨rows, listed, (Option.some.inj taken).symm⟩
  · cases taken

/-- A step, by who takes it. -/
theorem step_cases (taken : bot.step settings event = some after) :
    (∃ answers, event.2 = .scan answers ∧
      after = { bot with clock := event.1 }.scanStep settings event.1 answers) ∨
    (event.2 = .scanRaise ∧ after = { bot with clock := event.1, scan := .idle }) ∨
    (event.2 = .boot ∧ { bot with clock := event.1 }.bootStep settings event.1 = some after) ∨
    (∃ request, event.2 = .request request ∧ bot.boot = .serving ∧
      after = { bot with
        clock := event.1, handlers := bot.handlers ++ [request.start settings] }) ∨
    (∃ index, event.2 = .handler index ∧
      { bot with clock := event.1 }.handlerStep settings event.1 index = some after) ∨
    (∃ index, event.2 = .abort index ∧
      after = { bot with
        clock := event.1
        handlers := bot.handlers.modify index fun handler => { handler with todo := [] } }) := by
  obtain ⟨now, action⟩ := event
  cases action with
  | scan answers => exact .inl ⟨answers, rfl, (Option.some.inj taken).symm⟩
  | scanRaise => exact .inr (.inl ⟨rfl, (Option.some.inj taken).symm⟩)
  | boot => exact .inr (.inr (.inl ⟨rfl, taken⟩))
  | request request =>
      simp only [step] at taken
      split at taken
      · rename_i serving
        exact .inr (.inr (.inr (.inl ⟨request, rfl, serving, (Option.some.inj taken).symm⟩)))
      · cases taken
  | handler index => exact .inr (.inr (.inr (.inr (.inl ⟨index, rfl, taken⟩))))
  | abort index => exact .inr (.inr (.inr (.inr (.inr ⟨index, rfl, (Option.some.inj taken).symm⟩))))

/-! ### The manager -/

theorem instr?_of_found {index : Nat} {request : Request} {instr : Instr} {rest : List Instr}
    (found : bot.handlers[index]? = some ⟨request, instr :: rest⟩) :
    bot.instr? index = some instr := by
  rw [instr?, found]
  rfl

theorem scanStep_manager (answers : ScanAnswers) :
    (bot.scanStep settings now answers).manager =
        bot.manager.applyAll settings now (bot.scanOperations settings answers) ∨
      ∃ route, (bot.scanStep settings now answers).manager = bot.manager.pruneRoute now route ∧
        bot.scanOperations settings answers = [] := by
  cases place : bot.scan with
  | quoting cursor =>
      simp only [scanStep, scanOperations, place, GlobalRiskManager.evaluate,
        GlobalRiskManager.afterEvaluate]
      split
      · exact .inr ⟨_, rfl, trivial⟩
      · exact .inl rfl
  | routesRead mode routes =>
      left
      simp only [scanStep, scanOperations, place]
      split <;> rfl
  | judging cursor quote decision =>
      left
      simp only [scanStep, scanOperations, place]
      split
      · split <;> rfl
      · cases blockOperation cursor decision <;> rfl
  | _ =>
      left
      simp only [scanStep, scanOperations, place]
      rfl

/-- A step performs its operations, or it is an evaluation, which only prunes. -/
theorem step_manager (taken : bot.step settings event = some after) :
    after.manager = bot.manager.applyAll settings event.1 (bot.operations settings event) ∨
      ∃ route, after.manager = bot.manager.pruneRoute event.1 route ∧
        bot.operations settings event = [] := by
  obtain ⟨now, action⟩ := event
  rcases step_cases taken with ⟨answers, rfl, rfl⟩ | ⟨rfl, rfl⟩ | ⟨rfl, booted⟩ |
    ⟨request, rfl, -, rfl⟩ | ⟨index, rfl, handled⟩ | ⟨index, rfl, rfl⟩
  · exact scanStep_manager answers
  · exact .inl rfl
  · left
    rcases bootStep_some booted with ⟨place, rfl⟩ | ⟨rows, place, rfl⟩
    · simp only [operations, show bot.boot = _ from place]
      rfl
    · simp only [operations, show bot.boot = _ from place]
  · exact .inl rfl
  · left
    obtain ⟨request, instr, rest, found, rfl⟩ := handlerStep_some handled
    have next : bot.instr? index = some instr := instr?_of_found found
    simp only [operations, next]
    cases instr <;> rfl
  · exact .inl rfl

theorem step_getRouteState (taken : bot.step settings event = some after) (route : String) :
    after.manager.getRouteState route =
      (bot.manager.applyAll settings event.1 (bot.operations settings event)).getRouteState
        route := by
  rcases step_manager taken with same | ⟨pruned, same, none⟩
  · rw [same]
  · rw [same, none]
    exact GlobalRiskManager.getRouteState_pruneRoute bot.manager event.1 pruned route

theorem step_globalKillSwitch (taken : bot.step settings event = some after) :
    after.manager.globalKillSwitch =
      (bot.manager.applyAll settings event.1
        (bot.operations settings event)).globalKillSwitch := by
  rcases step_manager taken with same | ⟨pruned, same, none⟩
  · rw [same]
  · rw [same, none]
    rfl

/-! ### The database -/

structure DbEffect (before after : Database) (upsert : Option (String × RouteState))
    (pauseWrite : Option Bool) (attempt : Option String) : Prop where
  rows : ∀ route, after.getRouteRuntimeState route =
    match upsert with
    | some (routeId, state) => if route = routeId then some state else before.getRouteRuntimeState route
    | none => before.getRouteRuntimeState route
  pause : after.control.globalPause = pauseWrite.getD before.control.globalPause
  attempts : ∀ route, after.attemptsOf route =
    before.attemptsOf route + if attempt = some route then 1 else 0
  ids : after.routes.map Route.id = before.routes.map Route.id

theorem DbEffect.refl (db : Database) : DbEffect db db none none none :=
  ⟨fun _ => rfl, rfl, fun _ => rfl, rfl⟩

theorem scanStep_db (answers : ScanAnswers) :
    DbEffect bot.db (bot.scanStep settings now answers).db bot.scan.upsert bot.scan.pauseWrite
      bot.scan.attempt := by
  cases place : bot.scan with
  | routesRead mode routes =>
      simp only [scanStep, place]
      split <;> exact .refl bot.db
  | judging cursor quote decision =>
      simp only [scanStep, place]
      split
      · split <;> exact .refl bot.db
      · cases blockOperation cursor decision <;> exact .refl bot.db
  | ddPausing control balance routes =>
      simp only [scanStep, place, ScanPc.pauseWrite]
      split
      · exact .refl bot.db
      · exact ⟨fun _ => rfl, rfl, fun _ => rfl, rfl⟩
  | observing | recording =>
      simp only [scanStep, place]
      exact ⟨fun _ => rfl, rfl, fun _ => rfl, rfl⟩
  | attempting cursor quote =>
      simp only [scanStep, place]
      refine ⟨fun _ => rfl, rfl, fun route => ?_, rfl⟩
      simp only [Database.attemptsOf_insert, ScanPc.attempt, Option.some.injEq]
  | updating cursor trade triggered =>
      simp only [scanStep, place]
      exact ⟨fun _ => rfl, rfl, fun route => Database.attemptsOf_update .., rfl⟩
  | persisting cursor state trade =>
      simp only [scanStep, place]
      exact ⟨fun route => Database.getRouteRuntimeState_upsert .., rfl, fun _ => rfl, rfl⟩
  | _ =>
      simp only [scanStep, place]
      exact .refl bot.db

theorem runInstr_db (instr : Instr) :
    DbEffect bot.db (bot.runInstr settings now instr).1.db instr.upsert instr.pauseWrite none := by
  cases instr with
  | commitGlobalPause value => exact ⟨fun _ => rfl, rfl, fun _ => rfl, rfl⟩
  | commitMode mode => exact ⟨fun _ => rfl, rfl, fun _ => rfl, rfl⟩
  | commitRouteEnabled routeId enabled =>
      exact ⟨fun _ => rfl, rfl, fun _ => rfl, Database.setRouteEnabled_ids routeId enabled⟩
  | commitRouteState routeId state =>
      exact ⟨fun _ => Database.getRouteRuntimeState_upsert .., rfl, fun _ => rfl, rfl⟩
  | _ => exact .refl bot.db

theorem step_db (taken : bot.step settings event = some after) :
    DbEffect bot.db after.db (bot.commits event) (bot.pauseWrite event) (bot.attempts event) := by
  obtain ⟨now, action⟩ := event
  rcases step_cases taken with ⟨answers, rfl, rfl⟩ | ⟨rfl, rfl⟩ | ⟨rfl, booted⟩ |
    ⟨request, rfl, -, rfl⟩ | ⟨index, rfl, handled⟩ | ⟨index, rfl, rfl⟩
  · exact @scanStep_db settings now { bot with clock := now } answers
  · exact .refl bot.db
  · rcases bootStep_some booted with ⟨-, rfl⟩ | ⟨rows, -, rfl⟩
    · exact .refl bot.db
    · exact .refl bot.db
  · exact .refl bot.db
  · obtain ⟨request, instr, rest, found, rfl⟩ := handlerStep_some handled
    have next : bot.instr? index = some instr := instr?_of_found found
    simp only [commits, pauseWrite, next]
    exact @runInstr_db settings now { bot with clock := now } instr
  · exact .refl bot.db

theorem step_row (taken : bot.step settings event = some after) (route : String) :
    (∃ state, bot.commits event = some (route, state) ∧
      after.db.getRouteRuntimeState route = some state) ∨
    (∀ state, bot.commits event ≠ some (route, state)) ∧
      after.db.getRouteRuntimeState route = bot.db.getRouteRuntimeState route := by
  have rows := (step_db taken).rows route
  cases committed : bot.commits event with
  | none =>
      rw [committed] at rows
      exact .inr ⟨fun _ => nofun, rows⟩
  | some upsert =>
      obtain ⟨routeId, state⟩ := upsert
      rw [committed] at rows
      by_cases here : route = routeId
      · subst here
        simp only [if_true] at rows
        exact .inl ⟨state, rfl, rows⟩
      · simp only [if_neg here] at rows
        refine .inr ⟨fun other same => here ?_, rows⟩
        cases same
        rfl

/-! ### The clock and the start-up -/

theorem step_clock (taken : bot.step settings event = some after) : after.clock = event.1 := by
  obtain ⟨now, action⟩ := event
  rcases step_cases taken with ⟨answers, rfl, rfl⟩ | ⟨rfl, rfl⟩ | ⟨rfl, booted⟩ |
    ⟨request, rfl, -, rfl⟩ | ⟨index, rfl, handled⟩ | ⟨index, rfl, rfl⟩
  · exact (scanStep_frame answers).2.2
  · rfl
  · rcases bootStep_some booted with ⟨-, rfl⟩ | ⟨rows, -, rfl⟩ <;> rfl
  · rfl
  · obtain ⟨request, instr, rest, found, rfl⟩ := handlerStep_some handled
    exact (runInstr_frame instr).2.2.2
  · rfl

theorem step_boot (taken : bot.step settings event = some after) :
    after.boot = bot.boot ∨
    (bot.boot = .starting ∧ after.boot = .listed bot.db.listRouteRuntimeStates ∧
      after.db = bot.db) ∨
    ∃ rows, bot.boot = .listed rows ∧ after.boot = .serving ∧ event.2 = .boot := by
  obtain ⟨now, action⟩ := event
  rcases step_cases taken with ⟨answers, rfl, rfl⟩ | ⟨rfl, rfl⟩ | ⟨rfl, booted⟩ |
    ⟨request, rfl, -, rfl⟩ | ⟨index, rfl, handled⟩ | ⟨index, rfl, rfl⟩
  · exact .inl (scanStep_frame answers).2.1
  · exact .inl rfl
  · rcases bootStep_some booted with ⟨starting, rfl⟩ | ⟨rows, listed, rfl⟩
    · exact .inr (.inl ⟨starting, rfl, rfl⟩)
    · exact .inr (.inr ⟨rows, listed, rfl, rfl⟩)
  · exact .inl rfl
  · obtain ⟨request, instr, rest, found, rfl⟩ := handlerStep_some handled
    exact .inl (runInstr_frame instr).2.2.1
  · exact .inl rfl

end Bot

end ArbitrageBot
