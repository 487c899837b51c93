/-
The daily drawdown stop, as the loop makes it: the flag in one step, the row in the next. The loop
writes the row through the copy that the iteration began with, so the row changes only if that copy
was not paused; a resume can lift the stop, and an exception between the two writes.
-/

import ArbitrageBot.System.Iteration
import ArbitrageBot.System.KillSwitch
import ArbitrageBot.System.OperatorPauses

namespace ArbitrageBot

open Transition
open Sample (tradingSettings)

/-- No resume is requested, and the write of the row does not raise. -/
structure KeepsStop (bot : Bot) (event : Event) : Prop where
  notResumed : event.2 ≠ .request .resume
  written : event.2 = .scanRaise → bot.scan.pauseWrite = none

structure StopStands (bot : Bot) : Prop where
  quiet : ∀ handler ∈ bot.handlers, ∀ instr ∈ handler.todo, instr.lifts = false
  flag : bot.manager.globalKillSwitch = true
  row : bot.scan.pauseWrite = some true ∨ bot.db.control.globalPause = true
  fresh : ∀ control, bot.scan = .controlRead control → control.globalPause = true
  grounded : bot.scan.inFlight = none

section

variable {settings : Settings} {bot after : Bot} {event : Event}

theorem quietHandlers_step (permitted : event.2 ≠ .request .resume)
    (quiet : ∀ handler ∈ bot.handlers, ∀ instr ∈ handler.todo, instr.lifts = false)
    (taken : bot.step settings event = some after) :
    ∀ handler ∈ after.handlers, ∀ instr ∈ handler.todo, instr.lifts = false := by
  intro handler member instr inTodo
  rcases Bot.step_handler_origin taken member with old | ⟨request, requested, rfl⟩ |
    ⟨index, head, rest, -, found, moved⟩ | empty
  · exact quiet handler old instr inTodo
  · by_contra lifting
    have resume := (Bot.programmed inTodo).lifts (Bool.of_not_eq_false lifting)
    rw [requested, resume] at permitted
    exact permitted rfl
  · rw [moved, List.mem_append] at inTodo
    rcases inTodo with added | kept
    · rcases Bot.runInstr_added added with ⟨routeId, state, rfl⟩ | ⟨routeId, rfl⟩ <;> rfl
    · exact quiet _ (List.mem_of_getElem? found) instr (.tail head kept)
  · rw [empty] at inTodo
    cases inTodo

namespace StopStands

theorem step_flag (stands : StopStands bot) (taken : bot.step settings event = some after) :
    after.manager.globalKillSwitch = true := by
  rw [Bot.step_globalKillSwitch taken]
  refine applyAll_globalKillSwitch ?_ stands.flag
  intro cleared
  obtain ⟨now, action⟩ := event
  cases action with
  | scan answers =>
      obtain ⟨control, place, lifted⟩ := Bot.scanOperations_clears cleared
      rw [stands.fresh control place] at lifted
      cases lifted
  | boot =>
      simp only [Bot.operations] at cleared
      split at cleared <;> simp at cleared
  | handler index =>
      simp only [Bot.operations] at cleared
      cases next : bot.instr? index with
      | none => simp [next] at cleared
      | some instr =>
          obtain ⟨handler, inHandlers, inTodo⟩ := Bot.instr?_some next
          simp only [next, Option.map_some, Option.getD_some] at cleared
          have quiet := stands.quiet handler inHandlers instr inTodo
          rw [Instr.lifts_of_clears cleared] at quiet
          cases quiet
  | _ => cases cleared

/-- What is committed to the row while the stop stands is a pause. -/
theorem pauseWrite (stands : StopStands bot) {value : Bool}
    (written : bot.pauseWrite event = some value) : value = true := by
  obtain ⟨now, action⟩ := event
  cases action with
  | scan answers =>
      cases place : bot.scan with
      | ddPausing =>
          simp only [Bot.pauseWrite, ScanPc.pauseWrite, place, Option.ite_none_left_eq_some,
            Option.some.injEq] at written
          exact written.2.symm
      | _ => simp [Bot.pauseWrite, ScanPc.pauseWrite, place] at written
  | handler index =>
      obtain ⟨instr, next, wrote⟩ := Option.bind_eq_some_iff.mp written
      obtain ⟨handler, inHandlers, inTodo⟩ := Bot.instr?_some next
      have quiet := stands.quiet handler inHandlers instr inTodo
      cases instr with
      | commitGlobalPause stored =>
          cases wrote
          simpa [Instr.lifts] using quiet
      | _ => cases wrote
  | _ => cases written

theorem step_row (stands : StopStands bot) (permitted : KeepsStop bot event)
    (taken : bot.step settings event = some after) :
    after.scan.pauseWrite = some true ∨ after.db.control.globalPause = true := by
  rw [(Bot.step_db taken).pause]
  cases written : bot.pauseWrite event with
  | some value => exact .inr (stands.pauseWrite written)
  | none =>
      rcases stands.row with pausing | paused
      · -- the write is still to come
        left
        obtain ⟨now, action⟩ := event
        rcases Bot.step_scan taken with ⟨answers, scanned, -⟩ | ⟨raised, -⟩ | ⟨-, same⟩
        · change action = .scan answers at scanned
          subst scanned
          rw [Bot.pauseWrite, pausing] at written
          cases written
        · rw [permitted.written raised] at pausing
          cases pausing
        · rw [same]
          exact pausing
      · exact .inr paused

theorem step_grounded (stands : StopStands bot) (taken : bot.step settings event = some after) :
    after.scan.inFlight = none := by
  cases next : after.scan.inFlight with
  | none => rfl
  | some quote =>
      rcases Bot.step_inFlight taken next with ⟨already, -⟩ | ⟨-, trades⟩
      · rw [stands.grounded] at already
        cases already
      · have tradable := trades (.route quote.routeId) (decide_eq_true rfl)
        unfold Bot.tradesIn at tradable
        split at tradable
        · dsimp only at tradable
          rw [GlobalRiskManager.evaluate_blocked_of_globalKill stands.flag, Bool.and_false]
            at tradable
          cases tradable
        · cases tradable

theorem step (stands : StopStands bot) (permitted : KeepsStop bot event)
    (taken : bot.step settings event = some after) : StopStands after where
  quiet := quietHandlers_step permitted.notResumed stands.quiet taken
  flag := stands.step_flag taken
  row := stands.step_row permitted taken
  fresh := by
    intro control place
    rcases Bot.step_controlRead taken place with already | ⟨idle, rfl⟩
    · exact stands.fresh control already
    · rcases stands.row with pausing | paused
      · rw [idle] at pausing
        cases pausing
      · exact paused
  grounded := stands.step_grounded taken

theorem step_attempts (stands : StopStands bot) (taken : bot.step settings event = some after)
    (route : String) : after.db.attemptsOf route = bot.db.attemptsOf route := by
  have untried : bot.attempts event ≠ some route := by
    intro attempt
    obtain ⟨now, action⟩ := event
    cases action with
    | scan answers =>
        have grounded := stands.grounded
        cases place : bot.scan with
        | attempting =>
            rw [place] at grounded
            cases grounded
        | _ =>
            simp only [Bot.attempts, ScanPc.attempt, place] at attempt
            cases attempt
    | _ => cases attempt
  rw [(Bot.step_db taken).attempts, if_neg untried, Nat.add_zero]

theorem of_stop {now : Instant} {answers : ScanAnswers} {control : RuntimeControl}
    {routes : List Route} (place : bot.scan = .routesRead control routes)
    (unpaused : control.globalPause = false)
    (stops : bot.manager.shouldStopForDailyDd settings answers.walletBalanceUsdc = true)
    (quiet : ∀ handler ∈ bot.handlers, ∀ instr ∈ handler.todo, instr.lifts = false)
    (taken : bot.step settings (now, .scan answers) = some after) : StopStands after := by
  have stopped : after = { bot with
      clock := now, manager := bot.manager.setGlobalKill true
      scan := .ddPausing control answers.walletBalanceUsdc routes } := by
    simp only [Bot.step, Bot.scanStep, place, stops, if_true, Option.some.injEq] at taken
    exact taken.symm
  rw [stopped]
  refine ⟨quiet, rfl, .inl (by simp [ScanPc.pauseWrite, unpaused]), ?_, rfl⟩
  intro control read
  cases read

end StopStands

end

/-- From the step in which an iteration that began unpaused finds the drawdown until a resume is
requested: no evaluation is tradable and no attempt is made, whatever runs beside it. -/
theorem drawdown_stop_holds (settings : Settings) (start : Bot) (noHandlers : start.handlers = [])
    (past : List (Bot × Event)) (before : Bot)
    (reached : Reaches (Bot.step settings) anyStep start past before)
    (now : Instant) (answers : ScanAnswers) (control : RuntimeControl) (routes : List Route)
    (place : before.scan = .routesRead control routes) (unpaused : control.globalPause = false)
    (stops : before.manager.shouldStopForDailyDd settings answers.walletBalanceUsdc = true)
    (alone : before.noResume) (after : Bot)
    (taken : before.step settings (now, .scan answers) = some after)
    (trace : List (Bot × Event)) (bot : Bot)
    (run : Reaches (Bot.step settings) KeepsStop after trace bot) :
    (∀ time input, (bot.manager.evaluate settings time input).1.tradable = false) ∧
      (∀ route, bot.db.attemptsOf route = before.db.attemptsOf route) ∧
      (bot.scan.pauseWrite = none → bot.db.control.globalPause = true) := by
  have lifting : ∀ handler ∈ before.handlers, ∀ instr ∈ handler.todo, instr.lifts = true →
      handler.request = .resume := by
    apply reached.invariant
    · intro handler member
      rw [noHandlers] at member
      cases member
    · exact fun _ _ _ lifting _ stepped => Bot.step_instructions
        (fun _ _ member => (Bot.programmed member).lifts) (fun _ _ => nofun) (fun _ _ _ => nofun)
        lifting stepped
  have quiet : ∀ handler ∈ before.handlers, ∀ instr ∈ handler.todo, instr.lifts = false := by
    intro handler member instr inTodo
    by_contra lifts
    have resumes := lifting handler member instr inTodo (Bool.of_not_eq_false lifts)
    rw [alone handler member resumes] at inTodo
    cases inTodo
  have base := StopStands.of_stop place unpaused stops quiet taken
  have unchanged : ∀ route, after.db.attemptsOf route = before.db.attemptsOf route := by
    intro route
    have attempts := (Bot.step_db taken).attempts route
    simp only [Bot.attempts, place, ScanPc.attempt] at attempts
    exact attempts
  have held : StopStands bot ∧ ∀ route, bot.db.attemptsOf route = before.db.attemptsOf route := by
    apply run.invariant ⟨base, unchanged⟩
    rintro middle event next ⟨stands, same⟩ permitted stepped
    exact ⟨stands.step permitted stepped,
      fun route => (stands.step_attempts stepped route).trans (same route)⟩
  obtain ⟨stands, attempts⟩ := held
  refine ⟨fun _ _ => GlobalRiskManager.evaluate_blocked_of_globalKill stands.flag, attempts, ?_⟩
  intro moved
  rcases stands.row with pausing | paused
  · rw [pausing] at moved
    cases moved
  · exact paused

def keepsStopTest (entry : Bot × Event) : Bool :=
  match entry.2.2 with
  | .request .resume => false
  | .scanRaise => entry.1.scan.pauseWrite.isNone
  | _ => true

theorem keepsStop_of_test {bot : Bot} {event : Event} (passes : keepsStopTest (bot, event) = true) :
    KeepsStop bot event := by
  obtain ⟨now, action⟩ := event
  constructor
  · rintro rfl
    cases passes
  · rintro rfl
    simpa [keepsStopTest] using passes

/-- The wallet answers that it is empty, which counts as a drawdown. -/
def emptyWallet : ScanAnswers :=
  { Sample.tradingAnswers tradingSettings with walletBalanceUsdc := 0 }

def findsDrawdown (before : Bot) : Bool :=
  match before.scan with
  | .routesRead control _ =>
      before.handlers.isEmpty && !control.globalPause &&
        before.manager.shouldStopForDailyDd tradingSettings emptyWallet.walletBalanceUsdc
  | _ => false

theorem drawdown_stop_holds_empty :
    ∃ before trace bot, Reaches (Bot.step tradingSettings) KeepsStop before trace bot ∧
      (trace.any fun entry => (entry.1.verdict tradingSettings entry.2).isSome) = true ∧
      (∀ time input, (bot.manager.evaluate tradingSettings time input).1.tradable = false) ∧
      (bot.scan.pauseWrite = none → bot.db.control.globalPause = true) := by
  have found : ((follow (Bot.step tradingSettings) Sample.serving (scansFrom 1 3)).any fun past =>
      (Bot.step tradingSettings past.2 (4, .scan emptyWallet)).any fun after =>
        findsDrawdown past.2 &&
          (follow (Bot.step tradingSettings) after (scansFrom 5 10)).any fun done =>
            done.1.all keepsStopTest &&
              done.1.any fun entry => (entry.1.verdict tradingSettings entry.2).isSome) = true := by
    decide +kernel
  obtain ⟨past, before, after, trace, bot, reached, taken, finds, run, checked⟩ :=
    exists_run_through found fun done passed entry member =>
      keepsStop_of_test (List.all_eq_true.mp (Bool.and_eq_true_iff.mp passed).1 entry member)
  obtain ⟨control, routes, place, alone, unpaused, stops⟩ : ∃ control routes,
      before.scan = .routesRead control routes ∧ before.handlers = [] ∧
        control.globalPause = false ∧ before.manager.shouldStopForDailyDd tradingSettings
          emptyWallet.walletBalanceUsdc = true := by
    unfold findsDrawdown at finds
    split at finds
    · rename_i control routes place
      simp only [Bool.and_eq_true, List.isEmpty_iff, Bool.not_eq_true'] at finds
      exact ⟨control, routes, place, finds.1.1, finds.1.2, finds.2⟩
    · cases finds
  have noResume : before.noResume := by
    intro handler member
    rw [alone] at member
    cases member
  obtain ⟨blocked, -, paused⟩ := drawdown_stop_holds tradingSettings Sample.serving rfl past before
    reached 4 emptyWallet control routes place unpaused stops noResume after taken trace bot run
  exact ⟨after, trace, bot, run, (Bool.and_eq_true_iff.mp checked).2, blocked, paused⟩

end ArbitrageBot
