/-
A fatal failure freezes its route: the pause outlives every step of the loop, the
verdicts it causes are never fatal themselves, and so nothing touches the failure
record until an operator lifts the pause or clears the cooldown.
-/

import ArbitrageBot.Library.Transition
import ArbitrageBot.System.ScanLoop

namespace ArbitrageBot

open Transition

/-- The operations that can end a route's fatal pause or rewrite its failure record. -/
def RiskOp.releases (route : String) (op : RiskOp) : Bool :=
  match op with
  | .resumeRoute _ | .clearCooldown _ | .hydrateRouteState _ _ => op.touches route
  | _ => false

/-- No enable-route, clear-cooldown or hydration of the route. -/
def LeavesAlone (settings : Settings) (route : String) (bot : Bot) (event : Event) : Prop :=
  ∀ op ∈ bot.operations settings event, op.releases route = false

def aloneTest (settings : Settings) (route : String) (entry : Bot × Event) : Bool :=
  (entry.1.operations settings entry.2).all fun op => !op.releases route

theorem leavesAlone_of_test {settings : Settings} {route : String} {bot : Bot} {event : Event}
    (passes : aloneTest settings route (bot, event) = true) :
    LeavesAlone settings route bot event := by
  intro op member
  have kept := List.all_eq_true.mp passes op member
  simpa using kept

section Frozen

variable {settings : Settings} {route : String} {record : RouteState} {attempts : Nat}
  {bot after : Bot} {event : Event}

/-- The route's state and attempts are those that the failure left, and the loop is not about to
act on the route. -/
structure Frozen (route : String) (record : RouteState) (attempts : Nat) (bot : Bot) : Prop where
  lawful : bot.lawful
  paused : record.paused = true
  state : bot.manager.getRouteState route = record
  attempted : bot.db.attemptsOf route = attempts
  notTrading : bot.scan.trading ≠ some route
  notFailing : bot.scan.failing ≠ some route

/-- While the route is paused every verdict on it is a block, for a reason that is not fatal. -/
theorem Frozen.verdict (frozen : Frozen route record attempts bot)
    {decision : OpportunityDecision}
    (given : bot.verdict settings event = some (route, decision)) :
    decision.tradable = false ∧ decision.blockedReason ∉ fatalFailureCategories := by
  have paused : (bot.manager.getRouteState route).paused = true := by
    rw [frozen.state]
    exact frozen.paused
  constructor
  · apply Bot.verdict_blocked given
    simp only [RouteState.blocks, paused, Bool.true_or]
  · obtain ⟨answers, cursor, -, -, same, rfl⟩ := Bot.verdict_some given
    have member : (cursor.evaluation settings answers).quote.routeId ∈
        bot.manager.routePaused := by
      rw [ScanCursor.evaluation_routeId, same]
      exact of_decide_eq_true paused
    exact GlobalRiskManager.evaluate_not_fatal_of_routePaused member

theorem Frozen.operation (frozen : Frozen route record attempts bot)
    (alone : LeavesAlone settings route bot event) {op : RiskOp}
    (member : op ∈ bot.operations settings event) (touched : op.touches route = true) :
    op = .pauseRoute route := by
  have kept := alone op member
  rcases Bot.operation_cases frozen.lawful member with ⟨answers, -, scanned⟩ |
    ⟨rows, row, -, -, rfl⟩ | operator
  · rcases Bot.scan_operation scanned with ⟨paused, rfl⟩ | ⟨failed, _, _, rfl, -, engaged⟩ |
      ⟨succeeded, _, rfl, trading⟩
    · cases touched
    · have same : failed = route := of_decide_eq_true touched
      subst same
      rcases engaged with trading | failing
      · exact absurd trading frozen.notTrading
      · exact absurd failing frozen.notFailing
    · have same : succeeded = route := of_decide_eq_true touched
      subst same
      exact absurd trading frozen.notTrading
  · exact absurd touched (Bool.eq_false_iff.mp kept)
  · cases op with
    | pauseRoute routeId => rw [of_decide_eq_true touched]
    | resumeRoute | clearCooldown => exact absurd touched (Bool.eq_false_iff.mp kept)
    | markFailure | markSuccess | hydrateRouteState => cases operator
    | _ => cases touched

theorem getRouteState_pauseRoute {manager : GlobalRiskManager}
    (paused : (manager.getRouteState route).paused = true) :
    (manager.pauseRoute route).getRouteState route = manager.getRouteState route := by
  apply GlobalRiskManager.getRouteState_congr
  · simp [GlobalRiskManager.pauseRoute, of_decide_eq_true paused]
  · rfl
  · rfl

theorem Frozen.step_state (frozen : Frozen route record attempts bot)
    (alone : LeavesAlone settings route bot event)
    (taken : bot.step settings event = some after) :
    after.manager.getRouteState route = record := by
  rw [Bot.step_getRouteState taken]
  refine @GlobalRiskManager.applyAll_preserves settings event.1
    (fun current => current.getRouteState route = record) _ _ frozen.state ?_
  intro op member current held
  by_cases touched : op.touches route = true
  · rw [frozen.operation alone member touched]
    have paused : (current.getRouteState route).paused = true := by
      rw [held]
      exact frozen.paused
    exact (getRouteState_pauseRoute paused).trans held
  · rw [RiskOp.getRouteState_apply (Bool.eq_false_iff.mpr touched)]
    exact held

theorem Frozen.step (frozen : Frozen route record attempts bot)
    (alone : LeavesAlone settings route bot event)
    (taken : bot.step settings event = some after) : Frozen route record attempts after where
  lawful := Bot.step_lawful frozen.lawful taken
  paused := frozen.paused
  state := frozen.step_state alone taken
  attempted := by
    have untried : bot.attempts event ≠ some route := by
      intro attempted
      obtain ⟨now, action⟩ := event
      cases action with
      | scan answers =>
          have notTrading := frozen.notTrading
          cases place : bot.scan with
          | attempting cursor quote =>
              rw [place] at notTrading
              simp only [Bot.attempts, place] at attempted
              exact notTrading attempted
          | _ =>
              simp only [Bot.attempts, place] at attempted
              cases attempted
      | _ => cases attempted
    rw [(Bot.step_db taken).attempts, if_neg untried, Nat.add_zero]
    exact frozen.attempted
  notTrading := by
    intro trading
    rcases Bot.step_trading taken trading with already | ⟨decision, given, tradable⟩
    · exact frozen.notTrading already
    · rw [(frozen.verdict given).1] at tradable
      cases tradable
  notFailing := by
    intro failing
    rcases Bot.step_failing taken failing with already | ⟨decision, given, -, fatal⟩
    · exact frozen.notFailing already
    · exact (frozen.verdict given).2 fatal

theorem frozen_of_recordsFatal (lawful : bot.lawful) (taken : bot.step settings event = some after)
    (failed : bot.recordsFatal settings event route = true) :
    Frozen route (after.manager.getRouteState route) (after.db.attemptsOf route) after := by
  obtain ⟨paused, -, snapshot⟩ := Bot.step_recordsFatal lawful taken failed
  refine ⟨Bot.step_lawful lawful taken, paused, rfl, rfl, ?_, ?_⟩
  · intro trading
    rw [Bot.upsert_none_of_engaged (.inl trading)] at snapshot
    cases snapshot
  · intro failing
    rw [Bot.upsert_none_of_engaged (.inr failing)] at snapshot
    cases snapshot

end Frozen

/-- After a fatal failure, and until an operator releases the route or it is hydrated: no tradable
verdict on it, no trade attempt for it, and its record as the failure left it. -/
theorem fatal_failure_freezes (settings : Settings) (start : Bot) (noHandlers : start.handlers = [])
    (past : List (Bot × Event)) (before : Bot)
    (reached : Reaches (Bot.step settings) anyStep start past before) (event : Event) (after : Bot)
    (taken : before.step settings event = some after) (route : String)
    (failed : before.recordsFatal settings event route = true) (trace : List (Bot × Event))
    (bot : Bot) (run : Reaches (Bot.step settings) (LeavesAlone settings route) after trace bot) :
    (∀ entry ∈ trace, ∀ decision,
      entry.1.verdict settings entry.2 = some (route, decision) → decision.tradable = false) ∧
    bot.db.attemptsOf route = after.db.attemptsOf route ∧
    bot.manager.getRouteState route = after.manager.getRouteState route := by
  have frozen := frozen_of_recordsFatal (Bot.reaches_lawful noHandlers reached) taken failed
  have stays : ∀ {front : List (Bot × Event)} {middle : Bot},
      Reaches (Bot.step settings) (LeavesAlone settings route) after front middle →
      Frozen route (after.manager.getRouteState route) (after.db.attemptsOf route) middle :=
    fun reached => reached.invariant frozen fun _ _ _ held alone stepped => held.step alone stepped
  refine ⟨fun entry member decision given => ?_, (stays run).attempted, (stays run).state⟩
  obtain ⟨front, earlier, -⟩ := run.of_mem member
  exact ((stays earlier).verdict given).1

def nextIteration : List Event :=
  [(8, .scan {}), (9, .scan {}), (10, .scan {}), (11, .scan {}), (12, .scan Sample.answers),
    (13, .scan Sample.answers), (14, .scan {}), (15, .scan {})]

theorem fatal_failure_freezes_missing_quote :
    ∃ after trace bot, Reaches (Bot.step shipped) (LeavesAlone shipped "r") after trace bot ∧
      (trace.any fun entry => (entry.1.verdict shipped entry.2).isSome) = true ∧
      (∀ entry ∈ trace, ∀ decision,
        entry.1.verdict shipped entry.2 = some ("r", decision) → decision.tradable = false) ∧
      bot.db.attemptsOf "r" = after.db.attemptsOf "r" ∧
      bot.manager.getRouteState "r" = after.manager.getRouteState "r" := by
  have found : ((follow (Bot.step shipped) Sample.serving Sample.toFailure).any fun past =>
      (Bot.step shipped past.2 (7, .scan {})).any fun after =>
        past.2.recordsFatal shipped (7, .scan {}) "r" &&
          (follow (Bot.step shipped) after nextIteration).any fun done =>
            done.1.all (aloneTest shipped "r") &&
            done.1.any fun entry => (entry.1.verdict shipped entry.2).isSome) = true := by
    decide +kernel
  obtain ⟨past, before, after, trace, bot, reached, taken, failed, run, evaluated⟩ :=
    exists_run_through found fun done checked entry member =>
      leavesAlone_of_test (List.all_eq_true.mp (Bool.and_eq_true_iff.mp checked).1 entry member)
  exact ⟨after, trace, bot, run, (Bool.and_eq_true_iff.mp evaluated).2,
    fatal_failure_freezes shipped Sample.serving rfl past before reached (7, .scan {}) after taken
      "r" failed trace bot run⟩

end ArbitrageBot
