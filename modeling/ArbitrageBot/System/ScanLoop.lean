/-
The scan loop and one route. The loop holds a verdict on a route, records what comes
of it, and carries the snapshot that it has to persist.
-/

import ArbitrageBot.System.Handlers

namespace ArbitrageBot

/-- The route for which the loop holds a tradable verdict it has not acted on yet. -/
def ScanPc.trading : ScanPc → Option String
  | .observing cursor _ decision | .judging cursor _ decision =>
      if decision.tradable then some cursor.route.id else none
  | .attempting cursor _ | .executing cursor _ _ => some cursor.route.id
  | _ => none

/-- The route for which the loop holds a fatal verdict it has not recorded yet. -/
def ScanPc.failing : ScanPc → Option String
  | .observing cursor _ decision | .judging cursor _ decision =>
      if decision.tradable = false ∧ decision.blockedReason ∈ fatalFailureCategories then
        some cursor.route.id
      else none
  | _ => none

def ScanPc.Free (place : ScanPc) : Prop :=
  place.trading = none ∧ place.failing = none ∧ place.upsert = none

namespace Bot

variable {settings : Settings} {now : Instant} {bot after : Bot} {event : Event}

theorem step_scan (taken : bot.step settings event = some after) :
    (∃ answers, event.2 = .scan answers ∧
      after.scan = (bot.scanStep settings event.1 answers).scan) ∨
    (event.2 = .scanRaise ∧ after.scan = .idle) ∨
    ((∀ answers, event.2 ≠ .scan answers) ∧ after.scan = bot.scan) := by
  obtain ⟨now, action⟩ := event
  rcases step_cases taken with ⟨answers, rfl, rfl⟩ | ⟨rfl, rfl⟩ | ⟨rfl, booted⟩ |
    ⟨request, rfl, -, rfl⟩ | ⟨index, rfl, handled⟩ | ⟨index, rfl, rfl⟩
  · refine .inl ⟨answers, rfl, ?_⟩
    cases place : bot.scan with
    | routesRead =>
        simp only [scanStep, place]
        split <;> rfl
    | judging cursor quote decision =>
        simp only [scanStep, place]
        split
        · split <;> rfl
        · cases blockOperation cursor decision <;> rfl
    | _ => simp only [scanStep, place, mark]
  · exact .inr (.inl ⟨rfl, rfl⟩)
  · refine .inr (.inr ⟨fun answers => by simp, ?_⟩)
    rcases bootStep_some booted with ⟨-, rfl⟩ | ⟨rows, -, rfl⟩ <;> rfl
  · exact .inr (.inr ⟨fun answers => by simp, rfl⟩)
  · obtain ⟨request, instr, rest, found, rfl⟩ := handlerStep_some handled
    exact .inr (.inr ⟨fun answers => by simp, (runInstr_frame instr).2.1⟩)
  · exact .inr (.inr ⟨fun answers => by simp, rfl⟩)

theorem forRoutes_free (mode : RunMode) (balance : Rat) (routes : List Route) :
    (ScanPc.forRoutes mode balance routes).Free := by
  rcases ScanPc.forRoutes_cases mode balance routes with same | ⟨cursor, same⟩ <;>
    rw [same] <;> exact ⟨rfl, rfl, rfl⟩

/-- Where the loop goes: it follows one route from its evaluation to the end of its upsert, and is
free everywhere else. -/
inductive ScanMove (verdict : Option (String × OpportunityDecision)) (after : Bot) :
    ScanPc → ScanPc → Prop
  | free {place next : ScanPc} : next.Free → ScanMove verdict after place next
  | evaluated (cursor : ScanCursor) (quote : RouteQuote) (decision : OpportunityDecision) :
      verdict = some (cursor.route.id, decision) →
      ScanMove verdict after (.quoting cursor) (.observing cursor quote decision)
  | observed (cursor : ScanCursor) (quote : RouteQuote) (decision : OpportunityDecision) :
      ScanMove verdict after (.observing cursor quote decision)
        (.judging cursor quote decision)
  | accepted (cursor : ScanCursor) (quote : RouteQuote) (decision : OpportunityDecision) :
      decision.tradable = true →
      ScanMove verdict after (.judging cursor quote decision)
        (.attempting cursor quote)
  | failed (cursor : ScanCursor) (quote : RouteQuote) (decision : OpportunityDecision) :
      decision.tradable = false → decision.blockedReason ∈ fatalFailureCategories →
      ScanMove verdict after (.judging cursor quote decision)
        (.persisting cursor (after.manager.getRouteState cursor.route.id) none)
  | attempted (cursor : ScanCursor) (quote : RouteQuote) (attemptId : Nat) :
      ScanMove verdict after (.attempting cursor quote)
        (.executing cursor quote attemptId)
  | executed (cursor : ScanCursor) (quote : RouteQuote) (attemptId : Nat) (trade : Trade) :
      ScanMove verdict after (.executing cursor quote attemptId)
        (.persisting cursor (after.manager.getRouteState cursor.route.id) (some trade))

theorem scanStep_move (answers : ScanAnswers) :
    ScanMove (bot.verdict settings (now, .scan answers)) (bot.scanStep settings now answers)
      bot.scan (bot.scanStep settings now answers).scan := by
  cases place : bot.scan with
  | quoting cursor =>
      simp only [scanStep, place]
      apply ScanMove.evaluated
      simp only [verdict, place]
  | observing cursor quote decision =>
      simp only [scanStep, place]
      exact .observed cursor quote decision
  | judging cursor quote decision =>
      simp only [scanStep, place]
      split
      · rename_i tradable
        split
        · exact .free (forRoutes_free ..)
        · exact .accepted cursor quote decision tradable
      · rename_i blocked
        unfold blockOperation
        split
        · rename_i op found
          split at found
          · rename_i fatal
            exact .failed cursor quote decision (Bool.eq_false_iff.mpr blocked) fatal
          · cases found
        · exact .free (forRoutes_free ..)
  | attempting cursor quote =>
      simp only [scanStep, place]
      exact .attempted cursor quote _
  | executing cursor quote attemptId =>
      simp only [scanStep, place, mark]
      exact .executed cursor quote attemptId _
  | routesRead mode routes =>
      simp only [scanStep, place]
      split
      · exact .free ⟨rfl, rfl, rfl⟩
      · exact .free (forRoutes_free ..)
  | ddPausing | recording =>
      simp only [scanStep, place]
      exact .free (forRoutes_free ..)
  | persisting cursor state trade =>
      simp only [scanStep, place]
      cases trade with
      | none => exact .free (forRoutes_free ..)
      | some trade => exact .free ⟨rfl, rfl, rfl⟩
  | _ =>
      simp only [scanStep, place]
      exact .free ⟨rfl, rfl, rfl⟩

theorem step_move (taken : bot.step settings event = some after) :
    (∃ answers, event.2 = .scan answers ∧
      ScanMove (bot.verdict settings event) after bot.scan after.scan) ∨
    after.scan = .idle ∨ (∀ answers, event.2 ≠ .scan answers) ∧ after.scan = bot.scan := by
  obtain ⟨now, action⟩ := event
  rcases step_scan taken with ⟨answers, scanned, -⟩ | ⟨-, idle⟩ | others
  · change action = .scan answers at scanned
    subst scanned
    cases taken
    exact .inl ⟨answers, rfl, @scanStep_move settings now { bot with clock := now } answers⟩
  · exact .inr (.inl idle)
  · exact .inr (.inr others)

theorem step_trading (taken : bot.step settings event = some after) {route : String}
    (trading : after.scan.trading = some route) :
    bot.scan.trading = some route ∨
      ∃ decision, bot.verdict settings event = some (route, decision) ∧
        decision.tradable = true := by
  obtain ⟨now, action⟩ := event
  rcases step_move taken with ⟨answers, rfl, move⟩ | idle | ⟨-, same⟩
  · generalize bot.scan = place, after.scan = next at move trading
    cases move with
    | free free =>
        rw [free.1] at trading
        cases trading
    | evaluated cursor quote decision given =>
        right
        simp only [ScanPc.trading, Option.ite_none_right_eq_some, Option.some.injEq] at trading
        exact ⟨decision, trading.2 ▸ given, trading.1⟩
    | observed => exact .inl trading
    | accepted cursor quote decision tradable =>
        left
        simpa only [ScanPc.trading, tradable, if_true] using trading
    | failed | executed => cases trading
    | attempted => exact .inl trading
  · rw [idle] at trading
    cases trading
  · rw [same] at trading
    exact .inl trading

theorem step_failing (taken : bot.step settings event = some after) {route : String}
    (failing : after.scan.failing = some route) :
    bot.scan.failing = some route ∨
      ∃ decision, bot.verdict settings event = some (route, decision) ∧
        decision.tradable = false ∧ decision.blockedReason ∈ fatalFailureCategories := by
  obtain ⟨now, action⟩ := event
  rcases step_move taken with ⟨answers, rfl, move⟩ | idle | ⟨-, same⟩
  · generalize bot.scan = place, after.scan = next at move failing
    cases move with
    | free free =>
        rw [free.2.1] at failing
        cases failing
    | evaluated cursor quote decision given =>
        right
        simp only [ScanPc.failing, Option.ite_none_right_eq_some, Option.some.injEq] at failing
        exact ⟨decision, failing.2 ▸ given, failing.1⟩
    | observed => exact .inl failing
    | accepted | failed | executed | attempted => cases failing
  · rw [idle] at failing
    cases failing
  · rw [same] at failing
    exact .inl failing

/-- An upsert the loop has in flight was in flight before, or is a snapshot of this step. -/
theorem step_scan_upsert (taken : bot.step settings event = some after) {route : String}
    {state : RouteState} (upsert : after.scan.upsert = some (route, state)) :
    (bot.scan.upsert = some (route, state) ∧ ∀ answers, event.2 ≠ .scan answers) ∨
      (state = after.manager.getRouteState route ∧
        (bot.scan.trading = some route ∨ bot.scan.failing = some route)) := by
  obtain ⟨now, action⟩ := event
  rcases step_move taken with ⟨answers, rfl, move⟩ | idle | ⟨other, same⟩
  · generalize bot.scan = place, after.scan = next at move upsert
    right
    cases move with
    | free free =>
        rw [free.2.2] at upsert
        cases upsert
    | evaluated | observed | accepted | attempted => cases upsert
    | failed cursor quote decision blocked fatal =>
        cases upsert
        refine ⟨rfl, .inr ?_⟩
        simp only [ScanPc.failing, blocked, fatal, and_self, if_true]
    | executed cursor quote attemptId trade =>
        cases upsert
        exact ⟨rfl, .inl rfl⟩
  · rw [idle] at upsert
    cases upsert
  · rw [same] at upsert
    exact .inl ⟨upsert, other⟩

/-- The operations of the loop: the global flag, a fatal failure of a route it holds a verdict
for, or a success of a route it holds a tradable verdict for. -/
theorem scan_operation {answers : ScanAnswers} {op : RiskOp}
    (member : op ∈ bot.scanOperations settings answers) :
    (∃ paused, op = .setGlobalKill paused) ∨
    (∃ route category reason, op = .markFailure route category reason ∧
      category ∈ fatalFailureCategories ∧
      (bot.scan.trading = some route ∨ bot.scan.failing = some route)) ∨
    ∃ route realizedPnl, op = .markSuccess route realizedPnl ∧
      bot.scan.trading = some route := by
  unfold scanOperations at member
  split at member
  · exact .inl ⟨_, List.mem_singleton.mp member⟩
  · split at member
    · exact .inl ⟨_, List.mem_singleton.mp member⟩
    · cases member
  · rename_i cursor quote decision place
    split at member
    · cases member
    · rename_i blocked
      unfold blockOperation at member
      split at member
      · rename_i fatal
        refine .inr (.inl ⟨_, _, _, List.mem_singleton.mp member, fatal, .inr ?_⟩)
        simp only [place, ScanPc.failing, Bool.eq_false_iff.mpr blocked, fatal, and_self, if_true]
      · cases member
  · rename_i cursor quote attemptId place
    have trading : bot.scan.trading = some cursor.route.id := by rw [place, ScanPc.trading]
    have same := List.mem_singleton.mp member
    unfold TradeOutcome.operation at same
    split at same
    · rename_i failed
      exact .inr (.inl ⟨_, _, _, same, ScanCursor.execute_fatal failed, .inl trading⟩)
    · exact .inr (.inr ⟨_, _, same, trading⟩)
  · cases member

theorem scanOperations_eq_of_mem {answers : ScanAnswers} {op : RiskOp}
    (member : op ∈ bot.scanOperations settings answers) :
    bot.scanOperations settings answers = [op] := by
  unfold scanOperations at member ⊢
  split at member
  · rw [List.mem_singleton.mp member]
  · split at member
    · rename_i stops
      rw [if_pos stops, List.mem_singleton.mp member]
    · cases member
  · rename_i cursor quote decision place
    split at member
    · cases member
    · rename_i blocked
      rw [if_neg blocked]
      rw [Option.mem_toList] at member
      rw [Option.mem_def.mp member]
      rfl
  · rw [List.mem_singleton.mp member]
  · cases member

theorem upsert_none_of_engaged {place : ScanPc} {route : String}
    (engaged : place.trading = some route ∨ place.failing = some route) : place.upsert = none := by
  cases place with
  | persisting => rcases engaged with impossible | impossible <;> cases impossible
  | _ => rfl

theorem verdict_some {route : String} {decision : OpportunityDecision}
    (given : bot.verdict settings event = some (route, decision)) :
    ∃ answers cursor, event.2 = .scan answers ∧ bot.scan = .quoting cursor ∧
      cursor.route.id = route ∧
      decision =
        (bot.manager.evaluate settings event.1 (cursor.evaluation settings answers)).1 := by
  unfold verdict at given
  split at given
  · rename_i answers cursor asked place
    cases given
    exact ⟨answers, cursor, asked, place, rfl, rfl⟩
  · cases given

theorem verdict_blocked {route : String} {decision : OpportunityDecision}
    (given : bot.verdict settings event = some (route, decision))
    (blocks : (bot.manager.getRouteState route).blocks settings event.1 = true) :
    decision.tradable = false := by
  obtain ⟨answers, cursor, -, -, rfl, rfl⟩ := verdict_some given
  apply GlobalRiskManager.evaluate_blocked_of_routeState
  rw [ScanCursor.evaluation_routeId]
  exact blocks

theorem scanStep_upsert_of_touches {answers : ScanAnswers} {op : RiskOp} {route : String}
    (member : op ∈ bot.scanOperations settings answers) (touched : op.touches route = true) :
    (bot.scanStep settings now answers).scan.upsert =
      some (route, (bot.scanStep settings now answers).manager.getRouteState route) := by
  unfold scanOperations at member
  split at member
  · rw [List.mem_singleton.mp member] at touched
    cases touched
  · split at member
    · rw [List.mem_singleton.mp member] at touched
      cases touched
    · cases member
  · rename_i cursor quote decision place
    split at member
    · cases member
    · rename_i blocked
      rw [Option.mem_toList] at member
      have same : route = cursor.route.id := by
        unfold blockOperation at member
        split at member
        · cases member
          exact (of_decide_eq_true touched).symm
        · cases member
      simp only [scanStep, place, if_neg blocked, member, same]
      rfl
  · rename_i cursor quote attemptId place
    have same : route = cursor.route.id := by
      rw [List.mem_singleton.mp member] at touched
      unfold TradeOutcome.operation at touched
      split at touched <;> exact (of_decide_eq_true touched).symm
    simp only [scanStep, place, same]
    rfl
  · cases member

theorem step_upsert_of_touches (taken : bot.step settings event = some after)
    {answers : ScanAnswers} (scanned : event.2 = .scan answers) {op : RiskOp} {route : String}
    (member : op ∈ bot.scanOperations settings answers) (touched : op.touches route = true) :
    after.scan.upsert = some (route, after.manager.getRouteState route) := by
  obtain ⟨now, action⟩ := event
  change action = .scan answers at scanned
  subst scanned
  cases taken
  exact @scanStep_upsert_of_touches settings now { bot with clock := now } answers op route member
    touched

theorem operations_of_scan {answers : ScanAnswers} (scanned : event.2 = .scan answers) :
    bot.operations settings event = bot.scanOperations settings answers := by
  rw [operations, scanned]

theorem operations_of_recordsFatal {answers : ScanAnswers} (scanned : event.2 = .scan answers)
    {route : String} (recorded : bot.recordsFatal settings event route = true) :
    ∃ category reason, bot.scanOperations settings answers = [.markFailure route category reason] ∧
      category ∈ fatalFailureCategories ∧
      (bot.scan.trading = some route ∨ bot.scan.failing = some route) := by
  obtain ⟨op, member, fails⟩ := List.any_eq_true.mp recorded
  rw [operations_of_scan scanned] at member
  have only := scanOperations_eq_of_mem member
  rcases scan_operation member with ⟨paused, rfl⟩ |
    ⟨failed, category, reason, rfl, fatal, engaged⟩ | ⟨succeeded, realizedPnl, rfl, -⟩
  · cases fails
  · simp only [RiskOp.failsFatally, Bool.and_eq_true, decide_eq_true_eq] at fails
    obtain ⟨rfl, -⟩ := fails
    exact ⟨category, reason, only, fatal, engaged⟩
  · cases fails

/-- It pauses the route, marks the failure fatal and snapshots both. -/
theorem step_scan_recordsFatal {answers : ScanAnswers} (scanned : event.2 = .scan answers)
    (taken : bot.step settings event = some after) {route : String}
    (recorded : bot.recordsFatal settings event route = true) :
    (after.manager.getRouteState route).paused = true ∧
      (after.manager.getRouteState route).lastFailureFatal = true ∧
      after.scan.upsert = some (route, after.manager.getRouteState route) := by
  obtain ⟨category, reason, only, fatal, -⟩ := operations_of_recordsFatal scanned recorded
  have member : RiskOp.markFailure route category reason ∈ bot.scanOperations settings answers := by
    rw [only]
    exact List.mem_cons_self
  have marked := @GlobalRiskManager.getRouteState_markFailure_fatal bot.manager settings event.1
    route category reason fatal
  have state : after.manager.getRouteState route =
      (bot.manager.markFailure settings event.1 route category reason).getRouteState route := by
    rw [step_getRouteState taken, operations_of_scan scanned, only]
    rfl
  rw [state]
  refine ⟨marked.1, marked.2, ?_⟩
  rw [← state]
  exact step_upsert_of_touches taken scanned member (decide_eq_true rfl)

theorem step_recordsFatal (lawful : bot.lawful) (taken : bot.step settings event = some after)
    {route : String} (recorded : bot.recordsFatal settings event route = true) :
    (after.manager.getRouteState route).paused = true ∧
      (after.manager.getRouteState route).lastFailureFatal = true ∧
      after.scan.upsert = some (route, after.manager.getRouteState route) := by
  obtain ⟨op, member, fails⟩ := List.any_eq_true.mp recorded
  rcases operation_cases lawful member with ⟨answers, scanned, -⟩ | ⟨rows, row, -, -, rfl⟩ | operator
  · exact step_scan_recordsFatal scanned taken recorded
  · cases fails
  · cases op with
    | markFailure => cases operator
    | _ => cases fails

/-! ### Snapshots in flight -/

def upserts (bot : Bot) : List (String × RouteState) :=
  bot.scan.upsert.toList ++
    bot.handlers.flatMap fun handler => handler.todo.filterMap Instr.upsert

variable {route : String}

theorem mem_upserts {state : RouteState} :
    (route, state) ∈ bot.upserts ↔ bot.scan.upsert = some (route, state) ∨
      ∃ handler ∈ bot.handlers, ∃ instr ∈ handler.todo, instr.upsert = some (route, state) := by
  simp only [upserts, List.mem_append, Option.mem_toList, List.mem_flatMap,
    List.mem_filterMap]

theorem step_upserts (taken : bot.step settings event = some after) {state : RouteState}
    (inFlight : (route, state) ∈ after.upserts) :
    (route, state) ∈ bot.upserts ∨ state = after.manager.getRouteState route := by
  rw [mem_upserts] at inFlight ⊢
  rcases inFlight with upsert | ⟨handler, member, instr, inTodo, upsert⟩
  · rcases step_scan_upsert taken upsert with ⟨already, -⟩ | ⟨snapshot, -⟩
    · exact .inl (.inl already)
    · exact .inr snapshot
  · rcases step_handler_origin taken member with old | ⟨request, -, rfl⟩ |
      ⟨index, head, rest, handled, found, moved⟩ | empty
    · exact .inl (.inr ⟨handler, old, instr, inTodo, upsert⟩)
    · rw [(programmed inTodo).uncommitted] at upsert
      cases upsert
    · rw [moved, List.mem_append] at inTodo
      rcases inTodo with added | kept
      · right
        cases head with
        | snapshot op routeId =>
            rw [List.mem_singleton.mp added] at upsert
            cases upsert
            rw [step_getRouteState taken]
            simp only [operations, handled, instr?_of_found found, Option.map_some,
              Option.getD_some, Instr.operations]
        | snapshotAll =>
            obtain ⟨listed, -, rfl⟩ := List.mem_map.mp added
            cases upsert
        | _ => cases added
      · exact .inl (.inr ⟨_, List.mem_of_getElem? found, instr, .tail _ kept, upsert⟩)
    · rw [empty] at inTodo
      cases inTodo

theorem commits_mem_upserts {state : RouteState}
    (committed : bot.commits event = some (route, state)) : (route, state) ∈ bot.upserts := by
  rw [mem_upserts]
  obtain ⟨now, action⟩ := event
  cases action with
  | scan answers => exact .inl committed
  | handler index =>
      obtain ⟨instr, next, upsert⟩ := Option.bind_eq_some_iff.mp committed
      obtain ⟨handler, member, inTodo⟩ := instr?_some next
      exact .inr ⟨handler, member, instr, inTodo, upsert⟩
  | _ => cases committed

end Bot

end ArbitrageBot
