/-
The pauses that live in the manager only: a strategy, a venue, a route. Unlike the global pause
the loop has no copy of them to apply, so they hold against everything but a resume of the same
scope; what the loop has already found tradable is the one attempt that can still follow.
-/

import ArbitrageBot.System.Restart

namespace ArbitrageBot

open Transition
open Sample (tradingSettings)

/-- What a control handler can pause in the manager. -/
inductive PauseScope
  | strategy (name : String)
  | venue (name : String)
  | route (routeId : String)
deriving DecidableEq

namespace PauseScope

def pausing : PauseScope → RiskOp
  | .strategy name => .pauseStrategy name
  | .venue name => .pauseVenue name
  | .route routeId => .pauseRoute routeId

/-- The operations that take the pause away; a hydration does so from a row without it. -/
def lifts : PauseScope → RiskOp → Bool
  | .strategy name, .resumeStrategy resumed => resumed = name
  | .venue name, .resumeVenue resumed => resumed = name
  | .route routeId, .resumeRoute resumed => resumed = routeId
  | .route routeId, .hydrateRouteState hydrated row => hydrated = routeId && !row.paused
  | _, _ => false

def resumedBy : PauseScope → Request → Bool
  | .strategy name, .resumeStrategy resumed => resumed = name
  | .venue name, .enableVenue resumed => resumed = name
  | .route routeId, .enableRoute resumed => resumed = routeId
  | _, _ => false

def Held (manager : GlobalRiskManager) : PauseScope → Prop
  | .strategy name => name ∈ manager.strategyPaused
  | .venue name => name ∈ manager.venuePaused
  | .route routeId => routeId ∈ manager.routePaused

def covers (quote : RouteQuote) : PauseScope → Bool
  | .strategy name => quote.strategy = name
  | .venue name => name ∈ quote.venueTokens
  | .route routeId => quote.routeId = routeId

variable {scope : PauseScope} {settings : Settings} {now : Instant} {manager : GlobalRiskManager}

theorem held_pausing : scope.Held (scope.pausing.apply settings now manager) := by
  cases scope <;> exact Finset.mem_insert_self _ _

theorem Held.apply (held : scope.Held manager) {op : RiskOp} (kept : scope.lifts op = false) :
    scope.Held (op.apply settings now manager) := by
  cases op with
  | setGlobalKill => cases scope <;> exact held
  | pauseStrategy =>
      cases scope with
      | strategy => exact Finset.mem_insert_of_mem held
      | _ => exact held
  | resumeStrategy resumed =>
      cases scope with
      | strategy name =>
          have other : resumed ≠ name := of_decide_eq_false kept
          exact Finset.mem_erase.mpr ⟨other.symm, held⟩
      | _ => exact held
  | pauseRoute =>
      cases scope with
      | route => exact Finset.mem_insert_of_mem held
      | _ => exact held
  | resumeRoute resumed =>
      cases scope with
      | route routeId =>
          have other : resumed ≠ routeId := of_decide_eq_false kept
          exact Finset.mem_erase.mpr ⟨other.symm, held⟩
      | _ => exact held
  | pausePair | resumePair => cases scope <;> exact held
  | pauseVenue =>
      cases scope with
      | venue => exact Finset.mem_insert_of_mem held
      | _ => exact held
  | resumeVenue resumed =>
      cases scope with
      | venue name =>
          have other : resumed ≠ name := of_decide_eq_false kept
          exact Finset.mem_erase.mpr ⟨other.symm, held⟩
      | _ => exact held
  | clearCooldown routeId =>
      simp only [RiskOp.apply, GlobalRiskManager.clearCooldown]
      split <;> cases scope <;> exact held
  | markFailure failed category reason =>
      cases scope with
      | route routeId =>
          simp only [Held, RiskOp.apply, GlobalRiskManager.markFailure]
          split
          · exact Finset.mem_insert_of_mem held
          · exact held
      | _ => exact held
  | markSuccess succeeded realizedPnl =>
      simp only [RiskOp.apply, GlobalRiskManager.markSuccess, GlobalRiskManager.resetDailyIfNeeded]
      split <;> cases scope <;> exact held
  | hydrateRouteState hydrated row =>
      cases scope with
      | route routeId =>
          simp only [Held, RiskOp.apply, GlobalRiskManager.hydrateRouteState]
          split
          · exact Finset.mem_insert_of_mem held
          · rename_i unpaused
            have other : hydrated ≠ routeId := by
              intro same
              simp [lifts, same, unpaused] at kept
            exact Finset.mem_erase.mpr ⟨other.symm, held⟩
      | _ => exact held

theorem Held.applyAll (held : scope.Held manager) {ops : List RiskOp}
    (kept : ∀ op ∈ ops, scope.lifts op = false) :
    scope.Held (manager.applyAll settings now ops) := by
  induction ops generalizing manager with
  | nil => exact held
  | cons op rest ih =>
      exact ih (held.apply (kept op List.mem_cons_self)) fun later member =>
        kept later (.tail op member)

theorem Held.blocks (held : scope.Held manager) {input : Evaluation}
    (covered : scope.covers input.quote = true) :
    (manager.evaluate settings now input).1.tradable = false := by
  cases scope with
  | strategy name =>
      have same : input.quote.strategy = name := of_decide_eq_true covered
      subst same
      have paused : input.quote.strategy ∈ manager.strategyPaused := held
      apply GlobalRiskManager.evaluate_blocked_of_pause (.tail _ List.mem_cons_self)
      simpa using paused
  | venue name =>
      have traded : name ∈ input.quote.venueTokens := of_decide_eq_true covered
      have paused : name ∈ manager.venuePaused := held
      apply GlobalRiskManager.evaluate_blocked_of_pause
        (.tail _ (.tail _ (.tail _ (.tail _ List.mem_cons_self))))
      exact List.all_eq_false.mpr ⟨name, traded, by simpa using paused⟩
  | route routeId =>
      have same : input.quote.routeId = routeId := of_decide_eq_true covered
      subst same
      have paused : input.quote.routeId ∈ manager.routePaused := held
      apply GlobalRiskManager.evaluate_blocked_of_pause (.tail _ (.tail _ List.mem_cons_self))
      simpa using paused

/-- Only the request that resumes a scope has an instruction that lifts its pause. -/
theorem resumedBy_of_lifts {request : Request} {instr : Instr}
    (member : instr ∈ request.program settings) {op : RiskOp} (performed : op ∈ instr.operations)
    (lifting : scope.lifts op = true) : scope.resumedBy request = true := by
  have all : (request.program settings).all (fun instr =>
      instr.operations.all fun op => !scope.lifts op || scope.resumedBy request) = true := by
    cases request with
    | switchMode target token =>
        cases target with
        | live =>
            simp only [Request.program]
            split <;> rfl
        | _ => rfl
    | clearCooldown routeId =>
        simp only [Request.program]
        cases scope <;> split <;> rfl
    | enableRoute | enableVenue | resumeStrategy =>
        cases scope <;>
          simp [Request.program, Instr.operations, lifts, resumedBy]
    | _ => cases scope <;> rfl
  have checked := List.all_eq_true.mp (List.all_eq_true.mp all instr member) op performed
  rw [lifting] at checked
  exact checked

end PauseScope

/-! ### What the loop has already found tradable -/

/-- The quote of the route in hand, from a tradable verdict to its attempt. -/
def ScanPc.inFlight : ScanPc → Option RouteQuote
  | .observing _ quote decision | .judging _ quote decision =>
      if decision.tradable then some quote else none
  | .attempting _ quote => some quote
  | _ => none

namespace Bot

variable (settings : Settings) (bot : Bot) (event : Event) (scope : PauseScope)

def attempted : Option RouteQuote :=
  match event.2, bot.scan with
  | .scan _, .attempting _ quote => some quote
  | _, _ => none

def tradesIn : Bool :=
  match event.2, bot.scan with
  | .scan answers, .quoting cursor =>
      let input := cursor.evaluation settings answers
      scope.covers input.quote && (bot.manager.evaluate settings event.1 input).1.tradable
  | _, _ => false

variable {settings bot event scope} {now : Instant} {after : Bot}

theorem inFlight_forRoutes (mode : RunMode) (balance : Rat) (routes : List Route) :
    (ScanPc.forRoutes mode balance routes).inFlight = none := by
  rcases ScanPc.forRoutes_cases mode balance routes with idle | ⟨cursor, quoting⟩
  · rw [idle]
    rfl
  · rw [quoting]
    rfl

/-- A quote is in flight from a tradable verdict on it to the attempt. -/
theorem scanStep_inFlight {answers : ScanAnswers} {quote : RouteQuote}
    (flying : (bot.scanStep settings now answers).scan.inFlight = some quote) :
    (bot.scan.inFlight = some quote ∧ bot.attempted (now, .scan answers) = none) ∨
      (bot.attempted (now, .scan answers) = none ∧
        ∀ scope : PauseScope, scope.covers quote = true →
          bot.tradesIn settings (now, .scan answers) scope = true) := by
  cases place : bot.scan with
  | quoting cursor =>
      right
      simp only [scanStep, place, ScanPc.inFlight, Option.ite_none_right_eq_some,
        Option.some.injEq] at flying
      obtain ⟨tradable, rfl⟩ := flying
      refine ⟨by simp only [attempted, place], fun scope covered => ?_⟩
      simp only [tradesIn, place, covered, tradable, Bool.and_self]
  | observing cursor held decision =>
      simp only [scanStep, place] at flying
      exact .inl ⟨flying, by simp only [attempted, place]⟩
  | judging cursor held decision =>
      simp only [scanStep, place] at flying
      split at flying
      · rename_i tradable
        split at flying
        · rw [ScanCursor.nextRoute, inFlight_forRoutes] at flying
          cases flying
        · left
          refine ⟨?_, by simp only [attempted, place]⟩
          rw [ScanPc.inFlight, if_pos tradable]
          exact flying
      · cases operation : blockOperation cursor decision with
        | none =>
            simp only [operation, ScanCursor.nextRoute, inFlight_forRoutes] at flying
            cases flying
        | some op =>
            simp only [operation, mark] at flying
            cases flying
  | routesRead mode routes =>
      simp only [scanStep, place] at flying
      split at flying
      · cases flying
      · rw [inFlight_forRoutes] at flying
        cases flying
  | ddPausing mode balance routes =>
      simp only [scanStep, place, inFlight_forRoutes] at flying
      cases flying
  | persisting cursor state trade =>
      simp only [scanStep, place] at flying
      cases trade with
      | none =>
          simp only [ScanCursor.nextRoute, inFlight_forRoutes] at flying
          cases flying
      | some trade => cases flying
  | recording cursor trade triggered =>
      simp only [scanStep, place, ScanCursor.nextRoute, inFlight_forRoutes] at flying
      cases flying
  | _ =>
      simp only [scanStep, place, mark] at flying
      cases flying

theorem step_inFlight (taken : bot.step settings event = some after) {quote : RouteQuote}
    (flying : after.scan.inFlight = some quote) :
    (bot.scan.inFlight = some quote ∧ bot.attempted event = none) ∨
      (bot.attempted event = none ∧ ∀ scope : PauseScope, scope.covers quote = true →
        bot.tradesIn settings event scope = true) := by
  obtain ⟨now, action⟩ := event
  rcases step_scan taken with ⟨answers, scanned, moved⟩ | ⟨-, idle⟩ | ⟨others, same⟩
  · change action = .scan answers at scanned
    subst scanned
    rw [moved] at flying
    exact scanStep_inFlight flying
  · rw [idle] at flying
    cases flying
  · rw [same] at flying
    refine .inl ⟨flying, ?_⟩
    cases action with
    | scan answers => exact absurd rfl (others answers)
    | _ => rfl

theorem inFlight_of_attempted {quote : RouteQuote} (attempt : bot.attempted event = some quote) :
    bot.scan.inFlight = some quote := by
  unfold attempted at attempt
  split at attempt
  · rename_i place
    rw [place]
    exact attempt
  · cases attempt

end Bot

/-! ### The invariant -/

def attemptsIn (scope : PauseScope) (trace : List (Bot × Event)) : Nat :=
  trace.countP fun entry => (entry.1.attempted entry.2).any (scope.covers ·)

/-- No handler has an instruction left that lifts the pause. -/
def QuietIn (scope : PauseScope) (bot : Bot) : Prop :=
  ∀ handler ∈ bot.handlers, ∀ instr ∈ handler.todo, ∀ op ∈ instr.operations,
    scope.lifts op = false

/-- The pause stands, nothing is about to lift it, and at most one attempt gets past it. -/
structure PauseStands (scope : PauseScope) (attempts : Nat) (bot : Bot) : Prop where
  serving : bot.boot = .serving
  held : scope.Held bot.manager
  quiet : QuietIn scope bot
  flying : attempts + (if bot.scan.inFlight.any (scope.covers ·) then 1 else 0) ≤ 1

def NotResumed (scope : PauseScope) (_bot : Bot) (event : Event) : Prop :=
  ∀ request, event.2 = .request request → scope.resumedBy request = false

section

variable {settings : Settings} {scope : PauseScope} {attempts : Nat} {bot after : Bot}
  {event : Event}

theorem lifts_scan {answers : ScanAnswers} {op : RiskOp}
    (member : op ∈ bot.scanOperations settings answers) : scope.lifts op = false := by
  rcases Bot.scan_operation member with ⟨paused, rfl⟩ | ⟨route, category, reason, rfl, -, -⟩ |
    ⟨route, realizedPnl, rfl, -⟩
  all_goals cases scope <;> rfl

theorem PauseStands.operations (stands : PauseStands scope attempts bot) {op : RiskOp}
    (member : op ∈ bot.operations settings event) : scope.lifts op = false := by
  obtain ⟨now, action⟩ := event
  cases action with
  | scan answers => exact lifts_scan member
  | boot =>
      simp only [Bot.operations, stands.serving] at member
      cases member
  | handler index =>
      simp only [Bot.operations] at member
      cases next : bot.instr? index with
      | none => simp [next] at member
      | some instr =>
          obtain ⟨handler, inHandlers, inTodo⟩ := Bot.instr?_some next
          simp only [next, Option.map_some, Option.getD_some] at member
          exact stands.quiet handler inHandlers instr inTodo op member
  | _ => cases member

theorem PauseStands.blocks (stands : PauseStands scope attempts bot) :
    bot.tradesIn settings event scope = false := by
  unfold Bot.tradesIn
  split
  · rename_i answers cursor _ _
    dsimp only
    by_cases covered : scope.covers (cursor.evaluation settings answers).quote = true
    · rw [stands.held.blocks covered, Bool.and_false]
    · rw [Bool.eq_false_iff.mpr covered, Bool.false_and]
  · rfl

theorem PauseStands.step_flying (stands : PauseStands scope attempts bot)
    (taken : bot.step settings event = some after) :
    attempts + (if (bot.attempted event).any (scope.covers ·) then 1 else 0) +
      (if after.scan.inFlight.any (scope.covers ·) then 1 else 0) ≤ 1 := by
  have flying := stands.flying
  by_cases before : bot.scan.inFlight.any (scope.covers ·) = true
  · -- an attempt takes the quote out of flight
    rw [if_pos before] at flying
    have none : attempts = 0 := by omega
    rw [none]
    cases next : after.scan.inFlight with
    | none =>
        simp only [Option.any_none, Bool.false_eq_true, if_false]
        split <;> omega
    | some quote =>
        rcases Bot.step_inFlight taken next with ⟨-, unattempted⟩ | ⟨unattempted, -⟩
        all_goals
          rw [unattempted]
          simp only [Option.any_none, Bool.false_eq_true, if_false]
          split <;> omega
  · rw [if_neg before] at flying
    have unattempted : (bot.attempted event).any (scope.covers ·) ≠ true := by
      intro attempt
      obtain ⟨quote, attempting, covered⟩ := (Option.any_eq_true _ _).mp attempt
      apply before
      rw [Bot.inFlight_of_attempted attempting]
      exact covered
    have grounded : after.scan.inFlight.any (scope.covers ·) ≠ true := by
      intro ahead
      obtain ⟨quote, next, covered⟩ := (Option.any_eq_true _ _).mp ahead
      rcases Bot.step_inFlight taken next with ⟨already, -⟩ | ⟨-, trades⟩
      · apply before
        rw [already]
        exact covered
      · have blocked := @PauseStands.blocks settings scope attempts bot event stands
        rw [trades scope covered] at blocked
        cases blocked
    rw [if_neg unattempted, if_neg grounded]
    omega

theorem QuietIn.step (quiet : QuietIn scope bot) (permitted : NotResumed scope bot event)
    (taken : bot.step settings event = some after) : QuietIn scope after := by
  intro handler member instr inTodo op performed
  rcases Bot.step_handler_origin taken member with old | ⟨request, requested, rfl⟩ |
    ⟨index, head, rest, -, found, moved⟩ | empty
  · exact quiet handler old instr inTodo op performed
  · by_contra lifting
    have resumed := PauseScope.resumedBy_of_lifts inTodo performed (Bool.of_not_eq_false lifting)
    rw [permitted request requested] at resumed
    cases resumed
  · rw [moved, List.mem_append] at inTodo
    rcases inTodo with added | kept
    · rcases Bot.runInstr_added added with ⟨routeId, state, rfl⟩ | ⟨routeId, rfl⟩ <;>
        cases performed
    · exact quiet _ (List.mem_of_getElem? found) instr (.tail head kept) op performed
  · rw [empty] at inTodo
    cases inTodo

theorem PauseStands.step (stands : PauseStands scope attempts bot)
    (permitted : NotResumed scope bot event) (taken : bot.step settings event = some after) :
    PauseStands scope
      (attempts + if (bot.attempted event).any (scope.covers ·) then 1 else 0) after where
  serving := by
    by_contra notServing
    exact not_serving_of_step taken notServing stands.serving
  held := by
    rcases Bot.step_manager taken with same | ⟨route, same, -⟩
    · rw [same]
      exact stands.held.applyAll fun op member => stands.operations member
    · rw [same]
      have held := stands.held
      cases scope <;> exact held
  quiet := stands.quiet.step permitted taken
  flying := stands.step_flying taken

/-! ### The step that pauses -/

theorem Instr.operations_eq_of_mem {instr : Instr} {op : RiskOp} (member : op ∈ instr.operations) :
    instr.operations = [op] := by
  cases instr with
  | operate performed => rw [List.mem_singleton.mp member, operations]
  | killAndDisarm => rw [List.mem_singleton.mp member, operations]
  | snapshot performed routeId =>
      have same : performed = some op := Option.mem_toList.mp member
      rw [same]
      rfl
  | _ => cases member

/-- Only a handler pauses a scope, and it does nothing else in that step. -/
theorem pausing_handled (lawful : bot.lawful)
    (paused : scope.pausing ∈ bot.operations settings event) :
    ∃ index instr, event.2 = .handler index ∧ bot.instr? index = some instr ∧
      bot.operations settings event = [scope.pausing] := by
  obtain ⟨now, action⟩ := event
  cases action with
  | handler index =>
      cases next : bot.instr? index with
      | none => simp [Bot.operations, next] at paused
      | some instr =>
          simp only [Bot.operations, next, Option.map_some, Option.getD_some] at paused ⊢
          exact ⟨index, instr, rfl, next, Instr.operations_eq_of_mem paused⟩
  | scan answers =>
      exfalso
      rcases Bot.scan_operation paused with ⟨killed, same⟩ | ⟨route, category, reason, same, -, -⟩ |
        ⟨route, realizedPnl, same, -⟩
      all_goals cases scope <;> cases same
  | boot =>
      exfalso
      rcases Bot.operation_cases lawful paused with ⟨answers, scanned, -⟩ |
        ⟨rows, row, -, -, same⟩ | -
      · cases scanned
      · cases scope <;> cases same
      · simp only [Bot.operations] at paused
        split at paused
        · obtain ⟨row, -, same⟩ := List.mem_map.mp paused
          cases scope <;> cases same
        · cases paused
  | _ => cases paused

theorem PauseStands.of_pausing (orderly : Orderly bot)
    (taken : bot.step settings event = some after)
    (paused : scope.pausing ∈ bot.operations settings event) (quiet : QuietIn scope bot) :
    PauseStands scope 0 after := by
  obtain ⟨index, instr, handled, next, only⟩ := pausing_handled orderly.lawful paused
  have serving : bot.boot = .serving := by
    by_contra notServing
    obtain ⟨handler, member, -⟩ := Bot.instr?_some next
    rw [orderly.handlers notServing] at member
    cases member
  refine ⟨?_, ?_, ?_, ?_⟩
  · by_contra notServing
    exact not_serving_of_step taken notServing serving
  · rcases Bot.step_manager taken with same | ⟨route, -, none⟩
    · rw [same, only]
      exact PauseScope.held_pausing
    · rw [none] at only
      cases only
  · refine quiet.step ?_ taken
    intro request requested
    rw [handled] at requested
    cases requested
  · split <;> omega

end

/-- An instruction that lifts a pause of the scope belongs to a request to resume it. -/
def AskedBy (scope : PauseScope) (request : Request) (instr : Instr) : Prop :=
  ∀ op ∈ instr.operations, scope.lifts op = true → scope.resumedBy request = true

theorem step_asked {settings : Settings} {scope : PauseScope} {bot after : Bot} {event : Event}
    (asked : ∀ handler ∈ bot.handlers, ∀ instr ∈ handler.todo,
      AskedBy scope handler.request instr)
    (taken : bot.step settings event = some after) :
    ∀ handler ∈ after.handlers, ∀ instr ∈ handler.todo, AskedBy scope handler.request instr := by
  refine Bot.step_instructions ?_ ?_ ?_ asked taken
  · exact fun request instr member op performed lifting =>
      PauseScope.resumedBy_of_lifts member performed lifting
  · intro request routeId op performed
    cases performed
  · intro request routeId state op performed
    cases performed

/-- After an operator has paused a strategy, a venue or a route, and until a resume of the same
scope is requested, no evaluation in the scope comes out tradable, whatever runs beside it; only
an attempt that was already in flight can still be made. -/
theorem operator_pause_holds (settings : Settings) (db : Database) (started : Instant)
    (past : List (Bot × Event)) (before : Bot)
    (reached : Reaches (Bot.step settings) anyStep (.launch settings db started) past before)
    (event : Event) (after : Bot) (taken : before.step settings event = some after)
    (scope : PauseScope) (paused : scope.pausing ∈ before.operations settings event)
    (alone : ∀ handler ∈ before.handlers, scope.resumedBy handler.request = true →
      handler.todo = [])
    (trace : List (Bot × Event)) (bot : Bot)
    (run : Reaches (Bot.step settings) (NotResumed scope) after trace bot) :
    (∀ entry ∈ trace, entry.1.tradesIn settings entry.2 scope = false) ∧
      attemptsIn scope trace ≤ 1 ∧ scope.Held bot.manager := by
  have orderly : Orderly before := (@intact_of_run settings db started past before "" reached).1
  have asked : ∀ handler ∈ before.handlers, ∀ instr ∈ handler.todo,
      AskedBy scope handler.request instr := by
    apply reached.invariant
    · intro handler member
      cases member
    · exact fun _ _ _ asked _ stepped => step_asked asked stepped
  have quiet : QuietIn scope before := by
    intro handler member instr inTodo op performed
    by_contra lifting
    have resumes := asked handler member instr inTodo op performed (Bool.of_not_eq_false lifting)
    rw [alone handler member resumes] at inTodo
    cases inTodo
  have base := PauseStands.of_pausing orderly taken paused quiet
  have stands : ∀ {front : List (Bot × Event)} {middle : Bot},
      Reaches (Bot.step settings) (NotResumed scope) after front middle →
      PauseStands scope (attemptsIn scope front) middle := by
    intro front middle reaches
    apply reaches.invariant_trace base
    intro past bot event next held permitted stepped
    have moved := held.step permitted stepped
    rw [attemptsIn, List.countP_append, List.countP_singleton]
    exact moved
  refine ⟨fun entry member => ?_, ?_, (stands run).held⟩
  · obtain ⟨front, earlier, -⟩ := run.of_mem member
    exact (stands earlier).blocks
  · have flying := (stands run).flying
    omega

def notResumedTest (scope : PauseScope) (entry : Bot × Event) : Bool :=
  match entry.2.2 with
  | .request request => !scope.resumedBy request
  | _ => true

theorem notResumed_of_test {scope : PauseScope} {bot : Bot} {event : Event}
    (passes : notResumedTest scope (bot, event) = true) : NotResumed scope bot event := by
  intro request requested
  simp only [notResumedTest, requested, Bool.not_eq_true'] at passes
  exact passes

def scansFrom (first : Instant) (count : Nat) : List Event :=
  (List.range count).map fun (offset : Nat) =>
    (first + offset, .scan (Sample.tradingAnswers tradingSettings))

def disablesVenue (venue : String) (bot : Bot) (event : Event) : Bool :=
  (bot.operations tradingSettings event).any (fun op =>
      match op with
      | .pauseVenue paused => paused = venue
      | _ => false) &&
    bot.handlers.all fun handler =>
      !(PauseScope.venue venue).resumedBy handler.request || handler.todo.isEmpty

theorem pausing_of_disablesVenue {venue : String} {bot : Bot} {event : Event}
    (disables : disablesVenue venue bot event = true) :
    (PauseScope.venue venue).pausing ∈ bot.operations tradingSettings event ∧
      ∀ handler ∈ bot.handlers, (PauseScope.venue venue).resumedBy handler.request = true →
        handler.todo = [] := by
  obtain ⟨pausing, alone⟩ := Bool.and_eq_true_iff.mp disables
  constructor
  · obtain ⟨op, member, same⟩ := List.any_eq_true.mp pausing
    cases op with
    | pauseVenue paused =>
        have named : paused = venue := of_decide_eq_true same
        rw [PauseScope.pausing, ← named]
        exact member
    | _ => cases same
  · intro handler member resumes
    have checked := List.all_eq_true.mp alone handler member
    rw [resumes] at checked
    exact List.isEmpty_iff.mp checked

/-- A venue is disabled while the loop is about to insert an attempt there. -/
theorem operator_pause_holds_venue :
    ∃ after trace bot,
      Reaches (Bot.step tradingSettings) (NotResumed (.venue "ramses_v3")) after trace bot ∧
      attemptsIn (.venue "ramses_v3") trace = 1 ∧
      (∀ entry ∈ trace, entry.1.tradesIn tradingSettings entry.2 (.venue "ramses_v3") = false) ∧
      attemptsIn (.venue "ramses_v3") trace ≤ 1 ∧
      (PauseScope.venue "ramses_v3").Held bot.manager := by
  have found : ((follow (Bot.step tradingSettings) (.launch tradingSettings Sample.db 0)
      ([(1, .boot), (2, .boot)] ++ scansFrom 3 7 ++
        [(10, .request (.disableVenue "ramses_v3"))])).any fun past =>
      (Bot.step tradingSettings past.2 (11, .handler 0)).any fun after =>
        disablesVenue "ramses_v3" past.2 (11, .handler 0) &&
          (follow (Bot.step tradingSettings) after (scansFrom 12 13)).any fun done =>
            done.1.all (notResumedTest (.venue "ramses_v3")) &&
              attemptsIn (.venue "ramses_v3") done.1 = 1) = true := by
    decide +kernel
  obtain ⟨past, before, after, trace, bot, reached, taken, disables, run, checked⟩ :=
    exists_run_through found fun done passed entry member =>
      notResumed_of_test (List.all_eq_true.mp (Bool.and_eq_true_iff.mp passed).1 entry member)
  obtain ⟨paused, alone⟩ := pausing_of_disablesVenue disables
  exact ⟨after, trace, bot, run, of_decide_eq_true (Bool.and_eq_true_iff.mp checked).2,
    operator_pause_holds tradingSettings Sample.db 0 past before reached (11, .handler 0) after taken
      (.venue "ramses_v3") paused alone trace bot run⟩

end ArbitrageBot
