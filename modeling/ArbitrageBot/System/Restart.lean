/-
What a restart brings back. A fresh manager hydrated from the stored rows has the pauses of the
routes, their cooldowns and their counters; the pauses of strategies, pairs and venues and the
executions of the last ten minutes live in memory only.
-/

import ArbitrageBot.QuoteEngine.Engine
import ArbitrageBot.System.Hydration

namespace ArbitrageBot

open GuardChain Transition
open Sample (tradingSettings)

/-! ### What a verdict depends on -/

/-- The part of the manager that is in no row: what is paused besides routes, and the rate. -/
structure MemoryPermits (settings : Settings) (manager : GlobalRiskManager) (now : Instant)
    (quote : RouteQuote) : Prop where
  strategy : quote.strategy ∉ manager.strategyPaused
  pair : quote.pair ∉ manager.pairPaused
  venues : ∀ venue ∈ quote.venueTokens, venue ∉ manager.venuePaused
  rate : (((manager.routeStats quote.routeId).pruneExecutions now).executions.length : Int) <
    settings.liveMaxTradesPerRoutePer10m

section Verdict

variable {settings : Settings} {manager : GlobalRiskManager} {now : Instant} {input : Evaluation}

theorem pauseGuards_pass {quote : RouteQuote} :
    (∀ guard ∈ pauseGuards manager quote, guard.passes = true) ↔
      manager.globalKillSwitch = false ∧ quote.strategy ∉ manager.strategyPaused ∧
        quote.routeId ∉ manager.routePaused ∧ quote.pair ∉ manager.pairPaused ∧
        ∀ venue ∈ quote.venueTokens, venue ∉ manager.venuePaused := by
  simp only [pauseGuards, List.forall_mem_cons, List.not_mem_nil, false_implies, implies_true,
    and_true, Bool.not_eq_true', decide_eq_true_eq, List.all_eq_true]

theorem routeGuards_pass {route : String} :
    (∀ guard ∈ routeGuards settings manager now route, guard.passes = true) ↔
      ((manager.routeStats route).executions.length : Int) < settings.liveMaxTradesPerRoutePer10m ∧
        ((manager.routeStats route).consecutiveFailures : Int) <
          settings.liveMaxConsecutiveFailuresPerRoute ∧
        ((manager.routeStats route).consecutiveLosses : Int) <
          settings.liveMaxConsecutiveLossesPerRoute ∧
        ∀ expiry, manager.cooldownUntil route = some expiry → expiry ≤ now := by
  simp only [routeGuards, List.forall_mem_cons, List.not_mem_nil, false_implies, implies_true,
    and_true, decide_eq_true_eq]
  cases manager.cooldownUntil route <;> simp

theorem RouteState.blocks_eq_false {state : RouteState} :
    state.blocks settings now = false ↔
      state.paused = false ∧
        state.consecutiveFailures < settings.liveMaxConsecutiveFailuresPerRoute ∧
        state.consecutiveLosses < settings.liveMaxConsecutiveLossesPerRoute ∧
        ∀ expiry, state.cooldownUntil = some expiry → expiry ≤ now := by
  simp only [RouteState.blocks, Bool.or_eq_false_iff, decide_eq_false_iff_not, not_le]
  cases state.cooldownUntil <;> simp
  all_goals tauto

/-- A verdict looks at the kill switch, the route's state, what is in memory, and the input. -/
theorem GlobalRiskManager.evaluate_tradable_iff :
    (manager.evaluate settings now input).1.tradable = true ↔
      manager.globalKillSwitch = false ∧
        (manager.getRouteState input.quote.routeId).blocks settings now = false ∧
        MemoryPermits settings manager now input.quote ∧
        ∀ guard ∈ statelessGuards settings input, guard.passes = true := by
  rw [evaluate_tradable, pauseGuards_pass, routeGuards_pass, RouteState.blocks_eq_false]
  simp only [pruneRoute, Function.update_self, RouteStats.pruneExecutions, getRouteState,
    decide_eq_false_iff_not]
  constructor
  · rintro ⟨⟨killed, strategy, route, pair, venues⟩, stateless, rate, failures, losses, cooldown⟩
    exact ⟨killed, ⟨route, failures, losses, cooldown⟩, ⟨strategy, pair, venues, rate⟩, stateless⟩
  · rintro ⟨killed, ⟨route, failures, losses, cooldown⟩, ⟨strategy, pair, venues, rate⟩, stateless⟩
    exact ⟨⟨killed, strategy, route, pair, venues⟩, stateless, rate, failures, losses, cooldown⟩

end Verdict

/-! ### The stored state and what it hydrates to -/

/-- A route without a row has the state of a route nothing has happened to. -/
def Database.persistedState (db : Database) (routeId : String) : RouteState :=
  (db.getRouteRuntimeState routeId).getD idleRow

/-- The manager of the next process after its start-up, under the same kill flag. -/
def restarted (settings : Settings) (db : Database) (created hydratedAt : Instant)
    (globalKillSwitch : Bool) : GlobalRiskManager :=
  ((GlobalRiskManager.create settings created).applyAll settings hydratedAt
    (db.listRouteRuntimeStates.map fun row => .hydrateRouteState row.1 row.2)).setGlobalKill
      globalKillSwitch

section Stored

variable {settings : Settings} {now hydratedAt : Instant} {manager : GlobalRiskManager}
  {routeId : String}

theorem hydrateAll_rows {row? : Option RouteState} {rows : List (String × RouteState)}
    (listed : ∀ row, (routeId, row) ∈ rows ↔ row? = some row)
    (fresh : manager.getRouteState routeId = idleRow) :
    (manager.applyAll settings now
      (rows.map fun row => .hydrateRouteState row.1 row.2)).getRouteState routeId =
        (row?.getD idleRow).hydrated now := by
  apply @hydrateAll settings now manager routeId (fun state => state = (row?.getD idleRow).hydrated now)
  · intro row member current
    rw [(listed row).mp member]
    exact getRouteState_hydrate row
  · cases row? with
    | none => exact .inl fresh
    | some row => exact .inr ⟨row, (listed row).mpr rfl⟩

theorem restarted_getRouteState (db : Database) (created : Instant) (globalKillSwitch : Bool) :
    (restarted settings db created hydratedAt globalKillSwitch).getRouteState routeId =
      (db.persistedState routeId).hydrated hydratedAt :=
  hydrateAll_rows (fun _ => Database.mem_listRouteRuntimeStates) rfl

end Stored

/-! ### Routes whose state the process has left alone -/

/-- What the loop and the operators do to a route's state; hydration reads it back. -/
def RiskOp.changes (route : String) (op : RiskOp) : Bool :=
  match op with
  | .hydrateRouteState _ _ => false
  | _ => op.touches route

def changedBy (settings : Settings) (route : String) (trace : List (Bot × Event)) : Bool :=
  trace.any fun entry => (entry.1.operations settings entry.2).any (RiskOp.changes route)

/-- Requests are served after the start-up only, and handlers perform operators' operations. -/
structure Orderly (bot : Bot) : Prop where
  lawful : bot.lawful
  handlers : bot.boot ≠ .serving → bot.handlers = []

/-- The row and the manager's state of an unchanged route, from the row at the launch. -/
structure RowIntact (initial : Option RouteState) (route : String) (bot : Bot) : Prop where
  snapshots : ∀ state, (route, state) ∈ bot.upserts →
    bot.boot = .serving ∧ state = bot.manager.getRouteState route
  waiting : bot.boot ≠ .serving →
    bot.manager.getRouteState route = idleRow ∧ bot.db.getRouteRuntimeState route = initial ∧
      ∀ row, bot.awaits route row ↔ initial = some row
  serving : bot.boot = .serving →
    (∃ hydratedAt,
      bot.manager.getRouteState route = (initial.getD idleRow).hydrated hydratedAt) ∧
    (bot.db.getRouteRuntimeState route = initial ∨
      bot.db.getRouteRuntimeState route = some (bot.manager.getRouteState route))

section Steps

variable {settings : Settings} {bot after : Bot} {event : Event} {route : String}

theorem Orderly.step (orderly : Orderly bot) (taken : bot.step settings event = some after) :
    Orderly after := by
  refine ⟨Bot.step_lawful orderly.lawful taken, fun notServing => ?_⟩
  have serving := not_serving_of_step taken notServing
  have absent := orderly.handlers serving
  rcases Bot.step_cases taken with ⟨answers, -, rfl⟩ | ⟨-, rfl⟩ | ⟨-, booted⟩ |
    ⟨request, -, started, -⟩ | ⟨index, -, handled⟩ | ⟨index, -, rfl⟩
  · rw [(Bot.scanStep_frame answers).1]
    exact absent
  · exact absent
  · rcases Bot.bootStep_some booted with ⟨-, rfl⟩ | ⟨rows, -, rfl⟩ <;> exact absent
  · exact absurd started serving
  · obtain ⟨request, instr, rest, found, -⟩ := Bot.handlerStep_some handled
    have listed := List.mem_of_getElem? found
    rw [show ({ bot with clock := event.1 } : Bot).handlers = [] from absent] at listed
    cases listed
  · simp only [absent, List.modify_nil]

theorem RiskOp.touches_of_changes {op : RiskOp} (quiet : op.changes route = false) :
    op.touches route = false ∨ ∃ routeId row, op = .hydrateRouteState routeId row := by
  cases op with
  | hydrateRouteState routeId row => exact .inr ⟨routeId, row, rfl⟩
  | _ => exact .inl quiet

theorem Bot.scan_operation_not_hydrate {answers : ScanAnswers} {routeId : String}
    {row : RouteState} :
    RiskOp.hydrateRouteState routeId row ∉ bot.scanOperations settings answers := by
  intro member
  rcases Bot.scan_operation member with ⟨paused, same⟩ | ⟨failed, category, reason, same, -⟩ |
    ⟨succeeded, realizedPnl, same, -⟩
  all_goals cases same

/-- Nothing but start-up hydrates. -/
theorem Orderly.operations_touch (orderly : Orderly bot)
    (quiet : ∀ op ∈ bot.operations settings event, op.changes route = false) :
    (∃ rows, bot.boot = .listed rows ∧ event.2 = .boot) ∨
      ∀ op ∈ bot.operations settings event, op.touches route = false := by
  obtain ⟨now, action⟩ := event
  by_cases booting : ∃ rows, bot.boot = .listed rows ∧ action = .boot
  · exact .inl booting
  · right
    intro op member
    rcases RiskOp.touches_of_changes (quiet op member) with untouched | ⟨routeId, row, rfl⟩
    · exact untouched
    · exfalso
      cases action with
      | scan answers => exact Bot.scan_operation_not_hydrate member
      | boot =>
          simp only [Bot.operations] at member
          split at member
          · rename_i rows listed
            exact booting ⟨rows, listed, rfl⟩
          · cases member
      | handler index =>
          rcases Bot.operation_cases orderly.lawful member with ⟨answers, impossible, -⟩ |
            ⟨rows, listedRow, listed, -, -⟩ | operator
          · cases impossible
          · have absent := orderly.handlers (by simp [listed])
            simp only [Bot.operations, Bot.instr?, absent, List.getElem?_nil, Option.bind_none,
              Option.map_none, Option.getD_none] at member
            cases member
          · cases operator
      | _ => cases member

theorem Bot.step_boot_hydrates {rows : List (String × RouteState)}
    (taken : bot.step settings event = some after) (listed : bot.boot = .listed rows)
    (booted : event.2 = .boot) :
    after.boot = .serving ∧
      after.manager = bot.manager.applyAll settings event.1
        (rows.map fun row => .hydrateRouteState row.1 row.2) ∧
      after.db = bot.db := by
  rcases Bot.step_cases taken with ⟨answers, other, -⟩ | ⟨other, -⟩ | ⟨-, moved⟩ |
    ⟨request, other, -⟩ | ⟨index, other, -⟩ | ⟨index, other, -⟩
  · rw [booted] at other
    cases other
  · rw [booted] at other
    cases other
  · rcases Bot.bootStep_some moved with ⟨starting, -⟩ | ⟨found, place, rfl⟩
    · rw [show ({ bot with clock := event.1 } : Bot).boot = _ from listed] at starting
      cases starting
    · rw [show ({ bot with clock := event.1 } : Bot).boot = _ from listed] at place
      cases place
      exact ⟨rfl, rfl, rfl⟩
  all_goals
    rw [booted] at other
    cases other

theorem Bot.scanStep_upsert_changes {now : Instant} {answers : ScanAnswers} {state : RouteState}
    (upsert : (bot.scanStep settings now answers).scan.upsert = some (route, state)) :
    ∃ op ∈ bot.scanOperations settings answers, op.changes route = true := by
  have free : ∀ mode balance routes, (ScanPc.forRoutes mode balance routes).upsert = none :=
    fun mode balance routes => (forRoutes_free mode balance routes).2.2
  cases place : bot.scan with
  | judging cursor quote decision =>
      simp only [scanStep, place] at upsert
      split at upsert
      · split at upsert
        · rw [ScanCursor.nextRoute, free] at upsert
          cases upsert
        · cases upsert
      · rename_i blocked
        cases found : blockOperation cursor decision with
        | none =>
            simp only [found] at upsert
            rw [ScanCursor.nextRoute, free] at upsert
            cases upsert
        | some op =>
            simp only [found, mark] at upsert
            cases upsert
            refine ⟨op, ?_, ?_⟩
            · simp only [scanOperations, place, if_neg blocked, found]
              exact List.mem_singleton_self op
            · unfold blockOperation at found
              split at found
              · cases found
                exact decide_eq_true rfl
              · cases found
  | executing cursor quote attemptId =>
      simp only [scanStep, place, mark] at upsert
      cases upsert
      refine ⟨(cursor.execute quote answers.chainValid).operation cursor.route.id, ?_, ?_⟩
      · simp only [scanOperations, place]
        exact List.mem_singleton_self _
      · unfold TradeOutcome.operation
        split <;> exact decide_eq_true rfl
  | routesRead mode routes =>
      simp only [scanStep, place] at upsert
      split at upsert
      · cases upsert
      · rw [free] at upsert
        cases upsert
  | ddPausing | recording =>
      simp only [scanStep, place, ScanCursor.nextRoute, free] at upsert
      cases upsert
  | persisting cursor saved trade =>
      simp only [scanStep, place] at upsert
      cases trade with
      | none =>
          rw [ScanCursor.nextRoute, free] at upsert
          cases upsert
      | some trade => cases upsert
  | _ =>
      simp only [scanStep, place] at upsert
      cases upsert

theorem Bot.step_scan_upsert_changes (taken : bot.step settings event = some after)
    {state : RouteState} (upsert : after.scan.upsert = some (route, state)) :
    bot.scan.upsert = some (route, state) ∨
      ∃ op ∈ bot.operations settings event, op.changes route = true := by
  rcases Bot.step_scan taken with ⟨answers, scanned, moved⟩ | ⟨-, idle⟩ | ⟨-, same⟩
  · rw [moved] at upsert
    rw [Bot.operations_of_scan scanned]
    exact .inr (Bot.scanStep_upsert_changes upsert)
  · rw [idle] at upsert
    cases upsert
  · rw [same] at upsert
    exact .inl upsert

/-- No snapshot of an unchanged route is taken before the start-up is done. -/
theorem RowIntact.step_snapshots {initial : Option RouteState} (orderly : Orderly bot)
    (intact : RowIntact initial route bot)
    (quiet : ∀ op ∈ bot.operations settings event, op.changes route = false)
    (taken : bot.step settings event = some after) {state : RouteState}
    (inFlight : (route, state) ∈ after.upserts) :
    after.boot = .serving ∧ state = after.manager.getRouteState route := by
  have serving : after.boot = .serving := by
    by_contra notServing
    have absent := (orderly.step taken).handlers notServing
    rw [Bot.mem_upserts, absent] at inFlight
    rcases inFlight with upsert | ⟨handler, impossible, -⟩
    · rcases Bot.step_scan_upsert_changes taken upsert with already | ⟨op, member, changes⟩
      · have before := not_serving_of_step taken notServing
        exact before (intact.snapshots state (Bot.mem_upserts.mpr (.inl already))).1
      · rw [quiet op member] at changes
        cases changes
    · cases impossible
  refine ⟨serving, ?_⟩
  rcases Bot.step_upserts taken inFlight with already | snapshot
  · obtain ⟨before, current⟩ := intact.snapshots state already
    rw [current, Bot.step_getRouteState taken]
    rcases orderly.operations_touch quiet with ⟨rows, listed, -⟩ | untouched
    · rw [before] at listed
      cases listed
    · exact (GlobalRiskManager.getRouteState_applyAll untouched).symm
  · exact snapshot

theorem RowIntact.row_of_waiting {initial : Option RouteState} (intact : RowIntact initial route bot)
    (notServing : bot.boot ≠ .serving) (taken : bot.step settings event = some after) :
    after.db.getRouteRuntimeState route = initial := by
  rcases Bot.step_row taken route with ⟨state, committed, -⟩ | ⟨-, kept⟩
  · exact absurd (intact.snapshots state (Bot.commits_mem_upserts committed)).1 notServing
  · rw [kept]
    exact (intact.waiting notServing).2.1

theorem RowIntact.step_waiting {initial : Option RouteState} (orderly : Orderly bot)
    (intact : RowIntact initial route bot)
    (quiet : ∀ op ∈ bot.operations settings event, op.changes route = false)
    (taken : bot.step settings event = some after) (notServing : after.boot ≠ .serving) :
    after.manager.getRouteState route = idleRow ∧
      after.db.getRouteRuntimeState route = initial ∧
      ∀ row, after.awaits route row ↔ initial = some row := by
  have before := not_serving_of_step taken notServing
  obtain ⟨fresh, stored, awaits⟩ := intact.waiting before
  have row := intact.row_of_waiting before taken
  refine ⟨?_, row, ?_⟩
  · rcases orderly.operations_touch quiet with ⟨rows, listed, booted⟩ | untouched
    · exact absurd (Bot.step_boot_hydrates taken listed booted).1 notServing
    · rw [Bot.step_getRouteState taken, GlobalRiskManager.getRouteState_applyAll untouched]
      exact fresh
  · intro pending
    rw [← awaits]
    rcases Bot.step_boot taken with same | ⟨starting, listed, -⟩ | ⟨rows, -, serving, -⟩
    · unfold Bot.awaits
      rw [same]
      cases place : bot.boot with
      | starting => simp only [row, stored]
      | listed rows => rfl
      | serving => rfl
    · unfold Bot.awaits
      rw [listed, starting]
      exact Database.mem_listRouteRuntimeStates
    · exact absurd serving notServing

theorem RowIntact.step_serving {initial : Option RouteState} (orderly : Orderly bot)
    (intact : RowIntact initial route bot)
    (quiet : ∀ op ∈ bot.operations settings event, op.changes route = false)
    (taken : bot.step settings event = some after) (serving : after.boot = .serving) :
    (∃ hydratedAt,
      after.manager.getRouteState route = (initial.getD idleRow).hydrated hydratedAt) ∧
    (after.db.getRouteRuntimeState route = initial ∨
      after.db.getRouteRuntimeState route = some (after.manager.getRouteState route)) := by
  by_cases before : bot.boot = .serving
  · have same : after.manager.getRouteState route = bot.manager.getRouteState route := by
      rw [Bot.step_getRouteState taken]
      rcases orderly.operations_touch quiet with ⟨rows, listed, -⟩ | untouched
      · rw [before] at listed
        cases listed
      · exact GlobalRiskManager.getRouteState_applyAll untouched
    obtain ⟨hydrated, row⟩ := intact.serving before
    rw [same]
    refine ⟨hydrated, ?_⟩
    rcases Bot.step_row taken route with ⟨state, committed, written⟩ | ⟨-, unwritten⟩
    · right
      rw [written, (intact.snapshots state (Bot.commits_mem_upserts committed)).2]
    · rw [unwritten]
      exact row
  · rcases Bot.step_boot taken with kept | ⟨-, listed, -⟩ | ⟨rows, listed, -, booted⟩
    · exact absurd (kept ▸ serving) before
    · rw [listed] at serving
      cases serving
    · obtain ⟨fresh, -, awaits⟩ := intact.waiting before
      obtain ⟨-, hydrated, -⟩ := Bot.step_boot_hydrates taken listed booted
      refine ⟨⟨event.1, ?_⟩, .inl (intact.row_of_waiting before taken)⟩
      rw [hydrated]
      apply hydrateAll_rows _ fresh
      intro row
      rw [← awaits, Bot.awaits, listed]

/-- The state of a route that the process has left alone, against its row. -/
theorem RowIntact.state_cases {initial : Option RouteState} (intact : RowIntact initial route bot) :
    bot.manager.getRouteState route = idleRow ∨
      bot.manager.getRouteState route = bot.db.persistedState route ∨
      ∃ hydratedAt,
        bot.manager.getRouteState route = (bot.db.persistedState route).hydrated hydratedAt := by
  by_cases serving : bot.boot = .serving
  · obtain ⟨⟨hydratedAt, hydrated⟩, stored | stored⟩ := intact.serving serving
    · refine .inr (.inr ⟨hydratedAt, ?_⟩)
      rw [Database.persistedState, stored]
      exact hydrated
    · refine .inr (.inl ?_)
      rw [Database.persistedState, stored]
      rfl
  · exact .inl (intact.waiting serving).1

end Steps

theorem launch_intact (settings : Settings) (db : Database) (started : Instant) (route : String) :
    RowIntact (db.getRouteRuntimeState route) route (.launch settings db started) := by
  refine ⟨?_, ?_, nofun⟩
  · intro state inFlight
    cases inFlight
  · exact fun _ => ⟨rfl, rfl, fun _ => Iff.rfl⟩

section Runs

variable {settings : Settings} {db : Database} {started : Instant} {trace : List (Bot × Event)}
  {bot : Bot} {route : String}

theorem intact_of_run
    (run : Reaches (Bot.step settings) anyStep (.launch settings db started) trace bot) :
    Orderly bot ∧ (changedBy settings route trace = false →
      RowIntact (db.getRouteRuntimeState route) route bot) := by
  refine @Reaches.invariant_trace _ _ _ _ _ _ _ run
    (fun past bot => Orderly bot ∧ (changedBy settings route past = false →
      RowIntact (db.getRouteRuntimeState route) route bot)) ?_ ?_
  · refine ⟨⟨nofun, fun _ => rfl⟩, fun _ => launch_intact settings db started route⟩
  · rintro past before event after ⟨orderly, intact⟩ - taken
    refine ⟨orderly.step taken, fun unchanged => ?_⟩
    simp only [changedBy, List.any_append, List.any_cons, List.any_nil, Bool.or_false,
      Bool.or_eq_false_iff] at unchanged
    obtain ⟨earlier, now⟩ := unchanged
    have quiet : ∀ op ∈ before.operations settings event, op.changes route = false :=
      fun op member => Bool.eq_false_iff.mpr (List.any_eq_false.mp now op member)
    have held := intact earlier
    exact ⟨fun state inFlight => held.step_snapshots orderly quiet taken inFlight,
      held.step_waiting orderly quiet taken, held.step_serving orderly quiet taken⟩

/-- Whatever blocks a route in the old process blocks it in the next one. -/
theorem restarted_blocks
    (run : Reaches (Bot.step settings) anyStep (.launch settings db started) trace bot)
    (persisted : changedBy settings route trace = true →
      bot.db.persistedState route = bot.manager.getRouteState route)
    {created hydratedAt now : Instant} (later : hydratedAt ≤ now) {globalKillSwitch : Bool}
    (blocks : (bot.manager.getRouteState route).blocks settings now = true) :
    ((restarted settings bot.db created hydratedAt globalKillSwitch).getRouteState route).blocks
      settings now = true := by
  rw [restarted_getRouteState]
  have cases : bot.manager.getRouteState route = idleRow ∨
      bot.manager.getRouteState route = bot.db.persistedState route ∨
      ∃ hydratedAt,
        bot.manager.getRouteState route = (bot.db.persistedState route).hydrated hydratedAt := by
    cases changed : changedBy settings route trace with
    | true => exact .inr (.inl (persisted changed).symm)
    | false => exact ((intact_of_run run).2 changed).state_cases
  rcases cases with idle | same | ⟨earlier, hydrated⟩
  · rw [idle] at blocks
    refine RouteState.hydrated_blocks later ?_ ?_ (le_max_left _ _) (le_max_left _ _) blocks
    · intro impossible
      cases impossible
    · intro expiry impossible
      cases impossible
  · rw [same] at blocks
    exact RouteState.hydrated_blocks later id (fun _ => id) (le_max_right _ _) (le_max_right _ _)
      blocks
  · rw [hydrated] at blocks
    refine RouteState.hydrated_blocks later ?_ ?_ ?_ ?_ blocks
    · exact id
    · intro expiry kept
      exact (Option.filter_eq_some_iff.mp kept).1
    · exact le_refl _
    · exact le_refl _

end Runs

/-- If the next process would trade, the old one would have, but for what is in no row. -/
theorem restart_keeps_stored_gates (settings : Settings) (db : Database) (started : Instant)
    (trace : List (Bot × Event)) (bot : Bot)
    (run : Reaches (Bot.step settings) anyStep (.launch settings db started) trace bot)
    (created hydratedAt now : Instant) (later : hydratedAt ≤ now) (input : Evaluation)
    (persisted : changedBy settings input.quote.routeId trace = true →
      bot.db.persistedState input.quote.routeId = bot.manager.getRouteState input.quote.routeId)
    (tradable : ((restarted settings bot.db created hydratedAt
      bot.manager.globalKillSwitch).evaluate settings now input).1.tradable = true) :
    (bot.manager.evaluate settings now input).1.tradable = true ↔
      MemoryPermits settings bot.manager now input.quote := by
  rw [GlobalRiskManager.evaluate_tradable_iff] at tradable ⊢
  obtain ⟨killed, open_, -, stateless⟩ := tradable
  constructor
  · exact fun old => old.2.2.1
  · intro permits
    refine ⟨killed, ?_, permits, stateless⟩
    apply Bool.eq_false_iff.mpr
    intro blocks
    rw [restarted_blocks run persisted later blocks] at open_
    cases open_

/-! ### After one trade, and after three -/

/-- One iteration of the loop with a trade in it, from the control row to the execution's row. -/
def tradeIteration (start : Instant) : List Event :=
  (List.range 13).map fun offset => (start + offset, .scan (Sample.tradingAnswers tradingSettings))

def bootAndTrade (trades : Nat) : List Event :=
  [(0, .boot), (0, .boot)] ++
    (List.range trades).flatMap fun index => tradeIteration (1 + 20 * index)

def tradingInput : Evaluation :=
  { currentMode := .paper, walletBalanceUsdc := 1000, route := Sample.route
    rest := [] : ScanCursor }.evaluation tradingSettings (Sample.tradingAnswers tradingSettings)

def allPersisted (bot : Bot) : Bool :=
  bot.db.routes.all fun route => bot.db.persistedState route.id = bot.manager.getRouteState route.id

def restartTrades (settings : Settings) (bot : Bot) (now : Instant) (input : Evaluation) : Bool :=
  ((restarted settings bot.db now now bot.manager.globalKillSwitch).evaluate settings now
    input).1.tradable

theorem restart_keeps_stored_gates_traded :
    ∃ trace bot, Reaches (Bot.step tradingSettings) anyStep
        (.launch tradingSettings Sample.db 0) trace bot ∧
      changedBy tradingSettings "r" trace = true ∧
      ((bot.manager.evaluate tradingSettings 100 tradingInput).1.tradable = true ↔
        MemoryPermits tradingSettings bot.manager 100 tradingInput.quote) := by
  have found : (follow (Bot.step tradingSettings) (.launch tradingSettings Sample.db 0)
      (bootAndTrade 1)).any
      (fun done => changedBy tradingSettings "r" done.1 &&
        decide (done.2.db.persistedState "r" = done.2.manager.getRouteState "r") &&
          restartTrades tradingSettings done.2 100 tradingInput) = true := by
    decide +kernel
  obtain ⟨trace, bot, run, checked⟩ : ∃ trace bot, Reaches (Bot.step tradingSettings) anyStep
      (.launch tradingSettings Sample.db 0) trace bot ∧ _ := exists_run found fun _ _ _ _ => trivial
  simp only [Bool.and_eq_true, decide_eq_true_eq] at checked
  obtain ⟨⟨changed, persisted⟩, tradable⟩ := checked
  exact ⟨trace, bot, run, changed, restart_keeps_stored_gates tradingSettings Sample.db 0 trace bot
    run 100 100 100 (le_refl 100) tradingInput (fun _ => persisted) tradable⟩

theorem restart_forgets_executions :
    ∃ trace bot, Reaches (Bot.step tradingSettings) anyStep
        (.launch tradingSettings Sample.db 0) trace bot ∧
      (allPersisted bot && restartTrades tradingSettings bot 100 tradingInput &&
        !(bot.manager.evaluate tradingSettings 100 tradingInput).1.tradable) = true :=
  have found : (follow (Bot.step tradingSettings) (.launch tradingSettings Sample.db 0)
      (bootAndTrade 3)).any
      (fun done => allPersisted done.2 && restartTrades tradingSettings done.2 100 tradingInput &&
        !(done.2.manager.evaluate tradingSettings 100 tradingInput).1.tradable) = true := by
    decide +kernel
  exists_run found fun _ _ _ _ => trivial

end ArbitrageBot
