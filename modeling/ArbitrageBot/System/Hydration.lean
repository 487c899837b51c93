/-
`BotRunner.start` hydrates the manager from the persisted rows after it has
created the scan task. Hydration is safe when the loop leaves a route alone as long
as a persisted row of that route has not been applied.
-/

import ArbitrageBot.Library.Transition
import ArbitrageBot.System.ScanLoop

namespace ArbitrageBot

open Transition

/-- A persisted state of a route that hydration has still to apply, as far as it stands now. -/
def Bot.awaits (bot : Bot) (routeId : String) (row : RouteState) : Prop :=
  match bot.boot with
  | .starting => bot.db.getRouteRuntimeState routeId = some row
  | .listed rows => (routeId, row) ∈ rows
  | .serving => False

/-- The steps of `start` and of the scan loop, on a clock that does not run backwards, where the
loop does not evaluate a route that still awaits its row. -/
structure WaitsForRow (bot : Bot) (event : Event) : Prop where
  startOrScan : event.2 = .boot ∨ event.2 = .scanRaise ∨ ∃ answers, event.2 = .scan answers
  clock : bot.clock ≤ event.1
  waits : ∀ answers cursor row, event.2 = .scan answers → bot.scan = .quoting cursor →
    ¬ bot.awaits cursor.route.id row

def failedBeforeHydration (settings : Settings) (routeId : String) (trace : List (Bot × Event)) :
    Bool :=
  trace.any fun entry => entry.1.boot ≠ .serving && entry.1.recordsFatal settings entry.2 routeId

/-! ### Hydration of the listed rows -/

def RouteState.hydrated (row : RouteState) (now : Instant) : RouteState :=
  { row with
    cooldownUntil := row.cooldownUntil.filter fun expiry => now < expiry
    consecutiveFailures := max 0 row.consecutiveFailures
    consecutiveLosses := max 0 row.consecutiveLosses }

section Hydrate

variable {settings : Settings} {now time : Instant} {manager : GlobalRiskManager}
  {routeId : String}

theorem getRouteState_hydrate (row : RouteState) :
    (manager.hydrateRouteState now routeId row).getRouteState routeId = row.hydrated now := by
  have member : routeId ∈ (manager.hydrateRouteState now routeId row).routePaused ↔
      row.paused = true := by
    unfold GlobalRiskManager.hydrateRouteState
    cases paused : row.paused <;> simp
  simp only [GlobalRiskManager.getRouteState, decide_eq_decide.mpr member]
  simp [GlobalRiskManager.hydrateRouteState, RouteState.hydrated]

/-- A state that blocks is outdone by the hydrated row of any state that says no less. -/
theorem RouteState.hydrated_blocks {state row : RouteState} (later : now ≤ time)
    (paused : state.paused = true → row.paused = true)
    (cooldown : ∀ expiry, state.cooldownUntil = some expiry → row.cooldownUntil = some expiry)
    (failures : state.consecutiveFailures ≤ max 0 row.consecutiveFailures)
    (losses : state.consecutiveLosses ≤ max 0 row.consecutiveLosses)
    (blocks : state.blocks settings time = true) :
    (row.hydrated now).blocks settings time = true := by
  simp only [RouteState.blocks, hydrated, Bool.or_eq_true, decide_eq_true_eq] at blocks ⊢
  rcases blocks with ((halted | cooling) | failed) | lost
  · exact .inl (.inl (.inl (paused halted)))
  · obtain ⟨expiry, running, ahead⟩ := (Option.any_eq_true _ _).mp cooling
    have kept : now < expiry := lt_of_le_of_lt later (of_decide_eq_true ahead)
    refine .inl (.inl (.inr ?_))
    simp [cooldown expiry running, Option.filter, kept, of_decide_eq_true ahead]
  · exact .inl (.inr (decide_eq_true (failed.trans failures)))
  · exact .inr (decide_eq_true (lost.trans losses))

theorem hydrate_blocks {row : RouteState} (later : now ≤ time)
    (blocks : row.blocks settings time = true) :
    ((manager.hydrateRouteState now routeId row).getRouteState routeId).blocks settings time =
      true := by
  rw [getRouteState_hydrate]
  exact RouteState.hydrated_blocks later id (fun _ => id) (le_max_right _ _) (le_max_right _ _) blocks

/-- What holds of a route's state and of what each of its rows hydrates to, holds after all rows
are hydrated; one row of the route is enough if there is one. -/
theorem hydrateAll {Holds : RouteState → Prop} {rows : List (String × RouteState)}
    (rowsHold : ∀ row, (routeId, row) ∈ rows → ∀ current : GlobalRiskManager,
      Holds ((current.hydrateRouteState now routeId row).getRouteState routeId))
    (base : Holds (manager.getRouteState routeId) ∨ ∃ row, (routeId, row) ∈ rows) :
    Holds ((manager.applyAll settings now
      (rows.map fun row => .hydrateRouteState row.1 row.2)).getRouteState routeId) := by
  induction rows generalizing manager with
  | nil =>
      rcases base with held | ⟨row, impossible⟩
      · exact held
      · cases impossible
  | cons row rest ih =>
      have restHold : ∀ later, (routeId, later) ∈ rest → ∀ current : GlobalRiskManager,
          Holds ((current.hydrateRouteState now routeId later).getRouteState routeId) :=
        fun later member => rowsHold later (.tail _ member)
      by_cases same : row.1 = routeId
      · apply ih restHold
        left
        subst same
        exact rowsHold row.2 List.mem_cons_self manager
      · have untouched : (RiskOp.hydrateRouteState row.1 row.2).touches routeId = false := by
          simp [RiskOp.touches, same]
        apply ih restHold
        rcases base with held | ⟨found, member⟩
        · left
          rw [RiskOp.getRouteState_apply untouched]
          exact held
        · right
          rcases List.mem_cons.mp member with first | later
          · exact absurd (congrArg Prod.fst first).symm same
          · exact ⟨found, later⟩

end Hydrate

/-! ### The rows still to be applied -/

section Awaiting

variable {settings : Settings} {bot after : Bot} {event : Event} {routeId : String}

theorem awaits_not_serving {row : RouteState} (awaits : bot.awaits routeId row) :
    bot.boot ≠ .serving := by
  intro serving
  unfold Bot.awaits at awaits
  rw [serving] at awaits
  exact awaits

theorem WaitsForRow.commits (permitted : WaitsForRow bot event) {upsert : String × RouteState}
    (committed : bot.commits event = some upsert) : bot.scan.upsert = some upsert := by
  obtain ⟨now, action⟩ := event
  rcases permitted.startOrScan with booted | raised | ⟨answers, scanned⟩
  · change action = .boot at booted
    subst booted
    cases committed
  · change action = .scanRaise at raised
    subst raised
    cases committed
  · change action = .scan answers at scanned
    subst scanned
    exact committed

theorem not_serving_of_step (taken : bot.step settings event = some after)
    (notServing : after.boot ≠ .serving) : bot.boot ≠ .serving := by
  intro serving
  rcases Bot.step_boot taken with same | ⟨starting, -, -⟩ | ⟨rows, listed, -, -⟩
  · exact notServing (same.trans serving)
  · rw [serving] at starting
    cases starting
  · rw [serving] at listed
    cases listed

theorem serving_of_step (taken : bot.step settings event = some after) (other : event.2 ≠ .boot)
    (serving : after.boot = .serving) : bot.boot = .serving := by
  rcases Bot.step_boot taken with same | ⟨-, listed, -⟩ | ⟨rows, -, -, booted⟩
  · exact same ▸ serving
  · rw [listed] at serving
    cases serving
  · exact absurd booted other

/-- What becomes of a route's state: the listed rows are applied, the loop acts on it, or nothing
happens to it. -/
theorem WaitsForRow.state_cases (permitted : WaitsForRow bot event)
    (taken : bot.step settings event = some after) (routeId : String) :
    (∃ rows, bot.boot = .listed rows ∧ after.manager.getRouteState routeId =
      (bot.manager.applyAll settings event.1
        (rows.map fun row => .hydrateRouteState row.1 row.2)).getRouteState routeId) ∨
    (after.boot = .serving → bot.boot = .serving) ∧
      ((∃ answers, after.manager.getRouteState routeId =
        (bot.manager.applyAll settings event.1
          (bot.scanOperations settings answers)).getRouteState routeId) ∨
      after.manager.getRouteState routeId = bot.manager.getRouteState routeId) := by
  rw [Bot.step_getRouteState taken]
  rcases permitted.startOrScan with booted | raised | ⟨answers, scanned⟩
  · rw [Bot.operations, booted]
    cases place : bot.boot with
    | listed rows => exact .inl ⟨rows, rfl, rfl⟩
    | serving => exact .inr ⟨fun _ => rfl, .inr rfl⟩
    | starting =>
        refine .inr ⟨fun serving => ?_, .inr rfl⟩
        rcases Bot.step_boot taken with same | ⟨-, listed, -⟩ | ⟨rows, listed, -, -⟩
        · exact place ▸ same ▸ serving
        · rw [listed] at serving
          cases serving
        · rw [place] at listed
          cases listed
  · rw [Bot.operations, raised]
    exact .inr ⟨serving_of_step taken (by simp [raised]), .inr rfl⟩
  · rw [Bot.operations_of_scan scanned]
    exact .inr ⟨serving_of_step taken (by simp [scanned]), .inl ⟨answers, rfl⟩⟩

theorem awaits_of_step (permitted : WaitsForRow bot event)
    (taken : bot.step settings event = some after) {row : RouteState}
    (awaits : after.awaits routeId row) :
    bot.awaits routeId row ∨ bot.scan.upsert = some (routeId, row) := by
  rcases Bot.step_boot taken with same | ⟨starting, listed, sameDb⟩ | ⟨rows, -, serving, -⟩
  · unfold Bot.awaits at awaits ⊢
    rw [same] at awaits
    cases place : bot.boot with
    | starting =>
        simp only [place] at awaits ⊢
        rcases Bot.step_row taken routeId with ⟨state, committed, written⟩ | ⟨-, kept⟩
        · rw [written] at awaits
          cases awaits
          exact .inr (permitted.commits committed)
        · rw [kept] at awaits
          exact .inl awaits
    | listed rows =>
        simp only [place] at awaits
        exact .inl awaits
    | serving => simp only [place] at awaits
  · left
    unfold Bot.awaits at awaits ⊢
    rw [listed] at awaits
    rw [starting]
    exact Database.mem_listRouteRuntimeStates.mp awaits
  · exact absurd serving (awaits_not_serving awaits)

theorem step_awaits (permitted : WaitsForRow bot event)
    (taken : bot.step settings event = some after) {row : RouteState}
    (awaits : bot.awaits routeId row) (notServing : after.boot ≠ .serving)
    (untouched : ∀ state, bot.scan.upsert ≠ some (routeId, state)) :
    after.awaits routeId row := by
  rcases Bot.step_boot taken with same | ⟨starting, listed, sameDb⟩ | ⟨rows, -, serving, -⟩
  · unfold Bot.awaits at awaits ⊢
    rw [same]
    cases place : bot.boot with
    | starting =>
        simp only [place] at awaits ⊢
        rcases Bot.step_row taken routeId with ⟨state, committed, -⟩ | ⟨-, kept⟩
        · exact absurd (permitted.commits committed) (untouched state)
        · rw [kept]
          exact awaits
    | listed rows =>
        simp only [place] at awaits
        exact awaits
    | serving => simp only [place] at awaits
  · unfold Bot.awaits at awaits ⊢
    rw [listed]
    rw [starting] at awaits
    exact Database.mem_listRouteRuntimeStates.mpr awaits
  · exact absurd serving notServing

theorem WaitsForRow.verdict (permitted : WaitsForRow bot event) {decision : OpportunityDecision}
    (given : bot.verdict settings event = some (routeId, decision)) (row : RouteState) :
    ¬ bot.awaits routeId row := by
  obtain ⟨answers, cursor, asked, place, rfl, -⟩ := Bot.verdict_some given
  exact permitted.waits answers cursor row asked place

end Awaiting

/-! ### A blocking row keeps blocking -/

theorem RouteState.blocks_earlier {settings : Settings} {row : RouteState} {earlier later : Instant}
    (ordered : earlier ≤ later) (blocks : row.blocks settings later = true) :
    row.blocks settings earlier = true := by
  simp only [RouteState.blocks, Bool.or_eq_true] at blocks ⊢
  rcases blocks with ((paused | cooling) | failures) | losses
  · exact .inl (.inl (.inl paused))
  · obtain ⟨expiry, running, ahead⟩ := (Option.any_eq_true _ _).mp cooling
    refine .inl (.inl (.inr ((Option.any_eq_true _ _).mpr ⟨expiry, running, ?_⟩)))
    exact decide_eq_true (lt_of_le_of_lt ordered (of_decide_eq_true ahead))
  · exact .inl (.inr failures)
  · exact .inr losses

theorem blocks_of_paused {settings : Settings} {now : Instant} {state : RouteState}
    (paused : state.paused = true) : state.blocks settings now = true := by
  simp only [RouteState.blocks, paused, Bool.true_or]

section BootRow

variable {settings : Settings} {bot after : Bot} {event : Event} {routeId : String}
  {row : RouteState}

structure RowGuards (settings : Settings) (routeId : String) (row : RouteState) (bot : Bot) :
    Prop where
  waiting : bot.boot ≠ .serving →
    bot.awaits routeId row ∧ (∀ other, bot.awaits routeId other → other = row) ∧
      bot.scan.trading ≠ some routeId ∧ bot.scan.failing ≠ some routeId ∧
      ∀ state, bot.scan.upsert ≠ some (routeId, state)
  applied : bot.boot = .serving → ∀ time, bot.clock ≤ time → row.blocks settings time = true →
    (bot.manager.getRouteState routeId).blocks settings time = true
  idle : ∀ time, bot.clock ≤ time → row.blocks settings time = true →
    bot.scan.trading ≠ some routeId

theorem RowGuards.verdict (guards : RowGuards settings routeId row bot)
    (permitted : WaitsForRow bot event) {decision : OpportunityDecision}
    (given : bot.verdict settings event = some (routeId, decision)) :
    bot.boot = .serving ∧ (row.blocks settings event.1 = true → decision.tradable = false) := by
  have serving : bot.boot = .serving := by
    by_contra notServing
    exact permitted.verdict given row (guards.waiting notServing).1
  exact ⟨serving, fun blocks =>
    Bot.verdict_blocked given (guards.applied serving event.1 permitted.clock blocks)⟩

theorem RowGuards.step_idle (guards : RowGuards settings routeId row bot)
    (permitted : WaitsForRow bot event) (taken : bot.step settings event = some after)
    {time : Instant} (later : after.clock ≤ time) (blocks : row.blocks settings time = true) :
    after.scan.trading ≠ some routeId := by
  rw [Bot.step_clock taken] at later
  intro trading
  rcases Bot.step_trading taken trading with before | ⟨decision, given, tradable⟩
  · exact guards.idle time (le_trans permitted.clock later) blocks before
  · have blocked := (guards.verdict permitted given).2 (RouteState.blocks_earlier later blocks)
    rw [tradable] at blocked
    cases blocked

theorem RowGuards.step_waiting (guards : RowGuards settings routeId row bot)
    (permitted : WaitsForRow bot event) (taken : bot.step settings event = some after)
    (notServing : after.boot ≠ .serving) :
    after.awaits routeId row ∧ (∀ other, after.awaits routeId other → other = row) ∧
      after.scan.trading ≠ some routeId ∧ after.scan.failing ≠ some routeId ∧
      ∀ state, after.scan.upsert ≠ some (routeId, state) := by
  have before := not_serving_of_step taken notServing
  obtain ⟨awaits, unique, notTrading, notFailing, noUpsert⟩ := guards.waiting before
  refine ⟨step_awaits permitted taken awaits notServing noUpsert, ?_, ?_, ?_, ?_⟩
  · intro other still
    rcases awaits_of_step permitted taken still with earlier | committed
    · exact unique other earlier
    · exact absurd committed (noUpsert other)
  · intro trading
    rcases Bot.step_trading taken trading with already | ⟨decision, given, -⟩
    · exact notTrading already
    · exact before (guards.verdict permitted given).1
  · intro failing
    rcases Bot.step_failing taken failing with already | ⟨decision, given, -⟩
    · exact notFailing already
    · exact before (guards.verdict permitted given).1
  · intro state upsert
    rcases Bot.step_scan_upsert taken upsert with ⟨already, -⟩ | ⟨-, trading | failing⟩
    · exact noUpsert state already
    · exact notTrading trading
    · exact notFailing failing

theorem applyAll_scan_blocks {answers : ScanAnswers} {now time : Instant}
    (idle : bot.scan.trading ≠ some routeId)
    (blocks : (bot.manager.getRouteState routeId).blocks settings time = true) :
    ((bot.manager.applyAll settings now (bot.scanOperations settings answers)).getRouteState
      routeId).blocks settings time = true := by
  refine @GlobalRiskManager.applyAll_preserves settings now
    (fun current => (current.getRouteState routeId).blocks settings time = true) _ _ blocks ?_
  intro op member current held
  by_cases touched : op.touches routeId = true
  · rcases Bot.scan_operation member with ⟨paused, rfl⟩ |
      ⟨route, category, reason, rfl, fatal, -⟩ | ⟨route, realizedPnl, rfl, trading⟩
    · cases touched
    · have same : route = routeId := of_decide_eq_true touched
      subst same
      exact blocks_of_paused (GlobalRiskManager.getRouteState_markFailure_fatal fatal).1
    · have same : route = routeId := of_decide_eq_true touched
      subst same
      exact absurd trading idle
  · rw [RiskOp.getRouteState_apply (Bool.eq_false_iff.mpr touched)]
    exact held

theorem RowGuards.step_applied (guards : RowGuards settings routeId row bot)
    (permitted : WaitsForRow bot event) (taken : bot.step settings event = some after)
    (serving : after.boot = .serving) {time : Instant} (later : after.clock ≤ time)
    (blocks : row.blocks settings time = true) :
    (after.manager.getRouteState routeId).blocks settings time = true := by
  rw [Bot.step_clock taken] at later
  have ready := le_trans permitted.clock later
  rcases permitted.state_cases taken routeId with ⟨rows, listed, hydrated⟩ | ⟨before, change⟩
  · have notServing : bot.boot ≠ .serving := by
      rw [listed]
      nofun
    obtain ⟨awaits, unique, -⟩ := guards.waiting notServing
    have pending : ∀ other, (routeId, other) ∈ rows → other = row := by
      intro other member
      apply unique
      rw [Bot.awaits, listed]
      exact member
    rw [hydrated]
    refine @hydrateAll settings _ _ routeId (fun state => state.blocks settings time = true) rows
      ?_ (.inr ⟨row, ?_⟩)
    · intro other member current
      rw [pending other member]
      exact hydrate_blocks later blocks
    · rw [Bot.awaits, listed] at awaits
      exact awaits
  · have held := guards.applied (before serving) time ready blocks
    rcases change with ⟨answers, scanned⟩ | same
    · rw [scanned]
      exact applyAll_scan_blocks (guards.idle time ready blocks) held
    · rw [same]
      exact held

theorem RowGuards.step (guards : RowGuards settings routeId row bot)
    (permitted : WaitsForRow bot event) (taken : bot.step settings event = some after) :
    RowGuards settings routeId row after where
  waiting notServing := guards.step_waiting permitted taken notServing
  applied serving _ later blocks := guards.step_applied permitted taken serving later blocks
  idle _ later blocks := guards.step_idle permitted taken later blocks

end BootRow

/-! ### A fatal failure recorded before hydration stays -/

section EarlyFailure

variable {settings : Settings} {bot after : Bot} {event : Event} {routeId : String}
  {past : List (Bot × Event)}

structure FailureKept (settings : Settings) (routeId : String) (past : List (Bot × Event))
    (bot : Bot) : Prop where
  unrecorded : bot.boot ≠ .serving →
    bot.scan.trading = some routeId ∨ bot.scan.failing = some routeId →
    ∀ row, ¬ bot.awaits routeId row
  paused : failedBeforeHydration settings routeId past = true →
    (bot.manager.getRouteState routeId).paused = true
  rows : failedBeforeHydration settings routeId past = true →
    ∀ row, bot.awaits routeId row → row.paused = true
  upsert : failedBeforeHydration settings routeId past = true → bot.boot ≠ .serving →
    ∀ state, bot.scan.upsert = some (routeId, state) → state.paused = true

theorem FailureKept.step_unrecorded (kept : FailureKept settings routeId past bot)
    (permitted : WaitsForRow bot event) (taken : bot.step settings event = some after)
    (notServing : after.boot ≠ .serving)
    (engaged : after.scan.trading = some routeId ∨ after.scan.failing = some routeId)
    (row : RouteState) : ¬ after.awaits routeId row := by
  intro awaits
  have before := not_serving_of_step taken notServing
  have cause : (bot.scan.trading = some routeId ∨ bot.scan.failing = some routeId) ∨
      ∃ decision, bot.verdict settings event = some (routeId, decision) := by
    rcases engaged with trading | failing
    · rcases Bot.step_trading taken trading with already | ⟨decision, given, -⟩
      · exact .inl (.inl already)
      · exact .inr ⟨decision, given⟩
    · rcases Bot.step_failing taken failing with already | ⟨decision, given, -⟩
      · exact .inl (.inr already)
      · exact .inr ⟨decision, given⟩
  rcases awaits_of_step permitted taken awaits with earlier | committed
  · rcases cause with already | ⟨decision, given⟩
    · exact kept.unrecorded before already row earlier
    · exact permitted.verdict given row earlier
  · rcases cause with already | ⟨decision, given⟩
    · rw [Bot.upsert_none_of_engaged already] at committed
      cases committed
    · obtain ⟨answers, cursor, -, place, -⟩ := Bot.verdict_some given
      rw [place] at committed
      cases committed

theorem applyAll_scan_paused {answers : ScanAnswers} {now : Instant}
    (paused : (bot.manager.getRouteState routeId).paused = true) :
    ((bot.manager.applyAll settings now (bot.scanOperations settings answers)).getRouteState
      routeId).paused = true := by
  refine @GlobalRiskManager.applyAll_preserves settings now
    (fun current => (current.getRouteState routeId).paused = true) _ _ paused ?_
  intro op member current held
  by_cases touched : op.touches routeId = true
  · rcases Bot.scan_operation member with ⟨paused, rfl⟩ |
      ⟨route, category, reason, rfl, fatal, -⟩ | ⟨route, realizedPnl, rfl, trading⟩
    · cases touched
    · have same : route = routeId := of_decide_eq_true touched
      subst same
      exact (GlobalRiskManager.getRouteState_markFailure_fatal fatal).1
    · simpa [GlobalRiskManager.getRouteState, RiskOp.apply, GlobalRiskManager.markSuccess]
        using held
  · rw [RiskOp.getRouteState_apply (Bool.eq_false_iff.mpr touched)]
    exact held

/-- Recording a fatal failure is a step of the loop, with a verdict for the route in hand, and it
pauses the route. -/
theorem recordsFatal_paused (permitted : WaitsForRow bot event)
    (taken : bot.step settings event = some after)
    (recorded : bot.recordsFatal settings event routeId = true) :
    (bot.scan.trading = some routeId ∨ bot.scan.failing = some routeId) ∧
      (after.manager.getRouteState routeId).paused = true := by
  rcases permitted.startOrScan with booted | raised | ⟨answers, scanned⟩
  · obtain ⟨op, member, fails⟩ := List.any_eq_true.mp recorded
    rw [Bot.operations, booted] at member
    dsimp only at member
    split at member
    · obtain ⟨row, -, rfl⟩ := List.mem_map.mp member
      cases fails
    · cases member
  · rw [Bot.recordsFatal, Bot.operations, raised] at recorded
    cases recorded
  · obtain ⟨-, -, -, -, engaged⟩ := Bot.operations_of_recordsFatal scanned recorded
    exact ⟨engaged, (Bot.step_scan_recordsFatal scanned taken recorded).1⟩

theorem FailureKept.step_paused (kept : FailureKept settings routeId past bot)
    (permitted : WaitsForRow bot event) (taken : bot.step settings event = some after)
    (failed : failedBeforeHydration settings routeId past = true) :
    (after.manager.getRouteState routeId).paused = true := by
  have paused := kept.paused failed
  rcases permitted.state_cases taken routeId with ⟨rows, listed, hydrated⟩ |
    ⟨-, ⟨answers, scanned⟩ | same⟩
  · rw [hydrated]
    refine @hydrateAll settings _ _ routeId (fun state => state.paused = true) rows ?_ (.inl paused)
    intro row member current
    rw [getRouteState_hydrate]
    apply kept.rows failed row
    rw [Bot.awaits, listed]
    exact member
  · rw [scanned]
    exact applyAll_scan_paused paused
  · rw [same]
    exact paused

theorem FailureKept.step (kept : FailureKept settings routeId past bot)
    (permitted : WaitsForRow bot event) (taken : bot.step settings event = some after) :
    FailureKept settings routeId (past ++ [(bot, event)]) after := by
  -- either the failure is in the past, or this step records it
  have cases : ∀ {goal : Prop},
      failedBeforeHydration settings routeId (past ++ [(bot, event)]) = true →
      (failedBeforeHydration settings routeId past = true → goal) →
      (bot.boot ≠ .serving → bot.recordsFatal settings event routeId = true → goal) → goal := by
    intro goal failed old new
    rw [failedBeforeHydration, List.any_append, Bool.or_eq_true] at failed
    rcases failed with before | now
    · exact old before
    · simp only [List.any_cons, List.any_nil, Bool.or_false, Bool.and_eq_true,
        decide_eq_true_eq] at now
      exact new now.1 now.2
  refine ⟨fun notServing => kept.step_unrecorded permitted taken notServing, fun failed => ?_,
    fun failed row awaits => ?_, fun failed notServing state upsert => ?_⟩
  · exact cases failed (kept.step_paused permitted taken)
      fun _ recorded => (recordsFatal_paused permitted taken recorded).2
  · refine cases failed (fun old => ?_) fun early recorded => ?_
    · rcases awaits_of_step permitted taken awaits with earlier | committed
      · exact kept.rows old row earlier
      · exact kept.upsert old (not_serving_of_step taken (awaits_not_serving awaits)) row committed
    · have engaged := (recordsFatal_paused permitted taken recorded).1
      rcases awaits_of_step permitted taken awaits with earlier | committed
      · exact absurd earlier (kept.unrecorded early engaged row)
      · rw [Bot.upsert_none_of_engaged engaged] at committed
        cases committed
  · have pausedAfter : (after.manager.getRouteState routeId).paused = true :=
      cases failed (kept.step_paused permitted taken)
        fun _ recorded => (recordsFatal_paused permitted taken recorded).2
    rcases Bot.step_scan_upsert taken upsert with ⟨already, -⟩ | ⟨snapshot, -⟩
    · refine cases failed (fun old => ?_) fun early recorded => ?_
      · exact kept.upsert old (not_serving_of_step taken notServing) state already
      · rw [Bot.upsert_none_of_engaged (recordsFatal_paused permitted taken recorded).1] at already
        cases already
    · rw [snapshot]
      exact pausedAfter

end EarlyFailure

/-- While the loop leaves every route alone that still awaits its row: a route whose row blocks it
gets no tradable verdict, and a route that fails fatally before hydration is done stays paused. -/
theorem hydration_safe (settings : Settings) (start : Bot) (starting : start.boot = .starting)
    (idle : start.scan = .idle) (trace : List (Bot × Event)) (bot : Bot)
    (run : Reaches (Bot.step settings) WaitsForRow start trace bot) :
    (∀ entry ∈ trace, ∀ routeId row decision,
      start.db.getRouteRuntimeState routeId = some row →
      row.blocks settings entry.2.1 = true →
      entry.1.verdict settings entry.2 = some (routeId, decision) →
      decision.tradable = false) ∧
    ∀ routeId, failedBeforeHydration settings routeId trace = true → bot.boot = .serving →
      routeId ∈ bot.manager.routePaused := by
  constructor
  · intro entry member routeId row decision persisted blocks given
    obtain ⟨front, reached, permitted⟩ := run.of_mem member
    have base : RowGuards settings routeId row start := by
      refine ⟨fun _ => ⟨?_, ?_, ?_, ?_, ?_⟩, fun serving => ?_, fun _ _ _ => ?_⟩
      · rw [Bot.awaits, starting]
        exact persisted
      · intro other awaits
        rw [Bot.awaits, starting] at awaits
        rw [persisted] at awaits
        exact (Option.some.inj awaits).symm
      · rw [idle]
        nofun
      · rw [idle]
        nofun
      · rw [idle]
        nofun
      · rw [starting] at serving
        cases serving
      · rw [idle]
        nofun
    have guards : RowGuards settings routeId row entry.1 :=
      reached.invariant base fun _ _ _ before allowed taken => before.step allowed taken
    exact (guards.verdict permitted given).2 blocks
  · intro routeId failed _serving
    have base : FailureKept settings routeId [] start := by
      have none : ¬ failedBeforeHydration settings routeId [] = true := nofun
      refine ⟨fun _ engaged => ?_, fun failed => absurd failed none,
        fun failed => absurd failed none, fun failed => absurd failed none⟩
      rw [idle] at engaged
      rcases engaged with impossible | impossible <;> cases impossible
    have kept : FailureKept settings routeId trace bot :=
      run.invariant_trace base fun _ _ _ _ before allowed taken => before.step allowed taken
    exact of_decide_eq_true (kept.paused failed)

/-! ### A run that waits, and the race -/

def idleRow : RouteState :=
  { paused := false, cooldownUntil := none, lastFailureCategory := "", lastFailureReason := ""
    lastFailureFatal := false, lastFailureAt := none, consecutiveFailures := 0
    consecutiveLosses := 0 }

def Sample.startedWith (row : RouteState) : Bot :=
  { Sample.started with db := Sample.db.upsertRouteRuntimeState "r" row }

def waitsTest (entry : Bot × Event) : Bool :=
  entry.1.clock ≤ entry.2.1 &&
    match entry.2.2, entry.1.scan with
    | .boot, _ | .scanRaise, _ => true
    | .scan _, .quoting _ => entry.1.boot = .serving
    | .scan _, _ => true
    | _, _ => false

theorem waitsForRow_of_test {bot : Bot} {event : Event} (passes : waitsTest (bot, event) = true) :
    WaitsForRow bot event := by
  obtain ⟨now, action⟩ := event
  simp only [waitsTest, Bool.and_eq_true, decide_eq_true_eq] at passes
  refine ⟨?_, passes.1, ?_⟩
  · cases action with
    | scan answers => exact .inr (.inr ⟨answers, rfl⟩)
    | scanRaise => exact .inr (.inl rfl)
    | boot => exact .inl rfl
    | _ => cases passes.2
  · intro answers cursor row asked place awaits
    change action = .scan answers at asked
    subst asked
    rw [place] at passes
    exact awaits_not_serving awaits (of_decide_eq_true passes.2)

theorem hydration_safe_paused :
    ∃ trace bot, Reaches (Bot.step shipped) WaitsForRow
        (Sample.startedWith { idleRow with paused := true }) trace bot ∧
      (trace.any fun entry => (entry.1.verdict shipped entry.2).isSome) = true ∧
      ∀ entry ∈ trace, ∀ decision, entry.1.verdict shipped entry.2 = some ("r", decision) →
        decision.tradable = false := by
  have found : (follow (Bot.step shipped) (Sample.startedWith { idleRow with paused := true })
      ([(0, .boot), (1, .boot)] ++ Sample.toEvaluation ++ [(5, .scan Sample.answers)])).any (fun done =>
        done.1.all waitsTest && done.1.any fun entry => (entry.1.verdict shipped entry.2).isSome) =
        true := by
    decide +kernel
  obtain ⟨trace, bot, run, checked⟩ := exists_run found fun done checked entry member =>
    waitsForRow_of_test (List.all_eq_true.mp (Bool.and_eq_true_iff.mp checked).1 entry member)
  exact ⟨trace, bot, run, (Bool.and_eq_true_iff.mp checked).2,
    fun entry member decision given => (hydration_safe shipped _ rfl rfl trace bot run).1 entry
      member "r" { idleRow with paused := true } decision rfl rfl given⟩

def failThenHydrate : List Event :=
  (0, .boot) :: Sample.toFailure ++ [(7, .scan {}), (8, .boot)]

/-- A route persisted as paused is tradable before hydration, and a fatal failure recorded before
hydration is lost by it. -/
theorem hydration_race :
    (∃ trace bot, Reaches (Bot.step shipped) anyStep
        (Sample.startedWith { idleRow with paused := true }) trace bot ∧
      bot.trades shipped (5, .scan Sample.answers) = true) ∧
    ∃ trace bot, Reaches (Bot.step shipped) anyStep (Sample.startedWith idleRow) trace bot ∧
      (failedBeforeHydration shipped "r" trace && bot.boot = .serving &&
        "r" ∉ bot.manager.routePaused) = true := by
  have early : (follow (Bot.step shipped) (Sample.startedWith { idleRow with paused := true })
      Sample.toEvaluation).any (fun done => done.2.trades shipped (5, .scan Sample.answers)) = true := by
    decide +kernel
  have lost : (follow (Bot.step shipped) (Sample.startedWith idleRow) failThenHydrate).any
      (fun done => failedBeforeHydration shipped "r" done.1 && done.2.boot = .serving &&
        "r" ∉ done.2.manager.routePaused) = true := by
    decide +kernel
  exact ⟨exists_run early fun _ _ _ _ => trivial, exists_run lost fun _ _ _ _ => trivial⟩

end ArbitrageBot
