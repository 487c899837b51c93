/-
What a verdict depends on. Calls on the manager that are about other strategies, routes, pairs and
venues never change it, and neither does an evaluation, though it prunes: of a history only the
calls about the quote's own scopes count, in their order.
-/

import ArbitrageBot.Library.SlidingWindow
import ArbitrageBot.Library.Unwinding
import ArbitrageBot.Risk.Recovery

namespace ArbitrageBot

open GuardChain SlidingWindow Unwinding

/-- The call has a scope of the quote. -/
def RiskOp.concerns (quote : RouteQuote) : RiskOp → Bool
  | .setGlobalKill _ => true
  | .pauseStrategy strategy | .resumeStrategy strategy => strategy = quote.strategy
  | .pausePair pair | .resumePair pair => pair = quote.pair
  | .pauseVenue venue | .resumeVenue venue => venue ∈ quote.venueTokens
  | .pauseRoute routeId | .resumeRoute routeId | .markFailure routeId _ _
  | .markSuccess routeId _ | .hydrateRouteState routeId _ => routeId = quote.routeId
  | .clearCooldown none | .clearCooldown (some "") => true
  | .clearCooldown (some routeId) => routeId = quote.routeId

def ManagerEvent.concerns (quote : RouteQuote) : ManagerEvent → Bool
  | .operate op => op.concerns quote
  | .evaluate _ => false

/-- The manager after some calls; every call goes through. -/
def GlobalRiskManager.after (settings : Settings) (manager : GlobalRiskManager)
    (calls : List (Instant × ManagerEvent)) : GlobalRiskManager :=
  calls.foldl (fun current called => (managerStep settings current called).getD current) manager

/-- No verdict on the quote tells the managers apart from now on. -/
structure SameVerdicts (quote : RouteQuote) (now : Instant) (first second : GlobalRiskManager) :
    Prop where
  killed : first.globalKillSwitch = second.globalKillSwitch
  strategy : quote.strategy ∈ first.strategyPaused ↔ quote.strategy ∈ second.strategyPaused
  route : quote.routeId ∈ first.routePaused ↔ quote.routeId ∈ second.routePaused
  pair : quote.pair ∈ first.pairPaused ↔ quote.pair ∈ second.pairPaused
  venues : ∀ venue ∈ quote.venueTokens, venue ∈ first.venuePaused ↔ venue ∈ second.venuePaused
  cooldown : first.cooldownUntil quote.routeId = second.cooldownUntil quote.routeId
  stats : ∀ later, now ≤ later → (first.routeStats quote.routeId).pruneExecutions later =
    (second.routeStats quote.routeId).pruneExecutions later

section Verdicts

variable {settings : Settings} {quote : RouteQuote} {now later : Instant}
  {first second third : GlobalRiskManager}

theorem SameVerdicts.refl (quote : RouteQuote) (now : Instant) (manager : GlobalRiskManager) :
    SameVerdicts quote now manager manager :=
  ⟨rfl, Iff.rfl, Iff.rfl, Iff.rfl, fun _ _ => Iff.rfl, rfl, fun _ _ => rfl⟩

theorem SameVerdicts.mono (same : SameVerdicts quote now first second) (moved : now ≤ later) :
    SameVerdicts quote later first second :=
  { same with stats := fun time after => same.stats time (moved.trans after) }

theorem pruneExecutions_pruneExecutions {stats : RouteStats} (moved : now ≤ later) :
    (stats.pruneExecutions now).pruneExecutions later = stats.pruneExecutions later := by
  have pruned := prune_prune (sub_le_sub_right moved (minutes 10)) stats.executions
  unfold prune at pruned
  simp only [RouteStats.pruneExecutions, pruned]

/-- A chain that stops early does not get to what follows. -/
theorem verdict_append_of_fails {front rest other : List (Guard String String)}
    (stops : ¬ front.all Guard.passes = true) :
    verdict (front ++ rest) = verdict (front ++ other) := by
  obtain ⟨guard, member, fails⟩ : ∃ guard ∈ front, guard.passes = false := by
    simpa using stops
  rw [verdict, verdict, firstFailure_append_of_fails member fails,
    firstFailure_append_of_fails member fails, recorded_append_of_fails member fails,
    recorded_append_of_fails member fails]

theorem SameVerdicts.pauseGuards (same : SameVerdicts quote now first second) :
    ArbitrageBot.pauseGuards first quote = ArbitrageBot.pauseGuards second quote := by
  have venues : (quote.venueTokens.all fun venue => venue ∉ first.venuePaused) =
      quote.venueTokens.all fun venue => venue ∉ second.venuePaused := by
    rw [Bool.eq_iff_iff, List.all_eq_true, List.all_eq_true]
    simp only [decide_eq_true_eq]
    exact forall₂_congr fun venue listed => not_congr (same.venues venue listed)
  simp only [ArbitrageBot.pauseGuards, same.killed, same.strategy, same.route, same.pair, venues]

/-- Managers that look alike say the same. -/
theorem SameVerdicts.evaluate {input : Evaluation}
    (same : SameVerdicts input.quote now first second) :
    (first.evaluate settings now input).1 = (second.evaluate settings now input).1 := by
  have early : earlyGuards settings first input = earlyGuards settings second input := by
    rw [earlyGuards, earlyGuards, same.pauseGuards]
  simp only [GlobalRiskManager.evaluate, evaluateGuards, GlobalRiskManager.afterEvaluate, early]
  by_cases passes : (earlyGuards settings second input).all Guard.passes = true
  · have routes : routeGuards settings (first.pruneRoute now input.quote.routeId) now
        input.quote.routeId =
          routeGuards settings (second.pruneRoute now input.quote.routeId) now
            input.quote.routeId := by
      simp only [routeGuards, GlobalRiskManager.pruneRoute, Function.update_self,
        same.stats now le_rfl, same.cooldown]
    rw [if_pos passes, if_pos passes, routes]
  · rw [List.append_assoc, List.append_assoc]
    exact verdict_append_of_fails passes

end Verdicts

/-! ### One call -/

section Calls

variable {settings : Settings} {quote : RouteQuote} {now : Instant}
  {manager first second : GlobalRiskManager}

theorem insert_of_ne {wanted other : String} {paused : Finset String} (apart : other ≠ wanted) :
    wanted ∈ insert other paused ↔ wanted ∈ paused := by
  rw [Finset.mem_insert]
  exact or_iff_right (Ne.symm apart)

theorem erase_of_ne {wanted other : String} {paused : Finset String} (apart : other ≠ wanted) :
    wanted ∈ paused.erase other ↔ wanted ∈ paused := by
  rw [Finset.mem_erase]
  exact and_iff_right (Ne.symm apart)

theorem insert_congr {wanted other : String} {paused others : Finset String}
    (same : wanted ∈ paused ↔ wanted ∈ others) :
    wanted ∈ insert other paused ↔ wanted ∈ insert other others := by
  rw [Finset.mem_insert, Finset.mem_insert, same]

theorem erase_congr {wanted other : String} {paused others : Finset String}
    (same : wanted ∈ paused ↔ wanted ∈ others) :
    wanted ∈ paused.erase other ↔ wanted ∈ others.erase other := by
  rw [Finset.mem_erase, Finset.mem_erase, same]

theorem stats_of_ne {stats : String → RouteStats} {written : RouteStats} {routeId : String}
    (apart : quote.routeId ≠ routeId) (later : Instant) :
    (Function.update stats routeId written quote.routeId).pruneExecutions later =
      (stats quote.routeId).pruneExecutions later := by
  rw [Function.update_of_ne apart]

/-- Only the daily result changes with the day. -/
theorem resetDailyIfNeeded_eq (manager : GlobalRiskManager) (now : Instant) :
    ∃ anchor pnl, manager.resetDailyIfNeeded now =
      { manager with dayAnchor := anchor, dailyRealizedPnl := pnl } := by
  unfold GlobalRiskManager.resetDailyIfNeeded
  split
  · exact ⟨_, _, rfl⟩
  · exact ⟨manager.dayAnchor, manager.dailyRealizedPnl, rfl⟩

/-- A call about other scopes is not seen. -/
theorem unseen {op : RiskOp} (other : op.concerns quote = false) :
    SameVerdicts quote now (op.apply settings now manager) manager := by
  have unchanged := SameVerdicts.refl quote now manager
  cases op with
  | setGlobalKill paused => cases other
  | pauseStrategy strategy =>
      exact { unchanged with strategy := insert_of_ne (of_decide_eq_false other) }
  | resumeStrategy strategy =>
      exact { unchanged with strategy := erase_of_ne (of_decide_eq_false other) }
  | pauseRoute routeId => exact { unchanged with route := insert_of_ne (of_decide_eq_false other) }
  | resumeRoute routeId => exact { unchanged with route := erase_of_ne (of_decide_eq_false other) }
  | pausePair pair => exact { unchanged with pair := insert_of_ne (of_decide_eq_false other) }
  | resumePair pair => exact { unchanged with pair := erase_of_ne (of_decide_eq_false other) }
  | pauseVenue venue =>
      have unlisted : venue ∉ quote.venueTokens := of_decide_eq_false other
      exact { unchanged with
        venues := fun wanted listed => insert_of_ne fun equal => unlisted (equal ▸ listed) }
  | resumeVenue venue =>
      have unlisted : venue ∉ quote.venueTokens := of_decide_eq_false other
      exact { unchanged with
        venues := fun wanted listed => erase_of_ne fun equal => unlisted (equal ▸ listed) }
  | clearCooldown routeId =>
      simp only [RiskOp.apply, GlobalRiskManager.clearCooldown]
      split
      · cases other
      · cases other
      · rename_i target named
        have apart : quote.routeId ≠ target := by
          rintro rfl
          rw [RiskOp.concerns] at other
          · simp at other
          · exact named
        exact { unchanged with
          cooldown := Function.update_of_ne apart _ _
          stats := fun later _ => stats_of_ne apart later }
  | markFailure routeId category reason =>
      have apart : quote.routeId ≠ routeId := Ne.symm (of_decide_eq_false other)
      refine { unchanged with route := ?_, cooldown := ?_, stats := ?_ }
      · simp only [RiskOp.apply, GlobalRiskManager.markFailure]
        split
        · exact insert_of_ne apart.symm
        · exact Iff.rfl
      · exact Function.update_of_ne apart _ _
      · exact fun later _ => stats_of_ne apart later
  | markSuccess routeId realizedPnl =>
      have apart : quote.routeId ≠ routeId := Ne.symm (of_decide_eq_false other)
      obtain ⟨anchor, pnl, reset⟩ := resetDailyIfNeeded_eq manager now
      simp only [RiskOp.apply, GlobalRiskManager.markSuccess, reset]
      exact { unchanged with stats := fun later _ => stats_of_ne apart later }
  | hydrateRouteState routeId row =>
      have apart : quote.routeId ≠ routeId := Ne.symm (of_decide_eq_false other)
      refine { unchanged with route := ?_, cooldown := ?_, stats := ?_ }
      · simp only [RiskOp.apply, GlobalRiskManager.hydrateRouteState]
        split
        · exact insert_of_ne apart.symm
        · exact erase_of_ne apart.symm
      · exact Function.update_of_ne apart _ _
      · exact fun later _ => stats_of_ne apart later

/-- An evaluation only prunes what every later one prunes too. -/
theorem evaluate_unseen (input : Evaluation) :
    SameVerdicts quote now (manager.evaluate settings now input).2 manager := by
  have unchanged := SameVerdicts.refl quote now manager
  simp only [GlobalRiskManager.evaluate, GlobalRiskManager.afterEvaluate]
  split
  · refine { unchanged with stats := ?_ }
    intro later after
    by_cases same : quote.routeId = input.quote.routeId
    · simp only [GlobalRiskManager.pruneRoute, ← same, Function.update_self]
      exact pruneExecutions_pruneExecutions after
    · exact stats_of_ne same later
  · exact unchanged

theorem succeeded_stats {left right : RouteStats} {later : Instant} (realizedPnl : Rat)
    (same : left.pruneExecutions later = right.pruneExecutions later) (after : now ≤ later) :
    let succeeded (stats : RouteStats) : RouteStats :=
      { stats.withoutFailure with
        consecutiveLosses :=
          if realizedPnl < 0 then stats.withoutFailure.consecutiveLosses + 1 else 0
        executions := stats.withoutFailure.executions ++ [now] }
    ((succeeded left).pruneExecutions now).pruneExecutions later =
      ((succeeded right).pruneExecutions now).pruneExecutions later := by
  have losses : (left.pruneExecutions later).consecutiveLosses =
      (right.pruneExecutions later).consecutiveLosses := by rw [same]
  have executions : prune (later - minutes 10) left.executions =
      prune (later - minutes 10) right.executions := congrArg RouteStats.executions same
  have appended := prune_append_congr executions [now]
  unfold prune at appended
  dsimp only
  rw [pruneExecutions_pruneExecutions after, pruneExecutions_pruneExecutions after]
  simp only [RouteStats.pruneExecutions] at losses
  simp only [RouteStats.pruneExecutions, RouteStats.withoutFailure, losses, appended]

theorem SameVerdicts.apply {op : RiskOp} (concerned : op.concerns quote = true)
    (same : SameVerdicts quote now first second) :
    SameVerdicts quote now (op.apply settings now first) (op.apply settings now second) := by
  cases op with
  | setGlobalKill paused => exact { same with killed := rfl }
  | pauseStrategy strategy => exact { same with strategy := insert_congr same.strategy }
  | resumeStrategy strategy => exact { same with strategy := erase_congr same.strategy }
  | pauseRoute routeId => exact { same with route := insert_congr same.route }
  | resumeRoute routeId => exact { same with route := erase_congr same.route }
  | pausePair pair => exact { same with pair := insert_congr same.pair }
  | resumePair pair => exact { same with pair := erase_congr same.pair }
  | pauseVenue venue =>
      exact { same with venues := fun wanted listed => insert_congr (same.venues wanted listed) }
  | resumeVenue venue =>
      exact { same with venues := fun wanted listed => erase_congr (same.venues wanted listed) }
  | clearCooldown routeId =>
      have cleared : ∀ later, now ≤ later →
          (first.routeStats quote.routeId).withoutFailure.pruneExecutions later =
            (second.routeStats quote.routeId).withoutFailure.pruneExecutions later :=
        fun later after => congrArg RouteStats.withoutFailure (same.stats later after)
      simp only [RiskOp.apply, GlobalRiskManager.clearCooldown]
      split
      · exact { same with cooldown := rfl, stats := cleared }
      · exact { same with cooldown := rfl, stats := cleared }
      · rename_i target named
        have here : target = quote.routeId := by
          rw [RiskOp.concerns] at concerned
          · exact of_decide_eq_true concerned
          · exact named
        subst here
        refine { same with cooldown := ?_, stats := ?_ }
        · simp only [Function.update_self]
        · intro later after
          simp only [Function.update_self]
          exact cleared later after
  | markFailure routeId category reason =>
      obtain rfl : routeId = quote.routeId := of_decide_eq_true concerned
      refine { same with route := ?_, cooldown := ?_, stats := ?_ }
      · simp only [RiskOp.apply, GlobalRiskManager.markFailure]
        split
        · exact insert_congr same.route
        · exact same.route
      · simp only [RiskOp.apply, GlobalRiskManager.markFailure, Function.update_self]
      · intro later after
        simp only [RiskOp.apply, GlobalRiskManager.markFailure, Function.update_self]
        exact congrArg
          (fun stats => { stats with
            consecutiveFailures := stats.consecutiveFailures + 1
            lastFailureCategory := category
            lastFailureReason := reason
            lastFailureAt := some now
            lastFailureFatal := decide (category ∈ fatalFailureCategories) })
          (same.stats later after)
  | markSuccess routeId realizedPnl =>
      obtain rfl : routeId = quote.routeId := of_decide_eq_true concerned
      obtain ⟨anchor, pnl, reset⟩ := resetDailyIfNeeded_eq first now
      obtain ⟨otherAnchor, otherPnl, otherReset⟩ := resetDailyIfNeeded_eq second now
      simp only [RiskOp.apply, GlobalRiskManager.markSuccess, reset, otherReset]
      refine { same with stats := ?_ }
      intro later after
      simp only [Function.update_self]
      exact succeeded_stats realizedPnl (same.stats later after) after
  | hydrateRouteState routeId row =>
      obtain rfl : routeId = quote.routeId := of_decide_eq_true concerned
      refine { same with route := ?_, cooldown := ?_, stats := ?_ }
      · simp only [RiskOp.apply, GlobalRiskManager.hydrateRouteState]
        split
        · exact insert_congr same.route
        · exact erase_congr same.route
      · simp only [RiskOp.apply, GlobalRiskManager.hydrateRouteState, Function.update_self]
      · intro later after
        simp only [RiskOp.apply, GlobalRiskManager.hydrateRouteState, Function.update_self]
        exact congrArg
          (fun stats => { stats with
            consecutiveFailures := (max 0 row.consecutiveFailures).toNat
            consecutiveLosses := (max 0 row.consecutiveLosses).toNat
            lastFailureCategory := row.lastFailureCategory
            lastFailureReason := row.lastFailureReason
            lastFailureFatal := row.lastFailureFatal
            lastFailureAt := row.lastFailureAt })
          (same.stats later after)

theorem SameVerdicts.trans {third : GlobalRiskManager} (front : SameVerdicts quote now first second)
    (back : SameVerdicts quote now second third) : SameVerdicts quote now first third where
  killed := front.killed.trans back.killed
  strategy := front.strategy.trans back.strategy
  route := front.route.trans back.route
  pair := front.pair.trans back.pair
  venues venue listed := (front.venues venue listed).trans (back.venues venue listed)
  cooldown := front.cooldown.trans back.cooldown
  stats later after := (front.stats later after).trans (back.stats later after)

/-- Calls that have no scope of the quote are not seen. -/
theorem calls_secure (settings : Settings) (quote : RouteQuote) :
    Secure (fun current called => (managerStep settings current called).getD current) Prod.fst
      (fun called => called.2.concerns quote) (SameVerdicts quote) where
  later same moved := same.mono moved
  silent := by
    rintro ⟨now, op | input⟩ first second other same
    · exact (unseen other).trans same
    · exact (evaluate_unseen input).trans same
  shared := by
    rintro ⟨now, op | input⟩ first second concerned same
    · exact same.apply concerned
    · cases concerned

end Calls

/-- The verdict on a quote is a function of the calls about its own scopes. -/
theorem verdict_isolated {settings : Settings} (manager : GlobalRiskManager)
    {calls others : List (Instant × ManagerEvent)} {now : Instant} {input : Evaluation}
    (ordered : calls.Pairwise fun earlier later => earlier.1 ≤ later.1)
    (past : ∀ called ∈ calls, called.1 ≤ now)
    (othersOrdered : others.Pairwise fun earlier later => earlier.1 ≤ later.1)
    (othersPast : ∀ called ∈ others, called.1 ≤ now)
    (same : calls.filter (fun called => called.2.concerns input.quote) =
      others.filter fun called => called.2.concerns input.quote) :
    ((manager.after settings calls).evaluate settings now input).1 =
      ((manager.after settings others).evaluate settings now input).1 := by
  have secure := calls_secure settings input.quote
  have unchanged := fun time => SameVerdicts.refl input.quote time manager
  have front := secure.purged unchanged ordered past
  have back := secure.purged unchanged othersOrdered othersPast
  rw [← same] at back
  exact front.evaluate.trans back.evaluate.symm

/-- A revert and an evaluation of another route, next to a pause of this one. -/
theorem verdict_isolated_paused :
    let fresh := GlobalRiskManager.create {} 0
    let crowded : List (Instant × ManagerEvent) :=
      [(0, .operate (.markFailure "other" "revert" "reverted")),
        (1, .operate (.pauseRoute "route")), (2, .evaluate (calmInput "other"))]
    ((fresh.after {} crowded).evaluate {} 3 (calmInput "route")).1 =
      ((fresh.after {} [(1, .operate (.pauseRoute "route"))]).evaluate {} 3
        (calmInput "route")).1 := by
  intro fresh crowded
  exact verdict_isolated fresh (by decide) (by decide) (by decide) (by decide) rfl

end ArbitrageBot
