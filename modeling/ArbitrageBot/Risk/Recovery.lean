/-
What the operator's release controls restore. Each control establishes its own
postcondition and no release control undoes another's, so their order does not
matter. The consecutive-loss counter is in nobody's postcondition.
-/

import Mathlib.Data.List.TakeWhile
import ArbitrageBot.Library.Transition
import ArbitrageBot.Risk.Evaluate

namespace ArbitrageBot

open GuardChain Transition

/-! ### Runs of the manager -/

inductive ManagerEvent
  | operate (op : RiskOp)
  | evaluate (input : Evaluation)

/-- One call on the manager at an instant; every call goes through. -/
def managerStep (settings : Settings) (manager : GlobalRiskManager) :
    Instant × ManagerEvent → Option GlobalRiskManager
  | (now, .operate op) => some (op.apply settings now manager)
  | (now, .evaluate input) => some (manager.evaluate settings now input).2

abbrev ManagerTrace := List (GlobalRiskManager × (Instant × ManagerEvent))

def executedAt (route : String) : GlobalRiskManager × (Instant × ManagerEvent) → Option Instant
  | (_, now, .operate (.markSuccess routeId _)) => if routeId = route then some now else none
  | _ => none

theorem pruneExecutions_subset (stats : RouteStats) (now : Instant) :
    (stats.pruneExecutions now).executions ⊆ stats.executions :=
  fun _ kept => (List.dropWhile_sublist _).subset kept

theorem evaluate_executions {settings : Settings} {now time : Instant}
    {manager : GlobalRiskManager} {input : Evaluation} {route : String}
    (recorded : time ∈ ((manager.evaluate settings now input).2.routeStats route).executions) :
    time ∈ (manager.routeStats route).executions := by
  simp only [GlobalRiskManager.evaluate, GlobalRiskManager.afterEvaluate] at recorded
  split at recorded
  · by_cases same : route = input.quote.routeId
    · subst same
      simp only [GlobalRiskManager.pruneRoute, Function.update_self] at recorded
      exact pruneExecutions_subset _ _ recorded
    · simpa [GlobalRiskManager.pruneRoute, same] using recorded
  · exact recorded

/-- Only a success of the route itself changes its executions: it appends the time and prunes. -/
theorem RiskOp.apply_executions_eq {settings : Settings} {now : Instant}
    {manager : GlobalRiskManager} {op : RiskOp} {route : String} :
    ((op.apply settings now manager).routeStats route).executions =
      match executedAt route (manager, now, .operate op) with
      | some time =>
          ((manager.routeStats route).executions ++ [time]).dropWhile
            (fun time => time < now - minutes 10)
      | none => (manager.routeStats route).executions := by
  cases op with
  | setGlobalKill | pauseStrategy | resumeStrategy | pauseRoute | resumeRoute | pausePair
  | resumePair | pauseVenue | resumeVenue => rfl
  | clearCooldown routeId =>
      simp only [apply, GlobalRiskManager.clearCooldown, executedAt]
      split
      · rfl
      · rfl
      · rename_i target _notEmpty
        by_cases same : route = target
        · subst same
          simp [RouteStats.withoutFailure]
        · simp [same]
  | markFailure routeId category reason =>
      by_cases same : route = routeId
      · subst same
        simp [apply, GlobalRiskManager.markFailure, executedAt]
      · simp [apply, GlobalRiskManager.markFailure, executedAt, same]
  | markSuccess routeId realizedPnl =>
      by_cases same : route = routeId
      · subst same
        simp [apply, GlobalRiskManager.markSuccess, executedAt, RouteStats.pruneExecutions,
          RouteStats.withoutFailure]
      · have other : routeId ≠ route := fun equal => same equal.symm
        simp [apply, GlobalRiskManager.markSuccess, executedAt, same, other]
  | hydrateRouteState routeId row =>
      by_cases same : route = routeId
      · subst same
        simp [apply, GlobalRiskManager.hydrateRouteState, executedAt]
      · simp [apply, GlobalRiskManager.hydrateRouteState, executedAt, same]

theorem managerStep_executions {settings : Settings} {before after : GlobalRiskManager}
    {event : Instant × ManagerEvent} (taken : managerStep settings before event = some after)
    {route : String} {time : Instant} (recorded : time ∈ (after.routeStats route).executions) :
    time ∈ (before.routeStats route).executions ∨ executedAt route (before, event) = some time := by
  obtain ⟨now, call⟩ := event
  cases call with
  | evaluate input =>
      cases taken
      exact .inl (evaluate_executions recorded)
  | operate op =>
      cases taken
      rw [RiskOp.apply_executions_eq] at recorded
      cases executed : executedAt route (before, now, .operate op) with
      | none =>
          rw [executed] at recorded
          exact .inl recorded
      | some executedTime =>
          rw [executed] at recorded
          rcases List.mem_append.mp ((List.dropWhile_sublist _).subset recorded) with old | new
          · exact .inl old
          · exact .inr (congrArg some (List.mem_singleton.mp new).symm)

theorem managerRun_executions {settings : Settings} {created : Instant} {trace : ManagerTrace}
    {manager : GlobalRiskManager}
    (run : Reaches (managerStep settings) anyStep (.create settings created) trace manager)
    {route : String} {time : Instant} (recorded : time ∈ (manager.routeStats route).executions) :
    time ∈ trace.filterMap (executedAt route) := by
  induction run with
  | refl => cases recorded
  | snoc _run _permitted taken ih =>
      rw [List.filterMap_append, List.mem_append]
      rcases managerStep_executions taken recorded with old | new
      · exact .inl (ih old)
      · right
        simp [new]

/-! ### The release controls -/

def releaseControls (quote : RouteQuote) : List RiskOp :=
  [.setGlobalKill false, .resumeStrategy quote.strategy, .resumeRoute quote.routeId,
    .resumePair quote.pair, .clearCooldown (some quote.routeId)] ++
    quote.venueTokens.map RiskOp.resumeVenue

def RiskOp.isRelease : RiskOp → Bool
  | .setGlobalKill paused => !paused
  | .resumeStrategy _ | .resumeRoute _ | .resumePair _ | .resumeVenue _ | .clearCooldown _ => true
  | _ => false

/-- What a release control promises of the manager. -/
def RiskOp.Released (op : RiskOp) (manager : GlobalRiskManager) : Prop :=
  match op with
  | .setGlobalKill false => manager.globalKillSwitch = false
  | .resumeStrategy strategy => strategy ∉ manager.strategyPaused
  | .resumeRoute routeId => routeId ∉ manager.routePaused
  | .resumePair pair => pair ∉ manager.pairPaused
  | .resumeVenue venue => venue ∉ manager.venuePaused
  | .clearCooldown (some routeId) =>
      manager.cooldownUntil routeId = none ∧ (manager.routeStats routeId).consecutiveFailures = 0
  | _ => True

theorem releaseControls_isRelease {quote : RouteQuote} :
    ∀ op ∈ releaseControls quote, op.isRelease = true := by
  intro op member
  simp only [releaseControls, List.mem_append, List.mem_cons, List.not_mem_nil, or_false,
    List.mem_map] at member
  rcases member with (rfl | rfl | rfl | rfl | rfl) | ⟨venue, -, rfl⟩
  all_goals rfl

/-- What a release control can do: lift pauses, end cooldowns and lower failure counters. The
loss counter and the executions stay as they are. -/
structure Eases (before after : GlobalRiskManager) : Prop where
  kill : before.globalKillSwitch = false → after.globalKillSwitch = false
  strategies : after.strategyPaused ⊆ before.strategyPaused
  routes : after.routePaused ⊆ before.routePaused
  pairs : after.pairPaused ⊆ before.pairPaused
  venues : after.venuePaused ⊆ before.venuePaused
  cooldowns : ∀ route, before.cooldownUntil route = none → after.cooldownUntil route = none
  failures : ∀ route, (after.routeStats route).consecutiveFailures ≤
    (before.routeStats route).consecutiveFailures
  losses : ∀ route, (after.routeStats route).consecutiveLosses =
    (before.routeStats route).consecutiveLosses
  executions : ∀ route, (after.routeStats route).executions = (before.routeStats route).executions

theorem Eases.refl (manager : GlobalRiskManager) : Eases manager manager :=
  ⟨id, subset_rfl, subset_rfl, subset_rfl, subset_rfl, fun _ => id, fun _ => le_rfl, fun _ => rfl,
    fun _ => rfl⟩

theorem clearCooldown_eases (manager : GlobalRiskManager) (routeId : Option String) :
    Eases manager (manager.clearCooldown routeId) := by
  have easesOne : ∀ stats : RouteStats,
      stats.withoutFailure.consecutiveFailures ≤ stats.consecutiveFailures :=
    fun stats => Nat.zero_le _
  unfold GlobalRiskManager.clearCooldown
  split
  · exact { Eases.refl manager with
      cooldowns := fun _ _ => rfl, failures := fun _ => easesOne _,
      losses := fun _ => rfl, executions := fun _ => rfl }
  · exact { Eases.refl manager with
      cooldowns := fun _ _ => rfl, failures := fun _ => easesOne _,
      losses := fun _ => rfl, executions := fun _ => rfl }
  · rename_i target _notEmpty
    refine { Eases.refl manager with cooldowns := ?_, failures := ?_, losses := ?_, executions := ?_ }
    all_goals
      intro route
      by_cases same : route = target
      · subst same
        simp [RouteStats.withoutFailure]
      · simp [same]

namespace RiskOp

variable {settings : Settings} {now : Instant} {manager : GlobalRiskManager}

theorem eases_apply {op : RiskOp} (releases : op.isRelease = true) :
    Eases manager (op.apply settings now manager) := by
  cases op with
  | setGlobalKill paused =>
      have off : paused = false := by simpa [isRelease] using releases
      exact { Eases.refl manager with kill := fun _ => off }
  | resumeStrategy strategy =>
      exact { Eases.refl manager with strategies := Finset.erase_subset _ _ }
  | resumeRoute routeId => exact { Eases.refl manager with routes := Finset.erase_subset _ _ }
  | resumePair pair => exact { Eases.refl manager with pairs := Finset.erase_subset _ _ }
  | resumeVenue venue => exact { Eases.refl manager with venues := Finset.erase_subset _ _ }
  | clearCooldown routeId => exact clearCooldown_eases manager routeId
  | pauseStrategy | pauseRoute | pausePair | pauseVenue | markFailure | markSuccess
  | hydrateRouteState => cases releases

theorem released_apply (op : RiskOp) : op.Released (op.apply settings now manager) := by
  cases op with
  | setGlobalKill paused =>
      cases paused with
      | false => rfl
      | true => trivial
  | resumeStrategy | resumeRoute | resumePair | resumeVenue => exact Finset.notMem_erase _ _
  | clearCooldown routeId =>
      cases routeId with
      | none => trivial
      | some route =>
          have covered : (RiskOp.clearCooldown (some route)).touches route = true := by
            by_cases empty : route = ""
            · subst empty
              rfl
            · simp [touches]
          obtain ⟨cooldown, stats⟩ := manager.clearCooldown_covered covered
          refine ⟨cooldown, ?_⟩
          simp only [apply, stats, RouteStats.withoutFailure]
  | pauseStrategy | pauseRoute | pausePair | pauseVenue | markFailure | markSuccess
  | hydrateRouteState => trivial

theorem Released.eased {op : RiskOp} {after : GlobalRiskManager} (held : op.Released manager)
    (eases : Eases manager after) : op.Released after := by
  cases op with
  | setGlobalKill paused =>
      cases paused with
      | false => exact eases.kill held
      | true => trivial
  | resumeStrategy strategy => exact fun member => held (eases.strategies member)
  | resumeRoute routeId => exact fun member => held (eases.routes member)
  | resumePair pair => exact fun member => held (eases.pairs member)
  | resumeVenue venue => exact fun member => held (eases.venues member)
  | clearCooldown routeId =>
      cases routeId with
      | none => trivial
      | some route =>
          have lowered := eases.failures route
          rw [held.2] at lowered
          exact ⟨eases.cooldowns route held.1, Nat.le_zero.mp lowered⟩
  | pauseStrategy | pauseRoute | pausePair | pauseVenue | markFailure | markSuccess
  | hydrateRouteState => trivial

end RiskOp

/-- After release controls alone, in any order, each of them holds what it promises and the loss
counters and executions are the old ones. -/
theorem applyAll_released (settings : Settings) (now : Instant) (manager : GlobalRiskManager)
    {controls : List RiskOp} (releases : ∀ op ∈ controls, op.isRelease = true) :
    (∀ op ∈ controls, op.Released (manager.applyAll settings now controls)) ∧
      (∀ op : RiskOp, op.Released manager → op.Released (manager.applyAll settings now controls)) ∧
      ∀ route,
        ((manager.applyAll settings now controls).routeStats route).consecutiveLosses =
            (manager.routeStats route).consecutiveLosses ∧
          ((manager.applyAll settings now controls).routeStats route).executions =
            (manager.routeStats route).executions := by
  induction controls generalizing manager with
  | nil => exact ⟨fun _ member => absurd member List.not_mem_nil, fun _ held => held, fun _ => ⟨rfl, rfl⟩⟩
  | cons first rest ih =>
      have eases : Eases manager (first.apply settings now manager) :=
        RiskOp.eases_apply (releases first List.mem_cons_self)
      obtain ⟨done, kept, counters⟩ := ih (first.apply settings now manager)
        (fun op member => releases op (List.mem_cons_of_mem first member))
      refine ⟨?_, fun op held => kept op (held.eased eases), ?_⟩
      · intro op member
        rcases List.mem_cons.mp member with rfl | later
        · exact kept op op.released_apply
        · exact done op later
      · intro route
        obtain ⟨losses, executions⟩ := counters route
        exact ⟨losses.trans (eases.losses route), executions.trans (eases.executions route)⟩

/-! ### Recovery -/

def QuietTenMinutes (trace : ManagerTrace) (route : String) (now : Instant) : Prop :=
  ∀ time ∈ trace.filterMap (executedAt route), time < now - minutes 10

def tradableAfterRelease (settings : Settings) (manager : GlobalRiskManager)
    (controls : List RiskOp) (releasedAt now : Instant) (input : Evaluation) : Bool :=
  ((manager.applyAll settings releasedAt controls).evaluate settings now input).1.tradable

theorem pauseGuards_released {manager : GlobalRiskManager} {quote : RouteQuote}
    (released : ∀ op ∈ releaseControls quote, op.Released manager) :
    ∀ guard ∈ pauseGuards manager quote, guard.passes = true := by
  have kill : manager.globalKillSwitch = false :=
    released (.setGlobalKill false) (by simp [releaseControls])
  have strategy : quote.strategy ∉ manager.strategyPaused :=
    released (.resumeStrategy quote.strategy) (by simp [releaseControls])
  have route : quote.routeId ∉ manager.routePaused :=
    released (.resumeRoute quote.routeId) (by simp [releaseControls])
  have pair : quote.pair ∉ manager.pairPaused :=
    released (.resumePair quote.pair) (by simp [releaseControls])
  have venues : ∀ venue ∈ quote.venueTokens, venue ∉ manager.venuePaused :=
    fun venue member => released (.resumeVenue venue) (by simp [releaseControls, member])
  intro guard member
  simp only [pauseGuards, List.mem_cons, List.not_mem_nil, or_false] at member
  rcases member with rfl | rfl | rfl | rfl | rfl
  · simp [kill]
  · simpa using strategy
  · simpa using route
  · simpa using pair
  · simpa using venues

/-- Released and idle, a route is tradable exactly when its consecutive losses are below the
limit: nothing the operator can do lowers that counter. -/
theorem tradableAfterRelease_iff (settings : Settings) (created : Instant) (trace : ManagerTrace)
    (manager : GlobalRiskManager)
    (run : Reaches (managerStep settings) anyStep (.create settings created) trace manager)
    (input : Evaluation) (controls : List RiskOp)
    (released : controls.Perm (releaseControls input.quote)) (releasedAt now : Instant)
    (quiet : QuietTenMinutes trace input.quote.routeId now)
    (failureLimit : 1 ≤ settings.liveMaxConsecutiveFailuresPerRoute)
    (tradeLimit : 1 ≤ settings.liveMaxTradesPerRoutePer10m)
    (passes : ∀ guard ∈ statelessGuards settings input, guard.passes = true) :
    tradableAfterRelease settings manager controls releasedAt now input = true ↔
      ((manager.routeStats input.quote.routeId).consecutiveLosses : Int) <
        settings.liveMaxConsecutiveLossesPerRoute := by
  obtain ⟨done, -, counters⟩ := applyAll_released settings releasedAt manager
    (fun op member => releaseControls_isRelease op (released.mem_iff.mp member))
  have holds : ∀ op ∈ releaseControls input.quote,
      op.Released (manager.applyAll settings releasedAt controls) :=
    fun op member => done op (released.mem_iff.mpr member)
  obtain ⟨losses, executions⟩ := counters input.quote.routeId
  obtain ⟨cooldown, failures⟩ : (RiskOp.clearCooldown (some input.quote.routeId)).Released _ :=
    holds _ (by simp [releaseControls])
  -- every execution is older than the window, so pruning empties the deque
  have idle : (((manager.applyAll settings releasedAt controls).routeStats
      input.quote.routeId).pruneExecutions now).executions = [] := by
    rw [RouteStats.pruneExecutions, executions, List.dropWhile_eq_nil_iff]
    intro time recorded
    simpa using quiet time (managerRun_executions run recorded)
  rw [tradableAfterRelease, GlobalRiskManager.evaluate_tradable]
  constructor
  · rintro ⟨-, -, route⟩
    have lossGuard := route _ (List.mem_cons_of_mem _ (List.mem_cons_of_mem _ List.mem_cons_self))
    simpa [GlobalRiskManager.pruneRoute, RouteStats.pruneExecutions, losses] using lossGuard
  · intro belowLimit
    refine ⟨pauseGuards_released holds, passes, ?_⟩
    intro guard member
    simp only [routeGuards, GlobalRiskManager.pruneRoute, Function.update_self, List.mem_cons,
      List.not_mem_nil, or_false] at member
    rcases member with rfl | rfl | rfl | rfl
    · simp only [idle, List.length_nil, decide_eq_true_eq]
      omega
    · simp only [RouteStats.pruneExecutions, failures, decide_eq_true_eq]
      omega
    · simpa [RouteStats.pruneExecutions, losses] using belowLimit
    · simp only [cooldown]

/-! ### A route that no control brings back -/

def afterTwoLosses : GlobalRiskManager :=
  ((GlobalRiskManager.create shipped 0).markSuccess 0 "r" (-1)).markSuccess (seconds 1) "r" (-1)

/-- Two losing trades lock the route: an hour later, with everything released and every other
guard passing, it is still not tradable. -/
theorem losses_outlive_release :
    ∃ trace, Reaches (managerStep shipped) anyStep (.create shipped 0) trace afterTwoLosses ∧
      QuietTenMinutes trace "r" (seconds 3600) ∧
      (∀ guard ∈ statelessGuards shipped (calmInput "r"), guard.passes = true) ∧
      tradableAfterRelease shipped afterTwoLosses (releaseControls (calmQuote "r")) (seconds 2)
        (seconds 3600) (calmInput "r") = false := by
  refine ⟨[(.create shipped 0, 0, .operate (.markSuccess "r" (-1))),
      ((GlobalRiskManager.create shipped 0).markSuccess 0 "r" (-1), seconds 1,
        .operate (.markSuccess "r" (-1)))], ?_, ?_, calmInput_passes "r", ?_⟩
  · exact Reaches.snoc (Reaches.snoc .refl trivial rfl) trivial rfl
  · intro time member
    have times : time ∈ [0, seconds 1] := member
    revert time
    decide
  · decide +kernel

/-- A bad hour of the route `r`: a gain, a loss, an evaluation, two failures and every pause. -/
def badHour : List (Instant × ManagerEvent) :=
  [(0, .operate (.markSuccess "r" 1)), (seconds 60, .operate (.markSuccess "r" (-1))),
    (seconds 61, .evaluate (calmInput "r")),
    (seconds 62, .operate (.markFailure "r" "revert" "execution reverted")),
    (seconds 63, .operate (.markFailure "r" "gas_spike" "gas above limit")),
    (seconds 64, .operate (.pauseStrategy "hyperevm_dex_dex")),
    (seconds 65, .operate (.pausePair "USDC/USDT0")), (seconds 66, .operate (.pauseVenue "hybra_v3")),
    (seconds 67, .operate (.setGlobalKill true))]

/-- What the bad hour leaves: all pauses set, a cooldown, two failures, one loss, two executions. -/
def isWorn (manager : GlobalRiskManager) : Bool :=
  (pauseGuards manager (calmQuote "r")).all (fun guard => !guard.passes) &&
    (manager.cooldownUntil "r").isSome && (manager.routeStats "r").consecutiveFailures = 2 &&
    (manager.routeStats "r").consecutiveLosses = 1 && (manager.routeStats "r").executions.length = 2

theorem tradableAfterRelease_iff_worn :
    ∃ trace manager, Reaches (managerStep shipped) anyStep (.create shipped 0) trace manager ∧
      trace.map Prod.snd = badHour ∧ isWorn manager = true ∧
      (tradableAfterRelease shipped manager (releaseControls (calmQuote "r")).reverse (seconds 68)
          (seconds 3600) (calmInput "r") = true ↔
        ((manager.routeStats "r").consecutiveLosses : Int) <
          shipped.liveMaxConsecutiveLossesPerRoute) := by
  have found : (follow (managerStep shipped) (.create shipped 0) badHour).any
      (fun done => isWorn done.2 && (done.1.filterMap (executedAt "r")).all
        (fun time => time < seconds 3600 - minutes 10)) = true := by
    decide +kernel
  obtain ⟨done, followed, checked⟩ := (Option.any_eq_true _ _).mp found
  have run : Reaches (managerStep shipped) anyStep (.create shipped 0) done.1 done.2 :=
    reaches_of_follow followed fun _ _ => trivial
  obtain ⟨worn, executed⟩ := Bool.and_eq_true_iff.mp checked
  have quiet : QuietTenMinutes done.1 "r" (seconds 3600) := by
    intro time member
    exact of_decide_eq_true (List.all_eq_true.mp executed time member)
  refine ⟨done.1, done.2, run, follow_events followed, worn, ?_⟩
  exact tradableAfterRelease_iff shipped 0 done.1 done.2 run (calmInput "r")
    (releaseControls (calmQuote "r")).reverse (List.reverse_perm _) (seconds 68) (seconds 3600)
    quiet (by decide) (by decide) (calmInput_passes "r")

end ArbitrageBot
