/-
The limit on trades per route. The deque is pruned both when a trade is recorded and
when a quote is evaluated; what either cut-off leaves is exact from that cut-off on,
which is all that a window ending later can see.
-/

import ArbitrageBot.Library.SlidingWindow
import ArbitrageBot.Risk.Recovery

namespace ArbitrageBot

open GuardChain SlidingWindow Transition

def licenses (settings : Settings) (route : String) :
    GlobalRiskManager × (Instant × ManagerEvent) → Bool
  | (manager, now, .evaluate input) =>
      input.quote.routeId = route && (manager.evaluate settings now input).1.tradable
  | _ => false

/-- Each success of the route follows a tradable evaluation of it that no earlier success used. -/
def EachLicensed (settings : Settings) (route : String) (trace : ManagerTrace) : Prop :=
  ∀ front entry back, trace = front ++ entry :: back → executedAt route entry ≠ none →
    ∃ older evaluation recent, front = older ++ evaluation :: recent ∧
      licenses settings route evaluation = true ∧
      ∀ entry ∈ recent, executedAt route entry = none

def Clocked (trace : ManagerTrace) : Prop :=
  (trace.map fun entry => entry.2.1).Pairwise (· ≤ ·)

def successes (route : String) (trace : ManagerTrace) : List Instant :=
  trace.filterMap (executedAt route)

section Window

variable {settings : Settings} {manager before after : GlobalRiskManager} {now : Instant}
  {event : Instant × ManagerEvent} {trace : ManagerTrace} {route : String}

theorem evaluate_executions_filter {input : Evaluation} {cutoff : Instant}
    (later : now - minutes 10 ≤ cutoff) :
    ((manager.evaluate settings now input).2.routeStats route).executions.filter (cutoff ≤ ·) =
      (manager.routeStats route).executions.filter (cutoff ≤ ·) := by
  simp only [GlobalRiskManager.evaluate, GlobalRiskManager.afterEvaluate]
  split
  · by_cases same : route = input.quote.routeId
    · subst same
      simp only [GlobalRiskManager.pruneRoute, Function.update_self, RouteStats.pruneExecutions]
      exact filter_prune later _
    · simp only [GlobalRiskManager.pruneRoute, Function.update_of_ne same]
  · rfl

theorem managerStep_executions_filter (taken : managerStep settings before event = some after)
    {cutoff : Instant} (later : event.1 - minutes 10 ≤ cutoff) :
    (after.routeStats route).executions.filter (cutoff ≤ ·) =
      ((before.routeStats route).executions ++
        (executedAt route (before, event)).toList).filter (cutoff ≤ ·) := by
  obtain ⟨now, call⟩ := event
  cases call with
  | evaluate input =>
      cases taken
      rw [evaluate_executions_filter later]
      simp [executedAt]
  | operate op =>
      cases taken
      rw [RiskOp.apply_executions_eq]
      cases executedAt route (before, now, .operate op) with
      | none => simp
      | some time => exact filter_prune later _

/-- From every cut-off that no pruning has passed, the deque holds exactly the successes. -/
theorem executions_filter {created : Instant}
    (run : Reaches (managerStep settings) anyStep (.create settings created) trace manager)
    {cutoff : Instant} (later : ∀ entry ∈ trace, entry.2.1 - minutes 10 ≤ cutoff) :
    (manager.routeStats route).executions.filter (cutoff ≤ ·) =
      (successes route trace).filter (cutoff ≤ ·) := by
  induction run with
  | refl => rfl
  | snoc _run _permitted taken ih =>
      rename_i past before next event
      have earlier : ∀ entry ∈ past, entry.2.1 - minutes 10 ≤ cutoff :=
        fun entry member => later entry (List.mem_append_left _ member)
      have here : event.1 - minutes 10 ≤ cutoff :=
        later (before, event) (List.mem_append_right _ List.mem_cons_self)
      rw [managerStep_executions_filter taken here, List.filter_append, ih earlier, successes,
        successes, List.filterMap_append, List.filter_append]
      rfl

/-- A tradable verdict bounds what the deque holds of the last ten minutes. -/
theorem length_of_tradable {input : Evaluation}
    (tradable : (manager.evaluate settings now input).1.tradable = true) :
    ((manager.routeStats input.quote.routeId).executions.filter
      (now - minutes 10 ≤ ·)).length < settings.liveMaxTradesPerRoutePer10m.toNat := by
  obtain ⟨-, -, guards⟩ := GlobalRiskManager.evaluate_tradable.mp tradable
  have rate := of_decide_eq_true (guards _ List.mem_cons_self)
  simp only [GlobalRiskManager.pruneRoute, Function.update_self, RouteStats.pruneExecutions] at rate
  have kept := filter_prune (le_refl (now - minutes 10))
    (manager.routeStats input.quote.routeId).executions
  have fewer := List.length_filter_le (fun time => decide (now - minutes 10 ≤ time))
    (prune (now - minutes 10) (manager.routeStats input.quote.routeId).executions)
  rw [kept] at fewer
  unfold prune at fewer
  omega

theorem executedAt_time {entry : GlobalRiskManager × (Instant × ManagerEvent)} {time : Instant}
    (executed : executedAt route entry = some time) : entry.2.1 = time := by
  obtain ⟨manager, now, call⟩ := entry
  cases call with
  | evaluate => cases executed
  | operate op =>
      cases op with
      | markSuccess routeId realizedPnl =>
          simp only [executedAt, Option.ite_none_right_eq_some, Option.some.injEq] at executed
          exact executed.2
      | _ => cases executed

/-- An evaluation that came out tradable saw fewer successes than the limit. -/
theorem successes_of_license {created : Instant} {older : ManagerTrace}
    {evaluation : GlobalRiskManager × (Instant × ManagerEvent)}
    (run : Reaches (managerStep settings) anyStep (.create settings created) older evaluation.1)
    (clocked : ∀ entry ∈ older, entry.2.1 ≤ evaluation.2.1)
    (license : licenses settings route evaluation = true) :
    executedAt route evaluation = none ∧
      ((successes route older).filter (evaluation.2.1 - minutes 10 ≤ ·)).length <
        settings.liveMaxTradesPerRoutePer10m.toNat := by
  obtain ⟨manager, now, call⟩ := evaluation
  cases call with
  | operate => cases license
  | evaluate input =>
      refine ⟨rfl, ?_⟩
      simp only [licenses, Bool.and_eq_true, decide_eq_true_eq] at license
      obtain ⟨rfl, tradable⟩ := license
      have unpruned : ∀ entry ∈ older, entry.2.1 - minutes 10 ≤ now - minutes 10 :=
        fun entry member => Int.sub_le_sub_right (clocked entry member) _
      rw [← executions_filter run unpruned]
      exact length_of_tradable tradable

/-- What a success finds of its own last ten minutes is below the limit. -/
theorem successes_admitted {created : Instant}
    (run : Reaches (managerStep settings) anyStep (.create settings created) trace manager)
    (clocked : Clocked trace) (licensed : EachLicensed settings route trace) :
    Admitted settings.liveMaxTradesPerRoutePer10m.toNat (minutes 10) (successes route trace) := by
  intro earlier time later split
  obtain ⟨front, rest, rfl, rfl, kept⟩ := List.filterMap_eq_append_iff.mp split
  obtain ⟨skipped, success, back, rfl, unused, executed, rfl⟩ := List.filterMap_eq_cons_iff.mp kept
  obtain ⟨older, evaluation, recent, fronts, license, spent⟩ :=
    licensed (front ++ skipped) success back (by simp) (by rw [executed]; nofun)
  have whole : front ++ (skipped ++ success :: back) =
      older ++ evaluation :: (recent ++ success :: back) := by
    rw [← List.append_assoc, fronts, List.append_assoc, List.cons_append]
  rw [whole] at run clocked
  rw [Clocked, List.map_append, List.map_cons] at clocked
  obtain ⟨-, following, ordered⟩ := List.pairwise_append.mp clocked
  have before : ∀ entry ∈ older, entry.2.1 ≤ evaluation.2.1 := fun entry member =>
    ordered _ (List.mem_map_of_mem member) _ List.mem_cons_self
  have after : evaluation.2.1 ≤ time := by
    rw [← executedAt_time executed]
    exact (List.pairwise_cons.mp following).1 _ (List.mem_map_of_mem (by simp))
  obtain ⟨unexecuted, few⟩ := successes_of_license (run.of_split rfl) before license
  -- nothing succeeded between the evaluation and this success
  have same : List.filterMap (executedAt route) front = successes route older := by
    have fronted : successes route (front ++ skipped) = successes route older := by
      rw [fronts, successes, successes, List.filterMap_append, List.filterMap_cons, unexecuted,
        List.filterMap_eq_nil_iff.mpr spent, List.append_nil]
    rw [← fronted, successes, List.filterMap_append, List.filterMap_eq_nil_iff.mpr unused,
      List.append_nil]
  rw [same]
  refine lt_of_le_of_lt (List.Sublist.length_le (List.monotone_filter_right _ ?_)) few
  intro moment counted
  simp only [decide_eq_true_eq] at counted ⊢
  exact (Int.sub_le_sub_right after (minutes 10)).trans counted

end Window

/-- In every closed interval of ten minutes, at most the limit of successes of one route. -/
theorem successes_within_limit (settings : Settings) (created : Instant) (trace : ManagerTrace)
    (manager : GlobalRiskManager)
    (run : Reaches (managerStep settings) anyStep (.create settings created) trace manager)
    (clocked : Clocked trace) (route : String) (licensed : EachLicensed settings route trace)
    (first : Instant) :
    (within first (minutes 10) (successes route trace)).length ≤
      settings.liveMaxTradesPerRoutePer10m.toNat :=
  within_length_le (successes_admitted run clocked licensed) first

def tradeTrace : ManagerTrace :=
  let fresh : GlobalRiskManager := .create shipped 0
  [(fresh, seconds 1, .evaluate (calmInput "r")),
    ((fresh.evaluate shipped (seconds 1) (calmInput "r")).2, seconds 2,
      .operate (.markSuccess "r" 1))]

theorem tradeTrace_licensed : EachLicensed shipped "r" tradeTrace := by
  intro front entry back split executed
  match front with
  | [] =>
      obtain ⟨same, -⟩ := List.cons.inj split
      subst same
      exact absurd rfl executed
  | [evaluation] =>
      obtain ⟨same, -⟩ := List.cons.inj split
      subst same
      exact ⟨[], _, [], rfl, by decide +kernel, fun _ member => absurd member List.not_mem_nil⟩
  | _ :: _ :: rest =>
      have lengths := congrArg List.length split
      simp [tradeTrace] at lengths

theorem successes_within_limit_trade :
    (within (seconds 1) (minutes 10) (successes "r" tradeTrace)).length ≤
      shipped.liveMaxTradesPerRoutePer10m.toNat := by
  have run : Reaches (managerStep shipped) anyStep (.create shipped 0) tradeTrace _ :=
    .snoc (.snoc .refl trivial rfl) trivial rfl
  have clocked : Clocked tradeTrace := by
    change [seconds 1, seconds 2].Pairwise (· ≤ ·)
    decide
  exact successes_within_limit shipped 0 tradeTrace _ run clocked "r" tradeTrace_licensed (seconds 1)

end ArbitrageBot
