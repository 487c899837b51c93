/-
A failed gas probe is recorded as the price zero. It is the newest entry of the series, where
the spike guard finds nothing too expensive about it, and it takes part in the quantile that
later prices are compared with.
-/

import ArbitrageBot.System.Freshness

namespace ArbitrageBot

open DecimalRounding Quantile Transition

/-- No gas price has been obtained yet, or the most recent probe failed. -/
def gasUnknown (trace : List (Runner × RunnerEvent)) : Bool :=
  let results := recorded RunnerEvent.gasResult trace
  !(results.any fun result => result.value.isSome) ||
    results.getLast?.any fun result => result.value.isNone

/-- The gas probes that the collector still holds, the failed ones as such. -/
def keptGas (runner : Runner) (trace : List (Runner × RunnerEvent)) : List (Option Rat) :=
  let results := (recorded RunnerEvent.gasResult trace).map Timed.value
  results.drop (results.length - runner.collector.gasSeries.length)

/-- A guard besides the one on gas keeps the quote from being tradable. -/
def blockedOtherwise (settings : Settings) (manager : GlobalRiskManager) (now : Instant)
    (input : Evaluation) : Bool :=
  (evaluateGuards settings manager now input).any fun guard =>
    guard.check ≠ "gas_spike" && !guard.passes

/-! ### The guard on gas -/

section Guard

variable {settings : Settings} {manager : GlobalRiskManager} {now : Instant} {input : Evaluation}

def gasBaseline (gasP90 : Rat) : Rat := if 0 < gasP90 then gasP90 else 1

theorem gasBaseline_pos (gasP90 : Rat) : 0 < gasBaseline gasP90 := by
  unfold gasBaseline
  split
  · assumption
  · exact one_pos

def gasSpikeGuard (settings : Settings) (input : Evaluation) : GuardChain.Guard String String :=
  { check := "gas_spike"
    passes := input.health.gasNow ≤ gasBaseline input.health.gasP90 * settings.gasSpikeMultiplier
    reason := "gas_spike" }

theorem mem_gasSpikeGuard :
    gasSpikeGuard settings input ∈ evaluateGuards settings manager now input := by
  have market : gasSpikeGuard settings input ∈ marketGuards settings input :=
    .tail _ (.tail _ (.tail _ List.mem_cons_self))
  have early := List.mem_append_right
    (pauseGuards manager input.quote ++ healthGuards settings input) market
  exact List.mem_append_left _ (List.mem_append_left _ early)

theorem eq_gasSpikeGuard {guard : GuardChain.Guard String String}
    (member : guard ∈ evaluateGuards settings manager now input)
    (named : guard.check = "gas_spike") :
    guard = gasSpikeGuard settings input := by
  have pauses : ∀ guard ∈ pauseGuards manager input.quote, guard.check ≠ "gas_spike" := by
    simp [pauseGuards]
  have health : ∀ guard ∈ healthGuards settings input, guard.check ≠ "gas_spike" := by
    simp [healthGuards]
  have market : ∀ guard ∈ marketGuards settings input, guard.check = "gas_spike" →
      guard = gasSpikeGuard settings input := by
    simp [marketGuards, gasSpikeGuard, gasBaseline]
  have route : ∀ guard ∈ routeGuards settings (manager.afterEvaluate settings now input) now
      input.quote.routeId, guard.check ≠ "gas_spike" := by
    simp [routeGuards]
  have mode : ∀ guard ∈ modeGuards settings input, guard.check ≠ "gas_spike" := by
    unfold modeGuards
    split <;> simp
  simp only [evaluateGuards, earlyGuards, List.mem_append] at member
  rcases member with (((paused | healthy) | traded) | routed) | moded
  · exact absurd named (pauses guard paused)
  · exact absurd named (health guard healthy)
  · exact market guard traded named
  · exact absurd named (route guard routed)
  · exact absurd named (mode guard moded)

theorem evaluate_tradable_iff_gas :
    (manager.evaluate settings now input).1.tradable = true ↔
      (gasSpikeGuard settings input).passes = true ∧
        blockedOtherwise settings manager now input = false := by
  change (verdict (evaluateGuards settings manager now input)).tradable = true ↔ _
  rw [verdict_tradable, blockedOtherwise, List.any_eq_false]
  constructor
  · intro passes
    refine ⟨passes _ mem_gasSpikeGuard, ?_⟩
    intro guard member
    simp [passes guard member]
  · rintro ⟨gas, others⟩ guard member
    by_cases named : guard.check = "gas_spike"
    · rw [eq_gasSpikeGuard member named]
      exact gas
    · simpa [named] using others guard member

/-- The price zero is too expensive only for a negative multiplier. -/
theorem gasSpikeGuard_zero (free : input.health.gasNow = 0) :
    (gasSpikeGuard settings input).passes = true ↔ 0 ≤ settings.gasSpikeMultiplier := by
  rw [gasSpikeGuard, decide_eq_true_iff, free]
  exact mul_nonneg_iff_of_pos_left (gasBaseline_pos _)

end Guard

/-! ### The series and the probes of a run -/

section Runs

variable {settings : Settings} {allowed : Runner → RunnerEvent → Prop} {db : Database}
  {started : Instant} {trace : List (Runner × RunnerEvent)} {runner : Runner}

theorem gasSeries_values
    (run : Reaches (Runner.step settings) allowed (.launch settings db started) trace runner) :
    runner.collector.gasSeries.map Timed.value = filled 0 (keptGas runner trace) := by
  have kept := (gasSeries_suffix run).map Timed.value
  rw [List.map_map, List.suffix_iff_eq_drop, List.length_map, List.length_map] at kept
  rw [kept, keptGas, filled, List.map_drop, List.map_map, List.length_map]
  rfl

theorem keptGas_nonneg : ∀ price ∈ (keptGas runner trace).reduceOption, 0 ≤ price := by
  intro price member
  have obtained := List.mem_of_mem_drop (List.reduceOption_mem_iff.mp member)
  obtain ⟨result, brought, value⟩ := List.mem_map.mp obtained
  obtain ⟨⟨before, now, action⟩, -, probed⟩ := List.mem_filterMap.mp brought
  cases action with
  | gasProbe wei =>
      cases probed
      obtain ⟨wei, -, rfl⟩ := Option.map_eq_some_iff.mp value
      exact nearest_nonneg 6 (by positivity)
  | _ => cases probed

/-- What stands last while gas is unknown is a failed probe, or nothing at all. -/
theorem last_of_gasUnknown (unknown : gasUnknown trace = true) {result : Timed (Option Rat)}
    (last : (recorded RunnerEvent.gasResult trace).getLast? = some result) :
    result.value = none := by
  rcases Bool.or_eq_true_iff.mp unknown with never | failed
  · have absent := List.any_eq_false.mp ((Bool.not_eq_true' _).mp never) result
      (List.mem_of_getLast? last)
    simpa using absent
  · simpa [last] using failed

theorem gasNow_of_gasUnknown (unknown : gasUnknown trace = true)
    (run : Reaches (Runner.step settings) allowed (.launch settings db started) trace runner) :
    latestValue runner.collector.gasSeries = 0 := by
  unfold latestValue
  cases held : runner.collector.gasSeries.getLast? with
  | none => rfl
  | some newest =>
      obtain ⟨dropped, whole⟩ := gasSeries_suffix run
      have last : ((recorded RunnerEvent.gasResult trace).map gasEntry).getLast? = some newest := by
        rw [← whole, List.getLast?_append, held, Option.some_or]
      rw [List.getLast?_map] at last
      obtain ⟨result, probed, rfl⟩ := Option.map_eq_some_iff.mp last
      simp [gasEntry, last_of_gasUnknown unknown probed]

end Runs

/-- Unknown gas blocks, and failed probes leave the baseline alone, exactly when a failure makes no
difference: something else blocks, and the price at the rank is the one among the obtained. -/
theorem unknown_gas_blocked_iff (settings : Settings) (db : Database) (started : Instant)
    (trace : List (Runner × RunnerEvent)) (runner : Runner)
    (run : Reaches (Runner.step settings) anyStep (.launch settings db started) trace runner)
    (event : RunnerEvent) (input : Evaluation)
    (asked : runner.evaluation settings event = some input) :
    ((gasUnknown trace = true →
          (runner.bot.manager.evaluate settings event.1 input).1.tradable = false) ∧
        input.health.gasP90 = quantile (9 / 10) 0 (keptGas runner trace).reduceOption) ↔
      (gasUnknown trace = false ∨ settings.gasSpikeMultiplier < 0 ∨
          blockedOtherwise settings runner.bot.manager event.1 input = true) ∧
        KeepsRank (9 / 10) 0 (keptGas runner trace) := by
  obtain ⟨gasNow, gasP90⟩ := Runner.evaluation_gas asked
  have baseline : input.health.gasP90 = quantile (9 / 10) 0 (filled 0 (keptGas runner trace)) := by
    rw [gasP90, quantileOf, gasSeries_values run]
  rw [baseline, quantile_filled_eq_iff keptGas_nonneg]
  apply and_congr_left'
  cases unknown : gasUnknown trace with
  | false => simp
  | true =>
      have free : input.health.gasNow = 0 := gasNow.trans (gasNow_of_gasUnknown unknown run)
      rw [← Bool.not_eq_true, evaluate_tradable_iff_gas, gasSpikeGuard_zero free]
      simp only [true_implies, not_and_or, not_le, Bool.true_eq_false, false_or, Bool.not_eq_false]

/-! ### Six prices and a failure -/

open Sample (tradingSettings healthRound scanRound judge)

/-- A round every second, each with its own answer to the gas probe. -/
def healthRounds (answers : List (Option Nat)) : List RunnerEvent :=
  answers.zipIdx.flatMap fun (wei, index) => healthRound (seconds index) wei

def risingPrices : List (Option Nat) :=
  (List.range 6).map fun step => some ((step + 1) * 1000000000)

def toJudge (answers : List (Option Nat)) : List RunnerEvent :=
  healthRounds answers ++ scanRound 10000000

theorem unknown_gas_blocked_iff_steady :
    ∃ trace runner input, Reaches (Runner.step tradingSettings) anyStep
        (.launch tradingSettings Sample.db 0) trace runner ∧
      runner.evaluation tradingSettings (judge 10000000) = some input ∧
      (gasUnknown trace = true →
        (runner.bot.manager.evaluate tradingSettings 10000000 input).1.tradable = false) ∧
      input.health.gasP90 = quantile (9 / 10) 0 (keptGas runner trace).reduceOption := by
  have found : (follow (Runner.step tradingSettings) (.launch tradingSettings Sample.db 0)
      (toJudge risingPrices)).any (fun done =>
        !gasUnknown done.1 && decide (KeepsRank (9 / 10) 0 (keptGas done.2 done.1)) &&
          (done.2.evaluation tradingSettings (judge 10000000)).isSome) = true := by
    decide +kernel
  obtain ⟨trace, runner, run, checked⟩ : ∃ trace runner, Reaches (Runner.step tradingSettings)
      anyStep (.launch tradingSettings Sample.db 0) trace runner ∧ _ :=
    exists_run found fun _ _ _ _ => trivial
  simp only [Bool.and_eq_true, Bool.not_eq_true', decide_eq_true_eq] at checked
  obtain ⟨⟨known, keeps⟩, evaluates⟩ := checked
  obtain ⟨input, asked⟩ := Option.isSome_iff_exists.mp evaluates
  exact ⟨trace, runner, input, run, asked, (unknown_gas_blocked_iff tradingSettings Sample.db 0 trace
    runner run (judge 10000000) input asked).mpr ⟨.inl known, keeps⟩⟩

theorem failed_gas_probe_tradable :
    ∃ trace runner input, Reaches (Runner.step tradingSettings) anyStep
        (.launch tradingSettings Sample.db 0) trace runner ∧
      runner.evaluation tradingSettings (judge 10000000) = some input ∧
      gasUnknown trace = true ∧
      (runner.bot.manager.evaluate tradingSettings 10000000 input).1.tradable = true ∧
      input.health.gasP90 ≠ quantile (9 / 10) 0 (keptGas runner trace).reduceOption := by
  have found : (follow (Runner.step tradingSettings) (.launch tradingSettings Sample.db 0)
      (toJudge (risingPrices ++ [none]))).any (fun done => gasUnknown done.1 &&
        (done.2.evaluation tradingSettings (judge 10000000)).any fun input =>
          (done.2.bot.manager.evaluate tradingSettings 10000000 input).1.tradable &&
            decide (input.health.gasP90 ≠
              quantile (9 / 10) 0 (keptGas done.2 done.1).reduceOption)) = true := by
    decide +kernel
  obtain ⟨trace, runner, run, checked⟩ : ∃ trace runner, Reaches (Runner.step tradingSettings)
      anyStep (.launch tradingSettings Sample.db 0) trace runner ∧ _ :=
    exists_run found fun _ _ _ _ => trivial
  obtain ⟨unknown, evaluates⟩ := Bool.and_eq_true_iff.mp checked
  obtain ⟨input, asked, passes⟩ := (Option.any_eq_true _ _).mp evaluates
  simp only [Bool.and_eq_true, decide_eq_true_eq] at passes
  exact ⟨trace, runner, input, run, asked, unknown, passes⟩

end ArbitrageBot
