/-
The two loops of the runner over one health collector. The scan loop stores quality statuses
and quote probes and judges each quote by the collector's snapshot; the health loop records the
probes of RPC, database and gas, at its own pace.
-/

import ArbitrageBot.Health.Collector
import ArbitrageBot.System.ScanLoop

namespace ArbitrageBot

open DecimalRounding Transition

/-- Where the health loop is: it probes RPC, database and gas in this order. -/
inductive HealthPc
  | probingRpc | probingDb | probingGas
deriving DecidableEq

structure RpcAnswer where
  latencyMs : Rat
  ok : Bool

/-- What the scan loop probes beside the quote, and whether its alert went out. -/
structure Probes where
  signingStatus : String := "unknown"
  balanceStatus : String := "unknown"
  balanceReason : String := ""
  alertSent : Bool := true

structure Runner where
  bot : Bot
  collector : HealthCollector
  healthLoop : HealthPc
  /-- The quote that the scan loop holds while it probes the balance. -/
  quoted : Option (Except String QuoteAnswer)
  startupAlerted : Bool
  clock : Instant

inductive RunnerAction
  | bot (action : Action) (probes : Probes)
  | startupAlert (sentOk : Bool)
  | quote (answer : Except String QuoteAnswer) (latencyMs : Rat)
  | rpcProbe (hyper base : RpcAnswer)
  | dbProbe (latencyMs : Option Rat)
  | gasProbe (wei : Option Nat)
  | healthRaise

abbrev RunnerEvent := Instant × RunnerAction

/-! ### The scan loop and the collector -/

/-- `quote.metadata.get(key) or quote.metadata.get(other)`. -/
def Metadata.getOr (metadata : Metadata) (key other : String) : Option String :=
  match metadata.lookup key with
  | none | some "" => metadata.lookup other
  | some text => some text

def RouteQuote.qualityStatus (quote : RouteQuote) (probes : Probes) : QualityStatus :=
  { signingStatus := some probes.signingStatus
    feeKnownStatus := some (normalizeFeeConfidence
      (quote.metadata.getOr "fee_known_status" "fee_known") none).text
    feeProvenance := quote.metadata.getOr "fee_provenance" "fee_source"
    quoteMatchStatus := some (normalizeQuoteMatchStatus
      (quote.metadata.getOr "quote_match_status" "quote_match")).text
    balanceMatchStatus := some probes.balanceStatus
    balanceFailureReason := some probes.balanceReason }

namespace HealthCollector

variable (collector : HealthCollector) (now : Instant)

/-- Both venues are recorded alike, and the liquidity only with a quote. -/
def recordQuote (cursor : ScanCursor) (answer : Except String QuoteAnswer) (latencyMs : Rat) :
    HealthCollector :=
  let age := (cursor.quote answer).quoteAgeSeconds
  match answer with
  | .ok found =>
      ((collector.recordQuoteProbe now cursor.route.venueA latencyMs age true false).recordQuoteProbe
        now cursor.route.venueB latencyMs age true false).recordLiquidity now cursor.route.id
          found.smallerPoolLiquidityUsdc
  | .error _ =>
      (collector.recordQuoteProbe now cursor.route.venueA latencyMs age false true).recordQuoteProbe
        now cursor.route.venueB latencyMs age false true

/-- What the scan loop records on leaving a place other than a quote. -/
def recordScan (place : ScanPc) (probes : Probes) : HealthCollector :=
  match place with
  | .idle => collector.setHeartbeat now
  | .ddPausing _ _ _ => collector.recordAlertResult now probes.alertSent
  | .recording _ trade _ =>
      (collector.recordExecutionResult now trade.outcome.txStatus).recordAlertResult now
        probes.alertSent
  | _ => collector

def recordRpc (hyper base : RpcAnswer) : HealthCollector :=
  let combinedLatency :=
    if hyper.ok && base.ok then (hyper.latencyMs + base.latencyMs) / 2
    else if hyper.ok then hyper.latencyMs
    else base.latencyMs
  collector.recordRpcProbe now combinedLatency (hyper.ok && base.ok)

/-- A probe that raised is recorded as a failure without latency. -/
def recordDb (latencyMs : Option Rat) : HealthCollector :=
  match latencyMs with
  | some latency => collector.recordDbLatency now latency true
  | none => collector.recordDbLatency now 0 false

variable {collector now}

theorem recordQuote_drops {cursor : ScanCursor} {answer : Except String QuoteAnswer}
    {latencyMs : Rat} : collector.Drops (collector.recordQuote now cursor answer latencyMs) := by
  cases answer with
  | ok found =>
      exact (recordQuoteProbe_drops.trans recordQuoteProbe_drops).trans recordLiquidity_drops
  | error reason => exact recordQuoteProbe_drops.trans recordQuoteProbe_drops

theorem recordQuote_since {cursor : ScanCursor} {answer : Except String QuoteAnswer} {latencyMs : Rat}
    (rpc : collector.rpcResults.Pairwise fun earlier later => earlier.ts ≤ later.ts)
    (db : collector.dbResults.Pairwise fun earlier later => earlier.ts ≤ later.ts) :
    (collector.recordQuote now cursor answer latencyMs).Since (now - minutes 5) := by
  cases answer with
  | ok found =>
      exact ((recordQuoteProbe_since rpc db).of_drops recordQuoteProbe_drops).of_drops
        recordLiquidity_drops
  | error reason => exact (recordQuoteProbe_since rpc db).of_drops recordQuoteProbe_drops

theorem recordScan_drops {place : ScanPc} {probes : Probes} :
    collector.Drops (collector.recordScan now place probes) := by
  cases place with
  | idle => exact ⟨List.suffix_rfl, List.suffix_rfl, List.suffix_rfl⟩
  | ddPausing => exact recordAlertResult_drops
  | recording => exact recordExecutionResult_drops.trans recordAlertResult_drops
  | _ => exact .refl collector

end HealthCollector

/-- `_probe_gas_gwei`: an error, a timeout or a missing result is the number zero. -/
def probeGasGwei (wei : Option Nat) : Rat :=
  match wei with
  | some wei => nearest 6 ((wei : Rat) / 1000000000)
  | none => 0

/-! ### The step -/

namespace Runner

variable (settings : Settings) (runner : Runner)

/-- `set_quality_status`, then `to_risk_snapshot`, in one stretch. -/
def observe (now : Instant) (cursor : ScanCursor) (answer : Except String QuoteAnswer)
    (probes : Probes) : HealthSnapshot × HealthCollector :=
  (runner.collector.setQualityStatus now
    ((cursor.quote answer).qualityStatus probes)).toRiskSnapshot now cursor.route.id

def botStep (now : Instant) (action : Action) (probes : Probes) : Option Runner :=
  match action, runner.bot.scan with
  | .scan answers, .quoting cursor =>
      match runner.quoted with
      | none => none
      | some answer =>
          let (health, collector) := runner.observe now cursor answer probes
          (runner.bot.step settings (now, .scan { answers with quote := answer, health })).map
            fun bot => { runner with bot, collector, quoted := none }
  | .scan answers, place =>
      (runner.bot.step settings (now, .scan answers)).map fun bot =>
        { runner with bot, collector := runner.collector.recordScan now place probes }
  | .scanRaise, _ =>
      (runner.bot.step settings (now, .scanRaise)).map fun bot =>
        { runner with
          bot, collector := runner.collector.recordAlertResult now probes.alertSent
          quoted := none }
  | action, _ => (runner.bot.step settings (now, action)).map fun bot => { runner with bot }

def step (event : RunnerEvent) : Option Runner :=
  let now := event.1
  let runner := { runner with clock := now }
  match event.2 with
  | .bot action probes => runner.botStep settings now action probes
  | .startupAlert sentOk =>
      if runner.bot.boot = .serving ∧ !runner.startupAlerted then
        some
          { runner with
            collector := runner.collector.recordAlertResult now sentOk, startupAlerted := true }
      else none
  | .quote answer latencyMs =>
      match runner.bot.scan, runner.quoted with
      | .quoting cursor, none =>
          some
            { runner with
              collector := runner.collector.recordQuote now cursor answer latencyMs
              quoted := some answer }
      | _, _ => none
  | .rpcProbe hyper base =>
      match runner.healthLoop with
      | .probingRpc =>
          some
            { runner with
              collector := runner.collector.recordRpc now hyper base, healthLoop := .probingDb }
      | _ => none
  | .dbProbe latencyMs =>
      match runner.healthLoop with
      | .probingDb =>
          some
            { runner with
              collector := runner.collector.recordDb now latencyMs, healthLoop := .probingGas }
      | _ => none
  | .gasProbe wei =>
      match runner.healthLoop with
      | .probingGas =>
          -- the loop also builds a snapshot of its own, for the metrics
          some
            { runner with
              collector :=
                ((runner.collector.recordGas now (probeGasGwei wei)).buildSnapshot now "global").2
              healthLoop := .probingRpc }
      | _ => none
  | .healthRaise => some { runner with healthLoop := .probingRpc }

def launch (settings : Settings) (db : Database) (now : Instant) : Runner :=
  { bot := .launch settings db now, collector := .create now, healthLoop := .probingRpc
    quoted := none, startupAlerted := false, clock := now }

/-- What the manager is asked at an event, if the loop stands at an evaluation. -/
def evaluation (event : RunnerEvent) : Option Evaluation :=
  match event.2, runner.bot.scan, runner.quoted with
  | .bot (.scan answers) probes, .quoting cursor, some answer =>
      some (cursor.evaluation settings
        { answers with
          quote := answer, health := (runner.observe event.1 cursor answer probes).1 })
  | _, _, _ => none

def tradable (event : RunnerEvent) : Bool :=
  (runner.evaluation settings event).any fun input =>
    (runner.bot.manager.evaluate settings event.1 input).1.tradable

def onward (runner : Runner) (event : RunnerEvent) : Prop := runner.clock ≤ event.1

/-! ### What a step does to the bot, and what an evaluation sees -/

section

variable {settings runner} {after : Runner} {event : RunnerEvent}

theorem botStep_some {now : Instant} {action : Action} {probes : Probes}
    (taken : runner.botStep settings now action probes = some after) :
    (∃ botEvent, botEvent.1 = now ∧ runner.bot.step settings botEvent = some after.bot) ∧
      after.clock = runner.clock ∧ runner.collector.Drops after.collector ∧
      (after.quoted = none ∨ after.quoted = runner.quoted) := by
  unfold botStep at taken
  split at taken
  · split at taken
    · cases taken
    · obtain ⟨bot, stepped, rfl⟩ := Option.map_eq_some_iff.mp taken
      exact ⟨⟨_, rfl, stepped⟩, rfl, ⟨List.suffix_rfl, List.suffix_rfl, List.suffix_rfl⟩, .inl rfl⟩
  · obtain ⟨bot, stepped, rfl⟩ := Option.map_eq_some_iff.mp taken
    exact ⟨⟨_, rfl, stepped⟩, rfl, HealthCollector.recordScan_drops, .inr rfl⟩
  · obtain ⟨bot, stepped, rfl⟩ := Option.map_eq_some_iff.mp taken
    exact ⟨⟨_, rfl, stepped⟩, rfl, HealthCollector.recordAlertResult_drops, .inl rfl⟩
  · obtain ⟨bot, stepped, rfl⟩ := Option.map_eq_some_iff.mp taken
    exact ⟨⟨_, rfl, stepped⟩, rfl, .refl _, .inr rfl⟩

theorem step_bot (taken : runner.step settings event = some after) :
    after.bot = runner.bot ∨
      ∃ botEvent, botEvent.1 = event.1 ∧ runner.bot.step settings botEvent = some after.bot := by
  obtain ⟨now, action⟩ := event
  cases action with
  | bot action probes =>
      obtain ⟨stepped, -⟩ :=
        @botStep_some settings { runner with clock := now } after now action probes taken
      exact .inr stepped
  | healthRaise =>
      cases taken
      exact .inl rfl
  | _ =>
      left
      simp only [step] at taken
      split at taken
      · cases taken
        rfl
      · cases taken

theorem step_clock (taken : runner.step settings event = some after) : after.clock = event.1 := by
  obtain ⟨now, action⟩ := event
  cases action with
  | bot action probes =>
      obtain ⟨-, same, -⟩ :=
        @botStep_some settings { runner with clock := now } after now action probes taken
      exact same
  | healthRaise =>
      cases taken
      rfl
  | _ =>
      simp only [step] at taken
      split at taken
      · cases taken
        rfl
      · cases taken

/-- The quote that the loop holds was recorded when it came, or is held already. -/
theorem step_quoted (taken : runner.step settings event = some after)
    {answer : Except String QuoteAnswer} (held : after.quoted = some answer) :
    (∃ cursor latencyMs, event.2 = .quote answer latencyMs ∧
        after.collector = runner.collector.recordQuote event.1 cursor answer latencyMs) ∨
      (∀ other latencyMs, event.2 ≠ .quote other latencyMs) ∧ runner.quoted = some answer := by
  obtain ⟨now, action⟩ := event
  cases action with
  | bot action probes =>
      obtain ⟨-, -, -, cleared | same⟩ :=
        @botStep_some settings { runner with clock := now } after now action probes taken
      · rw [cleared] at held
        cases held
      · exact .inr ⟨fun _ _ => nofun, same ▸ held⟩
  | quote given latencyMs =>
      simp only [step] at taken
      split at taken
      · cases taken
        cases held
        exact .inl ⟨_, latencyMs, rfl, rfl⟩
      · cases taken
  | healthRaise =>
      cases taken
      exact .inr ⟨fun _ _ => nofun, held⟩
  | _ =>
      simp only [step] at taken
      split at taken
      · cases taken
        exact .inr ⟨fun _ _ => nofun, held⟩
      · cases taken

/-- Refinement: seen without its collector, a run of the runner is a run of the bot. -/
theorem reaches_bot {allowed : Runner → RunnerEvent → Prop} {start : Runner}
    {trace : List (Runner × RunnerEvent)}
    (run : Reaches (Runner.step settings) allowed start trace runner) :
    ∃ past, Reaches (Bot.step settings) anyStep start.bot past runner.bot := by
  apply run.invariant ⟨[], .refl⟩
  rintro before event after ⟨past, earlier⟩ - taken
  rcases step_bot taken with same | ⟨botEvent, -, stepped⟩
  · rw [same]
    exact ⟨past, earlier⟩
  · exact ⟨_, .snoc earlier trivial stepped⟩

variable {input : Evaluation}

theorem evaluation_some (asked : runner.evaluation settings event = some input) :
    ∃ answers probes cursor answer, event.2 = .bot (.scan answers) probes ∧
      runner.bot.scan = .quoting cursor ∧ runner.quoted = some answer ∧
      input = cursor.evaluation settings
        { answers with
          quote := answer, health := (runner.observe event.1 cursor answer probes).1 } := by
  unfold evaluation at asked
  split at asked
  · rename_i answers probes cursor answer evaluates place held
    exact ⟨answers, probes, cursor, answer, evaluates, place, held, (Option.some.inj asked).symm⟩
  · cases asked

/-- The verdict that the bot's own step computes at an evaluation is the one on this input. -/
theorem evaluation_verdict (asked : runner.evaluation settings event = some input) :
    ∃ botEvent, botEvent.1 = event.1 ∧
      runner.bot.verdict settings botEvent = some (input.quote.routeId,
        (runner.bot.manager.evaluate settings event.1 input).1) ∧
      (runner.step settings event).map Runner.bot = runner.bot.step settings botEvent := by
  obtain ⟨answers, probes, cursor, answer, evaluates, place, held, rfl⟩ := evaluation_some asked
  obtain ⟨now, action⟩ := event
  change action = _ at evaluates
  subst evaluates
  refine ⟨(now, .scan { answers with
    quote := answer, health := (runner.observe now cursor answer probes).1 }), rfl, ?_, ?_⟩
  · rw [ScanCursor.evaluation_routeId]
    simp only [Bot.verdict, place]
  · simp only [step, botStep, place, held, Option.map_map]
    exact congrArg (Option.map · _) rfl

/-- The guard on the age of the snapshot has nothing to look at: the status is stored in the
same stretch that reads its age. -/
theorem evaluation_healthAge (asked : runner.evaluation settings event = some input) :
    input.health.healthAgeSeconds = 0 := by
  obtain ⟨answers, probes, cursor, answer, -, -, -, rfl⟩ := evaluation_some asked
  change totalSeconds (event.1 - event.1) = 0
  simp only [sub_self, totalSeconds, Int.cast_zero, zero_div]

theorem evaluation_known (asked : runner.evaluation settings event = some input) :
    (input.health.dbKnown = true ↔ runner.collector.dbResults ≠ []) ∧
      (input.health.rpcKnown = true ↔ runner.collector.rpcResults ≠ []) := by
  obtain ⟨answers, probes, cursor, answer, -, -, -, rfl⟩ := evaluation_some asked
  exact ⟨decide_eq_true_iff, decide_eq_true_iff⟩

theorem evaluation_gas (asked : runner.evaluation settings event = some input) :
    input.health.gasNow = latestValue runner.collector.gasSeries ∧
      input.health.gasP90 = quantileOf (9 / 10) runner.collector.gasSeries := by
  obtain ⟨answers, probes, cursor, answer, -, -, -, rfl⟩ := evaluation_some asked
  exact ⟨rfl, rfl⟩

theorem tradable_some (traded : runner.tradable settings event = true) :
    ∃ input, runner.evaluation settings event = some input ∧
      (runner.bot.manager.evaluate settings event.1 input).1.tradable = true :=
  (Option.any_eq_true _ _).mp traded

end

end Runner

end ArbitrageBot
