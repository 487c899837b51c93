/-
A fatal pause in the readiness and commissioning reports. The reports read the row of
`route_runtime_states`, so the pause has to stay in the manager and its record has to
reach the row and stay there.
-/

import ArbitrageBot.Readiness.Commissioning
import ArbitrageBot.System.FatalPause

namespace ArbitrageBot

open Transition

def RiskOp.resumes (route : String) (op : RiskOp) : Bool :=
  op matches .resumeRoute _ && op.touches route

/-- Nobody releases the route, and the loop does not lose its upsert. -/
structure KeepsReport (settings : Settings) (route : String) (bot : Bot) (event : Event) : Prop where
  alone : LeavesAlone settings route bot event
  persists : event.2 = .scanRaise → ∀ state, bot.scan.upsert ≠ some (route, state)

def reportTest (settings : Settings) (route : String) (entry : Bot × Event) : Bool :=
  aloneTest settings route entry && entry.2.2 matches .scan _

theorem keepsReport_of_test {settings : Settings} {route : String} {bot : Bot} {event : Event}
    (passes : reportTest settings route (bot, event) = true) :
    KeepsReport settings route bot event := by
  obtain ⟨alone, scanned⟩ := Bool.and_eq_true_iff.mp passes
  refine ⟨leavesAlone_of_test alone, fun raised => ?_⟩
  rw [raised] at scanned
  cases scanned

section Reported

variable {settings : Settings} {route : String} {record : RouteState} {attempts : Nat}
  {bot after : Bot} {event : Event}

/-- The failure record is frozen, and is what every writer of the row carries. -/
structure Reported (route : String) (record : RouteState) (attempts : Nat) (bot : Bot) : Prop where
  frozen : Frozen route record attempts bot
  inFlight : ∀ state, (route, state) ∈ bot.upserts → state = record
  written : bot.scan.upsert = some (route, record) ∨
    bot.db.getRouteRuntimeState route = some record

theorem Reported.step_written (reported : Reported route record attempts bot)
    (permitted : KeepsReport settings route bot event)
    (taken : bot.step settings event = some after) :
    after.scan.upsert = some (route, record) ∨
      after.db.getRouteRuntimeState route = some record := by
  rcases Bot.step_row taken route with ⟨state, upsert, written⟩ | ⟨notCommitted, kept⟩
  · right
    rw [written, reported.inFlight state (Bot.commits_mem_upserts upsert)]
  · rcases reported.written with due | written
    · rcases Bot.step_scan taken with ⟨answers, scanned, -⟩ | ⟨raised, -⟩ | ⟨-, same⟩
      · have upsert : bot.commits event = some (route, record) := by
          rw [Bot.commits, scanned]
          exact due
        exact absurd upsert (notCommitted record)
      · exact absurd due (permitted.persists raised record)
      · left
        rw [same]
        exact due
    · right
      rw [kept]
      exact written

theorem Reported.step (reported : Reported route record attempts bot)
    (permitted : KeepsReport settings route bot event)
    (taken : bot.step settings event = some after) : Reported route record attempts after where
  frozen := reported.frozen.step permitted.alone taken
  inFlight := by
    intro state inFlight
    rcases Bot.step_upserts taken inFlight with already | snapshot
    · exact reported.inFlight state already
    · exact snapshot.trans (reported.frozen.step_state permitted.alone taken)
  written := reported.step_written permitted taken

theorem reported_of_recordsFatal (lawful : bot.lawful) (free : ∀ state, (route, state) ∉ bot.upserts)
    (taken : bot.step settings event = some after)
    (failed : bot.recordsFatal settings event route = true) :
    Reported route (after.manager.getRouteState route) (after.db.attemptsOf route) after where
  frozen := frozen_of_recordsFatal lawful taken failed
  inFlight := by
    intro state inFlight
    rcases Bot.step_upserts taken inFlight with already | snapshot
    · exact absurd already (free state)
    · exact snapshot
  written := .inl (Bot.step_recordsFatal lawful taken failed).2.2

end Reported

/-- A row with a fatal pause is reported as such, in red, and is not ready for anything. -/
theorem reports_fatal_of_row {settings : Settings} {route : Route} {now : Instant}
    {input : ReadinessInput} {stats : CommissioningStats} {record : RouteState}
    (read : input.runtime = some record) (paused : record.paused = true)
    (fatal : record.lastFailureFatal = true) :
    (readinessRow settings route now input).fatalPaused = true ∧
      (readinessRow settings route now input).grade = .red ∧
      (commissioningRow settings route stats
        (some (readinessRow settings route now input))).promotionGateStatus = .promotionBlocked := by
  have reported : (readinessRow settings route now input).fatalPaused = true := by
    simp only [readinessRow, readinessFacts, read, Option.any_some, paused, fatal, Bool.and_self]
  exact ⟨reported, readinessRow_red_of_fatalPaused reported,
    commissioningRow_blocked_of_fatalPaused reported⟩

/-- From the commit of a fatal failure on, and until an operator releases the route or clears its
cooldown, readiness reports the pause in red and commissioning reports no readiness. -/
theorem fatal_pause_reported (settings : Settings) (start : Bot) (noHandlers : start.handlers = [])
    (past : List (Bot × Event)) (before : Bot)
    (reached : Reaches (Bot.step settings) anyStep start past before) (event : Event) (after : Bot)
    (taken : before.step settings event = some after) (route : Route)
    (failed : before.recordsFatal settings event route.id = true)
    (free : ∀ state, (route.id, state) ∉ before.upserts) (trace : List (Bot × Event)) (bot : Bot)
    (run : Reaches (Bot.step settings) (KeepsReport settings route.id) after trace bot)
    (persisted : ∀ state, bot.scan.upsert ≠ some (route.id, state)) (now : Instant)
    (input : ReadinessInput) (read : input.runtime = bot.db.getRouteRuntimeState route.id)
    (stats : CommissioningStats) :
    (readinessRow settings route now input).fatalPaused = true ∧
      (readinessRow settings route now input).grade = .red ∧
      (commissioningRow settings route stats
        (some (readinessRow settings route now input))).promotionGateStatus ≠ .reviewReady ∧
      (commissioningRow settings route stats
        (some (readinessRow settings route now input))).promotionGateStatus ≠ .observationReady := by
  have lawful : before.lawful := Bot.reaches_lawful noHandlers reached
  obtain ⟨paused, fatal, -⟩ := Bot.step_recordsFatal lawful taken failed
  have reported := run.invariant (reported_of_recordsFatal lawful free taken failed)
    fun _ _ _ held permitted stepped => held.step permitted stepped
  have row := reported.written.resolve_left (persisted _)
  obtain ⟨inRow, red, blocked⟩ :=
    @reports_fatal_of_row settings route now input stats _ (read.trans row) paused fatal
  refine ⟨inRow, red, ?_, ?_⟩
  · rw [blocked]
    nofun
  · rw [blocked]
    nofun

def readyRoute (runtime : Option RouteState) : ReadinessInput :=
  { runtime := runtime
    latestHealth := some
      { supportStatus := some "supported", feeKnownStatus := some "venue_declared"
        balanceMatchStatus := some "wallet_verified", quoteMatchStatus := some "matched"
        cooldownActive := false }
    observationCount := 6000
    backtestRunCount := 6
    quoteUnavailableRate := 0 }

def readyStats : CommissioningStats :=
  { observationWindowDays := 30, marketSnapshotCount := 6000, opportunityCount := 6000
    backtestRunCountTotal := 6, backtestRunCountMarketSnapshots := 3
    backtestRunCountOpportunities := 3, quoteUnavailableRate := 0, healthUnknownRate := 0
    feeUnverifiedRate := 0, balanceUnverifiedRate := 0, quoteMismatchRate := 0
    fatalPauseCount := 1, cooldownEventCount := 1 }

def sampleReport (bot : Bot) : ReadinessRow :=
  readinessRow shipped Sample.route 13 (readyRoute (bot.db.getRouteRuntimeState "r"))

theorem fatal_pause_reported_missing_quote :
    ∃ after trace bot,
      Reaches (Bot.step shipped) (KeepsReport shipped "r") after trace bot ∧
      (sampleReport bot).fatalPaused = true ∧ (sampleReport bot).grade = .red := by
  have found : ((follow (Bot.step shipped) Sample.serving Sample.toFailure).any fun past =>
      (Bot.step shipped past.2 (7, .scan {})).any fun after =>
        (past.2.recordsFatal shipped (7, .scan {}) "r" && past.2.upserts.isEmpty) &&
          (follow (Bot.step shipped) after [(8, .scan {})]).any fun done =>
            done.1.all (reportTest shipped "r") && done.2.scan.upsert.isNone) = true := by
    decide +kernel
  obtain ⟨past, before, after, trace, bot, reached, taken, passing, run, checked⟩ :=
    exists_run_through found fun done checked entry member =>
      keepsReport_of_test (List.all_eq_true.mp (Bool.and_eq_true_iff.mp checked).1 entry member)
  obtain ⟨failed, noUpserts⟩ := Bool.and_eq_true_iff.mp passing
  have free : ∀ state, ("r", state) ∉ before.upserts := by
    rw [List.isEmpty_iff.mp noUpserts]
    exact fun _ => List.not_mem_nil
  have committed : ∀ state, bot.scan.upsert ≠ some ("r", state) := by
    rw [Option.isNone_iff_eq_none.mp (Bool.and_eq_true_iff.mp checked).2]
    nofun
  have reported := fatal_pause_reported shipped Sample.serving rfl past before reached
    (7, .scan {}) after taken Sample.route failed free trace bot run committed 13
    (readyRoute (bot.db.getRouteRuntimeState "r")) rfl readyStats
  exact ⟨after, trace, bot, run, reported.1, reported.2.1⟩

/-- A fatal failure has been the route's first pause, nobody has enabled the route since, and
nothing is in flight. -/
def pausedForGood (settings : Settings) (route : String) (done : List (Bot × Event) × Bot) : Bool :=
  done.1.any (fun entry => entry.1.recordsFatal settings entry.2 route &&
      route ∉ entry.1.manager.routePaused) &&
    done.1.all (fun entry => (entry.1.operations settings entry.2).all fun op => !op.resumes route) &&
    done.2.upserts.isEmpty && done.2.handlers.all (fun handler => handler.todo.isEmpty) &&
    route ∈ done.2.manager.routePaused

/-- The failure is persisted, and then the route's cooldown is cleared, to the end: the route is
still paused, and is ready for review. -/
theorem cleared_cooldown_hides_pause :
    ∃ trace bot, Reaches (Bot.step shipped) anyStep Sample.serving trace bot ∧
      pausedForGood shipped "r" (trace, bot) = true ∧
      (sampleReport bot).fatalPaused = false ∧ (sampleReport bot).grade = .green ∧
      (commissioningRow shipped Sample.route readyStats
        (some (sampleReport bot))).promotionGateStatus = .reviewReady := by
  have found : (follow (Bot.step shipped) Sample.serving
      (Sample.toFailure ++ [(7, .scan {}), (8, .scan {}), (9, .request (.clearCooldown (some "r"))),
        (10, .handler 0), (11, .handler 0), (12, .handler 0), (13, .handler 0)])).any (fun done =>
      pausedForGood shipped "r" done && !(sampleReport done.2).fatalPaused &&
        (sampleReport done.2).grade = .green &&
        (commissioningRow shipped Sample.route readyStats
          (some (sampleReport done.2))).promotionGateStatus = .reviewReady) = true := by
    decide +kernel
  obtain ⟨trace, bot, run, checked⟩ : ∃ trace bot,
      Reaches (Bot.step shipped) anyStep Sample.serving trace bot ∧ _ :=
    exists_run found fun _ _ _ _ => trivial
  simp only [Bool.and_eq_true, Bool.not_eq_true', decide_eq_true_eq] at checked
  obtain ⟨⟨⟨paused, hidden⟩, green⟩, ready⟩ := checked
  exact ⟨trace, bot, run, paused, hidden, green, ready⟩

end ArbitrageBot
