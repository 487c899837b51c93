/-
The rate of unavailable quotes in the commissioning stats against the calls of
the quote engine. The rate counts a blocked reason, and a paused route is
blocked for its pause before anyone looks at the quote; the first quote that
is missing pauses the route.
-/

import ArbitrageBot.Library.Transition
import ArbitrageBot.QuoteEngine.Engine
import ArbitrageBot.System.Statistics

namespace ArbitrageBot

open Transition

/-! ### Scans of a route -/

def ScanAnswers.raised (answers : ScanAnswers) : Bool :=
  match answers.quote with
  | .ok _ => false
  | .error _ => true

/-- What the loop holds of a route between its evaluation and its row. -/
def ScanPc.judged? : ScanPc → Option (ScanCursor × RouteQuote × OpportunityDecision)
  | .observing cursor quote decision => some (cursor, quote, decision)
  | _ => none

def ScanPc.scanning (routeId : String) : ScanPc → Bool
  | .quoting cursor | .observing cursor _ _ => cursor.route.id = routeId
  | _ => false

namespace Bot

def quoteCall (bot : Bot) (event : Event) : Option (ScanCursor × ScanAnswers) :=
  match event.2, bot.scan with
  | .scan answers, .quoting cursor => some (cursor, answers)
  | _, _ => none

variable (routeId : String) (bot : Bot) (event : Event)

def scansRoute : Bool := (bot.quoteCall event).any fun call => call.1.route.id = routeId

def scanRaises : Bool :=
  (bot.quoteCall event).any fun call => call.1.route.id = routeId && call.2.raised

/-- The engine raised for a route that was paused already. -/
def scanRaisesPaused : Bool := bot.scanRaises routeId event && routeId ∈ bot.manager.routePaused

end Bot

def scanCount (routeId : String) (trace : List (Bot × Event)) : Nat :=
  trace.countP fun entry => entry.1.scansRoute routeId entry.2

def raisedCount (routeId : String) (trace : List (Bot × Event)) : Nat :=
  trace.countP fun entry => entry.1.scanRaises routeId entry.2

def hiddenCount (routeId : String) (trace : List (Bot × Event)) : Nat :=
  trace.countP fun entry => entry.1.scanRaisesPaused routeId entry.2

/-- No operator, no global pause where the route is judged, quotes of the engines only, and no scan
of the route cut off before its row. -/
structure Unattended (settings : Settings) (routeId : String) (bot : Bot) (event : Event) :
    Prop where
  noRequest : ∀ request, event.2 ≠ .request request
  running : ∀ call, bot.quoteCall event = some call → call.1.route.id = routeId →
    bot.manager.globalKillSwitch = false
  engine : ∀ call found, bot.quoteCall event = some call → call.1.route.id = routeId →
    call.2.quote = .ok found → AvailableQuote settings call.1.route found
  carriedOut : event.2 = .scanRaise → bot.scan.scanning routeId = false

/-! ### One step -/

namespace Bot

variable {settings : Settings} {bot after : Bot} {event : Event}

theorem forRoutes_judged (mode : RunMode) (balance : Rat) (routes : List Route) :
    (ScanPc.forRoutes mode balance routes).judged? = none := by
  rcases ScanPc.forRoutes_cases mode balance routes with idle | ⟨cursor, quoting⟩
  · rw [idle]
    rfl
  · rw [quoting]
    rfl

/-- A step calls the engine and judges its answer, or it writes the row of what was judged, or it
does neither. -/
inductive ScanRecord (settings : Settings) (bot after : Bot) (event : Event) : Prop
  | quoted (cursor : ScanCursor) (answers : ScanAnswers) :
      bot.quoteCall event = some (cursor, answers) → bot.opportunity event = none →
      bot.scan.judged? = none →
      after.scan.judged? = some (cursor, cursor.quote answers.quote,
        (bot.manager.evaluate settings event.1 (cursor.evaluation settings answers)).1) →
      ScanRecord settings bot after event
  | recorded (cursor : ScanCursor) (quote : RouteQuote) (decision : OpportunityDecision)
      (row : Opportunity) :
      bot.quoteCall event = none → bot.opportunity event = some row → row.quote = quote →
      row.blockedReason = decision.blockedReason →
      bot.scan.judged? = some (cursor, quote, decision) → after.scan.judged? = none →
      ScanRecord settings bot after event
  | neither : bot.quoteCall event = none → bot.opportunity event = none →
      (after.scan.judged? = bot.scan.judged? ∨ event.2 = .scanRaise ∧ after.scan = .idle) →
      ScanRecord settings bot after event

theorem scanStep_judged {now : Instant} (answers : ScanAnswers)
    (notQuoting : ∀ cursor, bot.scan ≠ .quoting cursor) :
    (bot.scanStep settings now answers).scan.judged? = none := by
  cases place : bot.scan with
  | quoting cursor => exact absurd place (notQuoting cursor)
  | routesRead mode routes =>
      simp only [scanStep, place]
      split
      · rfl
      · exact forRoutes_judged ..
  | judging cursor quote decision =>
      simp only [scanStep, place]
      split
      · split
        · exact forRoutes_judged ..
        · rfl
      · cases blockOperation cursor decision with
        | none => exact forRoutes_judged ..
        | some op => rfl
  | ddPausing | recording =>
      simp only [scanStep, place]
      exact forRoutes_judged ..
  | persisting cursor state trade =>
      simp only [scanStep, place]
      cases trade with
      | none => exact forRoutes_judged ..
      | some trade => rfl
  | _ =>
      simp only [scanStep, place]
      rfl

theorem scanStep_record {now : Instant} (answers : ScanAnswers) :
    ScanRecord settings bot ({ bot with clock := now }.scanStep settings now answers)
      (now, .scan answers) := by
  cases place : bot.scan with
  | quoting cursor =>
      refine .quoted cursor answers ?_ ?_ ?_ ?_ <;>
        simp only [quoteCall, opportunity, scanStep, place] <;> rfl
  | observing cursor quote decision =>
      obtain ⟨row, written, same, reason⟩ : ∃ row, bot.opportunity (now, .scan answers) = some row ∧
          row.quote = quote ∧ row.blockedReason = decision.blockedReason := by
        simp only [opportunity, place]
        exact ⟨_, rfl, rfl, rfl⟩
      refine .recorded cursor quote decision row ?_ written same reason ?_ ?_
      · simp only [quoteCall, place]
      · simp only [place, ScanPc.judged?]
      · exact scanStep_judged answers (by simp)
  | _ =>
      refine .neither ?_ ?_ (.inl ?_)
      · simp only [quoteCall, place]
      · simp only [opportunity, place]
      · have unjudged : bot.scan.judged? = none := by rw [place]; rfl
        rw [unjudged]
        exact scanStep_judged answers (by simp)

theorem step_record (taken : bot.step settings event = some after) :
    ScanRecord settings bot after event := by
  obtain ⟨now, action⟩ := event
  rcases step_scan taken with ⟨answers, scanned, -⟩ | ⟨raised, idle⟩ | ⟨other, same⟩
  · change action = .scan answers at scanned
    subst scanned
    cases taken
    exact scanStep_record answers
  · change action = .scanRaise at raised
    subst raised
    exact .neither rfl rfl (.inr ⟨rfl, idle⟩)
  · refine .neither ?_ ?_ (.inl (congrArg _ same))
    · cases action with
      | scan answers => exact absurd rfl (other answers)
      | _ => rfl
    · cases action with
      | scan answers => exact absurd rfl (other answers)
      | _ => rfl

theorem step_unattended (noHandlers : bot.handlers = [])
    (noRequest : ∀ request, event.2 ≠ .request request)
    (taken : bot.step settings event = some after) : after.handlers = [] := by
  rcases step_handlers taken with ⟨-, same⟩ | ⟨request, requested, -, -⟩ |
    ⟨index, request, instr, rest, -, found, -⟩ | ⟨index, -, emptied⟩
  · rw [same, noHandlers]
  · exact absurd requested (noRequest request)
  · rw [noHandlers] at found
    cases found
  · rw [emptied, noHandlers]
    exact List.modify_nil _ _

/-- Without a handler every operation is the loop's or start-up's. -/
theorem operation_unattended (noHandlers : bot.handlers = []) {op : RiskOp}
    (member : op ∈ bot.operations settings event) :
    (∃ answers, op ∈ bot.scanOperations settings answers) ∨
      ∃ routeId row, op = .hydrateRouteState routeId row := by
  obtain ⟨now, action⟩ := event
  cases action with
  | scan answers => exact .inl ⟨answers, member⟩
  | boot =>
      simp only [operations] at member
      split at member
      · obtain ⟨row, -, rfl⟩ := List.mem_map.mp member
        exact .inr ⟨_, _, rfl⟩
      · cases member
  | handler index =>
      simp only [operations, instr?, noHandlers] at member
      cases member
  | _ => cases member

end Bot

/-! ### What only operators pause -/

structure GlobalRiskManager.Unpaused (manager : GlobalRiskManager) : Prop where
  strategies : manager.strategyPaused = ∅
  pairs : manager.pairPaused = ∅
  venues : manager.venuePaused = ∅

theorem GlobalRiskManager.Unpaused.congr {manager other : GlobalRiskManager}
    (unpaused : manager.Unpaused) (strategies : other.strategyPaused = manager.strategyPaused)
    (pairs : other.pairPaused = manager.pairPaused)
    (venues : other.venuePaused = manager.venuePaused) : other.Unpaused :=
  ⟨strategies.trans unpaused.strategies, pairs.trans unpaused.pairs,
    venues.trans unpaused.venues⟩

theorem GlobalRiskManager.Unpaused.markSuccess {manager : GlobalRiskManager}
    (unpaused : manager.Unpaused) (now : Instant) (routeId : String) (realizedPnl : Rat) :
    (manager.markSuccess now routeId realizedPnl).Unpaused := by
  refine unpaused.congr ?_ ?_ ?_ <;>
    simp only [GlobalRiskManager.markSuccess, GlobalRiskManager.resetDailyIfNeeded] <;>
    split <;> rfl

theorem GlobalRiskManager.Unpaused.step {settings : Settings} {bot after : Bot} {event : Event}
    (unpaused : bot.manager.Unpaused) (noHandlers : bot.handlers = [])
    (taken : bot.step settings event = some after) : after.manager.Unpaused := by
  rcases Bot.step_manager taken with same | ⟨route, same, -⟩
  · rw [same]
    refine GlobalRiskManager.applyAll_preserves unpaused fun op member current held => ?_
    rcases Bot.operation_unattended noHandlers member with ⟨answers, scanned⟩ | ⟨routeId, row, rfl⟩
    · rcases Bot.scan_operation scanned with ⟨paused, rfl⟩ | ⟨route, category, reason, rfl, -, -⟩ |
        ⟨route, realizedPnl, rfl, -⟩
      · exact held.congr rfl rfl rfl
      · exact held.congr rfl rfl rfl
      · exact held.markSuccess event.1 route realizedPnl
    · exact held.congr rfl rfl rfl
  · rw [same]
    exact unpaused.congr rfl rfl rfl

/-! ### The reason of a blocked scan -/

section Reasons

variable {settings : Settings} {manager : GlobalRiskManager} {cursor : ScanCursor}
  {answers : ScanAnswers}

theorem pauseGuards_passed (unpaused : manager.Unpaused)
    (running : manager.globalKillSwitch = false) (quote : RouteQuote) :
    (∀ guard ∈ pauseGuards manager quote, guard.passes = true) ↔
      quote.routeId ∉ manager.routePaused := by
  simp [pauseGuards, running, unpaused.strategies, unpaused.pairs, unpaused.venues]

theorem quoteUnavailable_flag
    (engine : ∀ found, answers.quote = .ok found → AvailableQuote settings cursor.route found) :
    (cursor.quote answers.quote).metadata.get "quote_unavailable" "false" = "true" ↔
      answers.raised = true := by
  unfold ScanAnswers.raised
  cases answered : answers.quote with
  | ok found =>
      have absent := (engine found answered).metadata.available
      simp [ScanCursor.quote, Metadata.get, absent]
  | error reason => exact iff_of_true rfl rfl

/-- An engine that raised is told only for a route that is not paused. -/
theorem evaluation_quoteUnavailable_iff (unpaused : manager.Unpaused)
    (running : manager.globalKillSwitch = false)
    (engine : ∀ found, answers.quote = .ok found → AvailableQuote settings cursor.route found)
    (now : Instant) :
    (manager.evaluate settings now (cursor.evaluation settings answers)).1.blockedReason =
        "quote_unavailable" ↔
      cursor.route.id ∉ manager.routePaused ∧ answers.raised = true := by
  rw [GlobalRiskManager.evaluate_quoteUnavailable_iff, pauseGuards_passed unpaused running,
    ScanCursor.evaluation_routeId]
  exact and_congr_right fun _ => quoteUnavailable_flag engine

end Reasons

/-! ### The books of a run -/

section Booked

variable {settings : Settings} {routeId : String} {trace : List (Bot × Event)} {bot after : Bot}
  {event : Event}

def heldScans (routeId : String) (place : ScanPc) : Nat :=
  if place.judged?.any fun held => held.1.route.id = routeId then 1 else 0

def heldUnavailable (routeId : String) (place : ScanPc) : Nat :=
  if place.judged?.any fun held =>
    held.1.route.id = routeId && held.2.2.blockedReason = "quote_unavailable" then 1 else 0

theorem opportunityCount_step (taken : bot.step settings event = some after) :
    after.db.opportunityCount routeId = bot.db.opportunityCount routeId +
      if (bot.opportunity event).any fun row => row.quote.routeId = routeId then 1 else 0 := by
  unfold Database.opportunityCount
  rw [Bot.step_opportunities taken, countP_append_toList]

theorem blockedCount_step (taken : bot.step settings event = some after) (reason : String) :
    after.db.blockedCount routeId reason = bot.db.blockedCount routeId reason +
      if (bot.opportunity event).any fun row =>
        row.quote.routeId = routeId && row.blockedReason = reason then 1 else 0 := by
  unfold Database.blockedCount
  rw [Bot.step_opportunities taken, countP_append_toList]

theorem scanCount_concat : scanCount routeId (trace ++ [(bot, event)]) =
    scanCount routeId trace + if bot.scansRoute routeId event then 1 else 0 :=
  countP_concat _ trace (bot, event)

theorem raisedCount_concat : raisedCount routeId (trace ++ [(bot, event)]) =
    raisedCount routeId trace + if bot.scanRaises routeId event then 1 else 0 :=
  countP_concat _ trace (bot, event)

theorem hiddenCount_concat : hiddenCount routeId (trace ++ [(bot, event)]) =
    hiddenCount routeId trace + if bot.scanRaisesPaused routeId event then 1 else 0 :=
  countP_concat _ trace (bot, event)

/-- Every scan has its row or is about to, and every raise is in a row or was hidden by a pause. -/
structure Booked (routeId : String) (trace : List (Bot × Event)) (bot : Bot) : Prop where
  noHandlers : bot.handlers = []
  unpaused : bot.manager.Unpaused
  labelled : ∀ cursor quote decision, bot.scan.judged? = some (cursor, quote, decision) →
    quote.routeId = cursor.route.id
  scans : bot.db.opportunityCount routeId + heldScans routeId bot.scan = scanCount routeId trace
  raises : bot.db.blockedCount routeId "quote_unavailable" + heldUnavailable routeId bot.scan +
    hiddenCount routeId trace = raisedCount routeId trace

theorem judged_of_not_scanning {place : ScanPc}
    {held : ScanCursor × RouteQuote × OpportunityDecision}
    (apart : place.scanning routeId = false) (judged : place.judged? = some held) :
    held.1.route.id ≠ routeId := by
  cases place with
  | observing cursor quote decision =>
      cases judged
      exact of_decide_eq_false apart
  | _ => cases judged

theorem held_of_not_scanning {place : ScanPc} (apart : place.scanning routeId = false) :
    heldScans routeId place = 0 ∧ heldUnavailable routeId place = 0 := by
  unfold heldScans heldUnavailable
  cases judged : place.judged? with
  | none => exact ⟨rfl, rfl⟩
  | some held => simp [judged_of_not_scanning apart judged]

theorem held_kept (permitted : Unattended settings routeId bot event)
    (kept : after.scan.judged? = bot.scan.judged? ∨ event.2 = .scanRaise ∧ after.scan = .idle) :
    heldScans routeId after.scan = heldScans routeId bot.scan ∧
      heldUnavailable routeId after.scan = heldUnavailable routeId bot.scan := by
  rcases kept with same | ⟨raised, idle⟩
  · simp only [heldScans, heldUnavailable, same, and_self]
  · obtain ⟨scans, unavailable⟩ := held_of_not_scanning (permitted.carriedOut raised)
    rw [scans, unavailable, idle]
    exact ⟨rfl, rfl⟩

theorem Booked.step (booked : Booked routeId trace bot)
    (permitted : Unattended settings routeId bot event)
    (taken : bot.step settings event = some after) :
    Booked routeId (trace ++ [(bot, event)]) after := by
  have noHandlers := Bot.step_unattended booked.noHandlers permitted.noRequest taken
  have unpaused := booked.unpaused.step booked.noHandlers taken
  have rows := @opportunityCount_step settings routeId bot after event taken
  have unavailable := @blockedCount_step settings routeId bot after event taken "quote_unavailable"
  have scans := booked.scans
  have raises := booked.raises
  cases Bot.step_record taken with
  | quoted cursor answers call row before judged =>
      refine ⟨noHandlers, unpaused, ?_, ?_, ?_⟩
      · intro held quote decision same
        rw [judged] at same
        cases same
        exact ScanCursor.evaluation_routeId settings cursor answers
      · rw [scanCount_concat, rows]
        simp only [heldScans, row, before, judged, Bot.scansRoute, call, Option.any_none,
          Option.any_some] at scans ⊢
        omega
      · rw [hiddenCount_concat, raisedCount_concat, unavailable]
        simp only [heldUnavailable, row, before, judged, Bot.scanRaisesPaused, Bot.scanRaises, call,
          Option.any_none, Option.any_some, Bool.and_eq_true, decide_eq_true_eq] at raises ⊢
        by_cases here : cursor.route.id = routeId
        · subst here
          have told := evaluation_quoteUnavailable_iff booked.unpaused
            (permitted.running _ call rfl)
            (fun found answered => permitted.engine _ found call rfl answered) event.1
          simp only [told]
          by_cases paused : cursor.route.id ∈ bot.manager.routePaused
          · simp only [paused, not_true_eq_false, false_and, and_false, and_true, if_false,
              true_and]
            omega
          · simp only [paused, not_false_eq_true, true_and, and_false, if_false]
            omega
        · simp only [here, false_and, if_false]
          omega
  | recorded cursor quote decision row call written same reason judged left =>
      refine ⟨noHandlers, unpaused, ?_, ?_, ?_⟩
      · intro held other verdict stays
        rw [left] at stays
        cases stays
      · rw [scanCount_concat, rows]
        simp only [heldScans, written, same, left, judged,
          booked.labelled cursor quote decision judged, Bot.scansRoute, call, Option.any_none,
          Option.any_some] at scans ⊢
        omega
      · rw [hiddenCount_concat, raisedCount_concat, unavailable]
        simp only [heldUnavailable, written, same, reason, left, judged,
          booked.labelled cursor quote decision judged, Bot.scanRaisesPaused, Bot.scanRaises, call,
          Option.any_none, Option.any_some, Bool.false_and, Bool.false_eq_true, if_false]
          at raises ⊢
        omega
  | neither call row kept =>
      obtain ⟨heldScan, heldRaise⟩ := held_kept permitted kept
      refine ⟨noHandlers, unpaused, ?_, ?_, ?_⟩
      · intro cursor quote decision judged
        rcases kept with same | ⟨-, idle⟩
        · exact booked.labelled cursor quote decision (same ▸ judged)
        · rw [idle] at judged
          cases judged
      · rw [scanCount_concat, rows, row, heldScan]
        simp only [Bot.scansRoute, call, Option.any_none]
        omega
      · rw [hiddenCount_concat, raisedCount_concat, unavailable, row, heldRaise]
        simp only [Bot.scanRaisesPaused, Bot.scanRaises, call, Option.any_none, Bool.false_and,
          Bool.false_eq_true, if_false]
        omega

theorem Booked.launch {db : Database} {started : Instant}
    (unseen : db.opportunityCount routeId = 0) :
    Booked routeId [] (.launch settings db started) := by
  have none := List.countP_eq_zero.mp unseen
  have unblocked : db.blockedCount routeId "quote_unavailable" = 0 :=
    List.countP_eq_zero.mpr fun row member => by simpa using fun same => absurd same (by
      simpa using none row member)
  exact ⟨rfl, ⟨rfl, rfl, rfl⟩, fun _ _ _ => nofun, unseen, unblocked⟩

theorem raisedCount_le_scanCount : raisedCount routeId trace ≤ scanCount routeId trace := by
  refine List.countP_mono_left fun entry _ raised => ?_
  obtain ⟨call, asked, both⟩ := (Option.any_eq_true _ _).mp raised
  exact (Option.any_eq_true _ _).mpr ⟨call, asked, (Bool.and_eq_true_iff.mp both).1⟩

/-- A share of what was counted is the share of all raises when none is missing. -/
theorem share_eq_iff {counted hidden raises scans : Nat} (books : counted + hidden = raises)
    (bounded : raises ≤ scans) :
    (if 0 < scans then (counted : Rat) / scans else 0) = raises / scans ↔ hidden = 0 := by
  rcases Nat.eq_zero_or_pos scans with rfl | positive
  · simp only [lt_irrefl, if_false, Nat.cast_zero, div_zero, true_iff]
    omega
  · have nonzero : (scans : Rat) ≠ 0 := Nat.cast_ne_zero.mpr positive.ne'
    rw [if_pos positive, div_left_inj' nonzero, Nat.cast_inj]
    omega

end Booked

/-- The rate in the commissioning stats is the share of the scans whose engine raised, exactly when
the engine never raised while the route was paused. -/
theorem quoteUnavailableRate_eq_iff (settings : Settings) (db : Database) (started : Instant)
    (routeId : String) (unseen : db.opportunityCount routeId = 0) (trace : List (Bot × Event))
    (bot : Bot)
    (run : Reaches (Bot.step settings) (Unattended settings routeId) (.launch settings db started)
      trace bot)
    (written : ∀ cursor quote decision, bot.scan = .observing cursor quote decision →
      cursor.route.id ≠ routeId) (stats : CommissioningStats) :
    (stats.withTables bot.db routeId).quoteUnavailableRate =
        raisedCount routeId trace / scanCount routeId trace ↔
      ∀ entry ∈ trace, entry.1.scanRaisesPaused routeId entry.2 = false := by
  have booked : Booked routeId trace bot := run.invariant_trace (.launch unseen)
    fun _ _ _ _ booked permitted taken => booked.step permitted taken
  have held : heldScans routeId bot.scan = 0 ∧ heldUnavailable routeId bot.scan = 0 := by
    cases place : bot.scan with
    | observing cursor quote decision =>
        simp [heldScans, heldUnavailable, ScanPc.judged?, written cursor quote decision place]
    | _ => exact ⟨rfl, rfl⟩
  have scans := booked.scans
  have raises := booked.raises
  rw [held.1, Nat.add_zero] at scans
  rw [held.2, Nat.add_zero] at raises
  change bot.db.blockedRate routeId "quote_unavailable" = _ ↔ _
  rw [Database.blockedRate, scans, share_eq_iff raises raisedCount_le_scanCount, hiddenCount,
    List.countP_eq_zero]
  simp only [Bool.not_eq_true]

/-! ### An engine that always raises -/

def failing : ScanAnswers := { Sample.answers with quote := .error "rpc" }

def failingScans (steps : Nat) : List Event :=
  (List.range steps).map fun offset => ((offset : Int), .scan failing)

def unattendedTest (entry : Bot × Event) : Bool :=
  !entry.1.manager.globalKillSwitch &&
    match entry.2.2 with
    | .scan answers => answers.raised
    | _ => false

theorem unattended_of_test {settings : Settings} {routeId : String} {bot : Bot} {event : Event}
    (passes : unattendedTest (bot, event) = true) : Unattended settings routeId bot event := by
  obtain ⟨now, action⟩ := event
  simp only [unattendedTest, Bool.and_eq_true, Bool.not_eq_true'] at passes
  obtain ⟨running, raising⟩ := passes
  cases action with
  | scan answers =>
      refine ⟨fun _ => nofun, fun _ _ _ => running, ?_, nofun⟩
      intro call found asked _ answered
      have same : call.2 = answers := by
        unfold Bot.quoteCall at asked
        split at asked
        · rename_i other cursor scanned _
          cases scanned
          cases asked
          rfl
        · cases asked
      rw [same] at answered
      change answers.raised = true at raising
      rw [ScanAnswers.raised, answered] at raising
      cases raising
  | _ => cases raising

theorem quoteUnavailableRate_eq_iff_first :
    ∃ trace bot, Reaches (Bot.step shipped) (Unattended shipped "r")
        (.launch shipped Sample.db 0) trace bot ∧ scanCount "r" trace = 1 ∧
      ∀ stats : CommissioningStats, (stats.withTables bot.db "r").quoteUnavailableRate = 1 := by
  have found : (follow (Bot.step shipped) (.launch shipped Sample.db 0) (failingScans 8)).any
      (fun done => done.1.all unattendedTest && done.2.scan.judged?.isNone &&
        (done.1.all fun entry => !entry.1.scanRaisesPaused "r" entry.2) &&
        scanCount "r" done.1 = 1 && raisedCount "r" done.1 = 1) = true := by decide +kernel
  obtain ⟨trace, bot, run, checked⟩ : ∃ trace bot, Reaches (Bot.step shipped)
      (Unattended shipped "r") (.launch shipped Sample.db 0) trace bot ∧ _ :=
    exists_run found fun done passed entry member => by
      simp only [Bool.and_eq_true] at passed
      exact unattended_of_test (List.all_eq_true.mp passed.1.1.1.1 entry member)
  simp only [Bool.and_eq_true, decide_eq_true_eq] at checked
  obtain ⟨⟨⟨⟨-, idle⟩, open_⟩, once⟩, raised⟩ := checked
  refine ⟨trace, bot, run, once, fun stats => ?_⟩
  have rate :=
    (quoteUnavailableRate_eq_iff shipped Sample.db 0 "r" rfl trace bot run ?_ stats).mpr ?_
  · rw [rate, once, raised, Nat.cast_one, div_one]
  · intro cursor quote decision place
    rw [place] at idle
    cases idle
  · intro entry member
    simpa using List.all_eq_true.mp open_ entry member

/-- The engine raised in both scans; the second one went down as a disabled route. -/
theorem paused_route_hides_raises :
    ∃ trace bot, Reaches (Bot.step shipped) (Unattended shipped "r")
        (.launch shipped Sample.db 0) trace bot ∧ bot.scan.judged? = none ∧
      ∀ stats : CommissioningStats,
        (stats.withTables bot.db "r").quoteUnavailableRate = 1 / 2 ∧
          (stats.withTables bot.db "r").quoteUnavailableRate ≠
            raisedCount "r" trace / scanCount "r" trace := by
  have found : (follow (Bot.step shipped) (.launch shipped Sample.db 0) (failingScans 15)).any
      (fun done => done.1.all unattendedTest && done.2.scan.judged?.isNone &&
        scanCount "r" done.1 = 2 && raisedCount "r" done.1 = 2 &&
        done.2.db.blockedRate "r" "quote_unavailable" = 1 / 2) = true := by decide +kernel
  obtain ⟨trace, bot, run, checked⟩ : ∃ trace bot, Reaches (Bot.step shipped)
      (Unattended shipped "r") (.launch shipped Sample.db 0) trace bot ∧ _ :=
    exists_run found fun done passed entry member => by
      simp only [Bool.and_eq_true] at passed
      exact unattended_of_test (List.all_eq_true.mp passed.1.1.1.1 entry member)
  simp only [Bool.and_eq_true, decide_eq_true_eq] at checked
  obtain ⟨⟨⟨⟨-, idle⟩, twice⟩, raised⟩, half⟩ := checked
  refine ⟨trace, bot, run, Option.isNone_iff_eq_none.mp idle, fun stats => ⟨half, ?_⟩⟩
  intro share
  rw [twice, raised] at share
  have impossible := half.symm.trans share
  norm_num at impossible

end ArbitrageBot
