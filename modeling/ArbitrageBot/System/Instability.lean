/-
The instability counters of the commissioning stats against the failures that
the risk manager was told. Failures are marked for blocked quotes and for
failed trades; the counters are read from the rows of `trade_attempts`, which
only a trade writes.
-/

import ArbitrageBot.Library.Transition
import ArbitrageBot.QuoteEngine.Engine
import ArbitrageBot.System.Statistics

namespace ArbitrageBot

open Transition

/-! ### Calls of `mark_failure` -/

/-- A failure of the route that starts a cooldown of some length. -/
def RiskOp.startsCooldown (settings : Settings) (route : String) : RiskOp → Bool
  | .markFailure routeId category _ =>
      routeId = route && 0 < GlobalRiskManager.failureCooldownSeconds settings category
  | _ => false

def operationsOf (settings : Settings) (trace : List (Bot × Event)) : List RiskOp :=
  trace.flatMap fun entry => entry.1.operations settings entry.2

def fatalMarks (settings : Settings) (routeId : String) (trace : List (Bot × Event)) : Nat :=
  (operationsOf settings trace).countP (RiskOp.failsFatally routeId)

def cooldownMarks (settings : Settings) (routeId : String) (trace : List (Bot × Event)) : Nat :=
  (operationsOf settings trace).countP (RiskOp.startsCooldown settings routeId)

/-! ### Failed trades under way -/

/-- The route and the row of the attempt that the loop has still to report. -/
def ScanPc.pending : ScanPc → Option (String × Nat)
  | .executing cursor _ attemptId => some (cursor.route.id, attemptId)
  | .persisting cursor _ (some trade) | .reporting cursor trade | .updating cursor trade _ =>
      some (cursor.route.id, trade.attemptId)
  | _ => none

/-- A trade of the route that has failed and has been marked, but is not in its row yet. -/
def ScanPc.failedTrade (routeId : String) : ScanPc → Bool
  | .persisting cursor _ (some trade) | .reporting cursor trade | .updating cursor trade _ =>
      cursor.route.id = routeId && trade.outcome.isFailed
  | _ => false

/-- Every failure the loop marks is fatal, so this is what each one should report. -/
def Settings.coolsDown (settings : Settings) : Bool :=
  0 < settings.routeFatalFailureCooldownSeconds

/-- The flag of a failed trade on its way to the row, when it is not the one due. -/
def ScanPc.wrongFlag (settings : Settings) (routeId : String) : ScanPc → Bool
  | .updating cursor trade triggered =>
      cursor.route.id = routeId && trade.outcome.isFailed && triggered != settings.coolsDown
  | _ => false

namespace Bot

variable (settings : Settings) (routeId : String) (bot : Bot) (event : Event)

/-- A fatal block: it is marked, and no attempt is written. -/
def blocksFatally : Bool :=
  match event.2, bot.scan with
  | .scan _, .judging cursor _ decision =>
      cursor.route.id = routeId && !decision.tradable &&
        decision.blockedReason ∈ fatalFailureCategories
  | _, _ => false

/-- The loop is cut off between the mark of a failed trade and its row. -/
def cutsOff : Bool :=
  match event.2 with
  | .scanRaise => bot.scan.failedTrade routeId
  | _ => false

def misreports : Bool :=
  match event.2, bot.scan with
  | .scan _, .reporting cursor trade =>
      cursor.route.id = routeId && trade.outcome.isFailed &&
        decide (0 < bot.manager.cooldownRemainingSeconds event.1 cursor.route.id) !=
          settings.coolsDown
  | _, _ => false

/-- The cooldown flag that the loop writes into the row of a failed trade. -/
def failureReport : Option Bool :=
  match event.2, bot.scan with
  | .scan _, .updating cursor trade triggered =>
      if cursor.route.id = routeId && trade.outcome.isFailed then some triggered else none
  | _, _ => none

/-- A failure that the counters will not show as it was marked. -/
def miscounts : Bool :=
  bot.blocksFatally routeId event || bot.cutsOff routeId event ||
    bot.misreports settings routeId event

end Bot

/-! ### One step -/

namespace Bot

variable {settings : Settings} {now : Instant} {bot after : Bot} {event : Event}

/-- The way of a trade from its attempt to the end of its report, the blocks that are marked, and
everything else. -/
inductive FailureMove (settings : Settings) (bot after : Bot) (event : Event) : Prop
  | attempted (answers : ScanAnswers) (cursor : ScanCursor) (quote : RouteQuote)
      (row : TradeAttempt) :
      event.2 = .scan answers → bot.scan = .attempting cursor quote →
      after.scan = .executing cursor quote bot.db.tradeAttempts.length →
      row.routeId = cursor.route.id → row.isFatalFailure = false →
      row.cooldownTriggered = false →
      after.db.tradeAttempts = bot.db.tradeAttempts ++ [row] →
      FailureMove settings bot after event
  | executed (answers : ScanAnswers) (cursor : ScanCursor) (quote : RouteQuote) (state : RouteState)
      (trade : Trade) :
      event.2 = .scan answers → bot.scan = .executing cursor quote trade.attemptId →
      after.scan = .persisting cursor state (some trade) →
      bot.operations settings event = [trade.outcome.operation cursor.route.id] →
      (trade.outcome.isFailed = true → trade.outcome.category ∈ fatalFailureCategories) →
      after.db.tradeAttempts = bot.db.tradeAttempts →
      FailureMove settings bot after event
  | persisted (answers : ScanAnswers) (cursor : ScanCursor) (state : RouteState) (trade : Trade) :
      event.2 = .scan answers → bot.scan = .persisting cursor state (some trade) →
      after.scan = .reporting cursor trade → after.db.tradeAttempts = bot.db.tradeAttempts →
      FailureMove settings bot after event
  | reported (answers : ScanAnswers) (cursor : ScanCursor) (trade : Trade) :
      event.2 = .scan answers → bot.scan = .reporting cursor trade →
      after.scan = .updating cursor trade
        (0 < bot.manager.cooldownRemainingSeconds event.1 cursor.route.id) →
      after.db.tradeAttempts = bot.db.tradeAttempts →
      FailureMove settings bot after event
  | updated (answers : ScanAnswers) (cursor : ScanCursor) (trade : Trade) (triggered : Bool)
      (status reported : String) :
      event.2 = .scan answers → bot.scan = .updating cursor trade triggered →
      after.scan = .recording cursor trade triggered →
      after.db = bot.db.updateTradeAttemptOutcome trade.attemptId status reported reported
        (trade.outcome.isFailed && trade.outcome.fatalFailure)
        (trade.outcome.isFailed && triggered) →
      FailureMove settings bot after event
  | blocked (answers : ScanAnswers) (cursor : ScanCursor) (quote : RouteQuote)
      (decision : OpportunityDecision) (state : RouteState) (reason : String) :
      event.2 = .scan answers → bot.scan = .judging cursor quote decision →
      decision.tradable = false → decision.blockedReason ∈ fatalFailureCategories →
      after.scan = .persisting cursor state none →
      bot.operations settings event =
        [.markFailure cursor.route.id decision.blockedReason reason] →
      after.db.tradeAttempts = bot.db.tradeAttempts →
      FailureMove settings bot after event
  | raised : event.2 = .scanRaise → after.scan = .idle →
      after.db.tradeAttempts = bot.db.tradeAttempts → FailureMove settings bot after event
  | other : event.2 ≠ .scanRaise →
      (after.scan = bot.scan ∨ bot.scan.pending = none ∧ after.scan.pending = none) →
      (∀ routeId, ∀ op ∈ bot.operations settings event, op.failsFatally routeId = false) →
      (∀ routeId, bot.blocksFatally routeId event = false) →
      (∀ routeId, bot.misreports settings routeId event = false) →
      (∀ routeId, bot.failureReport routeId event = none) →
      after.db.tradeAttempts = bot.db.tradeAttempts → FailureMove settings bot after event

theorem forRoutes_pending (mode : RunMode) (balance : Rat) (routes : List Route) :
    (ScanPc.forRoutes mode balance routes).pending = none := by
  rcases ScanPc.forRoutes_cases mode balance routes with idle | ⟨cursor, quoting⟩
  · rw [idle]
    rfl
  · rw [quoting]
    rfl

theorem other_scan {answers : ScanAnswers}
    (judged : ∀ cursor quote decision, bot.scan = .judging cursor quote decision →
      ¬(decision.tradable = false ∧ decision.blockedReason ∈ fatalFailureCategories))
    (pending : bot.scan.pending = none) (next : after.scan.pending = none)
    (rows : after.db.tradeAttempts = bot.db.tradeAttempts) :
    FailureMove settings bot after (now, .scan answers) := by
  refine .other nofun (.inr ⟨pending, next⟩) ?_ ?_ ?_ ?_ rows
  · intro routeId op member
    simp only [operations, scanOperations] at member
    cases place : bot.scan with
    | judging cursor quote decision =>
        simp only [place, blockOperation] at member
        split at member
        · cases member
        · rename_i blocked
          split at member
          · rename_i fatal
            exact absurd ⟨Bool.eq_false_iff.mpr blocked, fatal⟩ (judged cursor quote decision place)
          · cases member
    | executing cursor quote attemptId =>
        rw [place] at pending
        cases pending
    | controlRead control =>
        simp only [place] at member
        rw [List.mem_singleton.mp member]
        rfl
    | routesRead mode routes =>
        simp only [place] at member
        split at member
        · rw [List.mem_singleton.mp member]
          rfl
        · cases member
    | _ =>
        simp only [place] at member
        cases member
  · intro routeId
    unfold blocksFatally
    cases place : bot.scan with
    | judging cursor quote decision =>
        have unmarked := judged cursor quote decision place
        simp only [Bool.and_eq_false_iff, Bool.not_eq_false', decide_eq_false_iff_not]
        by_cases tradable : decision.tradable = true
        · exact .inl (.inr tradable)
        · exact .inr fun fatal => unmarked ⟨Bool.eq_false_iff.mpr tradable, fatal⟩
    | _ => rfl
  · intro routeId
    unfold misreports
    cases place : bot.scan with
    | reporting cursor trade =>
        rw [place] at pending
        cases pending
    | _ => rfl
  · intro routeId
    unfold failureReport
    cases place : bot.scan with
    | updating cursor trade triggered =>
        rw [place] at pending
        cases pending
    | _ => rfl

theorem scanStep_failure (answers : ScanAnswers) :
    FailureMove settings bot ({ bot with clock := now }.scanStep settings now answers)
      (now, .scan answers) := by
  cases place : bot.scan with
  | attempting cursor quote =>
      simp only [scanStep]
      exact .attempted answers cursor quote _ rfl place rfl rfl rfl rfl rfl
  | executing cursor quote attemptId =>
      have operation : bot.operations settings (now, .scan answers) =
          [(cursor.execute quote answers.chainValid).operation cursor.route.id] := by
        simp only [operations, scanOperations, place]
      simp only [scanStep, mark]
      exact .executed answers cursor quote _
        ⟨quote, attemptId, cursor.execute quote answers.chainValid⟩ rfl place rfl operation
        ScanCursor.execute_fatal rfl
  | persisting cursor state trade =>
      cases trade with
      | some trade =>
          simp only [scanStep]
          exact .persisted answers cursor state trade rfl place rfl rfl
      | none =>
          refine other_scan (by simp [place]) (by rw [place]; rfl) ?_ ?_ <;>
            simp only [scanStep]
          · exact forRoutes_pending ..
          · rfl
  | reporting cursor trade =>
      simp only [scanStep]
      exact .reported answers cursor trade rfl place rfl rfl
  | updating cursor trade triggered =>
      simp only [scanStep]
      exact .updated answers cursor trade triggered _ _ rfl place rfl rfl
  | judging cursor quote decision =>
      by_cases marked : decision.tradable = false ∧ decision.blockedReason ∈ fatalFailureCategories
      · obtain ⟨untradable, fatal⟩ := marked
        have operation : bot.operations settings (now, .scan answers) =
            [.markFailure cursor.route.id decision.blockedReason
              ("opportunity blocked: " ++ decision.blockedReason)] := by
          simp [operations, scanOperations, place, untradable, blockOperation, fatal]
        simp only [scanStep, untradable, Bool.false_eq_true, if_false, blockOperation, fatal,
          if_true, mark]
        exact .blocked answers cursor quote decision _ _ rfl place untradable fatal rfl operation
          rfl
      · refine other_scan ?_ (by rw [place]; rfl) ?_ ?_
        · intro cursor' quote' decision' same
          rw [place] at same
          cases same
          exact marked
        · simp only [scanStep, blockOperation]
          split
          · split
            · exact forRoutes_pending ..
            · rfl
          · rename_i blocked
            rw [if_neg fun fatal => marked ⟨Bool.eq_false_iff.mpr blocked, fatal⟩]
            exact forRoutes_pending ..
        · simp only [scanStep]
          split
          · split <;> rfl
          · cases blockOperation cursor decision <;> rfl
  | routesRead mode routes =>
      refine other_scan (by simp [place]) (by rw [place]; rfl) ?_ ?_ <;>
        simp only [scanStep] <;> split
      · rfl
      · exact forRoutes_pending ..
      · rfl
      · rfl
  | ddPausing control balance routes =>
      refine other_scan (by simp [place]) (by rw [place]; rfl) ?_ ?_ <;>
        simp only [scanStep]
      · exact forRoutes_pending ..
      · split <;> rfl
  | recording =>
      refine other_scan (by simp [place]) (by rw [place]; rfl) ?_ ?_ <;>
        simp only [scanStep]
      · exact forRoutes_pending ..
      · rfl
  | _ =>
      refine other_scan (by simp [place]) (by rw [place]; rfl) ?_ ?_ <;>
        simp only [scanStep] <;> rfl

theorem step_failure (lawful : bot.lawful) (taken : bot.step settings event = some after) :
    FailureMove settings bot after event := by
  have unmarked : (∀ answers, event.2 ≠ .scan answers) → ∀ routeId,
      ∀ op ∈ bot.operations settings event, op.failsFatally routeId = false := by
    intro notScan routeId op member
    rcases operation_cases lawful member with ⟨answers, scanned, -⟩ | ⟨rows, row, -, -, rfl⟩ |
      operator
    · exact absurd scanned (notScan answers)
    · rfl
    · cases op with
      | markFailure => cases operator
      | _ => rfl
  obtain ⟨now, action⟩ := event
  rcases step_cases taken with ⟨answers, rfl, rfl⟩ | ⟨rfl, rfl⟩ | ⟨rfl, booted⟩ |
    ⟨request, rfl, -, rfl⟩ | ⟨index, rfl, handled⟩ | ⟨index, rfl, rfl⟩
  · exact scanStep_failure answers
  · exact .raised rfl rfl rfl
  · rcases bootStep_some booted with ⟨-, rfl⟩ | ⟨rows, -, rfl⟩ <;>
      exact .other nofun (.inl rfl) (unmarked fun _ => nofun) (fun _ => rfl) (fun _ => rfl)
        (fun _ => rfl) rfl
  · exact .other nofun (.inl rfl) (unmarked fun _ => nofun) (fun _ => rfl) (fun _ => rfl)
        (fun _ => rfl) rfl
  · obtain ⟨request, instr, rest, found, rfl⟩ := handlerStep_some handled
    exact .other nofun (.inl (runInstr_frame instr).2.1) (unmarked fun _ => nofun) (fun _ => rfl)
      (fun _ => rfl) (fun _ => rfl) (by cases instr <;> rfl)
  · exact .other nofun (.inl rfl) (unmarked fun _ => nofun) (fun _ => rfl) (fun _ => rfl)
        (fun _ => rfl) rfl

end Bot

/-! ### The row of a trade under way -/

def ScanPc.trade? : ScanPc → Option Trade
  | .persisting _ _ trade => trade
  | .reporting _ trade | .updating _ trade _ => some trade
  | _ => none

/-- The row of a pending attempt is there and has no flag yet, and a failed trade is fatal. -/
structure Pending (bot : Bot) : Prop where
  row : ∀ routeId attemptId, bot.scan.pending = some (routeId, attemptId) →
    ∃ row, bot.db.tradeAttempts[attemptId]? = some row ∧ row.routeId = routeId ∧
      row.isFatalFailure = false ∧ row.cooldownTriggered = false
  fatal : ∀ trade, bot.scan.trade? = some trade → trade.outcome.isFailed = true →
    trade.outcome.fatalFailure = true

section Pending

variable {settings : Settings} {bot after : Bot} {event : Event}

theorem fatalFailure_of_category {outcome : TradeOutcome}
    (fatal : outcome.category ∈ fatalFailureCategories) : outcome.fatalFailure = true := by
  have named : outcome.category ≠ "" := by
    intro unnamed
    rw [unnamed] at fatal
    revert fatal
    decide
  simp [TradeOutcome.fatalFailure, named, fatal]

theorem trade_of_not_pending {place : ScanPc} (pending : place.pending = none) :
    place.trade? = none := by
  cases place with
  | persisting cursor state trade =>
      cases trade with
      | none => rfl
      | some trade => cases pending
  | reporting | updating => cases pending
  | _ => rfl

theorem Pending.of_not_pending (pending : bot.scan.pending = none) : Pending bot := by
  constructor
  · intro routeId attemptId held
    rw [pending] at held
    cases held
  · intro trade held
    rw [trade_of_not_pending pending] at held
    cases held

theorem Pending.carried (held : Pending bot)
    (rows : after.db.tradeAttempts = bot.db.tradeAttempts)
    (pending : after.scan.pending = bot.scan.pending)
    (fatal : ∀ trade, after.scan.trade? = some trade → bot.scan.trade? = some trade ∨
      (trade.outcome.isFailed = true → trade.outcome.category ∈ fatalFailureCategories)) :
    Pending after := by
  constructor
  · rw [rows, pending]
    exact held.row
  · intro trade carries failed
    rcases fatal trade carries with already | marked
    · exact held.fatal trade already failed
    · exact fatalFailure_of_category (marked failed)

theorem Pending.step (held : Pending bot) (lawful : bot.lawful)
    (taken : bot.step settings event = some after) : Pending after := by
  cases Bot.step_failure lawful taken with
  | attempted answers cursor quote row scanned place next route fatal cooldown rows =>
      constructor
      · intro routeId attemptId pending
        rw [next] at pending
        cases pending
        refine ⟨row, ?_, route, fatal, cooldown⟩
        rw [rows, List.getElem?_append_right le_rfl, Nat.sub_self]
        rfl
      · intro trade carried
        rw [next] at carried
        cases carried
  | executed answers cursor quote state trade scanned place next operation fatal rows =>
      refine held.carried rows (by rw [next, place]; rfl) fun carried same => .inr ?_
      rw [next] at same
      cases same
      exact fatal
  | persisted answers cursor state trade scanned place next rows =>
      refine held.carried rows (by rw [next, place]; rfl) fun carried same => .inl ?_
      rw [next] at same
      rw [place]
      exact same
  | reported answers cursor trade scanned place next rows =>
      refine held.carried rows (by rw [next, place]; rfl) fun carried same => .inl ?_
      rw [next] at same
      rw [place]
      exact same
  | updated answers cursor trade triggered status reported scanned place next written =>
      exact .of_not_pending (by rw [next]; rfl)
  | blocked answers cursor quote decision state reason scanned place untradable fatal next operation
      rows => exact .of_not_pending (by rw [next]; rfl)
  | raised raised idle rows => exact .of_not_pending (by rw [idle]; rfl)
  | other notRaised kept unmarked unblocked reported unreported rows =>
      rcases kept with same | ⟨-, next⟩
      · exact held.carried rows (by rw [same]) fun carried carries => .inl (same ▸ carries)
      · exact .of_not_pending next

end Pending

/-! ### What a step adds to the books -/

def Database.flaggedCount (db : Database) (routeId : String) (flags : Bool → Bool → Bool) : Nat :=
  db.tradeAttempts.countP fun row =>
    row.routeId = routeId && flags row.isFatalFailure row.cooldownTriggered

section Books

variable {settings : Settings} {routeId : String} {bot after : Bot} {event : Event}

theorem failureReport_of_not_updating
    (place : ∀ cursor trade triggered, bot.scan ≠ .updating cursor trade triggered) :
    bot.failureReport routeId event = none := by
  unfold Bot.failureReport
  split
  · rename_i cursor trade triggered _ updating
    exact absurd updating (place cursor trade triggered)
  · rfl

/-- The flags are written once, and only into the row of a failed trade. -/
theorem flaggedCount_step (held : Pending bot) (lawful : bot.lawful)
    (taken : bot.step settings event = some after) {flags : Bool → Bool → Bool}
    (unset : flags false false = false) :
    after.db.flaggedCount routeId flags = bot.db.flaggedCount routeId flags +
      if (bot.failureReport routeId event).any (flags true) then 1 else 0 := by
  have same : after.db.tradeAttempts = bot.db.tradeAttempts →
      bot.failureReport routeId event = none →
      after.db.flaggedCount routeId flags = bot.db.flaggedCount routeId flags +
        if (bot.failureReport routeId event).any (flags true) then 1 else 0 := by
    intro rows unreported
    rw [Database.flaggedCount, rows, unreported]
    rfl
  cases Bot.step_failure lawful taken with
  | attempted answers cursor quote row scanned place next route fatal cooldown rows =>
      rw [failureReport_of_not_updating (by simp [place]), Database.flaggedCount, rows,
        countP_concat, fatal, cooldown, unset]
      simp [Database.flaggedCount]
  | executed answers cursor quote state trade scanned place next operation fatal rows =>
      exact same rows (failureReport_of_not_updating (by simp [place]))
  | persisted answers cursor state trade scanned place next rows =>
      exact same rows (failureReport_of_not_updating (by simp [place]))
  | reported answers cursor trade scanned place next rows =>
      exact same rows (failureReport_of_not_updating (by simp [place]))
  | updated answers cursor trade triggered status reported scanned place next written =>
      obtain ⟨row, stored, route, fatal, cooldown⟩ := held.row cursor.route.id trade.attemptId
        (by rw [place]; rfl)
      have report : bot.failureReport routeId event =
          if cursor.route.id = routeId && trade.outcome.isFailed then some triggered else none := by
        rw [Bot.failureReport, scanned, place]
      rw [Database.flaggedCount, written, Database.updateTradeAttemptOutcome,
        countP_modify stored (by simp [fatal, cooldown, unset]), report]
      congr 1
      cases failed : trade.outcome.isFailed with
      | false => simp [unset]
      | true =>
          have known := held.fatal trade (by rw [place]; rfl) failed
          by_cases here : cursor.route.id = routeId
          · simp [route, here, known]
          · simp [route, here]
  | blocked answers cursor quote decision state reason scanned place untradable fatal next operation
      rows => exact same rows (failureReport_of_not_updating (by simp [place]))
  | raised raised idle rows =>
      refine same rows ?_
      rw [Bot.failureReport, raised]
  | other notRaised kept unmarked unblocked reported unreported rows =>
      exact same rows (unreported routeId)

theorem cutsOff_of_not_raised (notRaised : event.2 ≠ .scanRaise) :
    bot.cutsOff routeId event = false := by
  unfold Bot.cutsOff
  split
  · rename_i raised
    exact absurd raised notRaised
  · rfl

theorem failedTrade_of_not_pending {place : ScanPc} (pending : place.pending = none) :
    place.failedTrade routeId = false := by
  cases place with
  | persisting cursor state trade =>
      cases trade with
      | none => rfl
      | some trade => cases pending
  | reporting | updating => cases pending
  | _ => rfl

theorem wrongFlag_of_not_pending {place : ScanPc} (pending : place.pending = none) :
    place.wrongFlag settings routeId = false := by
  cases place with
  | updating => cases pending
  | _ => rfl

theorem wrongFlag_le_failedTrade (place : ScanPc) :
    (place.wrongFlag settings routeId).toNat ≤ (place.failedTrade routeId).toNat := by
  cases place with
  | updating cursor trade triggered =>
      simp only [ScanPc.wrongFlag, ScanPc.failedTrade]
      cases cursor.route.id = routeId && trade.outcome.isFailed with
      | false => exact le_rfl
      | true => exact Bool.toNat_le _
  | _ => exact Nat.zero_le _

/-- A mark is in the hands of the loop, or in a row, or it was a block, or it was cut off. -/
theorem failedTrade_step (lawful : bot.lawful) (taken : bot.step settings event = some after) :
    (after.scan.failedTrade routeId).toNat + (bot.blocksFatally routeId event).toNat +
        (bot.cutsOff routeId event).toNat + (bot.failureReport routeId event).isSome.toNat =
      (bot.scan.failedTrade routeId).toNat +
        (bot.operations settings event).countP (RiskOp.failsFatally routeId) := by
  cases Bot.step_failure lawful taken with
  | attempted answers cursor quote row scanned place next route fatal cooldown rows =>
      simp [ScanPc.failedTrade, Bot.blocksFatally, Bot.cutsOff, Bot.failureReport, scanned, place,
        next, Bot.operations, Bot.scanOperations]
  | executed answers cursor quote state trade scanned place next operation fatal rows =>
      rw [operation]
      simp only [ScanPc.failedTrade, Bot.blocksFatally, Bot.cutsOff, Bot.failureReport, scanned,
        place, next, TradeOutcome.operation, List.countP_singleton]
      cases failed : trade.outcome.isFailed with
      | false => simp [RiskOp.failsFatally]
      | true =>
          have marked := fatal failed
          by_cases here : cursor.route.id = routeId <;> simp [RiskOp.failsFatally, here, marked]
  | persisted answers cursor state trade scanned place next rows =>
      simp [ScanPc.failedTrade, Bot.blocksFatally, Bot.cutsOff, Bot.failureReport, scanned, place,
        next, Bot.operations, Bot.scanOperations]
  | reported answers cursor trade scanned place next rows =>
      simp [ScanPc.failedTrade, Bot.blocksFatally, Bot.cutsOff, Bot.failureReport, scanned, place,
        next, Bot.operations, Bot.scanOperations]
  | updated answers cursor trade triggered status reported scanned place next written =>
      simp only [ScanPc.failedTrade, Bot.blocksFatally, Bot.cutsOff, Bot.failureReport, scanned,
        place, next, Bot.operations, Bot.scanOperations, List.countP_nil]
      cases cursor.route.id = routeId && trade.outcome.isFailed <;> rfl
  | blocked answers cursor quote decision state reason scanned place untradable fatal next operation
      rows =>
      rw [operation]
      simp only [ScanPc.failedTrade, Bot.blocksFatally, Bot.cutsOff, Bot.failureReport, scanned,
        place, next, untradable, fatal, List.countP_singleton, RiskOp.failsFatally]
      by_cases here : cursor.route.id = routeId <;> simp [here]
  | raised raised idle rows =>
      simp [ScanPc.failedTrade, Bot.blocksFatally, Bot.cutsOff, Bot.failureReport, raised, idle,
        Bot.operations]
  | other notRaised kept unmarked unblocked reported unreported rows =>
      have uncut : bot.cutsOff routeId event = false := cutsOff_of_not_raised notRaised
      have none : (bot.operations settings event).countP (RiskOp.failsFatally routeId) = 0 :=
        List.countP_eq_zero.mpr fun op member => by simp [unmarked routeId op member]
      have same : after.scan.failedTrade routeId = bot.scan.failedTrade routeId := by
        rcases kept with same | ⟨before, next⟩
        · rw [same]
        · rw [failedTrade_of_not_pending before, failedTrade_of_not_pending next]
      rw [uncut, none, same, unblocked routeId, unreported routeId]
      rfl

/-- A wrong flag comes from a report, and goes into a row unless it is cut off. -/
theorem wrongFlag_step (lawful : bot.lawful) (taken : bot.step settings event = some after) :
    (after.scan.wrongFlag settings routeId).toNat +
        ((bot.failureReport routeId event).any (· != settings.coolsDown)).toNat ≤
      (bot.scan.wrongFlag settings routeId).toNat +
        (bot.misreports settings routeId event).toNat ∧
    (bot.scan.wrongFlag settings routeId).toNat +
        (bot.misreports settings routeId event).toNat ≤
      (after.scan.wrongFlag settings routeId).toNat +
        ((bot.failureReport routeId event).any (· != settings.coolsDown)).toNat +
        (bot.cutsOff routeId event).toNat := by
  cases Bot.step_failure lawful taken with
  | attempted answers cursor quote row scanned place next route fatal cooldown rows =>
      simp [ScanPc.wrongFlag, Bot.misreports, Bot.cutsOff, Bot.failureReport, scanned, place, next]
  | executed answers cursor quote state trade scanned place next operation fatal rows =>
      simp [ScanPc.wrongFlag, Bot.misreports, Bot.cutsOff, Bot.failureReport, scanned, place, next]
  | persisted answers cursor state trade scanned place next rows =>
      simp [ScanPc.wrongFlag, Bot.misreports, Bot.cutsOff, Bot.failureReport, scanned, place, next]
  | reported answers cursor trade scanned place next rows =>
      simp [ScanPc.wrongFlag, Bot.misreports, Bot.cutsOff, Bot.failureReport, scanned, place, next]
  | updated answers cursor trade triggered status reported scanned place next written =>
      simp only [ScanPc.wrongFlag, Bot.misreports, Bot.cutsOff, Bot.failureReport, scanned, place,
        next]
      cases cursor.route.id = routeId && trade.outcome.isFailed <;> simp
  | blocked answers cursor quote decision state reason scanned place untradable fatal next operation
      rows =>
      simp [ScanPc.wrongFlag, Bot.misreports, Bot.cutsOff, Bot.failureReport, scanned, place, next]
  | raised raised idle rows =>
      have cut : bot.cutsOff routeId event = bot.scan.failedTrade routeId := by
        rw [Bot.cutsOff, raised]
      have unreported : bot.failureReport routeId event = none := by
        rw [Bot.failureReport, raised]
      have silent : bot.misreports settings routeId event = false := by
        rw [Bot.misreports, raised]
      have bounded := @wrongFlag_le_failedTrade settings routeId bot.scan
      rw [cut, unreported, silent, idle]
      simpa [ScanPc.wrongFlag] using bounded
  | other notRaised kept unmarked unblocked reported unreported rows =>
      have uncut : bot.cutsOff routeId event = false := cutsOff_of_not_raised notRaised
      have same : after.scan.wrongFlag settings routeId = bot.scan.wrongFlag settings routeId := by
        rcases kept with same | ⟨before, next⟩
        · rw [same]
        · rw [wrongFlag_of_not_pending before, wrongFlag_of_not_pending next]
      rw [uncut, same, reported routeId, unreported routeId]
      exact ⟨le_rfl, le_rfl⟩

theorem cooldownMarks_step (lawful : bot.lawful) :
    (bot.operations settings event).countP (RiskOp.startsCooldown settings routeId) =
      if settings.coolsDown then
        (bot.operations settings event).countP (RiskOp.failsFatally routeId)
      else 0 := by
  have same : ∀ op ∈ bot.operations settings event, op.startsCooldown settings routeId =
      (op.failsFatally routeId && settings.coolsDown) := by
    intro op member
    rcases Bot.operation_cases lawful member with ⟨answers, -, scanned⟩ | ⟨rows, row, -, -, rfl⟩ |
      operator
    · rcases Bot.scan_operation scanned with ⟨paused, rfl⟩ |
        ⟨route, category, reason, rfl, fatal, -⟩ | ⟨route, realizedPnl, rfl, -⟩
      · rfl
      · simp [RiskOp.startsCooldown, RiskOp.failsFatally, Settings.coolsDown, fatal,
          GlobalRiskManager.failureCooldownSeconds]
      · rfl
    · rfl
    · cases op with
      | markFailure => cases operator
      | _ => rfl
  rw [List.countP_congr fun op member => by rw [same op member]]
  cases settings.coolsDown <;> simp

end Books

/-! ### The books of a run -/

def blockCount (routeId : String) (trace : List (Bot × Event)) : Nat :=
  trace.countP fun entry => entry.1.blocksFatally routeId entry.2

def cutCount (routeId : String) (trace : List (Bot × Event)) : Nat :=
  trace.countP fun entry => entry.1.cutsOff routeId entry.2

def misreportCount (settings : Settings) (routeId : String) (trace : List (Bot × Event)) : Nat :=
  trace.countP fun entry => entry.1.misreports settings routeId entry.2

def Database.wrongCount (db : Database) (settings : Settings) (routeId : String) : Nat :=
  db.flaggedCount routeId fun fatal triggered => fatal && triggered != settings.coolsDown

section Tallied

variable {settings : Settings} {routeId : String} {trace : List (Bot × Event)} {bot after : Bot}
  {event : Event}

structure Tallied (settings : Settings) (routeId : String) (trace : List (Bot × Event))
    (bot : Bot) : Prop where
  lawful : bot.lawful
  pending : Pending bot
  marks : bot.db.fatalPauseCountForRoute routeId + (bot.scan.failedTrade routeId).toNat +
    blockCount routeId trace + cutCount routeId trace = fatalMarks settings routeId trace
  wrongLe : bot.db.wrongCount settings routeId + (bot.scan.wrongFlag settings routeId).toNat ≤
    misreportCount settings routeId trace
  wrongGe : misreportCount settings routeId trace ≤ bot.db.wrongCount settings routeId +
    (bot.scan.wrongFlag settings routeId).toNat + cutCount routeId trace
  cooling : settings.coolsDown = true → bot.db.cooldownEventCountForRoute routeId +
    bot.db.wrongCount settings routeId = bot.db.fatalPauseCountForRoute routeId
  idle : settings.coolsDown = false →
    bot.db.cooldownEventCountForRoute routeId = bot.db.wrongCount settings routeId
  cooldowns : cooldownMarks settings routeId trace =
    if settings.coolsDown then fatalMarks settings routeId trace else 0

theorem countP_concat_toNat {α : Type*} (test : α → Bool) (past : List α) (latest : α) :
    (past ++ [latest]).countP test = past.countP test + (test latest).toNat := by
  rw [countP_concat]
  cases test latest <;> rfl

theorem operationsOf_concat_countP (test : RiskOp → Bool) :
    (operationsOf settings (trace ++ [(bot, event)])).countP test =
      (operationsOf settings trace).countP test + (bot.operations settings event).countP test := by
  simp [operationsOf]

/-- The three counts of rows move together, by the flag that is written. -/
theorem counters_step (pending : Pending bot) (lawful : bot.lawful)
    (taken : bot.step settings event = some after) :
    let report := bot.failureReport routeId event
    after.db.fatalPauseCountForRoute routeId =
        bot.db.fatalPauseCountForRoute routeId + report.isSome.toNat ∧
      after.db.cooldownEventCountForRoute routeId =
        bot.db.cooldownEventCountForRoute routeId + (report.any id).toNat ∧
      after.db.wrongCount settings routeId =
        bot.db.wrongCount settings routeId + (report.any (· != settings.coolsDown)).toNat := by
  have step := @flaggedCount_step settings routeId bot after event pending lawful taken
  have fatal : after.db.flaggedCount routeId (fun fatal _ => fatal) = _ := step rfl
  have cooldown : after.db.flaggedCount routeId (fun _ triggered => triggered) = _ := step rfl
  have wrong : after.db.wrongCount settings routeId = bot.db.wrongCount settings routeId + _ :=
    step rfl
  refine ⟨fatal.trans ?_, cooldown.trans ?_, wrong.trans ?_⟩
  all_goals cases bot.failureReport routeId event with
    | none => rfl
    | some triggered => ?_
  · rfl
  · cases triggered <;> rfl
  · rw [Option.any_some, Option.any_some, Bool.true_and]
    cases triggered != settings.coolsDown <;> rfl

theorem Tallied.step (tallied : Tallied settings routeId trace bot)
    (taken : bot.step settings event = some after) :
    Tallied settings routeId (trace ++ [(bot, event)]) after := by
  obtain ⟨lawful, pending, marks, wrongLe, wrongGe, cooling, idle, cooldowns⟩ := tallied
  obtain ⟨fatal, cooldown, wrong⟩ :=
    @counters_step settings routeId bot after event pending lawful taken
  have held := @failedTrade_step settings routeId bot after event lawful taken
  obtain ⟨flagLe, flagGe⟩ := @wrongFlag_step settings routeId bot after event lawful taken
  have blocks : blockCount routeId (trace ++ [(bot, event)]) =
      blockCount routeId trace + (bot.blocksFatally routeId event).toNat :=
    countP_concat_toNat _ trace (bot, event)
  have cuts : cutCount routeId (trace ++ [(bot, event)]) =
      cutCount routeId trace + (bot.cutsOff routeId event).toNat :=
    countP_concat_toNat _ trace (bot, event)
  have misreports : misreportCount settings routeId (trace ++ [(bot, event)]) =
      misreportCount settings routeId trace + (bot.misreports settings routeId event).toNat :=
    countP_concat_toNat _ trace (bot, event)
  have marked : fatalMarks settings routeId (trace ++ [(bot, event)]) =
      fatalMarks settings routeId trace + _ := operationsOf_concat_countP _
  have cooled : cooldownMarks settings routeId (trace ++ [(bot, event)]) =
      cooldownMarks settings routeId trace + _ := operationsOf_concat_countP _
  refine ⟨Bot.step_lawful lawful taken, pending.step lawful taken, ?_, ?_, ?_, ?_, ?_, ?_⟩
  · rw [fatal, blocks, cuts, marked]
    omega
  · rw [wrong, misreports]
    omega
  · rw [wrong, misreports, cuts]
    omega
  · intro on
    have before := cooling on
    rw [fatal, cooldown, wrong, on]
    cases bot.failureReport routeId event with
    | none => exact before
    | some triggered => cases triggered <;> simp <;> omega
  · intro off
    have before := idle off
    rw [cooldown, wrong, off]
    cases bot.failureReport routeId event with
    | none => exact before
    | some triggered => cases triggered <;> simp <;> omega
  · rw [cooled, marked, cooldowns, cooldownMarks_step lawful]
    split <;> rfl

theorem Tallied.launch {db : Database} {started : Instant} (unseen : db.attemptsOf routeId = 0) :
    Tallied settings routeId [] (.launch settings db started) := by
  have other : ∀ row ∈ db.tradeAttempts, row.routeId ≠ routeId := fun row member same =>
    List.count_eq_zero.mp unseen (same ▸ List.mem_map_of_mem member)
  have unflagged : ∀ flags, db.flaggedCount routeId flags = 0 := fun flags =>
    List.countP_eq_zero.mpr fun row member => by simp [other row member]
  have fatal : db.fatalPauseCountForRoute routeId = 0 := unflagged fun fatal _ => fatal
  have cooldown : db.cooldownEventCountForRoute routeId = 0 :=
    unflagged fun _ triggered => triggered
  have wrong : db.wrongCount settings routeId = 0 := unflagged _
  refine ⟨fun handler => nofun, .of_not_pending rfl, ?_, ?_, ?_, fun _ => ?_, fun _ => ?_, ?_⟩
  · change db.fatalPauseCountForRoute routeId + 0 + 0 + 0 = 0
    rw [fatal]
  · change db.wrongCount settings routeId + 0 ≤ 0
    rw [wrong]
  · exact Nat.zero_le _
  · change db.cooldownEventCountForRoute routeId + db.wrongCount settings routeId =
      db.fatalPauseCountForRoute routeId
    rw [fatal, cooldown, wrong]
  · change db.cooldownEventCountForRoute routeId = db.wrongCount settings routeId
    rw [cooldown, wrong]
  · split <;> rfl

theorem miscounts_iff :
    (∀ entry ∈ trace, entry.1.miscounts settings routeId entry.2 = false) ↔
      blockCount routeId trace = 0 ∧ cutCount routeId trace = 0 ∧
        misreportCount settings routeId trace = 0 := by
  simp only [blockCount, cutCount, misreportCount, List.countP_eq_zero, Bool.not_eq_true,
    Bot.miscounts, Bool.or_eq_false_iff, forall_and, and_assoc]

end Tallied

/-- The two instability counters are the failures that were marked and the cooldowns that they
started, exactly when no failure was marked for a block, cut off before its row, or reported when
what was left of its cooldown no longer told that it had started. -/
theorem instability_counters_iff (settings : Settings) (db : Database) (started : Instant)
    (routeId : String) (unseen : db.attemptsOf routeId = 0) (trace : List (Bot × Event)) (bot : Bot)
    (run : Reaches (Bot.step settings) anyStep (.launch settings db started) trace bot)
    (settled : bot.scan.failedTrade routeId = false) :
    (bot.db.fatalPauseCountForRoute routeId = fatalMarks settings routeId trace ∧
        bot.db.cooldownEventCountForRoute routeId = cooldownMarks settings routeId trace) ↔
      ∀ entry ∈ trace, entry.1.miscounts settings routeId entry.2 = false := by
  obtain ⟨-, -, marks, wrongLe, wrongGe, cooling, idle, cooldowns⟩ :
      Tallied settings routeId trace bot :=
    run.invariant_trace (.launch unseen) fun _ _ _ _ tallied _ taken => tallied.step taken
  have unflagged := @wrongFlag_le_failedTrade settings routeId bot.scan
  rw [settled] at marks unflagged
  rw [Bool.toNat_false] at marks unflagged
  rw [miscounts_iff, cooldowns]
  cases on : settings.coolsDown with
  | true =>
      have counted := cooling on
      simp only [if_true]
      constructor
      · intro agree
        obtain ⟨fatal, cooldown⟩ := agree
        omega
      · intro clean
        obtain ⟨blocks, cuts, misreports⟩ := clean
        omega
  | false =>
      have counted := idle on
      simp only [Bool.false_eq_true, if_false]
      constructor
      · intro agree
        obtain ⟨fatal, cooldown⟩ := agree
        omega
      · intro clean
        obtain ⟨blocks, cuts, misreports⟩ := clean
        omega

/-! ### A failed dry run, and a missing quote -/

def liveDb : Database := { Sample.db with control := { mode := .live } }

def failedDryRun : List Event :=
  ((List.range 7).map fun offset =>
    ((offset : Int), .scan (Sample.tradingAnswers Sample.liveSettings))) ++
    [(7, .scan {}), (8, .scan { chainValid := false }), (9, .scan {}), (10, .scan {}),
      (11, .scan {})]

theorem instability_counters_iff_dry_run :
    ∃ trace bot, Reaches (Bot.step Sample.liveSettings) anyStep
        (.launch Sample.liveSettings liveDb 0) trace bot ∧
      fatalMarks Sample.liveSettings "r" trace = 1 ∧
      bot.db.fatalPauseCountForRoute "r" = fatalMarks Sample.liveSettings "r" trace ∧
      bot.db.cooldownEventCountForRoute "r" = cooldownMarks Sample.liveSettings "r" trace := by
  have found : (follow (Bot.step Sample.liveSettings) (.launch Sample.liveSettings liveDb 0)
      failedDryRun).any (fun done => !done.2.scan.failedTrade "r" &&
        (done.1.all fun entry => !entry.1.miscounts Sample.liveSettings "r" entry.2) &&
        fatalMarks Sample.liveSettings "r" done.1 = 1) = true := by decide +kernel
  obtain ⟨trace, bot, run, checked⟩ : ∃ trace bot, Reaches (Bot.step Sample.liveSettings) anyStep
      (.launch Sample.liveSettings liveDb 0) trace bot ∧ _ :=
    exists_run found fun _ _ _ _ => trivial
  simp only [Bool.and_eq_true, Bool.not_eq_true', decide_eq_true_eq] at checked
  obtain ⟨⟨settled, counted⟩, once⟩ := checked
  refine ⟨trace, bot, run, once, (instability_counters_iff Sample.liveSettings liveDb 0 "r" rfl
    trace bot run settled).mpr fun entry member => ?_⟩
  simpa using List.all_eq_true.mp counted entry member

/-- A route that was paused for a missing quote has no failure in its counters. -/
theorem blocked_failure_uncounted :
    ∃ trace bot, Reaches (Bot.step shipped) anyStep (.launch shipped Sample.db 0) trace bot ∧
      bot.scan.failedTrade "r" = false ∧ fatalMarks shipped "r" trace = 1 ∧
      cooldownMarks shipped "r" trace = 1 ∧ bot.db.fatalPauseCountForRoute "r" = 0 ∧
      bot.db.cooldownEventCountForRoute "r" = 0 := by
  have found : (follow (Bot.step shipped) (.launch shipped Sample.db 0)
      (Sample.toFailure ++ [(7, .scan {}), (8, .scan {})])).any (fun done =>
        !done.2.scan.failedTrade "r" && fatalMarks shipped "r" done.1 = 1 &&
        cooldownMarks shipped "r" done.1 = 1 && done.2.db.fatalPauseCountForRoute "r" = 0 &&
        done.2.db.cooldownEventCountForRoute "r" = 0) = true := by decide +kernel
  obtain ⟨trace, bot, run, checked⟩ : ∃ trace bot, Reaches (Bot.step shipped) anyStep
      (.launch shipped Sample.db 0) trace bot ∧ _ := exists_run found fun _ _ _ _ => trivial
  simp only [Bool.and_eq_true, Bool.not_eq_true', decide_eq_true_eq] at checked
  obtain ⟨⟨⟨⟨settled, marked⟩, cooled⟩, fatal⟩, cooldown⟩ := checked
  exact ⟨trace, bot, run, settled, marked, cooled, fatal, cooldown⟩

end ArbitrageBot
