/-
The tables of a trade's life: an eligible opportunity, the attempt that acts on it, the
execution that settles the attempt. Whatever is interleaved, cut off or restarted, no attempt
lacks an opportunity of its own and no attempt is settled twice; unsettled are the attempt in
flight and those that an exception or a restart has cut off.
-/

import ArbitrageBot.System.LiveArming

namespace ArbitrageBot

open Transition
open Sample (tradingSettings)

/-! ### What the tables repeat of a trade -/

structure TradeTerms where
  routeId : String
  strategy : String
  mode : RunMode
  inputAmount : Rat
  outputAmount : Rat
  expectedPnl : Rat
deriving DecidableEq

section Terms

variable (settings : Settings)

/-- What the quote in hand comes to in the columns of an attempt and of an execution. -/
def ScanCursor.terms (cursor : ScanCursor) (quote : RouteQuote) : TradeTerms :=
  { routeId := cursor.route.id, strategy := cursor.route.strategy, mode := cursor.strategyMode
    inputAmount := settings.numericColumn quote.initialAmount
    outputAmount := settings.numericColumn quote.finalAmount
    expectedPnl := settings.numericColumn quote.modeledNetEdgeAmount }

def Opportunity.terms (row : Opportunity) : TradeTerms :=
  { routeId := row.quote.routeId, strategy := row.quote.strategy, mode := row.mode
    inputAmount := settings.numericColumn row.quote.initialAmount
    outputAmount := settings.numericColumn row.quote.finalAmount
    expectedPnl := settings.numericColumn row.quote.modeledNetEdgeAmount }

end Terms

def TradeAttempt.terms (row : TradeAttempt) : TradeTerms :=
  { routeId := row.routeId, strategy := row.strategy, mode := row.mode
    inputAmount := row.inputAmount, outputAmount := row.expectedOutputAmount
    expectedPnl := row.expectedPnl }

def Execution.terms (row : Execution) : TradeTerms :=
  { routeId := row.routeId, strategy := row.strategy, mode := row.mode
    inputAmount := row.inputAmount, outputAmount := row.outputAmount
    expectedPnl := row.expectedPnl }

def Database.eligible (db : Database) : List Opportunity :=
  db.opportunities.filter fun row => row.status = "eligible"

/-- How a trade can end: on paper it always succeeds, at a fixed cost; everywhere else it is a dry
run, and only a wrong chain blocks it. -/
def Ends (mode : RunMode) (expectedPnl : Rat) (txStatus category : String) (realizedPnl : Rat) :
    Prop :=
  if mode = .paper then
    txStatus = "success" ∧ category = "" ∧ realizedPnl = expectedPnl - 1 / 50
  else
    realizedPnl = 0 ∧ (txStatus = "dry_run" ∧ category = "" ∨
      txStatus = "dry_run_blocked" ∧ category = "chain_id_mismatch")

/-- What an execution says of the attempt that it settles. -/
structure Execution.Settles (settings : Settings) (execution : Execution)
    (attempt : TradeAttempt) : Prop where
  terms : execution.terms = attempt.terms
  status : attempt.status = execution.txStatus
  category : attempt.failureCategory = execution.failureCategory
  fatal : attempt.isFatalFailure = execution.isFatalFailure
  /-- The amounts are those of an outcome, as their columns keep them. -/
  ends : ∃ expectedPnl realizedPnl,
    Ends execution.mode expectedPnl execution.txStatus execution.failureCategory realizedPnl ∧
      execution.expectedPnl = settings.numericColumn expectedPnl ∧
      execution.realizedPnl = settings.numericColumn realizedPnl

structure TradeLedger (settings : Settings) (db : Database) : Prop where
  /-- The attempts act on eligible opportunities, each on one of its own, in their order. -/
  acted : (db.tradeAttempts.map TradeAttempt.terms).Sublist
    (db.eligible.map (Opportunity.terms settings))
  running : ∀ attempt ∈ db.tradeAttempts, attempt.mode ≠ .stopped
  once : db.executions.Pairwise fun earlier later => earlier.attemptId < later.attemptId
  settled : ∀ execution ∈ db.executions, ∃ attempt,
    db.tradeAttempts[execution.attemptId]? = some attempt ∧ execution.Settles settings attempt

/-! ### What the loop has in hand -/

/-- An eligible opportunity with these terms is stored, and no attempt has acted on it yet. -/
def Ordered (settings : Settings) (db : Database) (terms : TradeTerms) : Prop :=
  (db.tradeAttempts.map TradeAttempt.terms ++ [terms]).Sublist
    (db.eligible.map (Opportunity.terms settings))

/-- The open attempt is the last row, and no execution has its number yet. -/
structure OpenAttempt (db : Database) (attemptId : Nat) (terms : TradeTerms) : Prop where
  last : attemptId + 1 = db.tradeAttempts.length
  stored : (db.tradeAttempts[attemptId]?).map TradeAttempt.terms = some terms
  unsettled : ∀ execution ∈ db.executions, execution.attemptId < attemptId

structure OpenTrade (settings : Settings) (db : Database) (cursor : ScanCursor)
    (trade : Trade) : Prop where
  standing : OpenAttempt db trade.attemptId (cursor.terms settings trade.quote)
  judged : ∃ chainValid, trade.outcome = cursor.execute trade.quote chainValid

def OutcomeWritten (db : Database) (trade : Trade) : Prop :=
  ∃ attempt, db.tradeAttempts[trade.attemptId]? = some attempt ∧
    attempt.status = trade.outcome.txStatus ∧
    attempt.failureCategory = trade.outcome.category ∧
    attempt.isFatalFailure = trade.outcome.fatalFailure

def RouteQuote.Labels (quote : RouteQuote) (route : Route) : Prop :=
  quote.routeId = route.id ∧ quote.strategy = route.strategy

/-- What the tables owe the place at which the loop stands. -/
def ScanPc.Holds (settings : Settings) (db : Database) : ScanPc → Prop
  | .observing cursor quote _ => quote.Labels cursor.route
  | .judging cursor quote decision =>
      decision.tradable = true → Ordered settings db (cursor.terms settings quote)
  | .attempting cursor quote =>
      Ordered settings db (cursor.terms settings quote) ∧ cursor.strategyMode ≠ .stopped
  | .executing cursor quote attemptId => OpenAttempt db attemptId (cursor.terms settings quote)
  | .persisting cursor _ (some trade) | .reporting cursor trade | .updating cursor trade _ =>
      OpenTrade settings db cursor trade
  | .recording cursor trade _ => OpenTrade settings db cursor trade ∧ OutcomeWritten db trade
  | _ => True

theorem ScanPc.holds_forRoutes (settings : Settings) (db : Database) (mode : RunMode)
    (balance : Rat) (routes : List Route) :
    (ScanPc.forRoutes mode balance routes).Holds settings db := by
  rcases ScanPc.forRoutes_cases mode balance routes with idle | ⟨cursor, quoting⟩
  · rw [idle]
    trivial
  · rw [quoting]
    trivial

/-! ### The outcome of a trade -/

namespace ScanCursor

variable {cursor : ScanCursor} {quote : RouteQuote} {chainValid : Bool}

theorem execute_ends :
    Ends cursor.strategyMode quote.modeledNetEdgeAmount
      (cursor.execute quote chainValid).txStatus (cursor.execute quote chainValid).category
      (cursor.execute quote chainValid).realizedPnl := by
  unfold Ends
  split
  · rename_i onPaper
    rw [execute, if_pos onPaper]
    exact ⟨rfl, rfl, rfl⟩
  · rename_i offPaper
    rw [execute, if_neg offPaper]
    cases chainValid with
    | true => exact ⟨rfl, .inl ⟨rfl, rfl⟩⟩
    | false => exact ⟨rfl, .inr ⟨rfl, rfl⟩⟩

/-- The row of an attempt reports a category only for a failure, and only failures have one. -/
theorem execute_reported :
    (if (cursor.execute quote chainValid).isFailed then
      (cursor.execute quote chainValid).category else "") =
        (cursor.execute quote chainValid).category ∧
      ((cursor.execute quote chainValid).isFailed &&
        (cursor.execute quote chainValid).fatalFailure) =
        (cursor.execute quote chainValid).fatalFailure := by
  unfold execute
  split
  · exact ⟨rfl, rfl⟩
  · cases chainValid with
    | true => exact ⟨rfl, rfl⟩
    | false => exact ⟨rfl, by decide⟩

end ScanCursor

/-! ### The writes of the loop -/

theorem map_modify {α β : Type*} {view : α → β} {change : α → α}
    (kept : ∀ row, view (change row) = view row) (rows : List α) (position : Nat) :
    (rows.modify position change).map view = rows.map view := by
  induction rows generalizing position with
  | nil => simp
  | cons row rest ih =>
      cases position with
      | zero => simp [kept]
      | succ previous => simp [ih]

section

variable {settings : Settings} {db : Database} {attemptId : Nat} {terms : TradeTerms}

theorem Database.eligible_insertOpportunity (row : Opportunity) :
    (db.insertOpportunity row).eligible =
      db.eligible ++ if row.status = "eligible" then [row] else [] := by
  rw [eligible, insertOpportunity, List.filter_append, List.filter_singleton]
  congr 1
  simp only [Bool.cond_decide]

theorem TradeLedger.insertOpportunity (ledger : TradeLedger settings db) (row : Opportunity) :
    TradeLedger settings (db.insertOpportunity row) := by
  refine { ledger with acted := ?_ }
  rw [Database.eligible_insertOpportunity, List.map_append]
  exact ledger.acted.trans (List.sublist_append_left _ _)

theorem TradeLedger.insertTradeAttempt (ledger : TradeLedger settings db) {row : TradeAttempt}
    (ordered : Ordered settings db (row.kept settings.numericColumn).terms)
    (running : row.mode ≠ .stopped) :
    TradeLedger settings (db.insertTradeAttempt settings.numericColumn row) := by
  refine ⟨?_, ?_, ledger.once, ?_⟩
  · rw [Database.insertTradeAttempt, List.map_append]
    exact ordered
  · intro attempt member
    rcases List.mem_append.mp member with old | new
    · exact ledger.running attempt old
    · rw [List.mem_singleton.mp new]
      exact running
  · intro execution member
    obtain ⟨attempt, stored, settles⟩ := ledger.settled execution member
    refine ⟨attempt, ?_, settles⟩
    rw [Database.insertTradeAttempt,
      List.getElem?_append_left (List.getElem?_eq_some_iff.mp stored).1]
    exact stored

theorem TradeLedger.openAttempt (ledger : TradeLedger settings db) (row : TradeAttempt) :
    OpenAttempt (db.insertTradeAttempt settings.numericColumn row) db.tradeAttempts.length
      (row.kept settings.numericColumn).terms := by
  refine ⟨by simp [Database.insertTradeAttempt], by simp [Database.insertTradeAttempt], ?_⟩
  intro execution member
  obtain ⟨attempt, stored, -⟩ := ledger.settled execution member
  exact (List.getElem?_eq_some_iff.mp stored).1

section Outcome

variable {status blockedReason failureCategory : String} {isFatalFailure cooldownTriggered : Bool}

theorem map_updateOutcome {α : Type*} (view : TradeAttempt → α)
    (kept : ∀ row : TradeAttempt, view
      { row with
        status := status, blockedReason := blockedReason, failureCategory := failureCategory
        isFatalFailure := isFatalFailure, cooldownTriggered := cooldownTriggered } = view row) :
    (db.updateTradeAttemptOutcome attemptId status blockedReason failureCategory isFatalFailure
      cooldownTriggered).tradeAttempts.map view = db.tradeAttempts.map view :=
  map_modify kept db.tradeAttempts attemptId

theorem getElem?_updateOutcome (position : Nat) :
    (db.updateTradeAttemptOutcome attemptId status blockedReason failureCategory isFatalFailure
      cooldownTriggered).tradeAttempts[position]? =
      db.tradeAttempts[position]?.map fun row =>
        if attemptId = position then
          { row with
            status := status, blockedReason := blockedReason, failureCategory := failureCategory
            isFatalFailure := isFatalFailure, cooldownTriggered := cooldownTriggered }
        else row :=
  List.getElem?_modify _ attemptId db.tradeAttempts position

theorem TradeLedger.updateOutcome (ledger : TradeLedger settings db)
    (standing : OpenAttempt db attemptId terms) :
    TradeLedger settings
      (db.updateTradeAttemptOutcome attemptId status blockedReason failureCategory isFatalFailure
        cooldownTriggered) := by
  refine ⟨?_, ?_, ledger.once, ?_⟩
  · rw [map_updateOutcome TradeAttempt.terms fun _ => rfl]
    exact ledger.acted
  · intro attempt member
    have modes := List.mem_map_of_mem (f := TradeAttempt.mode) member
    rw [map_updateOutcome TradeAttempt.mode fun _ => rfl] at modes
    obtain ⟨row, stored, same⟩ := List.mem_map.mp modes
    rw [← same]
    exact ledger.running row stored
  · intro execution member
    obtain ⟨attempt, stored, settles⟩ := ledger.settled execution member
    have earlier := standing.unsettled execution member
    refine ⟨attempt, ?_, settles⟩
    rw [getElem?_updateOutcome, stored, Option.map_some, if_neg (by omega)]

theorem OpenAttempt.updateOutcome (standing : OpenAttempt db attemptId terms) :
    OpenAttempt (db.updateTradeAttemptOutcome attemptId status blockedReason failureCategory
      isFatalFailure cooldownTriggered) attemptId terms := by
  refine ⟨?_, ?_, standing.unsettled⟩
  · rw [Database.updateTradeAttemptOutcome, List.length_modify]
    exact standing.last
  · rw [← List.getElem?_map, map_updateOutcome TradeAttempt.terms fun _ => rfl, List.getElem?_map]
    exact standing.stored

theorem OpenAttempt.outcome (standing : OpenAttempt db attemptId terms) :
    ∃ attempt, (db.updateTradeAttemptOutcome attemptId status blockedReason failureCategory
        isFatalFailure cooldownTriggered).tradeAttempts[attemptId]? = some attempt ∧
      attempt.status = status ∧ attempt.failureCategory = failureCategory ∧
      attempt.isFatalFailure = isFatalFailure := by
  obtain ⟨row, stored, -⟩ := Option.map_eq_some_iff.mp standing.stored
  rw [getElem?_updateOutcome, stored, Option.map_some, if_pos rfl]
  exact ⟨_, rfl, rfl, rfl, rfl⟩

end Outcome

theorem TradeLedger.insertExecution (ledger : TradeLedger settings db) {row : Execution}
    {attempt : TradeAttempt} (standing : OpenAttempt db row.attemptId terms)
    (stored : db.tradeAttempts[row.attemptId]? = some attempt)
    (settles : (row.kept settings.numericColumn).Settles settings attempt) :
    TradeLedger settings (db.insertExecution settings.numericColumn row) := by
  refine { ledger with once := ?_, settled := ?_ }
  · rw [Database.insertExecution, List.pairwise_append]
    refine ⟨ledger.once, List.pairwise_singleton _ _, ?_⟩
    intro earlier member later new
    rw [List.mem_singleton.mp new]
    exact standing.unsettled earlier member
  · intro execution member
    rcases List.mem_append.mp member with old | new
    · exact ledger.settled execution old
    · rw [List.mem_singleton.mp new]
      exact ⟨attempt, stored, settles⟩

end

/-! ### The step -/

/-- A handler changes none of the three tables. -/
structure SameTrades (before after : Database) : Prop where
  opportunities : after.opportunities = before.opportunities
  attempts : after.tradeAttempts = before.tradeAttempts
  executions : after.executions = before.executions

section

variable {settings : Settings} {before after : Database}

theorem SameTrades.eligible (same : SameTrades before after) :
    after.eligible = before.eligible := by
  rw [Database.eligible, Database.eligible, same.opportunities]

theorem TradeLedger.congr (ledger : TradeLedger settings before)
    (same : SameTrades before after) : TradeLedger settings after := by
  obtain ⟨acted, running, once, settled⟩ := ledger
  constructor
  · rwa [same.attempts, same.eligible]
  · rwa [same.attempts]
  · rwa [same.executions]
  · rwa [same.executions, same.attempts]

theorem OpenAttempt.congr {attemptId : Nat} {terms : TradeTerms}
    (standing : OpenAttempt before attemptId terms) (same : SameTrades before after) :
    OpenAttempt after attemptId terms := by
  obtain ⟨last, stored, unsettled⟩ := standing
  constructor
  · rwa [same.attempts]
  · rwa [same.attempts]
  · rwa [same.executions]

theorem ScanPc.Holds.congr {place : ScanPc} (held : place.Holds settings before)
    (same : SameTrades before after) : place.Holds settings after := by
  have ordered : ∀ terms, Ordered settings before terms → Ordered settings after terms := by
    intro terms stored
    rwa [Ordered, same.attempts, same.eligible]
  have trading : ∀ cursor trade, OpenTrade settings before cursor trade →
      OpenTrade settings after cursor trade :=
    fun _ _ opened => { opened with standing := opened.standing.congr same }
  cases place with
  | judging cursor quote decision => exact fun tradable => ordered _ (held tradable)
  | attempting cursor quote => exact ⟨ordered _ held.1, held.2⟩
  | executing cursor quote attemptId => exact OpenAttempt.congr held same
  | persisting cursor state trade =>
      cases trade with
      | none => trivial
      | some trade => exact trading _ _ held
  | reporting cursor trade => exact trading _ _ held
  | updating cursor trade triggered => exact trading _ _ held
  | recording cursor trade triggered =>
      refine ⟨trading _ _ held.1, ?_⟩
      rw [OutcomeWritten, same.attempts]
      exact held.2
  | _ => exact held

end

/-- The ledger with what the loop has in hand. -/
structure LedgerHeld (settings : Settings) (bot : Bot) : Prop where
  ledger : TradeLedger settings bot.db
  inHand : bot.scan.Holds settings bot.db

section

variable {settings : Settings} {now : Instant} {bot after : Bot} {event : Event}

namespace Bot

theorem scanStep_ledger (held : LedgerHeld settings bot) (answers : ScanAnswers) :
    LedgerHeld settings (bot.scanStep settings now answers) := by
  obtain ⟨ledger, inHand⟩ := held
  cases place : bot.scan with
  | routesRead mode routes =>
      simp only [scanStep, place]
      split
      · exact ⟨ledger, trivial⟩
      · exact ⟨ledger, ScanPc.holds_forRoutes ..⟩
  | ddPausing control balance routes =>
      simp only [scanStep, place]
      refine ⟨?_, ScanPc.holds_forRoutes ..⟩
      split
      · exact ledger
      · exact ledger.congr ⟨rfl, rfl, rfl⟩
  | quoting cursor =>
      simp only [scanStep, place]
      refine ⟨ledger, ?_⟩
      simp only [ScanPc.Holds, RouteQuote.Labels, ScanCursor.evaluation, ScanCursor.quote]
      split <;> exact ⟨rfl, rfl⟩
  | observing cursor quote decision =>
      rw [place] at inHand
      obtain ⟨routeId, strategy⟩ := inHand
      simp only [scanStep, place]
      refine ⟨ledger.insertOpportunity _, fun tradable => ?_⟩
      rw [Ordered, Database.eligible_insertOpportunity, List.map_append]
      apply ledger.acted.append
      simp only [tradable, if_true, List.map_cons, List.map_nil, Opportunity.terms,
        ScanCursor.terms, routeId, strategy]
      exact List.Sublist.refl _
  | judging cursor quote decision =>
      rw [place] at inHand
      simp only [scanStep, place]
      split
      · rename_i tradable
        split
        · exact ⟨ledger, ScanPc.holds_forRoutes ..⟩
        · rename_i running
          exact ⟨ledger, inHand tradable, running⟩
      · cases blockOperation cursor decision with
        | none => exact ⟨ledger, ScanPc.holds_forRoutes ..⟩
        | some op => exact ⟨ledger, trivial⟩
  | attempting cursor quote =>
      rw [place] at inHand
      simp only [scanStep, place]
      exact ⟨ledger.insertTradeAttempt inHand.1 inHand.2, ledger.openAttempt _⟩
  | executing cursor quote attemptId =>
      rw [place] at inHand
      simp only [scanStep, place, mark]
      exact ⟨ledger, inHand, answers.chainValid, rfl⟩
  | persisting cursor state trade =>
      rw [place] at inHand
      simp only [scanStep, place]
      have same : SameTrades bot.db (bot.db.upsertRouteRuntimeState cursor.route.id state) :=
        ⟨rfl, rfl, rfl⟩
      cases trade with
      | none => exact ⟨ledger.congr same, ScanPc.holds_forRoutes ..⟩
      | some trade => exact ⟨ledger.congr same, inHand.standing.congr same, inHand.judged⟩
  | reporting cursor trade =>
      rw [place] at inHand
      simp only [scanStep, place]
      exact ⟨ledger, inHand⟩
  | updating cursor trade triggered =>
      rw [place] at inHand
      simp only [scanStep, place]
      obtain ⟨standing, chainValid, outcome⟩ := inHand
      refine ⟨ledger.updateOutcome standing, ⟨standing.updateOutcome, chainValid, outcome⟩, ?_⟩
      obtain ⟨category, fatal⟩ := @ScanCursor.execute_reported cursor trade.quote chainValid
      rw [← outcome] at category fatal
      rw [category, fatal]
      exact standing.outcome
  | recording cursor trade triggered =>
      rw [place] at inHand
      simp only [scanStep, place]
      refine ⟨?_, ScanPc.holds_forRoutes ..⟩
      obtain ⟨⟨standing, chainValid, outcome⟩, attempt, stored, status, category, fatal⟩ := inHand
      have terms : attempt.terms = cursor.terms settings trade.quote := by
        have known := standing.stored
        rw [stored] at known
        exact Option.some.inj known
      have ends := @ScanCursor.execute_ends cursor trade.quote chainValid
      rw [← outcome] at ends
      exact ledger.insertExecution standing stored
        ⟨terms.symm, status, category, fatal, _, _, ends, rfl, rfl⟩
  | idle | controlRead | routesPending =>
      simp only [scanStep, place]
      exact ⟨ledger, trivial⟩

theorem step_ledger (held : LedgerHeld settings bot)
    (taken : bot.step settings event = some after) : LedgerHeld settings after := by
  obtain ⟨now, action⟩ := event
  have kept : ∀ other : Bot, SameTrades bot.db other.db → other.scan = bot.scan →
      LedgerHeld settings other := by
    intro other same place
    refine ⟨held.ledger.congr same, ?_⟩
    rw [place]
    exact held.inHand.congr same
  rcases step_cases taken with ⟨answers, rfl, rfl⟩ | ⟨rfl, rfl⟩ | ⟨rfl, booted⟩ |
    ⟨request, rfl, -, rfl⟩ | ⟨index, rfl, handled⟩ | ⟨index, rfl, rfl⟩
  · exact @scanStep_ledger settings now { bot with clock := now } ⟨held.ledger, held.inHand⟩ answers
  · exact ⟨held.ledger, trivial⟩
  · rcases bootStep_some booted with ⟨-, rfl⟩ | ⟨rows, -, rfl⟩
    · exact kept _ ⟨rfl, rfl, rfl⟩ rfl
    · exact kept _ ⟨rfl, rfl, rfl⟩ rfl
  · exact kept _ ⟨rfl, rfl, rfl⟩ rfl
  · obtain ⟨request, instr, rest, found, rfl⟩ := handlerStep_some handled
    refine kept _ ?_ (runInstr_frame instr).2.1
    cases instr <;> exact ⟨rfl, rfl, rfl⟩
  · exact kept _ ⟨rfl, rfl, rfl⟩ rfl

end Bot

theorem LedgerHeld.lifeStep {lifeEvent : LifeEvent} (held : LedgerHeld settings bot)
    (taken : ArbitrageBot.lifeStep settings bot lifeEvent = some after) :
    LedgerHeld settings after := by
  cases lifeEvent with
  | running event => exact Bot.step_ledger held taken
  | restart now =>
      cases taken
      exact ⟨held.ledger, trivial⟩

end

/-! ### Attempts without an execution -/

def Database.settled (db : Database) : List Nat := db.executions.map Execution.attemptId

/-- The attempt in flight: its row is stored and its execution is not. -/
def ScanPc.openAttempt : ScanPc → Option Nat
  | .executing _ _ attemptId => some attemptId
  | .persisting _ _ trade => trade.map Trade.attemptId
  | .reporting _ trade | .updating _ trade _ | .recording _ trade _ => some trade.attemptId
  | _ => none

/-- The attempt that an exception in the loop or a restart cuts off. -/
def cutAttempt (entry : Bot × LifeEvent) : Option Nat :=
  match entry.2 with
  | .running (_, .scanRaise) | .restart _ => entry.1.scan.openAttempt
  | _ => none

def cutAttempts (trace : List (Bot × LifeEvent)) : List Nat := trace.filterMap cutAttempt

theorem openAttempt_forRoutes (mode : RunMode) (balance : Rat) (routes : List Route) :
    (ScanPc.forRoutes mode balance routes).openAttempt = none := by
  rcases ScanPc.forRoutes_cases mode balance routes with idle | ⟨cursor, quoting⟩
  · rw [idle]
    rfl
  · rw [quoting]
    rfl

/-- What a step does to the attempt in flight, to the attempts and to the settled ones. -/
inductive AttemptMove (before after : Bot) : Prop
  | kept : after.scan.openAttempt = before.scan.openAttempt →
      after.db.tradeAttempts.length = before.db.tradeAttempts.length →
      after.db.settled = before.db.settled → AttemptMove before after
  | began : before.scan.openAttempt = none →
      after.scan.openAttempt = some before.db.tradeAttempts.length →
      after.db.tradeAttempts.length = before.db.tradeAttempts.length + 1 →
      after.db.settled = before.db.settled → AttemptMove before after
  | ended (attemptId : Nat) : before.scan.openAttempt = some attemptId →
      after.scan.openAttempt = none →
      after.db.tradeAttempts.length = before.db.tradeAttempts.length →
      after.db.settled = before.db.settled ++ [attemptId] → AttemptMove before after

section

variable {settings : Settings} {now : Instant} {bot after : Bot} {event : Event}

theorem AttemptMove.of_same (same : SameTrades bot.db after.db)
    (place : after.scan.openAttempt = bot.scan.openAttempt) : AttemptMove bot after :=
  .kept place (congrArg List.length same.attempts)
    (congrArg (List.map Execution.attemptId) same.executions)

namespace Bot

theorem scanStep_attemptMove (answers : ScanAnswers) :
    AttemptMove bot (bot.scanStep settings now answers) := by
  cases place : bot.scan with
  | routesRead control routes =>
      simp only [scanStep, place]
      split
      · exact .kept (by rw [place]; rfl) rfl rfl
      · exact .kept (by rw [place, openAttempt_forRoutes]; rfl) rfl rfl
  | ddPausing control balance routes =>
      simp only [scanStep, place]
      refine .of_same ?_ (by rw [place, openAttempt_forRoutes]; rfl)
      dsimp only
      split <;> exact ⟨rfl, rfl, rfl⟩
  | judging cursor quote decision =>
      simp only [scanStep, place]
      split
      · split
        · exact .kept (by rw [place, ScanCursor.nextRoute, openAttempt_forRoutes]; rfl) rfl rfl
        · exact .kept (by rw [place]; rfl) rfl rfl
      · cases blockOperation cursor decision with
        | none =>
            exact .kept (by rw [place, ScanCursor.nextRoute, openAttempt_forRoutes]; rfl) rfl rfl
        | some op => exact .kept (by rw [place]; rfl) rfl rfl
  | attempting cursor quote =>
      simp only [scanStep, place]
      refine .began (by rw [place]; rfl) rfl ?_ rfl
      simp only [Database.insertTradeAttempt, List.length_append, List.length_singleton]
  | persisting cursor state trade =>
      simp only [scanStep, place]
      cases trade with
      | none =>
            exact .kept (by rw [place, ScanCursor.nextRoute, openAttempt_forRoutes]; rfl) rfl rfl
      | some trade => exact .kept (by rw [place]; rfl) rfl rfl
  | updating cursor trade triggered =>
      simp only [scanStep, place]
      refine .kept (by rw [place]; rfl) ?_ rfl
      simp only [Database.updateTradeAttemptOutcome, List.length_modify]
  | recording cursor trade triggered =>
      simp only [scanStep, place]
      refine .ended trade.attemptId (by rw [place]; rfl) (openAttempt_forRoutes ..) rfl ?_
      simp only [Database.settled, Database.insertExecution, Execution.kept, List.map_append,
        List.map_cons, List.map_nil]
  | _ =>
      simp only [scanStep, place, mark]
      exact .kept (by rw [place]; rfl) rfl rfl

end Bot

/-- The unsettled attempts: those from before the run, the one in flight and those cut off. -/
structure Accounted (initial : Database) (cut : List Nat) (bot : Bot) : Prop where
  grown : initial.tradeAttempts.length ≤ bot.db.tradeAttempts.length
  past : ∀ attemptId ∈ cut, attemptId < bot.db.tradeAttempts.length
  fresh : ∀ attemptId, bot.scan.openAttempt = some attemptId →
    initial.tradeAttempts.length ≤ attemptId ∧ attemptId ∉ cut ∧
      attemptId < bot.db.tradeAttempts.length
  unsettled : ∀ attemptId < bot.db.tradeAttempts.length,
    (attemptId ∉ bot.db.settled ↔
      (attemptId < initial.tradeAttempts.length ∧ attemptId ∉ initial.settled) ∨
        bot.scan.openAttempt = some attemptId ∨ attemptId ∈ cut)

namespace Accounted

variable {initial : Database} {cut : List Nat}

theorem move (accounted : Accounted initial cut bot)
    (existing : ∀ attemptId ∈ bot.db.settled, attemptId < bot.db.tradeAttempts.length)
    (moved : AttemptMove bot after) : Accounted initial cut after := by
  obtain ⟨grown, past, fresh, unsettled⟩ := accounted
  cases moved with
  | kept place length settled =>
      constructor
      · rwa [length]
      · rwa [length]
      · rwa [length, place]
      · rwa [length, place, settled]
  | began nothing place length settled =>
      constructor
      · omega
      · exact fun attemptId member => (past attemptId member).trans (by omega)
      · intro attemptId opened
        rw [place, Option.some.injEq] at opened
        subst opened
        exact ⟨grown, fun member => lt_irrefl _ (past _ member), by omega⟩
      · intro attemptId within
        rw [place, settled, Option.some.injEq]
        rcases Nat.lt_or_eq_of_le (Nat.le_of_lt_succ (length ▸ within)) with old | rfl
        · have same := unsettled attemptId old
          rw [nothing] at same
          rw [same]
          simp only [reduceCtorEq, false_or, Nat.ne_of_gt old]
        · exact iff_of_true (fun member => lt_irrefl _ (existing _ member)) (.inr (.inl rfl))
  | ended closed opened place length settled =>
      obtain ⟨begun, uncut, within⟩ := fresh closed opened
      constructor
      · rwa [length]
      · rwa [length]
      · intro attemptId stillOpen
        rw [place] at stillOpen
        cases stillOpen
      · intro attemptId inside
        rw [length] at inside
        rw [place, settled, List.mem_append, List.mem_singleton]
        by_cases here : attemptId = closed
        · subst here
          refine iff_of_false (fun left => left (.inr rfl)) ?_
          rintro (⟨early, -⟩ | impossible | member)
          · omega
          · cases impossible
          · exact uncut member
        · have same := unsettled attemptId inside
          rw [opened, Option.some.injEq] at same
          simp only [here, or_false, Ne.symm here, reduceCtorEq, false_or] at same ⊢
          exact same

theorem cutOff (accounted : Accounted initial cut bot) (same : after.db = bot.db)
    (idle : after.scan = .idle) :
    Accounted initial (cut ++ bot.scan.openAttempt.toList) after := by
  obtain ⟨grown, past, fresh, unsettled⟩ := accounted
  have nothing : after.scan.openAttempt = none := by
    rw [idle]
    rfl
  constructor
  · rwa [same]
  · intro attemptId member
    rw [same]
    rcases List.mem_append.mp member with old | new
    · exact past attemptId old
    · exact (fresh attemptId (Option.mem_toList.mp new)).2.2
  · intro attemptId opened
    rw [nothing] at opened
    cases opened
  · intro attemptId within
    rw [same] at within ⊢
    rw [unsettled attemptId within, nothing, List.mem_append, Option.mem_toList]
    simp only [reduceCtorEq, false_or, or_comm]

theorem lifeStep {past : List (Bot × LifeEvent)} {lifeEvent : LifeEvent}
    (accounted : Accounted initial (cutAttempts past) bot) (ledger : TradeLedger settings bot.db)
    (taken : ArbitrageBot.lifeStep settings bot lifeEvent = some after) :
    Accounted initial (cutAttempts (past ++ [(bot, lifeEvent)])) after := by
  have existing : ∀ attemptId ∈ bot.db.settled, attemptId < bot.db.tradeAttempts.length := by
    intro attemptId member
    obtain ⟨execution, stored, rfl⟩ := List.mem_map.mp member
    obtain ⟨attempt, found, -⟩ := ledger.settled execution stored
    exact (List.getElem?_eq_some_iff.mp found).1
  have split : cutAttempts (past ++ [(bot, lifeEvent)]) =
      cutAttempts past ++ (cutAttempt (bot, lifeEvent)).toList := by
    rw [cutAttempts, List.filterMap_append, List.filterMap_cons, List.filterMap_nil]
    cases cutAttempt (bot, lifeEvent) <;> rfl
  rw [split]
  cases lifeEvent with
  | restart now =>
      cases taken
      exact accounted.cutOff rfl rfl
  | running event =>
      obtain ⟨now, action⟩ := event
      rcases Bot.step_cases taken with ⟨answers, rfl, rfl⟩ | ⟨rfl, rfl⟩ | ⟨rfl, booted⟩ |
        ⟨request, rfl, -, rfl⟩ | ⟨index, rfl, handled⟩ | ⟨index, rfl, rfl⟩
      · have timed : Accounted initial (cutAttempts past) { bot with clock := now } :=
          ⟨accounted.grown, accounted.past, accounted.fresh, accounted.unsettled⟩
        rw [cutAttempt, Option.toList_none, List.append_nil]
        exact timed.move existing (Bot.scanStep_attemptMove answers)
      · exact accounted.cutOff rfl rfl
      all_goals
        rw [cutAttempt, Option.toList_none, List.append_nil]
        refine accounted.move existing (.of_same ?_ ?_)
      · rcases Bot.bootStep_some booted with ⟨-, rfl⟩ | ⟨rows, -, rfl⟩ <;> exact ⟨rfl, rfl, rfl⟩
      · rcases Bot.bootStep_some booted with ⟨-, rfl⟩ | ⟨rows, -, rfl⟩ <;> rfl
      · exact ⟨rfl, rfl, rfl⟩
      · rfl
      · obtain ⟨request, instr, rest, found, rfl⟩ := Bot.handlerStep_some handled
        cases instr <;> exact ⟨rfl, rfl, rfl⟩
      · obtain ⟨request, instr, rest, found, rfl⟩ := Bot.handlerStep_some handled
        exact congrArg ScanPc.openAttempt (Bot.runInstr_frame instr).2.1
      · exact ⟨rfl, rfl, rfl⟩
      · rfl

end Accounted

end

/-- Over any number of process lifetimes, cut off wherever they may be: every attempt acts on an
eligible opportunity of its own, every execution settles one attempt, the way it ended, and without
an execution are the attempts that lacked one before, the one in flight and those cut off. -/
theorem trade_ledger_sound (settings : Settings) (db : Database) (sound : TradeLedger settings db)
    (started : Instant) (trace : List (Bot × LifeEvent)) (bot : Bot)
    (run : Reaches (lifeStep settings) anyStep (.launch settings db started) trace bot) :
    TradeLedger settings bot.db ∧ ∀ attemptId < bot.db.tradeAttempts.length,
      (attemptId ∉ bot.db.settled ↔
        (attemptId < db.tradeAttempts.length ∧ attemptId ∉ db.settled) ∨
          bot.scan.openAttempt = some attemptId ∨ attemptId ∈ cutAttempts trace) := by
  have held : LedgerHeld settings bot ∧ Accounted db (cutAttempts trace) bot := by
    apply run.invariant_trace
    · refine ⟨⟨sound, trivial⟩, le_rfl, nofun, nofun, ?_⟩
      intro attemptId within
      constructor
      · exact fun unsettled => .inl ⟨within, unsettled⟩
      · rintro (⟨-, unsettled⟩ | impossible | impossible)
        · exact unsettled
        · cases impossible
        · cases impossible
    · rintro past before event after ⟨held, accounted⟩ - taken
      exact ⟨held.lifeStep taken, accounted.lifeStep held.ledger taken⟩
  exact ⟨held.1.ledger, held.2.unsettled⟩

theorem TradeLedger.empty {settings : Settings} {db : Database}
    (attempts : db.tradeAttempts = []) (executions : db.executions = []) :
    TradeLedger settings db := by
  constructor
  · rw [attempts]
    exact List.nil_sublist _
  · rw [attempts]
    nofun
  · rw [executions]
    exact .nil
  · rw [executions]
    nofun

/-- One trade is settled; the process is restarted between the next attempt and its outcome. -/
def settledThenCut : List LifeEvent :=
  let scans (first : Instant) (count : Nat) : List LifeEvent :=
    (List.range count).map fun (offset : Nat) =>
      .running (first + offset, .scan (Sample.tradingAnswers tradingSettings))
  [.running (1, .boot), .running (2, .boot)] ++ scans 3 13 ++ scans 16 8 ++ [.restart 30] ++
    [.running (31, .boot), .running (32, .boot)] ++ scans 33 13

theorem trade_ledger_sound_cut :
    ∃ trace bot, Reaches (lifeStep tradingSettings) anyStep (.launch tradingSettings Sample.db 0)
        trace bot ∧
      bot.db.settled = [0, 2] ∧ bot.db.tradeAttempts.length = 3 ∧ cutAttempts trace = [1] ∧
      TradeLedger tradingSettings bot.db ∧ ∀ attemptId < bot.db.tradeAttempts.length,
        (attemptId ∉ bot.db.settled ↔
          (attemptId < Sample.db.tradeAttempts.length ∧ attemptId ∉ Sample.db.settled) ∨
            bot.scan.openAttempt = some attemptId ∨ attemptId ∈ cutAttempts trace) := by
  have found : (follow (lifeStep tradingSettings) (.launch tradingSettings Sample.db 0)
      settledThenCut).any (fun done => done.2.db.settled = [0, 2] &&
        (done.2.db.tradeAttempts.length = 3 && cutAttempts done.1 = [1])) = true := by
    decide +kernel
  obtain ⟨trace, bot, run, checked⟩ : ∃ trace bot, Reaches (lifeStep tradingSettings) anyStep
      (.launch tradingSettings Sample.db 0) trace bot ∧ _ := exists_run found fun _ _ _ _ => trivial
  simp only [Bool.and_eq_true, decide_eq_true_eq] at checked
  obtain ⟨settled, attempts, cut⟩ := checked
  exact ⟨trace, bot, run, settled, attempts, cut,
    trade_ledger_sound tradingSettings Sample.db (.empty rfl rfl) 0 trace bot run⟩

end ArbitrageBot
