/-
What `commissioning_stats_for_route` counts in the tables that the scan loop
writes, and the rows that one step of the loop adds to them.
-/

import ArbitrageBot.Readiness.Commissioning
import ArbitrageBot.System.Iteration

namespace ArbitrageBot

/-! ### Counting rows -/

theorem countP_concat {α : Type*} (test : α → Bool) (past : List α) (latest : α) :
    (past ++ [latest]).countP test = past.countP test + if test latest then 1 else 0 := by
  rw [List.countP_append, List.countP_singleton]

theorem countP_append_toList {α : Type*} (test : α → Bool) (rows : List α) (row : Option α) :
    (rows ++ row.toList).countP test = rows.countP test + if row.any test then 1 else 0 := by
  cases row with
  | none => rw [Option.toList_none, List.append_nil, Option.any_none]; rfl
  | some row => rw [Option.toList_some, List.countP_append, List.countP_singleton, Option.any_some]

theorem countP_modify {α : Type*} {test : α → Bool} {change : α → α} {rows : List α}
    {position : Nat} {row : α} (stored : rows[position]? = some row)
    (uncounted : test row = false) :
    (rows.modify position change).countP test =
      rows.countP test + if test (change row) then 1 else 0 := by
  induction rows generalizing position with
  | nil => cases stored
  | cons first rest ih =>
      cases position with
      | zero =>
          cases stored
          rw [List.modify_zero_cons, List.countP_cons, List.countP_cons, uncounted]
          rfl
      | succ previous =>
          rw [List.modify_succ_cons, List.countP_cons, List.countP_cons, ih stored]
          omega

/-! ### Counts in the tables -/

namespace Database

variable (db : Database) (routeId : String)

def opportunityCount : Nat := db.opportunities.countP fun row => row.quote.routeId = routeId

/-- `blocked_counts.get(reason, 0)` -/
def blockedCount (reason : String) : Nat :=
  db.opportunities.countP fun row => row.quote.routeId = routeId && row.blockedReason = reason

def blockedRate (reason : String) : Rat :=
  if 0 < db.opportunityCount routeId then
    db.blockedCount routeId reason / db.opportunityCount routeId
  else 0

def fatalPauseCountForRoute : Nat :=
  db.tradeAttempts.countP fun row => row.routeId = routeId && row.isFatalFailure

def cooldownEventCountForRoute : Nat :=
  db.tradeAttempts.countP fun row => row.routeId = routeId && row.cooldownTriggered

end Database

/-- `commissioning_stats_for_route`: the rates and counts of opportunities and attempts, beside
the other stats. -/
def CommissioningStats.withTables (stats : CommissioningStats) (db : Database) (routeId : String) :
    CommissioningStats :=
  { stats with
    opportunityCount := db.opportunityCount routeId
    quoteUnavailableRate := db.blockedRate routeId "quote_unavailable"
    healthUnknownRate := db.blockedRate routeId "health_unknown"
    feeUnverifiedRate := db.blockedRate routeId "fee_unverified"
    balanceUnverifiedRate := db.blockedRate routeId "balance_unverified"
    quoteMismatchRate := db.blockedRate routeId "quote_mismatch"
    fatalPauseCount := db.fatalPauseCountForRoute routeId
    cooldownEventCount := db.cooldownEventCountForRoute routeId }

/-! ### Rows of opportunities -/

namespace Bot

variable {settings : Settings} {now : Instant} {bot after : Bot} {event : Event}

def opportunity (bot : Bot) (event : Event) : Option Opportunity :=
  match event.2, bot.scan with
  | .scan _, .observing cursor quote decision =>
      some
        { quote, mode := cursor.strategyMode
          status := if decision.tradable then "eligible" else "blocked"
          blockedReason := decision.blockedReason }
  | _, _ => none

theorem scanStep_opportunities (answers : ScanAnswers) :
    (bot.scanStep settings now answers).db.opportunities =
      bot.db.opportunities ++ (bot.opportunity (now, .scan answers)).toList := by
  cases place : bot.scan with
  | observing cursor quote decision => simp only [scanStep, opportunity, place]; rfl
  | routesRead | ddPausing =>
      simp only [scanStep, opportunity, place]
      split <;> exact (List.append_nil _).symm
  | judging cursor quote decision =>
      simp only [scanStep, opportunity, place]
      split
      · split <;> exact (List.append_nil _).symm
      · cases blockOperation cursor decision <;> exact (List.append_nil _).symm
  | _ =>
      simp only [scanStep, opportunity, place]
      exact (List.append_nil _).symm

theorem step_opportunities (taken : bot.step settings event = some after) :
    after.db.opportunities = bot.db.opportunities ++ (bot.opportunity event).toList := by
  obtain ⟨now, action⟩ := event
  rcases step_cases taken with ⟨answers, rfl, rfl⟩ | ⟨rfl, rfl⟩ | ⟨rfl, booted⟩ |
    ⟨request, rfl, -, rfl⟩ | ⟨index, rfl, handled⟩ | ⟨index, rfl, rfl⟩
  · exact @scanStep_opportunities settings now { bot with clock := now } answers
  · exact (List.append_nil _).symm
  · rcases bootStep_some booted with ⟨-, rfl⟩ | ⟨rows, -, rfl⟩ <;> exact (List.append_nil _).symm
  · exact (List.append_nil _).symm
  · obtain ⟨request, instr, rest, found, rfl⟩ := handlerStep_some handled
    cases instr <;> exact (List.append_nil _).symm
  · exact (List.append_nil _).symm

end Bot

end ArbitrageBot
