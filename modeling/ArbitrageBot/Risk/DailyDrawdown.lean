/-
The daily drawdown stop. The accumulated result belongs to the day of the last
success, because only `mark_success` starts a new day; the stop itself reads the
accumulator without looking at the date.
-/

import Mathlib.Algebra.BigOperators.Group.List.Basic
import Mathlib.Tactic.Linarith
import ArbitrageBot.Risk.Manager

namespace ArbitrageBot

structure Success where
  routeId : String
  realizedPnl : Rat
  time : Instant

def GlobalRiskManager.markSuccesses (manager : GlobalRiskManager) (successes : List Success) :
    GlobalRiskManager :=
  successes.foldl
    (fun current success =>
      current.markSuccess success.time success.routeId success.realizedPnl) manager

/-- The calls follow one another on a clock that starts at `start` and ends at `stop`. -/
def Chronological : Instant → List Success → Instant → Prop
  | start, [], stop => start ≤ stop
  | start, success :: rest, stop => start ≤ success.time ∧ Chronological success.time rest stop

instance decidableChronological : (start : Instant) → (successes : List Success) →
    (stop : Instant) → Decidable (Chronological start successes stop)
  | start, [], stop => inferInstanceAs (Decidable (start ≤ stop))
  | start, success :: rest, stop =>
      haveI := decidableChronological success.time rest stop
      inferInstanceAs (Decidable (start ≤ success.time ∧ Chronological success.time rest stop))

def lastSuccessTime (start : Instant) (successes : List Success) : Instant :=
  successes.foldl (fun _ success => success.time) start

def realizedOn (day : Int) (successes : List Success) : Rat :=
  ((successes.filter (fun success => date success.time = day)).map Success.realizedPnl).sum

def drawdownReached (settings : Settings) (successes : List Success) (time : Instant)
    (baseline : Rat) : Prop :=
  settings.globalDailyDdStopPct ≤ -realizedOn (date time) successes / baseline

instance (settings : Settings) (successes : List Success) (time : Instant) (baseline : Rat) :
    Decidable (drawdownReached settings successes time baseline) :=
  inferInstanceAs (Decidable (_ ≤ _))

theorem realizedOn_append (day : Int) (successes : List Success) (success : Success) :
    realizedOn day (successes ++ [success]) =
      realizedOn day successes + if date success.time = day then success.realizedPnl else 0 := by
  unfold realizedOn
  by_cases same : date success.time = day
  · simp [List.filter_append, same]
  · simp [List.filter_append, same]

theorem realizedOn_eq_zero {day : Int} {successes : List Success}
    (otherDays : ∀ success ∈ successes, date success.time ≠ day) :
    realizedOn day successes = 0 := by
  have none : successes.filter (fun success => date success.time = day) = [] := by
    rw [List.filter_eq_nil_iff]
    intro success member
    simpa using otherDays success member
  rw [realizedOn, none]
  rfl

/-! ### What the accumulator holds -/

/-- The accumulator is the result of the day of the latest success. -/
structure DailyLedger (manager : GlobalRiskManager) (successes : List Success) (latest : Instant) :
    Prop where
  anchored : manager.dayAnchor = date latest
  realized : manager.dailyRealizedPnl = realizedOn (date latest) successes
  past : ∀ success ∈ successes, success.time ≤ latest

theorem DailyLedger.create (settings : Settings) (created : Instant) :
    DailyLedger (.create settings created) [] created :=
  ⟨rfl, rfl, fun _ member => by cases member⟩

theorem DailyLedger.markSuccess {manager : GlobalRiskManager} {successes : List Success}
    {latest : Instant} {success : Success} (ledger : DailyLedger manager successes latest)
    (later : latest ≤ success.time) :
    DailyLedger (manager.markSuccess success.time success.routeId success.realizedPnl)
      (successes ++ [success]) success.time := by
  have past : ∀ earlier ∈ successes ++ [success], earlier.time ≤ success.time := by
    intro earlier member
    rcases List.mem_append.mp member with old | new
    · exact le_trans (ledger.past earlier old) later
    · rw [List.mem_singleton.mp new]
  by_cases sameDay : date success.time = manager.dayAnchor
  · refine ⟨?_, ?_, past⟩
    · simp [GlobalRiskManager.markSuccess, GlobalRiskManager.resetDailyIfNeeded, sameDay]
    · rw [realizedOn_append, if_pos rfl, sameDay, ledger.anchored, ← ledger.realized]
      simp [GlobalRiskManager.markSuccess, GlobalRiskManager.resetDailyIfNeeded, sameDay]
  · -- a new day: nothing in the past carries its date
    have nothingYet : realizedOn (date success.time) successes = 0 := by
      apply realizedOn_eq_zero
      intro earlier member same
      have upTo := date_mono (ledger.past earlier member)
      have onward := date_mono later
      rw [ledger.anchored] at sameDay
      omega
    refine ⟨?_, ?_, past⟩
    · simp [GlobalRiskManager.markSuccess, GlobalRiskManager.resetDailyIfNeeded, sameDay]
    · rw [realizedOn_append, if_pos rfl, nothingYet]
      simp [GlobalRiskManager.markSuccess, GlobalRiskManager.resetDailyIfNeeded, sameDay]

theorem DailyLedger.markSuccesses {manager : GlobalRiskManager} {past successes : List Success}
    {latest stop : Instant} (ledger : DailyLedger manager past latest)
    (ordered : Chronological latest successes stop) :
    DailyLedger (manager.markSuccesses successes) (past ++ successes)
        (lastSuccessTime latest successes) ∧ lastSuccessTime latest successes ≤ stop := by
  induction successes generalizing manager past latest with
  | nil =>
      rw [List.append_nil]
      exact ⟨ledger, ordered⟩
  | cons success rest ih =>
      have extended := ih (ledger.markSuccess ordered.1) ordered.2
      rw [List.append_assoc] at extended
      exact extended

theorem shouldStopForDailyDd_iff {settings : Settings} {created stop : Instant}
    {successes : List Success} (ordered : Chronological created successes stop) {baseline : Rat}
    (positive : 0 < baseline) :
    ((GlobalRiskManager.create settings created).markSuccesses successes).shouldStopForDailyDd
        settings baseline = true ↔
      drawdownReached settings successes (lastSuccessTime created successes) baseline := by
  have ledger := ((DailyLedger.create settings created).markSuccesses ordered).1
  rw [List.nil_append] at ledger
  rw [GlobalRiskManager.shouldStopForDailyDd, if_neg (not_le.mpr positive), decide_eq_true_eq,
    ledger.realized]
  rfl

/-! ### The stop against its purpose -/

def StopsForToday (settings : Settings) (created : Instant) (successes : List Success)
    (time : Instant) (baseline : Rat) : Prop :=
  ((GlobalRiskManager.create settings created).markSuccesses successes).shouldStopForDailyDd
      settings baseline = true ↔
    drawdownReached settings successes time baseline

def losingTrade : Success := { routeId := "r", realizedPnl := -1, time := 0 }

end ArbitrageBot
