/-
What the two loops record into the collector, and what it still holds of that. Each series is
the tail of the results that the run's probes brought: a record appends to its own series, every
record drops from the front of all of them, and nothing else changes one.
-/

import ArbitrageBot.System.Runner

namespace ArbitrageBot

open Transition

/-! ### Results of probes -/

namespace RunnerEvent

variable (event : RunnerEvent)

def rpcResult : Option (Timed Bool) :=
  match event.2 with
  | .rpcProbe hyper base => some ⟨event.1, hyper.ok && base.ok⟩
  | _ => none

def dbResult : Option (Timed Bool) :=
  match event.2 with
  | .dbProbe latencyMs => some ⟨event.1, latencyMs.isSome⟩
  | _ => none

/-- The price in gwei, or nothing where the probe failed. -/
def gasResult : Option (Timed (Option Rat)) :=
  match event.2 with
  | .gasProbe wei => some ⟨event.1, wei.map fun wei => probeGasGwei (some wei)⟩
  | _ => none

theorem rpcResult_ts {result : Timed Bool} (probed : event.rpcResult = some result) :
    result.ts = event.1 := by
  unfold rpcResult at probed
  split at probed
  · cases probed
    rfl
  · cases probed

theorem dbResult_ts {result : Timed Bool} (probed : event.dbResult = some result) :
    result.ts = event.1 := by
  unfold dbResult at probed
  split at probed
  · cases probed
    rfl
  · cases probed

def quotedAt : Option Instant :=
  match event.2 with
  | .quote _ _ => some event.1
  | _ => none

end RunnerEvent

/-- What a failed probe leaves in the series is the number zero. -/
def gasEntry (result : Timed (Option Rat)) : Timed Rat := ⟨result.ts, result.value.getD 0⟩

def recorded {α : Type} (result : RunnerEvent → Option α) (trace : List (Runner × RunnerEvent)) :
    List α :=
  trace.filterMap fun entry => result entry.2

theorem recorded_snoc {α : Type} (result : RunnerEvent → Option α)
    (trace : List (Runner × RunnerEvent)) (runner : Runner) (event : RunnerEvent) :
    recorded result (trace ++ [(runner, event)]) =
      recorded result trace ++ (result event).toList := by
  rw [recorded, List.filterMap_append, List.filterMap_cons, List.filterMap_nil]
  cases result event <;> rfl

/-! ### Nothing but its own probe adds to a series -/

namespace Runner

variable {settings : Settings} {runner after : Runner} {event : RunnerEvent}

/-- One step, series by series: what was held, then what the step's own probe brought, less what
is dropped from the front. -/
structure Records (before : Runner) (event : RunnerEvent) (after : Runner) : Prop where
  rpc : after.collector.rpcResults <:+ before.collector.rpcResults ++ event.rpcResult.toList
  db : after.collector.dbResults <:+ before.collector.dbResults ++ event.dbResult.toList
  gas : after.collector.gasSeries <:+
    before.collector.gasSeries ++ (event.gasResult.map gasEntry).toList

theorem Records.of_drops (drops : runner.collector.Drops after.collector)
    (unprobed : event.rpcResult = none ∧ event.dbResult = none ∧ event.gasResult = none) :
    runner.Records event after := by
  obtain ⟨rpc, db, gas⟩ := unprobed
  constructor
  · rw [rpc, Option.toList_none, List.append_nil]
    exact drops.rpc
  · rw [db, Option.toList_none, List.append_nil]
    exact drops.db
  · rw [gas, Option.map_none, Option.toList_none, List.append_nil]
    exact drops.gas

theorem step_records (taken : runner.step settings event = some after) :
    runner.Records event after := by
  obtain ⟨now, action⟩ := event
  cases action with
  | bot action probes =>
      obtain ⟨-, -, drops, -⟩ :=
        @botStep_some settings { runner with clock := now } after now action probes taken
      exact .of_drops drops ⟨rfl, rfl, rfl⟩
  | startupAlert sentOk =>
      simp only [step] at taken
      split at taken
      · cases taken
        exact .of_drops HealthCollector.recordAlertResult_drops ⟨rfl, rfl, rfl⟩
      · cases taken
  | quote answer latencyMs =>
      simp only [step] at taken
      split at taken
      · cases taken
        exact .of_drops HealthCollector.recordQuote_drops ⟨rfl, rfl, rfl⟩
      · cases taken
  | rpcProbe hyper base =>
      simp only [step] at taken
      split at taken
      · cases taken
        exact ⟨trim_suffix _ _, trim_suffix_unrecorded _ _, trim_suffix_unrecorded _ _⟩
      · cases taken
  | dbProbe latencyMs =>
      simp only [step] at taken
      split at taken
      · cases taken
        cases latencyMs <;>
          exact ⟨trim_suffix_unrecorded _ _, trim_suffix _ _, trim_suffix_unrecorded _ _⟩
      · cases taken
  | gasProbe wei =>
      simp only [step] at taken
      split at taken
      · cases taken
        cases wei <;>
          exact ⟨trim_suffix_unrecorded _ _, trim_suffix_unrecorded _ _, trim_suffix _ _⟩
      · cases taken
  | healthRaise =>
      cases taken
      exact .of_drops (.refl _) ⟨rfl, rfl, rfl⟩

end Runner

/-! ### Over a run -/

section Runs

variable {settings : Settings} {allowed : Runner → RunnerEvent → Prop} {db : Database}
  {started : Instant} {trace : List (Runner × RunnerEvent)} {runner : Runner}

/-- A series starts empty, so it is a tail of what the whole run recorded into it. -/
theorem held_suffix {α : Type} {series : HealthCollector → List α} {result : RunnerEvent → Option α}
    (empty : series (.create started) = [])
    (stepwise : ∀ (before : Runner) event (after : Runner), before.Records event after →
      series after.collector <:+ series before.collector ++ (result event).toList)
    (run : Reaches (Runner.step settings) allowed (.launch settings db started) trace runner) :
    series runner.collector <:+ recorded result trace := by
  apply @Reaches.invariant_trace _ _ _ _ _ _ _ run
    fun past now => series now.collector <:+ recorded result past
  · exact empty ▸ List.nil_suffix
  · intro past before event after held _permitted taken
    rw [recorded_snoc]
    exact (stepwise before event after (Runner.step_records taken)).trans
      (List.suffix_append_self_iff.mpr held)

theorem rpcResults_suffix
    (run : Reaches (Runner.step settings) allowed (.launch settings db started) trace runner) :
    runner.collector.rpcResults <:+ recorded RunnerEvent.rpcResult trace :=
  held_suffix rfl (fun _ _ _ records => records.rpc) run

theorem dbResults_suffix
    (run : Reaches (Runner.step settings) allowed (.launch settings db started) trace runner) :
    runner.collector.dbResults <:+ recorded RunnerEvent.dbResult trace :=
  held_suffix rfl (fun _ _ _ records => records.db) run

theorem gasSeries_suffix
    (run : Reaches (Runner.step settings) allowed (.launch settings db started) trace runner) :
    runner.collector.gasSeries <:+ (recorded RunnerEvent.gasResult trace).map gasEntry := by
  rw [recorded, List.map_filterMap]
  exact held_suffix rfl (fun _ _ _ records => records.gas) run

theorem recorded_ordered {α : Type} {result : RunnerEvent → Option (Timed α)}
    (timed : ∀ event {entry}, result event = some entry → entry.ts = event.1)
    (run : Reaches (Runner.step settings) Runner.onward (.launch settings db started) trace runner) :
    (recorded result trace).Pairwise (fun earlier later => earlier.ts ≤ later.ts) ∧
      ∀ entry ∈ recorded result trace, entry.ts ≤ runner.clock := by
  apply @Reaches.invariant_trace _ _ _ _ _ _ _ run fun past now =>
    (recorded result past).Pairwise (fun earlier later => earlier.ts ≤ later.ts) ∧
      ∀ entry ∈ recorded result past, entry.ts ≤ now.clock
  · exact ⟨.nil, fun entry member => absurd member List.not_mem_nil⟩
  · rintro past before event after ⟨ordered, bounded⟩ onward taken
    have onward : before.clock ≤ event.1 := onward
    rw [recorded_snoc, Runner.step_clock taken]
    constructor
    · apply List.pairwise_append.mpr
      refine ⟨ordered, ?_, ?_⟩
      · cases result event with
        | none => exact .nil
        | some entry => exact List.pairwise_singleton _ entry
      · intro earlier old later new
        rw [timed event (Option.mem_toList.mp new)]
        exact (bounded earlier old).trans onward
    · intro entry member
      rcases List.mem_append.mp member with old | new
      · exact (bounded entry old).trans onward
      · exact (timed event (Option.mem_toList.mp new)).le

/-- While the loop holds a quote, the collector holds no result that was five minutes old when
the quote came. -/
def SinceQuote (trace : List (Runner × RunnerEvent)) (runner : Runner) : Prop :=
  ∀ answer, runner.quoted = some answer →
    ∃ quoted, (recorded RunnerEvent.quotedAt trace).getLast? = some quoted ∧
      quoted ≤ runner.clock ∧ runner.collector.Since (quoted - minutes 5)

theorem sinceQuote
    (run : Reaches (Runner.step settings) Runner.onward (.launch settings db started) trace runner) :
    SinceQuote trace runner := by
  induction run with
  | refl => exact fun answer held => nomatch held
  | @snoc past before after event run onward taken ih =>
      have onward : before.clock ≤ event.1 := onward
      intro answer held
      rw [recorded_snoc, Runner.step_clock taken]
      rcases Runner.step_quoted taken held with ⟨cursor, latencyMs, quotes, collected⟩ |
        ⟨other, already⟩
      · have rpc := (recorded_ordered RunnerEvent.rpcResult_ts run).1.sublist
          (rpcResults_suffix run).sublist
        have db := (recorded_ordered RunnerEvent.dbResult_ts run).1.sublist
          (dbResults_suffix run).sublist
        have last : event.quotedAt = some event.1 := by rw [RunnerEvent.quotedAt, quotes]
        refine ⟨event.1, by simp [last], le_refl _, ?_⟩
        rw [collected]
        exact HealthCollector.recordQuote_since rpc db
      · obtain ⟨quoted, last, reached, since⟩ := ih answer already
        have unquoted : event.quotedAt = none := by
          unfold RunnerEvent.quotedAt
          split
          · rename_i given latencyMs quotes
            exact absurd quotes (other given latencyMs)
          · rfl
        have recent : quoted - minutes 5 ≤ event.1 :=
          (sub_le_self quoted (by decide)).trans (reached.trans onward)
        have records := Runner.step_records taken
        refine ⟨quoted, by simpa [unquoted] using last, reached.trans onward, ?_, ?_⟩
        · intro result member
          rcases List.mem_append.mp (records.rpc.subset member) with old | new
          · exact since.rpc result old
          · rw [RunnerEvent.rpcResult_ts event (Option.mem_toList.mp new)]
            exact recent
        · intro result member
          rcases List.mem_append.mp (records.db.subset member) with old | new
          · exact since.db result old
          · rw [RunnerEvent.dbResult_ts event (Option.mem_toList.mp new)]
            exact recent

end Runs

end ArbitrageBot
