/-
What the rolling series of the collector hold after any sequence of records, and
what a quantile of a series is.
-/

import Mathlib.Data.List.MinMax
import ArbitrageBot.Health.Collector

namespace ArbitrageBot

open Quantile SlidingWindow

/-- The calls that record into a series, with their arguments. -/
inductive RecordCall
  | rpcProbe (latencyMs : Rat) (ok : Bool)
  | dbLatency (latencyMs : Rat) (ok : Bool)
  | quoteProbe (venue : String) (latencyMs quoteAgeSeconds : Rat) (ok quoteUnavailable : Bool)
  | gas (gasGwei : Rat)
  | liquidity (routeId : String) (liquidityUsd : Rat)
  | alertResult (sentOk : Bool)
  | executionResult (txStatus : String)

namespace HealthCollector

def record (collector : HealthCollector) (now : Instant) : RecordCall → HealthCollector
  | .rpcProbe latencyMs ok => collector.recordRpcProbe now latencyMs ok
  | .dbLatency latencyMs ok => collector.recordDbLatency now latencyMs ok
  | .quoteProbe venue latencyMs quoteAgeSeconds ok quoteUnavailable =>
      collector.recordQuoteProbe now venue latencyMs quoteAgeSeconds ok quoteUnavailable
  | .gas gasGwei => collector.recordGas now gasGwei
  | .liquidity routeId liquidityUsd => collector.recordLiquidity now routeId liquidityUsd
  | .alertResult sentOk => collector.recordAlertResult now sentOk
  | .executionResult txStatus => collector.recordExecutionResult now txStatus

def recordAll (collector : HealthCollector) (calls : List (Timed RecordCall)) : HealthCollector :=
  calls.foldl (fun current call => current.record call.ts call.value) collector

end HealthCollector

/-! ### What a call records into each series -/

namespace RecordCall

def rpcLatency : RecordCall → Option Rat
  | .rpcProbe latencyMs _ => some latencyMs
  | _ => none

def rpcResult : RecordCall → Option Bool
  | .rpcProbe _ ok => some ok
  | _ => none

def dbLatencyMs : RecordCall → Option Rat
  | .dbLatency latencyMs _ => some latencyMs
  | _ => none

def dbResult : RecordCall → Option Bool
  | .dbLatency _ ok => some ok
  | _ => none

def quoteLatency : RecordCall → Option Rat
  | .quoteProbe _ latencyMs _ _ _ => some latencyMs
  | _ => none

def quoteAge : RecordCall → Option Rat
  | .quoteProbe _ _ quoteAgeSeconds _ _ => some quoteAgeSeconds
  | _ => none

def gasGwei : RecordCall → Option Rat
  | .gas gasGwei => some gasGwei
  | _ => none

def alertSent : RecordCall → Option Bool
  | .alertResult sentOk => some sentOk
  | _ => none

def executed : RecordCall → Option Bool
  | .executionResult txStatus => some (decide (txStatus ∉ ["reverted", "failed"]))
  | _ => none

def liquidityOf (routeId : String) : RecordCall → Option Rat
  | .liquidity other liquidityUsd => if other = routeId then some liquidityUsd else none
  | _ => none

end RecordCall

section Windows

variable {α : Type}

/-- The entry that one call makes in a series, if it makes one. -/
def Timed.entry? (pick : RecordCall → Option α) (call : Timed RecordCall) : Option (Timed α) :=
  (pick call.value).map (Timed.mk call.ts)

def recordedInto (pick : RecordCall → Option α) (calls : List (Timed RecordCall)) :
    List (Timed α) :=
  calls.filterMap (Timed.entry? pick)

def recordedSince (pick : RecordCall → Option α) (calls : List (Timed RecordCall))
    (cutoff : Instant) : List (Timed α) :=
  (recordedInto pick calls).filter fun entry => cutoff ≤ entry.ts

end Windows

/-- Each series holds what was recorded into it in its own window, in order, and nothing else. -/
structure WindowsExact (calls : List (Timed RecordCall)) (now : Instant)
    (collector : HealthCollector) : Prop where
  rpcLatency : collector.rpcLatency = recordedSince RecordCall.rpcLatency calls (now - minutes 5)
  rpcResults : collector.rpcResults = recordedSince RecordCall.rpcResult calls (now - minutes 5)
  dbLatency : collector.dbLatency = recordedSince RecordCall.dbLatencyMs calls (now - minutes 5)
  dbResults : collector.dbResults = recordedSince RecordCall.dbResult calls (now - minutes 5)
  quoteLatency : collector.quoteLatency =
    recordedSince RecordCall.quoteLatency calls (now - minutes 5)
  quoteAge : collector.quoteAge = recordedSince RecordCall.quoteAge calls (now - minutes 5)
  alertResults : collector.alertResults =
    recordedSince RecordCall.alertSent calls (now - minutes 5)
  executionResults : collector.executionResults =
    recordedSince RecordCall.executed calls (now - minutes 5)
  gasSeries : collector.gasSeries = recordedSince RecordCall.gasGwei calls (now - minutes 60)
  routeLiquidity : ∀ routeId, collector.routeLiquidity routeId =
    recordedSince (RecordCall.liquidityOf routeId) calls (now - minutes 60)

namespace HealthCollector

/-- What a record leaves of a series: what it had and the call's entry, trimmed. -/
def appended {α : Type} (pick : RecordCall → Option α) (now : Instant) (call : RecordCall)
    (width : Instant) (held : List (Timed α)) : List (Timed α) :=
  trim (now - width) (held ++ (Timed.entry? pick ⟨now, call⟩).toList)

/-- A series of the collector: it starts empty, and every record appends what it has for the
series and drops what is older than the width. -/
structure Windowed {α : Type} (held : HealthCollector → List (Timed α))
    (pick : RecordCall → Option α) (width : Instant) : Prop where
  created : ∀ now, held (create now) = []
  recorded : ∀ (collector : HealthCollector) now call,
    held (collector.record now call) = appended pick now call width (held collector)

section Run

variable {α : Type} {held : HealthCollector → List (Timed α)} {pick : RecordCall → Option α}
  {width : Instant} {calls : List (Timed RecordCall)} {last : Timed RecordCall}

theorem recordAll_concat (collector : HealthCollector) :
    collector.recordAll (calls ++ [last]) =
      (collector.recordAll calls).record last.ts last.value := by
  rw [recordAll, List.foldl_append]
  rfl

theorem recordedInto_concat :
    recordedInto pick (calls ++ [last]) =
      recordedInto pick calls ++ (Timed.entry? pick last).toList := by
  rw [recordedInto, List.filterMap_append]
  congr 1

theorem entry?_ts {call : Timed RecordCall} {entry : Timed α}
    (made : Timed.entry? pick call = some entry) : entry.ts = call.ts := by
  obtain ⟨value, -, rfl⟩ := Option.map_eq_some_iff.mp made
  rfl

theorem recordedInto_ordered
    (ordered : calls.Pairwise fun earlier later => earlier.ts ≤ later.ts) :
    (recordedInto pick calls).Pairwise fun earlier later => earlier.ts ≤ later.ts := by
  rw [recordedInto, List.pairwise_filterMap]
  refine ordered.imp ?_
  intro earlier later before first made second madeLater
  rw [entry?_ts made, entry?_ts madeLater]
  exact before

theorem Windowed.step (windowed : Windowed held pick width) {collector : HealthCollector}
    {before : Instant} (moved : before ≤ last.ts - width)
    (exact_ : held collector = recordedSince pick calls before)
    (ordered : (calls ++ [last]).Pairwise fun earlier later => earlier.ts ≤ later.ts) :
    held (collector.record last.ts last.value) =
      recordedSince pick (calls ++ [last]) (last.ts - width) := by
  have whole := @recordedInto_ordered _ pick _ ordered
  rw [recordedInto_concat] at whole
  rw [windowed.recorded, exact_, appended, trim, recordedSince, recordedSince,
    recordedInto_concat]
  exact dropWhile_window moved whole

theorem Windowed.run (windowed : Windowed held pick width) (created : Instant)
    (ordered : (calls ++ [last]).Pairwise fun earlier later => earlier.ts ≤ later.ts) :
    held ((create created).recordAll (calls ++ [last])) =
      recordedSince pick (calls ++ [last]) (last.ts - width) := by
  -- each call finds the window that the call before it has left
  induction calls using List.reverseRecOn generalizing last with
  | nil =>
      rw [recordAll_concat]
      exact windowed.step le_rfl (windowed.created created) ordered
  | append_singleton earlier previous ih =>
      obtain ⟨earlierOrdered, -, behind⟩ := List.pairwise_append.mp ordered
      have before : previous.ts ≤ last.ts := behind previous (by simp) last (by simp)
      rw [recordAll_concat]
      exact windowed.step (sub_le_sub_right before width) (ih earlierOrdered) ordered

end Run

/-! ### The series of the collector -/

structure RecordEffect (before : HealthCollector) (now : Instant) (call : RecordCall)
    (after : HealthCollector) : Prop where
  rpcLatency : after.rpcLatency =
    appended RecordCall.rpcLatency now call (minutes 5) before.rpcLatency
  rpcResults : after.rpcResults =
    appended RecordCall.rpcResult now call (minutes 5) before.rpcResults
  dbLatency : after.dbLatency =
    appended RecordCall.dbLatencyMs now call (minutes 5) before.dbLatency
  dbResults : after.dbResults =
    appended RecordCall.dbResult now call (minutes 5) before.dbResults
  quoteLatency : after.quoteLatency =
    appended RecordCall.quoteLatency now call (minutes 5) before.quoteLatency
  quoteAge : after.quoteAge =
    appended RecordCall.quoteAge now call (minutes 5) before.quoteAge
  alertResults : after.alertResults =
    appended RecordCall.alertSent now call (minutes 5) before.alertResults
  executionResults : after.executionResults =
    appended RecordCall.executed now call (minutes 5) before.executionResults
  gasSeries : after.gasSeries =
    appended RecordCall.gasGwei now call (minutes 60) before.gasSeries
  routeLiquidity : ∀ routeId, after.routeLiquidity routeId =
    appended (RecordCall.liquidityOf routeId) now call (minutes 60) (before.routeLiquidity routeId)

theorem recordLiquidity_effect (collector : HealthCollector) (now : Instant)
    (other routeId : String) (liquidityUsd : Rat) :
    (collector.recordLiquidity now other liquidityUsd).routeLiquidity routeId =
      appended (RecordCall.liquidityOf routeId) now (.liquidity other liquidityUsd) (minutes 60)
        (collector.routeLiquidity routeId) := by
  by_cases same : other = routeId
  · subst same
    simp [recordLiquidity, trimAll, appended, Timed.entry?, RecordCall.liquidityOf]
  · simp [recordLiquidity, trimAll, appended, Timed.entry?, RecordCall.liquidityOf, same,
      Function.update_of_ne (Ne.symm same)]

/-- The series that a call does not record into are trimmed all the same. -/
theorem appended_of_none {α : Type} {pick : RecordCall → Option α} {call : RecordCall}
    (none_ : pick call = none) (now width : Instant) (held : List (Timed α)) :
    trim (now - width) held = appended pick now call width held := by
  rw [appended, Timed.entry?, none_, Option.map_none, Option.toList_none, List.append_nil]

theorem record_effect (collector : HealthCollector) (now : Instant) (call : RecordCall) :
    RecordEffect collector now call (collector.record now call) := by
  cases call with
  | liquidity other liquidityUsd =>
      constructor
      case routeLiquidity =>
        exact fun routeId => recordLiquidity_effect collector now other routeId liquidityUsd
      all_goals exact appended_of_none rfl now _ _
  | _ =>
      constructor
      case routeLiquidity => exact fun routeId => appended_of_none rfl now _ _
      all_goals
        first
        | exact appended_of_none rfl now _ _
        | rfl

/-- However the records go to the series, each holds its own window after every one. -/
theorem windows_exact (created : Instant) (calls : List (Timed RecordCall))
    (last : Timed RecordCall)
    (ordered : (calls ++ [last]).Pairwise fun earlier later => earlier.ts ≤ later.ts) :
    WindowsExact (calls ++ [last]) last.ts ((create created).recordAll (calls ++ [last])) := by
  constructor
  · exact Windowed.run ⟨fun _ => rfl, fun collector now call =>
      (record_effect collector now call).rpcLatency⟩ created ordered
  · exact Windowed.run ⟨fun _ => rfl, fun collector now call =>
      (record_effect collector now call).rpcResults⟩ created ordered
  · exact Windowed.run ⟨fun _ => rfl, fun collector now call =>
      (record_effect collector now call).dbLatency⟩ created ordered
  · exact Windowed.run ⟨fun _ => rfl, fun collector now call =>
      (record_effect collector now call).dbResults⟩ created ordered
  · exact Windowed.run ⟨fun _ => rfl, fun collector now call =>
      (record_effect collector now call).quoteLatency⟩ created ordered
  · exact Windowed.run ⟨fun _ => rfl, fun collector now call =>
      (record_effect collector now call).quoteAge⟩ created ordered
  · exact Windowed.run ⟨fun _ => rfl, fun collector now call =>
      (record_effect collector now call).alertResults⟩ created ordered
  · exact Windowed.run ⟨fun _ => rfl, fun collector now call =>
      (record_effect collector now call).executionResults⟩ created ordered
  · exact Windowed.run ⟨fun _ => rfl, fun collector now call =>
      (record_effect collector now call).gasSeries⟩ created ordered
  · intro routeId
    exact @Windowed.run _ (fun collector => collector.routeLiquidity routeId) _ _ _ _
      ⟨fun _ => rfl, fun collector now call =>
        (record_effect collector now call).routeLiquidity routeId⟩ created ordered

/-- A probe of the database six minutes on empties the series of the RPC and keeps the gas. -/
theorem windows_exact_sample :
    let calls : List (Timed RecordCall) := [⟨0, .rpcProbe 12 true⟩, ⟨0, .gas 30⟩]
    let last : Timed RecordCall := ⟨minutes 6, .dbLatency 4 false⟩
    (calls ++ [last]).Pairwise (fun earlier later => earlier.ts ≤ later.ts) ∧
      WindowsExact (calls ++ [last]) last.ts ((create 0).recordAll (calls ++ [last])) := by
  intro calls last
  have ordered : (calls ++ [last]).Pairwise fun earlier later => earlier.ts ≤ later.ts := by
    decide
  exact ⟨ordered, windows_exact 0 calls last ordered⟩

end HealthCollector

/-! ### The quantiles of a series -/

/-- A quantile is what stands at its rank among the sorted values, between the least and the
greatest of them. -/
structure OrderStatistic (series : List (Timed Rat)) (share : Rat) : Prop where
  indexed : (sorted (series.map Timed.value))[rank share series.length]? =
    some (quantileOf share series)
  member : ∃ entry ∈ series, entry.value = quantileOf share series
  aboveLeast : ∀ least, (series.map Timed.value).min? = some least → least ≤ quantileOf share series
  belowGreatest : ∀ greatest, (series.map Timed.value).max? = some greatest →
    quantileOf share series ≤ greatest

theorem quantileOf_indexed (share : Rat) {series : List (Timed Rat)}
    (some_ : 0 < (series.map Timed.value).length) :
    (sorted (series.map Timed.value))[rank share series.length]? =
      some (quantileOf share series) := by
  obtain ⟨inside, here⟩ := quantile_eq_getElem share 0 some_
  rw [quantileOf, here, ← List.length_map Timed.value]
  exact List.getElem?_eq_getElem inside

theorem quantileOf_statistic (share : Rat) {series : List (Timed Rat)}
    (some_ : 0 < (series.map Timed.value).length) : OrderStatistic series share := by
  have member : quantileOf share series ∈ series.map Timed.value := quantile_mem share 0 some_
  constructor
  · exact quantileOf_indexed share some_
  · exact List.mem_map.mp member
  · intro least isLeast
    exact (List.min?_eq_some_iff.mp isLeast).2 _ member
  · intro greatest isGreatest
    exact (List.max?_eq_some_iff.mp isGreatest).2 _ member

/-- The quantiles of a series with an entry are order statistics of its values: the order of the
entries is nothing to them, and they go up with the share and with every entry. -/
theorem quantileOf_ordered (series : List (Timed Rat)) (recorded : series ≠ []) :
    (∀ share, OrderStatistic series share) ∧
      (∀ share (shuffled : List (Timed Rat)), series.Perm shuffled →
        quantileOf share series = quantileOf share shuffled) ∧
      (∀ lower upper, lower ≤ upper → quantileOf lower series ≤ quantileOf upper series) ∧
      ∀ share (raised : List (Timed Rat)),
        List.Forall₂ (fun entry other => entry.value ≤ other.value) series raised →
          quantileOf share series ≤ quantileOf share raised := by
  have some_ : 0 < (series.map Timed.value).length := by
    rw [List.length_map]
    exact List.length_pos_of_ne_nil recorded
  refine ⟨fun share => quantileOf_statistic share some_, ?_, ?_, ?_⟩
  · intro share shuffled same
    exact quantile_perm share 0 (same.map Timed.value)
  · intro lower upper ordered
    exact quantile_mono_share ordered 0 some_
  · intro share raised above
    refine quantile_mono_samples share 0 some_ ?_
    rw [List.forall₂_map_left_iff, List.forall₂_map_right_iff]
    exact above

theorem quantileOf_ordered_sample :
    let series : List (Timed Rat) := [⟨0, 30⟩, ⟨1, 10⟩, ⟨2, 20⟩]
    OrderStatistic series (1 / 2) ∧ quantileOf (1 / 2) series = 20 ∧
      quantileOf (1 / 2) series ≤ quantileOf (9 / 10) series := by
  intro series
  obtain ⟨statistic, -, ordered, -⟩ := quantileOf_ordered series (List.cons_ne_nil _ _)
  exact ⟨statistic (1 / 2), by decide +kernel, ordered (1 / 2) (9 / 10) (by norm_num)⟩

/-- The gas guard compares with a spike level that is never below the median. -/
theorem gasP50_le_gasP90 (collector : HealthCollector) (now : Instant) (routeId : String) :
    (collector.buildSnapshot now routeId).1.gasP50 ≤
      (collector.buildSnapshot now routeId).1.gasP90 := by
  change quantileOf (1 / 2) collector.gasSeries ≤ quantileOf (9 / 10) collector.gasSeries
  cases series : collector.gasSeries with
  | nil => exact le_rfl
  | cons entry rest =>
      exact quantile_mono_share (by norm_num) 0 (Nat.succ_pos _)

end ArbitrageBot
