/-
The readers of the collector: the snapshots that the loops take and `venue_quote_health`, which
the dashboard polls. Each of them drops old unavailable events while it reads. No later answer
depends on who has read before, so every answer is a function of what was recorded.
-/

import Mathlib.Data.String.Basic
import ArbitrageBot.Library.Unwinding
import ArbitrageBot.Health.Windows

namespace ArbitrageBot

open SlidingWindow Unwinding

structure VenueQuoteHealth where
  venue : String
  supported : Bool
  lastSuccessTs : Option Instant
  quoteUnavailableCount5m : Nat
  degradedReason : String

/-- What is called on the collector from outside. -/
inductive CollectorCall
  | record (call : RecordCall)
  | heartbeat (ts : Instant)
  | quality (status : QualityStatus)
  | snapshot (routeId : String)
  | venueHealth

def CollectorCall.isRead : CollectorCall → Bool
  | .snapshot _ | .venueHealth => true
  | _ => false

namespace HealthCollector

def pruneEvents (collector : HealthCollector) (now : Instant) : List (String × List Instant) :=
  collector.venueUnavailableEvents.map fun entry => (entry.1, prune (now - minutes 5) entry.2)

def venueHealthOf (lastSuccess : List (String × Instant)) (events : List (String × List Instant))
    (venue : String) : VenueQuoteHealth :=
  let unavailableCount := ((events.lookup venue).getD []).length
  let lastSuccessTs := lastSuccess.lookup venue
  { venue
    supported := !(0 < unavailableCount && lastSuccessTs.isNone)
    lastSuccessTs
    quoteUnavailableCount5m := unavailableCount
    degradedReason := if 0 < unavailableCount then "quote_unavailable" else "" }

/-- `venue_quote_health`; every venue with events is in the list, so all events are pruned. -/
def venueQuoteHealth (collector : HealthCollector) (now : Instant) :
    List VenueQuoteHealth × HealthCollector :=
  let venues := ((collector.venueLastSuccess.map Prod.fst ++
    collector.venueUnavailableEvents.map Prod.fst).dedup).insertionSort (· ≤ ·)
  let events := collector.pruneEvents now
  (venues.map (venueHealthOf collector.venueLastSuccess events),
    { collector with venueUnavailableEvents := events })

def call (collector : HealthCollector) (now : Instant) : CollectorCall → HealthCollector
  | .record call => collector.record now call
  | .heartbeat ts => collector.setHeartbeat ts
  | .quality status => collector.setQualityStatus now status
  | .snapshot routeId => (collector.toRiskSnapshot now routeId).2
  | .venueHealth => (collector.venueQuoteHealth now).2

def callAll (collector : HealthCollector) (calls : List (Timed CollectorCall)) : HealthCollector :=
  calls.foldl (fun current call => current.call call.ts call.value) collector

theorem callAll_concat (collector : HealthCollector) (calls : List (Timed CollectorCall))
    (last : Timed CollectorCall) :
    collector.callAll (calls ++ [last]) = (collector.callAll calls).call last.ts last.value := by
  rw [callAll, List.foldl_append]
  rfl

end HealthCollector

/-! ### Reads are invisible -/

/-- The same events from the horizon on, whoever has pruned them. -/
def SameEvents (horizon : Instant) (first second : String × List Instant) : Prop :=
  first.1 = second.1 ∧
    ∀ cutoff, horizon ≤ cutoff → prune cutoff first.2 = prune cutoff second.2

/-- Two collectors that no read from the horizon on tells apart. -/
structure Agree (horizon : Instant) (first second : HealthCollector) : Prop where
  rest : second = { first with venueUnavailableEvents := second.venueUnavailableEvents }
  events : List.Forall₂ (SameEvents horizon) first.venueUnavailableEvents
    second.venueUnavailableEvents

section Agree

variable {horizon later : Instant} {first second : HealthCollector}
  {firstEvents secondEvents : List (String × List Instant)}

theorem SameEvents.mono (moved : horizon ≤ later) {first second : String × List Instant}
    (same : SameEvents horizon first second) : SameEvents later first second :=
  ⟨same.1, fun cutoff after => same.2 cutoff (moved.trans after)⟩

theorem SameEvents.append {first second : String × List Instant} (fresh : List Instant)
    (same : SameEvents horizon first second) :
    SameEvents horizon (first.1, first.2 ++ fresh) (second.1, second.2 ++ fresh) := by
  refine ⟨same.1, ?_⟩
  intro cutoff after
  exact prune_append_congr (same.2 cutoff after) fresh

theorem sameEvents_updateKey (venue : String) (now : Instant)
    (same : List.Forall₂ (SameEvents horizon) firstEvents secondEvents) :
    List.Forall₂ (SameEvents horizon)
      (updateKey venue (fun times => times.getD [] ++ [now]) firstEvents)
      (updateKey venue (fun times => times.getD [] ++ [now]) secondEvents) := by
  induction same with
  | nil => exact .cons ⟨rfl, fun _ _ => rfl⟩ .nil
  | @cons front other rest others here behind ih =>
      obtain ⟨frontVenue, frontTimes⟩ := front
      obtain ⟨otherVenue, otherTimes⟩ := other
      obtain ⟨rfl, -⟩ := id here
      unfold updateKey
      split
      · exact .cons (here.append [now]) behind
      · exact .cons here ih

theorem sameEvents_pruned (after : horizon ≤ later)
    (same : List.Forall₂ (SameEvents horizon) firstEvents secondEvents) :
    (firstEvents.map fun entry => (entry.1, prune later entry.2)) =
      secondEvents.map fun entry => (entry.1, prune later entry.2) := by
  induction same with
  | nil => rfl
  | cons here _ ih => rw [List.map_cons, List.map_cons, ih, here.1, here.2 _ after]

theorem sameEvents_keys (same : List.Forall₂ (SameEvents horizon) firstEvents secondEvents) :
    firstEvents.map Prod.fst = secondEvents.map Prod.fst := by
  induction same with
  | nil => rfl
  | cons here _ ih => rw [List.map_cons, List.map_cons, ih, here.1]

theorem sameEvents_prune (after : horizon ≤ later)
    (same : List.Forall₂ (SameEvents horizon) firstEvents secondEvents) :
    List.Forall₂ (SameEvents later)
      (firstEvents.map fun entry => (entry.1, prune later entry.2)) secondEvents := by
  induction same with
  | nil => exact .nil
  | cons here _ ih =>
      refine .cons ⟨here.1, ?_⟩ ih
      intro cutoff recent
      rw [prune_prune recent, here.2 cutoff (after.trans recent)]

def RecordCall.events (now : Instant) (events : List (String × List Instant)) :
    RecordCall → List (String × List Instant)
  | .quoteProbe venue _ _ _ quoteUnavailable =>
      if quoteUnavailable then updateKey venue (fun times => times.getD [] ++ [now]) events
      else events
  | _ => events

/-- No record reads the events of others. -/
theorem record_withEvents (collector : HealthCollector) (events : List (String × List Instant))
    (now : Instant) (recorded : RecordCall) :
    { collector with venueUnavailableEvents := events : HealthCollector }.record now recorded =
      { collector.record now recorded with
        venueUnavailableEvents := recorded.events now events } := by
  cases recorded <;> rfl

theorem record_events (collector : HealthCollector) (now : Instant) (recorded : RecordCall) :
    (collector.record now recorded).venueUnavailableEvents =
      recorded.events now collector.venueUnavailableEvents :=
  congrArg HealthCollector.venueUnavailableEvents
    (record_withEvents collector collector.venueUnavailableEvents now recorded)

theorem setQualityStatus_withEvents (collector : HealthCollector)
    (events : List (String × List Instant)) (now : Instant) (status : QualityStatus) :
    { collector with venueUnavailableEvents := events : HealthCollector }.setQualityStatus
        now status =
      { collector.setQualityStatus now status with venueUnavailableEvents := events } := by
  simp only [HealthCollector.setQualityStatus]

theorem setQualityStatus_events (collector : HealthCollector) (now : Instant)
    (status : QualityStatus) :
    (collector.setQualityStatus now status).venueUnavailableEvents =
      collector.venueUnavailableEvents := by
  simp only [HealthCollector.setQualityStatus]

theorem sameEvents_recorded (now : Instant) (recorded : RecordCall)
    (same : List.Forall₂ (SameEvents horizon) firstEvents secondEvents) :
    List.Forall₂ (SameEvents horizon) (recorded.events now firstEvents)
      (recorded.events now secondEvents) := by
  cases recorded with
  | quoteProbe venue latencyMs quoteAgeSeconds ok quoteUnavailable =>
      cases quoteUnavailable with
      | true => exact sameEvents_updateKey venue now same
      | false => exact same
  | _ => exact same

theorem Agree.mono (agree : Agree horizon first second) (moved : horizon ≤ later) :
    Agree later first second :=
  ⟨agree.rest, agree.events.imp fun _ _ same => same.mono moved⟩

theorem Agree.call (agree : Agree (horizon - minutes 5) first second) (moved : horizon ≤ later)
    {made : CollectorCall} (noRead : made.isRead = false) :
    Agree (later - minutes 5) (first.call later made) (second.call later made) := by
  obtain ⟨rest, held⟩ := agree
  have same := held.imp fun _ _ here => here.mono (sub_le_sub_right moved (minutes 5))
  clear held
  generalize second.venueUnavailableEvents = events at rest same
  subst rest
  cases made with
  | record recorded =>
      simp only [HealthCollector.call, record_withEvents]
      refine ⟨rfl, ?_⟩
      rw [record_events]
      exact sameEvents_recorded later recorded same
  | heartbeat ts => exact ⟨rfl, same⟩
  | quality status =>
      simp only [HealthCollector.call, setQualityStatus_withEvents]
      constructor
      · simp only [HealthCollector.setQualityStatus]
      · rw [setQualityStatus_events]
        exact same
  | snapshot routeId => simp [CollectorCall.isRead] at noRead
  | venueHealth => simp [CollectorCall.isRead] at noRead

/-- A read only prunes the one that is read. -/
theorem Agree.read (agree : Agree (horizon - minutes 5) first second) (moved : horizon ≤ later)
    {made : CollectorCall} (reads : made.isRead = true) :
    Agree (later - minutes 5) (first.call later made) second := by
  have after := sub_le_sub_right moved (minutes 5)
  have rest := agree.rest
  cases made with
  | record recorded => cases reads
  | heartbeat ts => cases reads
  | quality status => cases reads
  | snapshot routeId => exact ⟨rest, sameEvents_prune after agree.events⟩
  | venueHealth => exact ⟨rest, sameEvents_prune after agree.events⟩

theorem Agree.answers (agree : Agree horizon first second) (after : horizon ≤ later - minutes 5) :
    (first.venueQuoteHealth later).1 = (second.venueQuoteHealth later).1 ∧
      ∀ routeId, (first.toRiskSnapshot later routeId).1 = (second.toRiskSnapshot later routeId).1 ∧
        (first.buildSnapshot later routeId).1 = (second.buildSnapshot later routeId).1 := by
  obtain ⟨rest, same⟩ := agree
  generalize second.venueUnavailableEvents = events at rest same
  subst rest
  have keys := sameEvents_keys same
  have pruned := sameEvents_pruned after same
  refine ⟨?_, fun routeId => ⟨rfl, ?_⟩⟩
  · unfold HealthCollector.venueQuoteHealth HealthCollector.pruneEvents
    rw [keys, pruned]
  · simp only [HealthCollector.buildSnapshot, pruned]

end Agree

theorem Agree.refl (horizon : Instant) (collector : HealthCollector) :
    Agree horizon collector collector :=
  ⟨rfl, List.forall₂_same.mpr fun _ _ => ⟨rfl, fun _ _ => rfl⟩⟩

def withoutReads (calls : List (Timed CollectorCall)) : List (Timed CollectorCall) :=
  calls.filter fun call => !call.value.isRead

/-- A read is seen by nobody, and any other call does the same to collectors that agree. -/
theorem reads_secure : Secure (fun collector (call : Timed CollectorCall) =>
    HealthCollector.call collector call.ts call.value) Timed.ts (fun call => !call.value.isRead)
    fun now => Agree (now - minutes 5) where
  later agree moved := agree.mono (sub_le_sub_right moved (minutes 5))
  silent read agree := agree.read le_rfl (by simpa using read)
  shared other agree := agree.call le_rfl (by simpa using other)

/-- A run agrees with the run in which nobody has read. -/
theorem agree_withoutReads (collector : HealthCollector) {calls : List (Timed CollectorCall)}
    {now : Instant} (ordered : calls.Pairwise fun earlier later => earlier.ts ≤ later.ts)
    (past : ∀ call ∈ calls, call.ts ≤ now) :
    Agree (now - minutes 5) (collector.callAll calls) (collector.callAll (withoutReads calls)) :=
  reads_secure.purged (fun _ => Agree.refl _ collector) ordered past

/-- Whoever reads the collector, and however often, changes no later answer. -/
theorem reads_change_nothing (collector : HealthCollector) (calls : List (Timed CollectorCall))
    (ordered : calls.Pairwise fun earlier later => earlier.ts ≤ later.ts) (now : Instant)
    (past : ∀ call ∈ calls, call.ts ≤ now) :
    let read := collector.callAll calls
    let unread := collector.callAll (withoutReads calls)
    (read.venueQuoteHealth now).1 = (unread.venueQuoteHealth now).1 ∧
      ∀ routeId, (read.toRiskSnapshot now routeId).1 = (unread.toRiskSnapshot now routeId).1 ∧
        (read.buildSnapshot now routeId).1 = (unread.buildSnapshot now routeId).1 :=
  (agree_withoutReads collector ordered past).answers le_rfl

/-- A poll six minutes after an event drops it; nobody sees that it did. -/
theorem reads_change_nothing_sample :
    let calls : List (Timed CollectorCall) :=
      [⟨0, .record (.quoteProbe "hybra" 12 1 false true)⟩, ⟨minutes 6, .venueHealth⟩]
    let collector := HealthCollector.create 0
    (collector.callAll calls).venueUnavailableEvents ≠
        (collector.callAll (withoutReads calls)).venueUnavailableEvents ∧
      ((collector.callAll calls).venueQuoteHealth (minutes 7)).1 =
        ((collector.callAll (withoutReads calls)).venueQuoteHealth (minutes 7)).1 := by
  intro calls collector
  exact ⟨by decide, (reads_change_nothing collector calls (by decide) (minutes 7) (by decide)).1⟩

end ArbitrageBot
