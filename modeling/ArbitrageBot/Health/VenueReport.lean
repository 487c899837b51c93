/-
What `venue_quote_health` and the snapshots say of the venues, in terms of what was recorded: since
no reader disturbs another, it is enough to follow a run in which nobody reads.
-/

import ArbitrageBot.Health.VenueHealth
import ArbitrageBot.Library.PythonDict

namespace ArbitrageBot

open PythonDict SlidingWindow

theorem updateKey_eq_update {β : Type} (key : String) (change : Option β → β)
    (dict : List (String × β)) : updateKey key change dict = update key change dict := by
  induction dict with
  | nil => rfl
  | cons entry rest ih => rw [updateKey, update, ih]

/-! ### What was recorded of a venue -/

def CollectorCall.succeeded (venue : String) : CollectorCall → Bool
  | .record (.quoteProbe other _ _ ok _) => ok && other = venue
  | _ => false

def CollectorCall.unavailable (venue : String) : CollectorCall → Bool
  | .record (.quoteProbe other _ _ _ quoteUnavailable) => quoteUnavailable && other = venue
  | _ => false

def CollectorCall.quoted : CollectorCall → Bool
  | .record (.quoteProbe _ _ _ ok _) => ok
  | _ => false

def timesOf (test : CollectorCall → Bool) (calls : List (Timed CollectorCall)) : List Instant :=
  (calls.filter fun call => test call.value).map Timed.ts

section Times

variable {test : CollectorCall → Bool} {calls : List (Timed CollectorCall)}
  {last : Timed CollectorCall}

theorem timesOf_concat :
    timesOf test (calls ++ [last]) =
      timesOf test calls ++ if test last.value then [last.ts] else [] := by
  rw [timesOf, timesOf, List.filter_append, List.map_append]
  congr 1
  rw [List.filter_cons, List.filter_nil]
  split <;> rfl

theorem timesOf_withoutReads (records : ∀ made, test made = true → made.isRead = false) :
    timesOf test (withoutReads calls) = timesOf test calls := by
  rw [timesOf, timesOf, withoutReads, List.filter_filter]
  congr 1
  apply List.filter_congr
  intro call _member
  cases passes : test call.value with
  | false => rfl
  | true => rw [records _ passes]; rfl

theorem mem_timesOf_le (past : ∀ call ∈ calls, call.ts ≤ last.ts) :
    ∀ time ∈ timesOf test calls, time ≤ last.ts := by
  intro time member
  obtain ⟨call, listed, rfl⟩ := List.mem_map.mp member
  exact past call (List.mem_filter.mp listed).1

theorem timesOf_ordered (ordered : calls.Pairwise fun earlier later => earlier.ts ≤ later.ts) :
    (timesOf test calls).Pairwise (· ≤ ·) :=
  List.pairwise_map.mpr (ordered.sublist List.filter_sublist)

end Times

/-- What the collector keeps of the venues while nobody reads: of each the last good quote and all
unavailable events. -/
structure KeptVenues (calls : List (Timed CollectorCall)) (collector : HealthCollector) : Prop where
  distinct : (collector.venueUnavailableEvents.map Prod.fst).Nodup
  success : ∀ venue, collector.venueLastSuccess.lookup venue =
    (timesOf (CollectorCall.succeeded venue) calls).getLast?
  newest : (collector.venueLastSuccess.map Prod.snd).max? =
    (timesOf CollectorCall.quoted calls).getLast?
  events : ∀ venue, collector.venueUnavailableEvents.lookup venue =
    if timesOf (CollectorCall.unavailable venue) calls = [] then none
    else some (timesOf (CollectorCall.unavailable venue) calls)

section Kept

variable {calls : List (Timed CollectorCall)} {collector after : HealthCollector}
  {last : Timed CollectorCall}

theorem KeptVenues.step_other (kept : KeptVenues calls collector)
    (success : after.venueLastSuccess = collector.venueLastSuccess)
    (events : after.venueUnavailableEvents = collector.venueUnavailableEvents)
    (quoted : last.value.quoted = false)
    (silent : ∀ venue, last.value.succeeded venue = false ∧ last.value.unavailable venue = false) :
    KeptVenues (calls ++ [last]) after := by
  have none_ : ∀ test : CollectorCall → Bool, test last.value = false →
      timesOf test (calls ++ [last]) = timesOf test calls := by
    intro test fails
    rw [timesOf_concat, fails]
    exact List.append_nil _
  constructor
  · rw [events]
    exact kept.distinct
  · intro venue
    rw [success, none_ _ (silent venue).1]
    exact kept.success venue
  · rw [success, none_ _ quoted]
    exact kept.newest
  · intro venue
    rw [events, none_ _ (silent venue).2]
    exact kept.events venue

/-- The newest of all last quotes, after one that is newer than all. -/
theorem max?_updateKey {dict : List (String × Instant)} {venue : String} {now : Instant}
    (past : ∀ time ∈ dict.map Prod.snd, time ≤ now) :
    ((updateKey venue (fun _ => now) dict).map Prod.snd).max? = some now := by
  rw [List.max?_eq_some_iff]
  induction dict with
  | nil => simp [updateKey]
  | cons entry rest ih =>
      obtain ⟨other, value⟩ := entry
      rw [List.map_cons, List.forall_mem_cons] at past
      obtain ⟨first, others⟩ := past
      obtain ⟨member, below⟩ := ih others
      rw [updateKey]
      split
      · refine ⟨List.mem_cons_self, ?_⟩
        rw [List.map_cons, List.forall_mem_cons]
        exact ⟨le_rfl, others⟩
      · refine ⟨List.mem_cons_of_mem _ member, ?_⟩
        rw [List.map_cons, List.forall_mem_cons]
        exact ⟨first, below⟩

theorem KeptVenues.success_past (kept : KeptVenues calls collector)
    (past : ∀ call ∈ calls, call.ts ≤ last.ts) :
    ∀ time ∈ collector.venueLastSuccess.map Prod.snd, time ≤ last.ts := by
  intro time member
  cases newest : (collector.venueLastSuccess.map Prod.snd).max? with
  | none =>
      rw [List.max?_eq_none_iff.mp newest] at member
      cases member
  | some latest =>
      have below := (List.max?_eq_some_iff.mp newest).2 time member
      rw [kept.newest] at newest
      exact below.trans (mem_timesOf_le past latest (List.mem_of_getLast? newest))

theorem KeptVenues.step_probe (kept : KeptVenues calls collector) {venue : String}
    {latencyMs quoteAgeSeconds : Rat} {ok quoteUnavailable : Bool}
    (probed : last.value =
      .record (.quoteProbe venue latencyMs quoteAgeSeconds ok quoteUnavailable))
    (past : ∀ call ∈ calls, call.ts ≤ last.ts) :
    KeptVenues (calls ++ [last]) (collector.recordQuoteProbe last.ts venue latencyMs quoteAgeSeconds
      ok quoteUnavailable) := by
  have success : (collector.recordQuoteProbe last.ts venue latencyMs quoteAgeSeconds ok
      quoteUnavailable).venueLastSuccess =
        if ok then updateKey venue (fun _ => last.ts) collector.venueLastSuccess
        else collector.venueLastSuccess := rfl
  have events : (collector.recordQuoteProbe last.ts venue latencyMs quoteAgeSeconds ok
      quoteUnavailable).venueUnavailableEvents =
        if quoteUnavailable then updateKey venue (fun times => times.getD [] ++ [last.ts])
          collector.venueUnavailableEvents
        else collector.venueUnavailableEvents := rfl
  constructor
  · rw [events]
    split
    · rw [updateKey_eq_update]
      exact nodup_update kept.distinct
    · exact kept.distinct
  · intro other
    rw [success, timesOf_concat, probed, CollectorCall.succeeded]
    cases ok with
    | false =>
        rw [if_neg (by simp), if_neg (by simp), List.append_nil]
        exact kept.success other
    | true =>
        rw [if_pos rfl, updateKey_eq_update, lookup_update, kept.success other]
        by_cases here : other = venue
        · simp [here]
        · simp [here, Ne.symm here]
  · rw [success, timesOf_concat, probed, CollectorCall.quoted]
    cases ok with
    | false =>
        rw [if_neg (by simp), if_neg (by simp), List.append_nil]
        exact kept.newest
    | true =>
        rw [if_pos rfl, if_pos rfl, max?_updateKey (kept.success_past past), List.getLast?_append,
          List.getLast?_singleton, Option.some_or]
  · intro other
    rw [events, timesOf_concat, probed, CollectorCall.unavailable]
    cases quoteUnavailable with
    | false =>
        rw [if_neg (by simp)]
        simp only [Bool.false_and, Bool.false_eq_true, if_false, List.append_nil]
        exact kept.events other
    | true =>
        rw [if_pos rfl, updateKey_eq_update, lookup_update, kept.events other]
        by_cases here : other = venue
        · subst here
          rw [kept.events other]
          by_cases first : timesOf (CollectorCall.unavailable other) calls = []
          · simp [first]
          · simp [first]
        · simp [here, Ne.symm here]

theorem KeptVenues.step (kept : KeptVenues calls collector)
    (past : ∀ call ∈ calls, call.ts ≤ last.ts) (noRead : last.value.isRead = false) :
    KeptVenues (calls ++ [last]) (collector.call last.ts last.value) := by
  cases made : last.value with
  | record recorded =>
      cases recorded with
      | quoteProbe venue latencyMs quoteAgeSeconds ok quoteUnavailable =>
          exact kept.step_probe made past
      | _ =>
          apply kept.step_other
          · rfl
          · rfl
          · rw [made]
            rfl
          · intro venue
            rw [made]
            exact ⟨rfl, rfl⟩
  | heartbeat ts =>
      apply kept.step_other
      · rfl
      · rfl
      · rw [made]
        rfl
      · intro venue
        rw [made]
        exact ⟨rfl, rfl⟩
  | quality status =>
      apply kept.step_other
      · simp only [HealthCollector.call, HealthCollector.setQualityStatus]
      · exact setQualityStatus_events collector last.ts status
      · rw [made]
        rfl
      · intro venue
        rw [made]
        exact ⟨rfl, rfl⟩
  | snapshot routeId =>
      rw [made] at noRead
      simp [CollectorCall.isRead] at noRead
  | venueHealth =>
      rw [made] at noRead
      simp [CollectorCall.isRead] at noRead

theorem keptVenues_run (created : Instant)
    (ordered : calls.Pairwise fun earlier later => earlier.ts ≤ later.ts)
    (noReads : ∀ call ∈ calls, call.value.isRead = false) :
    KeptVenues calls ((HealthCollector.create created).callAll calls) := by
  induction calls using List.reverseRecOn with
  | nil => exact ⟨List.nodup_nil, fun _ => rfl, rfl, fun _ => rfl⟩
  | append_singleton calls last ih =>
      obtain ⟨earlier, -, behind⟩ := List.pairwise_append.mp ordered
      rw [HealthCollector.callAll_concat]
      have kept := ih earlier fun call member => noReads call (List.mem_append_left _ member)
      apply kept.step
      · exact fun call member => behind call member last (List.mem_singleton_self last)
      · exact noReads last (List.mem_append_right _ (List.mem_singleton_self last))

end Kept

/-! ### The reports -/

/-- Both reports in terms of what was recorded, by whatever calls. -/
structure VenuesTold (calls : List (Timed CollectorCall)) (now : Instant)
    (report : List VenueQuoteHealth) (snapshot : CommissioningHealthSnapshot) : Prop where
  sorted : (report.map VenueQuoteHealth.venue).Pairwise (· < ·)
  known : ∀ venue, venue ∈ report.map VenueQuoteHealth.venue ↔
    timesOf (CollectorCall.succeeded venue) calls ≠ [] ∨
      timesOf (CollectorCall.unavailable venue) calls ≠ []
  success : ∀ entry ∈ report,
    entry.lastSuccessTs = (timesOf (CollectorCall.succeeded entry.venue) calls).getLast?
  unavailable : ∀ entry ∈ report, entry.quoteUnavailableCount5m =
    ((timesOf (CollectorCall.unavailable entry.venue) calls).filter fun time =>
      now - minutes 5 ≤ time).length
  supported : ∀ entry ∈ report, entry.supported = true ↔
    entry.quoteUnavailableCount5m = 0 ∨
      timesOf (CollectorCall.succeeded entry.venue) calls ≠ []
  /-- The snapshot names the venues that the report shows as degraded. -/
  degraded : ∀ venue, venue ∈ snapshot.quoteUnavailableVenues ↔
    ∃ entry ∈ report, entry.venue = venue ∧ entry.degradedReason = "quote_unavailable"
  staleness : snapshot.marketDataStalenessSeconds =
    ((timesOf CollectorCall.quoted calls).getLast?.map fun newest =>
      totalSeconds (now - newest)).getD 999

section Reports

variable {calls : List (Timed CollectorCall)} {collector : HealthCollector} {now : Instant}

theorem KeptVenues.pruned (kept : KeptVenues calls collector)
    (ordered : calls.Pairwise fun earlier later => earlier.ts ≤ later.ts) (venue : String) :
    ((collector.pruneEvents now).lookup venue).getD [] =
      (timesOf (CollectorCall.unavailable venue) calls).filter fun time =>
        now - minutes 5 ≤ time := by
  unfold HealthCollector.pruneEvents
  rw [lookup_map_values, kept.events venue]
  split
  · rename_i none_
    rw [none_]
    rfl
  · exact dropWhile_eq_filter (timesOf_ordered ordered)

theorem report_venues :
    (collector.venueQuoteHealth now).1.map VenueQuoteHealth.venue =
      ((collector.venueLastSuccess.map Prod.fst ++
        collector.venueUnavailableEvents.map Prod.fst).dedup).insertionSort (· ≤ ·) := by
  unfold HealthCollector.venueQuoteHealth
  dsimp only
  rw [List.map_map]
  exact List.map_id _

theorem venue_mem_report {venue : String} :
    venue ∈ (collector.venueQuoteHealth now).1.map VenueQuoteHealth.venue ↔
      (collector.venueLastSuccess.lookup venue).isSome = true ∨
        (collector.venueUnavailableEvents.lookup venue).isSome = true := by
  rw [report_venues, List.mem_insertionSort, List.mem_dedup, List.mem_append, mem_keys_iff,
    mem_keys_iff]

theorem report_sorted :
    ((collector.venueQuoteHealth now).1.map VenueQuoteHealth.venue).Pairwise (· < ·) := by
  rw [report_venues]
  have ordered := List.pairwise_insertionSort (· ≤ ·) (collector.venueLastSuccess.map Prod.fst ++
    collector.venueUnavailableEvents.map Prod.fst).dedup
  have distinct := (List.perm_insertionSort (· ≤ ·) (collector.venueLastSuccess.map Prod.fst ++
    collector.venueUnavailableEvents.map Prod.fst).dedup).nodup_iff.mpr (List.nodup_dedup _)
  exact ordered.imp₂ (fun _ _ below different => lt_of_le_of_ne below different) distinct

theorem entry_of_report {entry : VenueQuoteHealth}
    (listed : entry ∈ (collector.venueQuoteHealth now).1) :
    entry = HealthCollector.venueHealthOf collector.venueLastSuccess (collector.pruneEvents now)
      entry.venue := by
  obtain ⟨venue, -, rfl⟩ := List.mem_map.mp listed
  rfl

theorem KeptVenues.degraded (kept : KeptVenues calls collector)
    (ordered : calls.Pairwise fun earlier later => earlier.ts ≤ later.ts) (venue routeId : String) :
    venue ∈ (collector.buildSnapshot now routeId).1.quoteUnavailableVenues ↔
      ((timesOf (CollectorCall.unavailable venue) calls).filter fun time =>
        now - minutes 5 ≤ time) ≠ [] := by
  have distinct : ((collector.pruneEvents now).map Prod.fst).Nodup := by
    rw [HealthCollector.pruneEvents, List.map_map]
    exact kept.distinct
  rw [← kept.pruned ordered]
  change venue ∈ ((collector.pruneEvents now).filter fun entry => entry.2 ≠ []).map Prod.fst ↔ _
  rw [List.mem_map]
  constructor
  · rintro ⟨⟨other, times⟩, member, rfl⟩
    obtain ⟨listed, some_⟩ := List.mem_filter.mp member
    rw [lookup_eq_of_mem distinct listed]
    exact of_decide_eq_true some_
  · intro some_
    cases found : (collector.pruneEvents now).lookup venue with
    | none =>
        rw [found] at some_
        exact absurd rfl some_
    | some times =>
        rw [found] at some_
        obtain ⟨front, back, split, -⟩ := List.lookup_eq_some_iff.mp found
        refine ⟨(venue, times), List.mem_filter.mpr ⟨?_, decide_eq_true some_⟩, rfl⟩
        rw [split]
        exact List.mem_append_right _ List.mem_cons_self

theorem KeptVenues.staleness (kept : KeptVenues calls collector) (routeId : String) :
    (collector.buildSnapshot now routeId).1.marketDataStalenessSeconds =
      ((timesOf CollectorCall.quoted calls).getLast?.map fun newest =>
        totalSeconds (now - newest)).getD 999 := by
  rw [← kept.newest]
  unfold HealthCollector.buildSnapshot
  dsimp only
  cases (collector.venueLastSuccess.map Prod.snd).max? <;> rfl

theorem KeptVenues.told (kept : KeptVenues calls collector)
    (ordered : calls.Pairwise fun earlier later => earlier.ts ≤ later.ts) (routeId : String) :
    VenuesTold calls now (collector.venueQuoteHealth now).1
      (collector.buildSnapshot now routeId).1 := by
  have success : ∀ entry ∈ (collector.venueQuoteHealth now).1,
      entry.lastSuccessTs = (timesOf (CollectorCall.succeeded entry.venue) calls).getLast? := by
    intro entry listed
    rw [entry_of_report listed]
    exact kept.success entry.venue
  have unavailable : ∀ entry ∈ (collector.venueQuoteHealth now).1,
      entry.quoteUnavailableCount5m =
        ((timesOf (CollectorCall.unavailable entry.venue) calls).filter fun time =>
          now - minutes 5 ≤ time).length := by
    intro entry listed
    rw [← kept.pruned ordered, entry_of_report listed]
    rfl
  have known : ∀ venue, venue ∈ (collector.venueQuoteHealth now).1.map VenueQuoteHealth.venue ↔
      timesOf (CollectorCall.succeeded venue) calls ≠ [] ∨
        timesOf (CollectorCall.unavailable venue) calls ≠ [] := by
    intro venue
    rw [venue_mem_report, kept.success, kept.events]
    apply or_congr
    · rw [List.getLast?_isSome]
    · split
      · rename_i none_
        simp [none_]
      · rename_i some_
        simp [some_]
  refine ⟨report_sorted, known, success, unavailable, ?_, ?_, kept.staleness routeId⟩
  · intro entry listed
    have shown := entry_of_report listed
    have supported : entry.supported =
        !(0 < entry.quoteUnavailableCount5m && entry.lastSuccessTs.isNone) := by
      rw [shown]
      rfl
    rw [supported, success entry listed]
    cases times : timesOf (CollectorCall.succeeded entry.venue) calls with
    | nil => simp
    | cons first rest => simp
  · intro venue
    have shown : ∀ entry ∈ (collector.venueQuoteHealth now).1,
        (entry.degradedReason = "quote_unavailable" ↔ 0 < entry.quoteUnavailableCount5m) := by
      intro entry listed
      rw [entry_of_report listed, HealthCollector.venueHealthOf]
      dsimp only
      split <;> simp [*]
    rw [kept.degraded ordered, ← List.length_pos_iff]
    constructor
    · intro recent
      have named : venue ∈ (collector.venueQuoteHealth now).1.map VenueQuoteHealth.venue := by
        rw [known]
        right
        intro none_
        rw [none_] at recent
        cases recent
      obtain ⟨entry, listed, rfl⟩ := List.mem_map.mp named
      refine ⟨entry, listed, rfl, (shown entry listed).mpr ?_⟩
      rw [unavailable entry listed]
      exact recent
    · rintro ⟨entry, listed, rfl, degraded⟩
      rw [← unavailable entry listed]
      exact (shown entry listed).mp degraded

theorem KeptVenues.withReads (kept : KeptVenues (withoutReads calls) collector) :
    KeptVenues calls collector := by
  have same : ∀ test : CollectorCall → Bool, (∀ made, test made = true → made.isRead = false) →
      timesOf test (withoutReads calls) = timesOf test calls := fun _ => timesOf_withoutReads
  refine ⟨kept.distinct, ?_, ?_, ?_⟩
  · intro venue
    rw [kept.success, same]
    intro made passes
    cases made <;> first | rfl | cases passes
  · rw [kept.newest, same]
    intro made passes
    cases made <;> first | rfl | cases passes
  · intro venue
    rw [kept.events, same]
    intro made passes
    cases made <;> first | rfl | cases passes

end Reports

/-- Whoever reads in between, `venue_quote_health` and the snapshots tell of each venue exactly
what was recorded of it. -/
theorem venues_told (created : Instant) (calls : List (Timed CollectorCall))
    (ordered : calls.Pairwise fun earlier later => earlier.ts ≤ later.ts) (now : Instant)
    (past : ∀ call ∈ calls, call.ts ≤ now) (routeId : String) :
    let collector := (HealthCollector.create created).callAll calls
    VenuesTold calls now (collector.venueQuoteHealth now).1
      (collector.buildSnapshot now routeId).1 := by
  intro collector
  obtain ⟨report, snapshots⟩ := reads_change_nothing (.create created) calls ordered now past
  rw [report, (snapshots routeId).2]
  have kept : KeptVenues (withoutReads calls)
      ((HealthCollector.create created).callAll (withoutReads calls)) := by
    apply keptVenues_run
    · exact ordered.sublist List.filter_sublist
    · intro call member
      simpa using (List.mem_filter.mp member).2
  exact kept.withReads.told ordered routeId

/-- A venue that fails, is read six minutes later and fails again. -/
theorem venues_told_sample :
    let calls : List (Timed CollectorCall) :=
      [⟨0, .record (.quoteProbe "hybra" 12 1 false true)⟩, ⟨minutes 6, .venueHealth⟩,
        ⟨minutes 7, .record (.quoteProbe "hybra" 15 1 false true)⟩, ⟨minutes 7, .snapshot "r1"⟩]
    let collector := (HealthCollector.create 0).callAll calls
    VenuesTold calls (minutes 8) (collector.venueQuoteHealth (minutes 8)).1
      (collector.buildSnapshot (minutes 8) "r1").1 := by
  intro calls collector
  exact venues_told 0 calls (by decide) (minutes 8) (by decide) "r1"

end ArbitrageBot
