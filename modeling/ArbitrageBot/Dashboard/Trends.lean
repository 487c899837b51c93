/-
The trends of the dashboard: market snapshots and opportunities of the last day, counted by the
hour in four dictionaries and shown along one axis of hours. The hours are ISO texts and sorted as
texts.
-/

import ArbitrageBot.Library.IsoOrder
import ArbitrageBot.Library.Quantile
import ArbitrageBot.System.Evidence
import ArbitrageBot.System.PersistedText

namespace ArbitrageBot

open IsoFormat PythonDatetime Quantile Tally

def hourBucket (datetime : Datetime) : String :=
  isoformat { civil datetime.inUtc with minute := 0, second := 0, microsecond := 0 }

/-- `list_market_snapshots_since` and `list_opportunities_since`: at most `limit` rows, the oldest
of the window first. -/
def listSince {α : Type} (since : Instant) (limit : Nat) (rows : List (Stamped α)) :
    List (Stamped α) :=
  ((rows.filter fun stamped => since ≤ stamped.stamp).insertionSort
    fun first second => first.stamp ≤ second.stamp).take limit

/-- The dictionaries that the two loops fill. -/
structure HourCounts where
  observations : Counts String := []
  opportunities : Counts String := []
  blocked : Counts String := []
  quoteUnavailable : Counts String := []

def HourCounts.addSnapshot (counts : HourCounts) (timestamp : Datetime) : HourCounts :=
  { counts with observations := bump (hourBucket timestamp) counts.observations }

def HourCounts.addOpportunity (counts : HourCounts) (row : Datetime × String) : HourCounts :=
  let key := hourBucket row.1
  let counted := { counts with opportunities := bump key counts.opportunities }
  if row.2 = "" then counted
  else
    let stopped := { counted with blocked := bump key counts.blocked }
    if row.2 = "quote_unavailable" then
      { stopped with quoteUnavailable := bump key counts.quoteUnavailable }
    else stopped

structure Trends where
  observations : List (String × Nat)
  quoteUnavailable : List (String × Rat)
  blockedReasons : List (String × Nat × Nat)

namespace HourCounts

variable (counts : HourCounts)

/-- `sorted(set(obs_bucket) | set(opp_total_bucket))` -/
def trendKeys : List String :=
  sorted (counts.observations.map Prod.fst ++ counts.opportunities.map Prod.fst).dedup

def quoteUnavailableRate (key : String) : Rat :=
  if 0 < countOf key counts.opportunities then
    (countOf key counts.quoteUnavailable : Rat) / countOf key counts.opportunities
  else 0

def trends : Trends where
  observations := counts.trendKeys.map fun key => (key, countOf key counts.observations)
  quoteUnavailable := counts.trendKeys.map fun key => (key, counts.quoteUnavailableRate key)
  blockedReasons := counts.trendKeys.map fun key =>
    (key, countOf key counts.blocked, countOf key counts.quoteUnavailable)

end HourCounts

namespace EvidenceTables

variable (tables : EvidenceTables) (now : Instant)

def recentSnapshots : List (Stamped SnapshotKey) :=
  listSince (now - seconds (24 * 3600)) 100000 tables.marketSnapshots

def recentOpportunities : List (Stamped Opportunity) :=
  listSince (now - seconds (24 * 3600)) 100000 tables.opportunities

/-- The two loops of `dashboard_index` over what the driver returns. -/
def hourCounts (column : UtcColumn) : HourCounts :=
  let observed := (tables.recentSnapshots now).foldl
    (fun counts stamped => counts.addSnapshot (column.returned (utc stamped.stamp))) {}
  (tables.recentOpportunities now).foldl
    (fun counts stamped =>
      counts.addOpportunity (column.returned (utc stamped.stamp), stamped.row.blockedReason))
    observed

end EvidenceTables

/-! ### Hours -/

def hourLength : Int := 3600000000

def hourOf (instant : Instant) : Int := instant / hourLength

def hourLabel (hour : Int) : String := text (utc (hour * hourLength))

theorem hourBucket_eq (datetime : Datetime) :
    hourBucket datetime = hourLabel (hourOf datetime.instant) := by
  rw [hourBucket, hourLabel, text, Datetime.inUtc_eq]
  congr 1
  have sameDay : datetime.instant / hourLength * hourLength / dayLength =
      datetime.instant / dayLength := by
    unfold hourLength dayLength
    omega
  simp only [civil, utc, hourOf, sameDay, CivilTime.mk.injEq, true_and, and_true]
  unfold hourLength dayLength
  omega

theorem onCalendar_hour {instant : Instant} (day : onCalendar instant) :
    onCalendar (hourOf instant * hourLength) := by
  have sameDay : hourOf instant * hourLength / dayLength = instant / dayLength := by
    unfold hourOf hourLength dayLength
    omega
  unfold onCalendar at day ⊢
  rwa [sameDay]

theorem hourLabel_lt_iff {first second : Int} (day : onCalendar (first * hourLength))
    (day' : onCalendar (second * hourLength)) :
    hourLabel first < hourLabel second ↔ first < second := by
  rw [hourLabel, hourLabel, text_utc_lt_iff day day' (by unfold hourLength; omega)
    (by unfold hourLength; omega)]
  unfold hourLength
  omega

theorem hourLabel_inj {first second : Int} (day : onCalendar (first * hourLength))
    (day' : onCalendar (second * hourLength)) :
    hourLabel first = hourLabel second ↔ first = second := by
  refine ⟨fun same => ?_, congrArg hourLabel⟩
  have notBefore := mt (hourLabel_lt_iff day day').mpr (by rw [same]; exact lt_irrefl _)
  have notAfter := mt (hourLabel_lt_iff day' day).mpr (by rw [same]; exact lt_irrefl _)
  omega

section Rows

variable {α : Type}

def Stamped.hour (stamped : Stamped α) : Int := hourOf stamped.stamp

def countIn (rows : List (Stamped α)) (hour : Int) : Nat :=
  rows.countP fun stamped => stamped.hour = hour

theorem countIn_eq (rows : List (Stamped α)) (hour : Int) :
    countIn rows hour = (rows.map Stamped.hour).count hour := by
  rw [countIn, List.count_eq_countP, List.countP_map]
  exact List.countP_congr fun stamped _ => by simp

theorem countIn_filter_le (rows : List (Stamped α)) (test : Stamped α → Bool) (hour : Int) :
    countIn (rows.filter test) hour ≤ countIn rows hour :=
  List.filter_sublist.countP_le

def OnCalendar (rows : List (Stamped α)) : Prop :=
  ∀ stamped ∈ rows, onCalendar stamped.stamp

theorem OnCalendar.filter {rows : List (Stamped α)} (calendar : OnCalendar rows)
    (test : Stamped α → Bool) : OnCalendar (rows.filter test) :=
  fun stamped member => calendar stamped (List.mem_of_mem_filter member)

/-- Counted by the texts of the hours, rows are counted by the hours. -/
theorem count_labels {rows : List (Stamped α)} (calendar : OnCalendar rows) {hour : Int}
    (day : onCalendar (hour * hourLength)) :
    countOf (hourLabel hour) (tally (rows.map fun stamped => hourLabel stamped.hour)) =
      countIn rows hour := by
  rw [countOf_tally, List.count_eq_countP, List.countP_map]
  refine List.countP_congr fun stamped member => ?_
  have onDay : onCalendar (stamped.hour * hourLength) := onCalendar_hour (calendar stamped member)
  simp only [Function.comp_apply, beq_iff_eq, hourLabel_inj onDay day, decide_eq_true_eq]

/-- Over an axis that has every hour of the rows, the counts add up to the rows. -/
theorem sum_countIn {rows : List (Stamped α)} {hours : List Int} (distinct : hours.Nodup)
    (covered : ∀ stamped ∈ rows, stamped.hour ∈ hours) :
    (hours.map (countIn rows)).sum = rows.length := by
  have total := @sum_count_eq _ _ _ (rows.map Stamped.hour) distinct
    (fun hour listed => by
      obtain ⟨stamped, member, rfl⟩ := List.mem_map.mp listed
      exact covered stamped member)
  rw [List.length_map] at total
  rw [← total]
  exact congrArg List.sum (List.map_congr_left fun hour _ => countIn_eq rows hour)

/-! ### The window -/

/-- The rows that a query shows are the oldest since then; it leaves some out only behind `limit`
of them, and none of those is older than one that it shows. -/
structure OldestSince (since : Instant) (limit : Nat) (rows shown : List (Stamped α)) : Prop where
  split : ∃ leftOut, (shown ++ leftOut).Perm (rows.filter fun stamped => since ≤ stamped.stamp) ∧
    (leftOut ≠ [] → shown.length = limit) ∧
    ∀ early ∈ shown, ∀ late ∈ leftOut, early.stamp ≤ late.stamp

theorem listSince_oldest (since : Instant) (limit : Nat) (rows : List (Stamped α)) :
    OldestSince since limit rows (listSince since limit rows) := by
  unfold listSince
  generalize inWindow : (rows.filter fun stamped => since ≤ stamped.stamp) = window
  have ordered := @List.pairwise_insertionSort (Stamped α)
    (fun first second => first.stamp ≤ second.stamp) _ ⟨fun _ _ => le_total _ _⟩
    ⟨fun _ _ _ => le_trans⟩ window
  generalize inOrder : window.insertionSort (fun first second => first.stamp ≤ second.stamp) =
    sorted at ordered
  have perm : sorted.Perm window := by
    rw [← inOrder]
    exact List.perm_insertionSort _ window
  refine ⟨sorted.drop limit, ?_, fun cut => ?_, ?_⟩
  · rw [List.take_append_drop, inWindow]
    exact perm
  · have longer : limit < sorted.length := by
      by_contra short
      exact cut (List.drop_eq_nil_of_le (not_lt.mp short))
    rw [List.length_take]
    omega
  · rw [← List.take_append_drop limit sorted] at ordered
    exact (List.pairwise_append.mp ordered).2.2

theorem mem_of_mem_listSince {since : Instant} {limit : Nat} {rows : List (Stamped α)}
    {stamped : Stamped α} (shown : stamped ∈ listSince since limit rows) : stamped ∈ rows :=
  List.mem_of_mem_filter ((List.mem_insertionSort _).mp (List.mem_of_mem_take shown))

end Rows

/-! ### What the loops count -/

section Loops

variable (column : UtcColumn)

theorem bucket_returned {α : Type} (stamped : Stamped α) :
    hourBucket (column.returned (utc stamped.stamp)) = hourLabel stamped.hour := by
  rw [hourBucket_eq, column.same, Stamped.hour]

def labels {α : Type} (rows : List (Stamped α)) : List String :=
  rows.map fun stamped => hourLabel stamped.hour

def blockedRows (rows : List (Stamped Opportunity)) : List (Stamped Opportunity) :=
  rows.filter fun stamped => stamped.row.blockedReason ≠ ""

def unavailableRows (rows : List (Stamped Opportunity)) : List (Stamped Opportunity) :=
  rows.filter fun stamped => stamped.row.blockedReason = "quote_unavailable"

theorem tally_labels_concat {α : Type} (rows : List (Stamped α)) (last : Stamped α) :
    tally (labels (rows ++ [last])) = bump (hourLabel last.hour) (tally (labels rows)) := by
  rw [labels, List.map_append, List.map_singleton, tally_concat]
  rfl

theorem filter_concat {α : Type} (test : α → Bool) (rows : List α) (last : α) :
    (rows ++ [last]).filter test = rows.filter test ++ if test last then [last] else [] := by
  rw [List.filter_append, List.filter_singleton]
  cases test last with
  | false => rfl
  | true => rfl

theorem blockedRows_concat (rows : List (Stamped Opportunity)) (last : Stamped Opportunity) :
    blockedRows (rows ++ [last]) =
      blockedRows rows ++ if last.row.blockedReason = "" then [] else [last] := by
  rw [blockedRows, filter_concat, blockedRows]
  simp only [decide_eq_true_eq, ne_eq, ite_not]

theorem unavailableRows_concat (rows : List (Stamped Opportunity)) (last : Stamped Opportunity) :
    unavailableRows (rows ++ [last]) =
      unavailableRows rows ++
        if last.row.blockedReason = "quote_unavailable" then [last] else [] := by
  rw [unavailableRows, filter_concat, unavailableRows]
  simp only [decide_eq_true_eq]

theorem addSnapshots_eq {α : Type} (rows : List (Stamped α)) :
    rows.foldl (fun counts stamped => HourCounts.addSnapshot counts
        (column.returned (utc stamped.stamp))) {} =
      { observations := tally (labels rows) } := by
  induction rows using List.reverseRecOn with
  | nil => rfl
  | append_singleton rows last ih =>
      rw [List.foldl_append, ih, List.foldl_cons, List.foldl_nil, HourCounts.addSnapshot,
        bucket_returned, tally_labels_concat]

theorem addOpportunities_eq (observations : Counts String) (rows : List (Stamped Opportunity)) :
    rows.foldl (fun counts stamped => HourCounts.addOpportunity counts
        (column.returned (utc stamped.stamp), stamped.row.blockedReason)) { observations } =
      { observations
        opportunities := tally (labels rows)
        blocked := tally (labels (blockedRows rows))
        quoteUnavailable := tally (labels (unavailableRows rows)) } := by
  induction rows using List.reverseRecOn with
  | nil => rfl
  | append_singleton rows last ih =>
      rw [List.foldl_append, ih, List.foldl_cons, List.foldl_nil, HourCounts.addOpportunity]
      dsimp only
      rw [bucket_returned, tally_labels_concat, blockedRows_concat, unavailableRows_concat]
      by_cases free : last.row.blockedReason = ""
      · have available : ¬last.row.blockedReason = "quote_unavailable" := by
          rw [free]
          decide
        rw [if_pos free, if_pos free, if_neg available, List.append_nil, List.append_nil]
      · rw [if_neg free, if_neg free, tally_labels_concat]
        by_cases unavailable : last.row.blockedReason = "quote_unavailable"
        · rw [if_pos unavailable, if_pos unavailable, tally_labels_concat]
        · rw [if_neg unavailable, if_neg unavailable, List.append_nil]

end Loops

/-- The dictionaries once the loops are through: each counts rows by the labels of their hours. -/
structure HourCounts.Counted (snapshots : List (Stamped SnapshotKey))
    (opportunities : List (Stamped Opportunity)) (counts : HourCounts) : Prop where
  observations : counts.observations = tally (labels snapshots)
  offers : counts.opportunities = tally (labels opportunities)
  blocked : counts.blocked = tally (labels (blockedRows opportunities))
  quoteUnavailable : counts.quoteUnavailable = tally (labels (unavailableRows opportunities))

theorem EvidenceTables.counted (tables : EvidenceTables) (now : Instant) (column : UtcColumn) :
    HourCounts.Counted (tables.recentSnapshots now) (tables.recentOpportunities now)
      (tables.hourCounts now column) := by
  unfold EvidenceTables.hourCounts
  dsimp only
  rw [addSnapshots_eq, addOpportunities_eq]
  exact ⟨rfl, rfl, rfl, rfl⟩

/-! ### The axis -/

/-- The hours of the rows, in order and without repetitions. -/
def hourAxis (snapshots : List (Stamped SnapshotKey)) (opportunities : List (Stamped Opportunity)) :
    List Int :=
  sorted (snapshots.map Stamped.hour ++ opportunities.map Stamped.hour).dedup

section Axis

variable {snapshots : List (Stamped SnapshotKey)} {opportunities : List (Stamped Opportunity)}
  {counts : HourCounts}

theorem mem_hourAxis {hour : Int} : hour ∈ hourAxis snapshots opportunities ↔
    (∃ stamped ∈ snapshots, stamped.hour = hour) ∨
      ∃ stamped ∈ opportunities, stamped.hour = hour := by
  rw [hourAxis, mem_sorted, List.mem_dedup, List.mem_append, List.mem_map, List.mem_map]

theorem hourAxis_chronological : (hourAxis snapshots opportunities).Pairwise (· < ·) :=
  sorted_ascending (List.nodup_dedup _)

theorem sum_hourAxis {α : Type} {rows : List (Stamped α)}
    (covered : ∀ stamped ∈ rows, stamped.hour ∈ hourAxis snapshots opportunities) :
    ((hourAxis snapshots opportunities).map (countIn rows)).sum = rows.length :=
  sum_countIn (hourAxis_chronological.imp fun before => before.ne) covered

theorem onCalendar_hourAxis (observed : OnCalendar snapshots) (offered : OnCalendar opportunities)
    {hour : Int} (listed : hour ∈ hourAxis snapshots opportunities) :
    onCalendar (hour * hourLength) := by
  rcases mem_hourAxis.mp listed with ⟨stamped, member, rfl⟩ | ⟨stamped, member, rfl⟩
  · exact onCalendar_hour (observed stamped member)
  · exact onCalendar_hour (offered stamped member)

theorem hourLabels_ascending (observed : OnCalendar snapshots)
    (offered : OnCalendar opportunities) :
    ((hourAxis snapshots opportunities).map hourLabel).Pairwise (· < ·) := by
  rw [List.pairwise_map]
  refine List.Pairwise.imp_of_mem ?_ hourAxis_chronological
  intro first second listed listed' before
  exact (hourLabel_lt_iff (onCalendar_hourAxis observed offered listed)
    (onCalendar_hourAxis observed offered listed')).mpr before

theorem mem_labels {α : Type} {rows : List (Stamped α)} {label : String} :
    label ∈ labels rows ↔ ∃ stamped ∈ rows, hourLabel stamped.hour = label := by
  rw [labels, List.mem_map]

/-- Sorted as texts, the hours are in the order of time. -/
theorem HourCounts.Counted.trendKeys (counted : counts.Counted snapshots opportunities)
    (observed : OnCalendar snapshots) (offered : OnCalendar opportunities) :
    counts.trendKeys = (hourAxis snapshots opportunities).map hourLabel := by
  rw [HourCounts.trendKeys]
  refine (sorted_ascending (List.nodup_dedup _)).eq_of_mem_iff
    (hourLabels_ascending observed offered) fun label => ?_
  rw [mem_sorted, List.mem_dedup, List.mem_append, counted.observations, counted.offers,
    mem_keys_tally, mem_keys_tally, mem_labels, mem_labels, List.mem_map]
  constructor
  · rintro (⟨stamped, member, rfl⟩ | ⟨stamped, member, rfl⟩)
    · exact ⟨_, mem_hourAxis.mpr (.inl ⟨stamped, member, rfl⟩), rfl⟩
    · exact ⟨_, mem_hourAxis.mpr (.inr ⟨stamped, member, rfl⟩), rfl⟩
  · rintro ⟨hour, listed, rfl⟩
    rcases mem_hourAxis.mp listed with ⟨stamped, member, rfl⟩ | ⟨stamped, member, rfl⟩
    · exact .inl ⟨stamped, member, rfl⟩
    · exact .inr ⟨stamped, member, rfl⟩

/-! ### The charts -/

def unavailableShare (opportunities : List (Stamped Opportunity)) (hour : Int) : Rat :=
  if 0 < countIn opportunities hour then
    (countIn (unavailableRows opportunities) hour : Rat) / countIn opportunities hour
  else 0

/-- The three charts share one axis, in the order of time and with exactly the hours that have a
row. Each point is what its hour holds, and over the axis nothing is counted twice or left out. -/
structure TrendsTold (snapshots : List (Stamped SnapshotKey))
    (opportunities : List (Stamped Opportunity)) (hours : List Int) (trends : Trends) : Prop where
  chronological : hours.Pairwise (· < ·)
  axis : ∀ hour, hour ∈ hours ↔ (∃ stamped ∈ snapshots, stamped.hour = hour) ∨
    ∃ stamped ∈ opportunities, stamped.hour = hour
  observations : trends.observations =
    hours.map fun hour => (hourLabel hour, countIn snapshots hour)
  quoteUnavailable : trends.quoteUnavailable =
    hours.map fun hour => (hourLabel hour, unavailableShare opportunities hour)
  blockedReasons : trends.blockedReasons = hours.map fun hour =>
    (hourLabel hour, countIn (blockedRows opportunities) hour,
      countIn (unavailableRows opportunities) hour)
  observed : (trends.observations.map Prod.snd).sum = snapshots.length
  blocked : (trends.blockedReasons.map fun point => point.2.1).sum =
    (blockedRows opportunities).length
  unavailable : (trends.blockedReasons.map fun point => point.2.2).sum =
    (unavailableRows opportunities).length
  rates : ∀ point ∈ trends.quoteUnavailable, 0 ≤ point.2 ∧ point.2 ≤ 1
  nested : ∀ point ∈ trends.blockedReasons, point.2.2 ≤ point.2.1

theorem unavailableRows_eq (rows : List (Stamped Opportunity)) :
    unavailableRows rows =
      (blockedRows rows).filter fun stamped => stamped.row.blockedReason = "quote_unavailable" := by
  rw [unavailableRows, blockedRows, List.filter_filter]
  refine List.filter_congr fun stamped _ => ?_
  by_cases unavailable : stamped.row.blockedReason = "quote_unavailable"
  · simp [unavailable]
  · simp [unavailable]

theorem unavailable_le_blocked (rows : List (Stamped Opportunity)) (hour : Int) :
    countIn (unavailableRows rows) hour ≤ countIn (blockedRows rows) hour := by
  rw [unavailableRows_eq]
  exact countIn_filter_le _ _ hour

theorem unavailableShare_bounds (rows : List (Stamped Opportunity)) (hour : Int) :
    0 ≤ unavailableShare rows hour ∧ unavailableShare rows hour ≤ 1 := by
  unfold unavailableShare
  split
  · rename_i some_
    have within : countIn (unavailableRows rows) hour ≤ countIn rows hour :=
      countIn_filter_le _ _ hour
    have positive : (0 : Rat) < countIn rows hour := by exact_mod_cast some_
    constructor
    · positivity
    · rw [div_le_one positive]
      exact_mod_cast within
  · exact ⟨le_rfl, zero_le_one⟩

namespace HourCounts.Counted

variable (counted : counts.Counted snapshots opportunities) (observed : OnCalendar snapshots)
  (offered : OnCalendar opportunities)
include counted observed offered

/-! Every point stands at the label of its hour. -/

theorem observationPoints : counts.trends.observations =
    (hourAxis snapshots opportunities).map fun hour =>
      (hourLabel hour, countIn snapshots hour) := by
  simp only [HourCounts.trends, counted.trendKeys observed offered, List.map_map,
    counted.observations]
  refine List.map_congr_left fun hour listed => ?_
  have day := onCalendar_hourAxis observed offered listed
  exact congrArg (Prod.mk _) (count_labels observed day)

theorem ratePoints : counts.trends.quoteUnavailable =
    (hourAxis snapshots opportunities).map fun hour =>
      (hourLabel hour, unavailableShare opportunities hour) := by
  simp only [HourCounts.trends, counted.trendKeys observed offered, List.map_map]
  refine List.map_congr_left fun hour listed => congrArg (Prod.mk _) ?_
  have day := onCalendar_hourAxis observed offered listed
  have unavailableDays : OnCalendar (unavailableRows opportunities) := offered.filter _
  have opportunityCount := count_labels offered day
  have unavailableCount := count_labels unavailableDays day
  rw [HourCounts.quoteUnavailableRate, counted.offers, counted.quoteUnavailable]
  unfold labels
  rw [opportunityCount, unavailableCount, unavailableShare]

theorem blockedPoints : counts.trends.blockedReasons =
    (hourAxis snapshots opportunities).map fun hour =>
      (hourLabel hour, countIn (blockedRows opportunities) hour,
        countIn (unavailableRows opportunities) hour) := by
  simp only [HourCounts.trends, counted.trendKeys observed offered, List.map_map, counted.blocked,
    counted.quoteUnavailable]
  refine List.map_congr_left fun hour listed => ?_
  have day := onCalendar_hourAxis observed offered listed
  have blockedDays : OnCalendar (blockedRows opportunities) := offered.filter _
  have unavailableDays : OnCalendar (unavailableRows opportunities) := offered.filter _
  exact congrArg (Prod.mk _)
    (congrArg₂ Prod.mk (count_labels blockedDays day) (count_labels unavailableDays day))

theorem trendsTold :
    TrendsTold snapshots opportunities (hourAxis snapshots opportunities) counts.trends where
  chronological := hourAxis_chronological
  axis _ := mem_hourAxis
  observations := counted.observationPoints observed offered
  quoteUnavailable := counted.ratePoints observed offered
  blockedReasons := counted.blockedPoints observed offered
  observed := by
    rw [counted.observationPoints observed offered, List.map_map]
    exact sum_hourAxis fun stamped member => mem_hourAxis.mpr (.inl ⟨stamped, member, rfl⟩)
  blocked := by
    rw [counted.blockedPoints observed offered, List.map_map]
    exact sum_hourAxis fun stamped member =>
      mem_hourAxis.mpr (.inr ⟨stamped, List.mem_of_mem_filter member, rfl⟩)
  unavailable := by
    rw [counted.blockedPoints observed offered, List.map_map]
    exact sum_hourAxis fun stamped member =>
      mem_hourAxis.mpr (.inr ⟨stamped, List.mem_of_mem_filter member, rfl⟩)
  rates := by
    intro point listed
    rw [counted.ratePoints observed offered] at listed
    obtain ⟨hour, -, rfl⟩ := List.mem_map.mp listed
    exact unavailableShare_bounds opportunities hour
  nested := by
    intro point listed
    rw [counted.blockedPoints observed offered] at listed
    obtain ⟨hour, -, rfl⟩ := List.mem_map.mp listed
    exact unavailable_le_blocked opportunities hour

end HourCounts.Counted

end Axis

/-- For whatever the tables hold and whichever zone the driver answers in: the charts show the
snapshots and opportunities of the last day hour by hour, and miss newer rows only behind a
hundred thousand older ones. -/
theorem trends_told (tables : EvidenceTables) (column : UtcColumn) (now : Instant)
    (observed : OnCalendar tables.marketSnapshots) (offered : OnCalendar tables.opportunities) :
    OldestSince (now - seconds (24 * 3600)) 100000 tables.marketSnapshots
        (tables.recentSnapshots now) ∧
      OldestSince (now - seconds (24 * 3600)) 100000 tables.opportunities
        (tables.recentOpportunities now) ∧
      ∃ hours, TrendsTold (tables.recentSnapshots now) (tables.recentOpportunities now) hours
        (tables.hourCounts now column).trends := by
  have shownSnapshots : OnCalendar (tables.recentSnapshots now) :=
    fun stamped shown => observed stamped (mem_of_mem_listSince shown)
  have shownOpportunities : OnCalendar (tables.recentOpportunities now) :=
    fun stamped shown => offered stamped (mem_of_mem_listSince shown)
  have counted := tables.counted now column
  exact ⟨listSince_oldest _ _ _, listSince_oldest _ _ _, _,
    counted.trendsTold shownSnapshots shownOpportunities⟩

namespace Sample

/-- Two snapshots and two opportunities of three hours; one of them had no quote. -/
def trendTables : EvidenceTables where
  marketSnapshots :=
    [⟨seconds 4000, { routeId := "route", sourceType := "real" }⟩,
      ⟨seconds 60, { routeId := "route", sourceType := "real" }⟩]
  opportunities :=
    [⟨seconds 8000, { quote := calmQuote "route", mode := .paper, status := "blocked"
                      blockedReason := "quote_unavailable" }⟩,
      ⟨seconds 8001, { quote := calmQuote "route", mode := .paper, status := "eligible"
                       blockedReason := "" }⟩]
  backtestResults := []
  oneResult := List.nodup_nil

end Sample

theorem trends_told_sample :
    OldestSince (seconds 9000 - seconds (24 * 3600)) 100000 Sample.trendTables.marketSnapshots
        (Sample.trendTables.recentSnapshots (seconds 9000)) ∧
      OldestSince (seconds 9000 - seconds (24 * 3600)) 100000 Sample.trendTables.opportunities
        (Sample.trendTables.recentOpportunities (seconds 9000)) ∧
      ∃ hours, TrendsTold (Sample.trendTables.recentSnapshots (seconds 9000))
        (Sample.trendTables.recentOpportunities (seconds 9000)) hours
        (Sample.trendTables.hourCounts (seconds 9000) UtcColumn.unzoned).trends := by
  have first : onCalendar (seconds 4000) ∧ onCalendar (seconds 60) := by
    simp only [onCalendar]
    decide
  have second : onCalendar (seconds 8000) ∧ onCalendar (seconds 8001) := by
    simp only [onCalendar]
    decide
  refine trends_told Sample.trendTables UtcColumn.unzoned (seconds 9000) ?_ ?_
  · exact List.forall_mem_cons.mpr ⟨first.1, List.forall_mem_singleton.mpr first.2⟩
  · exact List.forall_mem_cons.mpr ⟨second.1, List.forall_mem_singleton.mpr second.2⟩

end ArbitrageBot
