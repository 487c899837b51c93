/-
What the daily summary promises: its counts of blockers are numbers of routes, since a route lists
a blocker once and under a name without blanks, and each of its lists leaves out nothing worse than
it shows.
-/

import ArbitrageBot.Readiness.Standings

namespace ArbitrageBot

open BestFirst PythonText Tally

/-! ### The names of blockers -/

/-- Every KPI and every blocker of readiness, by name. -/
def blockerNames : List String :=
  [ "observation_window_days", "market_snapshot_count", "opportunity_count",
    "backtest_run_count_market_snapshots", "backtest_run_count_opportunities",
    "backtest_run_count_total", "quote_unavailable_rate", "health_unknown_rate",
    "fee_unverified_rate", "balance_unverified_rate", "quote_mismatch_rate", "support_status",
    "readiness_grade", "fatal_pause_unresolved", "fatal_pause_count", "cooldown_event_count",
    "unsupported_route", "fee_unverified", "balance_mismatch", "balance_unverified",
    "quote_match_unverified", "insufficient_observations", "backtest_missing",
    "quote_unavailable_rate_high", "cooldown_active", "fatal_paused", "observation_only_route" ]

theorem blockerNames_plain : ∀ name ∈ blockerNames, strip name = name ∧ name ≠ "" := by
  decide +kernel

section Names

variable {settings : Settings} {type : RouteType} {stats : CommissioningStats}
  {verdict : ReadinessVerdict} {facts : ReadinessFacts}

theorem kpi_name_mem :
    ∀ kpi ∈ evaluateKpis settings type stats verdict, kpi.name ∈ blockerNames := by
  cases type <;> simp [evaluateKpis, backtestKpis, blockerNames]

theorem finding_name {holds : Bool} {blocker action : String} {entry : String × String}
    (found : entry ∈ finding holds blocker action) : entry.1 = blocker := by
  cases holds with
  | true =>
      rw [finding, if_pos rfl, List.mem_singleton] at found
      rw [found]
  | false => cases found

theorem blocker_mem : ∀ blocker ∈ facts.blockers settings, blocker ∈ blockerNames := by
  intro blocker listed
  obtain ⟨entry, found, rfl⟩ := List.mem_map.mp listed
  simp only [ReadinessFacts.findings, List.mem_append] at found
  rcases found with ((((((((found | found) | found) | found) | found) | found) | found) | found) |
    found) | found
  case inl.inl.inl.inl.inl.inl.inl.inr =>
    split at found
    · rw [List.mem_singleton] at found
      simp [found, blockerNames]
    · simp [finding_name found, blockerNames]
  all_goals simp [finding_name found, blockerNames]

end Names

/-! ### A route lists a blocker once -/

theorem nodup_eraseDups {α : Type*} [DecidableEq α] (items : List α) : items.eraseDups.Nodup := by
  induction size : items.length using Nat.strong_induction_on generalizing items with
  | _ size ih =>
      cases items with
      | nil => exact List.nodup_nil
      | cons first rest =>
          rw [List.eraseDups_cons, List.nodup_cons, List.mem_eraseDups]
          constructor
          · simp
          · have shorter := List.length_filter_le (fun other => !other == first) rest
            rw [List.length_cons] at size
            exact ih _ (by omega) _ rfl

theorem readinessRow_blockers (settings : Settings) (route : Route) (now : Instant)
    (input : ReadinessInput) :
    (readinessRow settings route now input).blockers =
      (readinessFacts route.strategy now input).blockers settings :=
  rfl

theorem readinessVerdict_blockers (row : ReadinessRow) :
    (readinessVerdict (some row)).blockers = row.blockers :=
  rfl

theorem readinessByRoute_blockers {settings : Settings} {now : Instant} {listing : List Route}
    {input : String → ReadinessInput} {wanted : Option String} {routeId : String} :
    ∀ blocker ∈ (readinessVerdict (readinessByRoute
        (routeReadinessRows settings now listing input wanted) routeId)).blockers,
      blocker ∈ blockerNames := by
  intro blocker listed
  unfold readinessByRoute at listed
  cases found : (routeReadinessRows settings now listing input wanted).reverse.find?
      fun row => row.routeId = routeId with
  | none =>
      rw [found] at listed
      cases listed
  | some row =>
      rw [found] at listed
      have among := List.mem_reverse.mp (List.mem_of_find?_eq_some found)
      obtain ⟨route, -, rfl⟩ := List.mem_map.mp among
      rw [readinessVerdict_blockers, readinessRow_blockers] at listed
      exact blocker_mem blocker listed

/-- The row of a route whose readiness, if listed, is computed. -/
structure PlainBlockers (settings : Settings) (row : CommissioningRow) : Prop where
  once : row.gateBlockers.Nodup
  named : ∀ blocker ∈ row.gateBlockers, blocker ∈ blockerNames

theorem plainBlockers_of_listed {settings : Settings} {now : Instant} {routes listing : List Route}
    {input : String → ReadinessInput} {stats : String → CommissioningStats}
    {routeId wanted : Option String} {row : CommissioningRow}
    (listed : row ∈ commissioningRouteRows settings routes
      (routeReadinessRows settings now listing input wanted) stats routeId) :
    PlainBlockers settings row := by
  obtain ⟨route, -, rfl⟩ := mem_commissioningRouteRows listed
  refine ⟨nodup_eraseDups _, ?_⟩
  intro blocker member
  rcases List.mem_append.mp (List.mem_eraseDups.mp member) with failed | blocked
  · obtain ⟨kpi, among, rfl⟩ := List.mem_map.mp failed
    exact kpi_name_mem kpi (List.mem_filter.mp among).1
  · exact readinessByRoute_blockers blocker blocked

theorem blockerKeys_eq {settings : Settings} {row : CommissioningRow}
    (plain : PlainBlockers settings row) : row.blockerKeys = row.gateBlockers := by
  have stripped : row.gateBlockers.map strip = row.gateBlockers := by
    conv_rhs => rw [← List.map_id row.gateBlockers]
    apply List.map_congr_left
    intro blocker listed
    exact (blockerNames_plain blocker (plain.named blocker listed)).1
  rw [CommissioningRow.blockerKeys, stripped, List.filter_eq_self]
  intro blocker listed
  exact decide_eq_true (blockerNames_plain blocker (plain.named blocker listed)).2

/-- So the count of a blocker is the number of routes that list it. -/
theorem count_blockerKeys {settings : Settings} {rows : List CommissioningRow}
    (plain : ∀ row ∈ rows, PlainBlockers settings row) (blocker : String) :
    (rows.flatMap CommissioningRow.blockerKeys).count blocker =
      rows.countP fun row => blocker ∈ row.gateBlockers := by
  induction rows with
  | nil => rfl
  | cons row rest ih =>
      have here := plain row List.mem_cons_self
      have others := ih fun other member => plain other (.tail row member)
      rw [List.flatMap_cons, List.count_append, List.countP_cons, others, blockerKeys_eq here,
        Nat.add_comm]
      by_cases listed : blocker ∈ row.gateBlockers
      · rw [List.count_eq_one_of_mem here.once listed, if_pos (decide_eq_true listed)]
      · rw [List.count_eq_zero_of_not_mem listed, if_neg (by simpa using listed)]

/-! ### The lists of the summary -/

/-- What is promised of a daily summary that shows so many entries of each list. -/
structure Told (settings : Settings) (rows : List CommissioningRow) (topN : Nat)
    (summary : DailySummary) : Prop where
  counted : ∀ blocker count, (blocker, count) ∈ summary.topBlockers →
    count = rows.countP fun row => blocker ∈ row.gateBlockers
  distinct : (summary.topBlockers.map Prod.fst).Nodup
  blockers : ∀ row ∈ rows, ∀ blocker ∈ row.gateBlockers,
    blocker ∈ summary.topBlockers.map Prod.fst ∨
      summary.topBlockers.length = topN ∧ ∀ entry ∈ summary.topBlockers,
        (rows.countP fun other => blocker ∈ other.gateBlockers) ≤ entry.2
  worst : ∀ row ∈ rows,
    (∃ entry ∈ summary.quoteUnavailableWorstRoutes, entry.routeId = row.routeId) ∨
      summary.quoteUnavailableWorstRoutes.length = topN ∧
        ∀ entry ∈ summary.quoteUnavailableWorstRoutes,
          row.stats.quoteUnavailableRate ≤ entry.quoteUnavailableRate
  worstShown : ∀ entry ∈ summary.quoteUnavailableWorstRoutes, ∃ row ∈ rows,
    entry.routeId = row.routeId ∧ entry.strategy = row.strategy ∧
      entry.quoteUnavailableRate = row.stats.quoteUnavailableRate ∧
      entry.promotionGateStatus = row.promotionGateStatus
  worstFirst : summary.quoteUnavailableWorstRoutes.Pairwise fun first second =>
    second.quoteUnavailableRate ≤ first.quoteUnavailableRate
  red : ∀ row ∈ rows, row.readinessGrade = .red →
    (∃ entry ∈ summary.readinessRedRoutes, entry.routeId = row.routeId) ∨
      summary.readinessRedRoutes.length = topN
  /-- A route of red readiness is shown as blocked, with the blockers of its own row. -/
  redBlocked : ∀ entry ∈ summary.readinessRedRoutes, ∃ row ∈ rows,
    row.readinessGrade = .red ∧ entry.routeId = row.routeId ∧ entry.strategy = row.strategy ∧
      entry.promotionGateStatus = .promotionBlocked ∧ entry.gateBlockers = row.gateBlockers ∧
      entry.gateBlockers ≠ []
  best : Ranked settings rows topN summary.bestCandidateRoutes

section Lists

variable {settings : Settings} {rows : List CommissioningRow} {summary : CommissioningSummary}
  {topN : Nat}

theorem topBlockers_counted (plain : ∀ row ∈ rows, PlainBlockers settings row) {blocker : String}
    {count : Nat}
    (listed : (blocker, count) ∈ (dailySummary settings rows summary topN).topBlockers) :
    count = rows.countP fun row => blocker ∈ row.gateBlockers := by
  rw [← count_blockerKeys plain]
  exact mem_tally (mem_bestFirst.mp (List.mem_of_mem_take listed))

theorem topBlockers_distinct :
    ((dailySummary settings rows summary topN).topBlockers.map Prod.fst).Nodup := by
  have all : ((bestFirst Prod.snd (tally (rows.flatMap CommissioningRow.blockerKeys))).map
      Prod.fst).Nodup :=
    ((bestFirst_perm _).map Prod.fst).nodup_iff.mpr (nodup_tally _)
  exact all.sublist ((List.take_sublist _ _).map Prod.fst)

theorem topBlockers_complete (plain : ∀ row ∈ rows, PlainBlockers settings row)
    {row : CommissioningRow} (member : row ∈ rows) {blocker : String}
    (blocks : blocker ∈ row.gateBlockers) :
    blocker ∈ (dailySummary settings rows summary topN).topBlockers.map Prod.fst ∨
      (dailySummary settings rows summary topN).topBlockers.length = topN ∧
        ∀ entry ∈ (dailySummary settings rows summary topN).topBlockers,
          (rows.countP fun other => blocker ∈ other.gateBlockers) ≤ entry.2 := by
  have key : blocker ∈ rows.flatMap CommissioningRow.blockerKeys := by
    rw [List.mem_flatMap]
    exact ⟨row, member, (blockerKeys_eq (plain row member)).symm ▸ blocks⟩
  obtain ⟨⟨name, count⟩, tallied, rfl⟩ := List.mem_map.mp (mem_keys_tally.mpr key)
  rcases (@mem_shown_or_leftOut _ _ _ Prod.snd _ topN _).mp tallied with shown | below
  · exact .inl (List.mem_map.mpr ⟨_, shown, rfl⟩)
  · refine .inr ⟨length_shown_of_leftOut below, ?_⟩
    intro entry shown
    rw [← count_blockerKeys plain, ← mem_tally tallied]
    exact leftOut_le_shown shown below

theorem worstRoutes_complete {row : CommissioningRow} (member : row ∈ rows) :
    (∃ entry ∈ (dailySummary settings rows summary topN).quoteUnavailableWorstRoutes,
      entry.routeId = row.routeId) ∨
      (dailySummary settings rows summary topN).quoteUnavailableWorstRoutes.length = topN ∧
        ∀ entry ∈ (dailySummary settings rows summary topN).quoteUnavailableWorstRoutes,
          row.stats.quoteUnavailableRate ≤ entry.quoteUnavailableRate := by
  rcases (@mem_shown_or_leftOut _ _ _ (fun row : CommissioningRow =>
    row.stats.quoteUnavailableRate) _ topN _).mp member with shown | below
  · exact .inl ⟨_, List.mem_map.mpr ⟨row, shown, rfl⟩, rfl⟩
  · refine .inr ⟨(List.length_map _).trans (length_shown_of_leftOut below), ?_⟩
    intro entry listed
    obtain ⟨other, shown, rfl⟩ := List.mem_map.mp listed
    exact @leftOut_le_shown _ _ _ (fun row : CommissioningRow => row.stats.quoteUnavailableRate)
      _ _ _ _ shown below

theorem redRoutes_complete {row : CommissioningRow} (member : row ∈ rows)
    (red : row.readinessGrade = .red) :
    (∃ entry ∈ (dailySummary settings rows summary topN).readinessRedRoutes,
      entry.routeId = row.routeId) ∨
      (dailySummary settings rows summary topN).readinessRedRoutes.length = topN := by
  have among : row ∈ rows.filter fun row => row.readinessGrade = .red :=
    List.mem_filter.mpr ⟨member, decide_eq_true red⟩
  rw [← List.take_append_drop topN (rows.filter fun row => row.readinessGrade = .red),
    List.mem_append] at among
  rcases among with shown | below
  · exact .inl ⟨_, List.mem_map.mpr ⟨row, shown, rfl⟩, rfl⟩
  · right
    have longer := List.length_pos_of_mem below
    rw [List.length_drop] at longer
    simp only [dailySummary, List.length_map, List.length_take]
    omega

end Lists

/-- The daily summary tells numbers of routes and leaves out nothing worse than it shows. -/
theorem daily_summary_told (settings : Settings) (now : Instant) (routes listing : List Route)
    (input : String → ReadinessInput) (stats : String → CommissioningStats)
    (summary : CommissioningSummary) (topN : Nat) :
    let readinessRows := routeReadinessRows settings now listing input none
    let rows := commissioningRouteRows settings routes readinessRows stats none
    Told settings rows topN (dailySummary settings rows summary topN) := by
  intro readinessRows rows
  have plain : ∀ row ∈ rows, PlainBlockers settings row :=
    fun row listed => plainBlockers_of_listed listed
  constructor
  · exact fun _ _ listed => topBlockers_counted plain listed
  · exact topBlockers_distinct
  · exact fun _ member _ blocks => topBlockers_complete plain member blocks
  · exact fun _ member => worstRoutes_complete member
  · intro entry listed
    obtain ⟨row, shown, rfl⟩ := List.mem_map.mp listed
    exact ⟨row, mem_bestFirst.mp (List.mem_of_mem_take shown), rfl, rfl, rfl, rfl⟩
  · exact List.pairwise_map.mpr ((bestFirst_ordered rows).sublist (List.take_sublist _ _))
  · exact fun _ member red => redRoutes_complete member red
  · intro entry listed
    obtain ⟨row, shown, rfl⟩ := List.mem_map.mp listed
    obtain ⟨member, red⟩ := List.mem_filter.mp (List.mem_of_mem_take shown)
    refine ⟨row, member, of_decide_eq_true red, rfl, rfl, ?_⟩
    obtain ⟨route, -, rfl⟩ := mem_commissioningRouteRows member
    have blocked := promotionBlocked_of_red (of_decide_eq_true red)
    refine ⟨blocked, rfl, ?_⟩
    obtain ⟨name, failed⟩ := List.exists_mem_of_ne_nil _ (promotionGateStatus_blocked.mp blocked)
    exact List.ne_nil_of_mem (List.mem_eraseDups.mpr (List.mem_append_left _ failed))
  · exact ranked_commissioningRanking

end ArbitrageBot
