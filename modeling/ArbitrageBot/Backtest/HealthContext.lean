/-
The health rows beside a replayed snapshot: which one the loop's pointer stands
at, and what its statuses do to those of the row itself.
-/

import ArbitrageBot.Backtest.Strictness
import ArbitrageBot.Library.AsOfJoin

namespace ArbitrageBot

open AsOfJoin Fallible GuardChain PythonDecimal PythonJson

namespace BacktestEngine

/-! ### The current health -/

/-- The last health row, in the stable order by timestamp, that is not after `timestamp`. -/
def latestHealth (healthRows : List RouteHealthRow) (timestamp : Instant) :
    Option RouteHealthRow :=
  asOf RouteHealthRow.timestamp (inOrder RouteHealthRow.timestamp healthRows) timestamp

def searchedRows (rows : List MarketSnapshot) (healthRows : List RouteHealthRow) :
    List (MarketSnapshot × Option RouteHealth) :=
  (rows.filter fun row => row.context = "leg_b").map fun row =>
    (row, (latestHealth healthRows row.timestamp).map RouteHealthRow.statuses)

def replaySearched (key : RunKey) (params : JsonObject)
    (pairs : List (MarketSnapshot × Option RouteHealth)) : Except String Finished := do
  let gates ← Gates.read params
  let defaults ← SnapshotDefaults.read params
  let totals ← pairs.foldlM (fun totals pair => do
    let outcome ← snapshotOutcome gates defaults params pair.1 pair.2
    totals.record key outcome) ({} : Totals)
  let report ← finalizeOutcome pairs.length totals
  return (report, totals.trades)

theorem advance_eq_advance (timestamp : Instant) (current : Option RouteHealthRow)
    (ahead : List RouteHealthRow) :
    HealthCursor.advance timestamp current ahead =
      { current := (advance RouteHealthRow.timestamp timestamp current ahead).1
        ahead := (advance RouteHealthRow.timestamp timestamp current ahead).2 } := by
  induction ahead generalizing current with
  | nil => rfl
  | cons next rest ih =>
      by_cases here : next.timestamp ≤ timestamp
      · rw [HealthCursor.advance, if_pos here, advance, if_pos here]
        exact ih (some next)
      · rw [HealthCursor.advance, if_neg here, advance, if_neg here]

theorem withHealth_eq_join (cursor : HealthCursor) (rows : List MarketSnapshot) :
    withHealth cursor rows =
      (join RouteHealthRow.timestamp MarketSnapshot.timestamp cursor.current cursor.ahead rows).map
        fun pair => (pair.1, pair.2.map RouteHealthRow.statuses) := by
  induction rows generalizing cursor with
  | nil => rfl
  | cons row rest ih =>
      rw [withHealth, ih, join, List.map_cons, advance_eq_advance]

theorem snapshotRows_eq_searchedRows {rows : List MarketSnapshot}
    (healthRows : List RouteHealthRow)
    (ordered : rows.Pairwise fun first second => first.timestamp ≤ second.timestamp) :
    snapshotRows rows healthRows = searchedRows rows healthRows := by
  have candidates : (rows.filter fun row => row.context = "leg_b").Pairwise
      (NotLater MarketSnapshot.timestamp) := ordered.filter _
  have walked := join_inOrder RouteHealthRow.timestamp healthRows candidates
  rw [snapshotRows, withHealth_eq_join]
  change (join RouteHealthRow.timestamp MarketSnapshot.timestamp none
    (inOrder RouteHealthRow.timestamp healthRows) _).map _ = _
  rw [walked, List.map_map]
  rfl

section Loop

variable (key : RunKey) (judge : MarketSnapshot → Option RouteHealth → Except String RowOutcome)

/-- One pass of the snapshot loop, its pointer included. -/
def walkStep (state : Totals × HealthCursor) (row : MarketSnapshot) :
    Except String (Totals × HealthCursor) := do
  let cursor := HealthCursor.advance row.timestamp state.2.current state.2.ahead
  let outcome ← judge row (cursor.current.map RouteHealthRow.statuses)
  let recorded ← state.1.record key outcome
  return (recorded, cursor)

def pairStep (totals : Totals) (pair : MarketSnapshot × Option RouteHealth) :
    Except String Totals := do
  let outcome ← judge pair.1 pair.2
  totals.record key outcome

theorem foldlM_walkStep (rows : List MarketSnapshot) (state : Totals × HealthCursor) :
    (rows.foldlM (walkStep key judge) state).map Prod.fst =
      (withHealth state.2 rows).foldlM (pairStep key judge) state.1 := by
  induction rows generalizing state with
  | nil => rfl
  | cons row rest ih =>
      let here := HealthCursor.advance row.timestamp state.2.current state.2.ahead
      rw [withHealth, List.foldlM_cons, List.foldlM_cons, walkStep, pairStep]
      cases judge row (here.current.map RouteHealthRow.statuses) with
      | error reason => rfl
      | ok outcome =>
          change ((state.1.record key outcome >>= fun recorded =>
            pure (recorded, here)) >>= fun next =>
              rest.foldlM (walkStep key judge) next).map Prod.fst =
            state.1.record key outcome >>= fun next =>
              (withHealth here rest).foldlM (pairStep key judge) next
          cases state.1.record key outcome with
          | error reason => rfl
          | ok recorded => exact ih (recorded, here)

end Loop

/-- The walk judges the pairs that it makes, and nothing else of it reaches the outcome. -/
theorem evaluateMarketSnapshotRows_eq (key : RunKey) (rows : List MarketSnapshot)
    (healthRows : List RouteHealthRow) (params : JsonObject) :
    evaluateMarketSnapshotRows key rows healthRows params =
      replaySearched key params (snapshotRows rows healthRows) := by
  unfold evaluateMarketSnapshotRows replaySearched
  refine bind_congr fun gates => bind_congr fun defaults => ?_
  have looped := foldlM_walkStep key (snapshotOutcome gates defaults params)
    (rows.filter fun row => row.context = "leg_b")
    ({}, { current := none
           ahead := healthRows.insertionSort fun first second =>
             first.timestamp ≤ second.timestamp })
  have lengths : (snapshotRows rows healthRows).length =
      (rows.filter fun row => row.context = "leg_b").length := length_withHealth _ _
  rw [lengths]
  change _ = ((snapshotRows rows healthRows).foldlM
    (pairStep key (snapshotOutcome gates defaults params)) {}) >>= _
  rw [snapshotRows, ← looped]
  change ((rows.filter fun row => row.context = "leg_b").foldlM
    (walkStep key (snapshotOutcome gates defaults params)) _) >>= _ = _
  cases (rows.filter fun row => row.context = "leg_b").foldlM
    (walkStep key (snapshotOutcome gates defaults params)) _ <;> rfl

/-! ### The join -/

theorem latestHealth_eq_none {healthRows : List RouteHealthRow} {timestamp : Instant} :
    latestHealth healthRows timestamp = none ↔
      ∀ health ∈ healthRows, timestamp < health.timestamp := by
  rw [latestHealth, asOf_eq_none]
  simp only [inOrder, List.mem_insertionSort, not_le]

/-- The pointer of the snapshot loop stands, at each candidate, at the row that a search for that
candidate alone finds: the last one of the latest time that is not after it. -/
theorem health_join_is_asOf (key : RunKey) (rows : List MarketSnapshot)
    (healthRows : List RouteHealthRow) (params : JsonObject)
    (ordered : rows.Pairwise fun first second => first.timestamp ≤ second.timestamp) :
    snapshotRows rows healthRows = searchedRows rows healthRows ∧
      evaluateMarketSnapshotRows key rows healthRows params =
        replaySearched key params (searchedRows rows healthRows) ∧
      ∀ row ∈ rows,
        (∀ health, latestHealth healthRows row.timestamp = some health ↔
          IsAsOf RouteHealthRow.timestamp healthRows row.timestamp health) ∧
        (latestHealth healthRows row.timestamp = none ↔
          ∀ health ∈ healthRows, row.timestamp < health.timestamp) := by
  have pairs := snapshotRows_eq_searchedRows healthRows ordered
  refine ⟨pairs, ?_, fun row _member => ⟨fun health => asOf_inOrder, latestHealth_eq_none⟩⟩
  rw [evaluateMarketSnapshotRows_eq, pairs]

/-! ### Statuses beside a health row -/

/-- Nothing that a row says of itself speaks against it. -/
structure Statuses.NoneNegative (own : Statuses) : Prop where
  support : own.support ≠ .unsupported
  quoteMatch : own.quoteMatch ≠ .mismatch
  balance : own.balance ≠ .mismatch
  available : own.quoteUnavailable = false

/-- A status that was known has not gone up. -/
structure Statuses.FilledOrTightened (own merged : Statuses) : Prop where
  fee : own.fee = .unknown ∨ merged.fee.rank ≤ own.fee.rank
  balance : own.balance = .unknown ∨ merged.balance.rank ≤ own.balance.rank
  quoteMatch : own.quoteMatch = .unknown ∨ merged.quoteMatch.rank ≤ own.quoteMatch.rank
  support : own.support = .unknown ∨ merged.support.rank ≤ own.support.rank
  available : merged.quoteUnavailable = own.quoteUnavailable

/-- A replay of one snapshot beside health rows admits it only on its own word, and the health
row that is current at it only fills in or tightens. -/
def HealthNeverRelaxes (row : MarketSnapshot) (healthRows : List RouteHealthRow) : Prop :=
  ∀ own, payloadStatuses row.metadata = .ok own →
    (∀ key params finished,
      evaluateMarketSnapshotRows key [row] healthRows params = .ok finished →
      finished.1.eligibleCount ≠ 0 → own.NoneNegative) ∧
    ∀ pair ∈ snapshotRows [row] healthRows, ∀ merged,
      snapshotStatuses row.metadata pair.2 = .ok merged → own.FilledOrTightened merged

/-- The row reports itself unsupported, and the current health row reports support. -/
def SupportLifted (row : MarketSnapshot) (healthRows : List RouteHealthRow) : Prop :=
  row.context = "leg_b" ∧
    ∃ own health, payloadStatuses row.metadata = .ok own ∧ own.support = .unsupported ∧
      latestHealth healthRows row.timestamp = some health ∧
      normalizeSupportStatus health.statuses.supportStatus = .supported

theorem snapshotRows_singleton (row : MarketSnapshot) (healthRows : List RouteHealthRow)
    (candidate : row.context = "leg_b") :
    snapshotRows [row] healthRows =
      [(row, (latestHealth healthRows row.timestamp).map RouteHealthRow.statuses)] := by
  rw [snapshotRows_eq_searchedRows healthRows (List.pairwise_singleton _ _)]
  simp only [searchedRows, List.filter_cons, candidate, decide_true, if_true, List.filter_nil,
    List.map_cons, List.map_nil]

theorem context_of_mem_snapshotRows {row : MarketSnapshot} {healthRows : List RouteHealthRow}
    {pair : MarketSnapshot × Option RouteHealth} (member : pair ∈ snapshotRows [row] healthRows) :
    row.context = "leg_b" := by
  by_contra other
  rw [snapshotRows, List.filter_cons_of_neg (by simpa using other)] at member
  exact List.not_mem_nil member

section Merge

variable {own : Statuses}

theorem snapshotStatuses_eq {metadata : JsonObject} (health : Option RouteHealth)
    (stored : payloadStatuses metadata = .ok own) :
    snapshotStatuses metadata health = .ok (health.elim own own.withHealth).settleSupport := by
  simp only [snapshotStatuses, stored, bind, Except.bind, pure, Except.pure]

/-- An unavailable quote settles an unknown support, and nothing else. -/
theorem settleSupport_eq (read : Statuses) :
    read.settleSupport = { read with support := read.settleSupport.support } := by
  unfold Statuses.settleSupport
  split <;> rfl

theorem settleSupport_of_known {read : Statuses} (known : read.support ≠ .unknown) :
    read.settleSupport = read :=
  if_neg fun both => known both.2

theorem withHealth_support (health : RouteHealth) (known : own.support ≠ .unknown) :
    (own.withHealth health).settleSupport.support =
      if normalizeSupportStatus health.supportStatus = .unknown then own.support
      else normalizeSupportStatus health.supportStatus := by
  have merged : (own.withHealth health).support =
      if normalizeSupportStatus health.supportStatus = .unknown then own.support
      else normalizeSupportStatus health.supportStatus := by
    simp only [Statuses.withHealth, known, or_false, ite_not]
  rw [settleSupport_of_known, merged]
  rw [merged]
  split
  · exact known
  · assumption

/-- Of the four statuses only support can go up, and only from unsupported. -/
theorem withHealth_filledOrTightened_iff (health : RouteHealth) :
    own.FilledOrTightened (own.withHealth health).settleSupport ↔
      ¬(own.support = .unsupported ∧
        normalizeSupportStatus health.supportStatus = .supported) := by
  constructor
  · intro tightened lifted
    have known : own.support ≠ .unknown := by
      rw [lifted.1]
      decide
    have merged := withHealth_support health known
    rw [lifted.1, lifted.2] at merged
    have support := tightened.support
    rw [merged, lifted.1] at support
    exact absurd support (by decide)
  · intro notLifted
    rw [settleSupport_eq]
    refine ⟨?_, ?_, ?_, ?_, rfl⟩
    · exact or_iff_not_imp_left.mpr fun known => le_of_eq (congrArg _ (if_neg known))
    · exact or_iff_not_imp_left.mpr fun known => le_of_eq (congrArg _ (if_neg known))
    · exact or_iff_not_imp_left.mpr fun known => le_of_eq (congrArg _ (if_neg known))
    · refine or_iff_not_imp_left.mpr fun known => ?_
      change (own.withHealth health).settleSupport.support.rank ≤ own.support.rank
      rw [withHealth_support health known]
      cases supported : normalizeSupportStatus health.supportStatus <;>
        cases ownSupport : own.support <;> simp_all [SupportStatus.rank]

theorem merged_filledOrTightened_iff (health : Option RouteHealth) :
    own.FilledOrTightened (health.elim own own.withHealth).settleSupport ↔
      ¬(own.support = .unsupported ∧ ∃ current, health = some current ∧
        normalizeSupportStatus current.supportStatus = .supported) := by
  cases health with
  | none =>
      refine iff_of_true ?_ (by simp)
      change own.FilledOrTightened own.settleSupport
      rw [settleSupport_eq]
      refine ⟨.inr le_rfl, .inr le_rfl, .inr le_rfl, ?_, rfl⟩
      refine or_iff_not_imp_left.mpr fun known => ?_
      rw [settleSupport_of_known known]
  | some current =>
      change own.FilledOrTightened (own.withHealth current).settleSupport ↔ _
      rw [withHealth_filledOrTightened_iff]
      simp

/-- What passes the guards on statuses that have not gone up passed them on its own word. -/
theorem noneNegative_of_passes {merged : Statuses} {params payload : JsonObject}
    (tightened : own.FilledOrTightened merged)
    (support : ∀ guard ∈ supportGuards merged, guard.passes = true)
    (quoteMatch : ∀ guard ∈ quoteMatchGuards merged, guard.passes = true)
    (balance : ∀ guard ∈ balanceGuards merged params payload, guard.passes = true) :
    own.NoneNegative := by
  simp only [supportGuards, quoteMatchGuards, balanceGuards, guard, List.forall_mem_cons,
    decide_eq_true_eq, Bool.and_eq_true, Bool.not_eq_true'] at support quoteMatch balance
  have available := tightened.available
  refine ⟨fun negative => ?_, fun negative => ?_, fun negative => ?_, ?_⟩
  · have bound := tightened.support
    cases known : merged.support <;> simp_all [SupportStatus.rank]
  · have bound := tightened.quoteMatch
    cases known : merged.quoteMatch <;> simp_all [QuoteMatch.rank]
  · have bound := tightened.balance
    cases known : merged.balance <;> simp_all [BalanceConfidence.rank]
  · rw [← available]
    exact support.1.1

end Merge

/-- A replay that counts an eligible row has judged one so. -/
theorem eligible_of_replayed {ρ : Type} {key : RunKey} {judge : ρ → Except String RowOutcome}
    {rows : List ρ} {finished : Finished} {outcomes : List RowOutcome}
    (replayed : Replayed key judge rows finished outcomes)
    (counted : finished.1.eligibleCount ≠ 0) :
    ∃ row ∈ rows, ∃ outcome fill, judge row = .ok outcome ∧ outcome.verdict = .inr fill := by
  have count : finished.1.eligibleCount = (fills outcomes).length := by
    obtain ⟨totals, accounts, reported, -⟩ := replayed.accounts
    rw [reported.eligible, accounts.eligible]
  rw [count] at counted
  obtain ⟨fill, filled⟩ := List.exists_mem_of_length_pos (Nat.pos_of_ne_zero counted)
  obtain ⟨outcome, member, verdict⟩ := List.mem_filterMap.mp filled
  obtain ⟨index, bound, rfl⟩ := List.getElem_of_mem member
  have here : index < rows.length := by
    rw [replayed.judged.length_eq]
    exact bound
  exact ⟨rows[index], List.getElem_mem here, outcomes[index], fill,
    replayed.judged.get here bound, Sum.getRight?_eq_some_iff.mp verdict⟩

/-- Health context relaxes a row exactly when it lifts an unsupported one. -/
theorem health_never_relaxes_iff (row : MarketSnapshot) (healthRows : List RouteHealthRow) :
    HealthNeverRelaxes row healthRows ↔ ¬SupportLifted row healthRows := by
  constructor
  · intro never lifted
    obtain ⟨candidate, own, health, stored, unsupported, current, supported⟩ := lifted
    obtain ⟨-, tightens⟩ := never own stored
    have tightened := tightens (row, some health.statuses)
      (by rw [snapshotRows_singleton row healthRows candidate, current]; exact List.mem_cons_self)
      _ (snapshotStatuses_eq (some health.statuses) stored)
    exact merged_filledOrTightened_iff (some health.statuses) |>.mp tightened
      ⟨unsupported, health.statuses, rfl, supported⟩
  · intro notLifted own stored
    have tightens : ∀ pair ∈ snapshotRows [row] healthRows, ∀ merged,
        snapshotStatuses row.metadata pair.2 = .ok merged → own.FilledOrTightened merged := by
      intro pair member merged merges
      have candidate := context_of_mem_snapshotRows member
      rw [snapshotRows_singleton row healthRows candidate, List.mem_singleton] at member
      cases member
      cases (snapshotStatuses_eq _ stored).symm.trans merges
      rw [merged_filledOrTightened_iff]
      intro lifted
      obtain ⟨unsupported, current, found, supported⟩ := lifted
      obtain ⟨health, latest, rfl⟩ := Option.map_eq_some_iff.mp found
      exact notLifted ⟨candidate, own, health, stored, unsupported, latest, supported⟩
    refine ⟨fun key params finished done counted => ?_, tightens⟩
    obtain ⟨gates, defaults, outcomes, -, -, replayed⟩ := replayed_of_snapshots done
    obtain ⟨pair, member, outcome, fill, judged, eligible⟩ :=
      eligible_of_replayed replayed counted
    have candidate := context_of_mem_snapshotRows member
    have same : pair.1 = row := by
      rw [snapshotRows_singleton row healthRows candidate, List.mem_singleton] at member
      rw [member]
    obtain ⟨reading, read, passed⟩ := snapshotOutcome_eligible judged eligible
    obtain ⟨passes, -, -⟩ := snapshotChecks_passed.mp passed
    rw [same] at read passes
    simp only [snapshotGuards, List.forall_mem_append] at passes
    obtain ⟨⟨⟨support, -⟩, balance⟩, quoteMatch⟩ := passes
    have tightened := tightens pair member _ (readSnapshot_readFrom read).statuses
    exact noneNegative_of_passes tightened support quoteMatch balance

end BacktestEngine

/-! ### Snapshots beside a history of three health rows -/

namespace Sample

open BacktestEngine

def healthRow (timestamp : Instant) (supportStatus : String) : RouteHealthRow :=
  { timestamp := timestamp
    statuses :=
      { supportStatus := some supportStatus, feeKnownStatus := none, balanceMatchStatus := none
        quoteMatchStatus := none, cooldownActive := false } }

def healthHistory : List RouteHealthRow :=
  [healthRow 30 "unknown", healthRow 20 "unsupported", healthRow 20 "supported"]

def snapshotAt (timestamp : Instant) (supportStatus : String) : MarketSnapshot :=
  { timestamp := timestamp, context := "leg_b", amountIn := .finite 100
    quotedAmountOut := .finite 101, liquidityUsd := .finite 1000000, quoteAgeSeconds := .finite 1
    metadata :=
      [("fee_known_status", .text "chain_verified"),
        ("balance_match_status", .text "wallet_verified"),
        ("quote_match_status", .text "matched"), ("support_status", .text supportStatus)] }

def snapshotsInOrder : List MarketSnapshot :=
  [snapshotAt 10 "unknown", snapshotAt 20 "unknown", snapshotAt 29 "supported"]

end Sample

theorem BacktestEngine.health_join_is_asOf_sample :
    evaluateMarketSnapshotRows Sample.runKey Sample.snapshotsInOrder Sample.healthHistory [] =
        replaySearched Sample.runKey []
          (searchedRows Sample.snapshotsInOrder Sample.healthHistory) ∧
      latestHealth Sample.healthHistory 10 = none ∧
      IsAsOf RouteHealthRow.timestamp Sample.healthHistory 20
        (Sample.healthRow 20 "supported") := by
  have joined := health_join_is_asOf Sample.runKey Sample.snapshotsInOrder Sample.healthHistory []
    (by decide)
  obtain ⟨-, replayed, found⟩ := joined
  refine ⟨replayed, ?_, ?_⟩
  · exact (found (Sample.snapshotAt 10 "unknown") (by simp [Sample.snapshotsInOrder])).2.mpr
      (by decide)
  · exact ((found (Sample.snapshotAt 20 "unknown") (by simp [Sample.snapshotsInOrder])).1 _).mp
      (by rfl)

/-- A row stored as unsupported, beside a health row that reports support. -/
theorem BacktestEngine.health_lifts_an_unsupported_row :
    ¬HealthNeverRelaxes (Sample.snapshotAt 20 "unsupported") Sample.healthHistory := by
  intro never
  have stored : payloadStatuses (Sample.snapshotAt 20 "unsupported").metadata =
      .ok ⟨.chainVerified, .walletVerified, .matched, .unsupported, false⟩ := by rfl
  obtain ⟨admittedOnOwnWord, -⟩ := never _ stored
  have runs : (evaluateMarketSnapshotRows Sample.runKey [Sample.snapshotAt 20 "unsupported"]
      Sample.healthHistory Sample.tenBps).toOption.any
        (fun finished => finished.1.eligibleCount ≠ 0) = true := by
    decide +kernel
  obtain ⟨finished, done, counted⟩ := ok_of_any runs
  have own :=
    admittedOnOwnWord Sample.runKey Sample.tenBps finished done (of_decide_eq_true counted)
  exact own.support rfl

end ArbitrageBot
