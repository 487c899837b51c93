/-
What the totals of a replay say about its rows: each figure is that of the list
of row outcomes, in whichever loop they were added up.
-/

import ArbitrageBot.Backtest.Replay
import ArbitrageBot.QuoteEngine.Engine

namespace ArbitrageBot

open Fallible PythonDecimal PythonJson RunningRisk Tally

namespace BacktestEngine

/-! ### A loop that judges and records -/

abbrev Judged {ρ : Type} (judge : ρ → Except String RowOutcome) (rows : List ρ)
    (outcomes : List RowOutcome) : Prop :=
  List.Forall₂ (fun row outcome => judge row = .ok outcome) rows outcomes

def totalsOf (key : RunKey) (outcomes : List RowOutcome) : Except String Totals :=
  outcomes.foldlM (Totals.record key) {}

theorem foldlM_judged {ρ : Type} {key : RunKey} {judge : ρ → Except String RowOutcome}
    {rows : List ρ} {start final : Totals}
    (finished :
      rows.foldlM (fun totals row => do
        let outcome ← judge row
        totals.record key outcome) start = Except.ok final) :
    ∃ outcomes, Judged judge rows outcomes ∧
      outcomes.foldlM (Totals.record key) start = .ok final := by
  induction rows generalizing start with
  | nil =>
      cases finished
      exact ⟨[], .nil, rfl⟩
  | cons row rest ih =>
      rw [List.foldlM_cons] at finished
      obtain ⟨next, here, finished⟩ := bind_eq_ok.mp finished
      obtain ⟨outcome, judged, recorded⟩ := bind_eq_ok.mp here
      obtain ⟨outcomes, others, totalled⟩ := ih finished
      refine ⟨outcome :: outcomes, .cons judged others, ?_⟩
      rw [List.foldlM_cons, recorded]
      exact totalled

def withHealth : HealthCursor → List MarketSnapshot → List (MarketSnapshot × Option RouteHealth)
  | _, [] => []
  | cursor, row :: rest =>
      let cursor := HealthCursor.advance row.timestamp cursor.current cursor.ahead
      (row, cursor.current.map RouteHealthRow.statuses) :: withHealth cursor rest

theorem foldlM_judged_withHealth {key : RunKey}
    {judge : MarketSnapshot → Option RouteHealth → Except String RowOutcome}
    {rows : List MarketSnapshot} {start final : Totals × HealthCursor}
    (finished :
      rows.foldlM (fun (totals, cursor) row => do
        let cursor := HealthCursor.advance row.timestamp cursor.current cursor.ahead
        let outcome ← judge row (cursor.current.map RouteHealthRow.statuses)
        let recorded ← totals.record key outcome
        return (recorded, cursor)) start = Except.ok final) :
    ∃ outcomes, Judged (fun pair => judge pair.1 pair.2) (withHealth start.2 rows) outcomes ∧
      outcomes.foldlM (Totals.record key) start.1 = .ok final.1 := by
  induction rows generalizing start with
  | nil =>
      cases finished
      exact ⟨[], .nil, rfl⟩
  | cons row rest ih =>
      obtain ⟨totals, cursor⟩ := start
      rw [List.foldlM_cons] at finished
      obtain ⟨next, here, finished⟩ := bind_eq_ok.mp finished
      obtain ⟨outcome, judged, here⟩ := bind_eq_ok.mp here
      obtain ⟨recorded, counted, here⟩ := bind_eq_ok.mp here
      cases here
      obtain ⟨outcomes, others, totalled⟩ := ih finished
      refine ⟨outcome :: outcomes, .cons judged others, ?_⟩
      rw [List.foldlM_cons, counted]
      exact totalled

/-! ### Finished replays -/

def snapshotRows (rows : List MarketSnapshot) (healthRows : List RouteHealthRow) :
    List (MarketSnapshot × Option RouteHealth) :=
  withHealth
    { current := none
      ahead := healthRows.insertionSort fun first second => first.timestamp ≤ second.timestamp }
    (rows.filter fun row => row.context = "leg_b")

theorem length_withHealth (cursor : HealthCursor) (rows : List MarketSnapshot) :
    (withHealth cursor rows).length = rows.length := by
  induction rows generalizing cursor with
  | nil => rfl
  | cons row rest ih => simp only [withHealth, List.length_cons, ih]

/-- A finished replay of either kind reports the totals of its rows' outcomes. -/
structure Replayed {ρ : Type} (key : RunKey) (judge : ρ → Except String RowOutcome) (rows : List ρ)
    (finished : Finished) (outcomes : List RowOutcome) : Prop where
  judged : Judged judge rows outcomes
  totalled : ∃ totals, totalsOf key outcomes = .ok totals ∧
    finalizeOutcome outcomes.length totals = .ok finished.1 ∧ finished.2 = totals.trades

theorem replayed_of_opportunities {key : RunKey} {rows : List OpportunityRow}
    {params : JsonObject} {legacySupportFallback : Bool} {finished : Finished}
    (done : evaluateOpportunityRows key rows params legacySupportFallback = .ok finished) :
    ∃ gates outcomes, Gates.read params = .ok gates ∧
      Replayed key (opportunityOutcome gates params legacySupportFallback) rows finished
        outcomes := by
  obtain ⟨gates, read, done⟩ := bind_eq_ok.mp done
  obtain ⟨totals, looped, done⟩ := bind_eq_ok.mp done
  obtain ⟨report, finalized, done⟩ := bind_eq_ok.mp done
  obtain ⟨outcomes, judged, totalled⟩ := foldlM_judged looped
  cases done
  rw [judged.length_eq] at finalized
  exact ⟨gates, outcomes, read, judged, totals, totalled, finalized, rfl⟩

theorem replayed_of_snapshots {key : RunKey} {rows : List MarketSnapshot}
    {healthRows : List RouteHealthRow} {params : JsonObject} {finished : Finished}
    (done : evaluateMarketSnapshotRows key rows healthRows params = .ok finished) :
    ∃ gates defaults outcomes, Gates.read params = .ok gates ∧
      SnapshotDefaults.read params = .ok defaults ∧
      Replayed key (fun pair => snapshotOutcome gates defaults params pair.1 pair.2)
        (snapshotRows rows healthRows) finished outcomes := by
  obtain ⟨gates, read, done⟩ := bind_eq_ok.mp done
  obtain ⟨defaults, readDefaults, done⟩ := bind_eq_ok.mp done
  obtain ⟨⟨totals, cursor⟩, looped, done⟩ := bind_eq_ok.mp done
  obtain ⟨report, finalized, done⟩ := bind_eq_ok.mp done
  obtain ⟨outcomes, judged, totalled⟩ := foldlM_judged_withHealth looped
  cases done
  have lengths := judged.length_eq
  rw [length_withHealth] at lengths
  rw [lengths] at finalized
  exact ⟨gates, defaults, outcomes, read, readDefaults, judged, totals, totalled, finalized, rfl⟩

/-- A property of every finished replay of either loop, beside its rows' outcomes. -/
def InBothLoops (property : RunKey → Finished → List RowOutcome → Prop) : Prop :=
  (∀ key rows params legacySupportFallback finished,
    evaluateOpportunityRows key rows params legacySupportFallback = .ok finished →
    ∃ gates outcomes, Gates.read params = .ok gates ∧
      Judged (opportunityOutcome gates params legacySupportFallback) rows outcomes ∧
      property key finished outcomes) ∧
  (∀ key rows healthRows params finished,
    evaluateMarketSnapshotRows key rows healthRows params = .ok finished →
    ∃ gates defaults outcomes, Gates.read params = .ok gates ∧
      SnapshotDefaults.read params = .ok defaults ∧
      Judged (fun pair => snapshotOutcome gates defaults params pair.1 pair.2)
        (snapshotRows rows healthRows) outcomes ∧
      property key finished outcomes)

theorem inBothLoops_of_replayed {property : RunKey → Finished → List RowOutcome → Prop}
    (holds : ∀ {ρ : Type} {key : RunKey} {judge : ρ → Except String RowOutcome} {rows : List ρ}
      {finished : Finished} {outcomes : List RowOutcome},
      Replayed key judge rows finished outcomes → property key finished outcomes) :
    InBothLoops property := by
  constructor
  · intro key rows params legacySupportFallback finished done
    obtain ⟨gates, outcomes, read, replayed⟩ := replayed_of_opportunities done
    exact ⟨gates, outcomes, read, replayed.judged, holds replayed⟩
  · intro key rows healthRows params finished done
    obtain ⟨gates, defaults, outcomes, read, readDefaults, replayed⟩ :=
      replayed_of_snapshots done
    exact ⟨gates, defaults, outcomes, read, readDefaults, replayed.judged, holds replayed⟩

/-! ### Totals of outcomes -/

def refusals (outcomes : List RowOutcome) : List Refusal :=
  outcomes.filterMap fun outcome => outcome.verdict.getLeft?

def fills (outcomes : List RowOutcome) : List Fill :=
  outcomes.filterMap fun outcome => outcome.verdict.getRight?

def eligibleEdges (outcomes : List RowOutcome) : List Decimal :=
  outcomes.filterMap fun outcome => outcome.verdict.getRight?.map fun _ => outcome.modeledEdgeBps

def eligiblePnls (outcomes : List RowOutcome) : List Decimal :=
  (fills outcomes).map Fill.simulatedPnl

/-- The six figures that a replay keeps of the penalties. -/
def penaltyParts : List (Penalties → Decimal) :=
  [ Penalties.gas, Penalties.quoteDrift, Penalties.latency, Penalties.fallbackFee,
    Penalties.unverifiedFee, Penalties.unverifiedBalance ]

/-- What each of the rows that are eligible charges under one head. -/
def chargedUnder (part : Penalties → Decimal) (outcomes : List RowOutcome) : List Decimal :=
  (fills outcomes).map fun fill => part fill.charges.penalties

/-! ### One row more -/

section Steps

variable {key : RunKey} {totals next : Totals} {outcome : RowOutcome} {trade : BacktestTrade}

theorem add_penalties {sums penalties added : Penalties} (ok : sums.add penalties = .ok added) :
    ∀ part ∈ penaltyParts, (part sums).add (part penalties) = .ok (part added) := by
  obtain ⟨gas, addedGas, ok⟩ := bind_eq_ok.mp ok
  obtain ⟨quoteDrift, addedQuoteDrift, ok⟩ := bind_eq_ok.mp ok
  obtain ⟨latency, addedLatency, ok⟩ := bind_eq_ok.mp ok
  obtain ⟨fallbackFee, addedFallbackFee, ok⟩ := bind_eq_ok.mp ok
  obtain ⟨unverifiedFee, addedUnverifiedFee, ok⟩ := bind_eq_ok.mp ok
  obtain ⟨unverifiedBalance, addedUnverifiedBalance, ok⟩ := bind_eq_ok.mp ok
  cases ok
  simp only [penaltyParts, List.forall_mem_cons]
  exact ⟨addedGas, addedQuoteDrift, addedLatency, addedFallbackFee, addedUnverifiedFee,
    addedUnverifiedBalance, by simp⟩

theorem fill_eq_ok {fill : Fill} {modeledEdgeBps : Decimal}
    (filled : totals.fill fill modeledEdgeBps = .ok next) :
    ∃ gain, totals.penaltyTotals.add fill.charges.penalties = .ok next.penaltyTotals ∧
      Decimal.isLess 0 fill.simulatedPnl = .ok gain ∧
      totals.modeledEdgeSum.add modeledEdgeBps = .ok next.modeledEdgeSum ∧
      totals.realizedLikeSum.add fill.simulatedPnl = .ok next.realizedLikeSum ∧
      totals.risk.add decimalArithmetic fill.simulatedPnl = .ok next.risk ∧
      next =
        { totals with
          eligibleCount := totals.eligibleCount + 1
          positiveFills := if gain = true then totals.positiveFills + 1 else totals.positiveFills
          penaltyTotals := next.penaltyTotals
          modeledEdgeSum := next.modeledEdgeSum
          realizedLikeSum := next.realizedLikeSum
          risk := next.risk } := by
  obtain ⟨penaltyTotals, added, filled⟩ := bind_eq_ok.mp filled
  obtain ⟨gain, compared, filled⟩ := bind_eq_ok.mp filled
  obtain ⟨modeledEdgeSum, addedEdge, filled⟩ := bind_eq_ok.mp filled
  obtain ⟨realizedLikeSum, addedPnl, filled⟩ := bind_eq_ok.mp filled
  obtain ⟨risk, risked, filled⟩ := bind_eq_ok.mp filled
  cases filled
  exact ⟨gain, added, compared, addedEdge, addedPnl, risked, rfl⟩

theorem record_eq_ok (recorded : totals.record key outcome = .ok next) :
    ∃ judged trade, (totals.counted outcome).judged outcome = .ok judged ∧
      outcome.trade key = .ok trade ∧
      next = { judged with trades := judged.trades ++ [trade] } := by
  obtain ⟨judged, counted, recorded⟩ := bind_eq_ok.mp recorded
  obtain ⟨trade, inserted, recorded⟩ := bind_eq_ok.mp recorded
  cases recorded
  exact ⟨judged, trade, counted, inserted, rfl⟩

theorem trade_eq_ok (inserted : outcome.trade key = .ok trade) :
    trade.backtestRunId = key.runId ∧
      trade.status = outcome.verdict.elim (fun _ => "blocked") (fun _ => "eligible") ∧
      key.columns.decimal18_8 (outcome.verdict.elim (fun _ => 0) Fill.simulatedPnl) =
        .ok trade.simulatedPnl := by
  obtain ⟨modeledEdgeBps, -, inserted⟩ := bind_eq_ok.mp inserted
  obtain ⟨expectedPnl, -, inserted⟩ := bind_eq_ok.mp inserted
  obtain ⟨simulatedPnl, kept, inserted⟩ := bind_eq_ok.mp inserted
  cases inserted
  exact ⟨rfl, rfl, kept⟩

end Steps

/-! ### All rows -/

structure Accounts (key : RunKey) (outcomes : List RowOutcome) (totals : Totals) : Prop where
  eligible : totals.eligibleCount = (fills outcomes).length
  blocked : totals.blockedCount = (refusals outcomes).length
  reasons : Tally.total totals.blockedReasons = (refusals outcomes).length
  fees : Tally.total totals.feeDistribution = outcomes.length
  balances : Tally.total totals.balanceDistribution = outcomes.length
  gains : totals.positiveFills = (eligiblePnls outcomes).countP fun pnl => 0 < pnl
  penalties : ∀ part ∈ penaltyParts,
    RunningRisk.total decimalArithmetic (chargedUnder part outcomes) =
      .ok (part totals.penaltyTotals)
  edges : RunningRisk.total decimalArithmetic (eligibleEdges outcomes) =
    .ok totals.modeledEdgeSum
  realized : RunningRisk.total decimalArithmetic (eligiblePnls outcomes) =
    .ok totals.realizedLikeSum
  risk : (eligiblePnls outcomes).foldlM (Risk.add decimalArithmetic) .start = .ok totals.risk
  trades : List.Forall₂ (fun outcome trade => outcome.trade key = .ok trade) outcomes totals.trades

theorem Accounts.start (key : RunKey) : Accounts key [] {} := by
  refine ⟨rfl, rfl, rfl, rfl, rfl, rfl, ?_, rfl, rfl, rfl, .nil⟩
  simp only [penaltyParts, List.forall_mem_cons]
  exact ⟨rfl, rfl, rfl, rfl, rfl, rfl, by simp⟩

theorem forall₂_concat {α β : Type} {related : α → β → Prop} {firsts : List α} {seconds : List β}
    {first : α} {second : β} (all : List.Forall₂ related firsts seconds)
    (last : related first second) :
    List.Forall₂ related (firsts ++ [first]) (seconds ++ [second]) :=
  List.rel_append all (.cons last .nil)

theorem forall₂_eraseIdx {α β : Type} {related : α → β → Prop} {firsts : List α}
    {seconds : List β} (all : List.Forall₂ related firsts seconds) (index : Nat) :
    List.Forall₂ related (firsts.eraseIdx index) (seconds.eraseIdx index) := by
  induction all generalizing index with
  | nil => exact .nil
  | cons here rest ih =>
      cases index with
      | zero => exact rest
      | succ index => exact .cons here (ih index)

section Record

variable {key : RunKey} {outcomes : List RowOutcome} {totals next : Totals} {outcome : RowOutcome}

theorem Accounts.record_refusal {refusal : Refusal} (accounts : Accounts key outcomes totals)
    (verdict : outcome.verdict = .inl refusal) (recorded : totals.record key outcome = .ok next) :
    Accounts key (outcomes ++ [outcome]) next := by
  obtain ⟨judged, trade, counted, inserted, rfl⟩ := record_eq_ok recorded
  rw [Totals.judged, verdict] at counted
  cases counted
  have noFill : fills (outcomes ++ [outcome]) = fills outcomes := by simp [fills, verdict]
  have oneRefusal : refusals (outcomes ++ [outcome]) = refusals outcomes ++ [refusal] := by
    simp [refusals, verdict]
  have sameCharges : ∀ part, chargedUnder part (outcomes ++ [outcome]) =
      chargedUnder part outcomes := fun part => by rw [chargedUnder, noFill, chargedUnder]
  have samePnls : eligiblePnls (outcomes ++ [outcome]) = eligiblePnls outcomes := by
    rw [eligiblePnls, noFill, eligiblePnls]
  have sameEdges : eligibleEdges (outcomes ++ [outcome]) = eligibleEdges outcomes := by
    simp [eligibleEdges, verdict]
  refine ⟨?_, ?_, ?_, ?_, ?_, ?_, ?_, ?_, ?_, ?_, forall₂_concat accounts.trades inserted⟩
  · rw [noFill]
    exact accounts.eligible
  · simp [Totals.block, Totals.counted, oneRefusal, accounts.blocked]
  · simp [Totals.block, Totals.counted, oneRefusal, accounts.reasons, total_bump]
  · simp [Totals.block, Totals.counted, accounts.fees, total_bump]
  · simp [Totals.block, Totals.counted, accounts.balances, total_bump]
  · rw [samePnls]
    exact accounts.gains
  · intro part known
    rw [sameCharges]
    exact accounts.penalties part known
  · rw [sameEdges]
    exact accounts.edges
  · rw [samePnls]
    exact accounts.realized
  · rw [samePnls]
    exact accounts.risk

theorem Accounts.record_fill {fill : Fill} (accounts : Accounts key outcomes totals)
    (verdict : outcome.verdict = .inr fill) (recorded : totals.record key outcome = .ok next) :
    Accounts key (outcomes ++ [outcome]) next := by
  obtain ⟨judged, trade, counted, inserted, rfl⟩ := record_eq_ok recorded
  rw [Totals.judged, verdict] at counted
  obtain ⟨gain, added, compared, addedEdge, addedPnl, risked, same⟩ := fill_eq_ok counted
  have oneFill : fills (outcomes ++ [outcome]) = fills outcomes ++ [fill] := by
    simp [fills, verdict]
  have noRefusal : refusals (outcomes ++ [outcome]) = refusals outcomes := by
    simp [refusals, verdict]
  have pnls : eligiblePnls (outcomes ++ [outcome]) =
      eligiblePnls outcomes ++ [fill.simulatedPnl] := by
    rw [eligiblePnls, oneFill, List.map_append, List.map_singleton, eligiblePnls]
  have edges : eligibleEdges (outcomes ++ [outcome]) =
      eligibleEdges outcomes ++ [outcome.modeledEdgeBps] := by
    simp [eligibleEdges, verdict]
  refine ⟨?_, ?_, ?_, ?_, ?_, ?_, ?_, ?_, ?_, ?_, ?_⟩
  · rw [same]
    simp [Totals.counted, oneFill, accounts.eligible]
  · rw [same, noRefusal]
    exact accounts.blocked
  · rw [same, noRefusal]
    exact accounts.reasons
  · rw [same]
    simp [Totals.counted, accounts.fees, total_bump]
  · rw [same]
    simp [Totals.counted, accounts.balances, total_bump]
  · rw [same, pnls, List.countP_append, List.countP_singleton, ← accounts.gains]
    cases gain with
    | true => simp [Totals.counted, Decimal.isLess_eq_true.mp compared]
    | false =>
        have noGain := (Decimal.isLess_eq_false.mp compared).1.not_gt
        simp [Totals.counted, noGain]
  · intro part known
    have charged : chargedUnder part (outcomes ++ [outcome]) =
        chargedUnder part outcomes ++ [part fill.charges.penalties] := by
      rw [chargedUnder, oneFill, List.map_append, List.map_singleton, chargedUnder]
    rw [charged]
    exact foldlM_concat_eq_ok.mpr
      ⟨_, accounts.penalties part known, add_penalties added part known⟩
  · rw [edges]
    exact foldlM_concat_eq_ok.mpr ⟨_, accounts.edges, addedEdge⟩
  · rw [pnls]
    exact foldlM_concat_eq_ok.mpr ⟨_, accounts.realized, addedPnl⟩
  · rw [pnls]
    exact foldlM_concat_eq_ok.mpr ⟨_, accounts.risk, risked⟩
  · rw [same]
    exact forall₂_concat accounts.trades inserted

end Record

theorem accounts_of_totals {key : RunKey} {outcomes : List RowOutcome} {totals : Totals}
    (totalled : totalsOf key outcomes = .ok totals) : Accounts key outcomes totals := by
  induction outcomes using List.reverseRecOn generalizing totals with
  | nil =>
      cases totalled
      exact Accounts.start key
  | append_singleton earlier outcome ih =>
      obtain ⟨before, first, recorded⟩ := foldlM_concat_eq_ok.mp totalled
      cases verdict : outcome.verdict with
      | inl refusal => exact (ih first).record_refusal verdict recorded
      | inr fill => exact (ih first).record_fill verdict recorded

structure Reported (signals : Nat) (totals : Totals) (report : ReplayOutcome) : Prop where
  signals : report.signals = signals
  eligible : report.eligibleCount = totals.eligibleCount
  blocked : report.blockedCount = totals.blockedCount
  reasons : report.blockedReasons = totals.blockedReasons
  pnl : report.simulatedPnl = totals.risk.cumulative
  hitRate : (if 0 < totals.eligibleCount then
      (Decimal.ofNat totals.positiveFills).div (.ofNat totals.eligibleCount) else .ok 0) =
    .ok report.hitRate
  maxDrawdown : report.maxDrawdown = totals.risk.maxDrawdown
  worstSequence : report.worstSequence = totals.risk.worstSequence
  fees : report.feeConfidenceDistribution = totals.feeDistribution
  balances : report.balanceConfidenceDistribution = totals.balanceDistribution
  penalties : report.penaltyTotals = totals.penaltyTotals

theorem reported_of_finalized {signals : Nat} {totals : Totals} {report : ReplayOutcome}
    (finalized : finalizeOutcome signals totals = .ok report) : Reported signals totals report := by
  obtain ⟨hitRate, divided, finalized⟩ := bind_eq_ok.mp finalized
  obtain ⟨avgModeledEdgeBps, -, finalized⟩ := bind_eq_ok.mp finalized
  obtain ⟨avgRealizedLikePnl, -, finalized⟩ := bind_eq_ok.mp finalized
  cases finalized
  exact ⟨rfl, rfl, rfl, rfl, rfl, divided, rfl, rfl, rfl, rfl, rfl⟩

section Replayed

variable {ρ : Type} {key : RunKey} {judge : ρ → Except String RowOutcome} {rows : List ρ}
  {finished : Finished} {outcomes : List RowOutcome}

theorem Replayed.accounts (replayed : Replayed key judge rows finished outcomes) :
    ∃ totals, Accounts key outcomes totals ∧ Reported outcomes.length totals finished.1 ∧
      finished.2 = totals.trades := by
  obtain ⟨totals, totalled, finalized, trades⟩ := replayed.totalled
  exact ⟨totals, accounts_of_totals totalled, reported_of_finalized finalized, trades⟩

theorem Replayed.trades (replayed : Replayed key judge rows finished outcomes) :
    List.Forall₂ (fun outcome trade => outcome.trade key = .ok trade) outcomes finished.2 := by
  obtain ⟨totals, accounts, -, trades⟩ := replayed.accounts
  rw [trades]
  exact accounts.trades

/-- The trade of a replayed row stands at the row's own place, and is that of its outcome. -/
theorem trade_of_replayed (replayed : Replayed key judge rows finished outcomes) {index : Nat}
    {row : ρ} (here : rows[index]? = some row) :
    ∃ outcome trade, judge row = .ok outcome ∧ outcome.trade key = .ok trade ∧
      finished.2[index]? = some trade ∧ outcomes[index]? = some outcome := by
  obtain ⟨inside, rfl⟩ := List.getElem?_eq_some_iff.mp here
  have judgedBound : index < outcomes.length := by
    rw [← replayed.judged.length_eq]
    exact inside
  have tradeBound : index < finished.2.length := by
    rw [← replayed.trades.length_eq]
    exact judgedBound
  exact ⟨outcomes[index], finished.2[index], replayed.judged.get inside judgedBound,
    replayed.trades.get judgedBound tradeBound, List.getElem?_eq_getElem tradeBound,
    List.getElem?_eq_getElem judgedBound⟩

end Replayed

theorem blocked_of_not_eligible {key : RunKey} {outcome : RowOutcome} {trade : BacktestTrade}
    (inserted : outcome.trade key = .ok trade) (refused : ∀ fill, outcome.verdict ≠ .inr fill) :
    trade.status = "blocked" := by
  obtain ⟨-, status, -⟩ := trade_eq_ok inserted
  rw [status]
  cases verdict : outcome.verdict with
  | inl refusal => rfl
  | inr fill => exact absurd verdict (refused fill)

/-! ### Risk metrics -/

theorem decimalArithmetic_lawful : decimalArithmetic.Lawful where
  less := Decimal.isLess_eq_true.mp
  notLess compared := (Decimal.isLess_eq_false.mp compared).1
  sub_zero := by decide +kernel
  sub_mono ordered lower upper := Decimal.sub_mono ordered le_rfl lower upper

/-- The reported figures are those of a sequence of PnLs, by their offline definitions. -/
structure RiskMetrics (report : ReplayOutcome) (pnls : List Decimal) : Prop where
  maxDrawdown : IsGreatest (drawdowns decimalArithmetic pnls) report.maxDrawdown
  worstSequence : IsGreatest (losingRuns pnls) report.worstSequence
  simulatedPnl : prefixSum decimalArithmetic pnls pnls.length = .ok report.simulatedPnl
  hitRate : (if pnls.length = 0 then .ok 0
    else (Decimal.ofNat (pnls.countP fun pnl => 0 < pnl)).div (.ofNat pnls.length)) =
      .ok report.hitRate

theorem riskMetrics_of_replayed {ρ : Type} {key : RunKey} {judge : ρ → Except String RowOutcome}
    {rows : List ρ} {finished : Finished} {outcomes : List RowOutcome}
    (replayed : Replayed key judge rows finished outcomes) :
    RiskMetrics finished.1 (eligiblePnls outcomes) := by
  obtain ⟨totals, accounts, reported, -⟩ := replayed.accounts
  have figures := exact_of_foldlM decimalArithmetic_lawful accounts.risk
  have count : (eligiblePnls outcomes).length = totals.eligibleCount := by
    rw [accounts.eligible, eligiblePnls, List.length_map]
  constructor
  · rw [reported.maxDrawdown]
    exact figures.maxDrawdown
  · rw [reported.worstSequence]
    exact figures.worstSequence
  · rw [prefixSum, List.take_length, reported.pnl]
    exact figures.cumulative
  · rw [count, ← accounts.gains, ← reported.hitRate]
    by_cases none_ : totals.eligibleCount = 0
    · rw [if_pos none_, if_neg (by omega)]
    · rw [if_neg none_, if_pos (Nat.pos_of_ne_zero none_)]

/-- In both loops the reported risk figures are the offline ones of the eligible rows' PnLs. -/
theorem replay_risk_exact :
    InBothLoops fun _key finished outcomes => RiskMetrics finished.1 (eligiblePnls outcomes) :=
  inBothLoops_of_replayed riskMetrics_of_replayed

end BacktestEngine

namespace Sample

open BacktestEngine

def verifiedPayload : JsonObject :=
  [("fee_known_status", .text "chain_verified"), ("balance_match_status", .text "wallet_verified"),
    ("quote_match_status", .text "matched"), ("support_status", .text "supported"),
    ("initial_amount", .text "100"), ("smaller_pool_liquidity_usdc", .text "1000000")]

def replayRow (expectedPnlAbs : Rat) : OpportunityRow :=
  { timestamp := 0, status := "eligible", modeledEdgeBps := .finite 20
    expectedPnlAbs := .finite expectedPnlAbs, expectedSlippageBps := .finite 1
    gasEstimateUsdc := 0, quoteAgeSeconds := .finite 1, payload := verifiedPayload }

/-- A gain, two losses around a stale quote, and a gain. -/
def replayRows : List OpportunityRow :=
  [ replayRow 3, replayRow (-5), { replayRow 9 with quoteAgeSeconds := .finite 10000 },
    replayRow (-1), replayRow 2 ]

/-- A column of so many digits in all, and so many behind the point. -/
def numericColumn (digits places : Nat) : Decimal → Except String Decimal
  | .finite value =>
      let count := DecimalRounding.roundHalfUp (value * 10 ^ places)
      if |count| < 10 ^ digits then .ok (.finite (count / 10 ^ places))
      else .error "numeric field overflow"
  | .infinity _ => .error "numeric field overflow"
  | .nan _ => .ok (.nan false)

def runKey : RunKey :=
  { runId := "run", routeId := route.id
    columns := { decimal10_5 := numericColumn 10 5, decimal18_8 := numericColumn 18 8 } }

theorem replay_finishes :
    ∃ finished, evaluateOpportunityRows runKey replayRows [] false = .ok finished ∧
      finished.1.maxDrawdown = .finite 6 ∧ finished.1.worstSequence = 2 ∧
      finished.1.blockedCount = 1 := by
  have runs : (evaluateOpportunityRows runKey replayRows [] false).toOption.any (fun finished =>
      finished.1.maxDrawdown = .finite 6 && finished.1.worstSequence = 2 &&
        finished.1.blockedCount = 1) = true := by
    decide +kernel
  obtain ⟨finished, done, figures⟩ := ok_of_any runs
  simp only [Bool.and_eq_true, decide_eq_true_eq] at figures
  exact ⟨finished, done, figures.1.1, figures.1.2, figures.2⟩

end Sample

theorem BacktestEngine.replay_risk_exact_sample :
    ∃ (finished : Finished) (outcomes : List RowOutcome), finished.1.maxDrawdown = .finite 6 ∧
      RiskMetrics finished.1 (eligiblePnls outcomes) := by
  obtain ⟨finished, done, drawdown, -⟩ := Sample.replay_finishes
  obtain ⟨-, outcomes, -, -, metrics⟩ := replay_risk_exact.1 _ _ _ _ _ done
  exact ⟨finished, outcomes, drawdown, metrics⟩

end ArbitrageBot
