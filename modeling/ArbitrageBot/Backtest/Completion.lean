/-
When a replay reaches its report: every row is judged and its trade is kept, and the sums over the
eligible rows stay within the decimal context. The report itself then divides without overflow.
-/

import ArbitrageBot.Backtest.Metrics

namespace ArbitrageBot

open Fallible PythonDecimal PythonJson RunningRisk

namespace BacktestEngine

/-- The figures of the eligible rows can be added up in their order. -/
structure Addable (edges : List Decimal) (filled : List Fill) : Prop where
  penalties : ∀ part ∈ penaltyParts, ∃ sum, RunningRisk.total decimalArithmetic
    (filled.map fun fill => part fill.charges.penalties) = .ok sum
  edges : ∃ sum, RunningRisk.total decimalArithmetic edges = .ok sum
  pnls : ∃ risk, (filled.map Fill.simulatedPnl).foldlM (Risk.add decimalArithmetic) .start =
    .ok risk

theorem Addable.front {edges : List Decimal} {filled : List Fill} {edge : Decimal} {fill : Fill}
    (addable : Addable (edges ++ [edge]) (filled ++ [fill])) : Addable edges filled := by
  obtain ⟨penalties, ⟨edgeSum, addedEdges⟩, ⟨risk, risked⟩⟩ := addable
  refine ⟨fun part known => ?_, ?_, ?_⟩
  · obtain ⟨sum, added⟩ := penalties part known
    rw [List.map_append, List.map_singleton] at added
    obtain ⟨before, first, -⟩ := foldlM_concat_eq_ok.mp added
    exact ⟨before, first⟩
  · obtain ⟨before, first, -⟩ := foldlM_concat_eq_ok.mp addedEdges
    exact ⟨before, first⟩
  · rw [List.map_append, List.map_singleton] at risked
    obtain ⟨before, first, -⟩ := foldlM_concat_eq_ok.mp risked
    exact ⟨before, first⟩

/-! ### One row more -/

section Steps

variable {key : RunKey} {totals : Totals} {outcome : RowOutcome}

theorem add_penalties_ok {sums penalties : Penalties}
    (each : ∀ part ∈ penaltyParts, ∃ sum, (part sums).add (part penalties) = .ok sum) :
    ∃ added, sums.add penalties = .ok added := by
  simp only [penaltyParts, List.forall_mem_cons] at each
  obtain ⟨⟨_, gas⟩, ⟨_, drift⟩, ⟨_, latency⟩, ⟨_, fallback⟩, ⟨_, fee⟩, ⟨_, balance⟩, -⟩ := each
  simp only [Penalties.add, gas, drift, latency, fallback, fee, balance, bind, Except.bind, pure,
    Except.pure]
  exact ⟨_, rfl⟩

/-- A profit that a loss is asked of is no NaN. -/
theorem isNan_of_risk {risk next : Risk Decimal} {profit : Decimal}
    (risked : risk.add decimalArithmetic profit = .ok next) : profit.isNan = false := by
  obtain ⟨_, -, risked⟩ := bind_eq_ok.mp risked
  obtain ⟨_, -, risked⟩ := bind_eq_ok.mp risked
  obtain ⟨_, -, risked⟩ := bind_eq_ok.mp risked
  obtain ⟨_, -, risked⟩ := bind_eq_ok.mp risked
  obtain ⟨_, compared, -⟩ := bind_eq_ok.mp risked
  exact (Decimal.compared_eq_ok.mp compared).1.1

theorem fill_ok {fill : Fill} {modeledEdgeBps : Decimal} {edges : Decimal} {risk : Risk Decimal}
    (penalties : ∀ part ∈ penaltyParts, ∃ sum,
      (part totals.penaltyTotals).add (part fill.charges.penalties) = .ok sum)
    (edge : totals.modeledEdgeSum.add modeledEdgeBps = .ok edges)
    (pnl : ∃ sum, totals.realizedLikeSum.add fill.simulatedPnl = .ok sum)
    (risked : totals.risk.add decimalArithmetic fill.simulatedPnl = .ok risk) :
    ∃ next, totals.fill fill modeledEdgeBps = .ok next := by
  obtain ⟨penaltyTotals, added⟩ := add_penalties_ok penalties
  obtain ⟨gain, compared⟩ := Decimal.isLess_ok Decimal.isNan_zero (isNan_of_risk risked)
  obtain ⟨sum, realized⟩ := pnl
  simp only [Totals.fill, added, compared, edge, realized, risked, bind, Except.bind, pure,
    Except.pure]
  exact ⟨_, rfl⟩

theorem record_ok {judged : Totals} {trade : BacktestTrade}
    (counted : (totals.counted outcome).judged outcome = .ok judged)
    (inserted : outcome.trade key = .ok trade) : ∃ next, totals.record key outcome = .ok next := by
  simp only [Totals.record, counted, inserted, bind, Except.bind, pure, Except.pure]
  exact ⟨_, rfl⟩

end Steps

/-! ### All rows -/

/-- Figures that can be added up to the last row can be added for it to the totals before it. -/
theorem fill_of_addable {key : RunKey} {earlier : List RowOutcome} {outcome : RowOutcome}
    {before : Totals} {fill : Fill} {edge : Decimal} (first : totalsOf key earlier = .ok before)
    (addable : Addable (eligibleEdges earlier ++ [edge]) (fills earlier ++ [fill])) :
    ∃ filled, (before.counted outcome).fill fill edge = .ok filled := by
  have accounts := accounts_of_totals first
  obtain ⟨penalties, ⟨edgeSum, addedEdges⟩, ⟨risk, risked⟩⟩ := addable
  rw [List.map_append, List.map_singleton] at risked
  obtain ⟨same, earlierRisk, risked⟩ := foldlM_concat_eq_ok.mp risked
  cases accounts.risk.symm.trans earlierRisk
  obtain ⟨same, earlierEdges, addedEdge⟩ := foldlM_concat_eq_ok.mp addedEdges
  cases accounts.edges.symm.trans earlierEdges
  have parts : ∀ part ∈ penaltyParts, ∃ sum,
      (part before.penaltyTotals).add (part fill.charges.penalties) = .ok sum := by
    intro part known
    obtain ⟨sum, added⟩ := penalties part known
    rw [List.map_append, List.map_singleton] at added
    obtain ⟨same, earlierPart, added⟩ := foldlM_concat_eq_ok.mp added
    cases (accounts.penalties part known).symm.trans earlierPart
    exact ⟨sum, added⟩
  -- the realized sum is the cumulative one of the risk figures
  have cumulative := (exact_of_foldlM decimalArithmetic_lawful accounts.risk).cumulative
  have same := Except.ok.inj (cumulative.symm.trans accounts.realized)
  obtain ⟨sum, addedPnl, -⟩ := bind_eq_ok.mp risked
  rw [same] at addedPnl
  exact @fill_ok (before.counted outcome) fill edge edgeSum risk parts addedEdge ⟨sum, addedPnl⟩
    risked

/-- The totals of rows whose trades are kept, from the last row back. -/
theorem totals_of_addable {key : RunKey} {outcomes : List RowOutcome}
    (addable : Addable (eligibleEdges outcomes) (fills outcomes))
    (kept : ∀ outcome ∈ outcomes, ∃ trade, outcome.trade key = .ok trade) :
    ∃ totals, totalsOf key outcomes = .ok totals := by
  induction outcomes using List.reverseRecOn with
  | nil => exact ⟨_, rfl⟩
  | append_singleton earlier outcome ih =>
      obtain ⟨keptEarlier, ⟨trade, inserted⟩⟩ :
          (∀ other ∈ earlier, ∃ trade, other.trade key = .ok trade) ∧
            ∃ trade, outcome.trade key = .ok trade := by
        rw [List.forall_mem_append, List.forall_mem_singleton] at kept
        exact kept
      cases verdict : outcome.verdict with
      | inl refusal =>
          have sameEdges : eligibleEdges (earlier ++ [outcome]) = eligibleEdges earlier := by
            simp [eligibleEdges, verdict]
          have sameFills : fills (earlier ++ [outcome]) = fills earlier := by simp [fills, verdict]
          rw [sameEdges, sameFills] at addable
          obtain ⟨before, first⟩ := ih addable keptEarlier
          obtain ⟨next, recorded⟩ := @record_ok key before outcome _ trade
            (by rw [Totals.judged, verdict]) inserted
          exact ⟨next, foldlM_concat_eq_ok.mpr ⟨before, first, recorded⟩⟩
      | inr fill =>
          have moreEdges : eligibleEdges (earlier ++ [outcome]) =
              eligibleEdges earlier ++ [outcome.modeledEdgeBps] := by
            simp [eligibleEdges, verdict]
          have moreFills : fills (earlier ++ [outcome]) = fills earlier ++ [fill] := by
            simp [fills, verdict]
          rw [moreEdges, moreFills] at addable
          obtain ⟨before, first⟩ := ih addable.front keptEarlier
          obtain ⟨filled, added⟩ := @fill_of_addable _ _ outcome _ _ _ first addable
          obtain ⟨next, recorded⟩ := @record_ok key before outcome filled trade
            (by rw [Totals.judged, verdict]; exact added) inserted
          exact ⟨next, foldlM_concat_eq_ok.mpr ⟨before, first, recorded⟩⟩

theorem addable_of_totals {key : RunKey} {outcomes : List RowOutcome} {totals : Totals}
    (totalled : totalsOf key outcomes = .ok totals) :
    Addable (eligibleEdges outcomes) (fills outcomes) ∧
      ∀ outcome ∈ outcomes, ∃ trade, outcome.trade key = .ok trade := by
  have accounts := accounts_of_totals totalled
  refine ⟨⟨fun part known => ⟨_, accounts.penalties part known⟩, ⟨_, accounts.edges⟩,
    ⟨_, accounts.risk⟩⟩, fun outcome member => ?_⟩
  obtain ⟨index, inside, rfl⟩ := List.getElem_of_mem member
  have bound : index < totals.trades.length := accounts.trades.length_eq ▸ inside
  exact ⟨_, accounts.trades.get inside bound⟩

/-! ### The report -/

theorem finalizeOutcome_ok {signals : Nat} {totals : Totals}
    (edges : totals.modeledEdgeSum.Settled) (realized : totals.realizedLikeSum.Settled)
    (gains : totals.positiveFills ≤ totals.eligibleCount) :
    ∃ report, finalizeOutcome signals totals = .ok report := by
  by_cases some_ : 0 < totals.eligibleCount
  · obtain ⟨hitRate, share⟩ := Decimal.ofNat_div_ofNat_ok gains some_
    obtain ⟨edge, meanEdge⟩ := Decimal.div_ofNat_ok edges some_
    obtain ⟨pnl, meanPnl⟩ := Decimal.div_ofNat_ok realized some_
    simp only [finalizeOutcome, some_, if_true, share, meanEdge, meanPnl, bind, Except.bind, pure,
      Except.pure]
    exact ⟨_, rfl⟩
  · simp only [finalizeOutcome, some_, if_false, bind, Except.bind, pure, Except.pure]
    exact ⟨_, rfl⟩

theorem report_of_totals {key : RunKey} {outcomes : List RowOutcome} {totals : Totals}
    (totalled : totalsOf key outcomes = .ok totals) (signals : Nat) :
    ∃ report, finalizeOutcome signals totals = .ok report := by
  have accounts := accounts_of_totals totalled
  refine finalizeOutcome_ok (Decimal.settled_of_foldlM Decimal.settled_zero accounts.edges)
    (Decimal.settled_of_foldlM Decimal.settled_zero accounts.realized) ?_
  rw [accounts.gains, accounts.eligible, ← List.length_map (f := Fill.simulatedPnl)]
  exact List.countP_le_length

theorem foldlM_of_judged {ρ : Type} {key : RunKey} {judge : ρ → Except String RowOutcome}
    {rows : List ρ} {outcomes : List RowOutcome} (judged : Judged judge rows outcomes)
    (start : Totals) :
    (rows.foldlM (fun totals row => do
      let outcome ← judge row
      totals.record key outcome) start : Except String Totals) =
      outcomes.foldlM (Totals.record key) start := by
  induction judged generalizing start with
  | nil => rfl
  | cons here _rest ih =>
      rw [List.foldlM_cons, List.foldlM_cons, here]
      exact bind_congr fun next => ih next

theorem evaluateOpportunityRows_of_judged {key : RunKey} {params : JsonObject} {gates : Gates}
    {legacySupportFallback : Bool} {rows : List OpportunityRow} {outcomes : List RowOutcome}
    {totals : Totals} (readGates : Gates.read params = .ok gates)
    (judged : Judged (opportunityOutcome gates params legacySupportFallback) rows outcomes)
    (totalled : totalsOf key outcomes = .ok totals) :
    ∃ report, evaluateOpportunityRows key rows params legacySupportFallback =
      .ok (report, totals.trades) := by
  obtain ⟨report, finalized⟩ := report_of_totals totalled rows.length
  have looped := (foldlM_of_judged judged {}).trans totalled
  simp only [evaluateOpportunityRows, readGates, bind, Except.bind] at looped ⊢
  rw [looped]
  simp only [finalized, pure, Except.pure]
  exact ⟨_, rfl⟩

theorem judged_of_forall {ρ : Type} {judge : ρ → Except String RowOutcome} {rows : List ρ}
    (each : ∀ row ∈ rows, ∃ outcome, judge row = .ok outcome) :
    ∃ outcomes, Judged judge rows outcomes := by
  induction rows with
  | nil => exact ⟨[], .nil⟩
  | cons row rest ih =>
      obtain ⟨⟨outcome, here⟩, there⟩ := List.forall_mem_cons.mp each
      obtain ⟨outcomes, judged⟩ := ih there
      exact ⟨outcome :: outcomes, .cons here judged⟩

end BacktestEngine

end ArbitrageBot
