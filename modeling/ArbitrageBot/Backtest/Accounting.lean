/-
The books of a replay: rows, reasons and statuses are counted once, and so is every amount, as far
as the digits of the arithmetic and of the stored columns reach.
-/

import ArbitrageBot.Backtest.Metrics
import ArbitrageBot.Library.DecimalEstimate

namespace ArbitrageBot

open Fallible PythonDecimal PythonDecimal.Decimal PythonJson RunningRisk Tally

namespace BacktestEngine

/-- The values are finite, and this is their exact sum. -/
def SumsTo (values : List Decimal) (sum : Rat) : Prop :=
  ∃ exact : List Rat, values = exact.map .finite ∧ exact.sum = sum

/-- What a row earns, which is nothing where it is blocked. -/
def RowOutcome.earned (outcome : RowOutcome) : Decimal :=
  outcome.verdict.elim (fun _ => 0) Fill.simulatedPnl

def Fill.amounts (fill : Fill) : List Decimal :=
  fill.expected :: fill.gasCost :: penaltyParts.map fun part => part fill.charges.penalties

/-- The units of a place that an eligible row's amounts come to. -/
def Fill.units (place : Int) (fill : Fill) : Nat :=
  (fill.amounts.map (Decimal.unitsAt place)).sum

/-- All amounts together fit the digits of the context, down to the place. -/
structure Counted (place : Int) (outcomes : List RowOutcome) : Prop where
  above : Decimal.context.etiny ≤ place
  few : ((fills outcomes).map (Fill.units place)).sum ≤ 10 ^ 28

/-- No amount has digits below the place. -/
def Whole (place : Int) (outcomes : List RowOutcome) : Prop :=
  ∀ fill ∈ fills outcomes, ∀ amount ∈ fill.amounts,
    ∃ count : Int, amount = .finite (count * 10 ^ place)

/-- The column changes what the rows earned by at most so much each. -/
def KeptWithin (change : Rat) (column : Decimal → Except String Decimal)
    (outcomes : List RowOutcome) : Prop :=
  ∀ outcome ∈ outcomes, ∀ value kept, outcome.earned = .finite value →
    column (.finite value) = .ok kept → ∃ stored, kept = .finite stored ∧ |stored - value| ≤ change

/-- The sum of the rows' expected PnLs less gas less the reported penalties. -/
def PartsSum (report : ReplayOutcome) (outcomes : List RowOutcome) (sum : Rat) : Prop :=
  ∃ expected gas penalties, SumsTo ((fills outcomes).map Fill.expected) expected ∧
    SumsTo ((fills outcomes).map Fill.gasCost) gas ∧
    SumsTo (penaltyParts.map fun part => part report.penaltyTotals) penalties ∧
    expected - gas - penalties = sum

/-- Everything that a replay adds up is added up once: in the decimal arithmetic always, and over
the rationals as far as its digits reach. -/
structure Balanced (key : RunKey) (finished : Finished) (outcomes : List RowOutcome) : Prop where
  rows : finished.1.signals = finished.1.eligibleCount + finished.1.blockedCount
  inserted : finished.1.signals = finished.2.length
  ofRun : ∀ trade ∈ finished.2, trade.backtestRunId = key.runId
  reasons : total finished.1.blockedReasons = finished.1.blockedCount
  fees : total finished.1.feeConfidenceDistribution = finished.1.signals
  balances : total finished.1.balanceConfidenceDistribution = finished.1.signals
  pnlOfRows : RunningRisk.total decimalArithmetic (eligiblePnls outcomes) =
    .ok finished.1.simulatedPnl
  penaltiesOfRows : ∀ part ∈ penaltyParts,
    RunningRisk.total decimalArithmetic (chargedUnder part outcomes) =
      .ok (part finished.1.penaltyTotals)
  tradesOfRows : List.Forall₂ (fun outcome trade =>
    key.columns.decimal18_8 outcome.earned = .ok trade.simulatedPnl) outcomes finished.2
  pnlOfTrades : ∀ place pnl change, Counted place outcomes →
    finished.1.simulatedPnl = .finite pnl → KeptWithin change key.columns.decimal18_8 outcomes →
    ∃ sum, SumsTo (finished.2.map BacktestTrade.simulatedPnl) sum ∧
      |pnl - sum| ≤
        finished.1.eligibleCount * (10 ^ place / 2) + finished.1.signals * change ∧
      (Whole place outcomes → |pnl - sum| ≤ finished.1.signals * change)
  pnlOfParts : ∀ place pnl, Counted place outcomes → finished.1.simulatedPnl = .finite pnl →
    ∃ sum, PartsSum finished.1 outcomes sum ∧
      |pnl - sum| ≤ finished.1.eligibleCount * (7 * 10 ^ place) ∧
      (Whole place outcomes → pnl = sum)

/-! ### Counts -/

theorem length_fills_add_refusals (outcomes : List RowOutcome) :
    (fills outcomes).length + (refusals outcomes).length = outcomes.length := by
  induction outcomes with
  | nil => rfl
  | cons outcome rest ih =>
      cases verdict : outcome.verdict <;>
        simp only [fills, refusals, List.filterMap_cons, verdict, Sum.getLeft?_inl,
          Sum.getLeft?_inr, Sum.getRight?_inl, Sum.getRight?_inr, List.length_cons] at ih ⊢ <;>
        omega

/-! ### Finite amounts -/

theorem sumsTo_map {α : Type} {items : List α} {amount : α → Decimal}
    (all : ∀ item ∈ items, ∃ value, amount item = .finite value) :
    SumsTo (items.map amount) (items.map fun item => rational (amount item)).sum := by
  refine ⟨items.map fun item => rational (amount item), ?_, rfl⟩
  rw [List.map_map]
  refine List.map_congr_left fun item member => ?_
  obtain ⟨value, same⟩ := all item member
  rw [Function.comp_apply, same, rational]

theorem Fill.amounts_finite {fill : Fill} {pnl : Rat} (earned : fill.simulatedPnl = .finite pnl) :
    ∀ amount ∈ fill.amounts, ∃ value, amount = .finite value := by
  have computed := fill.earned
  rw [earned] at computed
  obtain ⟨net, left, right⟩ := bind_eq_ok.mp computed
  obtain ⟨⟨kept, rfl⟩, gas⟩ := Decimal.finite_of_sub right
  obtain ⟨expected, total, same⟩ := Decimal.finite_of_sub left
  have totalled := fill.charges.totalled
  rw [same] at totalled
  obtain ⟨first, added, totalled⟩ := bind_eq_ok.mp totalled
  obtain ⟨second, addedLatency, totalled⟩ := bind_eq_ok.mp totalled
  obtain ⟨third, addedFallback, totalled⟩ := bind_eq_ok.mp totalled
  obtain ⟨fourth, addedFee, addedBalance⟩ := bind_eq_ok.mp totalled
  obtain ⟨⟨_, rfl⟩, balance⟩ := Decimal.finite_of_add addedBalance
  obtain ⟨⟨_, rfl⟩, fee⟩ := Decimal.finite_of_add addedFee
  obtain ⟨⟨_, rfl⟩, fallback⟩ := Decimal.finite_of_add addedFallback
  obtain ⟨⟨_, rfl⟩, latency⟩ := Decimal.finite_of_add addedLatency
  obtain ⟨gasPenalty, drift⟩ := Decimal.finite_of_add added
  simp only [Fill.amounts, penaltyParts, List.map_cons, List.map_nil, List.forall_mem_cons]
  exact ⟨expected, gas, gasPenalty, drift, latency, fallback, fee, balance, by simp⟩

/-! ### Rounding -/

section Rounding

variable {place : Int} {whole : Prop} {fill : Fill} {pnl : Rat}

/-- A row's exact earnings: its expected PnL less its penalties less its gas. -/
def Fill.exact (fill : Fill) : Rat :=
  rational fill.expected -
      (penaltyParts.map fun part => rational (part fill.charges.penalties)).sum -
    rational fill.gasCost

theorem Fill.amount_estimates (earned : fill.simulatedPnl = .finite pnl)
    (multiples : whole → ∀ amount ∈ fill.amounts,
      ∃ count : Int, amount = .finite (count * 10 ^ place)) :
    ∀ amount ∈ fill.amounts,
      Decimal.Estimates place whole (Decimal.unitsAt place amount) 0 (rational amount) amount := by
  intro amount member
  obtain ⟨value, rfl⟩ := Fill.amounts_finite earned amount member
  refine Decimal.estimates_self fun whole => ?_
  obtain ⟨count, same⟩ := multiples whole _ member
  exact ⟨count, Decimal.finite.inj same⟩

/-- Seven roundings lie between a row's amounts and what it earns. -/
theorem Fill.estimates (earned : fill.simulatedPnl = .finite pnl)
    (multiples : whole → ∀ amount ∈ fill.amounts,
      ∃ count : Int, amount = .finite (count * 10 ^ place))
    (above : Decimal.context.etiny ≤ place) (few : fill.units place ≤ 10 ^ 28) :
    Decimal.Estimates place whole (fill.units place) 7 fill.exact fill.simulatedPnl := by
  have each := Fill.amount_estimates earned multiples
  simp only [Fill.amounts, penaltyParts, List.map_cons, List.map_nil, List.forall_mem_cons] at each
  obtain ⟨expected, gasCost, gas, drift, latency, fallback, fee, balance, -⟩ := each
  simp only [Fill.units, Fill.amounts, penaltyParts, List.map_cons, List.map_nil, List.sum_cons,
    List.sum_nil] at few
  obtain ⟨first, added, totalled⟩ := bind_eq_ok.mp fill.charges.totalled
  obtain ⟨second, addedLatency, totalled⟩ := bind_eq_ok.mp totalled
  obtain ⟨third, addedFallback, totalled⟩ := bind_eq_ok.mp totalled
  obtain ⟨fourth, addedFee, addedBalance⟩ := bind_eq_ok.mp totalled
  have penalties := ((((gas.add drift above (by omega) added).add latency above (by omega)
    addedLatency).add fallback above (by omega) addedFallback).add fee above (by omega)
    addedFee).add balance above (by omega) addedBalance
  obtain ⟨net, left, right⟩ := bind_eq_ok.mp fill.earned
  have all := (expected.sub penalties above (by omega) left).sub gasCost above (by omega) right
  convert all using 1
  · simp only [Fill.units, Fill.amounts, penaltyParts, List.map_cons, List.map_nil, List.sum_cons,
      List.sum_nil]
    omega
  · simp only [Fill.exact, penaltyParts, List.map_cons, List.map_nil, List.sum_cons, List.sum_nil]
    ring

end Rounding

/-! ### Sums over the rows -/

theorem sum_exact (filled : List Fill) :
    (filled.map Fill.exact).sum =
      (filled.map fun fill => rational fill.expected).sum -
        (filled.map fun fill => rational fill.gasCost).sum -
        (penaltyParts.map fun part =>
          (filled.map fun fill => rational (part fill.charges.penalties)).sum).sum := by
  induction filled with
  | nil => simp [penaltyParts]
  | cons fill rest ih =>
      simp only [List.map_cons, List.sum_cons, ih, Fill.exact, penaltyParts, List.map_nil,
        List.sum_nil]
      ring

theorem sum_earned (outcomes : List RowOutcome) :
    (outcomes.map fun outcome => rational outcome.earned).sum =
      ((fills outcomes).map fun fill => rational fill.simulatedPnl).sum := by
  induction outcomes with
  | nil => rfl
  | cons outcome rest ih =>
      cases verdict : outcome.verdict with
      | inl refusal => simp_all [fills, RowOutcome.earned, Decimal.zero_eq, rational]
      | inr fill => simp_all [fills, RowOutcome.earned]

/-- Each stored amount strays from what its row earned by so much at most. -/
theorem stored_sum {column : Decimal → Except String Decimal} {change : Rat}
    {outcomes : List RowOutcome} {trades : List BacktestTrade}
    (stored : List.Forall₂ (fun outcome trade => column outcome.earned = .ok trade.simulatedPnl)
      outcomes trades)
    (kept : KeptWithin change column outcomes)
    (finite : ∀ outcome ∈ outcomes, ∃ value, outcome.earned = .finite value) :
    ∃ sum, SumsTo (trades.map BacktestTrade.simulatedPnl) sum ∧
      |(outcomes.map fun outcome => rational outcome.earned).sum - sum| ≤
        outcomes.length * change := by
  induction stored with
  | nil => exact ⟨0, ⟨[], rfl, rfl⟩, by simp⟩
  | @cons outcome trade outcomes trades here _ ih =>
      obtain ⟨⟨value, earned⟩, others⟩ := List.forall_mem_cons.mp finite
      obtain ⟨near, nearOthers⟩ := List.forall_mem_cons.mp kept
      rw [earned] at here
      obtain ⟨amount, same, close⟩ := near value _ earned here
      obtain ⟨_, ⟨exact, stored, rfl⟩, closeOthers⟩ := ih nearOthers others
      refine ⟨amount + exact.sum, ⟨amount :: exact, ?_, rfl⟩, ?_⟩
      · rw [List.map_cons, List.map_cons, same, stored]
      · rw [List.map_cons, List.sum_cons, List.length_cons, earned, rational]
        rw [abs_le] at close closeOthers ⊢
        push_cast
        constructor <;> linarith

section Sums

variable {place : Int} {outcomes : List RowOutcome} {pnl : Rat}

theorem earned_finite (total : RunningRisk.total decimalArithmetic (eligiblePnls outcomes) =
      .ok (.finite pnl)) :
    ∀ fill ∈ fills outcomes, ∃ value, fill.simulatedPnl = .finite value := fun _ member =>
  (Decimal.finite_of_foldlM total).2 _ (List.mem_map_of_mem member)

theorem Counted.estimates (counted : Counted place outcomes)
    (total : RunningRisk.total decimalArithmetic (eligiblePnls outcomes) = .ok (.finite pnl)) :
    ∀ fill ∈ fills outcomes,
      Decimal.Estimates place (Whole place outcomes) (fill.units place) 7 fill.exact
        fill.simulatedPnl := by
  intro fill member
  obtain ⟨value, earned⟩ := earned_finite total fill member
  have units : fill.units place ≤ ((fills outcomes).map (Fill.units place)).sum :=
    List.le_sum_of_mem (List.mem_map_of_mem member)
  exact Fill.estimates earned (fun whole => whole fill member) counted.above
    (units.trans counted.few)

theorem Counted.parts_estimate (counted : Counted place outcomes)
    (total : RunningRisk.total decimalArithmetic (eligiblePnls outcomes) = .ok (.finite pnl)) :
    Decimal.Estimates place (Whole place outcomes)
      (0 + ((fills outcomes).map (Fill.units place)).sum)
      (0 + (fills outcomes).length * (7 + 1))
      (0 + ((fills outcomes).map Fill.exact).sum) (.finite pnl) :=
  Decimal.Estimates.foldlM (counted.estimates total) counted.above
    (by rw [Nat.zero_add]; exact counted.few) .zero total

theorem Counted.rows_estimate (counted : Counted place outcomes)
    (total : RunningRisk.total decimalArithmetic (eligiblePnls outcomes) = .ok (.finite pnl)) :
    Decimal.Estimates place (Whole place outcomes)
      (0 + ((fills outcomes).map (Fill.units place)).sum)
      (0 + (fills outcomes).length * (0 + 1))
      (0 + ((fills outcomes).map fun fill => rational fill.simulatedPnl).sum)
      (.finite pnl) := by
  refine Decimal.Estimates.foldlM (fun fill member => ?_) counted.above
    (by rw [Nat.zero_add]; exact counted.few) .zero total
  have estimates := counted.estimates total fill member
  obtain ⟨value, earned⟩ := earned_finite total fill member
  rw [earned] at estimates ⊢
  exact estimates.itself

theorem Counted.penalties_estimate (counted : Counted place outcomes)
    (total : RunningRisk.total decimalArithmetic (eligiblePnls outcomes) = .ok (.finite pnl))
    {part : Penalties → Decimal} (known : part ∈ penaltyParts) {sum : Decimal}
    (added : RunningRisk.total decimalArithmetic (chargedUnder part outcomes) = .ok sum) :
    Decimal.Estimates place (Whole place outcomes)
      (0 + ((fills outcomes).map fun fill =>
        Decimal.unitsAt place (part fill.charges.penalties)).sum)
      (0 + (fills outcomes).length * (0 + 1))
      (0 + ((fills outcomes).map fun fill =>
        rational (part fill.charges.penalties)).sum) sum := by
  have amount : ∀ fill : Fill, part fill.charges.penalties ∈ fill.amounts := fun fill =>
    List.mem_cons_of_mem _ (List.mem_cons_of_mem _
      (List.mem_map_of_mem (f := fun part => part fill.charges.penalties) known))
  have units : ((fills outcomes).map fun fill =>
      Decimal.unitsAt place (part fill.charges.penalties)).sum ≤
        ((fills outcomes).map (Fill.units place)).sum :=
    List.sum_le_sum fun fill _ =>
      List.le_sum_of_mem (List.mem_map_of_mem (f := Decimal.unitsAt place) (amount fill))
  refine Decimal.Estimates.foldlM (fun fill member => ?_) counted.above
    (by rw [Nat.zero_add]; exact units.trans counted.few) .zero added
  obtain ⟨value, earned⟩ := earned_finite total fill member
  exact Fill.amount_estimates earned (fun whole => whole fill member) _ (amount fill)

/-- The reported PnL and the exact sum of its parts: seven roundings and one a row, and one a row
for each of the six penalties. -/
theorem parts_sum {report : ReplayOutcome}
    (counted : Counted place outcomes)
    (total : RunningRisk.total decimalArithmetic (eligiblePnls outcomes) = .ok (.finite pnl))
    (penalties : ∀ part ∈ penaltyParts,
      RunningRisk.total decimalArithmetic (chargedUnder part outcomes) =
        .ok (part report.penaltyTotals)) :
    ∃ sum, PartsSum report outcomes sum ∧
      |pnl - sum| ≤ (fills outcomes).length * (7 * 10 ^ place) ∧
      (Whole place outcomes → pnl = sum) := by
  have finite := fun fill member =>
    have ⟨_, earned⟩ := earned_finite total fill member
    Fill.amounts_finite earned
  have estimated := fun part known =>
    counted.penalties_estimate total known (penalties part known)
  have totals : ∀ part ∈ penaltyParts, ∃ value, part report.penaltyTotals = .finite value := by
    intro part known
    obtain ⟨value, same, -⟩ := estimated part known
    exact ⟨value, same⟩
  have near := (counted.parts_estimate total).near
  have nearPenalties := fun part known => (estimated part known).near
  refine ⟨_, ⟨_, _, _, sumsTo_map fun fill member => finite fill member _ List.mem_cons_self,
    sumsTo_map fun fill member => finite fill member _
      (List.mem_cons_of_mem _ List.mem_cons_self), sumsTo_map totals, rfl⟩, ?_, fun whole => ?_⟩
  · rw [sum_exact] at near
    simp only [penaltyParts, List.forall_mem_cons, List.map_cons, List.map_nil, List.sum_cons,
      List.sum_nil, abs_le, rational] at near nearPenalties ⊢
    obtain ⟨gas, drift, latency, fallback, fee, balance, -⟩ := nearPenalties
    push_cast at *
    constructor <;> linarith
  · have same := (counted.parts_estimate total).same whole
    rw [sum_exact] at same
    have samePenalties := fun part known => (estimated part known).same whole
    simp only [penaltyParts, List.forall_mem_cons, List.map_cons, List.map_nil, List.sum_cons,
      List.sum_nil, rational] at same samePenalties ⊢
    obtain ⟨gas, drift, latency, fallback, fee, balance, -⟩ := samePenalties
    linarith

/-- The reported PnL and the exact sum of the stored trades: one rounding a row that is eligible,
and one change by the column a row. -/
theorem trades_sum {column : Decimal → Except String Decimal} {trades : List BacktestTrade}
    {change : Rat} (counted : Counted place outcomes)
    (total : RunningRisk.total decimalArithmetic (eligiblePnls outcomes) = .ok (.finite pnl))
    (stored : List.Forall₂ (fun outcome trade => column outcome.earned = .ok trade.simulatedPnl)
      outcomes trades)
    (kept : KeptWithin change column outcomes) :
    ∃ sum, SumsTo (trades.map BacktestTrade.simulatedPnl) sum ∧
      |pnl - sum| ≤ (fills outcomes).length * (10 ^ place / 2) + outcomes.length * change ∧
      (Whole place outcomes → |pnl - sum| ≤ outcomes.length * change) := by
  have finite : ∀ outcome ∈ outcomes, ∃ value, outcome.earned = .finite value := by
    intro outcome member
    cases verdict : outcome.verdict with
    | inl refusal => exact ⟨0, by simp [RowOutcome.earned, verdict, Decimal.zero_eq]⟩
    | inr fill =>
        have eligible : fill ∈ fills outcomes :=
          List.mem_filterMap.mpr ⟨outcome, member, by rw [verdict]; rfl⟩
        obtain ⟨value, earned⟩ := earned_finite total fill eligible
        exact ⟨value, by simp [RowOutcome.earned, verdict, earned]⟩
  obtain ⟨sum, sums, close⟩ := stored_sum stored kept finite
  rw [sum_earned] at close
  have near := (counted.rows_estimate total).near
  refine ⟨sum, sums, ?_, fun whole => ?_⟩
  · simp only [abs_le, rational] at near close ⊢
    push_cast at *
    constructor <;> linarith
  · have same := (counted.rows_estimate total).same whole
    rw [zero_add, rational] at same
    rwa [same]

end Sums

/-! ### The books -/

theorem balanced_of_replayed {ρ : Type} {key : RunKey} {judge : ρ → Except String RowOutcome}
    {rows : List ρ} {finished : Finished} {outcomes : List RowOutcome}
    (replayed : Replayed key judge rows finished outcomes) : Balanced key finished outcomes := by
  obtain ⟨totals, accounts, reported, trades⟩ := replayed.accounts
  have pnlOfRows := (exact_of_foldlM decimalArithmetic_lawful accounts.risk).cumulative
  rw [← reported.pnl] at pnlOfRows
  have penaltiesOfRows : ∀ part ∈ penaltyParts,
      RunningRisk.total decimalArithmetic (chargedUnder part outcomes) =
        .ok (part finished.1.penaltyTotals) := by
    rw [reported.penalties]
    exact accounts.penalties
  have tradesOfRows : List.Forall₂ (fun outcome trade =>
      key.columns.decimal18_8 outcome.earned = .ok trade.simulatedPnl) outcomes finished.2 :=
    replayed.trades.imp fun _ _ inserted => (trade_eq_ok inserted).2.2
  constructor
  · rw [reported.signals, reported.eligible, reported.blocked, accounts.eligible, accounts.blocked,
      length_fills_add_refusals]
  · rw [reported.signals, replayed.trades.length_eq]
  · intro trade member
    obtain ⟨index, inside, rfl⟩ := List.getElem_of_mem member
    have bound : index < outcomes.length := replayed.trades.length_eq.symm ▸ inside
    exact (trade_eq_ok (replayed.trades.get bound inside)).1
  · rw [reported.reasons, reported.blocked, accounts.reasons, accounts.blocked]
  · rw [reported.fees, reported.signals, accounts.fees]
  · rw [reported.balances, reported.signals, accounts.balances]
  · exact pnlOfRows
  · exact penaltiesOfRows
  · exact tradesOfRows
  · intro place pnl change counted finite kept
    rw [finite] at pnlOfRows
    rw [reported.signals, reported.eligible, accounts.eligible]
    exact trades_sum counted pnlOfRows tradesOfRows kept
  · intro place pnl counted finite
    rw [finite] at pnlOfRows
    rw [reported.eligible, accounts.eligible]
    exact parts_sum counted pnlOfRows penaltiesOfRows

/-- In both loops every row, reason, status, PnL and penalty is counted once. -/
theorem replay_accounting : InBothLoops Balanced :=
  inBothLoops_of_replayed balanced_of_replayed

theorem mapM_of_judged {ρ : Type} {judge : ρ → Except String RowOutcome} {rows : List ρ}
    {outcomes : List RowOutcome} (judged : Judged judge rows outcomes) :
    rows.mapM judge = .ok outcomes := by
  induction judged with
  | nil => rfl
  | cons here _ ih =>
      rw [List.mapM_cons, here, bind_eq_ok]
      exact ⟨_, rfl, bind_eq_ok.mpr ⟨_, ih, rfl⟩⟩

end BacktestEngine

namespace Sample

open BacktestEngine

def gasPenalty (bps : String) : JsonObject := [("gas_penalty_bps", .text bps)]

/-- No digit of the outcomes lies behind the eighth, in the row's amounts or in its trade. -/
def eightPlaces (outcomes : List RowOutcome) : Bool :=
  ((fills outcomes).map (Fill.units (-8))).sum ≤ 10 ^ 28 &&
    (fills outcomes).all (fun fill => fill.amounts.all fun amount =>
      amount = .finite ((amount.rational * 10 ^ 8).num * 10 ^ (-8 : Int))) &&
    outcomes.all fun outcome => runKey.columns.decimal18_8 outcome.earned = .ok outcome.earned

theorem exact_of_eightPlaces {outcomes : List RowOutcome} (places : eightPlaces outcomes = true) :
    Counted (-8) outcomes ∧ Whole (-8) outcomes ∧
      KeptWithin 0 runKey.columns.decimal18_8 outcomes := by
  simp only [eightPlaces, Bool.and_eq_true, decide_eq_true_eq, List.all_eq_true] at places
  obtain ⟨⟨few, whole⟩, stored⟩ := places
  refine ⟨⟨by decide, few⟩, fun fill eligible amount member =>
    ⟨_, whole fill eligible amount member⟩, ?_⟩
  intro outcome member value kept earned written
  have same := stored outcome member
  rw [earned] at same
  cases same.symm.trans written
  exact ⟨value, rfl, by simp⟩

theorem replay_with_penalty :
    ∃ finished, evaluateOpportunityRows runKey replayRows (gasPenalty "2") false = .ok finished ∧
      finished.1.blockedCount = 1 ∧ finished.1.simulatedPnl = .finite (-27 / 25) := by
  have runs : (evaluateOpportunityRows runKey replayRows (gasPenalty "2") false).toOption.any
      (fun finished => finished.1.blockedCount = 1 &&
        finished.1.simulatedPnl = .finite (-27 / 25)) = true := by
    decide +kernel
  obtain ⟨finished, done, figures⟩ := ok_of_any runs
  simp only [Bool.and_eq_true, decide_eq_true_eq] at figures
  exact ⟨finished, done, figures⟩

end Sample

/-- Two basis points of gas on a gain, two losses and a gain, all of eight places at most. -/
theorem BacktestEngine.replay_accounting_sample :
    ∃ (finished : Finished) (outcomes : List RowOutcome), finished.1.blockedCount = 1 ∧
      finished.1.simulatedPnl = .finite (-27 / 25) ∧
      Balanced Sample.runKey finished outcomes ∧
      SumsTo (finished.2.map BacktestTrade.simulatedPnl) (-27 / 25) ∧
      PartsSum finished.1 outcomes (-27 / 25) := by
  obtain ⟨finished, done, blocked, pnl⟩ := Sample.replay_with_penalty
  obtain ⟨gates, outcomes, read, judged, balanced⟩ := replay_accounting.1 _ _ _ _ _ done
  have places : (do
      let gates ← Gates.read (Sample.gasPenalty "2")
      Sample.replayRows.mapM
        (opportunityOutcome gates (Sample.gasPenalty "2") false)).toOption.all
          Sample.eightPlaces = true := by
    decide +kernel
  have rows : (do
      let gates ← Gates.read (Sample.gasPenalty "2")
      Sample.replayRows.mapM (opportunityOutcome gates (Sample.gasPenalty "2") false)) =
        .ok outcomes :=
    bind_eq_ok.mpr ⟨gates, read, mapM_of_judged judged⟩
  rw [rows] at places
  obtain ⟨counted, whole, kept⟩ := Sample.exact_of_eightPlaces places
  obtain ⟨sum, stored, -, same⟩ := balanced.pnlOfTrades _ _ _ counted pnl kept
  obtain ⟨parts, summed, -, equal⟩ := balanced.pnlOfParts _ _ counted pnl
  have unchanged := abs_nonpos_iff.mp ((same whole).trans_eq (mul_zero _))
  rw [← sub_eq_zero.mp unchanged] at stored
  rw [← equal whole] at summed
  exact ⟨finished, outcomes, blocked, pnl, balanced, stored, summed⟩

/-- A penalty of more digits than three dollars leave room for, on one row that is eligible: the
column keeps eight places of its PnL, and the PnL itself lacks a digit of the difference. -/
theorem BacktestEngine.rounding_unbalances :
    ∃ finished pnl stored gas,
      evaluateOpportunityRows Sample.runKey [Sample.replayRow 3]
        (Sample.gasPenalty "0.1234567890123456789012345678") false = .ok finished ∧
      finished.1.eligibleCount = 1 ∧ finished.1.simulatedPnl = .finite pnl ∧
      finished.2.map BacktestTrade.simulatedPnl = [.finite stored] ∧ pnl ≠ stored ∧
      penaltyParts.map (fun part => part finished.1.penaltyTotals) =
        [.finite gas, 0, 0, 0, 0, 0] ∧
      pnl ≠ 3 - 0 - gas := by
  have runs : (evaluateOpportunityRows Sample.runKey [Sample.replayRow 3]
      (Sample.gasPenalty "0.1234567890123456789012345678") false).toOption.any (fun finished =>
        finished.1.eligibleCount = 1 &&
        finished.1.simulatedPnl = .finite 2.998765432109876543210987654 &&
        finished.2.map BacktestTrade.simulatedPnl = [.finite 2.99876543] &&
        penaltyParts.map (fun part => part finished.1.penaltyTotals) =
          [.finite 0.001234567890123456789012345678, 0, 0, 0, 0, 0]) = true := by
    decide +kernel
  obtain ⟨finished, done, figures⟩ := ok_of_any runs
  simp only [Bool.and_eq_true, decide_eq_true_eq] at figures
  obtain ⟨⟨⟨eligible, pnl⟩, stored⟩, penalties⟩ := figures
  exact ⟨finished, _, _, _, done, eligible, pnl, stored, by norm_num, penalties, by norm_num⟩

end ArbitrageBot
