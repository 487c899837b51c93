/-
What an eligible row earns in a replay: never more than its expected PnL less
gas, no more under larger penalties, and no less on better evidence, whatever
the context rounds on the way.
-/

import ArbitrageBot.Backtest.Strictness

namespace ArbitrageBot

open Fallible GuardChain PythonDecimal PythonJson

namespace BacktestEngine

/-! ### What is charged -/

def Penalties.parts (penalties : Penalties) : List Decimal :=
  [ penalties.gas, penalties.quoteDrift, penalties.latency, penalties.fallbackFee,
    penalties.unverifiedFee, penalties.unverifiedBalance ]

/-- The parameter behind each part, and whether the statuses make it apply. -/
def penaltyTerms (fee : FeeConfidence) (balance : BalanceConfidence) : List (String × Bool) :=
  [ ("gas_penalty_bps", true), ("quote_drift_buffer_bps", true), ("latency_penalty_bps", true),
    ("fallback_fee_penalty_bps", fee = .fallbackOnly),
    ("unverified_fee_penalty_bps", fee ∈ [.fallbackOnly, .configOnly]),
    ("unverified_balance_penalty_bps", balance ∈ [.unknown, .internalOk, .dbInventoryOk]) ]

def penaltyParameters : List String :=
  [ "gas_penalty_bps", "quote_drift_buffer_bps", "latency_penalty_bps", "fallback_fee_penalty_bps",
    "unverified_fee_penalty_bps", "unverified_balance_penalty_bps" ]

def PenaltyBps (params : JsonObject) (key : String) (bps : Decimal) : Prop :=
  (params.getD key (.number "0")).decimal = .ok bps

def NonnegPenalties (params : JsonObject) : Prop :=
  ∀ key ∈ penaltyParameters, ∀ bps, PenaltyBps params key bps → 0 ≤ bps

/-- The second parameter set differs from the first in its penalties only, none of them smaller. -/
structure HarsherPenalties (mild harsh : JsonObject) : Prop where
  penalties : ∀ key ∈ penaltyParameters, ∀ less more,
    PenaltyBps mild key less → PenaltyBps harsh key more → less ≤ more
  rest : ∀ key, key ∉ penaltyParameters → mild.get? key = harsh.get? key

/-- Each part is the penalty of its term. -/
def Charged (params : JsonObject) (base : Decimal) (terms : List (String × Bool))
    (values : List Decimal) : Prop :=
  List.Forall₂ (fun term value => penalty params base term.1 term.2 = .ok value) terms values

section Charges

variable {params mild harsh : JsonObject} {base initialAmount baseExpected : Decimal}
  {fee : FeeConfidence} {balance : BalanceConfidence} {charges : Charges}

theorem total_eq_foldlM (penalties : Penalties) :
    penalties.total = penalties.parts.tail.foldlM Decimal.add penalties.gas := by
  simp only [Penalties.total, Penalties.parts, List.tail_cons, List.foldlM_cons, List.foldlM_nil,
    bind_pure]

theorem charged_of_computePenalties
    (priced : computePenalties initialAmount baseExpected fee balance params = .ok charges) :
    ∃ base, baseAmount initialAmount baseExpected = .ok base ∧
      Charged params base (penaltyTerms fee balance) charges.penalties.parts := by
  obtain ⟨base, largest, priced⟩ := bind_eq_ok.mp priced
  obtain ⟨gas, readGas, priced⟩ := bind_eq_ok.mp priced
  obtain ⟨quoteDrift, readQuoteDrift, priced⟩ := bind_eq_ok.mp priced
  obtain ⟨latency, readLatency, priced⟩ := bind_eq_ok.mp priced
  obtain ⟨fallbackFee, readFallbackFee, priced⟩ := bind_eq_ok.mp priced
  obtain ⟨unverifiedFee, readUnverifiedFee, priced⟩ := bind_eq_ok.mp priced
  obtain ⟨unverifiedBalance, readUnverifiedBalance, priced⟩ := bind_eq_ok.mp priced
  obtain ⟨_, -, priced⟩ := bind_eq_ok.mp priced
  cases priced
  exact ⟨base, largest, .cons readGas (.cons readQuoteDrift (.cons readLatency
    (.cons readFallbackFee (.cons readUnverifiedFee (.cons readUnverifiedBalance .nil)))))⟩

theorem baseAmount_nonneg (largest : baseAmount initialAmount baseExpected = .ok base) :
    0 ≤ base := by
  obtain ⟨initial, -, largest⟩ := bind_eq_ok.mp largest
  obtain ⟨expected, -, largest⟩ := bind_eq_ok.mp largest
  obtain ⟨greater, -, largest⟩ := bind_eq_ok.mp largest
  obtain ⟨negative, compared, largest⟩ := bind_eq_ok.mp largest
  cases negative with
  | true =>
      cases largest
      exact le_rfl
  | false =>
      cases largest
      exact (Decimal.isLess_eq_false.mp compared).1

theorem penalty_ok {key : String} {applies : Bool} {value : Decimal}
    (charged : penalty params base key applies = .ok value) :
    (applies = false ∧ value = 0) ∨
      applies = true ∧ ∃ bps product, PenaltyBps params key bps ∧ base.mul bps = .ok product ∧
        product.div tenThousand = .ok value := by
  cases applies with
  | false =>
      cases charged
      exact .inl ⟨rfl, rfl⟩
  | true =>
      obtain ⟨bps, read, charged⟩ := bind_eq_ok.mp charged
      obtain ⟨product, multiplied, charged⟩ := bind_eq_ok.mp charged
      exact .inr ⟨rfl, bps, product, read, multiplied, charged⟩

theorem penaltyTerms_fst {term : String × Bool} (member : term ∈ penaltyTerms fee balance) :
    term.1 ∈ penaltyParameters :=
  List.mem_map_of_mem (f := Prod.fst) member

theorem charge_nonneg (nonneg : NonnegPenalties params) (atLeast : 0 ≤ base) {key : String}
    (known : key ∈ penaltyParameters) {applies : Bool} {value : Decimal}
    (charged : penalty params base key applies = .ok value) : 0 ≤ value := by
  rcases penalty_ok charged with ⟨-, rfl⟩ | ⟨-, bps, product, read, multiplied, divided⟩
  · exact le_rfl
  · have factor := Decimal.mul_nonneg atLeast (nonneg key known bps read) multiplied
    exact Decimal.div_nonneg (by norm_num) factor divided

theorem charge_le_of_applies (nonneg : NonnegPenalties params) (atLeast : 0 ≤ base) {key : String}
    (known : key ∈ penaltyParameters) {fewer more : Bool} (applies : fewer = true → more = true)
    {less value : Decimal} (lighter : penalty params base key fewer = .ok less)
    (heavier : penalty params base key more = .ok value) : less ≤ value := by
  rcases penalty_ok lighter with ⟨-, rfl⟩ | ⟨here, -⟩
  · exact charge_nonneg nonneg atLeast known heavier
  · rw [here] at lighter
    rw [applies here] at heavier
    exact (Except.ok.inj (lighter.symm.trans heavier)).le

theorem charge_le_of_harsher (harsher : HarsherPenalties mild harsh) (atLeast : 0 ≤ base)
    {key : String} (known : key ∈ penaltyParameters) {applies : Bool} {less more : Decimal}
    (lighter : penalty mild base key applies = .ok less)
    (heavier : penalty harsh base key applies = .ok more) : less ≤ more := by
  rcases penalty_ok lighter with ⟨rfl, rfl⟩ | ⟨rfl, bps, product, read, multiplied, divided⟩
  · cases heavier
    exact le_rfl
  · rcases penalty_ok heavier with ⟨off, -⟩ |
      ⟨-, larger, largerProduct, readLarger, multipliedLarger, dividedLarger⟩
    · cases off
    · have bound := harsher.penalties key known bps larger read readLarger
      exact Decimal.div_mono (by norm_num) (Decimal.mul_mono atLeast bound multiplied
        multipliedLarger) divided dividedLarger

theorem charges_le {terms others : List (String × Bool)} {values larger : List Decimal}
    (eased : List.Forall₂ (fun term other => ∀ less more,
      penalty mild base term.1 term.2 = .ok less →
      penalty harsh base other.1 other.2 = .ok more → less ≤ more) terms others)
    (lighter : Charged mild base terms values) (heavier : Charged harsh base others larger) :
    List.Forall₂ (· ≤ ·) values larger := by
  induction eased generalizing values larger with
  | nil =>
      cases lighter
      cases heavier
      exact .nil
  | cons easier _ ih =>
      cases lighter with
      | cons light lights =>
          cases heavier with
          | cons heavy heavies => exact .cons (easier _ _ light heavy) (ih lights heavies)

theorem total_le {lighter heavier : Charges}
    (parts : List.Forall₂ (· ≤ ·) lighter.penalties.parts heavier.penalties.parts) :
    lighter.total ≤ heavier.total := by
  have less := lighter.totalled
  have more := heavier.totalled
  rw [total_eq_foldlM] at less more
  cases parts with
  | cons gas rest => exact Decimal.foldlM_add_mono rest gas less more

end Charges

/-! ### The sets of penalized statuses -/

/-- Among the fee statuses that can be eligible each penalized set is closed downwards. -/
theorem penalized_fee_downward {weak strong : FeeConfidence} (known : weak ≠ .unknown)
    (ranked : weak.rank ≤ strong.rank) :
    (strong = .fallbackOnly → weak = .fallbackOnly) ∧
      (strong ∈ [.fallbackOnly, .configOnly] → weak ∈ [.fallbackOnly, .configOnly]) := by
  cases weak with
  | unknown => exact absurd rfl known
  | fallbackOnly => exact ⟨fun _ => rfl, fun _ => by decide⟩
  | configOnly =>
      refine ⟨fun lower => ?_, fun _ => by decide⟩
      rw [lower] at ranked
      exact absurd ranked (by decide)
  | venueDeclared | acctVerified | chainVerified =>
      cases strong with
      | unknown | fallbackOnly | configOnly => exact absurd ranked (by decide)
      | venueDeclared | acctVerified | chainVerified => decide

/-- A mismatch, which is not penalized, lies below the two levels that are. -/
theorem penalized_balance_downward {weak strong : BalanceConfidence} (known : weak ≠ .unknown)
    (matching : weak ≠ .mismatch) (ranked : weak.rank ≤ strong.rank)
    (penalized : strong ∈ [.unknown, .internalOk, .dbInventoryOk]) :
    weak ∈ [.unknown, .internalOk, .dbInventoryOk] := by
  cases weak with
  | unknown => exact absurd rfl known
  | mismatch => exact absurd rfl matching
  | internalOk | dbInventoryOk => decide
  | walletVerified | venueVerified =>
      cases strong with
      | unknown | internalOk | dbInventoryOk => exact absurd ranked (by decide)
      | mismatch | walletVerified | venueVerified => exact absurd penalized (by decide)

/-- One parameter, in the first place only where it applies in the second. -/
structure FewerTerm (term other : String × Bool) : Prop where
  known : term.1 ∈ penaltyParameters
  same : other.1 = term.1
  term : term.2 = true → other.2 = true

theorem charges_le_of_fewer {params : JsonObject} {base : Decimal}
    {terms others : List (String × Bool)} {values larger : List Decimal}
    (nonneg : NonnegPenalties params) (atLeast : 0 ≤ base)
    (fewer : List.Forall₂ FewerTerm terms others) (lighter : Charged params base terms values)
    (heavier : Charged params base others larger) : List.Forall₂ (· ≤ ·) values larger := by
  refine charges_le (fewer.imp ?_) lighter heavier
  intro term other applies less value light heavy
  rw [applies.same] at heavy
  exact charge_le_of_applies nonneg atLeast applies.known applies.term light heavy

theorem penaltyTerms_fewer {weakFee strongFee : FeeConfidence}
    {weakBalance strongBalance : BalanceConfidence} (known : weakFee ≠ .unknown)
    (balanceKnown : weakBalance ≠ .unknown) (matching : weakBalance ≠ .mismatch)
    (fee : weakFee.rank ≤ strongFee.rank) (balance : weakBalance.rank ≤ strongBalance.rank) :
    List.Forall₂ FewerTerm (penaltyTerms strongFee strongBalance)
      (penaltyTerms weakFee weakBalance) := by
  obtain ⟨fallback, unverified⟩ := penalized_fee_downward known fee
  have balanced := penalized_balance_downward balanceKnown matching balance
  have parameters : ∀ key ∈ penaltyParameters, ∀ {fewer more : Bool},
      (fewer = true → more = true) → FewerTerm (key, fewer) (key, more) :=
    fun key member _ _ applies => ⟨member, rfl, applies⟩
  simp only [penaltyParameters, List.forall_mem_cons] at parameters
  obtain ⟨gas, quoteDrift, latency, fallbackFee, unverifiedFee, unverifiedBalance, -⟩ := parameters
  refine .cons (gas id) (.cons (quoteDrift id) (.cons (latency id) (.cons (fallbackFee ?_)
    (.cons (unverifiedFee ?_) (.cons (unverifiedBalance ?_) .nil)))))
  · exact fun here => decide_eq_true (fallback (of_decide_eq_true here))
  · exact fun here => decide_eq_true (unverified (of_decide_eq_true here))
  · exact fun here => decide_eq_true (balanced (of_decide_eq_true here))

/-! ### Fills -/

structure FillAmounts where
  initialAmount : Decimal
  expected : Decimal
  gasCost : Decimal

/-- What an outcome says of an eligible row with these amounts. -/
structure Filled (params : JsonObject) (amounts : FillAmounts) (outcome : RowOutcome)
    (fill : Fill) : Prop where
  eligible : outcome.verdict = .inr fill
  priced : computePenalties amounts.initialAmount amounts.expected outcome.feeStatus
    outcome.balanceStatus params = .ok fill.charges
  expected : fill.expected = amounts.expected
  gasCost : fill.gasCost = amounts.gasCost
  reported : outcome.expectedPnl = amounts.expected
  fee : outcome.feeStatus ≠ .unknown
  balance : outcome.balanceStatus ≠ .unknown
  matching : outcome.balanceStatus ≠ .mismatch

theorem Fill.net (fill : Fill) :
    ∃ net, fill.expected.sub fill.charges.total = .ok net ∧
      net.sub fill.gasCost = .ok fill.simulatedPnl :=
  bind_eq_ok.mp fill.earned

namespace Filled

variable {params mild harsh : JsonObject} {amounts : FillAmounts}
  {outcome other : RowOutcome} {fill last : Fill}

theorem total_nonneg (filled : Filled params amounts outcome fill)
    (nonneg : NonnegPenalties params) : 0 ≤ fill.charges.total := by
  obtain ⟨base, largest, charged⟩ := charged_of_computePenalties filled.priced
  have parts : ∀ value ∈ fill.charges.penalties.parts, 0 ≤ value := by
    intro value member
    obtain ⟨index, bound, rfl⟩ := List.getElem_of_mem member
    have here : index < (penaltyTerms outcome.feeStatus outcome.balanceStatus).length := bound
    exact charge_nonneg nonneg (baseAmount_nonneg largest)
      (penaltyTerms_fst (List.getElem_mem here)) (charged.get here bound)
  have totalled := fill.charges.totalled
  rw [total_eq_foldlM] at totalled
  rw [Penalties.parts, List.forall_mem_cons] at parts
  exact Decimal.foldlM_add_nonneg parts.2 parts.1 totalled

/-- What is charged is taken off an expected PnL that the context keeps. -/
theorem pnl_le_expected_sub_gas (filled : Filled params amounts outcome fill)
    (nonneg : NonnegPenalties params) (settled : amounts.expected.Settled) {net : Decimal}
    (without : outcome.expectedPnl.sub amounts.gasCost = .ok net) : fill.simulatedPnl ≤ net := by
  obtain ⟨charged, taken, earned⟩ := fill.net
  rw [filled.expected] at taken
  rw [filled.gasCost] at earned
  rw [filled.reported] at without
  have below := Decimal.sub_le_of_nonneg settled (filled.total_nonneg nonneg) taken
  exact Decimal.sub_mono below le_rfl earned without

theorem pnl_le_of_total {others : FillAmounts} (lighter : Filled mild amounts outcome fill)
    (heavier : Filled harsh others other last) (expected : others.expected = amounts.expected)
    (gasCost : others.gasCost = amounts.gasCost) (total : fill.charges.total ≤ last.charges.total) :
    last.simulatedPnl ≤ fill.simulatedPnl := by
  obtain ⟨net, taken, earned⟩ := fill.net
  obtain ⟨less, takenMore, earnedLess⟩ := last.net
  rw [lighter.expected] at taken
  rw [lighter.gasCost] at earned
  rw [heavier.expected, expected] at takenMore
  rw [heavier.gasCost, gasCost] at earnedLess
  exact Decimal.sub_mono (Decimal.sub_mono le_rfl total takenMore taken) le_rfl earnedLess earned

theorem pnl_le_of_harsher (lighter : Filled mild amounts outcome fill)
    (heavier : Filled harsh amounts other last)
    (harsher : HarsherPenalties mild harsh) (fee : other.feeStatus = outcome.feeStatus)
    (balance : other.balanceStatus = outcome.balanceStatus) :
    last.simulatedPnl ≤ fill.simulatedPnl := by
  obtain ⟨base, largest, less⟩ := charged_of_computePenalties lighter.priced
  obtain ⟨same, largestSame, more⟩ := charged_of_computePenalties heavier.priced
  cases largest.symm.trans largestSame
  rw [fee, balance] at more
  refine lighter.pnl_le_of_total heavier rfl rfl (total_le (charges_le ?_ less more))
  exact List.forall₂_same.mpr fun term member less value =>
    charge_le_of_harsher harsher (baseAmount_nonneg largest) (penaltyTerms_fst member)

theorem pnl_le_of_evidence (weak : Filled params amounts outcome fill)
    (strong : Filled params amounts other last)
    (nonneg : NonnegPenalties params) (fee : outcome.feeStatus.rank ≤ other.feeStatus.rank)
    (balance : outcome.balanceStatus.rank ≤ other.balanceStatus.rank) :
    fill.simulatedPnl ≤ last.simulatedPnl := by
  obtain ⟨base, largest, less⟩ := charged_of_computePenalties strong.priced
  obtain ⟨same, largestSame, more⟩ := charged_of_computePenalties weak.priced
  cases largest.symm.trans largestSame
  have fewer := penaltyTerms_fewer weak.fee weak.balance weak.matching fee balance
  exact strong.pnl_le_of_total weak rfl rfl
    (total_le (charges_le_of_fewer nonneg (baseAmount_nonneg largest) fewer less more))

end Filled

/-! ### The two loops -/

def judgeOpportunity (legacySupportFallback : Bool) (params : JsonObject) (row : OpportunityRow) :
    Except String RowOutcome := do
  let gates ← Gates.read params
  opportunityOutcome gates params legacySupportFallback row

def judgeSnapshot (params : JsonObject) (pair : MarketSnapshot × Option RouteHealth) :
    Except String RowOutcome := do
  let gates ← Gates.read params
  let defaults ← SnapshotDefaults.read params
  snapshotOutcome gates defaults params pair.1 pair.2

theorem balanceGuards_known {read : Statuses} {params payload : JsonObject}
    (passes : ∀ guard ∈ balanceGuards read params payload, guard.passes = true) :
    read.balance ≠ .unknown ∧ read.balance ≠ .mismatch := by
  simp only [balanceGuards, guard, List.forall_mem_cons, decide_eq_true_eq] at passes
  exact ⟨passes.1, passes.2.1⟩

theorem feeGuards_known {read : Statuses} {params : JsonObject}
    (passes : ∀ guard ∈ feeGuards read params, guard.passes = true) : read.fee ≠ .unknown := by
  simp only [feeGuards, guard, List.forall_mem_cons, decide_eq_true_eq] at passes
  exact passes.1

theorem fillOf_eq_ok {expected gasCost : Decimal} {charges : Charges} {fill : Fill}
    (filled : fillOf expected gasCost charges = .ok fill) :
    fill.expected = expected ∧ fill.gasCost = gasCost ∧ fill.charges = charges := by
  obtain ⟨_, -, filled⟩ := bind_eq_ok.mp filled
  cases filled
  exact ⟨rfl, rfl, rfl⟩

section Opportunities

variable {params : JsonObject} {gates : Gates} {legacySupportFallback : Bool}
  {row : OpportunityRow} {outcome : RowOutcome} {fill : Fill} {read : Statuses}

theorem opportunityOutcome_of_admitted
    (recomputed : recomputeBlockedReason row gates params legacySupportFallback = .ok (none, read))
    (judged : opportunityOutcome gates params legacySupportFallback row = .ok outcome) :
    ∃ amount fill, (row.payload.getD "initial_amount" (.text "0")).decimal = .ok amount ∧
      outcome.feeStatus = read.fee ∧ outcome.balanceStatus = read.balance ∧
      Filled params ⟨amount, row.expectedPnlAbs, row.gasEstimateUsdc⟩ outcome fill := by
  obtain ⟨-, passed⟩ := recomputeBlockedReason_eligible.mp recomputed
  obtain ⟨passes, -, -⟩ := opportunityChecks_passed.mp passed
  simp only [opportunityGuards, List.forall_mem_append] at passes
  obtain ⟨⟨⟨-, fee⟩, -⟩, balance⟩ := passes
  obtain ⟨_, again, judged⟩ := bind_eq_ok.mp judged
  cases recomputed.symm.trans again
  obtain ⟨amount, readAmount, judged⟩ := bind_eq_ok.mp judged
  obtain ⟨charges, priced, judged⟩ := bind_eq_ok.mp judged
  obtain ⟨fill, filled, judged⟩ := bind_eq_ok.mp judged
  obtain ⟨expected, gasCost, same⟩ := fillOf_eq_ok filled
  cases judged
  rw [← same] at priced
  exact ⟨amount, fill, readAmount, rfl, rfl, rfl, priced, expected, gasCost, rfl,
    feeGuards_known fee, (balanceGuards_known balance).1, (balanceGuards_known balance).2⟩

theorem judgeOpportunity_filled
    (judged : judgeOpportunity legacySupportFallback params row = .ok outcome)
    (eligible : outcome.verdict = .inr fill) :
    ∃ gates read amount, Gates.read params = .ok gates ∧
      recomputeBlockedReason row gates params legacySupportFallback = .ok (none, read) ∧
      (row.payload.getD "initial_amount" (.text "0")).decimal = .ok amount ∧
      outcome.feeStatus = read.fee ∧ outcome.balanceStatus = read.balance ∧
      Filled params ⟨amount, row.expectedPnlAbs, row.gasEstimateUsdc⟩ outcome fill := by
  obtain ⟨gates, readGates, judged⟩ := bind_eq_ok.mp judged
  obtain ⟨read, recomputed⟩ := opportunityOutcome_eligible judged eligible
  obtain ⟨amount, same, readAmount, fee, balance, filled⟩ :=
    opportunityOutcome_of_admitted recomputed judged
  cases Sum.inr.inj (filled.eligible.symm.trans eligible)
  exact ⟨gates, read, amount, readGates, recomputed, readAmount, fee, balance, filled⟩

end Opportunities

section Snapshots

variable {params : JsonObject} {gates : Gates} {defaults : SnapshotDefaults}
  {row : MarketSnapshot} {health : Option RouteHealth} {outcome : RowOutcome} {fill : Fill}
  {reading : SnapshotReading}

theorem snapshotOutcome_of_admitted (read : readSnapshot defaults row health = .ok reading)
    (passed : firstRefusal (snapshotChecks params gates reading row) = .ok none)
    (judged : snapshotOutcome gates defaults params row health = .ok outcome) :
    ∃ gasCost fill, metadataAmount row.metadata "gas_cost_usdc" defaults.gasCost = .ok gasCost ∧
      outcome.feeStatus = reading.statuses.fee ∧
      outcome.balanceStatus = reading.statuses.balance ∧
      Filled params ⟨reading.initialAmount, reading.expectedPnl, gasCost⟩ outcome fill := by
  obtain ⟨passes, -, -⟩ := snapshotChecks_passed.mp passed
  simp only [snapshotGuards, List.forall_mem_append] at passes
  obtain ⟨⟨⟨-, fee⟩, balance⟩, -⟩ := passes
  obtain ⟨_, again, judged⟩ := bind_eq_ok.mp judged
  cases read.symm.trans again
  obtain ⟨_, asked, judged⟩ := bind_eq_ok.mp judged
  cases passed.symm.trans asked
  obtain ⟨charges, priced, judged⟩ := bind_eq_ok.mp judged
  obtain ⟨gasCost, readGas, judged⟩ := bind_eq_ok.mp judged
  obtain ⟨fill, filled, judged⟩ := bind_eq_ok.mp judged
  obtain ⟨expected, sameGas, same⟩ := fillOf_eq_ok filled
  cases judged
  rw [← same] at priced
  exact ⟨gasCost, fill, readGas, rfl, rfl, rfl, priced, expected, sameGas, rfl,
    feeGuards_known fee, (balanceGuards_known balance).1, (balanceGuards_known balance).2⟩

theorem judgeSnapshot_filled (judged : judgeSnapshot params (row, health) = .ok outcome)
    (eligible : outcome.verdict = .inr fill) :
    ∃ gates defaults reading gasCost, Gates.read params = .ok gates ∧
      SnapshotDefaults.read params = .ok defaults ∧
      readSnapshot defaults row health = .ok reading ∧
      firstRefusal (snapshotChecks params gates reading row) = .ok none ∧
      metadataAmount row.metadata "gas_cost_usdc" defaults.gasCost = .ok gasCost ∧
      outcome.feeStatus = reading.statuses.fee ∧
      outcome.balanceStatus = reading.statuses.balance ∧
      Filled params ⟨reading.initialAmount, reading.expectedPnl, gasCost⟩ outcome fill := by
  obtain ⟨gates, readGates, judged⟩ := bind_eq_ok.mp judged
  obtain ⟨defaults, readDefaults, judged⟩ := bind_eq_ok.mp judged
  obtain ⟨reading, read, passed⟩ := snapshotOutcome_eligible judged eligible
  obtain ⟨gasCost, same, readGas, fee, balance, filled⟩ :=
    snapshotOutcome_of_admitted read passed judged
  cases Sum.inr.inj (filled.eligible.symm.trans eligible)
  exact ⟨gates, defaults, reading, gasCost, readGates, readDefaults, read, passed, readGas, fee,
    balance, filled⟩

end Snapshots

/-! ### Larger penalties leave the gates as they are -/

section Harsher

variable {mild harsh : JsonObject}

theorem getD_of_harsher (harsher : HarsherPenalties mild harsh) {key : String}
    (fallback : JsonValue) (other : key ∉ penaltyParameters) :
    mild.getD key fallback = harsh.getD key fallback :=
  JsonObject.getD_congr fallback (harsher.rest key other)

theorem gates_of_harsher (harsher : HarsherPenalties mild harsh) :
    Gates.read mild = Gates.read harsh ∧
      SnapshotDefaults.read mild = SnapshotDefaults.read harsh ∧
      minFeeConfidence mild = minFeeConfidence harsh ∧
      minBalanceConfidence mild = minBalanceConfidence harsh := by
  have edge : "min_modeled_edge_bps" ∉ penaltyParameters := by decide
  have slippage : "max_slippage_bps" ∉ penaltyParameters := by decide
  have age : "max_quote_age_seconds" ∉ penaltyParameters := by decide
  have share : "liquidity_cap_ratio" ∉ penaltyParameters := by decide
  have gas : "default_gas_cost_usdc" ∉ penaltyParameters := by decide
  have defaultSlippage : "default_slippage_bps" ∉ penaltyParameters := by decide
  have fee : "min_fee_confidence_status" ∉ penaltyParameters := by decide
  have balance : "min_balance_confidence_status" ∉ penaltyParameters := by decide
  refine ⟨?_, ?_, ?_, ?_⟩
  · simp only [Gates.read, getD_of_harsher harsher _ edge, getD_of_harsher harsher _ slippage,
      getD_of_harsher harsher _ age, getD_of_harsher harsher _ share]
  · simp only [SnapshotDefaults.read, getD_of_harsher harsher _ gas,
      getD_of_harsher harsher _ defaultSlippage]
  · simp only [minFeeConfidence, getD_of_harsher harsher _ fee]
  · simp only [minBalanceConfidence, getD_of_harsher harsher _ balance]

theorem opportunityChecks_of_harsher (harsher : HarsherPenalties mild harsh) (read : Statuses)
    (gates : Gates) (row : OpportunityRow) :
    opportunityChecks read mild gates row = opportunityChecks read harsh gates row := by
  obtain ⟨-, -, fee, balance⟩ := gates_of_harsher harsher
  simp only [opportunityChecks, opportunityGuards, feeGuards, balanceGuards, fee, balance]

theorem snapshotChecks_of_harsher (harsher : HarsherPenalties mild harsh) (gates : Gates)
    (reading : SnapshotReading) (row : MarketSnapshot) :
    snapshotChecks mild gates reading row = snapshotChecks harsh gates reading row := by
  obtain ⟨-, -, fee, balance⟩ := gates_of_harsher harsher
  simp only [snapshotChecks, snapshotGuards, feeGuards, balanceGuards, fee, balance]

theorem recomputeBlockedReason_of_harsher (harsher : HarsherPenalties mild harsh)
    (row : OpportunityRow) (gates : Gates) (legacySupportFallback : Bool) :
    recomputeBlockedReason row gates mild legacySupportFallback =
      recomputeBlockedReason row gates harsh legacySupportFallback := by
  simp only [recomputeBlockedReason, opportunityChecks_of_harsher harsher]

end Harsher

/-! ### The fill model -/

/-- A loop that fills conservatively. `gasCost` is the gas that it charges a row, `Kept` holds of
the rows whose columns are of their types, and `Alike` of rows that differ in their evidence
only. -/
structure ConservativeFills {ρ : Type} (judge : JsonObject → ρ → Except String RowOutcome)
    (gasCost : JsonObject → ρ → Except String Decimal) (Kept : ρ → Prop) (Alike : ρ → ρ → Prop) :
    Prop where
  belowExpected : ∀ params row outcome fill, NonnegPenalties params → Kept row →
    judge params row = .ok outcome → outcome.verdict = .inr fill →
    ∃ gas, gasCost params row = .ok gas ∧
      ∀ net, outcome.expectedPnl.sub gas = .ok net → fill.simulatedPnl ≤ net
  harsher : ∀ mild harsh row outcome fill other, HarsherPenalties mild harsh →
    judge mild row = .ok outcome → outcome.verdict = .inr fill → judge harsh row = .ok other →
    ∃ last, other.verdict = .inr last ∧ last.simulatedPnl ≤ fill.simulatedPnl
  evidence : ∀ params first second outcome fill other last, NonnegPenalties params →
    Alike first second → judge params first = .ok outcome → outcome.verdict = .inr fill →
    judge params second = .ok other → other.verdict = .inr last →
    outcome.feeStatus.rank ≤ other.feeStatus.rank →
    outcome.balanceStatus.rank ≤ other.balanceStatus.rank →
    fill.simulatedPnl ≤ last.simulatedPnl

def opportunityGas (_params : JsonObject) (row : OpportunityRow) : Except String Decimal :=
  .ok row.gasEstimateUsdc

def snapshotGas (params : JsonObject) (pair : MarketSnapshot × Option RouteHealth) :
    Except String Decimal := do
  let defaults ← SnapshotDefaults.read params
  metadataAmount pair.1.metadata "gas_cost_usdc" defaults.gasCost

/-- The expected PnL is of its column, `Numeric(18, 8)`. -/
def KeptOpportunity (row : OpportunityRow) : Prop := row.expectedPnlAbs.Fits 18 8

/-- The expected PnL of a snapshot is computed, whatever its columns hold. -/
def KeptSnapshot (_pair : MarketSnapshot × Option RouteHealth) : Prop := True

/-- The same amounts, whatever else the rows say. -/
structure AlikeOpportunities (first second : OpportunityRow) : Prop where
  expectedPnlAbs : first.expectedPnlAbs = second.expectedPnlAbs
  gasEstimateUsdc : first.gasEstimateUsdc = second.gasEstimateUsdc
  initialAmount : first.payload.get? "initial_amount" = second.payload.get? "initial_amount"

/-- The same amounts, whatever else the rows and the health rows beside them say. -/
structure AlikeSnapshots (first second : MarketSnapshot × Option RouteHealth) : Prop where
  amountIn : first.1.amountIn = second.1.amountIn
  quotedAmountOut : first.1.quotedAmountOut = second.1.quotedAmountOut
  metadata : ∀ key ∈ ["initial_amount", "final_amount", "gas_cost_usdc"],
    first.1.metadata.get? key = second.1.metadata.get? key

theorem metadataAmount_congr {first second : JsonObject} {key : String} {fallback : Decimal}
    (same : first.get? key = second.get? key) :
    metadataAmount first key fallback = metadataAmount second key fallback := by
  rw [metadataAmount, metadataAmount, same]

/-- The amounts of a snapshot's reading do not depend on its evidence. -/
theorem reading_of_alike {first second : MarketSnapshot × Option RouteHealth}
    {defaults : SnapshotDefaults} {reading other : SnapshotReading}
    (alike : AlikeSnapshots first second)
    (read : readSnapshot defaults first.1 first.2 = .ok reading)
    (readOther : readSnapshot defaults second.1 second.2 = .ok other) :
    reading.initialAmount = other.initialAmount ∧ reading.expectedPnl = other.expectedPnl := by
  obtain ⟨amount, final, empty, readAmount, readFinal, compared, initial, expected⟩ :=
    (readSnapshot_readFrom read).amounts
  obtain ⟨otherAmount, otherFinal, otherEmpty, readOtherAmount, readOtherFinal, comparedOther,
    otherInitial, otherExpected⟩ := (readSnapshot_readFrom readOther).amounts
  rw [metadataAmount_congr (alike.metadata "initial_amount" (by decide)), alike.amountIn]
    at readAmount
  rw [metadataAmount_congr (alike.metadata "final_amount" (by decide)), alike.quotedAmountOut]
    at readFinal
  cases readAmount.symm.trans readOtherAmount
  cases readFinal.symm.trans readOtherFinal
  cases compared.symm.trans comparedOther
  have same : reading.initialAmount = other.initialAmount := initial.trans otherInitial.symm
  rw [same] at expected
  exact ⟨same, Except.ok.inj (expected.symm.trans otherExpected)⟩

theorem opportunities_conservative (legacySupportFallback : Bool) :
    ConservativeFills (judgeOpportunity legacySupportFallback) opportunityGas KeptOpportunity
      AlikeOpportunities := by
  constructor
  · intro params row outcome fill nonneg kept judged eligible
    obtain ⟨_, _, _, -, -, -, -, -, filled⟩ := judgeOpportunity_filled judged eligible
    have settled : row.expectedPnlAbs.Settled := kept.settled (by norm_num) (by norm_num)
    exact ⟨row.gasEstimateUsdc, rfl, fun net => filled.pnl_le_expected_sub_gas nonneg settled⟩
  · intro mild harsh row outcome fill other harsher judged eligible judgedOther
    obtain ⟨gates, read, amount, readGates, recomputed, readAmount, fee, balance, filled⟩ :=
      judgeOpportunity_filled judged eligible
    rw [recomputeBlockedReason_of_harsher harsher] at recomputed
    rw [(gates_of_harsher harsher).1] at readGates
    obtain ⟨_, readAgain, judgedOther⟩ := bind_eq_ok.mp judgedOther
    cases readGates.symm.trans readAgain
    obtain ⟨_, last, readSame, otherFee, otherBalance, filledOther⟩ :=
      opportunityOutcome_of_admitted recomputed judgedOther
    cases readAmount.symm.trans readSame
    exact ⟨last, filledOther.eligible, filled.pnl_le_of_harsher filledOther harsher
      (otherFee.trans fee.symm) (otherBalance.trans balance.symm)⟩
  · intro params first second outcome fill other last nonneg alike judged eligible judgedOther
      eligibleOther fee balance
    obtain ⟨-, -, amount, -, -, readAmount, -, -, filled⟩ :=
      judgeOpportunity_filled judged eligible
    obtain ⟨-, -, same, -, -, readSame, -, -, filledOther⟩ :=
      judgeOpportunity_filled judgedOther eligibleOther
    rw [JsonObject.getD, alike.initialAmount] at readAmount
    cases readAmount.symm.trans readSame
    rw [alike.expectedPnlAbs, alike.gasEstimateUsdc] at filled
    exact filled.pnl_le_of_evidence filledOther nonneg fee balance

theorem snapshots_conservative :
    ConservativeFills judgeSnapshot snapshotGas KeptSnapshot AlikeSnapshots := by
  constructor
  · intro params row outcome fill nonneg _kept judged eligible
    obtain ⟨_, defaults, reading, gasCost, -, readDefaults, read, -, readGas, -, -, filled⟩ :=
      judgeSnapshot_filled judged eligible
    obtain ⟨_, _, _, -, -, -, -, expected⟩ := (readSnapshot_readFrom read).amounts
    have settled : reading.expectedPnl.Settled := Decimal.settled_sub expected
    refine ⟨gasCost, ?_, fun net => filled.pnl_le_expected_sub_gas nonneg settled⟩
    rw [snapshotGas, readDefaults]
    exact readGas
  · intro mild harsh row outcome fill other harsher judged eligible judgedOther
    obtain ⟨gates, defaults, reading, gasCost, readGates, readDefaults, read, passed, readGas, fee,
      balance, filled⟩ := judgeSnapshot_filled judged eligible
    rw [snapshotChecks_of_harsher harsher] at passed
    rw [(gates_of_harsher harsher).1] at readGates
    rw [(gates_of_harsher harsher).2.1] at readDefaults
    obtain ⟨_, gatesAgain, judgedOther⟩ := bind_eq_ok.mp judgedOther
    cases readGates.symm.trans gatesAgain
    obtain ⟨_, defaultsAgain, judgedOther⟩ := bind_eq_ok.mp judgedOther
    cases readDefaults.symm.trans defaultsAgain
    obtain ⟨_, last, gasAgain, otherFee, otherBalance, filledOther⟩ :=
      snapshotOutcome_of_admitted read passed judgedOther
    cases readGas.symm.trans gasAgain
    exact ⟨last, filledOther.eligible, filled.pnl_le_of_harsher filledOther harsher
      (otherFee.trans fee.symm) (otherBalance.trans balance.symm)⟩
  · intro params first second outcome fill other last nonneg alike judged eligible judgedOther
      eligibleOther fee balance
    obtain ⟨-, defaults, reading, gasCost, -, readDefaults, read, -, readGas, -, -, filled⟩ :=
      judgeSnapshot_filled judged eligible
    obtain ⟨-, _, otherReading, otherGas, -, defaultsAgain, readOther, -, readOtherGas, -, -,
      filledOther⟩ := judgeSnapshot_filled judgedOther eligibleOther
    cases readDefaults.symm.trans defaultsAgain
    obtain ⟨initialAmount, expectedPnl⟩ := reading_of_alike alike read readOther
    rw [metadataAmount_congr (alike.metadata "gas_cost_usdc" (by decide))] at readGas
    cases readGas.symm.trans readOtherGas
    rw [initialAmount, expectedPnl] at filled
    exact filled.pnl_le_of_evidence filledOther nonneg fee balance

/-- In both loops an eligible row earns no more than its expected PnL less gas, no more under
larger penalties, and no less on better evidence. -/
theorem fills_are_conservative (legacySupportFallback : Bool) :
    ConservativeFills (judgeOpportunity legacySupportFallback) opportunityGas KeptOpportunity
        AlikeOpportunities ∧
      ConservativeFills judgeSnapshot snapshotGas KeptSnapshot AlikeSnapshots :=
  ⟨opportunities_conservative legacySupportFallback, snapshots_conservative⟩

end BacktestEngine

/-! ### A gain of three, gas of a half, and penalties on a hundred -/

namespace Sample

open BacktestEngine

def pricedParams (gasBps : String) : JsonObject :=
  [ ("gas_penalty_bps", .number gasBps), ("fallback_fee_penalty_bps", .number "5"),
    ("unverified_fee_penalty_bps", .number "10"), ("unverified_balance_penalty_bps", .number "10") ]

def pricedRow (feeStatus : String) : OpportunityRow :=
  { replayRow 3 with
    gasEstimateUsdc := .finite (1 / 2)
    payload := ("fee_known_status", .text feeStatus) :: verifiedPayload }

def pricedSnapshot : MarketSnapshot × Option RouteHealth :=
  ({ timestamp := 0, context := "leg_b", amountIn := .finite 100, quotedAmountOut := .finite 103
     liquidityUsd := .finite 1000000, quoteAgeSeconds := .finite 1
     metadata := ("fee_known_status", .text "config_only") :: verifiedPayload }, none)

theorem pricedParams_nonneg {gasBps : String}
    (read : ∀ key ∈ penaltyParameters,
      (((pricedParams gasBps).getD key (.number "0")).decimal.toOption.all (0 ≤ ·)) = true) :
    NonnegPenalties (pricedParams gasBps) := by
  intro key known bps reads
  have all := read key known
  rw [reads] at all
  exact of_decide_eq_true all

theorem pricedParams_harsher :
    HarsherPenalties (pricedParams "2") (pricedParams "9") := by
  constructor
  · have compared : ∀ key ∈ penaltyParameters,
        ((pricedParams "2").getD key (.number "0")).decimal.toOption.any (fun less =>
          ((pricedParams "9").getD key (.number "0")).decimal.toOption.any (less ≤ ·)) = true := by
      decide +kernel
    intro key known less more reads readsMore
    have ordered := compared key known
    rw [reads, readsMore] at ordered
    exact of_decide_eq_true ordered
  · intro key other
    simp only [penaltyParameters, List.mem_cons, not_or] at other
    have gas : (key == "gas_penalty_bps") = false := beq_false_of_ne other.1
    simp [JsonObject.get?, pricedParams, List.lookup_cons, gas]

/-- The row is judged eligible, with these ranks of its evidence and these amounts. -/
def pricedAt (fee balance : Nat) (expected pnl : Rat) (outcome : RowOutcome) : Bool :=
  outcome.feeStatus.rank = fee && outcome.balanceStatus.rank = balance &&
    outcome.expectedPnl = .finite expected &&
    outcome.verdict.getRight?.any (fun fill => fill.simulatedPnl = .finite pnl)

theorem priced_of_evaluates {judged : Except String RowOutcome} {fee balance : Nat}
    {expected pnl : Rat}
    (evaluates : judged.toOption.any (pricedAt fee balance expected pnl) = true) :
    ∃ outcome fill, judged = .ok outcome ∧ outcome.verdict = .inr fill ∧
      outcome.feeStatus.rank = fee ∧ outcome.balanceStatus.rank = balance ∧
      outcome.expectedPnl = .finite expected ∧ fill.simulatedPnl = .finite pnl := by
  obtain ⟨outcome, done, priced⟩ := ok_of_any evaluates
  simp only [pricedAt, Bool.and_eq_true, decide_eq_true_eq] at priced
  obtain ⟨⟨⟨fees, balances⟩, expects⟩, fills⟩ := priced
  cases verdict : outcome.verdict with
  | inl refusal =>
      rw [verdict] at fills
      cases fills
  | inr fill =>
      rw [verdict, Sum.getRight?_inr, Option.any_some, decide_eq_true_eq] at fills
      exact ⟨outcome, fill, done, verdict, fees, balances, expects, fills⟩

end Sample

/-- A declared fee and a configured one, two and nine basis points of gas penalty, and a snapshot
of the same amounts. -/
theorem BacktestEngine.fills_are_conservative_sample :
    ∃ declared configured harsher ofSnapshot : Fill,
      declared.simulatedPnl = .finite (248 / 100) ∧
        configured.simulatedPnl = .finite (238 / 100) ∧
        harsher.simulatedPnl = .finite (231 / 100) ∧
        ofSnapshot.simulatedPnl = .finite (287 / 100) ∧
        declared.simulatedPnl ≤ .finite (5 / 2) ∧
        configured.simulatedPnl ≤ declared.simulatedPnl ∧
        harsher.simulatedPnl ≤ configured.simulatedPnl ∧
        ofSnapshot.simulatedPnl ≤ .finite (299 / 100) := by
  have nonneg : NonnegPenalties (Sample.pricedParams "2") :=
    Sample.pricedParams_nonneg (by decide +kernel)
  obtain ⟨first, declared, judgedFirst, eligibleFirst, feeFirst, balanceFirst, expectedFirst,
    pnlFirst⟩ := @Sample.priced_of_evaluates
      (judgeOpportunity false (Sample.pricedParams "2") (Sample.pricedRow "venue_declared"))
      3 4 3 (248 / 100) (by decide +kernel)
  obtain ⟨second, configured, judgedSecond, eligibleSecond, feeSecond, balanceSecond, -,
    pnlSecond⟩ := @Sample.priced_of_evaluates
      (judgeOpportunity false (Sample.pricedParams "2") (Sample.pricedRow "config_only"))
      2 4 3 (238 / 100) (by decide +kernel)
  obtain ⟨third, harsher, judgedThird, eligibleThird, -, -, -, pnlThird⟩ :=
    @Sample.priced_of_evaluates
      (judgeOpportunity false (Sample.pricedParams "9") (Sample.pricedRow "config_only"))
      2 4 3 (231 / 100) (by decide +kernel)
  obtain ⟨fourth, ofSnapshot, judgedFourth, eligibleFourth, -, -, expectedFourth, pnlFourth⟩ :=
    @Sample.priced_of_evaluates (judgeSnapshot (Sample.pricedParams "2") Sample.pricedSnapshot)
      2 4 3 (287 / 100) (by decide +kernel)
  have kept : KeptOpportunity (Sample.pricedRow "venue_declared") :=
    ⟨300000000, by norm_num, by decide +kernel⟩
  obtain ⟨gas, charged, below⟩ := (fills_are_conservative false).1.belowExpected _ _ first declared
    nonneg kept judgedFirst eligibleFirst
  cases charged
  rw [expectedFirst] at below
  obtain ⟨gas, charged, belowSnapshot⟩ := (fills_are_conservative false).2.belowExpected _ _ fourth
    ofSnapshot nonneg trivial judgedFourth eligibleFourth
  rw [expectedFourth] at belowSnapshot
  obtain ⟨last, eligibleLast, less⟩ := (fills_are_conservative false).1.harsher _ _ _ second
    configured third Sample.pricedParams_harsher judgedSecond eligibleSecond judgedThird
  cases eligibleThird.symm.trans eligibleLast
  have gasOfSnapshot : snapshotGas (Sample.pricedParams "2") Sample.pricedSnapshot =
      .ok (.finite (1 / 100)) := by decide +kernel
  cases charged.symm.trans gasOfSnapshot
  refine ⟨declared, configured, harsher, ofSnapshot, pnlFirst, pnlSecond, pnlThird, pnlFourth,
    below _ (by decide +kernel), ?_, less, belowSnapshot _ (by decide +kernel)⟩
  exact (fills_are_conservative false).1.evidence (Sample.pricedParams "2")
    (Sample.pricedRow "config_only") (Sample.pricedRow "venue_declared") second configured first
    declared nonneg ⟨rfl, rfl, rfl⟩ judgedSecond eligibleSecond judgedFirst eligibleFirst
    (by omega) (by omega)

end ArbitrageBot
