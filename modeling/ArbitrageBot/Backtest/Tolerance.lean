/-
An opportunities replay over payloads of arbitrary text: which rows it gets
past, and what a row that it cannot interpret does to the others.
-/

import ArbitrageBot.Backtest.Completion
import ArbitrageBot.Backtest.FillModel

namespace ArbitrageBot

open Fallible GuardChain PythonDecimal PythonJson RunningRisk

/-- A row of `opportunities` as it is stored, its amounts as numbers and its payload as text. -/
structure StoredOpportunity where
  timestamp : Instant
  status : String
  modeledEdgeBps : Rat
  expectedPnlAbs : Rat
  expectedSlippageBps : Rat
  gasEstimateUsdc : Rat
  quoteAgeSeconds : Rat
  payloadJson : String

def StoredOpportunity.parsed (loads : String → Option JsonDocument) (stored : StoredOpportunity) :
    OpportunityRow :=
  { timestamp := stored.timestamp
    status := stored.status
    modeledEdgeBps := .finite stored.modeledEdgeBps
    expectedPnlAbs := .finite stored.expectedPnlAbs
    expectedSlippageBps := .finite stored.expectedSlippageBps
    gasEstimateUsdc := .finite stored.gasEstimateUsdc
    quoteAgeSeconds := .finite stored.quoteAgeSeconds
    payload := BacktestEngine.safeJson loads stored.payloadJson }

namespace BacktestEngine

/-- `_evaluate_opportunity_rows` on the stored rows. -/
def evaluateStoredRows (loads : String → Option JsonDocument) (key : RunKey) (params : JsonObject)
    (legacySupportFallback : Bool) (rows : List StoredOpportunity) : Except String Finished :=
  evaluateOpportunityRows key (rows.map (StoredOpportunity.parsed loads)) params
    legacySupportFallback

structure Gates.Comparable (gates : Gates) : Prop where
  minEdge : gates.minEdge.isNan = false
  maxSlippage : gates.maxSlippage.isNan = false
  maxQuoteAge : gates.maxQuoteAge.isNan = false
  liquidityCapRatio : gates.liquidityCapRatio.isNan = false

/-- Parameters that read as numbers wherever a replay reads a number from them. -/
structure ValidParams (params : JsonObject) : Prop where
  gates : ∃ gates, Gates.read params = .ok gates ∧ gates.Comparable
  penalties : ∀ key ∈ penaltyParameters, ∃ bps, PenaltyBps params key (.finite bps)

/-- What stands in columns of the same types can be written to those of a trade. -/
structure Rewritable (columns : NumericColumns) (rows : List StoredOpportunity) : Prop where
  edges : ∀ stored ∈ rows, ∃ kept, columns.decimal10_5 (.finite stored.modeledEdgeBps) = .ok kept
  expected : ∀ stored ∈ rows, ∃ kept,
    columns.decimal18_8 (.finite stored.expectedPnlAbs) = .ok kept
  nothing : ∃ kept, columns.decimal18_8 0 = .ok kept

/-! ### What can be read of a payload -/

/-- Absent, `null` or a text: what a status may be. -/
def isTextual : Option JsonValue → Bool
  | none | some .null | some (.text _) => true
  | some _ => false

theorem optionalText_ok_iff {value : Option JsonValue} :
    (∃ text, optionalText value = .ok text) ↔ isTextual value = true := by
  match value with
  | none => exact iff_of_true ⟨_, rfl⟩ rfl
  | some .null => exact iff_of_true ⟨_, rfl⟩ rfl
  | some (.text content) => exact iff_of_true ⟨_, rfl⟩ rfl
  | some (.bool _) => simp [optionalText, isTextual]
  | some (.number _) => simp [optionalText, isTextual]
  | some (.container _) => simp [optionalText, isTextual]

def textOf : Option JsonValue → Option String
  | some (.text content) => some content
  | _ => none

theorem optionalText_eq {value : Option JsonValue} (textual : isTextual value = true) :
    optionalText value = .ok (textOf value) := by
  match value with
  | none => rfl
  | some .null => rfl
  | some (.text content) => rfl

theorem optionalText_error {value : Option JsonValue} (other : isTextual value ≠ true) :
    ∃ reason, optionalText value = .error reason := by
  cases read : optionalText value with
  | error reason => exact ⟨reason, rfl⟩
  | ok text => exact absurd (optionalText_ok_iff.mp ⟨text, read⟩) other

/-- Every status that is looked at is textual: a hint only where the status itself is not
canonical, the legacy `quote_match` only where nothing is known without it. -/
structure StatusesReadable (payload : JsonObject) : Prop where
  fee : isTextual (payload.get? "fee_known_status") = true
  feeHint : (FeeConfidence.ofText? (norm (textOf (payload.get? "fee_known_status")))).isSome ∨
    isTextual (orElse (payload.get? "fee_provenance") (payload.get? "fee_source")) = true
  balance : isTextual (payload.get? "balance_match_status") = true
  balanceHint :
    (BalanceConfidence.ofText? (norm (textOf (payload.get? "balance_match_status")))).isSome ∨
      isTextual (payload.get? "balance_failure_reason") = true
  quoteMatch : isTextual (payload.get? "quote_match_status") = true
  support : isTextual (payload.get? "support_status") = true
  legacyQuoteMatch :
    normalizeQuoteMatchStatus (textOf (payload.get? "quote_match_status")) ≠ .unknown ∨
      isTextual (payload.get? "quote_match") = true

section Levels

variable {level : Type} {named : String → Option level}
  {normalize : Option String → Option String → level} {raw hint : Option JsonValue}

/-- What the readers of fee and balance are: the hint is looked at beside a value that names no
level. -/
def readLevel (named : String → Option level) (normalize : Option String → Option String → level)
    (raw hint : Option JsonValue) : Except String level := do
  let value ← optionalText raw
  if (named (norm value)).isSome then return normalize value none
  else
    let text ← optionalText hint
    return normalize value text

theorem readLevel_ok_iff :
    (∃ read, readLevel named normalize raw hint = .ok read) ↔
      isTextual raw = true ∧ ((named (norm (textOf raw))).isSome ∨ isTextual hint = true) := by
  by_cases textual : isTextual raw = true
  · by_cases canonical : (named (norm (textOf raw))).isSome
    · simp [readLevel, optionalText_eq textual, canonical, textual, bind, Except.bind, pure,
        Except.pure]
    · by_cases textualHint : isTextual hint = true
      · simp [readLevel, optionalText_eq textual, optionalText_eq textualHint, canonical, textual,
          textualHint, bind, Except.bind, pure, Except.pure]
      · obtain ⟨reason, raised⟩ := optionalText_error textualHint
        simp [readLevel, optionalText_eq textual, raised, canonical, textualHint, bind,
          Except.bind]
  · obtain ⟨reason, raised⟩ := optionalText_error textual
    simp [readLevel, raised, textual, bind, Except.bind]

theorem readLevel_of_unnamed {stored : String} {read : level}
    (unnamed : named (norm (some stored)) = none)
    (answered : readLevel named normalize (some (.text stored)) hint = .ok read) :
    read = normalize (some stored) (textOf hint) := by
  obtain ⟨value, readValue, answered⟩ := bind_eq_ok.mp answered
  cases readValue
  rw [unnamed, if_neg (by simp)] at answered
  obtain ⟨text, readText, answered⟩ := bind_eq_ok.mp answered
  have textual := optionalText_ok_iff.mp ⟨text, readText⟩
  have same : textOf hint = text :=
    Except.ok.inj ((optionalText_eq textual).symm.trans readText)
  rw [same]
  exact (Except.ok.inj answered).symm

theorem readFeeConfidence_eq :
    readFeeConfidence = readLevel FeeConfidence.ofText? normalizeFeeConfidence :=
  rfl

theorem readBalanceConfidence_eq :
    readBalanceConfidence = readLevel BalanceConfidence.ofText? normalizeBalanceConfidence :=
  rfl

theorem readFeeConfidence_ok_iff :
    (∃ fee, readFeeConfidence raw hint = .ok fee) ↔
      isTextual raw = true ∧
        ((FeeConfidence.ofText? (norm (textOf raw))).isSome ∨ isTextual hint = true) := by
  rw [readFeeConfidence_eq]
  exact readLevel_ok_iff

theorem readBalanceConfidence_ok_iff :
    (∃ balance, readBalanceConfidence raw hint = .ok balance) ↔
      isTextual raw = true ∧
        ((BalanceConfidence.ofText? (norm (textOf raw))).isSome ∨ isTextual hint = true) := by
  rw [readBalanceConfidence_eq]
  exact readLevel_ok_iff

end Levels

theorem readQuoteMatchStatus_eq {raw : Option JsonValue} (textual : isTextual raw = true) :
    readQuoteMatchStatus raw = .ok (normalizeQuoteMatchStatus (textOf raw)) := by
  simp only [readQuoteMatchStatus, optionalText_eq textual, bind, Except.bind, pure, Except.pure]

theorem readText_ok_iff {level : Type} {normalize : Option String → level}
    {raw : Option JsonValue} :
    (∃ read, (optionalText raw >>= fun value => pure (normalize value)) = .ok read) ↔
      isTextual raw = true := by
  rw [← optionalText_ok_iff]
  constructor
  · intro answered
    obtain ⟨read, answered⟩ := answered
    obtain ⟨text, readText, -⟩ := bind_eq_ok.mp answered
    exact ⟨text, readText⟩
  · intro answered
    obtain ⟨text, readText⟩ := answered
    exact ⟨normalize text, by rw [readText]; rfl⟩

theorem readQuoteMatchStatus_ok_iff {raw : Option JsonValue} :
    (∃ quoteMatch, readQuoteMatchStatus raw = .ok quoteMatch) ↔ isTextual raw = true :=
  readText_ok_iff

theorem readSupportStatus_ok_iff {raw : Option JsonValue} :
    (∃ support, readSupportStatus raw = .ok support) ↔ isTextual raw = true :=
  readText_ok_iff

/-- The statuses of a payload are computed exactly when every one that is looked at is textual. -/
theorem opportunityStatuses_ok_iff {payload : JsonObject} {legacySupportFallback : Bool} :
    (∃ read, opportunityStatuses payload legacySupportFallback = .ok read) ↔
      StatusesReadable payload := by
  constructor
  · intro computed
    obtain ⟨read, computed⟩ := computed
    obtain ⟨own, stored, computed⟩ := bind_eq_ok.mp computed
    obtain ⟨fee, readFee, stored⟩ := bind_eq_ok.mp stored
    obtain ⟨balance, readBalance, stored⟩ := bind_eq_ok.mp stored
    obtain ⟨ownQuoteMatch, readOwn, stored⟩ := bind_eq_ok.mp stored
    obtain ⟨support, readSupport, stored⟩ := bind_eq_ok.mp stored
    cases stored
    obtain ⟨feeTextual, feeHint⟩ := readFeeConfidence_ok_iff.mp ⟨fee, readFee⟩
    obtain ⟨balanceTextual, balanceHint⟩ := readBalanceConfidence_ok_iff.mp ⟨balance, readBalance⟩
    have quoteTextual := readQuoteMatchStatus_ok_iff.mp ⟨ownQuoteMatch, readOwn⟩
    have supportTextual := readSupportStatus_ok_iff.mp ⟨support, readSupport⟩
    refine ⟨feeTextual, feeHint, balanceTextual, balanceHint, quoteTextual, supportTextual, ?_⟩
    cases (readQuoteMatchStatus_eq quoteTextual).symm.trans readOwn
    refine or_iff_not_imp_left.mpr fun unknown => ?_
    simp only [if_pos (not_not.mp unknown)] at computed
    obtain ⟨quoteMatch, readQuoteMatch, -⟩ := bind_eq_ok.mp computed
    exact readQuoteMatchStatus_ok_iff.mp ⟨quoteMatch, readQuoteMatch⟩
  · intro readable
    obtain ⟨fee, readFee⟩ := readFeeConfidence_ok_iff.mpr ⟨readable.fee, readable.feeHint⟩
    obtain ⟨balance, readBalance⟩ :=
      readBalanceConfidence_ok_iff.mpr ⟨readable.balance, readable.balanceHint⟩
    obtain ⟨support, readSupport⟩ := readSupportStatus_ok_iff.mpr readable.support
    have readOwn := readQuoteMatchStatus_eq readable.quoteMatch
    by_cases unknown :
        normalizeQuoteMatchStatus (textOf (payload.get? "quote_match_status")) = .unknown
    · have textual := readable.legacyQuoteMatch.resolve_left (not_not.mpr unknown)
      obtain ⟨quoteMatch, readQuoteMatch⟩ := readQuoteMatchStatus_ok_iff.mpr textual
      simp only [opportunityStatuses, payloadStatuses, readFee, readBalance, readOwn, readSupport,
        unknown, readQuoteMatch, bind, Except.bind, pure, Except.pure, if_true]
      exact ⟨_, rfl⟩
    · simp only [opportunityStatuses, payloadStatuses, readFee, readBalance, readOwn, readSupport,
        unknown, bind, Except.bind, pure, Except.pure, if_false]
      exact ⟨_, rfl⟩

/-! ### What can be read of the amounts -/

/-- An amount that reads as a decimal other than a NaN. -/
def AmountReads (payload : JsonObject) (key : String) (amount : Decimal) : Prop :=
  (payload.getD key (.text "0")).decimal = .ok amount ∧ amount.isNan = false

/-- The liquidity is looked at beside a positive amount only, and their share where both are
positive. -/
def AmountsReadable (payload : JsonObject) : Prop :=
  ∃ amountIn, AmountReads payload "initial_amount" amountIn ∧
    (0 < amountIn → ∃ liquidity, AmountReads payload "smaller_pool_liquidity_usdc" liquidity ∧
      (0 < liquidity → ∃ share, amountIn.div liquidity = .ok share))

/-- A share of two positive amounts is no NaN. -/
theorem isNan_of_share {amountIn liquidity share : Decimal} (positive : 0 < amountIn)
    (liquid : 0 < liquidity) (divided : amountIn.div liquidity = .ok share) :
    share.isNan = false := by
  have number : amountIn.isNan = false := (Decimal.isNan_of_le positive.le).symm
  have poolNumber : liquidity.isNan = false := (Decimal.isNan_of_le liquid.le).symm
  cases liquidity with
  | finite pool =>
      have more : 0 < pool := by
        rw [Decimal.zero_eq] at liquid
        exact (by simpa using lt_iff_le_not_ge.mp liquid : 0 ≤ pool ∧ 0 < pool).2
      exact Decimal.div_number more number divided
  | infinity negative =>
      cases amountIn with
      | finite amount =>
          cases divided
          rfl
      | infinity _ => cases divided
      | nan _ => cases number
  | nan _ => cases poolNumber

theorem refuseAmounts_ok_iff {payload : JsonObject} {gates : Gates}
    (comparable : gates.Comparable) :
    (∃ refusal, refuseAmounts payload gates = .ok refusal) ↔ AmountsReadable payload := by
  constructor
  · intro judged
    obtain ⟨refusal, judged⟩ := judged
    obtain ⟨amountIn, readAmount, judged⟩ := bind_eq_ok.mp judged
    obtain ⟨empty, compared, judged⟩ := bind_eq_ok.mp judged
    refine ⟨amountIn, ⟨readAmount, (Decimal.isAtMost_ok_iff.mp ⟨_, compared⟩).1⟩,
      fun positive => ?_⟩
    cases compared.symm.trans (Decimal.isAtMost_eq_false.mpr positive)
    obtain ⟨liquidity, readLiquidity, judged⟩ := bind_eq_ok.mp judged
    obtain ⟨dry, comparedLiquidity, judged⟩ := bind_eq_ok.mp judged
    refine ⟨liquidity, ⟨readLiquidity, (Decimal.isAtMost_ok_iff.mp ⟨_, comparedLiquidity⟩).1⟩,
      fun liquid => ?_⟩
    cases comparedLiquidity.symm.trans (Decimal.isAtMost_eq_false.mpr liquid)
    obtain ⟨share, divided, -⟩ := bind_eq_ok.mp judged
    exact ⟨share, divided⟩
  · intro readable
    obtain ⟨amountIn, ⟨readAmount, number⟩, rest⟩ := readable
    obtain ⟨empty, compared⟩ := Decimal.isAtMost_ok_iff.mpr ⟨number, Decimal.isNan_zero⟩
    cases empty with
    | true =>
        simp only [refuseAmounts, readAmount, compared, bind, Except.bind, pure, Except.pure,
          if_true]
        exact ⟨_, rfl⟩
    | false =>
        have positive := Decimal.isAtMost_eq_false.mp compared
        obtain ⟨liquidity, ⟨readLiquidity, poolNumber⟩, shared⟩ := rest positive
        obtain ⟨dry, comparedLiquidity⟩ :=
          Decimal.isAtMost_ok_iff.mpr ⟨poolNumber, Decimal.isNan_zero⟩
        cases dry with
        | true =>
            simp only [refuseAmounts, readAmount, compared, readLiquidity, comparedLiquidity, bind,
              Except.bind, pure, Except.pure, if_true, Bool.false_eq_true, if_false]
            exact ⟨_, rfl⟩
        | false =>
            have liquid := Decimal.isAtMost_eq_false.mp comparedLiquidity
            obtain ⟨share, divided⟩ := shared liquid
            obtain ⟨exceeds, comparedShare⟩ := Decimal.isLess_ok comparable.liquidityCapRatio
              (isNan_of_share positive liquid divided)
            simp only [refuseAmounts, readAmount, compared, readLiquidity, comparedLiquidity,
              divided, comparedShare, bind, Except.bind, pure, Except.pure, Bool.false_eq_true,
              if_false]
            exact ⟨_, (apply_ite Except.ok (exceeds = true) _ _).symm⟩

/-! ### When a row is judged -/

def opportunityFill (params : JsonObject) (row : OpportunityRow) (read : Statuses) :
    Except String Fill := do
  let initialAmount ← (row.payload.getD "initial_amount" (.text "0")).decimal
  let charges ← computePenalties initialAmount row.expectedPnlAbs read.fee read.balance params
  fillOf row.expectedPnlAbs row.gasEstimateUsdc charges

/-- The statuses of a row can be read; where it gets as far as its amounts, these can be; and where
it is eligible, it can be priced, and its PnL kept. -/
structure RowReadable (gates : Gates) (params : JsonObject) (legacySupportFallback : Bool)
    (columns : NumericColumns) (row : OpportunityRow) : Prop where
  statuses : StatusesReadable row.payload
  amounts : ∀ read, opportunityStatuses row.payload legacySupportFallback = .ok read →
    (∀ guard ∈ opportunityGuards read params row.payload, guard.passes = true) →
    WithinThresholds gates row.modeledEdgeBps row.expectedSlippageBps row.quoteAgeSeconds →
    AmountsReadable row.payload
  priced : ∀ read,
    recomputeBlockedReason row gates params legacySupportFallback = .ok (none, read) →
    ∃ fill kept, opportunityFill params row read = .ok fill ∧
      columns.decimal18_8 fill.simulatedPnl = .ok kept

def rowFill (gates : Gates) (params : JsonObject) (legacySupportFallback : Bool)
    (row : OpportunityRow) : Option Fill :=
  match recomputeBlockedReason row gates params legacySupportFallback with
  | .ok (none, read) => (opportunityFill params row read).toOption
  | .ok (some _, _) | .error _ => none

/-- The eligible rows' figures can be added up in their order. -/
def RowsAddable (gates : Gates) (params : JsonObject) (legacySupportFallback : Bool)
    (rows : List OpportunityRow) : Prop :=
  Addable
    (rows.filterMap fun row =>
      (rowFill gates params legacySupportFallback row).map fun _ => row.modeledEdgeBps)
    (rows.filterMap (rowFill gates params legacySupportFallback))

section Judged

variable {params : JsonObject} {gates : Gates} {legacySupportFallback : Bool}
  {row : OpportunityRow} {outcome : RowOutcome} {columns : NumericColumns}

theorem firstRefusal_ok_iff {ρ : Type} {checks : List (Except String (Option ρ))}
    {last : Except String (Option ρ)} (early : ∀ check ∈ checks, ∃ answer, check = .ok answer) :
    (∃ answer, firstRefusal (checks ++ [last]) = .ok answer) ↔
      ((∀ check ∈ checks, check = .ok none) → ∃ answer, last = .ok answer) := by
  induction checks with
  | nil =>
      cases last with
      | error reason => simp [firstRefusal, bind, Except.bind]
      | ok answer => cases answer <;> simp [firstRefusal, bind, Except.bind, pure, Except.pure]
  | cons check rest ih =>
      obtain ⟨⟨answer, rfl⟩, others⟩ := List.forall_mem_cons.mp early
      cases answer with
      | some refusal => simp [firstRefusal, bind, Except.bind, pure, Except.pure]
      | none =>
          rw [List.cons_append, List.forall_mem_cons]
          simpa [firstRefusal, bind, Except.bind] using ih others

theorem refuseIf_ok {ρ : Type} {test : Except String Bool} {refusal : ρ}
    (answers : ∃ answer, test = .ok answer) :
    ∃ answer, refuseIf test refusal = .ok answer := by
  obtain ⟨answer, rfl⟩ := answers
  cases answer <;> exact ⟨_, rfl⟩

theorem thresholdChecks_ok (comparable : gates.Comparable) {edge slippage age : Decimal}
    (edgeNumber : edge.isNan = false) (slippageNumber : slippage.isNan = false)
    (ageNumber : age.isNan = false) :
    ∀ check ∈ thresholdChecks gates edge slippage age, ∃ answer, check = .ok answer := by
  simp only [thresholdChecks, List.forall_mem_cons]
  exact ⟨refuseIf_ok (Decimal.isLess_ok edgeNumber comparable.minEdge),
    refuseIf_ok (Decimal.isLess_ok comparable.maxSlippage slippageNumber),
    refuseIf_ok (Decimal.isLess_ok comparable.maxQuoteAge ageNumber), by simp⟩

structure Numbers (row : OpportunityRow) : Prop where
  edge : row.modeledEdgeBps.isNan = false
  slippage : row.expectedSlippageBps.isNan = false
  age : row.quoteAgeSeconds.isNan = false

theorem opportunityChecks_ok_iff (comparable : gates.Comparable) (numbers : Numbers row)
    {read : Statuses} :
    (∃ refusal, firstRefusal (opportunityChecks read params gates row) = .ok refusal) ↔
      ((∀ guard ∈ opportunityGuards read params row.payload, guard.passes = true) →
        WithinThresholds gates row.modeledEdgeBps row.expectedSlippageBps row.quoteAgeSeconds →
        AmountsReadable row.payload) := by
  have thresholds := thresholdChecks_ok comparable numbers.edge numbers.slippage numbers.age
  have early : ∀ check ∈ refuseStatuses (opportunityGuards read params row.payload) ::
      thresholdChecks gates row.modeledEdgeBps row.expectedSlippageBps row.quoteAgeSeconds,
      ∃ answer, check = .ok answer :=
    List.forall_mem_cons.mpr ⟨⟨_, rfl⟩, thresholds⟩
  rw [opportunityChecks, firstRefusal_ok_iff early, List.forall_mem_cons, refuseStatuses_eq_none,
    thresholdChecks_passed, refuseAmounts_ok_iff comparable, and_imp]

theorem recomputeBlockedReason_ok_iff (comparable : gates.Comparable) (numbers : Numbers row) :
    (∃ judged, recomputeBlockedReason row gates params legacySupportFallback = .ok judged) ↔
      StatusesReadable row.payload ∧
        ∀ read, opportunityStatuses row.payload legacySupportFallback = .ok read →
          (∀ guard ∈ opportunityGuards read params row.payload, guard.passes = true) →
          WithinThresholds gates row.modeledEdgeBps row.expectedSlippageBps
            row.quoteAgeSeconds →
          AmountsReadable row.payload := by
  constructor
  · intro recomputed
    obtain ⟨judged, recomputed⟩ := recomputed
    obtain ⟨read, computed, recomputed⟩ := bind_eq_ok.mp recomputed
    obtain ⟨refusal, refused, -⟩ := bind_eq_ok.mp recomputed
    refine ⟨opportunityStatuses_ok_iff.mp ⟨read, computed⟩, fun same readSame => ?_⟩
    cases computed.symm.trans readSame
    exact (opportunityChecks_ok_iff comparable numbers).mp ⟨refusal, refused⟩
  · intro readable
    obtain ⟨statuses, amounts⟩ := readable
    obtain ⟨read, computed⟩ :=
      (@opportunityStatuses_ok_iff row.payload legacySupportFallback).mpr statuses
    obtain ⟨refusal, refused⟩ :=
      (opportunityChecks_ok_iff comparable numbers).mpr (amounts read computed)
    simp only [recomputeBlockedReason, computed, refused, bind, Except.bind, pure, Except.pure]
    exact ⟨_, rfl⟩

theorem outcome_eq_ok (judged : opportunityOutcome gates params legacySupportFallback row =
      .ok outcome) :
    outcome.modeledEdgeBps = row.modeledEdgeBps ∧ outcome.expectedPnl = row.expectedPnlAbs ∧
      rowFill gates params legacySupportFallback row = outcome.verdict.getRight? ∧
      ((∃ refusal read, outcome.verdict = .inl refusal ∧
          recomputeBlockedReason row gates params legacySupportFallback =
            .ok (some refusal, read)) ∨
        ∃ read fill, outcome.verdict = .inr fill ∧
          recomputeBlockedReason row gates params legacySupportFallback = .ok (none, read) ∧
          opportunityFill params row read = .ok fill) := by
  obtain ⟨⟨refusal, read⟩, recomputed, judged⟩ := bind_eq_ok.mp judged
  cases refusal with
  | some refusal =>
      cases judged
      refine ⟨rfl, rfl, ?_, .inl ⟨refusal, read, rfl, recomputed⟩⟩
      rw [rowFill, recomputed]
      rfl
  | none =>
      obtain ⟨amount, readAmount, judged⟩ := bind_eq_ok.mp judged
      obtain ⟨charges, priced, judged⟩ := bind_eq_ok.mp judged
      obtain ⟨fill, filled, judged⟩ := bind_eq_ok.mp judged
      cases judged
      have earned : opportunityFill params row read = .ok fill :=
        bind_eq_ok.mpr ⟨amount, readAmount, bind_eq_ok.mpr ⟨charges, priced, filled⟩⟩
      refine ⟨rfl, rfl, ?_, .inr ⟨read, fill, rfl, recomputed, earned⟩⟩
      simp only [rowFill, recomputed, earned]
      rfl

end Judged

/-! ### When a replay finishes -/

section Completion

variable {key : RunKey} {params : JsonObject} {gates : Gates} {legacySupportFallback : Bool}
  {rows : List OpportunityRow} {outcomes : List RowOutcome}

/-- The eligible outcomes are those that the rows' amounts give. -/
theorem eligible_of_judged
    (judged : Judged (opportunityOutcome gates params legacySupportFallback) rows outcomes) :
    (rows.filterMap fun row =>
        (rowFill gates params legacySupportFallback row).map fun _ => row.modeledEdgeBps) =
        eligibleEdges outcomes ∧
      rows.filterMap (rowFill gates params legacySupportFallback) = fills outcomes := by
  induction judged with
  | nil => exact ⟨rfl, rfl⟩
  | cons here _rest ih =>
      obtain ⟨edge, -, filled, -⟩ := outcome_eq_ok here
      obtain ⟨edges, others⟩ := ih
      constructor
      · simp only [eligibleEdges, List.filterMap_cons, filled, ← edge, edges]
      · simp only [fills, List.filterMap_cons, filled, others]

theorem opportunityOutcome_of_readable {row : OpportunityRow} (comparable : gates.Comparable)
    (numbers : Numbers row)
    (readable : RowReadable gates params legacySupportFallback key.columns row) :
    ∃ outcome, opportunityOutcome gates params legacySupportFallback row = .ok outcome := by
  obtain ⟨⟨refusal, read⟩, recomputed⟩ :=
    (recomputeBlockedReason_ok_iff comparable numbers).mpr ⟨readable.statuses, readable.amounts⟩
  cases refusal with
  | some refusal =>
      simp only [opportunityOutcome, recomputed, bind, Except.bind, pure, Except.pure]
      exact ⟨_, rfl⟩
  | none =>
      obtain ⟨fill, -, earned, -⟩ := readable.priced read recomputed
      obtain ⟨amount, readAmount, earned⟩ := bind_eq_ok.mp earned
      obtain ⟨charges, priced, filled⟩ := bind_eq_ok.mp earned
      simp only [opportunityOutcome, recomputed, readAmount, priced, filled, bind, Except.bind,
        pure, Except.pure]
      exact ⟨_, rfl⟩

/-- The columns take the trade of a row: they hold its edge and its expected PnL already. -/
structure Writable (columns : NumericColumns) (row : OpportunityRow) : Prop where
  edge : ∃ kept, columns.decimal10_5 row.modeledEdgeBps = .ok kept
  expected : ∃ kept, columns.decimal18_8 row.expectedPnlAbs = .ok kept
  nothing : ∃ kept, columns.decimal18_8 0 = .ok kept

theorem trade_ok_iff {row : OpportunityRow} {outcome : RowOutcome}
    (writable : Writable key.columns row) (judged :
      opportunityOutcome gates params legacySupportFallback row = .ok outcome) :
    (∃ trade, outcome.trade key = .ok trade) ↔
      ∀ fill, outcome.verdict = .inr fill →
        ∃ kept, key.columns.decimal18_8 fill.simulatedPnl = .ok kept := by
  obtain ⟨edge, expected, -, -⟩ := outcome_eq_ok judged
  obtain ⟨⟨_, keepsEdge⟩, ⟨_, keepsExpected⟩, ⟨_, keepsNothing⟩⟩ := writable
  rw [← edge] at keepsEdge
  rw [← expected] at keepsExpected
  constructor
  · intro inserted fill verdict
    obtain ⟨trade, inserted⟩ := inserted
    have kept := (trade_eq_ok inserted).2.2
    rw [verdict] at kept
    exact ⟨_, kept⟩
  · intro kept
    cases verdict : outcome.verdict with
    | inl refusal =>
        simp only [RowOutcome.trade, keepsEdge, keepsExpected, verdict, Sum.elim_inl, keepsNothing,
          bind, Except.bind, pure, Except.pure]
        exact ⟨_, rfl⟩
    | inr fill =>
        obtain ⟨_, keepsPnl⟩ := kept fill verdict
        simp only [RowOutcome.trade, keepsEdge, keepsExpected, verdict, Sum.elim_inr, keepsPnl,
          bind, Except.bind, pure, Except.pure]
        exact ⟨_, rfl⟩

theorem readable_of_judged {row : OpportunityRow} {outcome : RowOutcome}
    (comparable : gates.Comparable) (numbers : Numbers row)
    (writable : Writable key.columns row)
    (judged : opportunityOutcome gates params legacySupportFallback row = .ok outcome)
    (inserted : ∃ trade, outcome.trade key = .ok trade) :
    RowReadable gates params legacySupportFallback key.columns row := by
  obtain ⟨result, recomputed, -⟩ := bind_eq_ok.mp judged
  obtain ⟨statuses, amounts⟩ :=
    (recomputeBlockedReason_ok_iff comparable numbers).mp ⟨result, recomputed⟩
  refine ⟨statuses, amounts, fun read recomputed => ?_⟩
  obtain ⟨-, -, -, blocked | eligible⟩ := outcome_eq_ok judged
  · obtain ⟨refusal, other, -, refused⟩ := blocked
    cases recomputed.symm.trans refused
  · obtain ⟨other, fill, verdict, same, earned⟩ := eligible
    cases recomputed.symm.trans same
    obtain ⟨stored, keeps⟩ := (trade_ok_iff writable judged).mp inserted fill verdict
    exact ⟨fill, stored, earned, keeps⟩

theorem trade_of_readable {row : OpportunityRow} {outcome : RowOutcome}
    (writable : Writable key.columns row)
    (readable : RowReadable gates params legacySupportFallback key.columns row)
    (judged : opportunityOutcome gates params legacySupportFallback row = .ok outcome) :
    ∃ trade, outcome.trade key = .ok trade := by
  refine (trade_ok_iff writable judged).mpr fun fill verdict => ?_
  obtain ⟨-, -, -, blocked | eligible⟩ := outcome_eq_ok judged
  · obtain ⟨refusal, read, refused, -⟩ := blocked
    cases verdict.symm.trans refused
  · obtain ⟨read, other, same, recomputed, earned⟩ := eligible
    cases verdict.symm.trans same
    obtain ⟨priced, stored, earnedSame, keeps⟩ := readable.priced read recomputed
    cases earned.symm.trans earnedSame
    exact ⟨stored, keeps⟩

/-- A replay finishes exactly when every row is readable and the eligible ones can be added up. -/
theorem evaluateOpportunityRows_ok_iff (readGates : Gates.read params = .ok gates)
    (comparable : gates.Comparable) (numbers : ∀ row ∈ rows, Numbers row)
    (writable : ∀ row ∈ rows, Writable key.columns row) :
    (∃ finished, evaluateOpportunityRows key rows params legacySupportFallback = .ok finished) ↔
      (∀ row ∈ rows, RowReadable gates params legacySupportFallback key.columns row) ∧
        RowsAddable gates params legacySupportFallback rows := by
  constructor
  · intro done
    obtain ⟨finished, done⟩ := done
    obtain ⟨same, outcomes, readSame, replayed⟩ := replayed_of_opportunities done
    cases readGates.symm.trans readSame
    obtain ⟨totals, totalled, -, -⟩ := replayed.totalled
    obtain ⟨addable, kept⟩ := addable_of_totals totalled
    obtain ⟨edges, earned⟩ := eligible_of_judged replayed.judged
    refine ⟨fun row member => ?_, by rwa [RowsAddable, edges, earned]⟩
    obtain ⟨index, bound, rfl⟩ := List.getElem_of_mem member
    have inside : index < outcomes.length := by
      rw [← replayed.judged.length_eq]
      exact bound
    exact readable_of_judged comparable (numbers _ member) (writable _ member)
      (replayed.judged.get bound inside) (kept _ (List.getElem_mem inside))
  · intro readable
    obtain ⟨readable, addable⟩ := readable
    obtain ⟨outcomes, judged⟩ := judged_of_forall fun row member =>
      opportunityOutcome_of_readable comparable (numbers row member) (readable row member)
    obtain ⟨edges, earned⟩ := eligible_of_judged judged
    rw [RowsAddable, edges, earned] at addable
    have kept : ∀ outcome ∈ outcomes, ∃ trade, outcome.trade key = .ok trade := by
      intro outcome member
      obtain ⟨index, inside, rfl⟩ := List.getElem_of_mem member
      have bound : index < rows.length := judged.length_eq ▸ inside
      have row := List.getElem_mem bound
      exact trade_of_readable (writable _ row) (readable _ row) (judged.get bound inside)
    obtain ⟨totals, totalled⟩ := totals_of_addable addable kept
    obtain ⟨report, done⟩ := evaluateOpportunityRows_of_judged readGates judged totalled
    exact ⟨_, done⟩

end Completion

/-! ### Rows that cannot be interpreted -/

section Interpretable

variable (loads : String → Option JsonDocument)

/-- The payload is an object whose statuses and amounts can be read. -/
structure Interpretable (stored : StoredOpportunity) : Prop where
  object : ∃ entries, loads stored.payloadJson = some (.object entries)
  statuses : StatusesReadable (safeJson loads stored.payloadJson)
  initialAmount : ∃ amount,
    AmountReads (safeJson loads stored.payloadJson) "initial_amount" amount
  liquidity : ∃ amount,
    AmountReads (safeJson loads stored.payloadJson) "smaller_pool_liquidity_usdc" amount

/-- The replay finishes; the rows that it cannot interpret are blocked and counted, and without
one of them the trades of the others are the same. -/
structure Tolerates (key : RunKey) (params : JsonObject) (legacySupportFallback : Bool)
    (rows : List StoredOpportunity) (finished : Finished) : Prop where
  finishes : evaluateStoredRows loads key params legacySupportFallback rows = .ok finished
  counted : finished.1.blockedCount =
    finished.2.countP fun (trade : BacktestTrade) => trade.status = "blocked"
  blocked : ∀ (index : Nat) stored, rows[index]? = some stored → ¬Interpretable loads stored →
    ∃ trade : BacktestTrade, finished.2[index]? = some trade ∧ trade.status = "blocked"
  alone : ∀ (index : Nat) stored, rows[index]? = some stored → ¬Interpretable loads stored →
    ∃ report, evaluateStoredRows loads key params legacySupportFallback (rows.eraseIdx index) =
      .ok (report, finished.2.eraseIdx index)

end Interpretable

/-- Nothing is eligible on an empty payload: its fee is unknown. -/
theorem not_eligible_of_empty {row : OpportunityRow} {params : JsonObject}
    {legacySupportFallback : Bool} {read : Statuses} (empty : row.payload = [])
    (computed : opportunityStatuses row.payload legacySupportFallback = .ok read)
    (passes : ∀ guard ∈ opportunityGuards read params row.payload, guard.passes = true) :
    False := by
  rw [empty] at computed
  have unknown : read.fee = .unknown := by
    cases legacySupportFallback <;> cases computed <;> rfl
  simp only [opportunityGuards, List.forall_mem_append] at passes
  exact feeGuards_known passes.1.1.2 unknown

theorem interpretable_of_eligible {loads : String → Option JsonDocument}
    {stored : StoredOpportunity} {gates : Gates} {params : JsonObject}
    {legacySupportFallback : Bool} {outcome : RowOutcome} {fill : Fill}
    (judged : opportunityOutcome gates params legacySupportFallback (stored.parsed loads) =
      .ok outcome)
    (eligible : outcome.verdict = .inr fill) : Interpretable loads stored := by
  obtain ⟨read, recomputed⟩ := opportunityOutcome_eligible judged eligible
  obtain ⟨computed, passed⟩ := recomputeBlockedReason_eligible.mp recomputed
  obtain ⟨passes, -, amount, liquidity, readAmount, positive, readLiquidity, liquid, -⟩ :=
    opportunityChecks_passed.mp passed
  refine ⟨?_, opportunityStatuses_ok_iff.mp ⟨read, computed⟩,
    ⟨amount, readAmount, (Decimal.isNan_of_le positive.le).symm⟩,
    ⟨liquidity, readLiquidity, (Decimal.isNan_of_le liquid.le).symm⟩⟩
  cases parsed : loads stored.payloadJson with
  | none =>
      have empty : (stored.parsed loads).payload = [] := by
        simp only [StoredOpportunity.parsed, safeJson, parsed]
      exact (not_eligible_of_empty empty computed passes).elim
  | some document =>
      cases document with
      | object entries => exact ⟨entries, rfl⟩
      | other =>
          have empty : (stored.parsed loads).payload = [] := by
            simp only [StoredOpportunity.parsed, safeJson, parsed]
          exact (not_eligible_of_empty empty computed passes).elim

theorem countP_blocked {key : RunKey} {outcomes : List RowOutcome} {trades : List BacktestTrade}
    (inserted : List.Forall₂ (fun outcome trade => outcome.trade key = .ok trade) outcomes
      trades) :
    (trades.countP fun trade => trade.status = "blocked") = (refusals outcomes).length := by
  induction inserted with
  | nil => rfl
  | @cons outcome trade outcomes trades here _rest ih =>
      obtain ⟨-, status, -⟩ := trade_eq_ok here
      cases verdict : outcome.verdict with
      | inl refusal =>
          rw [verdict, Sum.elim_inl] at status
          simp [status, ih, refusals, verdict]
      | inr fill =>
          rw [verdict, Sum.elim_inr] at status
          simp [status, ih, refusals, verdict]

theorem filterMap_eraseIdx {α β : Type} {kept : α → Option β} {items : List α} {index : Nat}
    {item : α} (here : items[index]? = some item) (dropped : kept item = none) :
    (items.eraseIdx index).filterMap kept = items.filterMap kept := by
  induction items generalizing index with
  | nil => cases here
  | cons first rest ih =>
      cases index with
      | zero =>
          cases here
          rw [List.eraseIdx_cons_zero, List.filterMap_cons_none dropped]
      | succ index =>
          rw [List.getElem?_cons_succ] at here
          rw [List.eraseIdx_cons_succ, List.filterMap_cons, List.filterMap_cons, ih here]

/-- Without a blocked row the others' trades are inserted as before. -/
theorem totals_eraseIdx {key : RunKey} {outcomes : List RowOutcome} {totals : Totals}
    {index : Nat} {outcome : RowOutcome} (totalled : totalsOf key outcomes = .ok totals)
    (here : outcomes[index]? = some outcome) (blocked : ∀ fill, outcome.verdict ≠ .inr fill) :
    ∃ without, totalsOf key (outcomes.eraseIdx index) = .ok without ∧
      without.trades = totals.trades.eraseIdx index := by
  have noFill : outcome.verdict.getRight? = none := by
    cases verdict : outcome.verdict with
    | inl refusal => rfl
    | inr fill => exact absurd verdict (blocked fill)
  obtain ⟨addable, kept⟩ := addable_of_totals totalled
  have sameFills : fills (outcomes.eraseIdx index) = fills outcomes :=
    filterMap_eraseIdx here noFill
  have sameEdges : eligibleEdges (outcomes.eraseIdx index) = eligibleEdges outcomes :=
    filterMap_eraseIdx here (by rw [noFill]; rfl)
  obtain ⟨without, done⟩ := @totals_of_addable key (outcomes.eraseIdx index)
    (by rw [sameEdges, sameFills]; exact addable)
    fun other member => kept other (List.mem_of_mem_eraseIdx member)
  refine ⟨without, done, ?_⟩
  exact List.right_unique_forall₂' (fun _ _ _ first second =>
      Except.ok.inj (first.symm.trans second)) (accounts_of_totals done).trades
    (forall₂_eraseIdx (accounts_of_totals totalled).trades index)

theorem numbers_of_stored (loads : String → Option JsonDocument) (stored : StoredOpportunity) :
    Numbers (stored.parsed loads) := ⟨rfl, rfl, rfl⟩

end BacktestEngine

/-! ### A good payload, a text that is no JSON, and an amount that is no number -/

namespace Sample

open BacktestEngine

def payloadOf (initialAmount : String) : JsonObject :=
  [("fee_known_status", .text "chain_verified"), ("balance_match_status", .text "wallet_verified"),
    ("quote_match_status", .text "matched"), ("support_status", .text "supported"),
    ("initial_amount", .text initialAmount), ("smaller_pool_liquidity_usdc", .text "1000000")]

def loadsPayloads : String → Option JsonDocument := loadsOf [payloadOf "100", payloadOf "abc"]

def storedRow (payloadJson : String) : StoredOpportunity :=
  { timestamp := 0, status := "eligible", modeledEdgeBps := 20, expectedPnlAbs := 3
    expectedSlippageBps := 1, gasEstimateUsdc := 0, quoteAgeSeconds := 1, payloadJson }

theorem tenBps_valid : ValidParams tenBps := by
  have unset : ∀ key ∈ penaltyParameters,
      (tenBps.getD key (.number "0")).decimal = .ok (.finite 0) := by
    decide +kernel
  exact ⟨⟨⟨.finite 10, .finite 9999, .finite 9999, .finite 1⟩, by decide +kernel, by
    constructor <;> rfl⟩, fun key known => ⟨0, unset key known⟩⟩

theorem storedRows_rewritable (texts : List String) :
    Rewritable runKey.columns (texts.map storedRow) := by
  have edge : ∃ kept, runKey.columns.decimal10_5 (.finite 20) = .ok kept :=
    ⟨.finite 20, by decide +kernel⟩
  have expected : ∃ kept, runKey.columns.decimal18_8 (.finite 3) = .ok kept :=
    ⟨.finite 3, by decide +kernel⟩
  exact ⟨List.forall_mem_map.mpr fun _ _ => edge, List.forall_mem_map.mpr fun _ _ => expected,
    0, by decide +kernel⟩

end Sample

end ArbitrageBot
