/-
One quote in both replay modes: the opportunity row and the snapshot of the
second leg that the scan loop stores of it, and when both are eligible.
-/

import ArbitrageBot.Backtest.Strictness

namespace ArbitrageBot

open Fallible GuardChain PythonDecimal PythonJson PythonText

/-! ### What the scan loop stores of a quote -/

def Metadata.set (metadata : Metadata) (key value : String) : Metadata :=
  (key, value) :: metadata

def orText (first second : Option String) : Option String :=
  if first.any (· ≠ "") then first else second

/-- What the loop finds out beside the quote. -/
structure ScanFindings where
  balanceMatchStatus : String
  balanceFailureReason : String
  riskChecks : String
  routePaused : Bool
  cooldownActive : Bool
  healthAgeSeconds : String

def deriveSupportStatus (metadata : Metadata) : String :=
  let status := normalizeSupportStatus (metadata.lookup "support_status")
  if lower (metadata.get "quote_unavailable" "false") ∈ ["true", "1", "yes"] then "unsupported"
  else if status ≠ .unknown then status.text
  else if lower (strip (metadata.get "quote_source" "")) ∈ ["mock", "real"] then "supported"
  else "unknown"

/-- The metadata after the probes, the evaluation and the route state. -/
def judgedMetadata (metadata : Metadata) (findings : ScanFindings) : Metadata :=
  let feeStatus := normalizeFeeConfidence
    (orText (metadata.lookup "fee_known_status") (metadata.lookup "fee_known")) none
  let feeProvenance :=
    (orText (metadata.lookup "fee_provenance") (metadata.lookup "fee_source")).getD ""
  let quoteMatchStatus := normalizeQuoteMatchStatus
    (orText (metadata.lookup "quote_match_status") (metadata.lookup "quote_match"))
  ((((((((metadata.set "fee_known_status" feeStatus.text).set "fee_provenance" feeProvenance).set
    "quote_match_status" quoteMatchStatus.text).set "balance_match_status"
      findings.balanceMatchStatus).set "balance_failure_reason" findings.balanceFailureReason).set
        "risk_checks" findings.riskChecks).set "route_paused" (boolText findings.routePaused)).set
          "cooldown_active" (boolText findings.cooldownActive)).set "health_age_seconds"
            findings.healthAgeSeconds

/-- The metadata as `_scan_loop` writes it. -/
def completeMetadata (metadata : Metadata) (findings : ScanFindings) : Metadata :=
  let judged := judgedMetadata metadata findings
  judged.set "support_status" (deriveSupportStatus judged)

/-- `str` of the amounts that an engine puts in its metadata; each text reads back. -/
structure AmountTexts (found : QuoteAnswer) where
  initialAmount : String
  finalAmount : String
  smallerPoolLiquidity : String
  readsInitial : DecimalText.parse initialAmount = .ok (.finite found.quote.initialAmount)
  readsFinal : DecimalText.parse finalAmount = .ok (.finite found.quote.finalAmount)
  readsLiquidity :
    DecimalText.parse smallerPoolLiquidity = .ok (.finite found.smallerPoolLiquidityUsdc)

def AmountTexts.entries {found : QuoteAnswer} (texts : AmountTexts found) : Metadata :=
  [("smaller_pool_liquidity_usdc", texts.smallerPoolLiquidity),
    ("initial_amount", texts.initialAmount), ("final_amount", texts.finalAmount)]

/-- `json.dumps`, read back. -/
def Metadata.toJson (metadata : Metadata) : JsonObject :=
  metadata.map fun entry => (entry.1, .text entry.2)

def storedMetadata (found : QuoteAnswer) (texts : AmountTexts found) (findings : ScanFindings) :
    Metadata :=
  completeMetadata (texts.entries ++ found.quote.metadata) findings

/-- `insert_opportunity`, as the columns keep it. -/
def opportunityRow (columns : NumericColumns) (quote : RouteQuote) (timestamp : Instant)
    (status : String) (payload : JsonObject) : Except String OpportunityRow := do
  let modeledEdgeBps ← columns.decimal10_5 (.finite quote.modeledNetEdgeBps)
  let expectedPnlAbs ← columns.decimal18_8 (.finite quote.modeledNetEdgeAmount)
  let expectedSlippageBps ← columns.decimal10_5 (.finite quote.expectedSlippageBps)
  let gasEstimateUsdc ← columns.decimal18_8 (.finite quote.gasCostUsdc)
  let quoteAgeSeconds ← columns.decimal10_5 (.finite quote.quoteAgeSeconds)
  return {
    timestamp := timestamp
    status := status
    modeledEdgeBps, expectedPnlAbs, expectedSlippageBps, gasEstimateUsdc, quoteAgeSeconds
    payload := payload }

/-- The second row of `_write_market_observations`, with the outputs of the two legs, zero where
the metadata has none. -/
def legBSnapshot (columns : NumericColumns) (found : QuoteAnswer) (timestamp : Instant)
    (leg1Out leg2Out : Rat) (metadata : JsonObject) : Except String MarketSnapshot := do
  let amountIn ← columns.decimal18_8
    (.finite (if 0 < leg1Out then leg1Out else found.quote.initialAmount))
  let quotedAmountOut ← columns.decimal18_8
    (.finite (if 0 < leg2Out then leg2Out else found.quote.finalAmount))
  let liquidityUsd ← columns.decimal18_8 (.finite found.smallerPoolLiquidityUsdc)
  let quoteAgeSeconds ← columns.decimal10_5 (.finite found.quote.quoteAgeSeconds)
  return {
    timestamp := timestamp
    context := "leg_b"
    amountIn, quotedAmountOut, liquidityUsd, quoteAgeSeconds
    metadata := metadata }

/-! ### Metadata as it is stored -/

theorem Metadata.toJson_get? (metadata : Metadata) (key : String) :
    metadata.toJson.get? key = (metadata.lookup key).map JsonValue.text := by
  induction metadata with
  | nil => rfl
  | cons entry rest ih =>
      unfold Metadata.toJson JsonObject.get? at ih ⊢
      rw [List.map_cons, List.lookup_cons, List.lookup_cons, ih]
      cases key == entry.1 <;> rfl

theorem Metadata.lookup_set (metadata : Metadata) (key value other : String) :
    (metadata.set key value).lookup other =
      if other = key then some value else metadata.lookup other := by
  rw [Metadata.set, List.lookup_cons]
  by_cases same : other = key
  · simp [same]
  · rw [beq_false_of_ne same, if_neg same]

theorem deriveSupportStatus_supported {metadata : Metadata} {settings : Settings}
    (support : metadata.lookup "support_status" = none)
    (available : metadata.lookup "quote_unavailable" = none)
    (source : metadata.lookup "quote_source" = some (quoteSource settings)) :
    deriveSupportStatus metadata = "supported" := by
  have unknown : normalizeSupportStatus none = .unknown := by decide
  have open_ : lower "false" ∉ ["true", "1", "yes"] := by decide
  have known : lower (strip (quoteSource settings)) ∈ ["mock", "real"] := by
    unfold quoteSource
    split <;> decide
  simp only [deriveSupportStatus, Metadata.get, support, available, source, Option.getD_none,
    Option.getD_some, unknown, if_neg open_, if_pos known, ne_eq, not_true_eq_false, if_false]

theorem orText_of_text {text : String} (second : Option String) (present : text ≠ "") :
    orText (some text) second = some text := by
  simp [orText, present]

theorem FeeConfidence.text_ne_empty (fee : FeeConfidence) : fee.text ≠ "" := by
  cases fee <;> decide

theorem QuoteMatch.text_ne_empty (status : QuoteMatch) : status.text ≠ "" := by
  cases status <;> decide

/-- The keys that the loop itself writes. -/
def completedKeys : List String :=
  ["fee_known_status", "fee_provenance", "quote_match_status", "balance_match_status",
    "balance_failure_reason", "risk_checks", "route_paused", "cooldown_active",
    "health_age_seconds", "support_status"]

theorem completeMetadata_lookup {metadata : Metadata} {findings : ScanFindings} {key : String}
    (other : key ∉ completedKeys) :
    (completeMetadata metadata findings).lookup key = metadata.lookup key := by
  simp only [completedKeys, List.mem_cons, List.not_mem_nil, or_false, not_or] at other
  simp only [completeMetadata, judgedMetadata, Metadata.lookup_set, other, if_false]

section Stored

variable {found : QuoteAnswer} (texts : AmountTexts found) (findings : ScanFindings)

theorem AmountTexts.lookup_entries (metadata : Metadata) {key : String}
    (other : key ∉ ["smaller_pool_liquidity_usdc", "initial_amount", "final_amount"]) :
    List.lookup key (texts.entries ++ metadata) = metadata.lookup key := by
  simp only [List.mem_cons, List.not_mem_nil, or_false, not_or] at other
  obtain ⟨liquidity, initial, final⟩ := other
  simp only [AmountTexts.entries, List.cons_append, List.nil_append, List.lookup_cons,
    beq_false_of_ne liquidity, beq_false_of_ne initial, beq_false_of_ne final]

/-- The entries of the stored metadata that a replay looks up. -/
structure StoredEntries (metadata : Metadata) : Prop where
  fee : ∃ fee : FeeConfidence, metadata.lookup "fee_known_status" = some fee.text ∧
    metadata.lookup "fee_known" = some (boolText (fee ≠ .unknown))
  quoteMatch : ∃ status : QuoteMatch, status ≠ .unknown ∧
    metadata.lookup "quote_match_status" = some status.text
  support : metadata.lookup "support_status" = some "supported"
  available : metadata.lookup "quote_unavailable" = none
  initialAmount : metadata.lookup "initial_amount" = some texts.initialAmount
  finalAmount : metadata.lookup "final_amount" = some texts.finalAmount
  liquidity : metadata.lookup "smaller_pool_liquidity_usdc" = some texts.smallerPoolLiquidity
  slippage : metadata.lookup "expected_slippage_bps" = none

theorem storedEntries (engine : EngineMetadata found.quote.metadata) :
    StoredEntries texts (storedMetadata found texts findings) := by
  obtain ⟨fee, feeStatus, feeKnown⟩ := engine.fee
  obtain ⟨status, known, quoteMatch⟩ := engine.quoteMatch
  obtain ⟨settings, source⟩ := engine.source
  have base := @AmountTexts.lookup_entries found texts found.quote.metadata
  unfold storedMetadata
  constructor
  · refine ⟨fee, ?_, ?_⟩
    · simp [completeMetadata, judgedMetadata, Metadata.lookup_set, base, feeStatus,
        orText_of_text _ fee.text_ne_empty, normalizeFeeConfidence_text]
    · rw [completeMetadata_lookup (by decide), base (by decide), feeKnown]
  · refine ⟨status, known, ?_⟩
    simp [completeMetadata, judgedMetadata, Metadata.lookup_set, base, quoteMatch,
      orText_of_text _ status.text_ne_empty, normalizeQuoteMatchStatus_text]
  · have support : (judgedMetadata (texts.entries ++ found.quote.metadata) findings).lookup
        "support_status" = none := by
      simp [judgedMetadata, Metadata.lookup_set, base, engine.support]
    have available : (judgedMetadata (texts.entries ++ found.quote.metadata) findings).lookup
        "quote_unavailable" = none := by
      simp [judgedMetadata, Metadata.lookup_set, base, engine.available]
    have labelled : (judgedMetadata (texts.entries ++ found.quote.metadata) findings).lookup
        "quote_source" = some (quoteSource settings) := by
      simp [judgedMetadata, Metadata.lookup_set, base, source]
    rw [completeMetadata, Metadata.lookup_set, if_pos rfl,
      deriveSupportStatus_supported support available labelled]
  · rw [completeMetadata_lookup (by decide), base (by decide), engine.available]
  · rw [completeMetadata_lookup (by decide)]
    simp [AmountTexts.entries, List.lookup_cons]
  · rw [completeMetadata_lookup (by decide)]
    simp [AmountTexts.entries, List.lookup_cons]
  · rw [completeMetadata_lookup (by decide)]
    simp [AmountTexts.entries]
  · rw [completeMetadata_lookup (by decide), base (by decide), engine.slippage]

end Stored

/-! ### Statuses of a stored quote -/

namespace BacktestEngine

/-- Statuses on which the modes cannot differ. -/
structure Statuses.Settled (read : Statuses) (payload : JsonObject) : Prop where
  support : read.support = .supported
  available : read.quoteUnavailable = false
  quoteMatch : read.quoteMatch ≠ .unknown
  fee : read.fee = .unknown → isTrue (payload.getD "fee_known" (.text "unknown")) = false

theorem readFeeConfidence_text (fee : FeeConfidence) (hint : Option JsonValue) :
    readFeeConfidence (some (.text fee.text)) hint = .ok fee := by
  have canonical : (FeeConfidence.ofText? (norm (some fee.text))).isSome = true := by
    cases fee <;> decide
  simp only [readFeeConfidence, optionalText, bind, Except.bind, canonical, if_true,
    normalizeFeeConfidence_text, pure, Except.pure]

theorem optionalText_map (text : Option String) :
    optionalText (text.map JsonValue.text) = .ok text := by
  cases text <;> rfl

theorem readBalanceConfidence_texts (raw hint : Option String) :
    ∃ balance,
      readBalanceConfidence (raw.map JsonValue.text) (hint.map JsonValue.text) = .ok balance := by
  simp only [readBalanceConfidence, optionalText_map, bind, Except.bind]
  split
  · exact ⟨_, rfl⟩
  · exact ⟨_, rfl⟩

theorem payloadStatuses_stored {found : QuoteAnswer} {texts : AmountTexts found}
    {metadata : Metadata} (entries : StoredEntries texts metadata) :
    ∃ read, payloadStatuses metadata.toJson = .ok read ∧ read.Settled metadata.toJson := by
  obtain ⟨fee, feeStatus, feeKnown⟩ := entries.fee
  obtain ⟨status, known, quoteMatch⟩ := entries.quoteMatch
  obtain ⟨balance, readBalance⟩ := readBalanceConfidence_texts
    (metadata.lookup "balance_match_status") (metadata.lookup "balance_failure_reason")
  refine ⟨{ fee, balance, quoteMatch := status, support := .supported, quoteUnavailable := false },
    ?_, rfl, rfl, known, ?_⟩
  · have supported : normalizeSupportStatus (some "supported") = .supported := by decide
    have available : isTrue (.text "false") = false := by decide
    simp only [payloadStatuses, Metadata.toJson_get?, JsonObject.getD, feeStatus, quoteMatch,
      entries.support, entries.available, Option.map_some, Option.map_none, Option.getD_none,
      readFeeConfidence_text, readBalance, readQuoteMatchStatus, readSupportStatus, optionalText,
      normalizeQuoteMatchStatus_text, supported, available, bind, Except.bind, pure, Except.pure]
  · intro unknown
    cases unknown
    simp only [JsonObject.getD, Metadata.toJson_get?, feeKnown, Option.map_some, Option.getD_some]
    decide

theorem opportunityStatuses_settled {payload : JsonObject} {read : Statuses}
    (stored : payloadStatuses payload = .ok read) (settled : read.Settled payload) :
    opportunityStatuses payload false = .ok read := by
  have fee : ¬ (read.fee = .unknown ∧
      isTrue (payload.getD "fee_known" (.text "unknown")) = true) := by
    intro accepted
    obtain ⟨unknown, known⟩ := accepted
    rw [settled.fee unknown] at known
    cases known
  simp [opportunityStatuses, stored, bind, Except.bind, pure, Except.pure, settled.quoteMatch, fee]

theorem snapshotStatuses_settled {payload : JsonObject} {read : Statuses}
    (stored : payloadStatuses payload = .ok read) (settled : read.Settled payload) :
    snapshotStatuses payload none = .ok read := by
  simp [snapshotStatuses, stored, bind, Except.bind, pure, Except.pure, Statuses.settleSupport,
    settled.available]

/-! ### Eligible in either mode -/

/-- Nothing blocks the row under `_recompute_blocked_reason`, in the mode `opportunities`. -/
def OpportunityEligible (params : JsonObject) (row : OpportunityRow) : Prop :=
  ∃ gates read, Gates.read params = .ok gates ∧
    recomputeBlockedReason row gates params false = .ok (none, read)

/-- Nothing blocks the row in `_evaluate_market_snapshot_rows`. -/
def SnapshotEligible (params : JsonObject) (row : MarketSnapshot) (health : Option RouteHealth) :
    Prop :=
  ∃ gates defaults reading, Gates.read params = .ok gates ∧
    SnapshotDefaults.read params = .ok defaults ∧ readSnapshot defaults row health = .ok reading ∧
    firstRefusal (snapshotChecks params gates reading row) = .ok none

structure SharedPassed (read : Statuses) (params payload : JsonObject) (gates : Gates)
    (found : QuoteAnswer) (storedAge : Decimal) : Prop where
  fee : ∀ guard ∈ feeGuards read params, guard.passes = true
  quoteMatch : ∀ guard ∈ quoteMatchGuards read, guard.passes = true
  balance : ∀ guard ∈ balanceGuards read params payload, guard.passes = true
  age : gates.maxQuoteAge.isLess storedAge = .ok false
  liquid : 0 < found.smallerPoolLiquidityUsdc
  share : found.quote.initialAmount ≤ 0 ∨
    ShareAdmitted gates (.finite found.quote.initialAmount)
      (.finite found.smallerPoolLiquidityUsdc)

def SharedAdmitted (columns : NumericColumns) (params payload : JsonObject)
    (found : QuoteAnswer) : Prop :=
  ∃ gates read storedAge, Gates.read params = .ok gates ∧ payloadStatuses payload = .ok read ∧
    columns.decimal10_5 (.finite found.quote.quoteAgeSeconds) = .ok storedAge ∧
    SharedPassed read params payload gates found storedAge

/-- The stored columns that only `_recompute_blocked_reason` looks at. -/
def NetAdmitted (columns : NumericColumns) (params : JsonObject) (quote : RouteQuote) : Prop :=
  ∃ gates storedEdge storedSlippage, Gates.read params = .ok gates ∧
    columns.decimal10_5 (.finite quote.modeledNetEdgeBps) = .ok storedEdge ∧
    columns.decimal10_5 (.finite quote.expectedSlippageBps) = .ok storedSlippage ∧
    0 < quote.initialAmount ∧ storedEdge.isLess gates.minEdge = .ok false ∧
    gates.maxSlippage.isLess storedSlippage = .ok false

/-- The snapshot loop takes a negative amount for zero. -/
def clipped (amount : Rat) : Decimal := if amount ≤ 0 then 0 else .finite amount

def GrossAdmitted (params : JsonObject) (quote : RouteQuote) : Prop :=
  ∃ gates defaults pnl edge, Gates.read params = .ok gates ∧
    SnapshotDefaults.read params = .ok defaults ∧
    Decimal.sub (.finite quote.finalAmount) (clipped quote.initialAmount) = .ok pnl ∧
    toBps pnl (clipped quote.initialAmount) = .ok edge ∧
    edge.isLess gates.minEdge = .ok false ∧
    gates.maxSlippage.isLess defaults.slippage = .ok false

section Stored

variable {found : QuoteAnswer} {texts : AmountTexts found} {metadata : Metadata}
  {params : JsonObject} {columns : NumericColumns}

theorem stored_amount {key text : String} {value : Decimal} (fallback : JsonValue)
    (stored : metadata.lookup key = some text) (reads : DecimalText.parse text = .ok value) :
    (metadata.toJson.getD key fallback).decimal = .ok value := by
  rw [JsonObject.getD, Metadata.toJson_get?, stored]
  exact reads

theorem stored_metadataAmount {key text : String} {value : Decimal} (fallback : Decimal)
    (stored : metadata.lookup key = some text) (reads : DecimalText.parse text = .ok value) :
    metadataAmount metadata.toJson key fallback = .ok value := by
  rw [metadataAmount, Metadata.toJson_get?, stored]
  exact reads

theorem supportGuards_passed {read : Statuses} (settled : read.Settled metadata.toJson) :
    ∀ guard ∈ supportGuards read, guard.passes = true := by
  simp [supportGuards, guard, settled.support, settled.available]

theorem opportunityEligible_iff (entries : StoredEntries texts metadata) {timestamp : Instant}
    {status : String} {row : OpportunityRow}
    (inserted : opportunityRow columns found.quote timestamp status metadata.toJson = .ok row) :
    OpportunityEligible params row ↔
      SharedAdmitted columns params metadata.toJson found ∧
        NetAdmitted columns params found.quote := by
  obtain ⟨storedEdge, keepsEdge, inserted⟩ := bind_eq_ok.mp inserted
  obtain ⟨storedPnl, -, inserted⟩ := bind_eq_ok.mp inserted
  obtain ⟨storedSlippage, keepsSlippage, inserted⟩ := bind_eq_ok.mp inserted
  obtain ⟨storedGas, -, inserted⟩ := bind_eq_ok.mp inserted
  obtain ⟨storedAge, keepsAge, inserted⟩ := bind_eq_ok.mp inserted
  cases inserted
  obtain ⟨read, stored, settled⟩ := payloadStatuses_stored entries
  have statuses := opportunityStatuses_settled stored settled
  have amount := stored_amount (.text "0") entries.initialAmount texts.readsInitial
  have liquidity := stored_amount (.text "0") entries.liquidity texts.readsLiquidity
  constructor
  · intro accepted
    obtain ⟨gates, readAgain, readGates, recomputed⟩ := accepted
    obtain ⟨same, passed⟩ := recomputeBlockedReason_eligible.mp recomputed
    cases statuses.symm.trans same
    obtain ⟨passes, thresholds, amountIn, pool, readAmount, positive, readPool, liquid, share⟩ :=
      opportunityChecks_passed.mp passed
    cases amount.symm.trans readAmount
    cases liquidity.symm.trans readPool
    simp only [opportunityGuards, List.forall_mem_append] at passes
    obtain ⟨⟨⟨-, fee⟩, quoteMatch⟩, balance⟩ := passes
    exact ⟨⟨gates, read, storedAge, readGates, stored, keepsAge, fee, quoteMatch, balance,
      thresholds.age, Decimal.finite_pos.mp liquid, .inr share⟩, gates, storedEdge, storedSlippage,
      readGates, keepsEdge, keepsSlippage, Decimal.finite_pos.mp positive, thresholds.edge,
      thresholds.slippage⟩
  · intro accepted
    obtain ⟨⟨gates, readAgain, sameAge, readGates, same, keepsSame, shared⟩, other, sameEdge,
      sameSlippage, readOther, keepsSameEdge, keepsSameSlippage, positive, edge, slippage⟩ :=
      accepted
    cases stored.symm.trans same
    cases readGates.symm.trans readOther
    cases keepsAge.symm.trans keepsSame
    cases keepsEdge.symm.trans keepsSameEdge
    cases keepsSlippage.symm.trans keepsSameSlippage
    refine ⟨gates, read, readGates, recomputeBlockedReason_eligible.mpr ⟨statuses,
      opportunityChecks_passed.mpr ⟨?_, ⟨edge, slippage, shared.age⟩, _, _, amount,
        Decimal.finite_pos.mpr positive, liquidity, Decimal.finite_pos.mpr shared.liquid,
        shared.share.resolve_left (not_le.mpr positive)⟩⟩⟩
    simp only [opportunityGuards, List.forall_mem_append]
    exact ⟨⟨⟨supportGuards_passed settled, shared.fee⟩, shared.quoteMatch⟩, shared.balance⟩

theorem poolAdmitted_clipped {gates : Gates} {amount liquidity : Rat} :
    PoolAdmitted gates (clipped amount) (.finite liquidity) ↔
      0 < liquidity ∧ (amount ≤ 0 ∨ ShareAdmitted gates (.finite amount) (.finite liquidity)) := by
  rw [PoolAdmitted, Decimal.finite_pos, clipped]
  refine and_congr_right fun liquid => ?_
  by_cases empty : amount ≤ 0
  · rw [if_pos empty]
    exact iff_of_true (.inl le_rfl) (.inl empty)
  · have positive := Decimal.finite_pos.mpr (not_le.mp empty)
    rw [if_neg empty]
    exact ⟨fun admitted => .inr (admitted.resolve_left positive.not_ge).2,
      fun admitted => .inr ⟨positive, admitted.resolve_left empty⟩⟩

theorem isAtMost_clips (amount : Rat) :
    ∃ empty, Decimal.isAtMost (.finite amount) 0 = .ok empty ∧
      (if empty = true then 0 else .finite amount) = clipped amount := by
  by_cases empty : amount ≤ 0
  · refine ⟨true, Decimal.isAtMost_eq_true.mpr ⟨Decimal.finite_le_finite.mpr empty, rfl⟩, ?_⟩
    rw [clipped, if_pos empty, if_pos rfl]
  · refine ⟨false, Decimal.isAtMost_eq_false.mpr (Decimal.finite_pos.mpr (not_le.mp empty)), ?_⟩
    rw [clipped, if_neg empty, if_neg (by simp)]

/-- What the snapshot loop reads of a stored quote, as far as its edge is computed. -/
theorem readSnapshot_stored (entries : StoredEntries texts metadata) {timestamp : Instant}
    {leg1Out leg2Out : Rat} {row : MarketSnapshot} {read : Statuses}
    (inserted : legBSnapshot columns found timestamp leg1Out leg2Out metadata.toJson = .ok row)
    (stored : payloadStatuses metadata.toJson = .ok read)
    (settled : read.Settled metadata.toJson) (defaults : SnapshotDefaults)
    {reading : SnapshotReading} :
    readSnapshot defaults row none = .ok reading ↔
      ∃ pnl edge, Decimal.sub (.finite found.quote.finalAmount)
          (clipped found.quote.initialAmount) = .ok pnl ∧
        toBps pnl (clipped found.quote.initialAmount) = .ok edge ∧
        reading =
          { initialAmount := clipped found.quote.initialAmount
            expectedPnl := pnl
            modeledEdgeBps := edge
            slippageBps := defaults.slippage
            smallerLiquidity := .finite found.smallerPoolLiquidityUsdc
            statuses := read } := by
  obtain ⟨amountIn, -, inserted⟩ := bind_eq_ok.mp inserted
  obtain ⟨quotedAmountOut, -, inserted⟩ := bind_eq_ok.mp inserted
  obtain ⟨liquidityUsd, -, inserted⟩ := bind_eq_ok.mp inserted
  obtain ⟨storedAge, -, inserted⟩ := bind_eq_ok.mp inserted
  cases inserted
  have slippage : metadataAmount metadata.toJson "expected_slippage_bps" defaults.slippage =
      .ok defaults.slippage := by
    rw [metadataAmount, Metadata.toJson_get?, entries.slippage]
    rfl
  obtain ⟨empty, compared, clips⟩ := isAtMost_clips found.quote.initialAmount
  simp only [readSnapshot, stored_metadataAmount _ entries.initialAmount texts.readsInitial,
    stored_metadataAmount _ entries.finalAmount texts.readsFinal, slippage,
    stored_metadataAmount _ entries.liquidity texts.readsLiquidity, compared, clips,
    snapshotStatuses_settled stored settled, bind, Except.bind, pure, Except.pure]
  constructor
  · intro answered
    obtain ⟨pnl, taken, answered⟩ := bind_eq_ok.mp answered
    obtain ⟨edge, computed, answered⟩ := bind_eq_ok.mp answered
    cases answered
    exact ⟨pnl, edge, taken, computed, rfl⟩
  · rintro ⟨pnl, edge, taken, computed, rfl⟩
    simp only [taken, computed]

theorem snapshotEligible_iff (entries : StoredEntries texts metadata) {timestamp : Instant}
    {leg1Out leg2Out : Rat} {row : MarketSnapshot}
    (inserted : legBSnapshot columns found timestamp leg1Out leg2Out metadata.toJson = .ok row) :
    SnapshotEligible params row none ↔
      SharedAdmitted columns params metadata.toJson found ∧ GrossAdmitted params found.quote := by
  obtain ⟨read, stored, settled⟩ := payloadStatuses_stored entries
  have readings := fun defaults reading =>
    @readSnapshot_stored _ _ _ columns entries _ _ _ _ _ inserted stored settled defaults reading
  obtain ⟨amountIn, -, inserted⟩ := bind_eq_ok.mp inserted
  obtain ⟨quotedAmountOut, -, inserted⟩ := bind_eq_ok.mp inserted
  obtain ⟨liquidityUsd, -, inserted⟩ := bind_eq_ok.mp inserted
  obtain ⟨storedAge, keepsAge, inserted⟩ := bind_eq_ok.mp inserted
  cases inserted
  constructor
  · intro accepted
    obtain ⟨gates, defaults, reading, readGates, readDefaults, readRow, passed⟩ := accepted
    obtain ⟨pnl, edge, taken, computed, rfl⟩ := (readings defaults reading).mp readRow
    obtain ⟨passes, thresholds, pool⟩ := snapshotChecks_passed.mp passed
    obtain ⟨liquid, share⟩ := poolAdmitted_clipped.mp pool
    simp only [snapshotGuards, List.forall_mem_append] at passes
    obtain ⟨⟨⟨-, fee⟩, balance⟩, quoteMatch⟩ := passes
    exact ⟨⟨gates, read, storedAge, readGates, stored, keepsAge, fee, quoteMatch, balance,
      thresholds.age, liquid, share⟩, gates, defaults, pnl, edge, readGates, readDefaults, taken,
      computed, thresholds.edge, thresholds.slippage⟩
  · intro accepted
    obtain ⟨⟨gates, readAgain, sameAge, readGates, same, keepsSame, shared⟩, other, defaults, pnl,
      edge, readOther, readDefaults, taken, computed, reaches, slippage⟩ := accepted
    cases stored.symm.trans same
    cases readGates.symm.trans readOther
    cases keepsAge.symm.trans keepsSame
    refine ⟨gates, defaults, _, readGates, readDefaults,
      (readings defaults _).mpr ⟨pnl, edge, taken, computed, rfl⟩, snapshotChecks_passed.mpr
        ⟨?_, ⟨reaches, slippage, shared.age⟩,
          poolAdmitted_clipped.mpr ⟨shared.liquid, shared.share⟩⟩⟩
    simp only [snapshotGuards, List.forall_mem_append]
    exact ⟨⟨⟨supportGuards_passed settled, shared.fee⟩, shared.balance⟩, shared.quoteMatch⟩

end Stored

/-- The two modes agree on a stored quote exactly when a guard that they share blocks it, or the
net edge, the quoted slippage and the amount pass as the gross edge and the slippage parameter
do. -/
theorem replay_modes_agree_iff {settings : Settings} {route : Route} {found : QuoteAnswer}
    (available : AvailableQuote settings route found) (texts : AmountTexts found)
    (findings : ScanFindings) (params : JsonObject) (columns : NumericColumns)
    (timestamp : Instant) (status : String) (leg1Out leg2Out : Rat) {row : OpportunityRow}
    {snapshot : MarketSnapshot}
    (rowStored : opportunityRow columns found.quote timestamp status
      (storedMetadata found texts findings).toJson = .ok row)
    (snapshotStored : legBSnapshot columns found timestamp leg1Out leg2Out
      (storedMetadata found texts findings).toJson = .ok snapshot) :
    (OpportunityEligible params row ↔ SnapshotEligible params snapshot none) ↔
      (SharedAdmitted columns params (storedMetadata found texts findings).toJson found →
        (NetAdmitted columns params found.quote ↔ GrossAdmitted params found.quote)) := by
  have entries := storedEntries texts findings available.metadata
  rw [opportunityEligible_iff entries rowStored, snapshotEligible_iff entries snapshotStored]
  exact and_congr_right_iff

end BacktestEngine

/-! ### A round trip of 404 basis points, 379 after costs -/

deriving instance DecidableEq for BacktestEngine.Statuses, BacktestEngine.SnapshotDefaults

namespace Sample

open BacktestEngine

def gaining : QuoteAnswer :=
  (tradingAnswers shipped).quote.toOption.getD
    { quote := calmQuote "r", smallerPoolLiquidityUsdc := 0 }

theorem gaining_available : AvailableQuote shipped route gaining :=
  @AvailableQuote.hyper shipped route 100 .paper (some dex) (some dex) quoteTimes (fun _ => some 0)
    gaining rfl

def gainingTexts : AmountTexts gaining :=
  { initialAmount := "100", finalAmount := "104.04", smallerPoolLiquidity := "1000000"
    readsInitial := by decide +kernel
    readsFinal := by decide +kernel
    readsLiquidity := by decide +kernel }

def verifiedFindings : ScanFindings :=
  { balanceMatchStatus := "wallet_verified", balanceFailureReason := "", riskChecks := ""
    routePaused := false, cooldownActive := false, healthAgeSeconds := "0" }

def gainingPayload : JsonObject := (storedMetadata gaining gainingTexts verifiedFindings).toJson

def edgeParams (minimum : String) : JsonObject := [("min_modeled_edge_bps", .number minimum)]

theorem gaining_stored :
    ∃ row snapshot,
      opportunityRow runKey.columns gaining.quote 61000000 "eligible" gainingPayload = .ok row ∧
      legBSnapshot runKey.columns gaining 61000000 0 0 gainingPayload = .ok snapshot := by
  obtain ⟨row, rowStored, -⟩ := @ok_of_any _ _ (opportunityRow runKey.columns gaining.quote 61000000
    "eligible" gainingPayload) (fun _ => true) (by decide +kernel)
  obtain ⟨snapshot, snapshotStored, -⟩ := @ok_of_any _ _ (legBSnapshot runKey.columns gaining
    61000000 0 0 gainingPayload) (fun _ => true) (by decide +kernel)
  exact ⟨row, snapshot, rowStored, snapshotStored⟩

end Sample

theorem BacktestEngine.replay_modes_agree_iff_gaining :
    ∃ row snapshot,
      opportunityRow Sample.runKey.columns Sample.gaining.quote 61000000 "eligible"
        Sample.gainingPayload = .ok row ∧
      legBSnapshot Sample.runKey.columns Sample.gaining 61000000 0 0 Sample.gainingPayload =
        .ok snapshot ∧
      (OpportunityEligible (Sample.edgeParams "300") row ↔
        SnapshotEligible (Sample.edgeParams "300") snapshot none) := by
  obtain ⟨row, snapshot, rowStored, snapshotStored⟩ := Sample.gaining_stored
  refine ⟨row, snapshot, rowStored, snapshotStored, (replay_modes_agree_iff
    Sample.gaining_available Sample.gainingTexts Sample.verifiedFindings (Sample.edgeParams "300")
    Sample.runKey.columns 61000000 "eligible" 0 0 rowStored snapshotStored).mpr fun _ =>
      iff_of_true ?_ ?_⟩
  · exact ⟨⟨.finite 300, .finite 9999, .finite 9999, .finite 1⟩, .finite 379, .finite 1,
      by decide +kernel⟩
  · exact ⟨⟨.finite 300, .finite 9999, .finite 9999, .finite 1⟩, ⟨.finite (1 / 100), .finite 5⟩,
      .finite (404 / 100), .finite 404, by decide +kernel⟩

/-- A minimum that only the edge before costs reaches. -/
theorem BacktestEngine.costs_split_the_modes :
    AvailableQuote shipped Sample.route Sample.gaining ∧
      ∃ row snapshot,
        opportunityRow Sample.runKey.columns Sample.gaining.quote 61000000 "eligible"
          Sample.gainingPayload = .ok row ∧
        legBSnapshot Sample.runKey.columns Sample.gaining 61000000 0 0 Sample.gainingPayload =
          .ok snapshot ∧
        SnapshotEligible (Sample.edgeParams "390") snapshot none ∧
        ¬OpportunityEligible (Sample.edgeParams "390") row := by
  obtain ⟨row, snapshot, rowStored, snapshotStored⟩ := Sample.gaining_stored
  have entries := storedEntries Sample.gainingTexts Sample.verifiedFindings
    Sample.gaining_available.metadata
  have gates : Gates.read (Sample.edgeParams "390") =
      .ok ⟨.finite 390, .finite 9999, .finite 9999, .finite 1⟩ := by
    decide +kernel
  refine ⟨Sample.gaining_available, row, snapshot, rowStored, snapshotStored, ?_, ?_⟩
  · refine (snapshotEligible_iff entries snapshotStored).mpr ⟨?_, ?_⟩
    · refine ⟨⟨.finite 390, .finite 9999, .finite 9999, .finite 1⟩,
        ⟨.configOnly, .walletVerified, .matched, .supported, false⟩, .finite 0, gates,
        by decide +kernel, by decide +kernel, ?_⟩
      refine ⟨by decide +kernel, by decide +kernel, by decide +kernel, by decide +kernel,
        by decide +kernel, .inr ⟨.finite (1 / 10000), by decide +kernel, by decide +kernel⟩⟩
    · exact ⟨⟨.finite 390, .finite 9999, .finite 9999, .finite 1⟩,
        ⟨.finite (1 / 100), .finite 5⟩, .finite (404 / 100), .finite 404, by decide +kernel⟩
  · rw [opportunityEligible_iff entries rowStored]
    intro accepted
    obtain ⟨-, other, storedEdge, storedSlippage, readAgain, keepsEdge, -, -, edge, -⟩ := accepted
    cases gates.symm.trans readAgain
    have kept : Sample.runKey.columns.decimal10_5
        (.finite Sample.gaining.quote.modeledNetEdgeBps) = .ok (.finite 379) := by decide +kernel
    cases kept.symm.trans keepsEdge
    exact absurd edge (by decide +kernel)

end ArbitrageBot
