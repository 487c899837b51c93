/-
What a hint, or an old flag, can make of a status stored as a legacy negative,
and what of it a replay then admits.
-/

import ArbitrageBot.Backtest.HealthContext
import ArbitrageBot.Backtest.Tolerance

namespace ArbitrageBot

open Fallible PythonDecimal GuardChain PythonJson

/-! ### Hints that lift a negative -/

def negativeFlags : List String := ["false", "0", "no", "bad"]

/-- The text trims and lower-cases to a legacy negative. -/
def IsLegacyNegative (raw : String) : Prop := norm (some raw) ∈ negativeFlags

def liftingFeeHints : List String := ["fallback", "fallback_only"]

def liftingBalanceHints : List String :=
  [ "wallet_verified", "wallet", "venue_verified", "venue", "db_inventory_ok", "db_inventory",
    "inventory", "internal_ok", "internal" ]

section Normalizers

variable {raw : String} {hint : Option String}

/-- A legacy negative names no level, and none of the synonyms that are looked for first. -/
theorem IsLegacyNegative.cases (negative : IsLegacyNegative raw) :
    norm (some raw) = "false" ∨ norm (some raw) = "0" ∨ norm (some raw) = "no" ∨
      norm (some raw) = "bad" := by
  simpa only [IsLegacyNegative, negativeFlags, List.mem_cons, List.not_mem_nil, or_false]
    using negative

theorem IsLegacyNegative.no_fee_level (negative : IsLegacyNegative raw) :
    FeeConfidence.ofText? (norm (some raw)) = none := by
  rcases negative.cases with value | value | value | value <;> rw [value] <;> decide

theorem IsLegacyNegative.no_balance_level (negative : IsLegacyNegative raw) :
    BalanceConfidence.ofText? (norm (some raw)) = none := by
  rcases negative.cases with value | value | value | value <;> rw [value] <;> decide

theorem normalizeFeeConfidence_negative (negative : IsLegacyNegative raw) :
    normalizeFeeConfidence (some raw) hint =
      if norm hint ∈ liftingFeeHints then .fallbackOnly else .unknown := by
  simp only [normalizeFeeConfidence, negative.no_fee_level, liftingFeeHints]
  rcases negative.cases with value | value | value | value <;> simp [value]

/-- What is left of the chain of synonyms once the stored value matches none of them. -/
theorem normalizeBalanceConfidence_of_hint (negative : IsLegacyNegative raw) :
    normalizeBalanceConfidence (some raw) hint =
      if norm hint ∈ ["wallet_verified", "wallet"] then .walletVerified
      else if norm hint ∈ ["venue_verified", "venue"] then .venueVerified
      else if norm hint ∈ ["db_inventory_ok", "db_inventory", "inventory"] then .dbInventoryOk
      else if norm hint ∈ ["internal_ok", "internal"] then .internalOk
      else if norm hint ∈ ["inventory_drift", "wallet_balance_mismatch", "mismatch"] then .mismatch
      else .unknown := by
  simp only [normalizeBalanceConfidence, negative.no_balance_level]
  rcases negative.cases with value | value | value | value <;> simp [value]

theorem normalizeBalanceConfidence_negative_iff (negative : IsLegacyNegative raw) :
    normalizeBalanceConfidence (some raw) hint ∈ [BalanceConfidence.unknown, .mismatch] ↔
      norm hint ∉ liftingBalanceHints := by
  have levels : norm hint ∈ liftingBalanceHints ↔
      norm hint ∈ ["wallet_verified", "wallet"] ∨ norm hint ∈ ["venue_verified", "venue"] ∨
        norm hint ∈ ["db_inventory_ok", "db_inventory", "inventory"] ∨
        norm hint ∈ ["internal_ok", "internal"] := by
    simp only [liftingBalanceHints, List.mem_cons, List.not_mem_nil, or_false, or_assoc]
  rw [normalizeBalanceConfidence_of_hint negative, levels]
  split_ifs with wallet venue inventory internal mismatch <;> simp [*]

end Normalizers

namespace BacktestEngine

/-! ### Rows that carry a negative -/

/-- The fee status of a payload, and the provenance beside it where that is a text. -/
structure FeeCarried (raw : String) (hint : Option String) (payload : JsonObject) : Prop where
  status : payload.get? "fee_known_status" = some (.text raw)
  provenance : textOf (orElse (payload.get? "fee_provenance") (payload.get? "fee_source")) = hint

structure BalanceCarried (raw : String) (hint : Option String) (payload : JsonObject) : Prop where
  status : payload.get? "balance_match_status" = some (.text raw)
  evidence : textOf (payload.get? "balance_failure_reason") = hint

def feeKnownFlag (payload : JsonObject) : Bool :=
  isTrue (payload.getD "fee_known" (.text "unknown"))

/-- In every finished replay of opportunities the rows with such a payload are blocked. -/
def OpportunitiesBlocked (carries : JsonObject → Prop) : Prop :=
  ∀ key rows params legacySupportFallback finished,
    evaluateOpportunityRows key rows params legacySupportFallback = .ok finished →
    ∀ (index : Nat) row, rows[index]? = some row → carries row.payload →
      ∃ trade : BacktestTrade, finished.2[index]? = some trade ∧ trade.status = "blocked"

/-- In every finished replay of snapshots without health rows, the candidates with such metadata
are blocked. -/
def SnapshotsBlocked (carries : JsonObject → Prop) : Prop :=
  ∀ key rows params finished, evaluateMarketSnapshotRows key rows [] params = .ok finished →
    ∀ (index : Nat) row, (rows.filter fun row => row.context = "leg_b")[index]? = some row →
      carries row.metadata →
      ∃ trade : BacktestTrade, finished.2[index]? = some trade ∧ trade.status = "blocked"

/-- A negative fee status stays one beside this provenance and this `fee_known`. -/
structure FeeNegativeStays (raw : String) (hint : Option String) (feeKnown : Bool) : Prop where
  normalized : normalizeFeeConfidence (some raw) hint = .unknown
  opportunities : OpportunitiesBlocked fun payload =>
    FeeCarried raw hint payload ∧ feeKnownFlag payload = feeKnown
  snapshots : SnapshotsBlocked (FeeCarried raw hint)

/-- A negative balance status stays one beside this evidence. -/
structure BalanceNegativeStays (raw : String) (hint : Option String) : Prop where
  normalized :
    normalizeBalanceConfidence (some raw) hint ∈ [BalanceConfidence.unknown, .mismatch]
  opportunities : OpportunitiesBlocked (BalanceCarried raw hint)
  snapshots : SnapshotsBlocked (BalanceCarried raw hint)

/-! ### What a replay reads of it -/

section Carried

variable {raw : String} {hint : Option String} {payload : JsonObject} {own : Statuses}

theorem readFeeConfidence_negative (negative : IsLegacyNegative raw) {provenance : Option JsonValue}
    {fee : FeeConfidence} (read : readFeeConfidence (some (.text raw)) provenance = .ok fee) :
    fee = normalizeFeeConfidence (some raw) (textOf provenance) := by
  rw [readFeeConfidence_eq] at read
  exact readLevel_of_unnamed negative.no_fee_level read

theorem readBalanceConfidence_negative (negative : IsLegacyNegative raw)
    {evidence : Option JsonValue} {balance : BalanceConfidence}
    (read : readBalanceConfidence (some (.text raw)) evidence = .ok balance) :
    balance = normalizeBalanceConfidence (some raw) (textOf evidence) := by
  rw [readBalanceConfidence_eq] at read
  exact readLevel_of_unnamed negative.no_balance_level read

theorem FeeCarried.status_eq (carried : FeeCarried raw hint payload)
    (negative : IsLegacyNegative raw) (stored : payloadStatuses payload = .ok own) :
    own.fee = normalizeFeeConfidence (some raw) hint := by
  obtain ⟨fee, readFee, stored⟩ := bind_eq_ok.mp stored
  obtain ⟨_, _, stored⟩ := bind_eq_ok.mp stored
  obtain ⟨_, _, stored⟩ := bind_eq_ok.mp stored
  obtain ⟨_, _, stored⟩ := bind_eq_ok.mp stored
  cases stored
  rw [carried.status] at readFee
  rw [← carried.provenance]
  exact readFeeConfidence_negative negative readFee

theorem BalanceCarried.status_eq (carried : BalanceCarried raw hint payload)
    (negative : IsLegacyNegative raw) (stored : payloadStatuses payload = .ok own) :
    own.balance = normalizeBalanceConfidence (some raw) hint := by
  obtain ⟨_, _, stored⟩ := bind_eq_ok.mp stored
  obtain ⟨balance, readBalance, stored⟩ := bind_eq_ok.mp stored
  obtain ⟨_, _, stored⟩ := bind_eq_ok.mp stored
  obtain ⟨_, _, stored⟩ := bind_eq_ok.mp stored
  cases stored
  rw [carried.status] at readBalance
  rw [← carried.evidence]
  exact readBalanceConfidence_negative negative readBalance

/-- Of the two, the legacy keys can only raise an unknown fee. -/
theorem opportunityStatuses_of_own {legacySupportFallback : Bool} {read : Statuses}
    (computed : opportunityStatuses payload legacySupportFallback = .ok read) :
    ∃ own, payloadStatuses payload = .ok own ∧ read.balance = own.balance ∧
      read.fee =
        if own.fee = .unknown ∧ feeKnownFlag payload = true then .configOnly else own.fee := by
  obtain ⟨own, stored, computed⟩ := bind_eq_ok.mp computed
  refine ⟨own, stored, ?_⟩
  by_cases unknown : own.quoteMatch = .unknown
  · simp only [if_pos unknown] at computed
    obtain ⟨quoteMatch, _, computed⟩ := bind_eq_ok.mp computed
    cases computed
    exact ⟨rfl, rfl⟩
  · simp only [if_neg unknown] at computed
    cases computed
    exact ⟨rfl, rfl⟩

theorem snapshotStatuses_of_own {read : Statuses}
    (computed : snapshotStatuses payload none = .ok read) :
    ∃ own, payloadStatuses payload = .ok own ∧ read.balance = own.balance ∧
      read.fee = own.fee := by
  obtain ⟨own, stored, computed⟩ := bind_eq_ok.mp computed
  cases computed
  refine ⟨own, stored, ?_⟩
  rw [Option.elim_none, settleSupport_eq]
  exact ⟨rfl, rfl⟩

end Carried

/-! ### Rows that are blocked for it -/

def Statuses.Inadmissible (read : Statuses) : Prop :=
  read.fee = .unknown ∨ read.balance ∈ [BalanceConfidence.unknown, .mismatch]

theorem Statuses.Inadmissible.not_passed {read : Statuses} {params payload : JsonObject}
    (inadmissible : read.Inadmissible) (fee : ∀ guard ∈ feeGuards read params, guard.passes = true)
    (balance : ∀ guard ∈ balanceGuards read params payload, guard.passes = true) : False := by
  have known := balanceGuards_known balance
  rcases inadmissible with unknown | refused
  · exact feeGuards_known fee unknown
  · simp only [List.mem_cons, List.not_mem_nil, or_false] at refused
    exact refused.elim known.1 known.2

theorem opportunitiesBlocked_of_inadmissible {carries : JsonObject → Prop}
    (inadmissible : ∀ payload legacySupportFallback read, carries payload →
      opportunityStatuses payload legacySupportFallback = .ok read → read.Inadmissible) :
    OpportunitiesBlocked carries := by
  intro key rows params legacySupportFallback finished done index row here carried
  obtain ⟨gates, outcomes, -, replayed⟩ := replayed_of_opportunities done
  obtain ⟨outcome, trade, judged, inserted, found, -⟩ := trade_of_replayed replayed here
  refine ⟨trade, found, blocked_of_not_eligible inserted fun fill eligible => ?_⟩
  obtain ⟨read, recomputed⟩ := opportunityOutcome_eligible judged eligible
  obtain ⟨computed, passed⟩ := recomputeBlockedReason_eligible.mp recomputed
  obtain ⟨passes, -, -⟩ := opportunityChecks_passed.mp passed
  simp only [opportunityGuards, List.forall_mem_append] at passes
  obtain ⟨⟨⟨-, fee⟩, -⟩, balance⟩ := passes
  exact (inadmissible _ _ read carried computed).not_passed fee balance

theorem withHealth_nil (rows : List MarketSnapshot) :
    withHealth { current := none, ahead := [] } rows = rows.map fun row => (row, none) := by
  induction rows with
  | nil => rfl
  | cons row rest ih => exact congrArg _ ih

theorem snapshotsBlocked_of_inadmissible {carries : JsonObject → Prop}
    (inadmissible : ∀ metadata read, carries metadata →
      snapshotStatuses metadata none = .ok read → read.Inadmissible) :
    SnapshotsBlocked carries := by
  intro key rows params finished done index row here carried
  obtain ⟨gates, defaults, outcomes, -, -, replayed⟩ := replayed_of_snapshots done
  have paired : (snapshotRows rows [])[index]? = some (row, none) := by
    rw [snapshotRows, List.insertionSort_nil, withHealth_nil, List.getElem?_map, here]
    rfl
  obtain ⟨outcome, trade, judged, inserted, found, -⟩ := trade_of_replayed replayed paired
  refine ⟨trade, found, blocked_of_not_eligible inserted fun fill eligible => ?_⟩
  obtain ⟨reading, read, passed⟩ := snapshotOutcome_eligible judged eligible
  obtain ⟨passes, -, -⟩ := snapshotChecks_passed.mp passed
  simp only [snapshotGuards, List.forall_mem_append] at passes
  obtain ⟨⟨⟨-, fee⟩, balance⟩, -⟩ := passes
  exact (inadmissible _ _ carried (readSnapshot_readFrom read).statuses).not_passed fee balance

/-! ### A negative fee beside an old flag that is set -/

/-- What a negative fee status is lifted by where its provenance does not lift it. -/
def flaggedPayload (raw : String) (hint : Option String) : JsonObject :=
  [("fee_known_status", .text raw), ("fee_source", (hint.map JsonValue.text).getD .null),
    ("fee_known", .text "true"), ("balance_match_status", .text "wallet_verified"),
    ("quote_match_status", .text "matched"), ("support_status", .text "supported"),
    ("initial_amount", .text "100"), ("smaller_pool_liquidity_usdc", .text "1000000")]

def flaggedStatuses : Statuses :=
  { fee := .configOnly, balance := .walletVerified, quoteMatch := .matched
    support := .supported, quoteUnavailable := false }

def tenBpsGates : Gates := ⟨.finite 10, .finite 9999, .finite 9999, .finite 1⟩

theorem flaggedPayload_carried (raw : String) (hint : Option String) :
    FeeCarried raw hint (flaggedPayload raw hint) := by
  refine ⟨rfl, ?_⟩
  cases hint <;> rfl

theorem flaggedPayload_statuses {raw : String} {hint : Option String}
    (negative : IsLegacyNegative raw) (notLifted : norm hint ∉ liftingFeeHints) :
    opportunityStatuses (flaggedPayload raw hint) false = .ok flaggedStatuses := by
  have carried := flaggedPayload_carried raw hint
  have textual : isTextual (orElse ((flaggedPayload raw hint).get? "fee_provenance")
      ((flaggedPayload raw hint).get? "fee_source")) = true := by cases hint <;> rfl
  obtain ⟨fee, readFee⟩ := (@readFeeConfidence_ok_iff (some (.text raw)) _).mpr ⟨rfl, .inr textual⟩
  have unknown := readFeeConfidence_negative negative readFee
  rw [carried.provenance, normalizeFeeConfidence_negative negative, if_neg notLifted] at unknown
  rw [unknown, ← carried.status] at readFee
  have readBalance : readBalanceConfidence
      ((flaggedPayload raw hint).get? "balance_match_status")
      ((flaggedPayload raw hint).get? "balance_failure_reason") = .ok .walletVerified := rfl
  have readQuoteMatch : readQuoteMatchStatus
      ((flaggedPayload raw hint).get? "quote_match_status") = .ok .matched := rfl
  have readSupport : readSupportStatus
      ((flaggedPayload raw hint).get? "support_status") = .ok .supported := rfl
  have flagged : (flaggedPayload raw hint).getD "fee_known" (.text "unknown") = .text "true" := rfl
  have available :
      (flaggedPayload raw hint).getD "quote_unavailable" (.text "false") = .text "false" := rfl
  have set : isTrue (.text "true") = true := by decide
  have unset : isTrue (.text "false") = false := by decide
  simp [opportunityStatuses, payloadStatuses, readFee, readBalance, readQuoteMatch, readSupport,
    flagged, available, set, unset, flaggedStatuses, bind, Except.bind, pure, Except.pure]

def flaggedRow (raw : String) (hint : Option String) : OpportunityRow :=
  { timestamp := 0, status := "blocked", modeledEdgeBps := .finite 20, expectedPnlAbs := .finite 3
    expectedSlippageBps := .finite 1, gasEstimateUsdc := 0, quoteAgeSeconds := .finite 1
    payload := flaggedPayload raw hint }

theorem flaggedRow_admitted (raw : String) (hint : Option String) :
    AmountAdmitted (flaggedPayload raw hint) tenBpsGates := by
  have amount : (flaggedPayload raw hint).getD "initial_amount" (.text "0") = .text "100" := rfl
  have liquidity :
      (flaggedPayload raw hint).getD "smaller_pool_liquidity_usdc" (.text "0") =
        .text "1000000" := rfl
  rw [AmountAdmitted, amount, liquidity]
  exact ⟨.finite 100, .finite 1000000, by decide +kernel, by decide +kernel, by decide +kernel,
    by decide +kernel, .finite (100 / 1000000), by decide +kernel, by decide +kernel⟩

theorem flaggedRow_recomputed {raw : String} {hint : Option String}
    (negative : IsLegacyNegative raw) (notLifted : norm hint ∉ liftingFeeHints) :
    recomputeBlockedReason (flaggedRow raw hint) tenBpsGates Sample.tenBps false =
      .ok (none, flaggedStatuses) := by
  have fee : feeConfidenceAtLeast .configOnly (minFeeConfidence Sample.tenBps) = true := by
    decide +kernel
  have balance :
      balanceConfidenceAtLeast .walletVerified (minBalanceConfidence Sample.tenBps) = true := by
    decide +kernel
  have within : WithinThresholds tenBpsGates (.finite 20) (.finite 1) (.finite 1) :=
    ⟨by decide +kernel, by decide +kernel, by decide +kernel⟩
  refine recomputeBlockedReason_eligible.mpr ⟨flaggedPayload_statuses negative notLifted,
    opportunityChecks_passed.mpr ⟨?_, within, flaggedRow_admitted raw hint⟩⟩
  simp [opportunityGuards, supportGuards, feeGuards, quoteMatchGuards, balanceGuards, guard,
    flaggedStatuses, fee, balance]

theorem flaggedRow_fill (raw : String) (hint : Option String) :
    ∃ fill, opportunityFill Sample.tenBps (flaggedRow raw hint) flaggedStatuses = .ok fill ∧
      fill.simulatedPnl = .finite 3 ∧ Addable [.finite 20] [fill] := by
  have amount : (flaggedRow raw hint).payload.getD "initial_amount" (.text "0") = .text "100" :=
    rfl
  have priced : (do
      let initialAmount ← (JsonValue.text "100").decimal
      let charges ← computePenalties initialAmount (.finite 3) .configOnly .walletVerified
        Sample.tenBps
      fillOf (.finite 3) 0 charges : Except String Fill).toOption.any (fun fill =>
        fill.simulatedPnl = .finite 3 &&
          penaltyParts.map (fun part => part fill.charges.penalties) = [0, 0, 0, 0, 0, 0]) =
      true := by
    decide +kernel
  obtain ⟨fill, filled, figures⟩ := ok_of_any priced
  simp only [Bool.and_eq_true, decide_eq_true_eq] at figures
  obtain ⟨pnl, penalties⟩ := figures
  refine ⟨fill, by rw [opportunityFill, amount]; exact filled, pnl, ?_, ?_, ?_⟩
  · have none_ : ∀ part ∈ penaltyParts, part fill.charges.penalties = 0 := by
      simpa [penaltyParts] using penalties
    intro part known
    rw [List.map_singleton, none_ part known]
    exact ⟨0, by decide +kernel⟩
  · exact ⟨.finite 20, by decide +kernel⟩
  · obtain ⟨risk, risked, -⟩ := @ok_of_any _ _
      ([Decimal.finite 3].foldlM (RunningRisk.Risk.add decimalArithmetic) .start)
      (fun _ => true) (by decide +kernel)
    rw [List.map_singleton, pnl]
    exact ⟨risk, risked⟩

theorem flaggedRow_not_blocked {raw : String} {hint : Option String}
    (negative : IsLegacyNegative raw) (notLifted : norm hint ∉ liftingFeeHints) :
    ¬OpportunitiesBlocked fun payload =>
      FeeCarried raw hint payload ∧ feeKnownFlag payload = true := by
  intro blocked
  have recomputed := flaggedRow_recomputed negative notLifted
  obtain ⟨fill, earned, pnl, addable⟩ := flaggedRow_fill raw hint
  have keeps : ∃ kept, Sample.runKey.columns.decimal18_8 (.finite 3) = .ok kept :=
    ⟨.finite 3, by decide +kernel⟩
  have eligible : rowFill tenBpsGates Sample.tenBps false (flaggedRow raw hint) = some fill := by
    simp only [rowFill, recomputed, earned]
    rfl
  have readGates : Gates.read Sample.tenBps = .ok tenBpsGates := by decide +kernel
  have comparable : tenBpsGates.Comparable := ⟨rfl, rfl, rfl, rfl⟩
  have numbers : Numbers (flaggedRow raw hint) := ⟨rfl, rfl, rfl⟩
  obtain ⟨statuses, amounts⟩ :=
    (recomputeBlockedReason_ok_iff comparable numbers).mp ⟨_, recomputed⟩
  have writable : Writable Sample.runKey.columns (flaggedRow raw hint) := by
    have edge : ∃ kept, Sample.runKey.columns.decimal10_5 (.finite 20) = .ok kept :=
      ⟨.finite 20, by decide +kernel⟩
    exact ⟨edge, keeps, 0, by decide +kernel⟩
  have readable : RowReadable tenBpsGates Sample.tenBps false Sample.runKey.columns
      (flaggedRow raw hint) := by
    refine ⟨statuses, amounts, fun read same => ?_⟩
    cases recomputed.symm.trans same
    obtain ⟨kept, stored⟩ := keeps
    exact ⟨fill, kept, earned, by rw [pnl]; exact stored⟩
  have added : RowsAddable tenBpsGates Sample.tenBps false [flaggedRow raw hint] := by
    simp only [RowsAddable, List.filterMap_cons, eligible, Option.map_some, List.filterMap_nil]
    exact addable
  obtain ⟨finished, done⟩ := (@evaluateOpportunityRows_ok_iff Sample.runKey Sample.tenBps
    tenBpsGates false [flaggedRow raw hint] readGates comparable
    (List.forall_mem_singleton.mpr numbers) (List.forall_mem_singleton.mpr writable)).mpr
      ⟨List.forall_mem_singleton.mpr readable, added⟩
  have flag : feeKnownFlag (flaggedPayload raw hint) = true := by
    have flagged : (flaggedPayload raw hint).getD "fee_known" (.text "unknown") = .text "true" :=
      rfl
    rw [feeKnownFlag, flagged]
    decide
  obtain ⟨trade, here, status⟩ := blocked _ _ _ _ _ done 0 (flaggedRow raw hint) rfl
    ⟨flaggedPayload_carried raw hint, flag⟩
  obtain ⟨gates, outcomes, readSame, replayed⟩ := replayed_of_opportunities done
  cases readGates.symm.trans readSame
  obtain ⟨outcome, same, judged, inserted, found, -⟩ :=
    @trade_of_replayed _ _ _ _ _ _ replayed 0 (flaggedRow raw hint) rfl
  cases here.symm.trans found
  obtain ⟨-, -, filled, -⟩ := outcome_eq_ok judged
  have verdict := Sum.getRight?_eq_some_iff.mp (filled.symm.trans eligible)
  have admitted := (trade_eq_ok inserted).2.1
  rw [verdict, Sum.elim_inr, status] at admitted
  exact absurd admitted (by decide)

/-! ### When a negative stays one -/

theorem feeNegativeStays_iff {raw : String} {hint : Option String} {feeKnown : Bool}
    (negative : IsLegacyNegative raw) :
    FeeNegativeStays raw hint feeKnown ↔ norm hint ∉ liftingFeeHints ∧ feeKnown = false := by
  constructor
  · intro stays
    have notLifted : norm hint ∉ liftingFeeHints := by
      intro lifting
      have normalized := stays.normalized
      rw [normalizeFeeConfidence_negative negative, if_pos lifting] at normalized
      cases normalized
    refine ⟨notLifted, Bool.eq_false_iff.mpr fun set => ?_⟩
    rw [set] at stays
    exact flaggedRow_not_blocked negative notLifted stays.opportunities
  · intro condition
    obtain ⟨notLifted, unset⟩ := condition
    have normalized : normalizeFeeConfidence (some raw) hint = .unknown := by
      rw [normalizeFeeConfidence_negative negative, if_neg notLifted]
    refine ⟨normalized, ?_, ?_⟩
    · refine opportunitiesBlocked_of_inadmissible fun payload _ read carried computed => ?_
      obtain ⟨carried, flag⟩ := carried
      obtain ⟨own, stored, -, fee⟩ := opportunityStatuses_of_own computed
      rw [flag, unset, carried.status_eq negative stored, normalized] at fee
      exact .inl fee
    · refine snapshotsBlocked_of_inadmissible fun metadata read carried computed => ?_
      obtain ⟨own, stored, -, fee⟩ := snapshotStatuses_of_own computed
      exact .inl (fee.trans ((carried.status_eq negative stored).trans normalized))

theorem balanceNegativeStays_iff {raw : String} {hint : Option String}
    (negative : IsLegacyNegative raw) :
    BalanceNegativeStays raw hint ↔ norm hint ∉ liftingBalanceHints := by
  rw [← normalizeBalanceConfidence_negative_iff negative]
  constructor
  · exact BalanceNegativeStays.normalized
  · intro normalized
    refine ⟨normalized, ?_, ?_⟩
    · refine opportunitiesBlocked_of_inadmissible fun payload _ read carried computed => ?_
      obtain ⟨own, stored, balance, -⟩ := opportunityStatuses_of_own computed
      refine .inr ?_
      rw [balance, carried.status_eq negative stored]
      exact normalized
    · refine snapshotsBlocked_of_inadmissible fun metadata read carried computed => ?_
      obtain ⟨own, stored, balance, -⟩ := snapshotStatuses_of_own computed
      refine .inr ?_
      rw [balance, carried.status_eq negative stored]
      exact normalized

/-- A legacy negative stays negative, through normalization and in every replay without health
rows, exactly beside a hint that lifts neither status and an old `fee_known` that is not set. -/
theorem negative_stays_iff {raw : String} (hint : Option String) (feeKnown : Bool)
    (negative : IsLegacyNegative raw) :
    (FeeNegativeStays raw hint feeKnown ↔ norm hint ∉ liftingFeeHints ∧ feeKnown = false) ∧
      (BalanceNegativeStays raw hint ↔ norm hint ∉ liftingBalanceHints) :=
  ⟨feeNegativeStays_iff negative, balanceNegativeStays_iff negative⟩

theorem negative_stays_beside_free_text :
    FeeNegativeStays " Bad" (some "manual entry") false ∧
      BalanceNegativeStays " Bad" (some "manual entry") := by
  have settled := negative_stays_iff (some "manual entry") false
    (show IsLegacyNegative " Bad" by unfold IsLegacyNegative; decide)
  exact ⟨settled.1.mpr (by decide), settled.2.mpr (by decide)⟩

/-- A balance stored as "false", with the name of a source for its failure reason. -/
theorem source_name_lifts_negative :
    IsLegacyNegative "false" ∧
      normalizeBalanceConfidence (some "false") (some "wallet") = .walletVerified ∧
      ¬BalanceNegativeStays "false" (some "wallet") := by
  have lifted : normalizeBalanceConfidence (some "false") (some "wallet") = .walletVerified := by
    decide
  refine ⟨by unfold IsLegacyNegative; decide, lifted, fun stays => ?_⟩
  have normalized := stays.normalized
  rw [lifted] at normalized
  exact absurd normalized (by decide)

end BacktestEngine

end ArbitrageBot
