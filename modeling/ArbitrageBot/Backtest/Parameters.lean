/-
Where a replay takes its parameters from: the requested set, a default set of
the strategy, or the dictionary built from the settings; and what the loops
read where the parameters leave a key out.
-/

import ArbitrageBot.Backtest.FillModel

namespace ArbitrageBot

open Fallible PythonDecimal PythonJson

structure ParameterSet where
  id : String
  name : String
  strategy : String
  description : String
  paramsJson : String
  isDefault : Bool
  createdAt : Instant
deriving DecidableEq

/-- The entries in which the seeded sets differ. -/
structure SeededProfile where
  minEdge : String
  maxSlippage : String
  maxQuoteAge : String
  gas : String
  quoteDrift : String
  latency : String
  minFee : String
  minBalance : String

namespace SeededProfile

def params (profile : SeededProfile) : JsonObject :=
  [ ("min_modeled_edge_bps", .number profile.minEdge),
    ("max_slippage_bps", .number profile.maxSlippage),
    ("max_quote_age_seconds", .number profile.maxQuoteAge),
    ("gas_penalty_bps", .number profile.gas),
    ("quote_drift_buffer_bps", .number profile.quoteDrift),
    ("latency_penalty_bps", .number profile.latency),
    ("liquidity_cap_ratio", .text "0.0002"),
    ("min_fee_confidence_status", .text profile.minFee),
    ("min_balance_confidence_status", .text profile.minBalance) ]

def conservative : SeededProfile :=
  { minEdge := "30", maxSlippage := "2", maxQuoteAge := "3", gas := "2", quoteDrift := "3"
    latency := "2", minFee := "fallback_only", minBalance := "internal_ok" }

def observationLenient : SeededProfile :=
  { minEdge := "10", maxSlippage := "10", maxQuoteAge := "8", gas := "2", quoteDrift := "3"
    latency := "2", minFee := "fallback_only", minBalance := "internal_ok" }

def shadowReview : SeededProfile :=
  { minEdge := "125", maxSlippage := "10", maxQuoteAge := "5", gas := "3", quoteDrift := "4"
    latency := "3", minFee := "fallback_only", minBalance := "db_inventory_ok" }

def liveReadinessGate : SeededProfile :=
  { minEdge := "30", maxSlippage := "2", maxQuoteAge := "3", gas := "3", quoteDrift := "4"
    latency := "3", minFee := "chain_verified", minBalance := "wallet_verified" }

end SeededProfile

/-- `parameter_sets`, in the order in which the database returns rows that it need not order. -/
structure ParameterStore where
  sets : List ParameterSet
  /-- `id` is the primary key. -/
  distinct : (sets.map ParameterSet.id).Nodup
  /-- `new_id` draws no empty text. -/
  named : ∀ set ∈ sets, set.id ≠ ""

namespace ParameterStore

def getParameterSet (store : ParameterStore) (id : String) : Option ParameterSet :=
  store.sets.find? fun set => set.id = id

/-- `list_parameter_sets`: default sets first, then the newest first. -/
def listParameterSets (store : ParameterStore) (strategy : String) : List ParameterSet :=
  let rows := store.sets.filter fun set => strategy = "" ∨ set.strategy = strategy
  rows.insertionSort fun first second =>
    second.isDefault < first.isDefault ∨
      first.isDefault = second.isDefault ∧ second.createdAt ≤ first.createdAt

end ParameterStore

/-- `str` of a number, which reads back as that number. -/
structure Printed (value : Rat) where
  text : String
  reads : DecimalText.parse text = .ok (.finite value)

theorem Printed.decimal {value : Rat} (printed : Printed value) :
    (JsonValue.number printed.text).decimal = .ok (.finite value) :=
  printed.reads

theorem Printed.decimal_text {value : Rat} (printed : Printed value) :
    (JsonValue.text printed.text).decimal = .ok (.finite value) :=
  printed.reads

structure BuiltinTexts (settings : Settings) where
  minEdge : Printed settings.liveMinNetEdgeBps
  maxSlippage : Printed settings.liveMaxSlippageBps
  maxQuoteAge : Printed settings.globalStaleQuoteStopSeconds
  gas : Printed settings.costFailedTxAllowanceBps
  quoteDrift : Printed settings.costQuoteDriftBufferBps
  latency : Printed settings.costRouterOverheadBps
  liquidityCap : Printed settings.liveMaxNotionalPctOfSmallerPool

namespace BacktestEngine

/-- The dictionary at the end of `_resolve_params`. -/
def builtinParams {settings : Settings} (texts : BuiltinTexts settings) : JsonObject :=
  [ ("min_modeled_edge_bps", .number texts.minEdge.text),
    ("max_slippage_bps", .number texts.maxSlippage.text),
    ("max_quote_age_seconds", .number texts.maxQuoteAge.text),
    ("gas_penalty_bps", .number texts.gas.text),
    ("quote_drift_buffer_bps", .number texts.quoteDrift.text),
    ("latency_penalty_bps", .number texts.latency.text),
    ("liquidity_cap_ratio", .text texts.liquidityCap.text),
    ("min_fee_confidence_status", .text "fallback_only"),
    ("min_balance_confidence_status", .text "internal_ok"),
    ("fallback_fee_penalty_bps", .number "5"),
    ("unverified_fee_penalty_bps", .number "10"),
    ("unverified_balance_penalty_bps", .number "10"),
    ("default_gas_cost_usdc", .text "0.01") ]

section Resolution

variable (loads : String → Option JsonDocument) (store : ParameterStore)

def setParams (set : ParameterSet) : Option JsonObject :=
  let params := safeJson loads set.paramsJson
  if params = [] then none else some params

/-- The parameters of the requested set, where it exists and has any. An empty id requests
nothing. -/
def requestedParams (parameterSetId : Option String) : Option JsonObject := do
  let id ← parameterSetId
  if id = "" then none
  else
    let set ← store.getParameterSet id
    setParams loads set

def defaultParams (strategy : String) : Option JsonObject :=
  (store.listParameterSets strategy).findSome? fun set =>
    if set.isDefault then setParams loads set else none

def resolveParams {settings : Settings} (texts : BuiltinTexts settings) (strategy : String)
    (parameterSetId : Option String) : JsonObject :=
  ((requestedParams loads store parameterSetId).or (defaultParams loads store strategy)).getD
    (builtinParams texts)

end Resolution

/-! ### What the loops read -/

/-- A number that a loop reads from the parameters: its key, what is read in its absence, and the
number that the built-in dictionary has. -/
structure DecimalKey where
  key : String
  fallback : JsonValue
  fallbackValue : Rat
  builtinValue : Rat

def decimalKeys (settings : Settings) : List DecimalKey :=
  [ ⟨"min_modeled_edge_bps", .number "0", 0, settings.liveMinNetEdgeBps⟩,
    ⟨"max_slippage_bps", .number "9999", 9999, settings.liveMaxSlippageBps⟩,
    ⟨"max_quote_age_seconds", .number "9999", 9999, settings.globalStaleQuoteStopSeconds⟩,
    ⟨"liquidity_cap_ratio", .text "1", 1, settings.liveMaxNotionalPctOfSmallerPool⟩,
    ⟨"default_gas_cost_usdc", .text "0.01", 1 / 100, 1 / 100⟩,
    ⟨"gas_penalty_bps", .number "0", 0, settings.costFailedTxAllowanceBps⟩,
    ⟨"quote_drift_buffer_bps", .number "0", 0, settings.costQuoteDriftBufferBps⟩,
    ⟨"latency_penalty_bps", .number "0", 0, settings.costRouterOverheadBps⟩,
    ⟨"fallback_fee_penalty_bps", .number "0", 0, 5⟩,
    ⟨"unverified_fee_penalty_bps", .number "0", 0, 10⟩,
    ⟨"unverified_balance_penalty_bps", .number "0", 0, 10⟩ ]

/-- The loops read the same from either. -/
structure ReadAlike (settings : Settings) (first second : JsonObject) : Prop where
  decimals : ∀ entry ∈ decimalKeys settings,
    (first.getD entry.key entry.fallback).decimal = (second.getD entry.key entry.fallback).decimal
  slippage : first.getD "default_slippage_bps" (.text "5") =
    second.getD "default_slippage_bps" (.text "5")
  fee : minFeeConfidence first = minFeeConfidence second
  balance : minBalanceConfidence first = minBalanceConfidence second

section Builtin

variable {settings : Settings} (texts : BuiltinTexts settings) (entries : JsonObject)

theorem fallback_decimal : ∀ entry ∈ decimalKeys settings,
    entry.fallback.decimal = .ok (.finite entry.fallbackValue) := by
  have zero : (JsonValue.number "0").decimal = .ok (.finite 0) := by decide +kernel
  have most : (JsonValue.number "9999").decimal = .ok (.finite 9999) := by decide +kernel
  have one : (JsonValue.text "1").decimal = .ok (.finite 1) := by decide +kernel
  have cent : (JsonValue.text "0.01").decimal = .ok (.finite (1 / 100)) := by decide +kernel
  simp only [decimalKeys, List.forall_mem_cons, zero, most, one, cent, List.not_mem_nil,
    false_implies, implies_true, and_true]

theorem builtin_decimal : ∀ entry ∈ decimalKeys settings,
    ((builtinParams texts).getD entry.key entry.fallback).decimal =
      .ok (.finite entry.builtinValue) := by
  have five : (JsonValue.number "5").decimal = .ok (.finite 5) := by decide +kernel
  have ten : (JsonValue.number "10").decimal = .ok (.finite 10) := by decide +kernel
  have cent : (JsonValue.text "0.01").decimal = .ok (.finite (1 / 100)) := by decide +kernel
  simp only [decimalKeys, List.forall_mem_cons, List.not_mem_nil, false_implies, implies_true,
    and_true]
  exact ⟨texts.minEdge.decimal, texts.maxSlippage.decimal, texts.maxQuoteAge.decimal,
    texts.liquidityCap.decimal_text, cent, texts.gas.decimal, texts.quoteDrift.decimal,
    texts.latency.decimal, five, ten, ten⟩

theorem overlay_getD (key : String) (fallback : JsonValue) :
    JsonObject.getD (entries ++ builtinParams texts) key fallback =
      entries.getD key ((builtinParams texts).getD key fallback) := by
  simp only [JsonObject.getD, JsonObject.get?, List.lookup_append]
  cases List.lookup key entries <;> rfl

/-- A set over the built-in dictionary reads as the set alone where nothing that it leaves out has
a stricter built-in value than its reader's own. -/
theorem decimal_overlay_iff {entry : DecimalKey} (known : entry ∈ decimalKeys settings) :
    (entries.getD entry.key entry.fallback).decimal =
        (JsonObject.getD (entries ++ builtinParams texts) entry.key entry.fallback).decimal ↔
      (entries.get? entry.key).isSome ∨ entry.fallbackValue = entry.builtinValue := by
  rw [overlay_getD]
  cases present : entries.get? entry.key with
  | some value => simp [JsonObject.getD, present]
  | none =>
      have own := fallback_decimal entry known
      have builtin := builtin_decimal texts entry known
      simp only [JsonObject.getD, present, Option.getD_none, Option.isSome_none,
        Bool.false_eq_true, false_or] at builtin ⊢
      rw [own, builtin, Except.ok.injEq, Decimal.finite.injEq]

/-- The least levels of the built-in dictionary are those that the loops fall back to. -/
theorem confidence_overlay :
    minFeeConfidence entries = minFeeConfidence (entries ++ builtinParams texts) ∧
      minBalanceConfidence entries = minBalanceConfidence (entries ++ builtinParams texts) := by
  have fee : (builtinParams texts).getD "min_fee_confidence_status" (.text "fallback_only") =
      .text "fallback_only" := rfl
  have balance : (builtinParams texts).getD "min_balance_confidence_status" (.text "internal_ok") =
      .text "internal_ok" := rfl
  rw [minFeeConfidence, minFeeConfidence, minBalanceConfidence, minBalanceConfidence,
    overlay_getD, overlay_getD, fee, balance]
  exact ⟨rfl, rfl⟩

theorem slippage_overlay :
    entries.getD "default_slippage_bps" (.text "5") =
      JsonObject.getD (entries ++ builtinParams texts) "default_slippage_bps" (.text "5") := by
  rw [overlay_getD]
  rfl

/-- A set has each number that the built-in dictionary would change. -/
def CoversBuiltin (settings : Settings) (entries : JsonObject) : Prop :=
  ∀ entry ∈ decimalKeys settings,
    (entries.get? entry.key).isSome ∨ entry.fallbackValue = entry.builtinValue

theorem readAlike_overlay_iff :
    ReadAlike settings entries (entries ++ builtinParams texts) ↔
      CoversBuiltin settings entries := by
  constructor
  · intro alike entry known
    exact (decimal_overlay_iff texts entries known).mp (alike.decimals entry known)
  · intro covers
    exact ⟨fun entry known => (decimal_overlay_iff texts entries known).mpr (covers entry known),
      slippage_overlay texts entries, (confidence_overlay texts entries).1,
      (confidence_overlay texts entries).2⟩

end Builtin

/-! ### Nothing else of the parameters reaches a replay -/

section Alike

variable {settings : Settings} {first second : JsonObject}

theorem reads_of_alike (alike : ReadAlike settings first second) :
    Gates.read first = Gates.read second ∧
      SnapshotDefaults.read first = SnapshotDefaults.read second ∧
      ∀ initialAmount baseExpected fee balance,
        computePenalties initialAmount baseExpected fee balance first =
          computePenalties initialAmount baseExpected fee balance second := by
  have decimals := alike.decimals
  simp only [decimalKeys, List.forall_mem_cons] at decimals
  obtain ⟨edge, slippage, age, cap, gasCost, gas, drift, latency, fallbackFee, unverifiedFee,
    unverifiedBalance, -⟩ := decimals
  refine ⟨?_, ?_, fun initialAmount baseExpected fee balance => ?_⟩
  · simp only [Gates.read, edge, slippage, age, cap]
  · simp only [SnapshotDefaults.read, gasCost, alike.slippage]
  · simp only [computePenalties, penalty, gas, drift, latency, fallbackFee, unverifiedFee,
      unverifiedBalance]

theorem opportunityOutcome_of_alike (alike : ReadAlike settings first second) (gates : Gates)
    (legacySupportFallback : Bool) (row : OpportunityRow) :
    opportunityOutcome gates first legacySupportFallback row =
      opportunityOutcome gates second legacySupportFallback row := by
  obtain ⟨-, -, penalties⟩ := reads_of_alike alike
  simp only [opportunityOutcome, recomputeBlockedReason, opportunityChecks, opportunityGuards,
    feeGuards, balanceGuards, alike.fee, alike.balance, penalties]

theorem snapshotOutcome_of_alike (alike : ReadAlike settings first second) (gates : Gates)
    (defaults : SnapshotDefaults) (row : MarketSnapshot) (health : Option RouteHealth) :
    snapshotOutcome gates defaults first row health =
      snapshotOutcome gates defaults second row health := by
  obtain ⟨-, -, penalties⟩ := reads_of_alike alike
  simp only [snapshotOutcome, snapshotChecks, snapshotGuards, feeGuards, balanceGuards, alike.fee,
    alike.balance, penalties]

theorem replay_of_alike (alike : ReadAlike settings first second) (key : RunKey) :
    (∀ rows legacySupportFallback,
      evaluateOpportunityRows key rows first legacySupportFallback =
        evaluateOpportunityRows key rows second legacySupportFallback) ∧
      ∀ rows healthRows, evaluateMarketSnapshotRows key rows healthRows first =
        evaluateMarketSnapshotRows key rows healthRows second := by
  obtain ⟨gates, defaults, -⟩ := reads_of_alike alike
  constructor
  · intro rows legacySupportFallback
    simp only [evaluateOpportunityRows, gates, opportunityOutcome_of_alike alike]
  · intro rows healthRows
    simp only [evaluateMarketSnapshotRows, gates, defaults, snapshotOutcome_of_alike alike]

end Alike

end BacktestEngine

end ArbitrageBot
