/-
Confidence levels of fees, balances and quotes, with their legacy spellings.
The source keeps each level as a text and compares ranks; here a level is a
constructor and the normalizers read the texts.
-/

import ArbitrageBot.Library.PythonText

namespace ArbitrageBot

open PythonText

/-- `_norm`: absent text reads as empty. -/
def norm (raw : Option String) : String :=
  match raw with
  | none => ""
  | some text => lower (strip text)

inductive SupportStatus
  | unknown | unsupported | supported
deriving DecidableEq, Repr

inductive FeeConfidence
  | unknown | fallbackOnly | configOnly | venueDeclared | acctVerified | chainVerified
deriving DecidableEq, Repr

inductive BalanceConfidence
  | unknown | mismatch | internalOk | dbInventoryOk | walletVerified | venueVerified
deriving DecidableEq, Repr

inductive QuoteMatch
  | unknown | mismatch | matched
deriving DecidableEq, Repr

/-! ### Ranks: the position in the source's order tuples -/

def SupportStatus.rank : SupportStatus → Nat
  | .unknown => 0
  | .unsupported => 1
  | .supported => 2

def FeeConfidence.rank : FeeConfidence → Nat
  | .unknown => 0
  | .fallbackOnly => 1
  | .configOnly => 2
  | .venueDeclared => 3
  | .acctVerified => 4
  | .chainVerified => 5

def BalanceConfidence.rank : BalanceConfidence → Nat
  | .unknown => 0
  | .mismatch => 1
  | .internalOk => 2
  | .dbInventoryOk => 3
  | .walletVerified => 4
  | .venueVerified => 5

def QuoteMatch.rank : QuoteMatch → Nat
  | .unknown => 0
  | .mismatch => 1
  | .matched => 2

/-! ### Texts -/

def SupportStatus.text : SupportStatus → String
  | .unknown => "unknown"
  | .unsupported => "unsupported"
  | .supported => "supported"

def FeeConfidence.text : FeeConfidence → String
  | .unknown => "unknown"
  | .fallbackOnly => "fallback_only"
  | .configOnly => "config_only"
  | .venueDeclared => "venue_declared"
  | .acctVerified => "acct_verified"
  | .chainVerified => "chain_verified"

def BalanceConfidence.text : BalanceConfidence → String
  | .unknown => "unknown"
  | .mismatch => "mismatch"
  | .internalOk => "internal_ok"
  | .dbInventoryOk => "db_inventory_ok"
  | .walletVerified => "wallet_verified"
  | .venueVerified => "venue_verified"

def QuoteMatch.text : QuoteMatch → String
  | .unknown => "unknown"
  | .mismatch => "mismatch"
  | .matched => "matched"

def SupportStatus.all : List SupportStatus := [.unknown, .unsupported, .supported]

def FeeConfidence.all : List FeeConfidence :=
  [.unknown, .fallbackOnly, .configOnly, .venueDeclared, .acctVerified, .chainVerified]

def BalanceConfidence.all : List BalanceConfidence :=
  [.unknown, .mismatch, .internalOk, .dbInventoryOk, .walletVerified, .venueVerified]

def QuoteMatch.all : List QuoteMatch := [.unknown, .mismatch, .matched]

def SupportStatus.ofText? (value : String) : Option SupportStatus :=
  SupportStatus.all.find? (fun status => status.text = value)

def FeeConfidence.ofText? (value : String) : Option FeeConfidence :=
  FeeConfidence.all.find? (fun status => status.text = value)

def BalanceConfidence.ofText? (value : String) : Option BalanceConfidence :=
  BalanceConfidence.all.find? (fun status => status.text = value)

def QuoteMatch.ofText? (value : String) : Option QuoteMatch :=
  QuoteMatch.all.find? (fun status => status.text = value)

/-! ### Normalizers -/

def normalizeSupportStatus (raw : Option String) : SupportStatus :=
  let value := norm raw
  match SupportStatus.ofText? value with
  | some status => status
  | none =>
      if value ∈ ["good", "ok", "true", "1", "yes"] then .supported
      else if value ∈ ["bad", "false", "0", "no"] then .unsupported
      else .unknown

/-- The fee level that a legacy positive flag stands for, given where it came from. -/
def feeConfidenceOfHint (hint : String) : FeeConfidence :=
  if hint ∈ ["chain_verified", "chain_pool_fee"] then .chainVerified
  else if hint ∈ ["acct_verified", "account_verified"] then .acctVerified
  else if hint ∈ ["venue_declared", "venue_default", "venue_specific", "symbol_override"] then
    .venueDeclared
  else if hint ∈ ["fallback", "fallback_only"] then .fallbackOnly
  else .configOnly

def normalizeFeeConfidence (raw provenanceHint : Option String) : FeeConfidence :=
  let value := norm raw
  match FeeConfidence.ofText? value with
  | some status => status
  | none =>
      let hint := norm provenanceHint
      if value ∈ ["fallback", "fallback_fee", "fallback_only"] ∨
          hint ∈ ["fallback", "fallback_only"] then .fallbackOnly
      else if value ∈ ["config", "configured", "config_only", "configured_economic_fee"] then
        .configOnly
      else if value ∈ ["venue_declared", "venue_default", "venue_specific", "symbol_override"] then
        .venueDeclared
      else if value ∈ ["acct_verified", "account_verified"] then .acctVerified
      else if value ∈ ["chain_verified", "chain_pool_fee"] then .chainVerified
      else if value ∈ ["true", "1", "yes", "good"] then feeConfidenceOfHint hint
      else .unknown

def normalizeBalanceConfidence (raw evidenceHint : Option String) : BalanceConfidence :=
  let value := norm raw
  match BalanceConfidence.ofText? value with
  | some status => status
  | none =>
      let hint := norm evidenceHint
      if value ∈ ["wallet_verified", "wallet"] ∨ hint ∈ ["wallet_verified", "wallet"] then
        .walletVerified
      else if value ∈ ["venue_verified", "venue"] ∨ hint ∈ ["venue_verified", "venue"] then
        .venueVerified
      else if value ∈ ["db_inventory_ok", "db_inventory", "inventory"] ∨
          hint ∈ ["db_inventory_ok", "db_inventory", "inventory"] then .dbInventoryOk
      else if value ∈ ["internal_ok", "internal"] ∨ hint ∈ ["internal_ok", "internal"] then
        .internalOk
      else if value ∈ ["mismatch", "inventory_drift", "wallet_balance_mismatch"] then .mismatch
      -- a positive flag: every hint that names a level was taken above
      else if value ∈ ["true", "1", "yes", "good"] then .internalOk
      else if value ∈ ["false", "0", "no", "bad"] ∧
          hint ∈ ["inventory_drift", "wallet_balance_mismatch", "mismatch"] then .mismatch
      else .unknown

def normalizeQuoteMatchStatus (raw : Option String) : QuoteMatch :=
  let value := norm raw
  match QuoteMatch.ofText? value with
  | some status => status
  | none =>
      if value ∈ ["true", "1", "yes", "good"] then .matched
      else if value ∈ ["false", "0", "no", "bad"] then .mismatch
      else .unknown

def feeConfidenceAtLeast (actual required : FeeConfidence) : Bool :=
  required.rank ≤ actual.rank

def balanceConfidenceAtLeast (actual required : BalanceConfidence) : Bool :=
  required.rank ≤ actual.rank

def quoteMatchStatusAtLeast (actual required : QuoteMatch) : Bool :=
  required.rank ≤ actual.rank

/-! ### A level's own text reads back as that level -/

theorem normalizeSupportStatus_text (status : SupportStatus) :
    normalizeSupportStatus (some status.text) = status := by
  cases status <;> decide

theorem normalizeFeeConfidence_text (status : FeeConfidence) (hint : Option String) :
    normalizeFeeConfidence (some status.text) hint = status := by
  have read : FeeConfidence.ofText? (norm (some status.text)) = some status := by
    cases status <;> decide
  simp only [normalizeFeeConfidence, read]

theorem normalizeBalanceConfidence_text (status : BalanceConfidence) (hint : Option String) :
    normalizeBalanceConfidence (some status.text) hint = status := by
  have read : BalanceConfidence.ofText? (norm (some status.text)) = some status := by
    cases status <;> decide
  simp only [normalizeBalanceConfidence, read]

theorem normalizeQuoteMatchStatus_text (status : QuoteMatch) :
    normalizeQuoteMatchStatus (some status.text) = status := by
  cases status <;> decide

end ArbitrageBot
