/-
Quotes, health snapshots and verdicts: the records that pass between the quote
engines, the health collector and the risk manager.
-/

import ArbitrageBot.Settings

namespace ArbitrageBot

/-- String metadata, first binding first. -/
abbrev Metadata := List (String × String)

def Metadata.get (metadata : Metadata) (key fallback : String) : String :=
  (metadata.lookup key).getD fallback

structure RouteQuote where
  routeId : String
  strategy : String
  pair : String
  direction : String
  initialAmount : Rat
  finalAmount : Rat
  rawSpreadAmount : Rat
  rawEdgeBps : Rat
  modeledNetEdgeAmount : Rat
  modeledNetEdgeBps : Rat
  expectedSlippageBps : Rat
  gasCostUsdc : Rat
  quoteAgeSeconds : Rat
  allCosts : Rat
  persistedSeconds : Rat
  status : String := "detected"
  blockedReason : String := ""
  metadata : Metadata := []

structure HealthSnapshot where
  rpcErrorRate5m : Rat := 0
  gasNow : Rat := 0
  gasP90 : Rat := 1
  liquidityChangePct : Rat := 0
  quoteStaleSeconds : Rat := 0
  healthAgeSeconds : Rat := 999
  alertFailures : Int := 0
  dbReachable : Bool := false
  dbKnown : Bool := false
  rpcReachable : Bool := false
  rpcKnown : Bool := false
  signingOk : Bool := false
  signingKnown : Bool := false
  feeKnown : Bool := false
  feeKnownStatus : String := "unknown"
  feeProvenance : String := ""
  quoteMatch : Bool := false
  quoteMatchKnown : Bool := false
  quoteMatchStatus : String := "unknown"
  balanceMatch : Bool := false
  balanceMatchKnown : Bool := false
  balanceMatchStatus : String := "unknown"
  balanceFailureReason : String := ""
  clockSkewOk : Bool := false
  contractRevertRate : Rat := 0

structure OpportunityDecision where
  tradable : Bool
  blockedReason : String
  checks : List (String × Bool)
deriving DecidableEq

end ArbitrageBot
