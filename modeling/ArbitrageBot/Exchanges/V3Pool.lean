/-
The adapters of V3-like pools. The mock prices a swap by the pool's own numbers; the real one asks
a quoter contract in whole units of the token, whose decimals it reads from the chain once and
remembers. Between two legs the amount is a decimal of eight places.
-/

import ArbitrageBot.QuoteEngine.Engine

namespace ArbitrageBot

open DecimalRounding PythonText

structure PoolModel where
  poolId : String
  quoterFeeTier : Int
  poolFeeTier : Int
  configuredEconomicFeeBps : Int
  midPrice : Rat
  liquidityUsd : Rat
  healthy : Bool := true
  poolAddress : String := ""
  tokenInSymbol : String := ""
  tokenOutSymbol : String := ""
  tokenInAddress : String := ""
  tokenOutAddress : String := ""
  tokenInDecimals : Nat := 6
  tokenOutDecimals : Nat := 6

/-- The dictionary of pools by their ids, in the order of insertion. -/
abbrev Pools := List PoolModel

namespace Pools

variable (pools : Pools) (tokenIn tokenOut : String) (feeTier : Option Int) (poolId : Option String)

def get? (poolId : String) : Option PoolModel := pools.find? fun pool => pool.poolId = poolId

def matching? : Option PoolModel :=
  pools.find? fun pool =>
    upper pool.tokenInSymbol = strip (upper tokenIn) &&
      upper pool.tokenOutSymbol = strip (upper tokenOut) &&
      feeTier.all fun fee => pool.quoterFeeTier = fee || pool.poolFeeTier = fee

/-- The part of `_find_pool` that both adapters share: a known id decides, whatever the tokens. -/
def locate? : Option PoolModel :=
  (poolId.bind fun id => if id = "" then none else pools.get? id).or
    (pools.matching? tokenIn tokenOut feeTier)

end Pools

/-! ### The mock -/

structure MockV3Adapter where
  pools : Pools

namespace MockV3Adapter

variable (adapter : MockV3Adapter) (tokenIn tokenOut : String) (feeTier : Option Int)
  (poolId : Option String)

def findPool : Except String PoolModel :=
  match (adapter.pools.locate? tokenIn tokenOut feeTier poolId).or adapter.pools.head? with
  | some pool => .ok pool
  | none => .error "no pools configured"

def quoteExactInput (amountIn : Rat) : Except String Rat := do
  let pool ← adapter.findPool tokenIn tokenOut feeTier poolId
  let grossOut := amountIn * pool.midPrice
  let fee := grossOut * pool.poolFeeTier / 10000
  quantize 8 (grossOut - fee)

def quoteExactOutput (amountOut : Rat) : Except String Rat := do
  let pool ← adapter.findPool tokenIn tokenOut feeTier poolId
  if pool.midPrice = 0 then
    .error (if amountOut = 0 then "[<class \x27decimal.DivisionUndefined\x27>]"
      else "[<class \x27decimal.DivisionByZero\x27>]")
  let grossIn := amountOut / pool.midPrice
  let fee := grossIn * pool.poolFeeTier / 10000
  quantize 8 (grossIn + fee)

/-- What the engines see of it. -/
def asDex : DexAdapter where
  supported := true
  supportReason := ""
  quoteExactInput tokenIn tokenOut amountIn feeTier poolId :=
    adapter.quoteExactInput tokenIn tokenOut feeTier poolId amountIn
  quoteExactOutput tokenIn tokenOut amountOut feeTier poolId :=
    adapter.quoteExactOutput tokenIn tokenOut feeTier poolId amountOut
  estimateGas _ := .ok 230000
  getPoolState poolId :=
    .ok { poolFeeTier := (adapter.pools.get? poolId).map fun pool => (pool.poolFeeTier : Rat) }
  getLiquiditySnapshot poolId :=
    .ok { liquidityUsd := ((adapter.pools.get? poolId).map PoolModel.liquidityUsd).getD 0 }
  isPoolHealthy poolId :=
    .ok ((adapter.pools.get? poolId).any fun pool => pool.healthy && 0 < pool.liquidityUsd)

end MockV3Adapter

/-! ### The real one -/

structure QuoterCall where
  tokenIn : String
  tokenOut : String
  fee : Int
  amount : Int

def PoolModel.call (pool : PoolModel) (amount : Int) : QuoterCall :=
  { tokenIn := pool.tokenInAddress, tokenOut := pool.tokenOutAddress, fee := pool.quoterFeeTier
    amount }

/-- What the chain and the listing service answer during one call of an adapter. Reading a token or
a pool can fail; a quoter that fails does so with the text of its exception. The quoter's two
interfaces order the same arguments differently. -/
structure ChainAnswers where
  decimals : String → Option Nat
  quoteExactInputSingle : QuoterCall → Except String Nat
  quoteExactOutputSingle : QuoterCall → Except String Nat
  poolFee : String → Option Nat
  listedLiquidityUsd : String → Option Rat

abbrev DecimalsCache := String → Option Nat

def tokenKey (address : String) : String := strip (lower address)

/-- `_token_decimals`: a failed read is not remembered. -/
def tokenDecimals (chain : ChainAnswers) (cache : DecimalsCache) (address : String)
    (fallback : Nat) : Nat × DecimalsCache :=
  if tokenKey address = "" then (fallback, cache)
  else
    match cache (tokenKey address), chain.decimals address with
    | some decimals, _ => (decimals, cache)
    | none, some decimals => (decimals, Function.update cache (tokenKey address) (some decimals))
    | none, none => (fallback, cache)

structure RealV3LikeAdapter where
  venue : String
  /-- A provider was configured. -/
  connected : Bool
  supported : Bool
  supportReason : String
  pools : Pools

namespace RealV3LikeAdapter

/-- `contract` is what becomes of building the quoter contract. -/
def create (venue rpcUrl quoterAddress : String) (pools : Pools)
    (contract : Except String Unit) : RealV3LikeAdapter :=
  let configured := strip rpcUrl ≠ "" && strip quoterAddress ≠ "" && !pools.isEmpty
  if configured then
    match contract with
    | .ok () => { venue, connected := true, supported := true, supportReason := "", pools }
    | .error reason =>
        { venue, connected := true, supported := false
          supportReason := "invalid quoter config: " ++ reason, pools }
  else
    { venue, connected := false, supported := false
      supportReason := "missing rpc/quoter/pool configuration", pools }

variable (adapter : RealV3LikeAdapter) (chain : ChainAnswers) (cache : DecimalsCache)
  (tokenIn tokenOut : String) (feeTier : Option Int) (poolId : Option String)

def findPool : Except String PoolModel :=
  match adapter.pools.locate? tokenIn tokenOut feeTier poolId with
  | some pool => .ok pool
  | none =>
      .error ("pool mapping not found for " ++ adapter.venue ++ ": " ++ strip (upper tokenIn) ++
        "->" ++ strip (upper tokenOut))

def unsupportedReason : String :=
  if adapter.supportReason = "" then "quoter not supported" else adapter.supportReason

/-- `amount * 10 ** decimals` to the nearest whole number. -/
def toWei (amount : Rat) (decimals : Nat) : Int := roundHalfEven (amount * 10 ^ decimals)

def fromWei (wei : Nat) (decimals : Nat) : Except String Rat :=
  quantize 8 ((wei : Rat) / 10 ^ decimals)

def answered (decimals : Nat) (answer : Except String Nat) : Except String Rat :=
  match answer.bind fun wei => fromWei wei decimals with
  | .ok amount => .ok amount
  | .error reason => .error (adapter.venue ++ " quote failure: " ++ reason)

/-- The decimals of the tokens of a pool, the sold one first. -/
def poolDecimals (pool : PoolModel) : Nat × Nat × DecimalsCache :=
  let sold := tokenDecimals chain cache pool.tokenInAddress pool.tokenInDecimals
  let bought := tokenDecimals chain sold.2 pool.tokenOutAddress pool.tokenOutDecimals
  (sold.1, bought.1, bought.2)

def quoteExactInput (amountIn : Rat) : Except String Rat × DecimalsCache :=
  match adapter.findPool tokenIn tokenOut feeTier poolId with
  | .error reason => (.error reason, cache)
  | .ok pool =>
      if !adapter.supported then (.error adapter.unsupportedReason, cache)
      else
        let decimals := poolDecimals chain cache pool
        let call := pool.call (toWei amountIn decimals.1)
        (adapter.answered decimals.2.1 (chain.quoteExactInputSingle call), decimals.2.2)

def quoteExactOutput (amountOut : Rat) : Except String Rat × DecimalsCache :=
  match adapter.findPool tokenIn tokenOut feeTier poolId with
  | .error reason => (.error reason, cache)
  | .ok pool =>
      if !adapter.supported then (.error adapter.unsupportedReason, cache)
      else
        let decimals := poolDecimals chain cache pool
        let call := pool.call (toWei amountOut decimals.2.1)
        (adapter.answered decimals.1 (chain.quoteExactOutputSingle call), decimals.2.2)

/-- An absent listing leaves the configured liquidity. -/
def liquiditySnapshot (poolId : String) : Rat :=
  match adapter.pools.get? poolId with
  | none => 0
  | some pool =>
      if pool.poolAddress = "" then pool.liquidityUsd
      else (chain.listedLiquidityUsd pool.poolAddress).getD pool.liquidityUsd

def poolState (poolId : String) : PoolState :=
  match adapter.pools.get? poolId with
  | none => {}
  | some pool =>
      if pool.poolAddress = "" || !adapter.connected then {}
      else { poolFeeTier := (chain.poolFee pool.poolAddress).map fun fee => (fee : Rat) }

/-- What the engines see of it, from a cache and with the chain as it answers. -/
def asDex : DexAdapter where
  supported := adapter.supported
  supportReason := adapter.supportReason
  quoteExactInput tokenIn tokenOut amountIn feeTier poolId :=
    (adapter.quoteExactInput chain cache tokenIn tokenOut feeTier poolId amountIn).1
  quoteExactOutput tokenIn tokenOut amountOut feeTier poolId :=
    (adapter.quoteExactOutput chain cache tokenIn tokenOut feeTier poolId amountOut).1
  estimateGas _ := .ok 260000
  getPoolState poolId := .ok (adapter.poolState chain poolId)
  getLiquiditySnapshot poolId := .ok { liquidityUsd := adapter.liquiditySnapshot chain poolId }
  isPoolHealthy poolId :=
    .ok (adapter.supported && 0 < adapter.liquiditySnapshot chain poolId)

end RealV3LikeAdapter

end ArbitrageBot
