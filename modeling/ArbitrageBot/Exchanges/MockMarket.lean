/-
The mock market of the factory under the two engines. A mock adapter that is asked how much buys
back what it paid answers the amount that was paid in, up to the square of its fee and the
rounding of both answers; so no seeded route is ever reported as a mismatch on it.
-/

import ArbitrageBot.Exchanges.RoundTrip

namespace ArbitrageBot

open DecimalRounding PythonText

/-! ### There and back on one pool -/

section Pool

variable {pool : PoolModel} {amountIn : Rat}

def PoolModel.fee (pool : PoolModel) : Rat := pool.poolFeeTier / 10000

def PoolModel.paysOut (pool : PoolModel) (amountIn : Rat) : Rat :=
  nearest 8 (amountIn * pool.midPrice * (1 - pool.fee))

def PoolModel.takesIn (pool : PoolModel) (amountOut : Rat) : Rat :=
  nearest 8 (amountOut / pool.midPrice * (1 + pool.fee))

/-- The answer has at most 28 digits, so that it can be quantized. -/
def PoolModel.Pays (pool : PoolModel) (amountIn : Rat) : Prop :=
  |amountIn * pool.midPrice * (1 - pool.fee)| * 10 ^ 8 + 1 ≤ 10 ^ 28

def PoolModel.Takes (pool : PoolModel) (amountOut : Rat) : Prop :=
  |amountOut / pool.midPrice * (1 + pool.fee)| * 10 ^ 8 + 1 ≤ 10 ^ 28

def halfUnit : Rat := 1 / 2 / 10 ^ 8

theorem takesIn_paysOut_near (positive : 0 < pool.midPrice) (lower : 0 ≤ pool.fee)
    (large : 0 ≤ amountIn) :
    |pool.takesIn (pool.paysOut amountIn) - amountIn| ≤
      halfUnit + (1 + pool.fee) / pool.midPrice * halfUnit + amountIn * pool.fee ^ 2 := by
  have back := nearest_near 8 (pool.paysOut amountIn / pool.midPrice * (1 + pool.fee))
  have out := nearest_near 8 (amountIn * pool.midPrice * (1 - pool.fee))
  have rate : 0 ≤ (1 + pool.fee) / pool.midPrice := div_nonneg (by linarith) positive.le
  -- the error of the way back, that of the way there at the price, and the two fees
  have parts : pool.takesIn (pool.paysOut amountIn) - amountIn =
      (pool.takesIn (pool.paysOut amountIn) -
        pool.paysOut amountIn / pool.midPrice * (1 + pool.fee)) +
      (1 + pool.fee) / pool.midPrice *
        (pool.paysOut amountIn - amountIn * pool.midPrice * (1 - pool.fee)) +
      -(amountIn * pool.fee ^ 2) := by
    field_simp
    ring
  rw [parts]
  refine le_trans (abs_add_le _ _) (add_le_add (le_trans (abs_add_le _ _) (add_le_add back ?_)) ?_)
  · rw [abs_mul, abs_of_nonneg rate]
    exact mul_le_mul_of_nonneg_left out rate
  · rw [abs_neg, abs_of_nonneg (mul_nonneg large (sq_nonneg _))]

/-- Two millionths on either side are enough for the tolerance of one per cent. -/
theorem quoteMatches_takesIn (positive : 0 < pool.midPrice) (lower : 0 ≤ pool.fee)
    (upper : pool.fee ≤ 1 / 20) (large : 2 / 10 ^ 6 ≤ amountIn)
    (paid : 2 / 10 ^ 6 ≤ amountIn * pool.midPrice) {tolerance : Rat}
    (tolerant : 1 / 100 ≤ tolerance) :
    quoteMatches tolerance amountIn (.ok (pool.takesIn (pool.paysOut amountIn))) = true := by
  have some_ : 0 < amountIn := lt_of_lt_of_le (by norm_num) large
  have near := takesIn_paysOut_near positive lower some_.le
  have rounding : halfUnit ≤ amountIn / 400 := by
    rw [halfUnit]
    linarith
  have fees : amountIn * pool.fee ^ 2 ≤ amountIn / 400 := by
    have square : pool.fee ^ 2 ≤ 1 / 400 := by nlinarith
    have scaled := mul_le_mul_of_nonneg_left square some_.le
    linarith
  have price : (1 + pool.fee) / pool.midPrice * halfUnit ≤ amountIn / 200 := by
    rw [div_mul_eq_mul_div, div_le_iff₀ positive, halfUnit]
    linarith
  rw [quoteMatches, if_neg (not_le.mpr some_), decide_eq_true_eq, abs_div, abs_of_pos some_,
    div_le_iff₀ some_]
  have share : 1 / 100 * amountIn ≤ tolerance * amountIn :=
    mul_le_mul_of_nonneg_right tolerant some_.le
  linarith

end Pool

/-! ### The mock adapters -/

namespace MockV3Adapter

variable {adapter : MockV3Adapter} {tokenIn tokenOut : String} {feeTier : Option Int}
  {poolId : Option String} {pool : PoolModel}

theorem quoteExactInput_eq (found : adapter.findPool tokenIn tokenOut feeTier poolId = .ok pool)
    {amountIn : Rat} (pays : pool.Pays amountIn) :
    adapter.quoteExactInput tokenIn tokenOut feeTier poolId amountIn =
      .ok (pool.paysOut amountIn) := by
  have net : amountIn * pool.midPrice - amountIn * pool.midPrice * pool.poolFeeTier / 10000 =
      amountIn * pool.midPrice * (1 - pool.fee) := by
    rw [PoolModel.fee]
    ring
  rw [PoolModel.Pays, ← net] at pays
  rw [quoteExactInput, found, PoolModel.paysOut, ← net]
  exact quantize_of_abs_lt pays

theorem quoteExactOutput_eq (found : adapter.findPool tokenIn tokenOut feeTier poolId = .ok pool)
    (priced : pool.midPrice ≠ 0) {amountOut : Rat} (takes : pool.Takes amountOut) :
    adapter.quoteExactOutput tokenIn tokenOut feeTier poolId amountOut =
      .ok (pool.takesIn amountOut) := by
  have gross : amountOut / pool.midPrice + amountOut / pool.midPrice * pool.poolFeeTier / 10000 =
      amountOut / pool.midPrice * (1 + pool.fee) := by
    rw [PoolModel.fee]
    ring
  rw [PoolModel.Takes, ← gross] at takes
  rw [quoteExactOutput, found, PoolModel.takesIn, ← gross, ← quantize_of_abs_lt takes]
  exact if_neg priced

theorem findPool_of_get? {poolId : String} (named : poolId ≠ "")
    (known : adapter.pools.get? poolId = some pool) :
    adapter.findPool tokenIn tokenOut feeTier (some poolId) = .ok pool := by
  rw [findPool, Pools.locate?, Option.bind_some, if_neg named, known, Option.some_or,
    Option.some_or]

theorem findPool_singleton (pool : PoolModel) (tokenIn tokenOut : String)
    (feeTier : Option Int) :
    findPool { pools := [pool] } tokenIn tokenOut feeTier none = .ok pool := by
  simp only [findPool, Pools.locate?, Pools.matching?, Option.bind_none, Option.none_or,
    List.find?_cons, List.find?_nil]
  split
  · rename_i found present
    split at present
    · rw [← Option.some.inj present]
    · rw [← Option.some.inj present]
  · rename_i absent
    split at absent <;> cases absent

/-- What an engine is answered about a pool that the adapter has. -/
structure Serves (adapter : MockV3Adapter) (poolId : String) (pool : PoolModel) : Prop where
  input : ∀ tokenIn tokenOut amountIn feeTier, pool.Pays amountIn →
    adapter.asDex.quoteExactInput tokenIn tokenOut amountIn feeTier (some poolId) =
      .ok (pool.paysOut amountIn)
  output : ∀ tokenIn tokenOut amountOut feeTier, pool.Takes amountOut →
    adapter.asDex.quoteExactOutput tokenIn tokenOut amountOut feeTier (some poolId) =
      .ok (pool.takesIn amountOut)
  state : adapter.asDex.getPoolState poolId = .ok { poolFeeTier := some pool.poolFeeTier }
  liquidity : adapter.asDex.getLiquiditySnapshot poolId = .ok { liquidityUsd := pool.liquidityUsd }
  healthy : adapter.asDex.isPoolHealthy poolId = .ok true

theorem serves_of_get? {poolId : String} (named : poolId ≠ "")
    (known : adapter.pools.get? poolId = some pool) (priced : pool.midPrice ≠ 0)
    (healthy : pool.healthy = true) (funded : 0 < pool.liquidityUsd) :
    adapter.Serves poolId pool where
  input _ _ _ _ pays := quoteExactInput_eq (findPool_of_get? named known) pays
  output _ _ _ _ takes := quoteExactOutput_eq (findPool_of_get? named known) priced takes
  state := by simp only [asDex, known, Option.map_some]
  liquidity := by simp only [asDex, known, Option.map_some, Option.getD_some]
  healthy := by
    simp only [asDex, known, Option.any_some, healthy, Bool.true_and, decide_eq_true funded]

end MockV3Adapter

def mockPool (poolId : String) (feeTier : Int) (midPrice liquidityUsd : Rat)
    (tokenInSymbol tokenOutSymbol : String) : PoolModel :=
  { poolId, quoterFeeTier := feeTier, poolFeeTier := feeTier
    configuredEconomicFeeBps := feeTier, midPrice, liquidityUsd, tokenInSymbol, tokenOutSymbol }

section Factory

variable (mid : Rat)

def ramsesForward : PoolModel :=
  mockPool "ramses_v3_usdc_usdt0_5" 5 (mid * (1006 / 1000)) 500000 "USDC" "USDT0"

def ramsesReverse : PoolModel :=
  mockPool "ramses_v3_usdt0_usdc_5" 5 (1 / mid * (994 / 1000)) 500000 "USDT0" "USDC"

def hybraForward : PoolModel :=
  mockPool "hybra_v3_usdc_usdt0_5" 5 (mid * (994 / 1000)) 450000 "USDC" "USDT0"

def hybraReverse : PoolModel :=
  mockPool "hybra_v3_usdt0_usdc_5" 5 (1 / mid * (1006 / 1000)) 450000 "USDT0" "USDC"

def hybraV4Observer : PoolModel :=
  mockPool "hybra_v4_observer_usdc_usdt0" 5 mid 250000 "USDC" "USDT0"

/-- `_build_hyperevm_mock_adapters`, at a middle price other than zero. -/
def buildHyperevmMockAdapters : List (String × MockV3Adapter) :=
  [ ("ramses_v3", { pools := [ramsesForward mid, ramsesReverse mid] }),
    ("hybra_v3", { pools := [hybraForward mid, hybraReverse mid] }),
    ("hybra_v4_observer", { pools := [hybraV4Observer mid] }) ]

def uniPool : PoolModel :=
  mockPool "base_uni_v3_virtual_usdc_100" 100 mid 250000 "USDC" "VIRTUAL"

def cakePool : PoolModel :=
  mockPool "base_cake_v3_virtual_usdc_100" 100 mid 200000 "USDC" "VIRTUAL"

def aeroPool : PoolModel :=
  mockPool "base_aero_virtual_usdc_100" 100 mid 150000 "USDC" "VIRTUAL"

def buildBaseMockAdapters : List (String × MockV3Adapter) :=
  [ ("uniswap_v3_base", { pools := [uniPool mid] }),
    ("pancakeswap_v3_base", { pools := [cakePool mid] }),
    ("aerodrome_base", { pools := [aeroPool mid] }) ]

/-- What the fallback fees of the two exchanges are set to. -/
structure FallbackFees where
  bybitMaker : Int := 10
  bybitTaker : Int := 15
  mexcMaker : Int := 0
  mexcTaker : Int := 5

def mockCex (fees : FallbackFees) (venue : String) : CexAdapter where
  getMarketStatus _ := .ok "trading"
  getBestBidAsk _ := do
    let bid ← quantize 8 (mid * (1030 / 1000))
    let ask ← quantize 8 (mid * (1040 / 1000))
    return (bid, ask)
  getTradingFeeDetails _ _ makerOrTaker :=
    let fee :=
      if venue = "bybit" then
        if makerOrTaker = "maker" then fees.bybitMaker else fees.bybitTaker
      else if makerOrTaker = "maker" then fees.mexcMaker
      else fees.mexcTaker
    .ok (fee, "fallback_only")

def buildCexMockAdapters (fees : FallbackFees) : List (String × CexAdapter) :=
  [("bybit", mockCex mid fees "bybit"), ("mexc", mockCex mid fees "mexc")]

end Factory

/-! ### A quote on the mock market -/

/-- What the loop is told of a mock quote: a match, the fees of the configuration and a healthy
pool with this much in it. -/
structure MockReported (found : QuoteAnswer) (fee : FeeConfidence) (final liquidity : Rat) :
    Prop where
  matched : found.quote.metadata.lookup "quote_match_status" = some "matched"
  fee : found.quote.metadata.lookup "fee_known_status" = some fee.text
  healthy : found.quote.metadata.lookup "pool_health" = some "true"
  final : found.quote.finalAmount = final
  liquidity : found.smallerPoolLiquidityUsdc = liquidity

/-- The answers of a round trip have few enough digits: out, on to the other pool, and back. -/
structure Representable (poolA poolB : PoolModel) (amountIn : Rat) : Prop where
  out : poolA.Pays amountIn
  onward : poolB.Pays (poolA.paysOut amountIn)
  back : poolA.Takes (poolA.paysOut amountIn)

theorem HyperDexDexQuoteEngine.quoteRoute_mock {settings : Settings} {route : Route}
    {adapterA adapterB : MockV3Adapter} {poolA poolB : PoolModel} {amountIn : Rat}
    (mock : settings.useMockMarketData = true) (servesA : adapterA.Serves route.poolA poolA)
    (servesB : adapterB.Serves route.poolB poolB) (small : Representable poolA poolB amountIn)
    (fits : quoteMatches (1 / 100) amountIn
      (.ok (poolA.takesIn (poolA.paysOut amountIn))) = true)
    (mode : RunMode) (times : QuoteTimes) (startedAt : EdgeTimes) :
    ∃ found, (HyperDexDexQuoteEngine.quoteRoute settings route amountIn mode
        (some adapterA.asDex) (some adapterB.asDex) times startedAt).1 = .ok found ∧
      MockReported found .configOnly (poolB.paysOut (poolA.paysOut amountIn))
        (min poolA.liquidityUsd poolB.liquidityUsd) := by
  let quoted : HyperDexDexQuoteEngine.Legs :=
    { adapterA := adapterA.asDex, adapterB := adapterB.asDex, outLeg1 := poolA.paysOut amountIn
      outLeg2 := poolB.paysOut (poolA.paysOut amountIn), gasUnits := 230000 + 230000 }
  have ran : HyperDexDexQuoteEngine.quoteLegs route amountIn (some adapterA.asDex)
      (some adapterB.asDex) = .ok quoted := by
    simp only [HyperDexDexQuoteEngine.quoteLegs, servesA.input _ _ _ _ small.out, bind,
      Except.bind, servesB.input _ _ _ _ small.onward]
    rfl
  have matched : HyperDexDexQuoteEngine.quoteMatchHyper route amountIn quoted = true := by
    rw [HyperDexDexQuoteEngine.quoteMatchHyper, servesA.output _ _ _ _ small.back]
    exact fits
  simp only [HyperDexDexQuoteEngine.quoteRoute, ran, HyperDexDexQuoteEngine.report]
  dsimp only [quoted]
  rw [servesA.healthy, servesB.healthy, servesA.state, servesB.state, servesA.liquidity,
    servesB.liquidity]
  refine ⟨_, rfl, ?_⟩
  have status : (if HyperDexDexQuoteEngine.quoteMatchHyper route amountIn quoted then "matched"
      else "mismatch") = "matched" := if_pos matched
  constructor
  · exact congrArg some status
  · simp only [dexFeeStatus, mock]
    rfl
  · rfl
  · rfl
  · rfl

theorem ShadowCexDexQuoteEngine.quoteRoute_mock {settings : Settings} {route : Route} {mid : Rat}
    {fees : FallbackFees} {venue : String} {adapter : MockV3Adapter} {pool : PoolModel}
    {amountIn : Rat} (mock : settings.useMockMarketData = true)
    (serves : adapter.Serves route.poolB pool)
    (found : adapter.findPool "USDC" "VIRTUAL" none none = .ok pool)
    (pays : pool.Pays amountIn) (takes : pool.Takes (pool.paysOut amountIn))
    (priced : |mid| ≤ 10 ^ 19)
    (fits : quoteMatches (2 / 100) amountIn (.ok (pool.takesIn (pool.paysOut amountIn))) = true)
    (times : QuoteTimes) (startedAt : EdgeTimes) :
    ∃ found, (ShadowCexDexQuoteEngine.quoteRoute settings route amountIn
        (some (mockCex mid fees venue)) (some adapter.asDex) times startedAt).1 = .ok found ∧
      MockReported found .fallbackOnly
        (pool.paysOut amountIn * nearest 8 (mid * (1030 / 1000))) pool.liquidityUsd := by
  have input : adapter.asDex.quoteExactInput "USDC" "VIRTUAL" amountIn none none =
      .ok (pool.paysOut amountIn) := MockV3Adapter.quoteExactInput_eq found pays
  have bidAsk : (mockCex mid fees venue).getBestBidAsk "VIRTUALUSDC" =
      .ok (nearest 8 (mid * (1030 / 1000)), nearest 8 (mid * (1040 / 1000))) := by
    have few (share : Rat) (nonneg : 0 ≤ share) (low : share ≤ 104 / 100) :
        |mid * share| * 10 ^ 8 + 1 ≤ 10 ^ 28 := by
      rw [abs_mul, abs_of_nonneg nonneg]
      have scaled := mul_le_mul priced low nonneg (by norm_num)
      linarith
    simp only [mockCex, quantize_of_abs_lt (few (1030 / 1000) (by norm_num) (by norm_num)),
      quantize_of_abs_lt (few (1040 / 1000) (by norm_num) (by norm_num))]
    rfl
  obtain ⟨fee, told⟩ : ∃ fee, (mockCex mid fees venue).getTradingFeeDetails "VIRTUALUSDC" "sell"
      "taker" = .ok (fee, "fallback_only") := ⟨_, rfl⟩
  let quoted : ShadowCexDexQuoteEngine.Legs :=
    { dex := adapter.asDex, virtualAmount := pool.paysOut amountIn
      cexBid := nearest 8 (mid * (1030 / 1000)), cexFeeBps := fee
      cexFeeProvenance := "fallback_only", gasUnits := 230000 }
  have ran : ShadowCexDexQuoteEngine.quoteLegs route amountIn (some (mockCex mid fees venue))
      (some adapter.asDex) = .ok quoted := by
    simp only [ShadowCexDexQuoteEngine.quoteLegs, input, bidAsk, told]
    rfl
  have matched : ShadowCexDexQuoteEngine.quoteMatchShadow route amountIn quoted = true := by
    rw [ShadowCexDexQuoteEngine.quoteMatchShadow, serves.output _ _ _ _ takes]
    exact fits
  simp only [ShadowCexDexQuoteEngine.quoteRoute, ran, ShadowCexDexQuoteEngine.report]
  dsimp only [quoted]
  rw [serves.healthy, serves.state, serves.liquidity]
  refine ⟨_, rfl, ?_⟩
  have status : (if ShadowCexDexQuoteEngine.quoteMatchShadow route amountIn quoted then "matched"
      else "mismatch") = "matched" := if_pos matched
  constructor
  · exact congrArg some status
  · simp only [dexFeeStatus, mock]
    rfl
  · rfl
  · rfl
  · rfl

/-! ### The seeded routes -/

/-- The engine of the route's strategy, on the adapters of the factory. -/
def mockQuote (settings : Settings) (mid : Rat) (fees : FallbackFees) (route : Route)
    (amountIn : Rat) (mode : RunMode) (times : QuoteTimes) (startedAt : EdgeTimes) :
    Except String QuoteAnswer × EdgeTimes :=
  if route.strategy = "hyperevm_dex_dex" then
    HyperDexDexQuoteEngine.quoteRoute settings route amountIn mode
      (((buildHyperevmMockAdapters mid).lookup route.venueA).map MockV3Adapter.asDex)
      (((buildHyperevmMockAdapters mid).lookup route.venueB).map MockV3Adapter.asDex) times
      startedAt
  else
    ShadowCexDexQuoteEngine.quoteRoute settings route amountIn
      ((buildCexMockAdapters mid fees).lookup route.venueA)
      (((buildBaseMockAdapters mid).lookup route.venueB).map MockV3Adapter.asDex) times startedAt

section Seeded

variable {settings : Settings} {mid amountIn : Rat}

theorem mockPool_fee (poolId tokenIn tokenOut : String) (feeTier : Int)
    (midPrice liquidityUsd : Rat) :
    (mockPool poolId feeTier midPrice liquidityUsd tokenIn tokenOut).fee = feeTier / 10000 := rfl

theorem fits_of_mid (poolId tokenIn tokenOut : String) {feeTier : Int} {share liquidityUsd : Rat}
    (low : 0 ≤ feeTier) (high : feeTier ≤ 500) (near : 99 / 100 ≤ share)
    (large : 2 / 10 ^ 6 ≤ amountIn) (paid : 3 / 10 ^ 6 ≤ amountIn * mid) {tolerance : Rat}
    (tolerant : 1 / 100 ≤ tolerance) {pool : PoolModel}
    (same : pool = mockPool poolId feeTier (mid * share) liquidityUsd tokenIn tokenOut) :
    quoteMatches tolerance amountIn (.ok (pool.takesIn (pool.paysOut amountIn))) = true := by
  subst same
  have positive : 0 < amountIn := lt_of_lt_of_le (by norm_num) large
  have middle : 0 < mid := by
    by_contra none_
    have nothing := mul_nonpos_of_nonneg_of_nonpos positive.le (not_lt.mp none_)
    linarith
  have low : (0 : Rat) ≤ feeTier := Int.cast_nonneg low
  have high : (feeTier : Rat) ≤ 500 := by exact_mod_cast high
  have more : 3 / 10 ^ 6 * (99 / 100) ≤ amountIn * mid * share :=
    mul_le_mul paid near (by norm_num) (mul_pos positive middle).le
  apply quoteMatches_takesIn _ _ _ large _ tolerant
  · exact mul_pos middle (by linarith)
  · rw [mockPool_fee]
    linarith
  · rw [mockPool_fee]
    linarith
  · change 2 / 10 ^ 6 ≤ amountIn * (mid * share)
    rw [← mul_assoc]
    linarith

section Digits

variable {poolId tokenIn tokenOut : String} {feeTier : Int} {share liquidityUsd : Rat}

theorem paysOut_bounds (low : 0 ≤ feeTier) (high : feeTier ≤ 500) (some_ : 0 ≤ share)
    (near : share ≤ 101 / 100) (paid : 3 / 10 ^ 6 ≤ amountIn * mid) :
    let pool := mockPool poolId feeTier (mid * share) liquidityUsd tokenIn tokenOut
    0 ≤ amountIn * pool.midPrice * (1 - pool.fee) ∧
      amountIn * pool.midPrice * (1 - pool.fee) ≤ amountIn * mid * (101 / 100) ∧
      0 ≤ pool.paysOut amountIn ∧ pool.paysOut amountIn ≤ amountIn * mid * (102 / 100) := by
  intro pool
  have worth : 0 ≤ amountIn * mid := le_trans (by norm_num) paid
  have low : (0 : Rat) ≤ feeTier := Int.cast_nonneg low
  have high : (feeTier : Rat) ≤ 500 := by exact_mod_cast high
  have rest : 0 ≤ 1 - pool.fee ∧ 1 - pool.fee ≤ 1 := by
    rw [mockPool_fee]
    constructor <;> linarith
  have regrouped : amountIn * pool.midPrice * (1 - pool.fee) =
      amountIn * mid * (share * (1 - pool.fee)) := by
    change amountIn * (mid * share) * (1 - pool.fee) = _
    ring
  have kept : 0 ≤ share * (1 - pool.fee) := mul_nonneg some_ rest.1
  have upper : share * (1 - pool.fee) ≤ 101 / 100 := by
    have less := mul_le_mul near rest.2 rest.1 (by norm_num)
    linarith
  have nonneg : 0 ≤ amountIn * pool.midPrice * (1 - pool.fee) := by
    rw [regrouped]
    exact mul_nonneg worth kept
  have most : amountIn * pool.midPrice * (1 - pool.fee) ≤ amountIn * mid * (101 / 100) := by
    rw [regrouped]
    exact mul_le_mul_of_nonneg_left upper worth
  have rounded := (abs_le.mp (nearest_near 8 (amountIn * pool.midPrice * (1 - pool.fee)))).2
  refine ⟨nonneg, most, nearest_nonneg 8 nonneg, ?_⟩
  rw [PoolModel.paysOut]
  linarith

theorem pays_of_mid (low : 0 ≤ feeTier) (high : feeTier ≤ 500) (some_ : 0 ≤ share)
    (near : share ≤ 101 / 100) (paid : 3 / 10 ^ 6 ≤ amountIn * mid)
    (worth : amountIn * mid ≤ 10 ^ 19) :
    (mockPool poolId feeTier (mid * share) liquidityUsd tokenIn tokenOut).Pays amountIn := by
  obtain ⟨nonneg, most, -, -⟩ := @paysOut_bounds mid amountIn poolId tokenIn tokenOut feeTier
    share liquidityUsd low high some_ near paid
  rw [PoolModel.Pays, abs_of_nonneg nonneg]
  linarith

/-- Back through the pool that paid. -/
theorem takes_of_mid (low : 0 ≤ feeTier) (high : feeTier ≤ 500) (atLeast : 99 / 100 ≤ share)
    (near : share ≤ 101 / 100) (positive : 0 < mid) (paid : 3 / 10 ^ 6 ≤ amountIn * mid)
    (amount : amountIn ≤ 10 ^ 19) :
    let pool := mockPool poolId feeTier (mid * share) liquidityUsd tokenIn tokenOut
    pool.Takes (pool.paysOut amountIn) := by
  intro pool
  obtain ⟨-, -, nonneg, most⟩ := @paysOut_bounds mid amountIn poolId tokenIn tokenOut feeTier
    share liquidityUsd low high (by linarith) near paid
  have low : (0 : Rat) ≤ feeTier := Int.cast_nonneg low
  have high : (feeTier : Rat) ≤ 500 := by exact_mod_cast high
  have price : 0 < mid * share := mul_pos positive (by linarith)
  have fees : 0 ≤ 1 + pool.fee ∧ 1 + pool.fee ≤ 105 / 100 := by
    rw [mockPool_fee]
    constructor <;> linarith
  have back : pool.paysOut amountIn / pool.midPrice ≤ amountIn * (104 / 100) := by
    change pool.paysOut amountIn / (mid * share) ≤ _
    rw [div_le_iff₀ price]
    have scaled := mul_le_mul_of_nonneg_left atLeast (le_trans (by norm_num) paid)
    have regrouped : amountIn * (104 / 100) * (mid * share) =
        amountIn * mid * share * (104 / 100) := by ring
    rw [regrouped]
    linarith
  have below : 0 ≤ pool.paysOut amountIn / pool.midPrice := div_nonneg nonneg price.le
  have product := mul_le_mul back fees.2 fees.1 (below.trans back)
  rw [PoolModel.Takes, abs_of_nonneg (mul_nonneg below fees.1)]
  linarith

/-- On through a pool that prices the other way. -/
theorem pays_of_inverse {other : PoolModel} {amountOut : Rat} (low : 0 ≤ feeTier)
    (high : feeTier ≤ 500) (some_ : 0 ≤ share) (near : share ≤ 101 / 100) (positive : 0 < mid)
    (nonneg : 0 ≤ amountOut) (most : amountOut ≤ amountIn * mid * (102 / 100))
    (amount : amountIn ≤ 10 ^ 19)
    (same : other = mockPool poolId feeTier (1 / mid * share) liquidityUsd tokenIn tokenOut) :
    other.Pays amountOut := by
  subst same
  have low : (0 : Rat) ≤ feeTier := Int.cast_nonneg low
  have high : (feeTier : Rat) ≤ 500 := by exact_mod_cast high
  have rest : 0 ≤ 1 - (feeTier : Rat) / 10000 ∧ 1 - (feeTier : Rat) / 10000 ≤ 1 := by
    constructor <;> linarith
  have onward : amountOut * (1 / mid) ≤ amountIn * (102 / 100) := by
    rw [mul_one_div, div_le_iff₀ positive]
    linarith
  have below : 0 ≤ amountOut * (1 / mid) := mul_nonneg nonneg (one_div_nonneg.mpr positive.le)
  have kept : 0 ≤ share * (1 - (feeTier : Rat) / 10000) := mul_nonneg some_ rest.1
  have upper : share * (1 - (feeTier : Rat) / 10000) ≤ 101 / 100 := by
    have less := mul_le_mul near rest.2 rest.1 (by norm_num)
    linarith
  have product := mul_le_mul onward upper kept (below.trans onward)
  have regrouped : amountOut * (1 / mid * share) * (1 - (feeTier : Rat) / 10000) =
      amountOut * (1 / mid) * (share * (1 - (feeTier : Rat) / 10000)) := by ring
  change |amountOut * (1 / mid * share) * (1 - (feeTier : Rat) / 10000)| * 10 ^ 8 + 1 ≤ 10 ^ 28
  rw [regrouped, abs_of_nonneg (mul_nonneg below kept)]
  linarith

end Digits

/-- The round trip of a HyperEVM route, between pools of the two factory shares. -/
theorem representable_of_mid {poolA poolB : PoolModel} {nameA nameB : String}
    {shareA shareB liquidityA liquidityB : Rat} (positive : 0 < mid)
    (paid : 3 / 10 ^ 6 ≤ amountIn * mid) (amount : amountIn ≤ 10 ^ 19)
    (worth : amountIn * mid ≤ 10 ^ 19) (lowA : 99 / 100 ≤ shareA) (highA : shareA ≤ 101 / 100)
    (lowB : 0 ≤ shareB) (highB : shareB ≤ 101 / 100)
    (sameA : poolA = mockPool nameA 5 (mid * shareA) liquidityA "USDC" "USDT0")
    (sameB : poolB = mockPool nameB 5 (1 / mid * shareB) liquidityB "USDT0" "USDC") :
    Representable poolA poolB amountIn := by
  subst sameA
  have low : (0 : Int) ≤ 5 := by omega
  have high : (5 : Int) ≤ 500 := by omega
  obtain ⟨-, -, nonneg, most⟩ := @paysOut_bounds mid amountIn nameA "USDC" "USDT0" 5 shareA
    liquidityA low high (by linarith) highA paid
  exact ⟨pays_of_mid low high (by linarith) highA paid worth,
    pays_of_inverse low high lowB highB positive nonneg most amount sameB,
    takes_of_mid low high lowA highA positive paid amount⟩

theorem serves_mockPool {adapter : MockV3Adapter} {poolId tokenIn tokenOut : String}
    {feeTier : Int} {midPrice liquidityUsd : Rat} (named : poolId ≠ "")
    (known : adapter.pools.get? poolId =
      some (mockPool poolId feeTier midPrice liquidityUsd tokenIn tokenOut))
    (priced : midPrice ≠ 0) (funded : 0 < liquidityUsd) :
    adapter.Serves poolId (mockPool poolId feeTier midPrice liquidityUsd tokenIn tokenOut) :=
  MockV3Adapter.serves_of_get? named known priced rfl funded

theorem hyperQuote_reported (fees : FallbackFees) {route : Route} {poolA poolB : PoolModel}
    {adapterA adapterB : MockV3Adapter} (mock : settings.useMockMarketData = true)
    (strategy : route.strategy = "hyperevm_dex_dex")
    (venueA : (buildHyperevmMockAdapters mid).lookup route.venueA = some adapterA)
    (venueB : (buildHyperevmMockAdapters mid).lookup route.venueB = some adapterB)
    (servesA : adapterA.Serves route.poolA poolA) (servesB : adapterB.Serves route.poolB poolB)
    (small : Representable poolA poolB amountIn)
    (fits : quoteMatches (1 / 100) amountIn
      (.ok (poolA.takesIn (poolA.paysOut amountIn))) = true)
    (mode : RunMode) (times : QuoteTimes) (startedAt : EdgeTimes) :
    ∃ found, (mockQuote settings mid fees route amountIn mode times startedAt).1 = .ok found ∧
      MockReported found .configOnly (poolB.paysOut (poolA.paysOut amountIn))
        (min poolA.liquidityUsd poolB.liquidityUsd) := by
  rw [mockQuote, if_pos strategy, venueA, venueB, Option.map_some, Option.map_some]
  exact HyperDexDexQuoteEngine.quoteRoute_mock mock servesA servesB small fits mode times startedAt

theorem shadowQuote_reported {fees : FallbackFees} {route : Route} {pool : PoolModel}
    {adapter : MockV3Adapter} {venue : String} (mock : settings.useMockMarketData = true)
    (strategy : route.strategy ≠ "hyperevm_dex_dex")
    (venueA : (buildCexMockAdapters mid fees).lookup route.venueA = some (mockCex mid fees venue))
    (venueB : (buildBaseMockAdapters mid).lookup route.venueB = some adapter)
    (serves : adapter.Serves route.poolB pool)
    (found : adapter.findPool "USDC" "VIRTUAL" none none = .ok pool)
    (pays : pool.Pays amountIn) (takes : pool.Takes (pool.paysOut amountIn))
    (priced : |mid| ≤ 10 ^ 19)
    (fits : quoteMatches (2 / 100) amountIn (.ok (pool.takesIn (pool.paysOut amountIn))) = true)
    (mode : RunMode) (times : QuoteTimes) (startedAt : EdgeTimes) :
    ∃ found, (mockQuote settings mid fees route amountIn mode times startedAt).1 = .ok found ∧
      MockReported found .fallbackOnly
        (pool.paysOut amountIn * nearest 8 (mid * (1030 / 1000))) pool.liquidityUsd := by
  rw [mockQuote, if_neg strategy, venueA, venueB, Option.map_some]
  exact ShadowCexDexQuoteEngine.quoteRoute_mock mock serves found pays takes priced fits times
    startedAt

theorem uniPool_share (mid : Rat) :
    uniPool mid =
      mockPool "base_uni_v3_virtual_usdc_100" 100 (mid * 1) 250000 "USDC" "VIRTUAL" := by
  rw [mul_one]
  rfl

theorem cakePool_share (mid : Rat) :
    cakePool mid =
      mockPool "base_cake_v3_virtual_usdc_100" 100 (mid * 1) 200000 "USDC" "VIRTUAL" := by
  rw [mul_one]
  rfl

end Seeded

end ArbitrageBot
