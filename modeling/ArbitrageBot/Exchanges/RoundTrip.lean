/-
Round trips of the seeded routes on the real pools of HyperEVM. Whatever was asked of the adapters
before, and however often the chain failed to answer, the second leg is quoted for exactly the
units that the first was quoted to pay.
-/

import ArbitrageBot.Exchanges.V3Pool
import ArbitrageBot.System.Seeding

namespace ArbitrageBot

open DecimalRounding PythonText RealV3LikeAdapter

/-! ### Decimals over a history of calls -/

inductive AdapterCall
  | input (tokenIn tokenOut : String) (feeTier : Option Int) (poolId : Option String)
      (amountIn : Rat)
  | output (tokenIn tokenOut : String) (feeTier : Option Int) (poolId : Option String)
      (amountOut : Rat)

def RealV3LikeAdapter.remember (adapter : RealV3LikeAdapter) (cache : DecimalsCache) :
    ChainAnswers × AdapterCall → DecimalsCache
  | (chain, .input tokenIn tokenOut feeTier poolId amountIn) =>
      (adapter.quoteExactInput chain cache tokenIn tokenOut feeTier poolId amountIn).2
  | (chain, .output tokenIn tokenOut feeTier poolId amountOut) =>
      (adapter.quoteExactOutput chain cache tokenIn tokenOut feeTier poolId amountOut).2

/-- The cache of an adapter after these quotes. -/
def RealV3LikeAdapter.cacheAfter (adapter : RealV3LikeAdapter)
    (calls : List (ChainAnswers × AdapterCall)) : DecimalsCache :=
  calls.foldl adapter.remember fun _ => none

/-- The token gives no other decimals, when it gives any. -/
def ChainAnswers.Declares (chain : ChainAnswers) (token : String) (decimals : Nat) : Prop :=
  ∀ address, tokenKey address = tokenKey token → ∀ answer, chain.decimals address = some answer →
    answer = decimals

def DecimalsCache.Agrees (cache : DecimalsCache) (token : String) (decimals : Nat) : Prop :=
  ∀ answer, cache (tokenKey token) = some answer → answer = decimals

section Decimals

variable {chain : ChainAnswers} {cache : DecimalsCache} {token address : String}
  {decimals fallback : Nat}

theorem tokenDecimals_agrees (declares : chain.Declares token decimals)
    (agrees : cache.Agrees token decimals) :
    DecimalsCache.Agrees (tokenDecimals chain cache address fallback).2 token decimals := by
  unfold tokenDecimals
  split
  · exact agrees
  · split
    · exact agrees
    · rename_i answer unread answered
      intro found here
      dsimp only at here
      by_cases same : tokenKey token = tokenKey address
      · rw [same, Function.update_self] at here
        rw [← Option.some.inj here]
        exact declares address same.symm answer answered
      · rw [Function.update_of_ne same] at here
        exact agrees found here
    · exact agrees

theorem tokenDecimals_eq (declares : chain.Declares token decimals)
    (agrees : cache.Agrees token decimals) :
    (tokenDecimals chain cache token decimals).1 = decimals := by
  unfold tokenDecimals
  split
  · rfl
  · split
    · rename_i answer cached
      exact agrees answer cached
    · rename_i answer _unread answered
      exact declares token rfl answer answered
    · rfl

theorem poolDecimals_agrees (declares : chain.Declares token decimals)
    (agrees : cache.Agrees token decimals) (pool : PoolModel) :
    DecimalsCache.Agrees (poolDecimals chain cache pool).2.2 token decimals := by
  have sold := @tokenDecimals_agrees chain cache token pool.tokenInAddress decimals
    pool.tokenInDecimals declares agrees
  simp only [poolDecimals]
  exact tokenDecimals_agrees declares sold

theorem remember_agrees (adapter : RealV3LikeAdapter) (call : AdapterCall)
    (declares : chain.Declares token decimals) (agrees : cache.Agrees token decimals) :
    DecimalsCache.Agrees (adapter.remember cache (chain, call)) token decimals := by
  cases call with
  | input tokenIn tokenOut feeTier poolId amountIn =>
      simp only [remember, quoteExactInput]
      split
      · exact agrees
      · split
        · exact agrees
        · dsimp only
          exact poolDecimals_agrees declares agrees _
  | output tokenIn tokenOut feeTier poolId amountOut =>
      simp only [remember, quoteExactOutput]
      split
      · exact agrees
      · split
        · exact agrees
        · dsimp only
          exact poolDecimals_agrees declares agrees _

/-- The cache never holds other decimals than the token gives. -/
theorem cacheAfter_agrees (adapter : RealV3LikeAdapter) (token : String) (decimals : Nat)
    (calls : List (ChainAnswers × AdapterCall))
    (declares : ∀ call ∈ calls, call.1.Declares token decimals) :
    DecimalsCache.Agrees (adapter.cacheAfter calls) token decimals := by
  induction calls using List.reverseRecOn with
  | nil => exact fun _ => nofun
  | append_singleton earlier call ih =>
      rw [cacheAfter, List.foldl_append, List.foldl_cons, List.foldl_nil]
      have past := ih fun other member => declares other (List.mem_append_left _ member)
      exact remember_agrees adapter call.2
        (declares call (List.mem_append_right _ List.mem_cons_self)) past

end Decimals

/-! ### From units to a decimal and back -/

theorem toWei_of_scaled {amount : Rat} {decimals : Nat} {wei : Int}
    (whole : amount * 10 ^ decimals = wei) : toWei amount decimals = wei := by
  rw [toWei, whole, roundHalfEven_intCast]

/-- Eight places hold an amount of a token of eight decimals or fewer. -/
theorem fromWei_of_le {decimals wei : Nat} {amount : Rat} (coarse : decimals ≤ 8)
    (read : fromWei wei decimals = .ok amount) : amount = (wei : Rat) / 10 ^ decimals := by
  have scale : (10 : Rat) ^ decimals ≠ 0 := by positivity
  have split : (10 : Rat) ^ 8 = 10 ^ decimals * 10 ^ (8 - decimals) := by
    rw [← pow_add, Nat.add_sub_cancel' coarse]
  have whole : (wei : Rat) / 10 ^ decimals * 10 ^ 8 = ((wei * 10 ^ (8 - decimals) : ℕ) : Int) := by
    rw [split, ← mul_assoc, div_mul_cancel₀ _ scale]
    push_cast
    rfl
  rw [quantize_eq_ok read]
  exact nearest_of_scaled whole

theorem toWei_fromWei {decimals wei : Nat} {amount : Rat} (coarse : decimals ≤ 8)
    (read : fromWei wei decimals = .ok amount) : toWei amount decimals = wei := by
  apply toWei_of_scaled
  rw [fromWei_of_le coarse read, div_mul_cancel₀ _ (by positivity)]
  rfl

theorem poolDecimals_eq {chain : ChainAnswers} {cache : DecimalsCache} {pool : PoolModel}
    (soldDeclares : chain.Declares pool.tokenInAddress pool.tokenInDecimals)
    (soldAgrees : cache.Agrees pool.tokenInAddress pool.tokenInDecimals)
    (boughtDeclares : chain.Declares pool.tokenOutAddress pool.tokenOutDecimals)
    (boughtAgrees : cache.Agrees pool.tokenOutAddress pool.tokenOutDecimals) :
    (poolDecimals chain cache pool).1 = pool.tokenInDecimals ∧
      (poolDecimals chain cache pool).2.1 = pool.tokenOutDecimals := by
  have later := @tokenDecimals_agrees chain cache pool.tokenOutAddress pool.tokenInAddress
    pool.tokenOutDecimals pool.tokenInDecimals boughtDeclares boughtAgrees
  simp only [poolDecimals]
  exact ⟨tokenDecimals_eq soldDeclares soldAgrees, tokenDecimals_eq boughtDeclares later⟩

theorem quoteExactInput_ok {adapter : RealV3LikeAdapter} {chain : ChainAnswers}
    {cache : DecimalsCache} {tokenIn tokenOut : String} {feeTier : Option Int}
    {poolId : Option String} {amountIn out : Rat} {pool : PoolModel}
    (found : adapter.findPool tokenIn tokenOut feeTier poolId = .ok pool)
    (quoted : (adapter.quoteExactInput chain cache tokenIn tokenOut feeTier poolId amountIn).1 =
      .ok out) :
    ∃ wei, chain.quoteExactInputSingle
        (pool.call (toWei amountIn (poolDecimals chain cache pool).1)) = .ok wei ∧
      fromWei wei (poolDecimals chain cache pool).2.1 = .ok out := by
  simp only [quoteExactInput, found] at quoted
  split at quoted
  · cases quoted
  · dsimp only [answered] at quoted
    cases asked : chain.quoteExactInputSingle
        (pool.call (toWei amountIn (poolDecimals chain cache pool).1)) with
    | error reason =>
        rw [asked] at quoted
        cases quoted
    | ok wei =>
        refine ⟨wei, rfl, ?_⟩
        rw [asked, Except.bind] at quoted
        split at quoted
        · rename_i amount read
          cases quoted
          exact read
        · cases quoted

/-! ### The adapters of the factory -/

structure VenueSettings where
  quoter : String := ""
  poolUsdcUsdt0 : String := ""
  quoterFeeTier : Int := 5
  poolFeeTier : Int := 5
  economicFeeBps : Int := 5

structure HyperevmSettings where
  rpcUrl : String := "https://rpc.hyperliquid.xyz/evm"
  usdc : String := "0x0000000000000000000000000000000000000001"
  usdt0 : String := "0x0000000000000000000000000000000000000002"
  usdcDecimals : Nat := 6
  usdt0Decimals : Nat := 6
  ramses : VenueSettings := {}
  hybra : VenueSettings := {}

section Factory

variable (settings : HyperevmSettings)

def poolForward (venue : VenueSettings) (poolId : String) : PoolModel :=
  { poolId, quoterFeeTier := venue.quoterFeeTier, poolFeeTier := venue.poolFeeTier
    configuredEconomicFeeBps := venue.economicFeeBps, midPrice := 0, liquidityUsd := 0
    poolAddress := venue.poolUsdcUsdt0, tokenInSymbol := "USDC", tokenOutSymbol := "USDT0"
    tokenInAddress := settings.usdc, tokenOutAddress := settings.usdt0
    tokenInDecimals := settings.usdcDecimals, tokenOutDecimals := settings.usdt0Decimals }

def poolReverse (venue : VenueSettings) (poolId : String) : PoolModel :=
  { poolId, quoterFeeTier := venue.quoterFeeTier, poolFeeTier := venue.poolFeeTier
    configuredEconomicFeeBps := venue.economicFeeBps, midPrice := 0, liquidityUsd := 0
    poolAddress := venue.poolUsdcUsdt0, tokenInSymbol := "USDT0", tokenOutSymbol := "USDC"
    tokenInAddress := settings.usdt0, tokenOutAddress := settings.usdc
    tokenInDecimals := settings.usdt0Decimals, tokenOutDecimals := settings.usdcDecimals }

def ramsesPoolForward : PoolModel := poolForward settings settings.ramses "ramses_v3_usdc_usdt0_5"

def ramsesPoolReverse : PoolModel := poolReverse settings settings.ramses "ramses_v3_usdt0_usdc_5"

def hybraPoolForward : PoolModel := poolForward settings settings.hybra "hybra_v3_usdc_usdt0_5"

def hybraPoolReverse : PoolModel := poolReverse settings settings.hybra "hybra_v3_usdt0_usdc_5"

/-- `_build_hyperevm_real_adapters`; `contract` is what building a quoter contract comes to. -/
def buildHyperevmRealAdapters (contract : String → Except String Unit) :
    List (String × RealV3LikeAdapter) :=
  let adapter (venue : String) (quoter : String) (pools : Pools) : String × RealV3LikeAdapter :=
    (venue, .create venue settings.rpcUrl quoter pools (contract quoter))
  [ adapter "ramses_v3" settings.ramses.quoter
      [ramsesPoolForward settings, ramsesPoolReverse settings],
    adapter "hybra_v3" settings.hybra.quoter [hybraPoolForward settings, hybraPoolReverse settings],
    adapter "hybra_v4_observer" settings.hybra.quoter [hybraPoolForward settings] ]

/-- The two adapters of a route and the pools they find for its legs. -/
structure RoundTripPools (contract : String → Except String Unit) (route : Route) where
  adapterA : RealV3LikeAdapter
  adapterB : RealV3LikeAdapter
  poolA : PoolModel
  poolB : PoolModel
  venueA : (buildHyperevmRealAdapters settings contract).lookup route.venueA = some adapterA
  venueB : (buildHyperevmRealAdapters settings contract).lookup route.venueB = some adapterB
  foundA : adapterA.findPool "USDC" "USDT0" (some route.quoterFeeTierA) (some route.poolA) =
    .ok poolA
  foundB : adapterB.findPool "USDT0" "USDC" (some route.quoterFeeTierB) (some route.poolB) =
    .ok poolB
  forward : poolA.tokenInAddress = settings.usdc ∧ poolA.tokenOutAddress = settings.usdt0 ∧
    poolA.tokenInDecimals = settings.usdcDecimals ∧ poolA.tokenOutDecimals = settings.usdt0Decimals
  back : poolB.tokenInAddress = settings.usdt0 ∧ poolB.tokenOutAddress = settings.usdc ∧
    poolB.tokenInDecimals = settings.usdt0Decimals ∧ poolB.tokenOutDecimals = settings.usdcDecimals

end Factory

theorem create_pools {venue rpcUrl quoter : String} {pools : Pools}
    {contract : Except String Unit} :
    (RealV3LikeAdapter.create venue rpcUrl quoter pools contract).pools = pools := by
  unfold RealV3LikeAdapter.create
  dsimp only
  split
  · split <;> rfl
  · rfl

theorem findPool_of_get? {adapter : RealV3LikeAdapter} {tokenIn tokenOut poolId : String}
    {feeTier : Option Int} {pool : PoolModel} (named : poolId ≠ "")
    (known : adapter.pools.get? poolId = some pool) :
    adapter.findPool tokenIn tokenOut feeTier (some poolId) = .ok pool := by
  rw [findPool, Pools.locate?, Option.bind_some, if_neg named, known, Option.some_or]

/-- The pools that the seeded routes name are among those of their venues, and go their way. -/
def ramsesToHybraPools (settings : HyperevmSettings) (contract : String → Except String Unit)
    (id : String) : RoundTripPools settings contract (ramsesToHybra id) where
  adapterA := .create "ramses_v3" settings.rpcUrl settings.ramses.quoter
    [ramsesPoolForward settings, ramsesPoolReverse settings] (contract settings.ramses.quoter)
  adapterB := .create "hybra_v3" settings.rpcUrl settings.hybra.quoter
    [hybraPoolForward settings, hybraPoolReverse settings] (contract settings.hybra.quoter)
  poolA := ramsesPoolForward settings
  poolB := hybraPoolReverse settings
  venueA := rfl
  venueB := rfl
  foundA := findPool_of_get? (show "ramses_v3_usdc_usdt0_5" ≠ "" by decide)
    (by rw [create_pools]; rfl)
  foundB := findPool_of_get? (show "hybra_v3_usdt0_usdc_5" ≠ "" by decide)
    (by rw [create_pools]; rfl)
  forward := ⟨rfl, rfl, rfl, rfl⟩
  back := ⟨rfl, rfl, rfl, rfl⟩

def hybraToRamsesPools (settings : HyperevmSettings) (contract : String → Except String Unit)
    (id : String) : RoundTripPools settings contract (hybraToRamses id) where
  adapterA := .create "hybra_v3" settings.rpcUrl settings.hybra.quoter
    [hybraPoolForward settings, hybraPoolReverse settings] (contract settings.hybra.quoter)
  adapterB := .create "ramses_v3" settings.rpcUrl settings.ramses.quoter
    [ramsesPoolForward settings, ramsesPoolReverse settings] (contract settings.ramses.quoter)
  poolA := hybraPoolForward settings
  poolB := ramsesPoolReverse settings
  venueA := rfl
  venueB := rfl
  foundA := findPool_of_get? (show "hybra_v3_usdc_usdt0_5" ≠ "" by decide)
    (by rw [create_pools]; rfl)
  foundB := findPool_of_get? (show "ramses_v3_usdt0_usdc_5" ≠ "" by decide)
    (by rw [create_pools]; rfl)
  forward := ⟨rfl, rfl, rfl, rfl⟩
  back := ⟨rfl, rfl, rfl, rfl⟩

/-! ### The two legs -/

/-- The adapter of a venue as a quote finds it: after these calls, on this chain. -/
def realVenue (settings : HyperevmSettings) (contract : String → Except String Unit)
    (calls : List (ChainAnswers × AdapterCall)) (chain : ChainAnswers) (venue : String) :
    Option DexAdapter :=
  ((buildHyperevmRealAdapters settings contract).lookup venue).map fun adapter =>
    adapter.asDex chain (adapter.cacheAfter calls)

/-- Neither token ever gives other decimals than are configured. -/
structure DecimalsConfigured (settings : HyperevmSettings) (chain : ChainAnswers) : Prop where
  usdc : chain.Declares settings.usdc settings.usdcDecimals
  usdt0 : chain.Declares settings.usdt0 settings.usdt0Decimals

theorem HyperDexDexQuoteEngine.quoteLegs_ok {route : Route} {amountIn : Rat}
    {adapterA adapterB : DexAdapter} {legs : HyperDexDexQuoteEngine.Legs}
    (quoted : HyperDexDexQuoteEngine.quoteLegs route amountIn (some adapterA) (some adapterB) =
      .ok legs) :
    adapterA.quoteExactInput "USDC" "USDT0" amountIn (some route.quoterFeeTierA)
        (some route.poolA) = .ok legs.outLeg1 ∧
      adapterB.quoteExactInput "USDT0" "USDC" legs.outLeg1 (some route.quoterFeeTierB)
        (some route.poolB) = .ok legs.outLeg2 := by
  unfold HyperDexDexQuoteEngine.quoteLegs at quoted
  dsimp only at quoted
  split at quoted
  · obtain ⟨_, stopped, -⟩ := Except.bind_ok quoted
    cases stopped
  · obtain ⟨outLeg1, first, quoted⟩ := Except.bind_ok quoted
    obtain ⟨outLeg2, second, quoted⟩ := Except.bind_ok quoted
    obtain ⟨gasUnitsA, -, quoted⟩ := Except.bind_ok quoted
    obtain ⟨gasUnitsB, -, quoted⟩ := Except.bind_ok quoted
    obtain rfl := Except.ok.inj quoted
    exact ⟨first, second⟩

section Legs

variable {settings : HyperevmSettings} {contract : String → Except String Unit} {route : Route}
  {callsA callsB : List (ChainAnswers × AdapterCall)} {chainA chainB : ChainAnswers}

theorem RoundTripPools.decimals {calls : List (ChainAnswers × AdapterCall)} {chain : ChainAnswers}
    (configured : ∀ call ∈ calls, DecimalsConfigured settings call.1)
    (now : DecimalsConfigured settings chain) (pools : RoundTripPools settings contract route)
    (adapter : RealV3LikeAdapter) :
    ((poolDecimals chain (adapter.cacheAfter calls) pools.poolA).1 = settings.usdcDecimals ∧
        (poolDecimals chain (adapter.cacheAfter calls) pools.poolA).2.1 =
          settings.usdt0Decimals) ∧
      (poolDecimals chain (adapter.cacheAfter calls) pools.poolB).1 = settings.usdt0Decimals ∧
        (poolDecimals chain (adapter.cacheAfter calls) pools.poolB).2.1 =
          settings.usdcDecimals := by
  have usdc := cacheAfter_agrees adapter settings.usdc settings.usdcDecimals calls
    fun call member => (configured call member).usdc
  have usdt0 := cacheAfter_agrees adapter settings.usdt0 settings.usdt0Decimals calls
    fun call member => (configured call member).usdt0
  obtain ⟨soldA, boughtA, soldDecimalsA, boughtDecimalsA⟩ := pools.forward
  obtain ⟨soldB, boughtB, soldDecimalsB, boughtDecimalsB⟩ := pools.back
  constructor
  · rw [← soldDecimalsA, ← boughtDecimalsA]
    apply poolDecimals_eq
    · rw [soldA, soldDecimalsA]
      exact now.usdc
    · rw [soldA, soldDecimalsA]
      exact usdc
    · rw [boughtA, boughtDecimalsA]
      exact now.usdt0
    · rw [boughtA, boughtDecimalsA]
      exact usdt0
  · rw [← soldDecimalsB, ← boughtDecimalsB]
    apply poolDecimals_eq
    · rw [soldB, soldDecimalsB]
      exact now.usdt0
    · rw [soldB, soldDecimalsB]
      exact usdt0
    · rw [boughtB, boughtDecimalsB]
      exact now.usdc
    · rw [boughtB, boughtDecimalsB]
      exact usdc

theorem RoundTripPools.legs (pools : RoundTripPools settings contract route)
    (pastA : ∀ call ∈ callsA, DecimalsConfigured settings call.1)
    (pastB : ∀ call ∈ callsB, DecimalsConfigured settings call.1)
    (nowA : DecimalsConfigured settings chainA) (nowB : DecimalsConfigured settings chainB)
    (coarse : settings.usdt0Decimals ≤ 8) {amountIn : Rat}
    {legs : HyperDexDexQuoteEngine.Legs}
    (quoted : HyperDexDexQuoteEngine.quoteLegs route amountIn
      (realVenue settings contract callsA chainA route.venueA)
      (realVenue settings contract callsB chainB route.venueB) = .ok legs) :
    ∃ paid final,
      chainA.quoteExactInputSingle (pools.poolA.call (toWei amountIn settings.usdcDecimals)) =
        .ok paid ∧
      chainB.quoteExactInputSingle (pools.poolB.call paid) = .ok final ∧
      fromWei final settings.usdcDecimals = .ok legs.outLeg2 := by
  rw [realVenue, realVenue, pools.venueA, pools.venueB, Option.map_some, Option.map_some] at quoted
  obtain ⟨first, second⟩ := HyperDexDexQuoteEngine.quoteLegs_ok quoted
  obtain ⟨⟨soldA, boughtA⟩, -⟩ := pools.decimals pastA nowA pools.adapterA
  obtain ⟨-, soldB, boughtB⟩ := pools.decimals pastB nowB pools.adapterB
  obtain ⟨paid, answered, out1⟩ := quoteExactInput_ok pools.foundA first
  obtain ⟨final, back, out2⟩ := quoteExactInput_ok pools.foundB second
  rw [soldA] at answered
  rw [boughtA] at out1
  rw [soldB, toWei_fromWei coarse out1] at back
  rw [boughtB] at out2
  exact ⟨paid, final, answered, back, out2⟩

end Legs

/-- A quoted round trip of a seeded route: the second quoter is asked about exactly the units that
the first one answered, after any calls on the adapters and any failures of the chain to tell the
decimals. -/
theorem seeded_round_trip_exact (settings : HyperevmSettings)
    (contract : String → Except String Unit) (id : String) (route : Route)
    (seeded : route ∈ [ramsesToHybra id, hybraToRamses id])
    (callsA callsB : List (ChainAnswers × AdapterCall)) (chainA chainB : ChainAnswers)
    (pastA : ∀ call ∈ callsA, DecimalsConfigured settings call.1)
    (pastB : ∀ call ∈ callsB, DecimalsConfigured settings call.1)
    (nowA : DecimalsConfigured settings chainA) (nowB : DecimalsConfigured settings chainB)
    (coarse : settings.usdt0Decimals ≤ 8) (amountIn : Rat)
    (legs : HyperDexDexQuoteEngine.Legs)
    (quoted : HyperDexDexQuoteEngine.quoteLegs route amountIn
      (realVenue settings contract callsA chainA route.venueA)
      (realVenue settings contract callsB chainB route.venueB) = .ok legs) :
    ∃ (pools : RoundTripPools settings contract route) (paid final : Nat),
      chainA.quoteExactInputSingle (pools.poolA.call (toWei amountIn settings.usdcDecimals)) =
        .ok paid ∧
      chainB.quoteExactInputSingle (pools.poolB.call paid) = .ok final ∧
      fromWei final settings.usdcDecimals = .ok legs.outLeg2 := by
  have pools : Nonempty (RoundTripPools settings contract route) := by
    rcases List.mem_cons.mp seeded with rfl | other
    · exact ⟨ramsesToHybraPools settings contract id⟩
    · rw [List.mem_singleton.mp other]
      exact ⟨hybraToRamsesPools settings contract id⟩
  obtain ⟨pools⟩ := pools
  exact ⟨pools, pools.legs pastA pastB nowA nowB coarse quoted⟩

namespace Sample

def quoters : HyperevmSettings :=
  { ramses := { quoter := "0x00000000000000000000000000000000000000a1" }
    hybra := { quoter := "0x00000000000000000000000000000000000000a2" } }

def contracts : String → Except String Unit := fun _ => .ok ()

def quotingChain (decimals : Option Nat) : ChainAnswers where
  decimals _ := decimals
  quoteExactInputSingle call :=
    if call.amount < 0 then .error "negative amount" else .ok (call.amount.toNat * 1003 / 1000)
  quoteExactOutputSingle _ := .error "reverted"
  poolFee _ := some 5
  listedLiquidityUsd _ := none

theorem quotingChain_configured {decimals : Option Nat}
    (six : ∀ answer, decimals = some answer → answer = 6) :
    DecimalsConfigured quoters (quotingChain decimals) :=
  ⟨fun _ _ => six, fun _ _ => six⟩

def failedCalls : List (ChainAnswers × AdapterCall) :=
  [(quotingChain none, .input "USDC" "USDT0" none none 1)]

end Sample

theorem seeded_round_trip_exact_sample :
    ∃ (legs : HyperDexDexQuoteEngine.Legs)
      (pools : RoundTripPools Sample.quoters Sample.contracts (ramsesToHybra "r"))
      (paid final : Nat),
      (Sample.quotingChain (some 6)).quoteExactInputSingle
          (pools.poolA.call (toWei 100 Sample.quoters.usdcDecimals)) = .ok paid ∧
        (Sample.quotingChain none).quoteExactInputSingle (pools.poolB.call paid) = .ok final ∧
        fromWei final Sample.quoters.usdcDecimals = .ok legs.outLeg2 := by
  have told : DecimalsConfigured Sample.quoters (Sample.quotingChain (some 6)) :=
    Sample.quotingChain_configured fun _ same => (Option.some.inj same).symm
  have untold : DecimalsConfigured Sample.quoters (Sample.quotingChain none) :=
    Sample.quotingChain_configured fun _ => nofun
  have past : ∀ call ∈ Sample.failedCalls, DecimalsConfigured Sample.quoters call.1 := by
    intro call member
    rw [List.mem_singleton.mp member]
    exact untold
  cases quoted : HyperDexDexQuoteEngine.quoteLegs (ramsesToHybra "r") 100
      (realVenue Sample.quoters Sample.contracts Sample.failedCalls
        (Sample.quotingChain (some 6)) "ramses_v3")
      (realVenue Sample.quoters Sample.contracts Sample.failedCalls
        (Sample.quotingChain none) "hybra_v3") with
  | error reason =>
      have returns : (HyperDexDexQuoteEngine.quoteLegs (ramsesToHybra "r") 100
          (realVenue Sample.quoters Sample.contracts Sample.failedCalls
            (Sample.quotingChain (some 6)) "ramses_v3")
          (realVenue Sample.quoters Sample.contracts Sample.failedCalls
            (Sample.quotingChain none) "hybra_v3")).isOk = true := by decide +kernel
      rw [quoted] at returns
      cases returns
  | ok legs =>
      exact ⟨legs, seeded_round_trip_exact Sample.quoters Sample.contracts "r" (ramsesToHybra "r")
        List.mem_cons_self Sample.failedCalls Sample.failedCalls (Sample.quotingChain (some 6))
        (Sample.quotingChain none) past past told untold (by decide) 100 legs quoted⟩

end ArbitrageBot
