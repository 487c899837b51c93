/-
Paper trading against the depeg guard. Off live mode a trade needs a modeled edge of at
least the shadow minimum, and the loop passes the raw edge as the reference deviation; as
costs only lower the edge, a depeg threshold under the minimum lets no trade through.
-/

import ArbitrageBot.QuoteEngine.Engine
import ArbitrageBot.System.ScanLoop

namespace ArbitrageBot

open DecimalRounding Transition

/-! ### Quotes of the engines -/

structure DexAdapter.NonNegative (adapter : DexAdapter) : Prop where
  quote : ∀ tokenIn tokenOut amountIn feeTier poolId amountOut, 0 ≤ amountIn →
    adapter.quoteExactInput tokenIn tokenOut amountIn feeTier poolId = .ok amountOut →
      0 ≤ amountOut
  gas : ∀ routeName units, adapter.estimateGas routeName = .ok units → 0 ≤ units

structure CexAdapter.NonNegative (adapter : CexAdapter) : Prop where
  bid : ∀ symbol bid ask, adapter.getBestBidAsk symbol = .ok (bid, ask) → 0 ≤ bid
  fee : ∀ symbol side makerOrTaker bps provenance,
    adapter.getTradingFeeDetails symbol side makerOrTaker = .ok (bps, provenance) → 0 ≤ bps

/-- What an engine can return for the route, whatever it has seen before. -/
inductive EngineQuote (settings : Settings) (route : Route) : QuoteAnswer → Prop
  | hyper {amountIn : Rat} {modeProfile : RunMode} {venueA venueB : Option DexAdapter}
      {times : QuoteTimes} {startedAt : EdgeTimes} {found : QuoteAnswer} :
      0 ≤ amountIn → 0 ≤ route.economicFeeBpsA → 0 ≤ route.economicFeeBpsB →
      (∀ adapter ∈ venueA, adapter.NonNegative) → (∀ adapter ∈ venueB, adapter.NonNegative) →
      (HyperDexDexQuoteEngine.quoteRoute settings route amountIn modeProfile venueA venueB times
        startedAt).1 = .ok found →
      EngineQuote settings route found
  | shadow {amountInUsdc : Rat} {venueA : Option CexAdapter} {venueB : Option DexAdapter}
      {times : QuoteTimes} {startedAt : EdgeTimes} {found : QuoteAnswer} :
      0 ≤ amountInUsdc → 0 ≤ route.economicFeeBpsB →
      (∀ adapter ∈ venueA, adapter.NonNegative) → (∀ adapter ∈ venueB, adapter.NonNegative) →
      (ShadowCexDexQuoteEngine.quoteRoute settings route amountInUsdc venueA venueB times
        startedAt).1 = .ok found →
      EngineQuote settings route found

section Quotes

variable {settings : Settings} {route : Route} {amountIn : Rat} {found : QuoteAnswer}

theorem estimateGasUsdc_nonneg (costs : settings.NonNegativeCosts) {gasUnits : Int}
    (units : 0 ≤ gasUnits) : 0 ≤ estimateGasUsdc settings gasUnits := by
  have native : 0 ≤ gasUnits * settings.gasPriceGweiDefault * (1 / 1000000000) :=
    mul_nonneg (mul_nonneg (Int.cast_nonneg units) costs.gasPrice) (by positivity)
  exact nearest_nonneg 8 (mul_nonneg native costs.gasToken)

namespace HyperDexDexQuoteEngine

theorem quoteLegs_gas {venueA venueB : Option DexAdapter} {legs : Legs}
    (quoted : quoteLegs route amountIn venueA venueB = .ok legs)
    (nonnegA : ∀ adapter ∈ venueA, adapter.NonNegative)
    (nonnegB : ∀ adapter ∈ venueB, adapter.NonNegative) : 0 ≤ legs.gasUnits := by
  cases venueA with
  | none => cases quoted
  | some adapterA =>
      cases venueB with
      | none => cases quoted
      | some adapterB =>
          simp only [quoteLegs] at quoted
          split at quoted
          · cases quoted
          · obtain ⟨outLeg1, -, quoted⟩ := Except.bind_ok quoted
            obtain ⟨outLeg2, -, quoted⟩ := Except.bind_ok quoted
            obtain ⟨gasUnitsA, gasA, quoted⟩ := Except.bind_ok quoted
            obtain ⟨gasUnitsB, gasB, quoted⟩ := Except.bind_ok quoted
            cases quoted
            exact Int.add_nonneg ((nonnegA adapterA rfl).gas _ _ gasA)
              ((nonnegB adapterB rfl).gas _ _ gasB)

theorem edge_le_raw (costs : settings.NonNegativeCosts) {legs : Legs} (amount : 0 ≤ amountIn)
    (feeA : 0 ≤ route.economicFeeBpsA) (feeB : 0 ≤ route.economicFeeBpsB)
    (gas : 0 ≤ legs.gasUnits) :
    (edge settings route amountIn legs).modeledNetEdgeBps ≤
      toBps (legs.outLeg2 - amountIn) amountIn := by
  have fees : 0 ≤ amountIn * ((route.economicFeeBpsA + route.economicFeeBpsB : Int) : Rat) :=
    mul_nonneg amount (Int.cast_nonneg (Int.add_nonneg feeA feeB))
  exact ModeledEdgeCalculator.calculate_le_raw costs amount
    (nearest_nonneg 8 (div_nonneg fees (by positivity))) (estimateGasUsdc_nonneg costs gas)

end HyperDexDexQuoteEngine

namespace ShadowCexDexQuoteEngine

theorem quoteLegs_nonneg {venueA : Option CexAdapter} {venueB : Option DexAdapter} {legs : Legs}
    (amount : 0 ≤ amountIn) (quoted : quoteLegs route amountIn venueA venueB = .ok legs)
    (nonnegA : ∀ adapter ∈ venueA, adapter.NonNegative)
    (nonnegB : ∀ adapter ∈ venueB, adapter.NonNegative) :
    0 ≤ legs.virtualAmount ∧ 0 ≤ legs.cexBid ∧ 0 ≤ legs.cexFeeBps ∧ 0 ≤ legs.gasUnits := by
  cases venueA with
  | none => cases quoted
  | some cex =>
      cases venueB with
      | none => cases quoted
      | some dex =>
          simp only [quoteLegs] at quoted
          split at quoted
          · cases quoted
          · obtain ⟨status, -, quoted⟩ := Except.bind_ok quoted
            split at quoted
            · cases quoted
            · obtain ⟨virtualAmount, leg, quoted⟩ := Except.bind_ok quoted
              obtain ⟨⟨cexBid, ask⟩, book, quoted⟩ := Except.bind_ok quoted
              obtain ⟨⟨cexFeeBps, provenance⟩, fee, quoted⟩ := Except.bind_ok quoted
              obtain ⟨gasUnits, gas, quoted⟩ := Except.bind_ok quoted
              cases quoted
              exact ⟨(nonnegB dex rfl).quote _ _ _ _ _ _ amount leg,
                (nonnegA cex rfl).bid _ _ _ book, (nonnegA cex rfl).fee _ _ _ _ _ fee,
                (nonnegB dex rfl).gas _ _ gas⟩

theorem edge_le_raw (costs : settings.NonNegativeCosts) {legs : Legs} (amount : 0 ≤ amountIn)
    (fee : 0 ≤ route.economicFeeBpsB) (bought : 0 ≤ legs.virtualAmount) (bid : 0 ≤ legs.cexBid)
    (cexFee : 0 ≤ legs.cexFeeBps) (gas : 0 ≤ legs.gasUnits) :
    (edge settings route amountIn legs).modeledNetEdgeBps ≤
      toBps (legs.expectedUsdc - amountIn) amountIn := by
  have sold : 0 ≤ legs.expectedUsdc * legs.cexFeeBps :=
    mul_nonneg (mul_nonneg bought bid) (Int.cast_nonneg cexFee)
  have swapped : 0 ≤ amountIn * route.economicFeeBpsB := mul_nonneg amount (Int.cast_nonneg fee)
  exact ModeledEdgeCalculator.calculate_le_raw costs amount
    (add_nonneg (div_nonneg sold (by positivity)) (div_nonneg swapped (by positivity)))
    (estimateGasUsdc_nonneg costs gas)

end ShadowCexDexQuoteEngine

theorem EngineQuote.modeled_le_raw (costs : settings.NonNegativeCosts)
    (returned : EngineQuote settings route found) :
    found.quote.modeledNetEdgeBps ≤ found.quote.rawEdgeBps := by
  cases returned with
  | hyper amount feeA feeB nonnegA nonnegB quoted =>
      unfold HyperDexDexQuoteEngine.quoteRoute at quoted
      split at quoted
      · cases quoted
      · rename_i legs complete
        have reported := HyperDexDexQuoteEngine.report_returns quoted
        rw [reported.modeled, reported.raw]
        exact HyperDexDexQuoteEngine.edge_le_raw costs amount feeA feeB
          (HyperDexDexQuoteEngine.quoteLegs_gas complete nonnegA nonnegB)
  | shadow amount fee nonnegA nonnegB quoted =>
      unfold ShadowCexDexQuoteEngine.quoteRoute at quoted
      split at quoted
      · cases quoted
      · rename_i legs complete
        have reported := ShadowCexDexQuoteEngine.report_returns quoted
        obtain ⟨bought, bid, cexFee, gas⟩ :=
          ShadowCexDexQuoteEngine.quoteLegs_nonneg amount complete nonnegA nonnegB
        rw [reported.modeled, reported.raw]
        exact ShadowCexDexQuoteEngine.edge_le_raw costs amount fee bought bid cexFee gas

end Quotes

/-! ### The two guards -/

section Guards

variable {settings : Settings} {manager : GlobalRiskManager} {now : Instant} {input : Evaluation}

theorem deviation_le_of_passes
    (passed : ∀ guard ∈ marketGuards settings input, guard.passes = true) :
    |input.referenceDeviationBps| ≤ settings.depegThresholdBps := by
  have position : (marketGuards settings input)[5]? = some _ := rfl
  have guard := passed _ (List.mem_of_getElem? position)
  simp only [Bool.and_eq_true, decide_eq_true_eq] at guard
  exact guard.2

theorem shadow_edge_of_passes (notLive : input.mode ≠ .live)
    (passed : ∀ guard ∈ modeGuards settings input, guard.passes = true) :
    (settings.shadowMinNetEdgeBps : Rat) ≤ input.quote.modeledNetEdgeBps := by
  rw [modeGuards, if_neg notLive] at passed
  exact of_decide_eq_true (passed _ List.mem_cons_self)

theorem GlobalRiskManager.evaluate_blocked_of_modeled_le_raw
    (separated : settings.depegThresholdBps < settings.shadowMinNetEdgeBps)
    (notLive : input.mode ≠ .live) (reference : input.referenceDeviationBps = input.quote.rawEdgeBps)
    (ordered : input.quote.modeledNetEdgeBps ≤ input.quote.rawEdgeBps) :
    (manager.evaluate settings now input).1.tradable = false := by
  rw [← Bool.not_eq_true, evaluate_tradable]
  rintro ⟨-, stateless, -⟩
  simp only [statelessGuards, List.forall_mem_append] at stateless
  obtain ⟨⟨-, market⟩, mode⟩ := stateless
  have blocked : (settings.shadowMinNetEdgeBps : Rat) ≤ settings.depegThresholdBps :=
    calc (settings.shadowMinNetEdgeBps : Rat)
      _ ≤ input.quote.modeledNetEdgeBps := shadow_edge_of_passes notLive mode
      _ ≤ input.quote.rawEdgeBps := ordered
      _ ≤ |input.quote.rawEdgeBps| := le_abs_self _
      _ ≤ settings.depegThresholdBps := reference ▸ deviation_le_of_passes market
  exact absurd (Int.cast_le.mp blocked) (not_le.mpr separated)

end Guards

/-! ### The loop -/

def QuotedByEngine (settings : Settings) (route : Route) (answers : ScanAnswers) : Prop :=
  ∀ found, answers.quote = .ok found → EngineQuote settings route found

/-- Where the loop asks for a quote, an engine answers or raises. -/
def EngineAnswers (settings : Settings) (bot : Bot) (event : Event) : Prop :=
  ∀ answers cursor, event.2 = .scan answers → bot.scan = .quoting cursor →
    QuotedByEngine settings cursor.route answers

theorem ScanCursor.quote_modeled_le_raw {settings : Settings} (costs : settings.NonNegativeCosts)
    {cursor : ScanCursor} {answers : ScanAnswers}
    (quoted : QuotedByEngine settings cursor.route answers) :
    (cursor.quote answers.quote).modeledNetEdgeBps ≤ (cursor.quote answers.quote).rawEdgeBps := by
  unfold ScanCursor.quote
  split
  · rename_i found answered
    exact (quoted found answered).modeled_le_raw costs
  · exact le_refl 0

/-- The cursor that a tradable verdict is held for. -/
def ScanPc.tradingCursor : ScanPc → Option ScanCursor
  | .observing cursor _ decision | .judging cursor _ decision =>
      if decision.tradable then some cursor else none
  | .attempting cursor _ | .executing cursor _ _ => some cursor
  | _ => none

theorem ScanPc.tradingCursor_of_free {place : ScanPc} (free : place.Free) :
    place.tradingCursor = none := by
  obtain ⟨idle, -, -⟩ := free
  unfold tradingCursor
  split
  · rename_i cursor quote decision
    simp only [trading] at idle ⊢
    split at idle
    · cases idle
    · rename_i blocked
      exact if_neg blocked
  · rename_i cursor quote decision
    simp only [trading] at idle ⊢
    split at idle
    · cases idle
    · rename_i blocked
      exact if_neg blocked
  · cases idle
  · cases idle
  · rfl

def TradesLive (bot : Bot) : Prop :=
  ∀ cursor, bot.scan.tradingCursor = some cursor → cursor.strategyMode = .live

section Runs

variable {settings : Settings} {bot after : Bot} {event : Event}

theorem evaluation_blocked (costs : settings.NonNegativeCosts)
    (separated : settings.depegThresholdBps < settings.shadowMinNetEdgeBps)
    {manager : GlobalRiskManager} {now : Instant} {cursor : ScanCursor} {answers : ScanAnswers}
    (notLive : cursor.strategyMode ≠ .live)
    (quoted : QuotedByEngine settings cursor.route answers) :
    (manager.evaluate settings now (cursor.evaluation settings answers)).1.tradable = false :=
  GlobalRiskManager.evaluate_blocked_of_modeled_le_raw separated notLive rfl
    (ScanCursor.quote_modeled_le_raw costs quoted)

theorem TradesLive.step (costs : settings.NonNegativeCosts)
    (separated : settings.depegThresholdBps < settings.shadowMinNetEdgeBps)
    (held : TradesLive bot) (permitted : EngineAnswers settings bot event)
    (taken : bot.step settings event = some after) : TradesLive after := by
  unfold TradesLive at held ⊢
  rcases Bot.step_move taken with ⟨answers, scanned, moved⟩ | idle | ⟨-, same⟩
  · obtain ⟨now, action⟩ := event
    change action = .scan answers at scanned
    subst scanned
    unfold EngineAnswers at permitted
    unfold Bot.verdict at moved
    intro cursor trading
    generalize bot.scan = place, after.scan = next at moved held permitted trading
    cases moved with
    | free free =>
        rw [ScanPc.tradingCursor_of_free free] at trading
        cases trading
    | evaluated cursor' quote decision verdict =>
        obtain ⟨-, rfl⟩ := Prod.mk.inj (Option.some.inj verdict)
        simp only [ScanPc.tradingCursor] at trading
        split at trading
        · rename_i tradable
          cases trading
          by_contra notLive
          rw [evaluation_blocked costs separated notLive (permitted answers cursor rfl rfl)]
            at tradable
          cases tradable
        · cases trading
    | observed cursor' quote decision => exact held cursor trading
    | accepted cursor' quote decision tradable =>
        cases trading
        exact held cursor (if_pos tradable)
    | attempted cursor' quote attemptId => exact held cursor trading
    | failed | executed => cases trading
  · rw [idle]
    intro cursor trading
    cases trading
  · rw [same]
    exact held

end Runs

/-- With the depeg threshold under the shadow minimum, no quote of an engine is tradable off live
mode, and no run ever gets to a paper execution. -/
theorem paper_trading_excluded (settings : Settings) (costs : settings.NonNegativeCosts)
    (separated : settings.depegThresholdBps < settings.shadowMinNetEdgeBps) :
    (∀ (manager : GlobalRiskManager) (now : Instant) (cursor : ScanCursor) (answers : ScanAnswers),
      cursor.strategyMode ≠ .live → QuotedByEngine settings cursor.route answers →
        (manager.evaluate settings now (cursor.evaluation settings answers)).1.tradable = false) ∧
    ∀ (start : Bot) (trace : List (Bot × Event)) (bot : Bot), start.scan = .idle →
      Reaches (Bot.step settings) (EngineAnswers settings) start trace bot →
        ∀ cursor quote attemptId, bot.scan = .executing cursor quote attemptId →
          cursor.strategyMode = .live := by
  refine ⟨fun _ _ _ _ notLive quoted => evaluation_blocked costs separated notLive quoted, ?_⟩
  intro start trace bot idle run cursor quote attemptId place
  have base : TradesLive start := by
    intro cursor trading
    rw [idle] at trading
    cases trading
  have live := run.invariant base fun _ _ _ held permitted taken =>
    held.step costs separated permitted taken
  exact live cursor (by rw [place]; rfl)

/-! ### A round trip that gains four per cent -/

theorem sample_dex_nonneg : Sample.dex.NonNegative := by
  refine ⟨?_, ?_⟩
  · intro tokenIn tokenOut amountIn feeTier poolId amountOut nonneg quoted
    cases quoted
    exact mul_nonneg nonneg (by positivity)
  · intro routeName units gas
    cases gas
    decide

def steadyCursor : ScanCursor :=
  { currentMode := .paper, walletBalanceUsdc := 1000, route := Sample.route, rest := [] }

theorem shipped_costs : shipped.NonNegativeCosts := by
  constructor <;> decide +kernel

/-- Nothing but the depeg guard speaks against it. -/
theorem paper_trading_excluded_steady :
    (∃ found, (Sample.tradingAnswers shipped).quote = .ok found) ∧
      ((GlobalRiskManager.create shipped 0).evaluate shipped 0
        (steadyCursor.evaluation shipped (Sample.tradingAnswers shipped))).1.blockedReason = "depeg_guard" ∧
      ((GlobalRiskManager.create shipped 0).evaluate shipped 0
        (steadyCursor.evaluation shipped (Sample.tradingAnswers shipped))).1.tradable = false := by
  refine ⟨⟨_, rfl⟩, by decide +kernel, ?_⟩
  apply (paper_trading_excluded shipped shipped_costs (by decide)).1
  · decide
  · intro found answered
    have nonneg : ∀ adapter ∈ some Sample.dex, adapter.NonNegative := by
      intro adapter held
      cases held
      exact sample_dex_nonneg
    exact .hyper (by positivity) (by decide) (by decide) nonneg nonneg answered

end ArbitrageBot
