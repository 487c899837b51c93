/-
The calls of a returned `executeArb`, over every history of the contract: two
router calls with the registered selectors, bounded approvals, and allowlists
read again at each leg. Every token and router is arbitrary here, and may call
the administrative functions while it runs.
-/

import ArbitrageBot.Library.Transition
import ArbitrageBot.Contract.Erc20

namespace ArbitrageBot.Contract

open Revertible Transition

variable {ω κ : Type} {env : Environment ω κ} {executor : Address}

/-! ### Storage over whole histories -/

/-- A storage property that no administrative call and no status change can break. -/
structure AdminStable (Holds : Storage → Prop) : Prop where
  administer : ∀ storage call, Holds storage → Holds (storage.administer call)
  entered : ∀ storage flag, Holds storage → Holds { storage with entered := flag }

theorem AdminStable.after {Holds : Storage → Prop} (stable : AdminStable Holds)
    {machine : Machine ω} (call : OutCall) (holds : Holds machine.storage) :
    Holds (machine.after env call).storage := by
  unfold Machine.after
  simp only
  generalize (machine.answer env call).admin = admin
  generalize machine.storage = storage at holds
  induction admin generalizing storage with
  | nil => exact holds
  | cons first rest ih => exact ih _ (stable.administer _ _ holds)

theorem AdminStable.txStep {Holds : Storage → Prop} (stable : AdminStable Holds)
    {before after : Chain ω} {tx : Tx κ} (holds : Holds before.storage)
    (taken : txStep env executor before tx = some after) : Holds after.storage := by
  cases taken
  have onEnter : Holds { before.storage with entered := true } := stable.entered _ _ holds
  cases tx with
  | administer sender call => exact stable.administer _ _ holds
  | outside activity => exact holds
  | emergencyWithdraw sender token amount recipient =>
      rcases commit_cases before (emergencyWithdraw env sender token amount recipient) with
        same | ⟨result, machine, returned, committed⟩
      · rw [Tx.apply, same]
        exact holds
      · rw [Tx.apply, committed]
        obtain ⟨-, -, rfl⟩ := emergencyWithdraw_ok returned
        exact stable.entered _ _ (stable.after _ onEnter)
  | executeArb sender timestamp args =>
      rcases commit_cases before (executeArb env executor sender timestamp args) with
        same | ⟨result, machine, returned, committed⟩
      · rw [Tx.apply, same]
        exact holds
      · rw [Tx.apply, committed]
        obtain ⟨first, second, output, run⟩ := executeArb_ok returned
        rw [run.after_eq]
        apply stable.entered
        -- funding, three calls for each leg, and the payout
        iterate 8 apply stable.after
        exact onEnter

def SelectorsSet (storage : Storage) : Prop :=
  ∀ routeId, (storage.routes routeId).startToken ≠ 0 →
    (storage.routes routeId).selectors.1 ≠ 0 ∧ (storage.routes routeId).selectors.2 ≠ 0

theorem administer_cases (storage : Storage) (call : Address × AdminCall) :
    storage.administer call = storage ∨
      performAdmin call.2 storage = .ok ((), storage.administer call) := by
  unfold Storage.administer
  split
  · rename_i result after returned
    rw [bind_ok] at returned
    obtain ⟨_, middle, owner, returned⟩ := returned
    simp only [onlyOwner, get_bind, demand_ok, Prod.mk.injEq] at owner
    obtain ⟨-, -, rfl⟩ := owner
    exact .inr returned
  · exact .inl rfl

theorem selectorsSet_stable : AdminStable SelectorsSet := by
  refine ⟨?_, fun storage flag holds => holds⟩
  intro storage call holds
  rcases administer_cases storage call with same | performed
  · rw [same]
    exact holds
  · obtain ⟨sender, call⟩ := call
    generalize storage.administer (sender, call) = after at performed
    cases call with
    | setAllowlistedRouter | setAllowlistedToken | pause | unpause =>
        simp only [performAdmin, get_bind, set_ok, Prod.mk.injEq] at performed
        rw [performed.2]
        exact holds
    | transferOwnership newOwner =>
        simp only [performAdmin, demand_bind_ok, get_bind, set_ok, Prod.mk.injEq] at performed
        rw [performed.2.2]
        exact holds
    | registerRoute routeId startToken midToken routers poolIds feeTiers selectors enabled =>
        simp only [performAdmin, registerRoute, demand_bind_ok, get_bind, set_ok, Prod.mk.injEq,
          Bool.and_eq_true, decide_eq_true_eq] at performed
        obtain ⟨-, -, -, -, nonZero, -, rfl⟩ := performed
        intro other registered
        by_cases same : other = routeId
        · subst same
          simpa using nonZero
        · simp only [Function.update_of_ne same] at registered ⊢
          exact holds other registered
    | setRouteEnabled routeId enabled =>
        simp only [performAdmin, setRouteEnabled, demand_bind_ok, get_bind, set_ok,
          Prod.mk.injEq] at performed
        obtain ⟨-, -, rfl⟩ := performed
        intro other registered
        by_cases same : other = routeId
        · subst same
          simp only [Function.update_self] at registered ⊢
          exact holds other registered
        · simp only [Function.update_of_ne same] at registered ⊢
          exact holds other registered

theorem selectorsSet_of_reaches {deployer : Address} {routers tokens : List Address} {world : ω}
    {trace : List (Chain ω × Tx κ)} {chain : Chain ω}
    (run : Reaches (txStep env executor) anyStep
      { storage := .deploy deployer routers tokens, world } trace chain) :
    SelectorsSet chain.storage :=
  run.invariant
    (fun _ registered => absurd rfl registered)
    (fun _ _ _ holds _ taken => selectorsSet_stable.txStep holds taken)

/-! ### The calls of one execution -/

/-- The calls of one leg: the approval reset, the approval and the swap. The allowlists are those
in force when the leg starts. -/
structure LegTrace (cfg : RouteConfig) (index : Leg) (step : SwapStep) (tokenIn tokenOut : Address)
    (limit : Nat) (reset approve swap : CallRecord ω) : Prop where
  takes : step.tokenIn = tokenIn
  gives : step.tokenOut = tokenOut
  router : step.router = cfg.routers.at index
  resetCall : reset.call = .approve tokenIn (cfg.routers.at index) 0
  approveCall : ∃ amount ≤ limit, approve.call = .approve tokenIn (cfg.routers.at index) amount
  swapCall : swap.call = .router (cfg.routers.at index) step.data
  dataSize : 4 ≤ step.data.length ∧ step.data.length ≤ 512
  selector : selector step.data = cfg.selectors.at index ∧ cfg.selectors.at index ≠ 0
  routerListed : reset.storage.allowlistedRouters (cfg.routers.at index) = true
  tokensListed : reset.storage.allowlistedTokens tokenIn = true ∧
    reset.storage.allowlistedTokens tokenOut = true

/-- All calls of an execution: the funding, two legs from start to mid and back, the payout. The
second leg is limited by the output of the first, measured around it. -/
def CallTrace (env : Environment ω κ) (executor sender : Address) (storage : Storage)
    (args : ArbCall) (result : ArbResult) (calls : List (CallRecord ω)) : Prop :=
  let cfg := storage.routes args.routeId
  storage.paused = false ∧ cfg.startToken ≠ 0 ∧ cfg.enabled = true ∧
    cfg.startToken = args.startToken ∧
    ∃ first second fund reset1 approve1 swap1 reset2 approve2 swap2 payout beforeOut afterOut,
      args.steps = [first, second] ∧
      calls = [fund, reset1, approve1, swap1, reset2, approve2, swap2, payout] ∧
      fund.call = .transferFrom cfg.startToken sender executor args.initialAmount ∧
      LegTrace cfg .first first cfg.startToken cfg.midToken args.initialAmount
        reset1 approve1 swap1 ∧
      env.balanceOf reset1.world cfg.midToken executor = some beforeOut ∧
      env.balanceOf reset2.world cfg.midToken executor = some afterOut ∧
      LegTrace cfg .second second cfg.midToken cfg.startToken (afterOut - beforeOut)
        reset2 approve2 swap2 ∧
      payout.call = .transfer cfg.startToken sender result.finalAmount

theorem LegRun.trace {cfg : RouteConfig} {index : Leg} {step : SwapStep}
    {expectedTokenIn tokenIn tokenOut : Address} {limit output : Nat} {before : Machine ω}
    (leg : LegRun env executor step expectedTokenIn limit before output)
    (valid : ValidStep cfg step index) (nonZero : cfg.selectors.at index ≠ 0)
    (takes : step.tokenIn = tokenIn) (gives : step.tokenOut = tokenOut) :
    LegTrace cfg index step tokenIn tokenOut limit
      (before.record (.approve step.tokenIn step.router 0))
      ((resetMachine env step before).record
        (.approve step.tokenIn step.router (step.amountOf limit)))
      ((approvedMachine env step limit before).record (.router step.router step.data)) := by
  subst takes gives
  rw [valid.router]
  exact
    { takes := rfl, gives := rfl, router := valid.router, resetCall := rfl
      approveCall := ⟨step.amountOf limit, leg.amount, rfl⟩
      swapCall := rfl
      dataSize := ⟨valid.dataSize, leg.dataSize⟩
      selector := ⟨valid.selector, nonZero⟩
      routerListed := by rw [← valid.router]; exact leg.router
      tokensListed := ⟨leg.tokenIn, leg.tokenOut⟩ }

theorem ArbRun.callTrace {sender : Address} {args : ArbCall} {before after : Machine ω}
    {first second : SwapStep} {output : Nat} {result : ArbResult}
    (run : ArbRun env executor sender args before first second output result after)
    (fresh : before.calls = []) (selectors : SelectorsSet before.storage) :
    CallTrace env executor sender before.storage args result after.calls := by
  obtain ⟨nonZero1, nonZero2⟩ := selectors args.routeId run.registered
  have out1 : first.tokenOut = (before.storage.routes args.routeId).midToken :=
    run.validFirst.tokenOut
  have trace1 := run.leg1.trace run.validFirst nonZero1 run.validFirst.tokenIn out1
  have trace2 := run.leg2.trace run.validSecond nonZero2 run.validSecond.tokenIn
    run.validSecond.tokenOut
  obtain ⟨beforeOut, afterOut, readBefore, readAfter, -, measured⟩ := run.leg1.measured
  rw [out1] at readBefore readAfter
  have calls := run.calls
  rw [fresh, measured] at calls
  rw [measured] at trace2
  exact ⟨run.unpaused, run.registered, run.enabled, run.start, first, second, _, _, _, _, _, _, _,
    _, beforeOut, afterOut, run.steps, calls, by rw [run.start]; rfl, trace1, readBefore,
    readAfter, trace2, by rw [run.start]; rfl⟩

/-! ### The two reverts that never happen -/

/-- Neither a `FinalTokenMismatch` nor the `token_path_mismatch` of a leg. -/
def Expected (revert : Revert) : Prop :=
  revert.error ≠ .finalTokenMismatch ∧ revert.emitted ≠ some "token_path_mismatch"

instance (revert : Revert) : Decidable (Expected revert) :=
  inferInstanceAs (Decidable (_ ∧ _))

theorem expected_revertWith {error : ExecutorError} (other : error ≠ .finalTokenMismatch) :
    Expected (revertWith error) :=
  ⟨other, nofun⟩

theorem expected_emitAndRevert {reason : String} {error : ExecutorError}
    (other : error ≠ .finalTokenMismatch) (reasonOther : reason ≠ "token_path_mismatch") :
    Expected (emitAndRevert reason error) :=
  ⟨other, fun same => reasonOther (Option.some.inj same)⟩

theorem safeCall_expected {call : OutCall} {failure : String} {before : Machine ω}
    {revert : Revert} (reverted : safeCall env call failure before = .error revert) :
    Expected revert := by
  rw [safeCall, bind_error] at reverted
  rcases reverted with ⟨⟨⟩⟩ | ⟨answer, middle, -, reverted⟩
  simp only [demand_bind_error, demand_error] at reverted
  rcases reverted with ⟨-, rfl⟩ | ⟨-, ⟨-, rfl⟩ | ⟨-, -, rfl⟩⟩
  · exact expected_revertWith (by simp)
  · decide
  · exact expected_revertWith (by simp)

theorem balanceOf_expected {token account : Address} {before : Machine ω} {revert : Revert}
    (reverted : balanceOf env token account before = .error revert) : Expected revert := by
  rw [balanceOf, get_bind] at reverted
  cases read : env.balanceOf before.world token account with
  | none =>
      rw [read] at reverted
      obtain rfl := throw_error.mp reverted
      decide
  | some value =>
      rw [read] at reverted
      cases reverted

theorem safeApprove_expected {token spender : Address} {amount : Nat} {before : Machine ω}
    {revert : Revert} (reverted : safeApprove env token spender amount before = .error revert) :
    Expected revert := by
  rw [safeApprove, bind_error] at reverted
  rcases reverted with reset | ⟨-, middle, -, approve⟩
  · exact safeCall_expected reset
  · exact safeCall_expected approve

theorem executeStep_expected {routeId : Bytes32} {step : SwapStep} {index : Leg}
    {expectedTokenIn : Address} {currentAmount : Nat} {before : Machine ω} {revert : Revert}
    (onPath : step.tokenIn = expectedTokenIn)
    (reverted : executeStep env executor routeId step index expectedTokenIn currentAmount before =
      .error revert) : Expected revert := by
  simp only [executeStep, demand_bind_error, get_bind] at reverted
  rcases reverted with ⟨-, rfl⟩ | ⟨-, reverted⟩
  · exact expected_revertWith (by simp)
  rcases reverted with ⟨-, rfl⟩ | ⟨-, ⟨-, rfl⟩ | ⟨-, reverted⟩⟩
  · exact expected_emitAndRevert (by simp) (by decide)
  · exact expected_emitAndRevert (by simp) (by decide)
  rcases reverted with ⟨offPath, rfl⟩ | ⟨-, ⟨-, rfl⟩ | ⟨-, reverted⟩⟩
  · exact absurd onPath (of_decide_eq_false offPath)
  · exact expected_emitAndRevert (by simp) (by decide)
  rw [bind_error] at reverted
  rcases reverted with reading | ⟨beforeOut, _, -, reverted⟩
  · exact balanceOf_expected reading
  rw [bind_error] at reverted
  rcases reverted with approving | ⟨-, _, -, reverted⟩
  · exact safeApprove_expected approving
  rw [bind_error] at reverted
  rcases reverted with ⟨⟨⟩⟩ | ⟨answer, _, -, reverted⟩
  rw [demand_bind_error] at reverted
  rcases reverted with ⟨-, rfl⟩ | ⟨-, reverted⟩
  · exact expected_emitAndRevert (by simp) (by decide)
  rw [bind_error] at reverted
  rcases reverted with reading | ⟨afterOut, _, -, reverted⟩
  · exact balanceOf_expected reading
  simp only [demand_bind_error, pure_error, and_false, or_false] at reverted
  rcases reverted with ⟨-, rfl⟩ | ⟨-, -, rfl⟩
  · decide
  · exact expected_emitAndRevert (by simp) (by decide)

theorem validateStep_expected {routeId : Bytes32} {cfg : RouteConfig} {step : SwapStep}
    {index : Leg} {before : Machine ω} {revert : Revert}
    (reverted : validateStep routeId cfg step index before = .error revert) :
    Expected revert := by
  simp only [validateStep, demand_bind_error, demand_error] at reverted
  rcases reverted with ⟨-, rfl⟩ | ⟨-, ⟨-, rfl⟩ | ⟨-, -, rfl⟩⟩
  · exact expected_revertWith (by simp)
  · exact expected_revertWith (by simp)
  · exact expected_revertWith (by simp)

/-- The legs chain: the first hands its output token to the second, the second ends in the start
token. -/
theorem runLegs_expected {sender : Address} {args : ArbCall} {first second : SwapStep}
    {before : Machine ω} {revert : Revert} (start : first.tokenIn = args.startToken)
    (mid : second.tokenIn = first.tokenOut) (finish : second.tokenOut = args.startToken)
    (reverted : runLegs env executor sender args first second before = .error revert) :
    Expected revert := by
  rw [runLegs, bind_error] at reverted
  rcases reverted with funding | ⟨-, _, -, reverted⟩
  · exact safeCall_expected funding
  rw [bind_error] at reverted
  rcases reverted with leg | ⟨leg1, _, ran1, reverted⟩
  · exact executeStep_expected start leg
  obtain ⟨-, token1, -⟩ := executeStep_ok ran1
  rw [bind_error] at reverted
  rcases reverted with leg | ⟨leg2, _, ran2, reverted⟩
  · rw [token1] at leg
    exact executeStep_expected mid leg
  obtain ⟨-, token2, -⟩ := executeStep_ok ran2
  simp only [demand_bind_error] at reverted
  rcases reverted with ⟨mismatch, rfl⟩ | ⟨-, ⟨-, rfl⟩ | ⟨-, reverted⟩⟩
  · rw [token2] at mismatch
    exact absurd finish (of_decide_eq_false mismatch)
  · exact expected_emitAndRevert (by simp) (by decide)
  rw [bind_error] at reverted
  rcases reverted with paying | ⟨-, _, -, ⟨⟩⟩
  exact safeCall_expected paying

theorem executeArb_expected {sender : Address} {timestamp : Nat} {args : ArbCall}
    {before : Machine ω} {revert : Revert}
    (reverted : executeArb env executor sender timestamp args before = .error revert) :
    Expected revert := by
  rw [executeArb, bind_error] at reverted
  rcases reverted with entering | ⟨-, middle, -, reverted⟩
  · simp only [enter, get_bind, demand_bind_error, set_error, and_false, or_false] at entering
    rcases entering with ⟨-, rfl⟩ | ⟨-, -, rfl⟩
    · decide
    · exact expected_revertWith (by simp)
  simp only [get_bind, demand_bind_error] at reverted
  rcases reverted with ⟨-, rfl⟩ | ⟨-, ⟨-, rfl⟩ | ⟨-, reverted⟩⟩
  · decide
  · decide
  rcases steps : args.steps with _ | ⟨first, _ | ⟨second, _ | ⟨third, rest⟩⟩⟩
  case cons.cons.nil =>
    simp only [steps, demand_bind_error] at reverted
    rcases reverted with ⟨-, rfl⟩ | ⟨-, ⟨-, rfl⟩ | ⟨-, ⟨-, rfl⟩ | ⟨start, reverted⟩⟩⟩
    · exact expected_emitAndRevert (by simp) (by decide)
    · exact expected_emitAndRevert (by simp) (by decide)
    · exact expected_emitAndRevert (by simp) (by decide)
    rw [bind_error] at reverted
    rcases reverted with checking | ⟨_, _, checked1, reverted⟩
    · exact validateStep_expected checking
    obtain ⟨valid1, -⟩ := validateStep_ok checked1
    rw [bind_error] at reverted
    rcases reverted with checking | ⟨_, _, checked2, reverted⟩
    · exact validateStep_expected checking
    obtain ⟨valid2, -⟩ := validateStep_ok checked2
    rw [bind_error] at reverted
    rcases reverted with legs | ⟨-, _, -, ⟨⟩⟩
    have startToken := of_decide_eq_true start
    apply runLegs_expected _ _ _ legs
    · rw [← startToken]
      exact valid1.tokenIn
    · exact valid2.tokenIn.trans valid1.tokenOut.symm
    · rw [← startToken]
      exact valid2.tokenOut
  all_goals
    simp only [steps] at reverted
    obtain rfl := throw_error.mp reverted
    decide

/-- After every history, a returned `executeArb` made exactly the calls of its registered route,
and a reverted one never reverted for a token path. -/
theorem executeArb_callTrace (env : Environment ω κ) (executor deployer : Address)
    (routers tokens : List Address) (world : ω) (trace : List (Chain ω × Tx κ)) (chain : Chain ω)
    (run : Reaches (txStep env executor) anyStep
      { storage := .deploy deployer routers tokens, world } trace chain)
    (sender : Address) (timestamp : Nat) (args : ArbCall) :
    match executeArb env executor sender timestamp args
        { storage := chain.storage, world := chain.world } with
    | .ok (result, after) =>
        CallTrace env executor sender chain.storage args result after.calls
    | .error revert =>
        revert.error ≠ .finalTokenMismatch ∧ revert.emitted ≠ some "token_path_mismatch" := by
  have selectors := selectorsSet_of_reaches run
  split
  · rename_i result after returned
    obtain ⟨first, second, output, execution⟩ := executeArb_ok returned
    exact execution.callTrace rfl selectors
  · rename_i revert reverted
    exact executeArb_expected reverted

theorem executeArb_callTrace_sample :
    ∃ result after, Sample.execution 0 100 = .ok (result, after) ∧
      CallTrace (erc20 Sample.executor (scriptedRouters Sample.executor (Sample.script 100)))
        Sample.executor Sample.owner Sample.storage (Sample.arb 0) result after.calls := by
  have registered : txStep (erc20 Sample.executor
      (scriptedRouters Sample.executor (Sample.script 100))) Sample.executor
      { storage := .deploy Sample.owner [Sample.ramses, Sample.hybra] [Sample.usdc, Sample.usdt]
        world := Sample.tokens } (.administer Sample.owner Sample.registration) =
      some { storage := Sample.storage, world := Sample.tokens } := rfl
  have run := Reaches.snoc (.refl : Reaches _ anyStep _ _ _) trivial registered
  have traced := executeArb_callTrace _ _ _ _ _ _ _ _ run Sample.owner 0 (Sample.arb 0)
  have returns : (Sample.execution 0 100).isOk = true := by decide +kernel
  cases executed : Sample.execution 0 100 with
  | error revert =>
      rw [executed] at returns
      cases returns
  | ok done =>
      obtain ⟨result, after⟩ := done
      rw [Sample.execution] at executed
      simp only [executed] at traced
      exact ⟨result, after, rfl, traced⟩

end ArbitrageBot.Contract
