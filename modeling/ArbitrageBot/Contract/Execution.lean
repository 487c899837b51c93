/-
What a returned `executeArb` went through: one fact for every check it passed
and every call it made, with the machine it was in at that moment.
-/

import ArbitrageBot.Contract.Executor

namespace ArbitrageBot.Contract

open Revertible

variable {ω κ : Type} {env : Environment ω κ} {executor : Address} {before after : Machine ω}

def Answer.accepted (answer : Answer ω) : Prop :=
  answer.ok = true ∧ (answer.returned = [] ∨ decodeBool answer.returned = some true)

theorem callOut_run (call : OutCall) :
    callOut env call before = .ok (before.answer env call, before.after env call) := rfl

theorem callOut_ok {call : OutCall} {answer : Answer ω}
    (returned : callOut env call before = .ok (answer, after)) :
    answer = before.answer env call ∧ after = before.after env call := by
  rw [callOut_run] at returned
  cases returned
  exact ⟨rfl, rfl⟩

theorem safeCall_ok {call : OutCall} {failure : String} {result : Unit}
    (returned : safeCall env call failure before = .ok (result, after)) :
    (before.answer env call).accepted ∧ after = before.after env call := by
  rw [safeCall, bind_ok] at returned
  obtain ⟨answer, middle, called, returned⟩ := returned
  obtain ⟨rfl, rfl⟩ := callOut_ok called
  simp only [demand_bind_ok, demand_ok, Prod.mk.injEq] at returned
  obtain ⟨ok, -, accepted, -, rfl⟩ := returned
  exact ⟨⟨ok, by simpa using accepted⟩, rfl⟩

theorem safeApprove_ok {token spender : Address} {amount : Nat} {result : Unit}
    (returned : safeApprove env token spender amount before = .ok (result, after)) :
    (before.answer env (.approve token spender 0)).accepted ∧
      ((before.after env (.approve token spender 0)).answer env
        (.approve token spender amount)).accepted ∧
      after = (before.after env (.approve token spender 0)).after env
        (.approve token spender amount) := by
  rw [safeApprove, bind_ok] at returned
  obtain ⟨_, _, resetting, approving⟩ := returned
  obtain ⟨reset, rfl⟩ := safeCall_ok resetting
  obtain ⟨approved, rfl⟩ := safeCall_ok approving
  exact ⟨reset, approved, rfl⟩

theorem balanceOf_ok {token account : Address} {balance : Nat}
    (returned : balanceOf env token account before = .ok (balance, after)) :
    env.balanceOf before.world token account = some balance ∧ after = before := by
  rw [balanceOf, get_bind] at returned
  cases read : env.balanceOf before.world token account with
  | none =>
      rw [read] at returned
      cases returned
  | some value =>
      rw [read] at returned
      cases returned
      exact ⟨rfl, rfl⟩

/-! ### One leg -/

def SwapStep.amountOf (step : SwapStep) (currentAmount : Nat) : Nat :=
  if step.amountIn = 0 then currentAmount else step.amountIn

section Leg

variable (env) (step : SwapStep) (currentAmount : Nat) (before : Machine ω)

def resetMachine : Machine ω := before.after env (.approve step.tokenIn step.router 0)

def approvedMachine : Machine ω :=
  (resetMachine env step before).after env
    (.approve step.tokenIn step.router (step.amountOf currentAmount))

def swappedMachine : Machine ω :=
  (approvedMachine env step currentAmount before).after env (.router step.router step.data)

end Leg

/-- A returned `_executeStep`, from its checks to the measured output. -/
structure LegRun (env : Environment ω κ) (executor : Address) (step : SwapStep)
    (expectedTokenIn : Address) (currentAmount : Nat) (before : Machine ω) (output : Nat) :
    Prop where
  dataSize : step.data.length ≤ maxStepDataBytes
  router : before.storage.allowlistedRouters step.router = true
  tokenIn : before.storage.allowlistedTokens step.tokenIn = true
  tokenOut : before.storage.allowlistedTokens step.tokenOut = true
  path : step.tokenIn = expectedTokenIn
  amount : step.amountOf currentAmount ≤ currentAmount
  reset : (before.answer env (.approve step.tokenIn step.router 0)).accepted
  approved : ((resetMachine env step before).answer env
    (.approve step.tokenIn step.router (step.amountOf currentAmount))).accepted
  swapped : ((approvedMachine env step currentAmount before).answer env
    (.router step.router step.data)).ok = true
  measured : ∃ beforeOut afterOut, env.balanceOf before.world step.tokenOut executor = some beforeOut ∧
    env.balanceOf (swappedMachine env step currentAmount before).world step.tokenOut executor =
      some afterOut ∧ beforeOut ≤ afterOut ∧ output = afterOut - beforeOut
  minimum : step.minAmountOut ≤ output

theorem executeStep_ok {routeId : Bytes32} {step : SwapStep} {index : Leg}
    {expectedTokenIn : Address} {currentAmount : Nat} {result : Address × Nat}
    (returned : executeStep env executor routeId step index expectedTokenIn currentAmount before =
      .ok (result, after)) :
    LegRun env executor step expectedTokenIn currentAmount before result.2 ∧
      result.1 = step.tokenOut ∧ after = swappedMachine env step currentAmount before := by
  simp only [executeStep, demand_bind_ok, get_bind, decide_eq_true_eq, Bool.and_eq_true]
    at returned
  obtain ⟨dataSize, router, tokens, path, amount, returned⟩ := returned
  rw [bind_ok] at returned
  obtain ⟨beforeOut, _, reading, returned⟩ := returned
  obtain ⟨readBefore, rfl⟩ := balanceOf_ok reading
  rw [bind_ok] at returned
  obtain ⟨_, _, approving, returned⟩ := returned
  obtain ⟨reset, approved, rfl⟩ := safeApprove_ok approving
  rw [bind_ok] at returned
  obtain ⟨_, _, called, returned⟩ := returned
  obtain ⟨rfl, rfl⟩ := callOut_ok called
  rw [demand_bind_ok, bind_ok] at returned
  obtain ⟨swapped, afterOut, _, reading, returned⟩ := returned
  obtain ⟨readAfter, rfl⟩ := balanceOf_ok reading
  simp only [demand_bind_ok, decide_eq_true_eq, pure_ok, Prod.mk.injEq] at returned
  obtain ⟨grown, minimum, rfl, rfl⟩ := returned
  exact ⟨⟨dataSize, router, tokens.1, tokens.2, path, amount, reset, approved, swapped,
    ⟨beforeOut, afterOut, readBefore, readAfter, grown, rfl⟩, minimum⟩, rfl, rfl⟩

/-! ### The whole call -/

structure ValidStep (cfg : RouteConfig) (step : SwapStep) (index : Leg) : Prop where
  router : step.router = cfg.routers.at index
  tokenIn : step.tokenIn = if index = .first then cfg.startToken else cfg.midToken
  tokenOut : step.tokenOut = if index = .first then cfg.midToken else cfg.startToken
  poolId : step.poolId = cfg.poolIds.at index
  feeTier : step.feeTier = cfg.feeTiers.at index
  dataSize : 4 ≤ step.data.length
  selector : selector step.data = cfg.selectors.at index

theorem validateStep_ok {routeId : Bytes32} {cfg : RouteConfig} {step : SwapStep} {index : Leg}
    {result : Unit} (returned : validateStep routeId cfg step index before = .ok (result, after)) :
    ValidStep cfg step index ∧ after = before := by
  simp only [validateStep, demand_bind_ok, demand_ok, Bool.and_eq_true, decide_eq_true_eq,
    and_assoc, Prod.mk.injEq] at returned
  obtain ⟨router, tokenIn, tokenOut, poolId, feeTier, dataSize, selected, -, rfl⟩ := returned
  exact ⟨⟨router, tokenIn, tokenOut, poolId, feeTier, dataSize, selected⟩, rfl⟩

def Machine.enter (machine : Machine ω) : Machine ω :=
  { machine with storage := { machine.storage with entered := true } }

def Machine.leave (machine : Machine ω) : Machine ω :=
  { machine with storage := { machine.storage with entered := false } }

def fundedMachine (env : Environment ω κ) (executor sender : Address) (args : ArbCall)
    (machine : Machine ω) : Machine ω :=
  machine.enter.after env (.transferFrom args.startToken sender executor args.initialAmount)

/-- A returned `executeArb`: the two steps, the two measured outputs and the machine after it. -/
structure ArbRun (env : Environment ω κ) (executor sender : Address) (args : ArbCall)
    (before : Machine ω) (first second : SwapStep) (output : Nat) (result : ArbResult)
    (after : Machine ω) : Prop where
  owner : sender = before.storage.owner
  unpaused : before.storage.paused = false
  steps : args.steps = [first, second]
  registered : (before.storage.routes args.routeId).startToken ≠ 0
  enabled : (before.storage.routes args.routeId).enabled = true
  start : (before.storage.routes args.routeId).startToken = args.startToken
  validFirst : ValidStep (before.storage.routes args.routeId) first .first
  validSecond : ValidStep (before.storage.routes args.routeId) second .second
  funded : (before.enter.answer env
    (.transferFrom args.startToken sender executor args.initialAmount)).accepted
  leg1 : LegRun env executor first args.startToken args.initialAmount
    (fundedMachine env executor sender args before) output
  leg2 : LegRun env executor second first.tokenOut output
    (swappedMachine env first args.initialAmount (fundedMachine env executor sender args before))
    result.finalAmount
  minFinal : args.minAmountOutFinal ≤ result.finalAmount
  profit : result.profit = result.finalAmount - args.initialAmount
  minProfit : args.minProfitAbsolute ≤ result.profit
  paid : ((swappedMachine env second output (swappedMachine env first args.initialAmount
      (fundedMachine env executor sender args before))).answer env
    (.transfer args.startToken sender result.finalAmount)).accepted
  after_eq : after = ((swappedMachine env second output (swappedMachine env first
      args.initialAmount (fundedMachine env executor sender args before))).after env
    (.transfer args.startToken sender result.finalAmount)).leave

def legCalls (env : Environment ω κ) (step : SwapStep) (currentAmount : Nat)
    (before : Machine ω) : List (CallRecord ω) :=
  [before.record (.approve step.tokenIn step.router 0),
    (resetMachine env step before).record
      (.approve step.tokenIn step.router (step.amountOf currentAmount)),
    (approvedMachine env step currentAmount before).record (.router step.router step.data)]

theorem swappedMachine_calls (step : SwapStep) (currentAmount : Nat) :
    (swappedMachine env step currentAmount before).calls =
      before.calls ++ legCalls env step currentAmount before := by
  simp only [swappedMachine, approvedMachine, resetMachine, Machine.after, legCalls,
    List.append_assoc, List.cons_append, List.nil_append]

theorem ArbRun.calls {sender : Address} {args : ArbCall} {first second : SwapStep} {output : Nat}
    {result : ArbResult}
    (run : ArbRun env executor sender args before first second output result after) :
    after.calls = before.calls ++
      before.enter.record (.transferFrom args.startToken sender executor args.initialAmount) ::
        (legCalls env first args.initialAmount (fundedMachine env executor sender args before) ++
          legCalls env second output (swappedMachine env first args.initialAmount
            (fundedMachine env executor sender args before)) ++
          [(swappedMachine env second output (swappedMachine env first args.initialAmount
            (fundedMachine env executor sender args before))).record
              (.transfer args.startToken sender result.finalAmount)]) := by
  rw [run.after_eq]
  simp only [Machine.leave, Machine.after, swappedMachine_calls, fundedMachine, Machine.enter,
    List.append_assoc, List.cons_append, List.nil_append]

theorem enter_ok {sender : Address} {result : Unit}
    (returned : enter sender before = .ok (result, after)) :
    sender = before.storage.owner ∧ after = before.enter := by
  simp only [enter, get_bind, demand_bind_ok, decide_eq_true_eq, set_ok, Prod.mk.injEq]
    at returned
  exact ⟨returned.1, returned.2.2.2⟩

theorem leave_ok {result : Unit} (returned : leave before = .ok (result, after)) :
    after = before.leave := by
  simp only [leave, get_bind, set_ok, Prod.mk.injEq] at returned
  exact returned.2

theorem executeArb_ok {sender : Address} {timestamp : Nat} {args : ArbCall} {result : ArbResult}
    (returned : executeArb env executor sender timestamp args before = .ok (result, after)) :
    ∃ first second output, ArbRun env executor sender args before first second output result after := by
  rw [executeArb, bind_ok] at returned
  obtain ⟨_, _, entering, returned⟩ := returned
  obtain ⟨owner, rfl⟩ := enter_ok entering
  simp only [get_bind, demand_bind_ok, decide_eq_true_eq, Bool.not_eq_true'] at returned
  obtain ⟨unpaused, -, returned⟩ := returned
  rcases steps : args.steps with _ | ⟨first, _ | ⟨second, _ | ⟨third, rest⟩⟩⟩
  case cons.cons.nil =>
    simp only [steps, demand_bind_ok, Bool.and_eq_true, decide_eq_true_eq] at returned
    obtain ⟨-, configured, start, returned⟩ := returned
    rw [bind_ok] at returned
    obtain ⟨_, _, checked, returned⟩ := returned
    obtain ⟨validFirst, rfl⟩ := validateStep_ok checked
    rw [bind_ok] at returned
    obtain ⟨_, _, checking, returned⟩ := returned
    obtain ⟨validSecond, rfl⟩ := validateStep_ok checking
    rw [bind_ok] at returned
    obtain ⟨_, _, legs, returned⟩ := returned
    rw [bind_ok] at returned
    obtain ⟨_, _, left, returned⟩ := returned
    obtain rfl := leave_ok left
    rw [runLegs, bind_ok] at legs
    obtain ⟨_, _, funding, legs⟩ := legs
    obtain ⟨funded, rfl⟩ := safeCall_ok funding
    rw [bind_ok] at legs
    obtain ⟨out1, _, ran1, legs⟩ := legs
    obtain ⟨leg1, token1, rfl⟩ := executeStep_ok ran1
    rw [bind_ok] at legs
    obtain ⟨out2, _, ran2, legs⟩ := legs
    rw [token1] at ran2
    obtain ⟨leg2, -, rfl⟩ := executeStep_ok ran2
    simp only [demand_bind_ok, Bool.and_eq_true, decide_eq_true_eq] at legs
    obtain ⟨-, thresholds, legs⟩ := legs
    rw [bind_ok] at legs
    obtain ⟨_, _, paying, legs⟩ := legs
    obtain ⟨paid, rfl⟩ := safeCall_ok paying
    cases legs
    cases returned
    have profit : (if args.initialAmount < out2.2 then out2.2 - args.initialAmount else 0) =
        out2.2 - args.initialAmount := by
      split <;> omega
    exact ⟨first, second, out1.2, ⟨owner, unpaused, steps, configured.1, configured.2, start,
      validFirst, validSecond, funded, leg1, leg2, thresholds.1, profit, thresholds.2, paid, rfl⟩⟩
  all_goals
    simp only [steps] at returned
    cases returned

/-! ### The other transactions -/

theorem emergencyWithdraw_ok {sender token : Address} {amount : Nat} {recipient : Address}
    {before after : Machine ω} {result : Unit}
    (returned : emergencyWithdraw env sender token amount recipient before = .ok (result, after)) :
    sender = before.storage.owner ∧
      (before.enter.answer env (.transfer token recipient amount)).accepted ∧
      after = (before.enter.after env (.transfer token recipient amount)).leave := by
  rw [emergencyWithdraw, bind_ok] at returned
  obtain ⟨_, _, entering, returned⟩ := returned
  obtain ⟨owner, rfl⟩ := enter_ok entering
  rw [demand_bind_ok, bind_ok] at returned
  obtain ⟨-, _, _, paying, returned⟩ := returned
  obtain ⟨paid, rfl⟩ := safeCall_ok paying
  exact ⟨owner, paid, leave_ok returned⟩

theorem commit_cases {α : Type} (chain : Chain ω) (body : CallExec ω α) :
    chain.commit body = chain ∨
      ∃ result machine, body { storage := chain.storage, world := chain.world } =
          .ok (result, machine) ∧
        chain.commit body = { storage := machine.storage, world := machine.world } := by
  unfold Chain.commit
  split
  · rename_i result machine returned
    exact .inr ⟨result, machine, returned, rfl⟩
  · exact .inl rfl

end ArbitrageBot.Contract
