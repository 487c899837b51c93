/-
When an arbitrage goes through. The facts that a returned `executeArb` leaves behind are all that
it asks for. Among standard tokens, then, a trade whose route is set up, whose owner has the funds
and whose routers serve both steps cannot revert, and it settles in six payments.
-/

import ArbitrageBot.Contract.Authority
import ArbitrageBot.Library.TokenSupply

namespace ArbitrageBot.Contract

open Revertible TokenLedger Transition

section Run

variable {ω κ : Type} {env : Environment ω κ} {executor : Address} {before after : Machine ω}

theorem balanceOf_run {token account : Address} {balance : Nat}
    (read : env.balanceOf before.world token account = some balance) :
    balanceOf env token account before = .ok (balance, before) := by
  rw [balanceOf, get_bind, read]
  rfl

theorem safeApprove_run {token spender : Address} {amount : Nat}
    (reset : (before.answer env (.approve token spender 0)).accepted)
    (approved : ((before.after env (.approve token spender 0)).answer env
      (.approve token spender amount)).accepted) :
    safeApprove env token spender amount before =
      .ok ((), (before.after env (.approve token spender 0)).after env
        (.approve token spender amount)) := by
  rw [safeApprove, bind_ok]
  exact ⟨(), _, safeCall_run reset, safeCall_run approved⟩

theorem executeStep_run {routeId : Bytes32} {step : SwapStep} {index : Leg}
    {expectedTokenIn : Address} {currentAmount output : Nat}
    (leg : LegRun env executor step expectedTokenIn currentAmount before output) :
    executeStep env executor routeId step index expectedTokenIn currentAmount before =
      .ok ((step.tokenOut, output), swappedMachine env step currentAmount before) := by
  obtain ⟨beforeOut, afterOut, readBefore, readAfter, grown, rfl⟩ := leg.measured
  simp only [executeStep, demand_bind_ok, get_bind, decide_eq_true_eq, Bool.and_eq_true]
  refine ⟨leg.dataSize, leg.router, ⟨leg.tokenIn, leg.tokenOut⟩, leg.path, leg.amount, ?_⟩
  rw [bind_ok]
  refine ⟨beforeOut, before, balanceOf_run readBefore, ?_⟩
  rw [bind_ok]
  refine ⟨(), _, safeApprove_run leg.reset leg.approved, ?_⟩
  rw [bind_ok]
  refine ⟨_, _, callOut_run _, ?_⟩
  rw [demand_bind_ok, bind_ok]
  refine ⟨leg.swapped, afterOut, _, balanceOf_run readAfter, ?_⟩
  simp only [demand_bind_ok, decide_eq_true_eq, pure_ok]
  exact ⟨grown, leg.minimum, rfl⟩

theorem validateStep_run {routeId : Bytes32} {cfg : RouteConfig} {step : SwapStep} {index : Leg}
    (valid : ValidStep cfg step index) :
    validateStep routeId cfg step index before = .ok ((), before) := by
  simp only [validateStep, demand_bind_ok, demand_ok, Bool.and_eq_true, decide_eq_true_eq,
    and_assoc, and_true]
  exact ⟨valid.router, valid.tokenIn, valid.tokenOut, valid.poolId, valid.feeTier, valid.dataSize,
    valid.selector⟩

/-- What the call asks for before it looks at the route. -/
structure Admissible (timestamp : Nat) (args : ArbCall) (storage : Storage) : Prop where
  left : storage.entered = false
  deadline : timestamp ≤ args.deadline
  listed : storage.allowlistedTokens args.startToken = true

theorem leave_run : leave before = .ok ((), before.leave) := by
  simp only [leave, get_bind, set_ok]
  rfl

theorem runLegs_run {sender : Address} {args : ArbCall} {result : ArbResult}
    {first second : SwapStep} {output : Nat}
    (run : ArbRun env executor sender args before first second output result after) :
    runLegs env executor sender args first second before.enter =
      .ok (result, (swappedMachine env second output (swappedMachine env first args.initialAmount
        (fundedMachine env executor sender args before))).after env
          (.transfer args.startToken sender result.finalAmount)) := by
  rw [runLegs, bind_ok]
  refine ⟨(), _, safeCall_run run.funded, ?_⟩
  rw [bind_ok]
  refine ⟨_, _, executeStep_run run.leg1, ?_⟩
  rw [bind_ok]
  refine ⟨_, _, executeStep_run run.leg2, ?_⟩
  have finish : second.tokenOut = args.startToken := run.validSecond.tokenOut.trans run.start
  have profit : (if args.initialAmount < result.finalAmount then
      result.finalAmount - args.initialAmount else 0) = result.profit := by
    rw [run.profit]
    split <;> omega
  simp only [demand_bind_ok, profit, Bool.and_eq_true, decide_eq_true_eq]
  refine ⟨finish, ⟨run.minFinal, run.minProfit⟩, ?_⟩
  rw [bind_ok]
  exact ⟨(), _, safeCall_run run.paid, rfl⟩

theorem executeArb_run {sender : Address} {timestamp : Nat} {args : ArbCall} {result : ArbResult}
    {first second : SwapStep} {output : Nat}
    (admissible : Admissible timestamp args before.storage)
    (run : ArbRun env executor sender args before first second output result after) :
    executeArb env executor sender timestamp args before = .ok (result, after) := by
  have owner : sender = before.storage.owner := run.owner
  subst owner
  have unpaused : before.enter.storage.paused = false := run.unpaused
  have listed : before.enter.storage.allowlistedTokens args.startToken = true := admissible.listed
  rw [executeArb, bind_ok]
  refine ⟨(), before.enter, enter_run admissible.left, ?_⟩
  simp only [get_bind, demand_bind_ok, run.steps, decide_eq_true_eq, Bool.and_eq_true,
    Bool.not_eq_true']
  refine ⟨unpaused, admissible.deadline, listed, ⟨run.registered, run.enabled⟩, run.start, ?_⟩
  rw [bind_ok]
  refine ⟨(), _, validateStep_run run.validFirst, ?_⟩
  rw [bind_ok]
  refine ⟨(), _, validateStep_run run.validSecond, ?_⟩
  rw [bind_ok]
  refine ⟨_, _, runLegs_run run, ?_⟩
  rw [bind_ok]
  refine ⟨(), _, leave_run, ?_⟩
  rw [pure_ok, run.after_eq]

end Run

/-! ### Among standard tokens -/

section Trade

variable {η : Type} {executor : Address} {routers : RouterBehaviour executor η}
  {before after : Machine (Tokens η)}

/-- From one machine to another the balances change by `change`, the balances stay backed, and
nobody gets more from the executor than they had. -/
structure Settles (executor : Address) (before after : Machine (Tokens η))
    (change : Address → Address → ℤ) : Prop where
  storage : after.storage = before.storage
  backed : Backed maxUint256 after.world.ledgers
  balance : ∀ token account, (after.world.ledgers.balance token account : ℤ) =
    before.world.ledgers.balance token account + change token account
  allowance : ∀ token spender, after.world.ledgers.allowance token executor spender ≤
    before.world.ledgers.allowance token executor spender

theorem Settles.trans {middle : Machine (Tokens η)} {first second : Address → Address → ℤ}
    (one : Settles executor before middle first) (two : Settles executor middle after second) :
    Settles executor before after (first + second) where
  storage := two.storage.trans one.storage
  backed := two.backed
  balance token account := by
    rw [two.balance, one.balance, Pi.add_apply, Pi.add_apply, add_assoc]
  allowance token spender := (two.allowance token spender).trans (one.allowance token spender)

theorem answer_transferFrom {token source recipient : Address} {amount : Nat}
    {ledgers : Ledgers Address Address}
    (moved : before.world.ledgers.transferFrom maxUint256 token executor source recipient amount =
      some ledgers) :
    before.answer (erc20 executor routers) (.transferFrom token source recipient amount) =
      { ok := true
        returned := wordTrue
        admin := []
        world := { before.world with ledgers } } := by
  simp only [Machine.answer, erc20, moved, tokenAnswer]

theorem transferFrom_settles {token source recipient : Address} {amount : Nat}
    (backed : Backed maxUint256 before.world.ledgers)
    (funds : amount ≤ before.world.ledgers.balance token source)
    (granted : amount ≤ before.world.ledgers.allowance token source executor) :
    (before.answer (erc20 executor routers)
        (.transferFrom token source recipient amount)).accepted ∧
      Settles executor before
        (before.after (erc20 executor routers) (.transferFrom token source recipient amount))
        (flow token source recipient amount) := by
  obtain ⟨ledgers, moved⟩ := @Backed.transferFrom_defined _ _ _ _ _ _ backed _ _ _ recipient _
    funds granted
  have answered := @answer_transferFrom _ _ routers _ _ _ _ _ _ moved
  have settled := (backed.approve ..).move (transferFrom_inv moved).1 (transferFrom_inv moved).2.2
  refine ⟨?_, ?_⟩
  · rw [answered]
    exact ⟨rfl, .inr wordTrue_decodes⟩
  · rw [Machine.after, answered]
    refine ⟨rfl, settled, transferFrom_flow moved, fun other spender => ?_⟩
    dsimp only
    rw [move_allowance (transferFrom_inv moved).2.2, approve_allowance]
    split
    · rename_i same
      obtain ⟨rfl, rfl, rfl⟩ := same
      exact Nat.sub_le _ _
    · exact le_rfl

theorem transfer_settles {token recipient : Address} {amount : Nat}
    (backed : Backed maxUint256 before.world.ledgers)
    (held : amount ≤ before.world.ledgers.balance token executor) :
    (before.answer (erc20 executor routers) (.transfer token recipient amount)).accepted ∧
      Settles executor before
        (before.after (erc20 executor routers) (.transfer token recipient amount))
        (flow token executor recipient amount) := by
  obtain ⟨ledgers, moved⟩ := @Backed.transfer_defined _ _ _ _ _ _ backed _ _ recipient _ held
  have answered := @answer_transfer _ _ routers _ _ _ _ _ moved
  refine ⟨?_, ?_⟩
  · rw [answered]
    exact ⟨rfl, .inr wordTrue_decodes⟩
  · rw [Machine.after, answered]
    refine ⟨rfl, backed.move (transfer_inv moved).1 (transfer_inv moved).2, transfer_flow moved,
      fun other spender => ?_⟩
    dsimp only
    rw [move_allowance (transfer_inv moved).2]

/-- A router that serves a step, whenever it is asked: it pulls what it was approved for, pays
`output`, and does nothing else. -/
structure Serves (routers : RouterBehaviour executor η) (step : SwapStep) (amount output : Nat) :
    Prop where
  ok : ∀ storage tokens, (routers storage tokens step.router step.data).ok = true
  admin : ∀ storage tokens, (routers storage tokens step.router step.data).admin = []
  ops : ∀ storage tokens, (routers storage tokens step.router step.data).ops =
    [.transferFrom step.tokenIn step.router executor step.router amount,
      .transfer step.tokenOut step.router executor output]

theorem Serves.outside {step : SwapStep} {amount output : Nat}
    (serves : Serves routers step amount output) (storage : Storage) (tokens : Tokens η) :
    step.router ≠ executor := by
  refine (routers storage tokens step.router step.data).outsiders
    (.transferFrom step.tokenIn step.router executor step.router amount) ?_
  rw [serves.ops]
  exact List.mem_cons_self

theorem approvedMachine_backed {step : SwapStep} {currentAmount : Nat}
    (backed : Backed maxUint256 before.world.ledgers) :
    Backed maxUint256
      (approvedMachine (erc20 executor routers) step currentAmount before).world.ledgers :=
  (backed.approve step.tokenIn executor step.router 0).approve step.tokenIn executor step.router
    (step.amountOf currentAmount)

/-- What serving leaves: both payments went through, and they are taken off the approval. -/
theorem Serves.swap {step : SwapStep} {amount output : Nat}
    (serves : Serves routers step amount output) (backed : Backed maxUint256 before.world.ledgers)
    (distinct : step.tokenOut ≠ step.tokenIn)
    (held : amount ≤ before.world.ledgers.balance step.tokenIn executor)
    (granted : amount ≤ before.world.ledgers.allowance step.tokenIn executor step.router)
    (stocked : output ≤ before.world.ledgers.balance step.tokenOut step.router) :
    (before.answer (erc20 executor routers) (.router step.router step.data)).ok = true ∧
      Settles executor before
        (before.after (erc20 executor routers) (.router step.router step.data))
        (flow step.tokenIn executor step.router amount
          + flow step.tokenOut step.router executor output) ∧
      (before.after (erc20 executor routers)
          (.router step.router step.data)).world.ledgers.allowance step.tokenIn executor
            step.router =
        before.world.ledgers.allowance step.tokenIn executor step.router - amount := by
  obtain ⟨pulled, pulling⟩ := @Backed.transferFrom_defined _ _ _ _ _ _ backed _ _ _ step.router
    _ held granted
  have pulledBacked : Backed maxUint256 pulled :=
    (backed.approve ..).move (transferFrom_inv pulling).1 (transferFrom_inv pulling).2.2
  -- the payment, of a token that the pull does not move
  have untouched := transferFrom_flow pulling step.tokenOut step.router
  rw [flow_other distinct, add_zero] at untouched
  have covered : output ≤ pulled.balance step.tokenOut step.router := by omega
  obtain ⟨paid, paying⟩ := @Backed.transfer_defined _ _ _ _ _ _ pulledBacked _ _ executor _ covered
  have performed : performAll maxUint256 before.world.ledgers
      (routers before.storage before.world step.router step.data).ops = paid := by
    rw [serves.ops]
    simp only [performAll_cons, performAll_nil, perform, Op.apply, pulling, paying,
      Option.getD_some]
  have ok : (before.answer (erc20 executor routers)
      (.router step.router step.data)).ok = true := by
    simp only [Machine.answer, erc20, routerAnswer, serves.ok, if_true]
  have ledgers : (before.after (erc20 executor routers)
      (.router step.router step.data)).world.ledgers = paid := by
    rw [after_router ok, performed]
  have allowance : ∀ token spender, paid.allowance token executor spender =
      if token = step.tokenIn ∧ spender = step.router then
        before.world.ledgers.allowance step.tokenIn executor step.router - amount
      else before.world.ledgers.allowance token executor spender := by
    intro token spender
    rw [move_allowance (transfer_inv paying).2, move_allowance (transferFrom_inv pulling).2.2,
      approve_allowance]
    simp only [true_and]
  refine ⟨ok, ⟨?_, ?_, fun token account => ?_, fun token spender => ?_⟩, ?_⟩
  · simp only [Machine.after, Machine.answer, erc20, routerAnswer, serves.ok, if_true,
      serves.admin, List.foldl_nil]
  · rw [ledgers]
    exact pulledBacked.move (transfer_inv paying).1 (transfer_inv paying).2
  · rw [ledgers, transfer_flow paying, transferFrom_flow pulling, Pi.add_apply, Pi.add_apply,
      add_assoc]
  · rw [ledgers, allowance]
    split
    · rename_i same
      rw [same.1, same.2]
      exact Nat.sub_le _ _
    · exact le_rfl
  · rw [ledgers, allowance, if_pos ⟨rfl, rfl⟩]

/-- In a leg the approval is just what is pulled, so nothing of it is left. -/
theorem Serves.settles {step : SwapStep} {currentAmount output : Nat}
    (serves : Serves routers step (step.amountOf currentAmount) output)
    (backed : Backed maxUint256 before.world.ledgers) (distinct : step.tokenOut ≠ step.tokenIn)
    (held : step.amountOf currentAmount ≤ before.world.ledgers.balance step.tokenIn executor)
    (stocked : output ≤ before.world.ledgers.balance step.tokenOut step.router) :
    ((approvedMachine (erc20 executor routers) step currentAmount before).answer
        (erc20 executor routers) (.router step.router step.data)).ok = true ∧
      Settles executor before (swappedMachine (erc20 executor routers) step currentAmount before)
        (flow step.tokenIn executor step.router (step.amountOf currentAmount)
          + flow step.tokenOut step.router executor output) := by
  have allowed : ∀ token spender,
      (approvedMachine (erc20 executor routers) step currentAmount before).world.ledgers.allowance
          token executor spender =
        if token = step.tokenIn ∧ spender = step.router then step.amountOf currentAmount
        else before.world.ledgers.allowance token executor spender := by
    intro token spender
    rw [approved_allowance]
    simp only [true_and]
  have exactly := allowed step.tokenIn step.router
  rw [if_pos ⟨rfl, rfl⟩] at exactly
  obtain ⟨ok, swap, left⟩ := serves.swap (approvedMachine_backed backed) distinct held
    exactly.ge stocked
  rw [exactly, Nat.sub_self] at left
  refine ⟨ok, swap.storage, swap.backed, swap.balance, fun token spender => ?_⟩
  by_cases used : token = step.tokenIn ∧ spender = step.router
  · obtain ⟨rfl, rfl⟩ := used
    exact left.le.trans (Nat.zero_le _)
  · have untouched := swap.allowance token spender
    rw [allowed, if_neg used] at untouched
    exact untouched

theorem Serves.legRun {step : SwapStep} {expectedTokenIn : Address} {currentAmount output : Nat}
    (serves : Serves routers step (step.amountOf currentAmount) output)
    (backed : Backed maxUint256 before.world.ledgers) (distinct : step.tokenOut ≠ step.tokenIn)
    (dataSize : step.data.length ≤ maxStepDataBytes)
    (router : before.storage.allowlistedRouters step.router = true)
    (tokenIn : before.storage.allowlistedTokens step.tokenIn = true)
    (tokenOut : before.storage.allowlistedTokens step.tokenOut = true)
    (path : step.tokenIn = expectedTokenIn) (amount : step.amountOf currentAmount ≤ currentAmount)
    (minimum : step.minAmountOut ≤ output)
    (held : step.amountOf currentAmount ≤ before.world.ledgers.balance step.tokenIn executor)
    (stocked : output ≤ before.world.ledgers.balance step.tokenOut step.router) :
    LegRun (erc20 executor routers) executor step expectedTokenIn currentAmount before output := by
  obtain ⟨swapped, settles⟩ := serves.settles backed distinct held stocked
  have foreign : executor ≠ step.router :=
    (serves.outside before.storage before.world).symm
  have gained := settles.balance step.tokenOut executor
  rw [Pi.add_apply, Pi.add_apply, flow_other distinct, zero_add, flow_recipient foreign] at gained
  refine ⟨dataSize, router, tokenIn, tokenOut, path, amount, ?_, ?_, swapped,
    ⟨_, _, rfl, rfl, ?_, ?_⟩, minimum⟩
  · exact ⟨rfl, .inr wordTrue_decodes⟩
  · exact ⟨rfl, .inr wordTrue_decodes⟩
  · omega
  · omega

/-! ### Backed balances over whole runs -/

theorem backed_after (call : OutCall) (backed : Backed maxUint256 before.world.ledgers) :
    Backed maxUint256 (before.after (erc20 executor routers) call).world.ledgers := by
  cases call with
  | transferFrom token source recipient amount =>
      cases moved : before.world.ledgers.transferFrom maxUint256 token executor source recipient
          amount with
      | none => simpa only [Machine.after, Machine.answer, erc20, moved, tokenAnswer] using backed
      | some ledgers =>
          simp only [Machine.after, Machine.answer, erc20, moved, tokenAnswer]
          exact (backed.approve ..).move (transferFrom_inv moved).1 (transferFrom_inv moved).2.2
  | transfer token recipient amount =>
      cases moved : before.world.ledgers.transfer maxUint256 token executor recipient amount with
      | none => simpa only [Machine.after, Machine.answer, erc20, moved, tokenAnswer] using backed
      | some ledgers =>
          simp only [Machine.after, Machine.answer, erc20, moved, tokenAnswer]
          exact backed.move (transfer_inv moved).1 (transfer_inv moved).2
  | approve token spender amount => exact backed.approve token executor spender amount
  | router router data =>
      simp only [Machine.after, Machine.answer, erc20, routerAnswer]
      split
      · exact backed.performAll _
      · exact backed

theorem backed_txStep {before after : Chain (Tokens η)} {tx : TokenTx executor η}
    (backed : Backed maxUint256 before.world.ledgers)
    (taken : txStep (erc20 executor routers) executor before tx = some after) :
    Backed maxUint256 after.world.ledgers := by
  cases taken
  cases tx with
  | administer sender call => exact backed
  | outside activity => exact backed.performAll activity.ops
  | emergencyWithdraw sender token amount recipient =>
      rcases commit_cases before (emergencyWithdraw (erc20 executor routers) sender token amount
        recipient) with same | ⟨result, machine, returned, committed⟩
      · rw [Tx.apply, same]
        exact backed
      · rw [Tx.apply, committed]
        obtain ⟨-, -, rfl⟩ := emergencyWithdraw_ok returned
        exact backed_after _ backed
  | executeArb sender timestamp args =>
      rcases commit_cases before (executeArb (erc20 executor routers) executor sender timestamp
        args) with same | ⟨result, machine, returned, committed⟩
      · rw [Tx.apply, same]
        exact backed
      · rw [Tx.apply, committed]
        obtain ⟨first, second, output, run⟩ := executeArb_ok returned
        rw [run.after_eq]
        -- funding, three calls for each leg, and the payout
        iterate 8 apply backed_after
        exact backed

/-! ### A trade that is ready -/

/-- What an owner who sends the trade can know beforehand: the route and its steps, the markets
they ask, their own funds and the stocks of the routers. -/
structure TradeReady (routers : RouterBehaviour executor η) (chain : Chain (Tokens η))
    (timestamp : Nat) (args : ArbCall) (first second : SwapStep) (output final : Nat) : Prop where
  unpaused : chain.storage.paused = false
  deadline : timestamp ≤ args.deadline
  steps : args.steps = [first, second]
  registered : (chain.storage.routes args.routeId).startToken ≠ 0
  enabled : (chain.storage.routes args.routeId).enabled = true
  start : (chain.storage.routes args.routeId).startToken = args.startToken
  distinct : first.tokenOut ≠ args.startToken
  validFirst : ValidStep (chain.storage.routes args.routeId) first .first
  validSecond : ValidStep (chain.storage.routes args.routeId) second .second
  dataFirst : first.data.length ≤ maxStepDataBytes
  dataSecond : second.data.length ≤ maxStepDataBytes
  routerFirst : chain.storage.allowlistedRouters first.router = true
  routerSecond : chain.storage.allowlistedRouters second.router = true
  startListed : chain.storage.allowlistedTokens args.startToken = true
  midListed : chain.storage.allowlistedTokens first.tokenOut = true
  amountFirst : first.amountOf args.initialAmount ≤ args.initialAmount
  amountSecond : second.amountOf output ≤ output
  servesFirst : Serves routers first (first.amountOf args.initialAmount) output
  servesSecond : Serves routers second (second.amountOf output) final
  minFirst : first.minAmountOut ≤ output
  minSecond : second.minAmountOut ≤ final
  minFinal : args.minAmountOutFinal ≤ final
  minProfit : args.minProfitAbsolute ≤ final - args.initialAmount
  funds : args.initialAmount ≤ chain.world.ledgers.balance args.startToken chain.storage.owner
  granted : args.initialAmount ≤
    chain.world.ledgers.allowance args.startToken chain.storage.owner executor
  stockFirst : output ≤ chain.world.ledgers.balance first.tokenOut first.router
  stockSecond : final ≤ chain.world.ledgers.balance args.startToken second.router
  apart : second.router ≠ chain.storage.owner

/-- The six payments of a trade: into the executor, two for each leg, and back to the owner. -/
def tradeFlow (executor owner : Address) (args : ArbCall) (first second : SwapStep)
    (output final : Nat) : Address → Address → ℤ :=
  flow args.startToken owner executor args.initialAmount
    + (flow first.tokenIn executor first.router (first.amountOf args.initialAmount)
      + flow first.tokenOut first.router executor output)
    + (flow second.tokenIn executor second.router (second.amountOf output)
      + flow second.tokenOut second.router executor final)
    + flow args.startToken executor owner final

theorem Settles.received {token source recipient : Address} {amount : Nat}
    (settles : Settles executor before after (flow token source recipient amount))
    (funds : amount ≤ before.world.ledgers.balance token source) :
    amount ≤ after.world.ledgers.balance token recipient := by
  have exact := settles.balance token recipient
  by_cases same : recipient = source
  · subst same
    simp only [flow, and_self, if_true, sub_self, add_zero] at exact
    omega
  · rw [flow_recipient same] at exact
    omega

section Ready

variable {chain : Chain (Tokens η)} {timestamp : Nat} {args : ArbCall} {first second : SwapStep}
  {output final : Nat}

def Chain.machine (chain : Chain (Tokens η)) : Machine (Tokens η) :=
  { storage := chain.storage, world := chain.world }

def fundedTrade (routers : RouterBehaviour executor η) (chain : Chain (Tokens η))
    (args : ArbCall) : Machine (Tokens η) :=
  fundedMachine (erc20 executor routers) executor chain.storage.owner args chain.machine

def halfTrade (routers : RouterBehaviour executor η) (chain : Chain (Tokens η)) (args : ArbCall)
    (first : SwapStep) : Machine (Tokens η) :=
  swappedMachine (erc20 executor routers) first args.initialAmount (fundedTrade routers chain args)

def fullTrade (routers : RouterBehaviour executor η) (chain : Chain (Tokens η)) (args : ArbCall)
    (first second : SwapStep) (output : Nat) : Machine (Tokens η) :=
  swappedMachine (erc20 executor routers) second output (halfTrade routers chain args first)

theorem TradeReady.firstIn
    (ready : TradeReady routers chain timestamp args first second output final) :
    first.tokenIn = args.startToken := ready.validFirst.tokenIn.trans ready.start

theorem TradeReady.secondIn
    (ready : TradeReady routers chain timestamp args first second output final) :
    second.tokenIn = first.tokenOut :=
  ready.validSecond.tokenIn.trans ready.validFirst.tokenOut.symm

theorem TradeReady.secondOut
    (ready : TradeReady routers chain timestamp args first second output final) :
    second.tokenOut = args.startToken := ready.validSecond.tokenOut.trans ready.start

theorem TradeReady.funding
    (ready : TradeReady routers chain timestamp args first second output final)
    (backed : Backed maxUint256 chain.world.ledgers) :
    (chain.machine.enter.answer (erc20 executor routers) (.transferFrom args.startToken
        chain.storage.owner executor args.initialAmount)).accepted ∧
      Settles executor chain.machine.enter (fundedTrade routers chain args)
        (flow args.startToken chain.storage.owner executor args.initialAmount) := by
  have entered : Backed maxUint256 chain.machine.enter.world.ledgers := backed
  exact transferFrom_settles entered ready.funds ready.granted

theorem TradeReady.firstLeg
    (ready : TradeReady routers chain timestamp args first second output final)
    (backed : Backed maxUint256 chain.world.ledgers) :
    LegRun (erc20 executor routers) executor first args.startToken args.initialAmount
        (fundedTrade routers chain args) output ∧
      Settles executor (fundedTrade routers chain args) (halfTrade routers chain args first)
        (flow first.tokenIn executor first.router (first.amountOf args.initialAmount)
          + flow first.tokenOut first.router executor output) := by
  obtain ⟨-, funding⟩ := ready.funding backed
  have distinct : first.tokenOut ≠ first.tokenIn := by
    rw [ready.firstIn]
    exact ready.distinct
  have received : args.initialAmount ≤
      (fundedTrade routers chain args).world.ledgers.balance args.startToken executor :=
    funding.received ready.funds
  have held : first.amountOf args.initialAmount ≤
      (fundedTrade routers chain args).world.ledgers.balance first.tokenIn executor := by
    rw [ready.firstIn]
    exact ready.amountFirst.trans received
  have stocked : output ≤
      (fundedTrade routers chain args).world.ledgers.balance first.tokenOut first.router := by
    have untouched := funding.balance first.tokenOut first.router
    rw [flow_other ready.distinct, add_zero] at untouched
    have stock : output ≤ chain.machine.enter.world.ledgers.balance first.tokenOut first.router :=
      ready.stockFirst
    omega
  refine ⟨?_, (ready.servesFirst.settles funding.backed distinct held stocked).2⟩
  refine ready.servesFirst.legRun funding.backed distinct ready.dataFirst ?_ ?_ ?_ ready.firstIn
    ready.amountFirst ready.minFirst held stocked
  · rw [funding.storage]
    exact ready.routerFirst
  · rw [funding.storage, ready.firstIn]
    exact ready.startListed
  · rw [funding.storage]
    exact ready.midListed

theorem TradeReady.secondHeld
    (ready : TradeReady routers chain timestamp args first second output final)
    (backed : Backed maxUint256 chain.world.ledgers) : second.amountOf output ≤
      (halfTrade routers chain args first).world.ledgers.balance second.tokenIn executor := by
  obtain ⟨-, leg1⟩ := ready.firstLeg backed
  have foreign : executor ≠ first.router :=
    (ready.servesFirst.outside chain.storage chain.world).symm
  have other : first.tokenOut ≠ first.tokenIn := by
    rw [ready.firstIn]
    exact ready.distinct
  have gained := leg1.balance first.tokenOut executor
  rw [Pi.add_apply, Pi.add_apply, flow_other other, zero_add, flow_recipient foreign] at gained
  have amount := ready.amountSecond
  rw [ready.secondIn]
  omega

/-- Neither the funding nor the first leg takes from the stock of the second router. -/
theorem TradeReady.secondStocked
    (ready : TradeReady routers chain timestamp args first second output final)
    (backed : Backed maxUint256 chain.world.ledgers) : final ≤
      (halfTrade routers chain args first).world.ledgers.balance second.tokenOut
        second.router := by
  obtain ⟨-, funding⟩ := ready.funding backed
  obtain ⟨-, leg1⟩ := ready.firstLeg backed
  have foreign : second.router ≠ executor :=
    ready.servesSecond.outside chain.storage chain.world
  have kept := funding.balance args.startToken second.router
  rw [flow_stranger ready.apart foreign, add_zero] at kept
  have paidIn := leg1.balance args.startToken second.router
  rw [Pi.add_apply, Pi.add_apply, flow_other ready.distinct.symm, add_zero, ready.firstIn]
    at paidIn
  -- the first router may be the second one, and then it has gained
  have gains : 0 ≤ flow args.startToken executor first.router
      (first.amountOf args.initialAmount) args.startToken second.router := by
    simp only [flow, true_and, foreign, if_false, sub_zero]
    split <;> omega
  have stock : final ≤ chain.machine.enter.world.ledgers.balance args.startToken second.router :=
    ready.stockSecond
  rw [ready.secondOut]
  omega

theorem TradeReady.secondLeg
    (ready : TradeReady routers chain timestamp args first second output final)
    (backed : Backed maxUint256 chain.world.ledgers) :
    LegRun (erc20 executor routers) executor second first.tokenOut output
        (halfTrade routers chain args first) final ∧
      Settles executor (halfTrade routers chain args first)
        (fullTrade routers chain args first second output)
        (flow second.tokenIn executor second.router (second.amountOf output)
          + flow second.tokenOut second.router executor final) := by
  obtain ⟨-, funding⟩ := ready.funding backed
  obtain ⟨-, leg1⟩ := ready.firstLeg backed
  have distinct : second.tokenOut ≠ second.tokenIn := by
    rw [ready.secondOut, ready.secondIn]
    exact ready.distinct.symm
  have held := ready.secondHeld backed
  have stocked := ready.secondStocked backed
  have storage : (halfTrade routers chain args first).storage = chain.machine.enter.storage :=
    leg1.storage.trans funding.storage
  refine ⟨?_, (ready.servesSecond.settles leg1.backed distinct held stocked).2⟩
  refine ready.servesSecond.legRun leg1.backed distinct ready.dataSecond ?_ ?_ ?_ ready.secondIn
    ready.amountSecond ready.minSecond held stocked
  · rw [storage]
    exact ready.routerSecond
  · rw [storage, ready.secondIn]
    exact ready.midListed
  · rw [storage, ready.secondOut]
    exact ready.startListed

theorem TradeReady.payout
    (ready : TradeReady routers chain timestamp args first second output final)
    (backed : Backed maxUint256 chain.world.ledgers) :
    ((fullTrade routers chain args first second output).answer (erc20 executor routers)
        (.transfer args.startToken chain.storage.owner final)).accepted ∧
      Settles executor (fullTrade routers chain args first second output)
        ((fullTrade routers chain args first second output).after (erc20 executor routers)
          (.transfer args.startToken chain.storage.owner final))
        (flow args.startToken executor chain.storage.owner final) := by
  obtain ⟨-, leg2⟩ := ready.secondLeg backed
  have foreign : executor ≠ second.router :=
    (ready.servesSecond.outside chain.storage chain.world).symm
  have other : args.startToken ≠ second.tokenIn := by
    rw [ready.secondIn]
    exact ready.distinct.symm
  have held : final ≤
      (fullTrade routers chain args first second output).world.ledgers.balance args.startToken
        executor := by
    have gained := leg2.balance args.startToken executor
    rw [Pi.add_apply, Pi.add_apply, flow_other other, zero_add, ready.secondOut,
      flow_recipient foreign] at gained
    omega
  exact transfer_settles leg2.backed held

theorem TradeReady.runs
    (ready : TradeReady routers chain timestamp args first second output final)
    (left : chain.storage.entered = false) (backed : Backed maxUint256 chain.world.ledgers) :
    ∃ after, executeArb (erc20 executor routers) executor chain.storage.owner timestamp args
        chain.machine =
          .ok ({ finalAmount := final, profit := final - args.initialAmount }, after) ∧
      Settles executor chain.machine after
        (tradeFlow executor chain.storage.owner args first second output final) := by
  obtain ⟨funded, funding⟩ := ready.funding backed
  obtain ⟨run1, leg1⟩ := ready.firstLeg backed
  obtain ⟨run2, leg2⟩ := ready.secondLeg backed
  obtain ⟨paid, payout⟩ := ready.payout backed
  have admissible : Admissible timestamp args chain.machine.storage :=
    ⟨left, ready.deadline, ready.startListed⟩
  have run : ArbRun (erc20 executor routers) executor chain.storage.owner args chain.machine first
      second output { finalAmount := final, profit := final - args.initialAmount } _ :=
    ⟨rfl, ready.unpaused, ready.steps, ready.registered, ready.enabled, ready.start,
      ready.validFirst, ready.validSecond, funded, run1, run2, ready.minFinal, rfl,
      ready.minProfit, paid, rfl⟩
  refine ⟨_, executeArb_run admissible run, ?_⟩
  have settles := ((funding.trans leg1).trans leg2).trans payout
  refine ⟨?_, settles.backed, settles.balance, settles.allowance⟩
  have storage : ((fullTrade routers chain args first second output).after (erc20 executor routers)
      (.transfer args.startToken chain.storage.owner final)).storage =
        { chain.storage with entered := true } := settles.storage
  change { ((fullTrade routers chain args first second output).after (erc20 executor routers)
    (.transfer args.startToken chain.storage.owner final)).storage with entered := false } =
      chain.storage
  rw [storage, ← left]

end Ready

end Trade

theorem Sample.tokens_backed : Backed maxUint256 Sample.tokens.ledgers := by
  have capped : 2100 ≤ maxUint256 := by decide
  refine ⟨fun token => capped, fun token accounts => ?_⟩
  have bound : ∀ account, Sample.tokens.ledgers.balance token account ≤
      ((if account = Sample.owner then 100 else 0) + if account = Sample.ramses then 1000 else 0)
        + if account = Sample.hybra then 1000 else 0 := by
    intro account
    change (if token = Sample.usdc ∧ account = Sample.owner then 100
      else if account = Sample.ramses ∨ account = Sample.hybra then 1000 else 0) ≤ _
    split
    · rename_i same
      rw [if_pos same.2]
      omega
    · split
      · rename_i market
        rcases market with same | same
        · rw [if_pos same]
          omega
        · rw [if_pos same]
          omega
      · exact Nat.zero_le _
  have sums := Finset.sum_le_sum (fun account (_ : account ∈ accounts) => bound account)
  simp only [Finset.sum_add_distrib, Finset.sum_ite_eq'] at sums
  refine sums.trans ?_
  change _ ≤ 2100
  split <;> split <;> split <;> omega

theorem Sample.trade_ready : TradeReady Sample.promptRouters Sample.registered 0 (Sample.arb 60)
    (Sample.step Sample.ramses Sample.usdc Sample.usdt 60)
    (Sample.step Sample.hybra Sample.usdt Sample.usdc 0) 60 120 where
  unpaused := rfl
  deadline := by decide
  steps := rfl
  registered := by decide +kernel
  enabled := rfl
  start := rfl
  distinct := by decide
  validFirst := ⟨rfl, rfl, rfl, rfl, rfl, by decide, rfl⟩
  validSecond := ⟨rfl, rfl, rfl, rfl, rfl, by decide, rfl⟩
  dataFirst := by decide
  dataSecond := by decide
  routerFirst := rfl
  routerSecond := rfl
  startListed := rfl
  midListed := rfl
  amountFirst := by decide
  amountSecond := by decide
  servesFirst := ⟨fun _ _ => rfl, fun _ _ => rfl, fun _ _ => rfl⟩
  servesSecond := ⟨fun _ _ => rfl, fun _ _ => rfl, fun _ _ => rfl⟩
  minFirst := by decide
  minSecond := by decide
  minFinal := by decide
  minProfit := by decide
  funds := by decide +kernel
  granted := by decide +kernel
  stockFirst := by decide +kernel
  stockSecond := by decide +kernel
  apart := by decide +kernel

end ArbitrageBot.Contract
