/-
The contract `ArbExecutor`: storage, administration, and `executeArb` with its
calls to tokens and routers. What the other contracts do is a parameter: an
environment answers every call, may re-enter the administrative functions, and
moves its own world. Re-entered `executeArb` and `emergencyWithdraw` revert on
the entered status, so only administrative calls appear in an answer.

A computation that ends in a revert keeps the reason of the event emitted just
before it, although the chain discards the event with everything else.
-/

import Mathlib.Algebra.Ring.Nat
import Mathlib.Logic.Function.Basic
import ArbitrageBot.Library.Revertible

namespace ArbitrageBot.Contract

open Revertible

abbrev Address := BitVec 160
abbrev Bytes32 := BitVec 256
abbrev Bytes4 := BitVec 32
abbrev Bytes := List (BitVec 8)

def maxUint256 : Nat := 2 ^ 256 - 1

inductive Leg
  | first | second
deriving DecidableEq

abbrev Both (α : Type) := α × α

def Both.at {α : Type} (both : Both α) : Leg → α
  | .first => both.1
  | .second => both.2

structure SwapStep where
  router : Address
  tokenIn : Address
  tokenOut : Address
  poolId : Bytes32
  feeTier : BitVec 24
  /-- Zero means the full current amount. -/
  amountIn : Nat
  minAmountOut : Nat
  data : Bytes

structure RouteConfig where
  enabled : Bool := false
  startToken : Address := 0
  midToken : Address := 0
  routers : Both Address := (0, 0)
  poolIds : Both Bytes32 := (0, 0)
  feeTiers : Both (BitVec 24) := (0, 0)
  selectors : Both Bytes4 := (0, 0)

inductive ExecutorError
  | unauthorized
  | pausedError
  | invalidDeadline
  | invalidPath
  | notAllowlistedRouter (router : Address)
  | notAllowlistedToken (token : Address)
  | insufficientOutput (actual minExpected : Nat)
  | finalTokenMismatch
  | minProfitNotMet (finalAmount minFinal profit minProfit : Nat)
  | routerCallFailed (reason : Bytes)
  | routeNotRegistered (routeId : Bytes32)
  | routeValidationFailed (routeId : Bytes32) (step : Leg)
  | selectorNotAllowed (routeId : Bytes32) (step : Leg) (selector : Bytes4)
  | stepDataTooLarge (routeId : Bytes32) (step : Leg) (length : Nat)
  /-- A failed `require` with its message. -/
  | message (text : String)
  /-- Checked arithmetic, or a reply that does not decode. -/
  | panic
deriving DecidableEq

/-- A revert, with the reason emitted before it where the source emits one. -/
structure Revert where
  emitted : Option String
  error : ExecutorError
deriving DecidableEq

structure Storage where
  owner : Address
  paused : Bool := false
  allowlistedRouters : Address → Bool
  allowlistedTokens : Address → Bool
  routes : Bytes32 → RouteConfig := fun _ => {}
  /-- `_status` is `_ENTERED`. -/
  entered : Bool := false

def Storage.deploy (sender : Address) (routers tokens : List Address) : Storage :=
  { owner := sender
    allowlistedRouters := fun router => router ∈ routers
    allowlistedTokens := fun token => token ∈ tokens }

/-! ### Administration -/

inductive AdminCall
  | setAllowlistedRouter (router : Address) (allowed : Bool)
  | setAllowlistedToken (token : Address) (allowed : Bool)
  | registerRoute (routeId : Bytes32) (startToken midToken : Address) (routers : Both Address)
      (poolIds : Both Bytes32) (feeTiers : Both (BitVec 24)) (selectors : Both Bytes4)
      (enabled : Bool)
  | setRouteEnabled (routeId : Bytes32) (enabled : Bool)
  | pause
  | unpause
  | transferOwnership (newOwner : Address)

abbrev StorageExec := Exec Storage ExecutorError

def onlyOwner (sender : Address) : StorageExec Unit := do
  let storage ← get
  demand (sender = storage.owner) .unauthorized

def registerRoute (routeId : Bytes32) (startToken midToken : Address) (routers : Both Address)
    (poolIds : Both Bytes32) (feeTiers : Both (BitVec 24)) (selectors : Both Bytes4)
    (enabled : Bool) : StorageExec Unit := do
  let storage ← get
  demand (storage.allowlistedTokens startToken) (.notAllowlistedToken startToken)
  demand (storage.allowlistedTokens midToken) (.notAllowlistedToken midToken)
  demand (storage.allowlistedRouters routers.1) (.notAllowlistedRouter routers.1)
  demand (storage.allowlistedRouters routers.2) (.notAllowlistedRouter routers.2)
  demand (selectors.1 ≠ 0 && selectors.2 ≠ 0) (.message "zero-selector")
  set
    { storage with
      routes := Function.update storage.routes routeId
        { enabled, startToken, midToken, routers, poolIds, feeTiers, selectors } }

def setRouteEnabled (routeId : Bytes32) (enabled : Bool) : StorageExec Unit := do
  let storage ← get
  demand ((storage.routes routeId).startToken ≠ 0) (.routeNotRegistered routeId)
  set
    { storage with
      routes := Function.update storage.routes routeId { storage.routes routeId with enabled } }

def performAdmin : AdminCall → StorageExec Unit
  | .setAllowlistedRouter router allowed => do
      let storage ← get
      set { storage with
        allowlistedRouters := Function.update storage.allowlistedRouters router allowed }
  | .setAllowlistedToken token allowed => do
      let storage ← get
      set { storage with
        allowlistedTokens := Function.update storage.allowlistedTokens token allowed }
  | .registerRoute routeId startToken midToken routers poolIds feeTiers selectors enabled =>
      registerRoute routeId startToken midToken routers poolIds feeTiers selectors enabled
  | .setRouteEnabled routeId enabled => setRouteEnabled routeId enabled
  | .pause => do
      let storage ← get
      set { storage with paused := true }
  | .unpause => do
      let storage ← get
      set { storage with paused := false }
  | .transferOwnership newOwner => do
      demand (newOwner ≠ 0) (.message "zero-owner")
      let storage ← get
      set { storage with owner := newOwner }

/-- An administrative call by anyone; a reverted one changes nothing. -/
def Storage.administer (storage : Storage) (call : Address × AdminCall) : Storage :=
  match (do onlyOwner call.1; performAdmin call.2 : StorageExec Unit) storage with
  | .ok (_, after) => after
  | .error _ => storage

/-! ### Calls to other contracts -/

inductive OutCall
  | transferFrom (token source recipient : Address) (amount : Nat)
  | transfer (token recipient : Address) (amount : Nat)
  | approve (token spender : Address) (amount : Nat)
  | router (router : Address) (data : Bytes)
deriving DecidableEq

/-- What came of a call: whether it went through, the returned data, the administrative calls
made during it and the world after it. -/
structure Answer (ω : Type) where
  ok : Bool
  returned : Bytes
  admin : List (Address × AdminCall)
  world : ω

/-- Everything outside the executor. A balance is read by a static call, which can fail but
changes nothing. -/
structure Environment (ω κ : Type) where
  balanceOf : ω → Address → Address → Option Nat
  answer : Storage → ω → OutCall → Answer ω
  /-- What happens between two transactions on the executor. -/
  outside : κ → ω → ω

structure CallRecord (ω : Type) where
  call : OutCall
  storage : Storage
  world : ω

structure Machine (ω : Type) where
  storage : Storage
  world : ω
  calls : List (CallRecord ω) := []

section Executor

variable {ω κ : Type} (env : Environment ω κ) (executor : Address)

abbrev CallExec (ω : Type) := Exec (Machine ω) Revert

def revertWith (error : ExecutorError) : Revert := { emitted := none, error }

def emitAndRevert (reason : String) (error : ExecutorError) : Revert :=
  { emitted := some reason, error }

/-- `abi.decode(data, (bool))`, `none` where it reverts. -/
def decodeBool (data : Bytes) : Option Bool :=
  if data.length < 32 then none
  else if (data.take 31).all (fun byte => byte = 0) then
    match (data.drop 31).head? with
    | some byte => if byte = 0 then some false else if byte = 1 then some true else none
    | none => none
  else none

def Machine.answer (machine : Machine ω) (call : OutCall) : Answer ω :=
  env.answer machine.storage machine.world call

def Machine.record (machine : Machine ω) (call : OutCall) : CallRecord ω :=
  { call, storage := machine.storage, world := machine.world }

def Machine.after (machine : Machine ω) (call : OutCall) : Machine ω :=
  { storage := (machine.answer env call).admin.foldl Storage.administer machine.storage
    world := (machine.answer env call).world
    calls := machine.calls ++ [machine.record call] }

def callOut (call : OutCall) : CallExec ω (Answer ω) := do
  let machine ← get
  set (machine.after env call)
  return machine.answer env call

/-- The tail of the three `_safe…` functions: success, and nothing or `true` returned. -/
def safeCall (call : OutCall) (failure : String) : CallExec ω Unit := do
  let answer ← callOut env call
  demand answer.ok (revertWith (.message failure))
  demand (answer.returned = [] || (decodeBool answer.returned).isSome) (revertWith .panic)
  demand (answer.returned = [] || decodeBool answer.returned = some true)
    (revertWith (.message failure))

def safeTransferFrom (token source recipient : Address) (amount : Nat) : CallExec ω Unit :=
  safeCall env (.transferFrom token source recipient amount) "transferFrom failed"

def safeTransfer (token recipient : Address) (amount : Nat) : CallExec ω Unit :=
  safeCall env (.transfer token recipient amount) "transfer failed"

def safeApprove (token spender : Address) (amount : Nat) : CallExec ω Unit := do
  safeCall env (.approve token spender 0) "approve reset failed"
  safeCall env (.approve token spender amount) "approve failed"

def balanceOf (token account : Address) : CallExec ω Nat := do
  let machine ← get
  match env.balanceOf machine.world token account with
  | some balance => pure balance
  | none => throw (revertWith .panic)

def selector : Bytes → Bytes4
  | b0 :: b1 :: b2 :: b3 :: _ => b0 ++ b1 ++ b2 ++ b3
  | _ => 0

def validateStep (routeId : Bytes32) (cfg : RouteConfig) (step : SwapStep) (index : Leg) :
    CallExec ω Unit := do
  let expectedTokenIn := if index = .first then cfg.startToken else cfg.midToken
  let expectedTokenOut := if index = .first then cfg.midToken else cfg.startToken
  demand
    (step.router = cfg.routers.at index && step.tokenIn = expectedTokenIn &&
      step.tokenOut = expectedTokenOut && step.poolId = cfg.poolIds.at index &&
      step.feeTier = cfg.feeTiers.at index)
    (revertWith (.routeValidationFailed routeId index))
  demand (4 ≤ step.data.length) (revertWith (.message "bad-data"))
  demand (selector step.data = cfg.selectors.at index)
    (revertWith (.selectorNotAllowed routeId index (selector step.data)))

def maxStepDataBytes : Nat := 512

/-- `_executeStep`; the result is the token and the measured output. -/
def executeStep (routeId : Bytes32) (step : SwapStep) (index : Leg) (expectedTokenIn : Address)
    (currentAmount : Nat) : CallExec ω (Address × Nat) := do
  demand (step.data.length ≤ maxStepDataBytes)
    (revertWith (.stepDataTooLarge routeId index step.data.length))
  let machine ← get
  demand (machine.storage.allowlistedRouters step.router)
    (emitAndRevert "router_not_allowlisted" (.notAllowlistedRouter step.router))
  demand (machine.storage.allowlistedTokens step.tokenIn &&
      machine.storage.allowlistedTokens step.tokenOut)
    (emitAndRevert "token_not_allowlisted" (.notAllowlistedToken
      (if machine.storage.allowlistedTokens step.tokenIn then step.tokenOut else step.tokenIn)))
  demand (step.tokenIn = expectedTokenIn) (emitAndRevert "token_path_mismatch" .invalidPath)
  let amountIn := if step.amountIn = 0 then currentAmount else step.amountIn
  demand (amountIn ≤ currentAmount) (emitAndRevert "amount_in_exceeds_balance" .invalidPath)
  let beforeOut ← balanceOf env step.tokenOut executor
  safeApprove env step.tokenIn step.router amountIn
  let answer ← callOut env (.router step.router step.data)
  demand answer.ok (emitAndRevert "router_call_failed" (.routerCallFailed answer.returned))
  let afterOut ← balanceOf env step.tokenOut executor
  demand (beforeOut ≤ afterOut) (revertWith .panic)
  let outDelta := afterOut - beforeOut
  demand (step.minAmountOut ≤ outDelta)
    (emitAndRevert "leg_min_out_not_met" (.insufficientOutput outDelta step.minAmountOut))
  return (step.tokenOut, outDelta)

structure ArbCall where
  routeId : Bytes32
  startToken : Address
  initialAmount : Nat
  minAmountOutFinal : Nat
  minProfitAbsolute : Nat
  deadline : Nat
  steps : List SwapStep

structure ArbResult where
  finalAmount : Nat
  profit : Nat
deriving DecidableEq

/-- The modifiers `onlyOwner` and `nonReentrant`, then the status is entered. -/
def enter (sender : Address) : CallExec ω Unit := do
  let machine ← get
  demand (sender = machine.storage.owner) (revertWith .unauthorized)
  demand (!machine.storage.entered) (revertWith (.message "reentrant"))
  set { machine with storage := { machine.storage with entered := true } }

def leave : CallExec ω Unit := do
  let machine ← get
  set { machine with storage := { machine.storage with entered := false } }

def runLegs (sender : Address) (args : ArbCall) (first second : SwapStep) :
    CallExec ω ArbResult := do
  safeTransferFrom env args.startToken sender executor args.initialAmount
  let leg1 ← executeStep env executor args.routeId first .first args.startToken args.initialAmount
  let leg2 ← executeStep env executor args.routeId second .second leg1.1 leg1.2
  demand (leg2.1 = args.startToken) (emitAndRevert "final_token_mismatch" .finalTokenMismatch)
  let profit := if args.initialAmount < leg2.2 then leg2.2 - args.initialAmount else 0
  demand (args.minAmountOutFinal ≤ leg2.2 && args.minProfitAbsolute ≤ profit)
    (emitAndRevert "min_profit_not_met"
      (.minProfitNotMet leg2.2 args.minAmountOutFinal profit args.minProfitAbsolute))
  safeTransfer env args.startToken sender leg2.2
  return { finalAmount := leg2.2, profit }

def executeArb (sender : Address) (timestamp : Nat) (args : ArbCall) : CallExec ω ArbResult := do
  enter sender
  let machine ← get
  demand (!machine.storage.paused) (revertWith .pausedError)
  demand (timestamp ≤ args.deadline) (emitAndRevert "deadline_expired" .invalidDeadline)
  match args.steps with
  | [first, second] => do
      demand (machine.storage.allowlistedTokens args.startToken)
        (emitAndRevert "start_token_not_allowlisted" (.notAllowlistedToken args.startToken))
      let cfg := machine.storage.routes args.routeId
      demand (cfg.startToken ≠ 0 && cfg.enabled)
        (emitAndRevert "route_not_registered" (.routeNotRegistered args.routeId))
      demand (cfg.startToken = args.startToken)
        (emitAndRevert "route_start_mismatch" (.routeValidationFailed args.routeId .first))
      validateStep args.routeId cfg first .first
      validateStep args.routeId cfg second .second
      let result ← runLegs env executor sender args first second
      leave
      return result
  | _ => throw (emitAndRevert "invalid_steps_len" .invalidPath)

def emergencyWithdraw (sender token : Address) (amount : Nat) (recipient : Address) :
    CallExec ω Unit := do
  enter sender
  demand (recipient ≠ 0) (revertWith (.message "zero-to"))
  safeTransfer env token recipient amount
  leave

end Executor

/-! ### Transactions -/

structure Chain (ω : Type) where
  storage : Storage
  world : ω

inductive Tx (κ : Type)
  | administer (sender : Address) (call : AdminCall)
  | emergencyWithdraw (sender token : Address) (amount : Nat) (recipient : Address)
  | executeArb (sender : Address) (timestamp : Nat) (args : ArbCall)
  | outside (activity : κ)

section Transactions

variable {ω κ : Type} (env : Environment ω κ) (executor : Address)

/-- Commit a computation, or drop it and everything it did when it reverts. -/
def Chain.commit {α : Type} (chain : Chain ω) (body : CallExec ω α) : Chain ω :=
  match body { storage := chain.storage, world := chain.world } with
  | .ok (_, machine) => { storage := machine.storage, world := machine.world }
  | .error _ => chain

def Tx.apply (chain : Chain ω) : Tx κ → Chain ω
  | .administer sender call => { chain with storage := chain.storage.administer (sender, call) }
  | .emergencyWithdraw sender token amount recipient =>
      chain.commit (Contract.emergencyWithdraw env sender token amount recipient)
  | .executeArb sender timestamp args =>
      chain.commit (Contract.executeArb env executor sender timestamp args)
  | .outside activity => { chain with world := env.outside activity chain.world }

/-- Every transaction is included; a reverted one changes nothing. -/
def txStep (chain : Chain ω) (tx : Tx κ) : Option (Chain ω) := some (tx.apply env executor chain)

end Transactions

end ArbitrageBot.Contract
