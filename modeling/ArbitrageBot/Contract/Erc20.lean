/-
The executor among standard tokens: every token is a ledger with allowances,
and everybody but the executor acts as they like. A router answers a call with
token operations sent by others than the executor; it may keep a state of its
own from call to call. An allowlisted router that is itself one of the tokens
is left out: its call would act with the executor's own authority.
-/

import ArbitrageBot.Library.TokenLedger
import ArbitrageBot.Contract.Execution

namespace ArbitrageBot.Contract

open Revertible TokenLedger

abbrev TokenOp := Op Address Address

/-- All token ledgers, and whatever the rest of the chain remembers. -/
structure Tokens (η : Type) where
  ledgers : Ledgers Address Address
  hidden : η

/-- How a router answers. It never sends as the executor, so no token is called as a router. -/
structure RouterReply (executor : Address) (η : Type) where
  ok : Bool := true
  returned : Bytes := []
  admin : List (Address × AdminCall) := []
  ops : List TokenOp
  outsiders : ∀ op ∈ ops, op.sender ≠ executor
  hidden : η

abbrev RouterBehaviour (executor : Address) (η : Type) :=
  Storage → Tokens η → Address → Bytes → RouterReply executor η

/-- What the others do to the tokens between two transactions on the executor. -/
structure OutsideActivity (executor : Address) (η : Type) where
  ops : List TokenOp
  outsiders : ∀ op ∈ ops, op.sender ≠ executor
  hidden : η

def wordTrue : Bytes := List.replicate 31 0 ++ [1]

section Environment

variable {η : Type} (executor : Address)

def tokenAnswer (tokens : Tokens η) (moved : Option (Ledgers Address Address)) :
    Answer (Tokens η) :=
  match moved with
  | some ledgers =>
      { ok := true, returned := wordTrue, admin := [], world := { tokens with ledgers } }
  | none => { ok := false, returned := [], admin := [], world := tokens }

def routerAnswer (tokens : Tokens η) (reply : RouterReply executor η) : Answer (Tokens η) :=
  if reply.ok then
    { ok := true, returned := reply.returned, admin := reply.admin
      world :=
        { ledgers := performAll maxUint256 tokens.ledgers reply.ops, hidden := reply.hidden } }
  else { ok := false, returned := reply.returned, admin := [], world := tokens }

def erc20 (routers : RouterBehaviour executor η) :
    Environment (Tokens η) (OutsideActivity executor η) where
  balanceOf tokens token account := some (tokens.ledgers.balance token account)
  answer storage tokens
    | .transferFrom token source recipient amount =>
        tokenAnswer tokens
          (tokens.ledgers.transferFrom maxUint256 token executor source recipient amount)
    | .transfer token recipient amount =>
        tokenAnswer tokens (tokens.ledgers.transfer maxUint256 token executor recipient amount)
    | .approve token spender amount =>
        tokenAnswer tokens (some (tokens.ledgers.approve token executor spender amount))
    | .router router data => routerAnswer executor tokens (routers storage tokens router data)
  outside activity tokens :=
    { ledgers := performAll maxUint256 tokens.ledgers activity.ops, hidden := activity.hidden }

end Environment

section Ledgers

variable {η : Type} {executor : Address} {routers : RouterBehaviour executor η}
  {before : Machine (Tokens η)}

/-! ### What an accepted call did to the ledgers -/

theorem tokenAnswer_accepted {tokens : Tokens η} {moved : Option (Ledgers Address Address)}
    (accepted : (tokenAnswer tokens moved).accepted) :
    moved = some (tokenAnswer tokens moved).world.ledgers := by
  cases moved with
  | none => cases accepted.1
  | some ledgers => rfl

theorem after_transferFrom {token source recipient : Address} {amount : Nat}
    (accepted : (before.answer (erc20 executor routers)
      (.transferFrom token source recipient amount)).accepted) :
    before.world.ledgers.transferFrom maxUint256 token executor source recipient amount =
      some (before.after (erc20 executor routers)
        (.transferFrom token source recipient amount)).world.ledgers :=
  tokenAnswer_accepted accepted

theorem after_transfer {token recipient : Address} {amount : Nat}
    (accepted : (before.answer (erc20 executor routers)
      (.transfer token recipient amount)).accepted) :
    before.world.ledgers.transfer maxUint256 token executor recipient amount =
      some (before.after (erc20 executor routers)
        (.transfer token recipient amount)).world.ledgers :=
  tokenAnswer_accepted accepted

theorem after_transfer_allowance {token recipient : Address} {amount : Nat}
    (accepted : (before.answer (erc20 executor routers)
      (.transfer token recipient amount)).accepted) :
    (before.after (erc20 executor routers)
        (.transfer token recipient amount)).world.ledgers.allowance =
      before.world.ledgers.allowance :=
  move_allowance (transfer_inv (after_transfer accepted)).2

theorem after_approve (token spender : Address) (amount : Nat) :
    (before.after (erc20 executor routers) (.approve token spender amount)).world.ledgers =
      before.world.ledgers.approve token executor spender amount := rfl

theorem after_router {router : Address} {data : Bytes}
    (ok : (before.answer (erc20 executor routers) (.router router data)).ok = true) :
    (before.after (erc20 executor routers) (.router router data)).world.ledgers =
      performAll maxUint256 before.world.ledgers
        (routers before.storage before.world router data).ops := by
  unfold Machine.after
  simp only [Machine.answer, erc20, routerAnswer] at ok ⊢
  split at ok
  · rename_i went
    rw [if_pos went]
  · cases ok

/-! ### What a leg did to the ledgers -/

theorem approved_allowance (step : SwapStep) (currentAmount : Nat) (token owner spender : Address) :
    (approvedMachine (erc20 executor routers) step currentAmount
        before).world.ledgers.allowance token owner spender =
      if token = step.tokenIn ∧ owner = executor ∧ spender = step.router then
        step.amountOf currentAmount
      else before.world.ledgers.allowance token owner spender := by
  rw [approvedMachine, after_approve, approve_allowance, resetMachine, after_approve,
    approve_allowance]
  split <;> rfl

theorem LegRun.swapped_ledgers {step : SwapStep} {expectedTokenIn : Address}
    {currentAmount output : Nat}
    (leg : LegRun (erc20 executor routers) executor step expectedTokenIn currentAmount before
      output) :
    ∃ ops, (∀ op ∈ ops, op.sender ≠ executor) ∧
      (swappedMachine (erc20 executor routers) step currentAmount before).world.ledgers =
        performAll maxUint256 (approvedMachine (erc20 executor routers) step currentAmount
          before).world.ledgers ops :=
  ⟨_, (routers _ _ _ _).outsiders, after_router leg.swapped⟩

theorem LegRun.output_eq {step : SwapStep} {expectedTokenIn : Address}
    {currentAmount output : Nat}
    (leg : LegRun (erc20 executor routers) executor step expectedTokenIn currentAmount before
      output) :
    (swappedMachine (erc20 executor routers) step currentAmount before).world.ledgers.balance
        step.tokenOut executor =
      before.world.ledgers.balance step.tokenOut executor + output := by
  obtain ⟨beforeOut, afterOut, readBefore, readAfter, grown, rfl⟩ := leg.measured
  cases readBefore
  cases readAfter
  omega

theorem LegRun.allowance_le {step : SwapStep} {expectedTokenIn : Address}
    {currentAmount output : Nat}
    (leg : LegRun (erc20 executor routers) executor step expectedTokenIn currentAmount before
      output) {token spender : Address} (other : ¬(token = step.tokenIn ∧ spender = step.router)) :
    (swappedMachine (erc20 executor routers) step currentAmount before).world.ledgers.allowance
        token executor spender ≤ before.world.ledgers.allowance token executor spender := by
  obtain ⟨ops, outsiders, swapped⟩ := leg.swapped_ledgers
  have spent := performAll_allowance maxUint256 (approvedMachine (erc20 executor routers) step
    currentAmount before).world.ledgers outsiders token spender
  rw [approved_allowance, if_neg (fun same => other ⟨same.1, same.2.2⟩), ← swapped] at spent
  omega

/-- Where nobody else holds an allowance, the leg takes at most the approved amount. -/
theorem LegRun.balance_of_approved {step : SwapStep} {expectedTokenIn : Address}
    {currentAmount output : Nat}
    (leg : LegRun (erc20 executor routers) executor step expectedTokenIn currentAmount before
      output)
    (single : ∀ spender, spender ≠ step.router →
      before.world.ledgers.allowance step.tokenIn executor spender = 0) :
    before.world.ledgers.balance step.tokenIn executor ≤
      (swappedMachine (erc20 executor routers) step currentAmount before).world.ledgers.balance
        step.tokenIn executor + step.amountOf currentAmount := by
  obtain ⟨ops, outsiders, swapped⟩ := leg.swapped_ledgers
  have confined : ∀ spender, spender ≠ step.router →
      (approvedMachine (erc20 executor routers) step currentAmount
        before).world.ledgers.allowance step.tokenIn executor spender = 0 := by
    intro spender other
    rw [approved_allowance, if_neg (fun same => other same.2.2)]
    exact single spender other
  have bound := performAll_balance_of_single maxUint256 outsiders confined
  rw [approved_allowance, if_pos ⟨rfl, rfl, rfl⟩, ← swapped] at bound
  exact bound

end Ledgers

/-! ### A deployment to run things on -/

def scriptedRouters (executor : Address) (script : Address → List TokenOp) :
    RouterBehaviour executor Unit := fun _ _ router _ =>
  { ops := (script router).filter (fun op => op.sender ≠ executor)
    outsiders := by
      intro op member
      simpa using (List.mem_filter.mp member).2
    hidden := () }

namespace Sample

def executor : Address := 0xE
def owner : Address := 0xA
def usdc : Address := 0x1
def usdt : Address := 0x2
def ramses : Address := 0x10
def hybra : Address := 0x11

def registration : AdminCall :=
  .registerRoute 7 usdc usdt (ramses, hybra) (0, 0) (5, 5) (0x01020304, 0x01020304) true

def storage : Storage :=
  (Storage.deploy owner [ramses, hybra] [usdc, usdt]).administer (owner, registration)

def tokens : Tokens Unit where
  ledgers :=
    { balance := fun token account =>
        if token = usdc ∧ account = owner then 100
        else if account = ramses ∨ account = hybra then 1000 else 0
      allowance := fun token source spender =>
        if token = usdc ∧ source = owner ∧ spender = executor then 100 else 0
      totalSupply := fun _ => 2100 }
  hidden := ()

def script (pulled : Nat) (router : Address) : List TokenOp :=
  if router = ramses then
    [.transferFrom usdc ramses executor ramses pulled, .transfer usdt ramses executor 60]
  else [.transferFrom usdt hybra executor hybra 60, .transfer usdc hybra executor 120]

def step (router tokenIn tokenOut : Address) (amountIn : Nat) : SwapStep :=
  { router, tokenIn, tokenOut, poolId := 0, feeTier := 5, amountIn, minAmountOut := 1
    data := [1, 2, 3, 4] }

def arb (amountIn : Nat) : ArbCall :=
  { routeId := 7, startToken := usdc, initialAmount := 100, minAmountOutFinal := 100
    minProfitAbsolute := 10, deadline := 1000
    steps := [step ramses usdc usdt amountIn, step hybra usdt usdc 0] }

def execution (amountIn pulled : Nat) :
    Except Revert (ArbResult × Machine (Tokens Unit)) :=
  executeArb (erc20 executor (scriptedRouters executor (script pulled))) executor owner 0
    (arb amountIn) { storage, world := tokens }

end Sample

end ArbitrageBot.Contract
