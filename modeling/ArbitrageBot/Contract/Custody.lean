/-
Custody over whole runs. The executor approves a router before each leg and
never takes an approval back, so what a router leaves unpulled it can pull
later. As long as every router pulls all it was approved, no allowance is ever
out between transactions and only the owner's transactions can take tokens.
-/

import ArbitrageBot.Library.Transition
import ArbitrageBot.Contract.Conservation

namespace ArbitrageBot.Contract

open Revertible Transition TokenLedger

section Custody

variable {η : Type} {executor : Address} {routers : RouterBehaviour executor η}

abbrev TokenTx (executor : Address) (η : Type) := Tx (OutsideActivity executor η)

def NoAllowances (executor : Address) (ledgers : Ledgers Address Address) : Prop :=
  ∀ token, NoAllowance executor token ledgers

/-- In a recorded router call, the router pulls exactly what it is approved for. -/
def PullsInFull (routers : RouterBehaviour executor η) (record : CallRecord (Tokens η)) : Prop :=
  ∀ router data, record.call = .router router data → ∀ token,
    drawnAll maxUint256 record.world.ledgers
        (routers record.storage record.world router data).ops token executor router =
      record.world.ledgers.allowance token executor router

/-- Every router call of the transaction pulls in full, when the transaction returns. -/
def FullPulls (routers : RouterBehaviour executor η) (chain : Chain (Tokens η)) :
    TokenTx executor η → Prop
  | .executeArb sender timestamp args => ∀ result after,
      executeArb (erc20 executor routers) executor sender timestamp args
          { storage := chain.storage, world := chain.world } = .ok (result, after) →
        ∀ record ∈ after.calls, PullsInFull routers record
  | _ => True

/-- A transaction of the owner that may spend, and that returned. -/
def OwnerSpends (routers : RouterBehaviour executor η) (chain : Chain (Tokens η)) :
    TokenTx executor η → Prop
  | .executeArb sender timestamp args => sender = chain.storage.owner ∧
      ∃ result after, executeArb (erc20 executor routers) executor sender timestamp args
        { storage := chain.storage, world := chain.world } = .ok (result, after)
  | .emergencyWithdraw sender token amount recipient => sender = chain.storage.owner ∧
      ∃ result after, emergencyWithdraw (erc20 executor routers) sender token amount recipient
        { storage := chain.storage, world := chain.world } = .ok (result, after)
  | _ => False

theorem allowance_of_pullsInFull {called : Machine (Tokens η)} {router : Address} {data : Bytes}
    (ok : (called.answer (erc20 executor routers) (.router router data)).ok = true)
    (full : PullsInFull routers (called.record (.router router data))) (token : Address) :
    (called.after (erc20 executor routers) (.router router data)).world.ledgers.allowance token
      executor router = 0 := by
  have spent := performAll_allowance maxUint256 called.world.ledgers
    (routers called.storage called.world router data).outsiders token router
  have pulled := full router data rfl token
  simp only [Machine.record] at pulled
  rw [after_router ok]
  omega

theorem legCalls_pullInFull {step : SwapStep} {currentAmount : Nat} {before : Machine (Tokens η)}
    (none : NoAllowances executor before.world.ledgers)
    (drawn : drawnAll maxUint256
        (approvedMachine (erc20 executor routers) step currentAmount before).world.ledgers
        (routers (approvedMachine (erc20 executor routers) step currentAmount before).storage
          (approvedMachine (erc20 executor routers) step currentAmount before).world step.router
          step.data).ops step.tokenIn executor step.router = step.amountOf currentAmount) :
    ∀ record ∈ legCalls (erc20 executor routers) step currentAmount before,
      PullsInFull routers record := by
  intro record member router data called token
  simp only [legCalls, List.mem_cons, List.not_mem_nil, or_false] at member
  rcases member with rfl | rfl | rfl
  · cases called
  · cases called
  · cases called
    have approved : (approvedMachine (erc20 executor routers) step currentAmount
        before).world.ledgers.allowance token executor step.router =
          if token = step.tokenIn ∧ executor = executor ∧ step.router = step.router then
            step.amountOf currentAmount
          else before.world.ledgers.allowance token executor step.router :=
      approved_allowance step currentAmount token executor step.router
    have spent := performAll_allowance maxUint256
      (approvedMachine (erc20 executor routers) step currentAmount before).world.ledgers
      (routers (approvedMachine (erc20 executor routers) step currentAmount before).storage
        (approvedMachine (erc20 executor routers) step currentAmount before).world step.router
        step.data).outsiders token step.router
    simp only [Machine.record]
    by_cases sold : token = step.tokenIn
    · subst sold
      rw [if_pos ⟨rfl, rfl, rfl⟩] at approved
      exact drawn.trans approved.symm
    · rw [if_neg (fun same => sold same.1), none token step.router] at approved
      omega

theorem LegRun.noAllowances {step : SwapStep} {expectedTokenIn : Address}
    {currentAmount output : Nat} {before : Machine (Tokens η)}
    (leg : LegRun (erc20 executor routers) executor step expectedTokenIn currentAmount before
      output) (none : NoAllowances executor before.world.ledgers)
    (full : ∀ record ∈ legCalls (erc20 executor routers) step currentAmount before,
      PullsInFull routers record) :
    NoAllowances executor
      (swappedMachine (erc20 executor routers) step currentAmount before).world.ledgers := by
  intro token spender
  by_cases own : token = step.tokenIn ∧ spender = step.router
  · obtain ⟨rfl, rfl⟩ := own
    exact allowance_of_pullsInFull leg.swapped (full _ (by simp [legCalls])) step.tokenIn
  · have bound := leg.allowance_le own
    rw [none token spender] at bound
    exact Nat.le_zero.mp bound

theorem ArbRun.noAllowances {sender : Address} {args : ArbCall} {before after : Machine (Tokens η)}
    {first second : SwapStep} {output : Nat} {result : ArbResult}
    (run : ArbRun (erc20 executor routers) executor sender args before first second output result
      after) (none : NoAllowances executor before.world.ledgers)
    (full : ∀ record ∈ after.calls, PullsInFull routers record) :
    NoAllowances executor after.world.ledgers := by
  have funded : NoAllowances executor
      (fundedMachine (erc20 executor routers) executor sender args before).world.ledgers :=
    fun token => run.funded_noAllowance (none token)
  have afterLeg1 := run.leg1.noAllowances funded (fun record member => full record (by
    rw [run.calls]
    simp [member]))
  have afterLeg2 := run.leg2.noAllowances afterLeg1 (fun record member => full record (by
    rw [run.calls]
    simp [member]))
  intro token spender
  rw [run.after_eq, Machine.leave, after_transfer_allowance run.paid]
  exact afterLeg2 token spender

theorem noAllowances_step {before after : Chain (Tokens η)} {tx : TokenTx executor η}
    (none : NoAllowances executor before.world.ledgers) (full : FullPulls routers before tx)
    (taken : txStep (erc20 executor routers) executor before tx = some after) :
    NoAllowances executor after.world.ledgers := by
  cases taken
  cases tx with
  | administer sender call => exact none
  | outside activity =>
      intro token spender
      have spent := performAll_allowance maxUint256 before.world.ledgers activity.outsiders token
        spender
      rw [none token spender] at spent
      exact Nat.eq_zero_of_add_eq_zero_right spent
  | emergencyWithdraw sender token amount recipient =>
      rcases commit_cases before (emergencyWithdraw (erc20 executor routers) sender token amount
        recipient) with same | ⟨result, machine, returned, committed⟩
      · rw [Tx.apply, same]
        exact none
      · rw [Tx.apply, committed]
        obtain ⟨-, paid, rfl⟩ := emergencyWithdraw_ok returned
        intro other spender
        simp only [Machine.leave]
        rw [after_transfer_allowance paid]
        exact none other spender
  | executeArb sender timestamp args =>
      rcases commit_cases before (executeArb (erc20 executor routers) executor sender timestamp
        args) with same | ⟨result, machine, returned, committed⟩
      · rw [Tx.apply, same]
        exact none
      · rw [Tx.apply, committed]
        obtain ⟨first, second, output, run⟩ := executeArb_ok returned
        exact run.noAllowances none (full result machine returned)

theorem ownerSpends_of_decrease {before after : Chain (Tokens η)} {tx : TokenTx executor η}
    (none : NoAllowances executor before.world.ledgers)
    (taken : txStep (erc20 executor routers) executor before tx = some after) {token : Address}
    (less : after.world.ledgers.balance token executor <
      before.world.ledgers.balance token executor) : OwnerSpends routers before tx := by
  cases taken
  cases tx with
  | administer sender call => exact absurd less (lt_irrefl _)
  | outside activity =>
      exact absurd less
        (not_lt.mpr (performAll_balance_of_none maxUint256 activity.outsiders (none token)))
  | emergencyWithdraw sender paid amount recipient =>
      rcases commit_cases before (emergencyWithdraw (erc20 executor routers) sender paid amount
        recipient) with same | ⟨result, machine, returned, -⟩
      · rw [Tx.apply, same] at less
        exact absurd less (lt_irrefl _)
      · exact ⟨(emergencyWithdraw_ok returned).1, result, machine, returned⟩
  | executeArb sender timestamp args =>
      rcases commit_cases before (executeArb (erc20 executor routers) executor sender timestamp
        args) with same | ⟨result, machine, returned, -⟩
      · rw [Tx.apply, same] at less
        exact absurd less (lt_irrefl _)
      · obtain ⟨first, second, output, run⟩ := executeArb_ok returned
        exact ⟨run.owner, result, machine, returned⟩

end Custody

/-- In every run from deployment whose routers pull in full, no allowance of the executor is out
after any transaction, and its balances fall only in spending transactions of the owner. -/
theorem custody_of_fullPulls {η : Type} (executor deployer : Address)
    (routers : RouterBehaviour executor η) (routerList tokenList : List Address)
    (tokens : Tokens η) (fresh : NoAllowances executor tokens.ledgers)
    (trace : List (Chain (Tokens η) × TokenTx executor η)) (chain : Chain (Tokens η))
    (run : Reaches (txStep (erc20 executor routers) executor) (FullPulls routers)
      { storage := .deploy deployer routerList tokenList, world := tokens } trace chain) :
    (∀ token spender, chain.world.ledgers.allowance token executor spender = 0) ∧
      ∀ tx after, txStep (erc20 executor routers) executor chain tx = some after →
        ∀ token, after.world.ledgers.balance token executor <
          chain.world.ledgers.balance token executor → OwnerSpends routers chain tx := by
  have none : NoAllowances executor chain.world.ledgers :=
    run.invariant fresh (fun _ _ _ held full taken => noAllowances_step held full taken)
  exact ⟨none, fun _ _ taken _ less => ownerSpends_of_decrease none taken less⟩

/-! ### A router that leaves something unpulled -/

namespace Sample

def lazyRouters : RouterBehaviour executor Unit := scriptedRouters executor (script 50)

def deployed : Chain (Tokens Unit) :=
  { storage := .deploy owner [ramses, hybra] [usdc, usdt], world := tokens }

def registered : Chain (Tokens Unit) := { storage, world := tokens }

def executed : Chain (Tokens Unit) :=
  Tx.apply (erc20 executor lazyRouters) executor registered (.executeArb owner 0 (arb 60))

def comeback : OutsideActivity executor Unit where
  ops := [.transferFrom usdc ramses executor ramses 10]
  outsiders := by decide
  hidden := ()

end Sample

/-- The owner's execution returns with an allowance of 10 left, and the router later takes the 10
in a transaction that the owner has no part in. -/
theorem leftover_allowance_drains :
    (∃ trace, Reaches (txStep (erc20 Sample.executor Sample.lazyRouters) Sample.executor) anyStep
        Sample.deployed trace Sample.executed) ∧
      NoAllowances Sample.executor Sample.deployed.world.ledgers ∧
      Sample.executed.world.ledgers.allowance Sample.usdc Sample.executor Sample.ramses = 10 ∧
      (∃ after, txStep (erc20 Sample.executor Sample.lazyRouters) Sample.executor Sample.executed
          (.outside Sample.comeback) = some after ∧
        after.world.ledgers.balance Sample.usdc Sample.executor <
          Sample.executed.world.ledgers.balance Sample.usdc Sample.executor) ∧
      ¬ OwnerSpends Sample.lazyRouters Sample.executed (.outside Sample.comeback) := by
  have register : txStep (erc20 Sample.executor Sample.lazyRouters) Sample.executor
      Sample.deployed (.administer Sample.owner Sample.registration) =
      some Sample.registered := rfl
  have execute : txStep (erc20 Sample.executor Sample.lazyRouters) Sample.executor
      Sample.registered (.executeArb Sample.owner 0 (Sample.arb 60)) = some Sample.executed := rfl
  refine ⟨⟨_, .snoc (.snoc .refl trivial register) trivial execute⟩, Sample.noAllowance, ?_,
    ⟨_, rfl, ?_⟩, not_false⟩
  · decide +kernel
  · decide +kernel

namespace Sample

def promptRouters : RouterBehaviour executor Unit := scriptedRouters executor (script 60)

def traded : Chain (Tokens Unit) :=
  Tx.apply (erc20 executor promptRouters) executor registered (.executeArb owner 0 (arb 60))

def tradeFunded : Machine (Tokens Unit) :=
  fundedMachine (erc20 executor promptRouters) executor owner (arb 60)
    { storage := registered.storage, world := registered.world }

def firstTraded : Machine (Tokens Unit) :=
  swappedMachine (erc20 executor promptRouters) (step ramses usdc usdt 60) 100 tradeFunded

theorem trade_fullPulls : FullPulls promptRouters registered (.executeArb owner 0 (arb 60)) := by
  intro result after returned
  obtain ⟨first, second, output, run⟩ := executeArb_ok returned
  obtain ⟨rfl, rfl⟩ : step ramses usdc usdt 60 = first ∧ step hybra usdt usdc 0 = second := by
    simpa [arb] using run.steps
  have funded : NoAllowances executor tradeFunded.world.ledgers :=
    fun token => run.funded_noAllowance (noAllowance token)
  have drawn1 : ∀ record ∈ legCalls (erc20 executor promptRouters) (step ramses usdc usdt 60) 100
      tradeFunded, PullsInFull promptRouters record :=
    legCalls_pullInFull funded (by decide +kernel)
  have received : output = 60 := by
    have gained : firstTraded.world.ledgers.balance usdt executor =
        tradeFunded.world.ledgers.balance usdt executor + output := run.leg1.output_eq
    have empty : tradeFunded.world.ledgers.balance usdt executor = 0 := by decide +kernel
    have filled : firstTraded.world.ledgers.balance usdt executor = 60 := by decide +kernel
    omega
  subst received
  have drawn2 : ∀ record ∈ legCalls (erc20 executor promptRouters) (step hybra usdt usdc 0) 60
      firstTraded, PullsInFull promptRouters record :=
    legCalls_pullInFull (run.leg1.noAllowances funded drawn1) (by decide +kernel)
  intro record member
  rw [run.calls] at member
  simp only [List.nil_append, List.mem_cons, List.mem_append, List.not_mem_nil, or_false] at member
  rcases member with rfl | (inFirst | inSecond) | rfl
  · intro router data called
    cases called
  · exact drawn1 record inFirst
  · exact drawn2 record inSecond
  · intro router data called
    cases called

end Sample

/-- After a trade that returned: both routers have pulled all of their 60, and 40 of the 100 that
the owner put in are left in the contract. -/
theorem custody_of_fullPulls_sample :
    (∃ machine, executeArb (erc20 Sample.executor Sample.promptRouters) Sample.executor Sample.owner
        0 (Sample.arb 60)
        { storage := Sample.registered.storage, world := Sample.registered.world } =
          .ok ({ finalAmount := 120, profit := 20 }, machine)) ∧
      Sample.traded.world.ledgers.balance Sample.usdc Sample.executor = 40 ∧
      (∀ token spender,
        Sample.traded.world.ledgers.allowance token Sample.executor spender = 0) ∧
      ∀ tx after, txStep (erc20 Sample.executor Sample.promptRouters) Sample.executor
          Sample.traded tx = some after →
        ∀ token, after.world.ledgers.balance token Sample.executor <
            Sample.traded.world.ledgers.balance token Sample.executor →
          OwnerSpends Sample.promptRouters Sample.traded tx := by
  have register : txStep (erc20 Sample.executor Sample.promptRouters) Sample.executor
      Sample.deployed (.administer Sample.owner Sample.registration) =
      some Sample.registered := rfl
  have trade : txStep (erc20 Sample.executor Sample.promptRouters) Sample.executor
      Sample.registered (.executeArb Sample.owner 0 (Sample.arb 60)) = some Sample.traded := rfl
  refine ⟨⟨_, rfl⟩, by decide +kernel, ?_⟩
  exact custody_of_fullPulls Sample.executor Sample.owner Sample.promptRouters
    [Sample.ramses, Sample.hybra] [Sample.usdc, Sample.usdt] Sample.tokens Sample.noAllowance _
    Sample.traded (.snoc (.snoc .refl (show FullPulls Sample.promptRouters Sample.deployed
      (.administer Sample.owner Sample.registration) from trivial) register)
      Sample.trade_fullPulls trade)

end ArbitrageBot.Contract
