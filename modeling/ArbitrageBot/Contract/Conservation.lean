/-
Conservation in one call: with no allowance out before it, a returned
`executeArb` leaves the executor at least what it held of the start and mid
tokens, and settles with the caller exactly, whatever the routers do.
-/

import Mathlib.Tactic.Linarith
import ArbitrageBot.Contract.Erc20

namespace ArbitrageBot.Contract

open Revertible TokenLedger

section Run

variable {η : Type} {executor : Address} {routers : RouterBehaviour executor η}
  {sender : Address} {args : ArbCall} {before after : Machine (Tokens η)}
  {first second : SwapStep} {output : Nat} {result : ArbResult}

def NoAllowance (executor token : Address) (ledgers : Ledgers Address Address) : Prop :=
  ∀ spender, ledgers.allowance token executor spender = 0

/-- The router calls among `calls` leave an account's balance of a token alone. -/
def RoutersLeaveAlone (routers : RouterBehaviour executor η)
    (calls : List (CallRecord (Tokens η))) (token account : Address) : Prop :=
  ∀ record ∈ calls, ∀ router data, record.call = .router router data →
    (performAll maxUint256 record.world.ledgers
      (routers record.storage record.world router data).ops).balance token account =
      record.world.ledgers.balance token account

theorem ArbRun.funded_balance
    (run : ArbRun (erc20 executor routers) executor sender args before first second output result
      after) (token account : Address) :
    ((fundedMachine (erc20 executor routers) executor sender args
        before).world.ledgers.balance token account : ℤ) =
      before.world.ledgers.balance token account
        + (if token = args.startToken ∧ account = executor then (args.initialAmount : ℤ) else 0)
        - (if token = args.startToken ∧ account = sender then (args.initialAmount : ℤ) else 0) := by
  obtain ⟨covered, -, moved⟩ := transferFrom_inv (after_transferFrom run.funded)
  exact move_balance moved covered token account

theorem ArbRun.funded_noAllowance
    (run : ArbRun (erc20 executor routers) executor sender args before first second output result
      after) {token : Address} (none : NoAllowance executor token before.world.ledgers) :
    NoAllowance executor token
      (fundedMachine (erc20 executor routers) executor sender args before).world.ledgers := by
  obtain ⟨-, -, moved⟩ := transferFrom_inv (after_transferFrom run.funded)
  intro spender
  rw [fundedMachine, move_allowance moved, approve_allowance]
  split
  · rename_i same
    obtain ⟨rfl, rfl, rfl⟩ := same
    change before.world.ledgers.allowance _ _ _ - _ = 0
    rw [none _, Nat.zero_sub]
  · exact none spender

theorem ArbRun.self_funding
    (run : ArbRun (erc20 executor routers) executor sender args before first second output result
      after) (none : NoAllowance executor args.startToken before.world.ledgers)
    (same : sender = executor) : args.initialAmount = 0 := by
  obtain ⟨-, granted, -⟩ := transferFrom_inv (after_transferFrom run.funded)
  rw [same] at granted
  exact Nat.le_zero.mp (granted.trans (none executor).le)

theorem ArbRun.paid_balance
    (run : ArbRun (erc20 executor routers) executor sender args before first second output result
      after) (token account : Address) :
    (after.world.ledgers.balance token account : ℤ) =
      (swappedMachine (erc20 executor routers) second output (swappedMachine
          (erc20 executor routers) first args.initialAmount (fundedMachine (erc20 executor routers)
            executor sender args before))).world.ledgers.balance token account
        + (if token = args.startToken ∧ account = sender then (result.finalAmount : ℤ) else 0)
        - (if token = args.startToken ∧ account = executor then (result.finalAmount : ℤ)
            else 0) := by
  obtain ⟨covered, moved⟩ := transfer_inv (after_transfer run.paid)
  rw [run.after_eq]
  exact move_balance moved covered token account

/-- Both legs together keep the start token: the second leg ends above where the first left it,
and the first took no more than the initial amount. -/
theorem ArbRun.executor_start
    (run : ArbRun (erc20 executor routers) executor sender args before first second output result
      after) (none : NoAllowance executor args.startToken before.world.ledgers) :
    before.world.ledgers.balance args.startToken executor ≤
      after.world.ledgers.balance args.startToken executor := by
  have funded := run.funded_balance args.startToken executor
  have paid := run.paid_balance args.startToken executor
  have gives : second.tokenOut = args.startToken := run.validSecond.tokenOut.trans run.start
  have grown2 := run.leg2.output_eq
  rw [gives] at grown2
  -- what the first leg took of the start token
  have taken1 := run.leg1.balance_of_approved
    (fun spender _ => by rw [run.leg1.path]; exact run.funded_noAllowance none spender)
  rw [run.leg1.path] at taken1
  have amount := run.leg1.amount
  by_cases same : sender = executor
  · have nothing := run.self_funding none same
    subst same
    simp only [and_self, if_true] at funded paid
    omega
  · simp only [true_and, if_true, Ne.symm same, if_false] at funded paid
    omega

theorem ArbRun.executor_mid
    (run : ArbRun (erc20 executor routers) executor sender args before first second output result
      after) (noneStart : NoAllowance executor args.startToken before.world.ledgers)
    (noneMid : NoAllowance executor first.tokenOut before.world.ledgers) :
    before.world.ledgers.balance first.tokenOut executor ≤
      after.world.ledgers.balance first.tokenOut executor := by
  by_cases equal : first.tokenOut = args.startToken
  · rw [equal]
    exact run.executor_start noneStart
  · have funded := run.funded_balance first.tokenOut executor
    have paid := run.paid_balance first.tokenOut executor
    simp only [equal, false_and, if_false] at funded paid
    have other : first.tokenOut ≠ first.tokenIn := by
      rw [run.leg1.path]
      exact equal
    have grown1 := run.leg1.output_eq
    -- nobody but the second router has an allowance on the mid token in the second leg
    have taken2 := run.leg2.balance_of_approved (fun spender _ => by
      rw [run.leg2.path]
      exact Nat.le_zero.mp ((run.leg1.allowance_le (fun same => other same.1)).trans
        (run.funded_noAllowance noneMid spender).le))
    rw [run.leg2.path] at taken2
    have amount := run.leg2.amount
    omega

theorem LegRun.balance_alone {step : SwapStep} {expectedTokenIn : Address}
    {currentAmount legOutput : Nat} {start : Machine (Tokens η)}
    (leg : LegRun (erc20 executor routers) executor step expectedTokenIn currentAmount start
      legOutput) {calls : List (CallRecord (Tokens η))} {token account : Address}
    (alone : RoutersLeaveAlone routers calls token account)
    (made : legCalls (erc20 executor routers) step currentAmount start ⊆ calls) :
    (swappedMachine (erc20 executor routers) step currentAmount start).world.ledgers.balance token
        account = start.world.ledgers.balance token account := by
  rw [swappedMachine, after_router leg.swapped]
  exact alone ((approvedMachine (erc20 executor routers) step currentAmount start).record
    (.router step.router step.data)) (made (by simp [legCalls])) step.router step.data rfl

theorem ArbRun.caller_balance
    (run : ArbRun (erc20 executor routers) executor sender args before first second output result
      after) (none : NoAllowance executor args.startToken before.world.ledgers)
    (alone : RoutersLeaveAlone routers after.calls args.startToken sender) :
    (after.world.ledgers.balance args.startToken sender : ℤ) =
      before.world.ledgers.balance args.startToken sender +
        (result.finalAmount - args.initialAmount) := by
  have funded := run.funded_balance args.startToken sender
  have paid := run.paid_balance args.startToken sender
  have alone1 := run.leg1.balance_alone alone (by
    rw [run.calls]
    intro record member
    simp [member])
  have alone2 := run.leg2.balance_alone alone (by
    rw [run.calls]
    intro record member
    simp [member])
  by_cases same : sender = executor
  · -- nothing came in and nothing moved, so nothing goes out
    have nothing := run.self_funding none same
    have grown2 := run.leg2.output_eq
    rw [run.validSecond.tokenOut.trans run.start] at grown2
    subst same
    simp only [and_self, if_true] at funded paid
    omega
  · simp only [true_and, if_true, same, if_false] at funded paid
    omega

end Run

/-- A returned `executeArb` that started with no allowance out on its two tokens, with routers
that do not touch the caller's start token: the executor loses neither token, the caller's balance
changes by the result exactly, and the result meets both thresholds. -/
theorem executeArb_conserves {η : Type} (executor : Address)
    (routers : RouterBehaviour executor η) (storage : Storage) (tokens : Tokens η)
    (sender : Address) (timestamp : Nat) (args : ArbCall) (result : ArbResult)
    (after : Machine (Tokens η))
    (noneStart : NoAllowance executor args.startToken tokens.ledgers)
    (noneMid : NoAllowance executor (storage.routes args.routeId).midToken tokens.ledgers)
    (returned : executeArb (erc20 executor routers) executor sender timestamp args
      { storage, world := tokens } = .ok (result, after))
    (alone : RoutersLeaveAlone routers after.calls args.startToken sender) :
    tokens.ledgers.balance args.startToken executor ≤
        after.world.ledgers.balance args.startToken executor ∧
      tokens.ledgers.balance (storage.routes args.routeId).midToken executor ≤
        after.world.ledgers.balance (storage.routes args.routeId).midToken executor ∧
      (after.world.ledgers.balance args.startToken sender : ℤ) =
        tokens.ledgers.balance args.startToken sender +
          (result.finalAmount - args.initialAmount) ∧
      args.minAmountOutFinal ≤ result.finalAmount ∧
      (args.minProfitAbsolute : ℤ) ≤ max ((result.finalAmount : ℤ) - args.initialAmount) 0 := by
  obtain ⟨first, second, output, run⟩ := executeArb_ok returned
  have mid : first.tokenOut = (storage.routes args.routeId).midToken := run.validFirst.tokenOut
  rw [← mid] at noneMid ⊢
  have enough := run.minProfit
  rw [run.profit] at enough
  exact ⟨run.executor_start noneStart, run.executor_mid noneStart noneMid,
    run.caller_balance noneStart alone, run.minFinal, by omega⟩

theorem Sample.noAllowance (token : Address) :
    NoAllowance Sample.executor token Sample.tokens.ledgers := by
  intro spender
  simp [Sample.tokens, Sample.executor, Sample.owner]

theorem Sample.script_leaves_owner {pulled : Nat} (calls : List (CallRecord (Tokens Unit))) :
    RoutersLeaveAlone (scriptedRouters Sample.executor (Sample.script pulled)) calls Sample.usdc
      Sample.owner := by
  intro record _member router data _call
  apply performAll_balance_of_stranger
  intro op listed
  have scripted := (List.mem_filter.mp listed).1
  unfold Sample.script at scripted
  split at scripted
  all_goals
    simp only [List.mem_cons, List.not_mem_nil, or_false] at scripted
    rcases scripted with rfl | rfl
    all_goals
      simp only [Op.parties]
      decide

theorem executeArb_conserves_partial_pull :
    ∃ result after, Sample.execution 60 50 = .ok (result, after) ∧
      0 ≤ after.world.ledgers.balance Sample.usdc Sample.executor ∧
      (after.world.ledgers.balance Sample.usdc Sample.owner : ℤ) =
        Sample.tokens.ledgers.balance Sample.usdc Sample.owner + (result.finalAmount - 100) ∧
      (10 : ℤ) ≤ max ((result.finalAmount : ℤ) - 100) 0 := by
  have returns : (Sample.execution 60 50).isOk = true := by decide +kernel
  cases executed : Sample.execution 60 50 with
  | error revert =>
      rw [executed] at returns
      cases returns
  | ok done =>
      obtain ⟨result, after⟩ := done
      obtain ⟨kept, -, settled, -, profit⟩ := executeArb_conserves Sample.executor
        (scriptedRouters Sample.executor (Sample.script 50)) Sample.storage Sample.tokens
        Sample.owner 0 (Sample.arb 60) result after (Sample.noAllowance _) (Sample.noAllowance _)
        executed (Sample.script_leaves_owner _)
      exact ⟨result, after, rfl, kept, settled, profit⟩

end ArbitrageBot.Contract
