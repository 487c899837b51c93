/-
Who holds the contract. Whatever tokens, routers and strangers do, its storage changes in
transactions of the owner only, it always has one, and no transaction leaves it entered; so the
owner can always take out what it holds.
-/

import ArbitrageBot.Contract.CallTrace
import ArbitrageBot.Contract.Custody

namespace ArbitrageBot.Contract

open Revertible TokenLedger Transition

variable {ω κ : Type} {env : Environment ω κ} {executor : Address}

def Tx.sender? : Tx κ → Option Address
  | .administer sender _ | .emergencyWithdraw sender _ _ _ | .executeArb sender _ _ => some sender
  | .outside _ => none

/-! ### Storage between transactions -/

def HasOwner (storage : Storage) : Prop := storage.owner ≠ 0

theorem performAdmin_owner {call : AdminCall} {before after : Storage}
    (performed : performAdmin call before = .ok ((), after)) (owned : HasOwner before) :
    HasOwner after := by
  cases call with
  | setAllowlistedRouter | setAllowlistedToken | pause | unpause =>
      simp only [performAdmin, get_bind, set_ok, Prod.mk.injEq] at performed
      rw [performed.2]
      exact owned
  | transferOwnership newOwner =>
      simp only [performAdmin, demand_bind_ok, get_bind, set_ok, Prod.mk.injEq,
        decide_eq_true_eq] at performed
      rw [performed.2.2]
      exact performed.1
  | registerRoute =>
      simp only [performAdmin, registerRoute, demand_bind_ok, get_bind, set_ok,
        Prod.mk.injEq] at performed
      obtain ⟨-, -, -, -, -, -, rfl⟩ := performed
      exact owned
  | setRouteEnabled =>
      simp only [performAdmin, setRouteEnabled, demand_bind_ok, get_bind, set_ok,
        Prod.mk.injEq] at performed
      obtain ⟨-, -, rfl⟩ := performed
      exact owned

theorem performAdmin_entered {call : AdminCall} {before after : Storage}
    (performed : performAdmin call before = .ok ((), after)) : after.entered = before.entered := by
  cases call with
  | setAllowlistedRouter | setAllowlistedToken | pause | unpause =>
      simp only [performAdmin, get_bind, set_ok, Prod.mk.injEq] at performed
      rw [performed.2]
  | transferOwnership =>
      simp only [performAdmin, demand_bind_ok, get_bind, set_ok, Prod.mk.injEq] at performed
      rw [performed.2.2]
  | registerRoute =>
      simp only [performAdmin, registerRoute, demand_bind_ok, get_bind, set_ok,
        Prod.mk.injEq] at performed
      obtain ⟨-, -, -, -, -, -, rfl⟩ := performed
      rfl
  | setRouteEnabled =>
      simp only [performAdmin, setRouteEnabled, demand_bind_ok, get_bind, set_ok,
        Prod.mk.injEq] at performed
      obtain ⟨-, -, rfl⟩ := performed
      rfl

theorem hasOwner_stable : AdminStable HasOwner := by
  refine ⟨?_, fun storage flag owned => owned⟩
  intro storage call owned
  rcases administer_cases storage call with same | performed
  · rw [same]
    exact owned
  · exact performAdmin_owner performed owned

theorem administer_entered (storage : Storage) (call : Address × AdminCall) :
    (storage.administer call).entered = storage.entered := by
  rcases administer_cases storage call with same | performed
  · rw [same]
  · exact performAdmin_entered performed

theorem txStep_entered {before after : Chain ω} {tx : Tx κ} (left : before.storage.entered = false)
    (taken : txStep env executor before tx = some after) : after.storage.entered = false := by
  cases taken
  cases tx with
  | administer sender call => exact (administer_entered _ _).trans left
  | outside activity => exact left
  | emergencyWithdraw sender token amount recipient =>
      rcases commit_cases before (emergencyWithdraw env sender token amount recipient) with
        same | ⟨result, machine, returned, committed⟩
      · rw [Tx.apply, same]
        exact left
      · rw [Tx.apply, committed]
        obtain ⟨-, -, rfl⟩ := emergencyWithdraw_ok returned
        rfl
  | executeArb sender timestamp args =>
      rcases commit_cases before (executeArb env executor sender timestamp args) with
        same | ⟨result, machine, returned, committed⟩
      · rw [Tx.apply, same]
        exact left
      · rw [Tx.apply, committed]
        obtain ⟨first, second, output, run⟩ := executeArb_ok returned
        rw [run.after_eq]
        rfl

theorem administer_of_stranger {storage : Storage} {sender : Address} (call : AdminCall)
    (stranger : sender ≠ storage.owner) : storage.administer (sender, call) = storage := by
  unfold Storage.administer
  split
  · rename_i result after returned
    rw [bind_ok] at returned
    obtain ⟨_, _, owner, -⟩ := returned
    simp only [onlyOwner, get_bind, demand_ok, decide_eq_true_eq] at owner
    exact absurd owner.1 stranger
  · rfl

/-- What is not sent by the owner leaves the storage as it is, whoever it calls on the way. -/
theorem txStep_of_stranger {before after : Chain ω} {tx : Tx κ}
    (stranger : tx.sender? ≠ some before.storage.owner)
    (taken : txStep env executor before tx = some after) : after.storage = before.storage := by
  cases taken
  cases tx with
  | administer sender call =>
      have other : sender ≠ before.storage.owner := fun same => stranger (congrArg some same)
      exact administer_of_stranger call other
  | outside activity => rfl
  | emergencyWithdraw sender token amount recipient =>
      rcases commit_cases before (emergencyWithdraw env sender token amount recipient) with
        same | ⟨result, machine, returned, -⟩
      · rw [Tx.apply, same]
      · have owner : sender = before.storage.owner := (emergencyWithdraw_ok returned).1
        exact absurd (congrArg some owner) stranger
  | executeArb sender timestamp args =>
      rcases commit_cases before (executeArb env executor sender timestamp args) with
        same | ⟨result, machine, returned, -⟩
      · rw [Tx.apply, same]
      · obtain ⟨first, second, output, run⟩ := executeArb_ok returned
        have owner : sender = before.storage.owner := run.owner
        exact absurd (congrArg some owner) stranger

/-- Storage of a contract that has been deployed. -/
structure Settled (storage : Storage) : Prop where
  owned : HasOwner storage
  left : storage.entered = false

theorem settled_of_reaches {deployer : Address} {routers tokens : List Address} {world : ω}
    {trace : List (Chain ω × Tx κ)} {chain : Chain ω} (known : deployer ≠ 0)
    (run : Reaches (txStep env executor) anyStep
      { storage := .deploy deployer routers tokens, world } trace chain) :
    Settled chain.storage := by
  have base : Settled (Storage.deploy deployer routers tokens) := ⟨known, rfl⟩
  refine @Reaches.invariant _ _ _ _ _ _ _ run (fun chain => Settled chain.storage) base ?_
  intro before tx after settled _ taken
  exact ⟨hasOwner_stable.txStep settled.owned taken, txStep_entered settled.left taken⟩

/-- At every point of every history, among whatever tokens and routers: there is an owner, nothing
is left entered, and a transaction that changes the storage is the owner's. -/
theorem storage_held_by_owner (env : Environment ω κ) (executor deployer : Address)
    (known : deployer ≠ 0) (routers tokens : List Address) (world : ω)
    (trace : List (Chain ω × Tx κ)) (chain : Chain ω)
    (run : Reaches (txStep env executor) anyStep
      { storage := .deploy deployer routers tokens, world } trace chain) :
    Settled chain.storage ∧
      ∀ tx after, txStep env executor chain tx = some after → after.storage ≠ chain.storage →
        tx.sender? = some chain.storage.owner := by
  refine ⟨settled_of_reaches known run, fun tx after taken changed => ?_⟩
  by_contra stranger
  exact changed (txStep_of_stranger stranger taken)

theorem storage_held_by_owner_sample :
    Settled Sample.registered.storage ∧
      ∀ tx after, txStep (erc20 Sample.executor Sample.lazyRouters) Sample.executor
          Sample.registered tx = some after → after.storage ≠ Sample.registered.storage →
        tx.sender? = some Sample.registered.storage.owner := by
  have register : txStep (erc20 Sample.executor Sample.lazyRouters) Sample.executor
      Sample.deployed (.administer Sample.owner Sample.registration) =
      some Sample.registered := rfl
  exact storage_held_by_owner (erc20 Sample.executor Sample.lazyRouters) Sample.executor
    Sample.owner (by decide) [Sample.ramses, Sample.hybra] [Sample.usdc, Sample.usdt] Sample.tokens
    _ Sample.registered (.snoc .refl trivial register)

/-! ### Taking the tokens out -/

theorem safeCall_run {call : OutCall} {failure : String} {before : Machine ω}
    (accepted : (before.answer env call).accepted) :
    safeCall env call failure before = .ok ((), before.after env call) := by
  obtain ⟨ok, returned⟩ := accepted
  rw [safeCall, bind_ok]
  refine ⟨_, _, callOut_run call, ?_⟩
  simp only [demand_bind_ok, demand_ok, and_true]
  refine ⟨ok, ?_⟩
  rcases returned with empty | decoded
  · simp [empty]
  · simp [decoded]

theorem enter_run {before : Machine ω} (left : before.storage.entered = false) :
    enter before.storage.owner before = .ok ((), before.enter) := by
  simp only [enter, get_bind, demand_bind_ok, set_ok, Prod.mk.injEq, decide_eq_true_eq]
  exact ⟨trivial, by rw [left]; rfl, trivial, rfl⟩

theorem emergencyWithdraw_run {before : Machine ω} {token recipient : Address} {amount : Nat}
    (left : before.storage.entered = false) (somebody : recipient ≠ 0)
    (accepted : (before.enter.answer env (.transfer token recipient amount)).accepted) :
    emergencyWithdraw env before.storage.owner token amount recipient before =
      .ok ((), (before.enter.after env (.transfer token recipient amount)).leave) := by
  rw [emergencyWithdraw, bind_ok]
  refine ⟨_, _, enter_run left, ?_⟩
  rw [demand_bind_ok, bind_ok]
  exact ⟨decide_eq_true somebody, _, _, safeCall_run accepted, rfl⟩

section Recovery

variable {η : Type} {routers : RouterBehaviour executor η}

theorem transfer_defined {ledgers : Ledgers Address Address} {token sender recipient : Address}
    {amount : Nat} (held : amount ≤ ledgers.balance token sender) (elsewhere : recipient ≠ sender)
    (fits : ledgers.balance token recipient + amount ≤ maxUint256) :
    ∃ after, ledgers.transfer maxUint256 token sender recipient amount = some after := by
  have credited : setCell ledgers.balance token sender (ledgers.balance token sender - amount)
      token recipient = ledgers.balance token recipient := by
    rw [setCell, if_neg fun same => elsewhere same.2]
  unfold Ledgers.transfer Ledgers.move
  dsimp only
  rw [if_pos held, credited, if_pos fits]
  exact ⟨_, rfl⟩

theorem wordTrue_decodes : decodeBool wordTrue = some true := by decide

theorem answer_transfer {before : Machine (Tokens η)} {token recipient : Address} {amount : Nat}
    {ledgers : Ledgers Address Address}
    (moved : before.world.ledgers.transfer maxUint256 token executor recipient amount =
      some ledgers) :
    before.answer (erc20 executor routers) (.transfer token recipient amount) =
      { ok := true, returned := wordTrue, admin := [], world := { before.world with ledgers } } := by
  simp only [Machine.answer, erc20, moved, tokenAnswer]

/-- Whatever routers and strangers have done since the deployment, paused or not: the owner can
take any part of what the contract holds of a token to anybody with room for it, and nothing else
changes. -/
theorem owner_recovers (executor deployer : Address) (routers : RouterBehaviour executor η)
    (known : deployer ≠ 0) (allowlist tokens : List Address) (world : Tokens η)
    (trace : List (Chain (Tokens η) × TokenTx executor η)) (chain : Chain (Tokens η))
    (run : Reaches (txStep (erc20 executor routers) executor) anyStep
      { storage := .deploy deployer allowlist tokens, world } trace chain)
    (token recipient : Address) (amount : Nat)
    (held : amount ≤ chain.world.ledgers.balance token executor) (somebody : recipient ≠ 0)
    (elsewhere : recipient ≠ executor)
    (fits : chain.world.ledgers.balance token recipient + amount ≤ maxUint256) :
    ∃ after, txStep (erc20 executor routers) executor chain
        (.emergencyWithdraw chain.storage.owner token amount recipient) = some after ∧
      after.storage = chain.storage ∧ after.world.hidden = chain.world.hidden ∧
      after.world.ledgers.allowance = chain.world.ledgers.allowance ∧
      ∀ other account, (after.world.ledgers.balance other account : ℤ) =
        chain.world.ledgers.balance other account
          + (if other = token ∧ account = recipient then (amount : ℤ) else 0)
          - (if other = token ∧ account = executor then (amount : ℤ) else 0) := by
  have settled : Settled chain.storage := settled_of_reaches known run
  obtain ⟨ledgers, moved⟩ := transfer_defined held elsewhere fits
  let before : Machine (Tokens η) := { storage := chain.storage, world := chain.world }
  have answered : before.enter.answer (erc20 executor routers) (.transfer token recipient amount) =
      { ok := true, returned := wordTrue, admin := [], world := { chain.world with ledgers } } :=
    answer_transfer moved
  have accepted :
      (before.enter.answer (erc20 executor routers) (.transfer token recipient amount)).accepted := by
    rw [answered]
    exact ⟨rfl, .inr wordTrue_decodes⟩
  have left : chain.storage.entered = false := settled.left
  have returned := emergencyWithdraw_run left somebody accepted
  refine ⟨_, rfl, ?_⟩
  rw [Tx.apply, Chain.commit, returned]
  simp only [Machine.leave, Machine.after, answered, List.foldl_nil]
  have restored : { before.enter.storage with entered := false } = chain.storage := by
    simp only [before, Machine.enter]
    rw [← left]
  refine ⟨restored, trivial, move_allowance (transfer_inv moved).2, ?_⟩
  intro other account
  exact move_balance (transfer_inv moved).2 held other account

end Recovery

/-- What the execution kept back is taken out to a wallet, although a router still holds an
allowance on it. -/
theorem owner_recovers_leftover :
    ∃ after, txStep (erc20 Sample.executor Sample.lazyRouters) Sample.executor Sample.executed
        (.emergencyWithdraw Sample.executed.storage.owner Sample.usdc 10 Sample.owner) = some after ∧
      after.storage = Sample.executed.storage ∧
      after.world.hidden = Sample.executed.world.hidden ∧
      after.world.ledgers.allowance = Sample.executed.world.ledgers.allowance ∧
      ∀ other account, (after.world.ledgers.balance other account : ℤ) =
        Sample.executed.world.ledgers.balance other account
          + (if other = Sample.usdc ∧ account = Sample.owner then ((10 : ℕ) : ℤ) else 0)
          - (if other = Sample.usdc ∧ account = Sample.executor then ((10 : ℕ) : ℤ) else 0) := by
  have register : txStep (erc20 Sample.executor Sample.lazyRouters) Sample.executor
      Sample.deployed (.administer Sample.owner Sample.registration) =
      some Sample.registered := rfl
  have execute : txStep (erc20 Sample.executor Sample.lazyRouters) Sample.executor
      Sample.registered (.executeArb Sample.owner 0 (Sample.arb 60)) = some Sample.executed := rfl
  exact owner_recovers Sample.executor Sample.owner Sample.lazyRouters (by decide)
    [Sample.ramses, Sample.hybra] [Sample.usdc, Sample.usdt] Sample.tokens _ Sample.executed
    (.snoc (.snoc .refl trivial register) trivial execute) Sample.usdc Sample.owner 10
    (by decide +kernel) (by decide) (by decide) (by decide +kernel)

end ArbitrageBot.Contract
