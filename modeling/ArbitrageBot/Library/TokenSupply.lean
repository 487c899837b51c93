/-
Token ledgers whose balances are backed by the supply. Any accounts together hold at most the
total supply, every operation keeps it so, and then a transfer that is covered never overflows.
-/

import Mathlib.Algebra.BigOperators.Group.Finset.Piecewise
import Mathlib.Tactic.Ring
import ArbitrageBot.Library.TokenLedger

namespace TokenLedger

variable {τ α : Type*} [DecidableEq τ] [DecidableEq α] {cap : ℕ}

/-- What any accounts hold of a token was issued, and what was issued fits a balance. -/
structure Backed (cap : ℕ) (ledgers : Ledgers τ α) : Prop where
  capped : ∀ token, ledgers.totalSupply token ≤ cap
  issued : ∀ token (accounts : Finset α),
    ∑ account ∈ accounts, ledgers.balance token account ≤ ledgers.totalSupply token

/-! ### Keeping the balances backed -/

theorem move_totalSupply {before after : Ledgers τ α} {token : τ} {source recipient : α}
    {amount : ℕ} (moved : before.move cap token source recipient amount = some after) :
    after.totalSupply = before.totalSupply := by
  unfold Ledgers.move at moved
  dsimp only at moved
  split at moved
  · cases moved
    rfl
  · cases moved

/-- With its source and its recipient among the accounts, a move leaves the sum. -/
theorem move_sum {before after : Ledgers τ α} {token : τ} {source recipient : α} {amount : ℕ}
    (moved : before.move cap token source recipient amount = some after)
    (covered : amount ≤ before.balance token source) (other : τ) {accounts : Finset α}
    (sends : source ∈ accounts) (receives : recipient ∈ accounts) :
    ∑ account ∈ accounts, after.balance other account =
      ∑ account ∈ accounts, before.balance other account := by
  have flows : ∀ account, after.balance other account
        + (if account = source then (if other = token then amount else 0) else 0) =
      before.balance other account
        + (if account = recipient then (if other = token then amount else 0) else 0) := by
    intro account
    have exact := move_balance moved covered other account
    by_cases same : other = token
    · simp only [same, true_and, if_true] at exact ⊢
      by_cases atRecipient : account = recipient
      · by_cases atSource : account = source
        · simp only [if_pos atRecipient, if_pos atSource] at exact ⊢
          omega
        · simp only [if_pos atRecipient, if_neg atSource] at exact ⊢
          omega
      · by_cases atSource : account = source
        · simp only [if_neg atRecipient, if_pos atSource] at exact ⊢
          omega
        · simp only [if_neg atRecipient, if_neg atSource] at exact ⊢
          omega
    · simp only [same, false_and, if_false, ite_self] at exact ⊢
      omega
  have sums := Finset.sum_congr (rfl : accounts = accounts) (fun account _ => flows account)
  rw [Finset.sum_add_distrib, Finset.sum_add_distrib, Finset.sum_ite_eq', Finset.sum_ite_eq',
    if_pos sends, if_pos receives] at sums
  exact Nat.add_right_cancel sums

theorem Backed.move {before after : Ledgers τ α} {token : τ} {source recipient : α} {amount : ℕ}
    (backed : Backed cap before) (covered : amount ≤ before.balance token source)
    (moved : before.move cap token source recipient amount = some after) : Backed cap after := by
  refine ⟨fun other => (congrFun (move_totalSupply moved) other).trans_le (backed.capped other),
    fun other accounts => ?_⟩
  rw [move_totalSupply moved]
  have inside : accounts ⊆ insert source (insert recipient accounts) :=
    (Finset.subset_insert _ _).trans (Finset.subset_insert _ _)
  calc ∑ account ∈ accounts, after.balance other account
      ≤ ∑ account ∈ insert source (insert recipient accounts), after.balance other account :=
        Finset.sum_le_sum_of_subset inside
    _ = ∑ account ∈ insert source (insert recipient accounts), before.balance other account :=
        move_sum moved covered other (Finset.mem_insert_self _ _)
          (Finset.mem_insert_of_mem (Finset.mem_insert_self _ _))
    _ ≤ before.totalSupply other := backed.issued other _

theorem Backed.approve {ledgers : Ledgers τ α} (backed : Backed cap ledgers) (token : τ)
    (sender spender : α) (amount : ℕ) : Backed cap (ledgers.approve token sender spender amount) :=
  ⟨backed.capped, backed.issued⟩

theorem Backed.mint {before after : Ledgers τ α} {token : τ} {recipient : α} {amount : ℕ}
    (backed : Backed cap before) (minted : before.mint cap token recipient amount = some after) :
    Backed cap after := by
  unfold Ledgers.mint at minted
  split at minted
  case isFalse => cases minted
  case isTrue room =>
    cases minted
    refine ⟨fun other => ?_, fun other accounts => ?_⟩
    · by_cases same : other = token
      · subst same
        simpa only [Function.update_self] using room.2
      · simpa only [Function.update_of_ne same] using backed.capped other
    · by_cases same : other = token
      · subst same
        simp only [Function.update_self, setCell, true_and]
        have grown : ∀ account,
            (if account = recipient then before.balance other recipient + amount
              else before.balance other account) =
            before.balance other account + if account = recipient then amount else 0 := by
          intro account
          by_cases credited : account = recipient
          · subst credited
            simp only [if_true]
          · simp only [if_neg credited, Nat.add_zero]
        simp only [grown, Finset.sum_add_distrib, Finset.sum_ite_eq']
        have before_le := backed.issued other accounts
        split <;> omega
      · simp only [Function.update_of_ne same, setCell, same, false_and, if_false]
        exact backed.issued other accounts

theorem Backed.perform {ledgers : Ledgers τ α} (backed : Backed cap ledgers) (op : Op τ α) :
    Backed cap (perform cap ledgers op) := by
  unfold TokenLedger.perform
  cases done : op.apply cap ledgers with
  | none => exact backed
  | some after =>
      rw [Option.getD_some]
      cases op with
      | transfer token sender recipient amount =>
          exact backed.move (transfer_inv done).1 (transfer_inv done).2
      | approve token sender spender amount =>
          cases done
          exact backed.approve token sender spender amount
      | transferFrom token sender source recipient amount =>
          exact (backed.approve ..).move (transferFrom_inv done).1 (transferFrom_inv done).2.2
      | mint token sender recipient amount => exact backed.mint done

theorem Backed.performAll {ledgers : Ledgers τ α} (backed : Backed cap ledgers)
    (ops : List (Op τ α)) : Backed cap (performAll cap ledgers ops) := by
  induction ops generalizing ledgers with
  | nil => exact backed
  | cons op rest ih => exact ih (backed.perform op)

/-! ### What a payment moves -/

/-- What a payment adds to an account, below zero where it takes. -/
def flow (token : τ) (source recipient : α) (amount : ℕ) (other : τ) (account : α) : ℤ :=
  (if other = token ∧ account = recipient then (amount : ℤ) else 0)
    - (if other = token ∧ account = source then (amount : ℤ) else 0)

theorem flow_other {token other : τ} (different : other ≠ token) (source recipient account : α)
    (amount : ℕ) : flow token source recipient amount other account = 0 := by
  simp only [flow, different, false_and, if_false, sub_self]

theorem flow_stranger {source recipient account : α} (notSource : account ≠ source)
    (notRecipient : account ≠ recipient) (token other : τ) (amount : ℕ) :
    flow token source recipient amount other account = 0 := by
  simp only [flow, notSource, notRecipient, and_false, if_false, sub_self]

theorem flow_recipient {source recipient : α} (distinct : recipient ≠ source) (token : τ)
    (amount : ℕ) : flow token source recipient amount token recipient = amount := by
  simp only [flow, distinct, and_self, and_false, if_true, if_false, sub_zero]

theorem transfer_flow {before after : Ledgers τ α} {token : τ} {sender recipient : α} {amount : ℕ}
    (done : before.transfer cap token sender recipient amount = some after) (other : τ)
    (account : α) : (after.balance other account : ℤ) =
      before.balance other account + flow token sender recipient amount other account := by
  have exact := move_balance (transfer_inv done).2 (transfer_inv done).1 other account
  rw [flow, exact]
  ring

theorem transferFrom_flow {before after : Ledgers τ α} {token : τ} {sender source recipient : α}
    {amount : ℕ} (done : before.transferFrom cap token sender source recipient amount = some after)
    (other : τ) (account : α) : (after.balance other account : ℤ) =
      before.balance other account + flow token source recipient amount other account := by
  have exact := move_balance (transferFrom_inv done).2.2 (transferFrom_inv done).1 other account
  rw [flow, exact, approve_balance]
  ring

/-! ### What a covered transfer asks for -/

omit [DecidableEq τ] in
theorem Backed.pair {ledgers : Ledgers τ α} (backed : Backed cap ledgers) (token : τ)
    {one other : α} (distinct : one ≠ other) :
    ledgers.balance token one + ledgers.balance token other ≤ cap := by
  have both := backed.issued token {one, other}
  rw [Finset.sum_pair distinct] at both
  exact both.trans (backed.capped token)

omit [DecidableEq τ] [DecidableEq α] in
theorem Backed.single {ledgers : Ledgers τ α} (backed : Backed cap ledgers) (token : τ)
    (account : α) : ledgers.balance token account ≤ cap := by
  have one := backed.issued token {account}
  rw [Finset.sum_singleton] at one
  exact one.trans (backed.capped token)

theorem Backed.move_defined {ledgers : Ledgers τ α} (backed : Backed cap ledgers) {token : τ}
    {source recipient : α} {amount : ℕ} (covered : amount ≤ ledgers.balance token source) :
    ∃ after, ledgers.move cap token source recipient amount = some after := by
  unfold Ledgers.move
  dsimp only
  have room : setCell ledgers.balance token source (ledgers.balance token source - amount) token
      recipient + amount ≤ cap := by
    by_cases same : recipient = source
    · rw [setCell, if_pos ⟨rfl, same⟩, Nat.sub_add_cancel covered]
      exact backed.single token source
    · rw [setCell, if_neg fun both => same both.2]
      exact (Nat.add_le_add_left covered _).trans (backed.pair token same)
  rw [if_pos room]
  exact ⟨_, rfl⟩

theorem Backed.transfer_defined {ledgers : Ledgers τ α} (backed : Backed cap ledgers) {token : τ}
    {sender recipient : α} {amount : ℕ} (covered : amount ≤ ledgers.balance token sender) :
    ∃ after, ledgers.transfer cap token sender recipient amount = some after := by
  unfold Ledgers.transfer
  rw [if_pos covered]
  exact backed.move_defined covered

theorem Backed.transferFrom_defined {ledgers : Ledgers τ α} (backed : Backed cap ledgers)
    {token : τ} {sender source recipient : α} {amount : ℕ}
    (covered : amount ≤ ledgers.balance token source)
    (granted : amount ≤ ledgers.allowance token source sender) :
    ∃ after, ledgers.transferFrom cap token sender source recipient amount = some after := by
  unfold Ledgers.transferFrom
  rw [if_pos covered, if_pos granted]
  exact (backed.approve ..).move_defined covered

end TokenLedger
