/-
Ledgers of fungible tokens with allowances, over any token and account types
and any cap on a balance. What is proved is what an outsider can do to a
holder: without an allowance nothing, and with allowances at most what they
grant, however many operations are tried and in whatever order.
-/

import Mathlib.Algebra.BigOperators.Group.Finset.Basic
import Mathlib.Algebra.Order.BigOperators.Group.Finset
import Mathlib.Data.List.Basic

namespace TokenLedger

/-- The tables of all tokens: allowances go from an owner to a spender. -/
structure Ledgers (τ α : Type*) where
  balance : τ → α → ℕ
  allowance : τ → α → α → ℕ
  totalSupply : τ → ℕ

inductive Op (τ α : Type*)
  | transfer (token : τ) (sender recipient : α) (amount : ℕ)
  | approve (token : τ) (sender spender : α) (amount : ℕ)
  | transferFrom (token : τ) (sender source recipient : α) (amount : ℕ)
  | mint (token : τ) (sender recipient : α) (amount : ℕ)

variable {τ α : Type*} [DecidableEq τ] [DecidableEq α]

def Op.sender : Op τ α → α
  | .transfer _ sender _ _ => sender
  | .approve _ sender _ _ => sender
  | .transferFrom _ sender _ _ _ => sender
  | .mint _ sender _ _ => sender

def setCell {κ ι : Type*} [DecidableEq κ] [DecidableEq ι] (table : κ → ι → ℕ) (row : κ) (column : ι)
    (value : ℕ) : κ → ι → ℕ :=
  fun key index => if key = row ∧ index = column then value else table key index

/-- Debit, then credit with an overflow check; `none` is a revert. -/
def Ledgers.move (cap : ℕ) (ledgers : Ledgers τ α) (token : τ) (source recipient : α) (amount : ℕ) :
    Option (Ledgers τ α) :=
  let debited := setCell ledgers.balance token source (ledgers.balance token source - amount)
  if debited token recipient + amount ≤ cap then
    some { ledgers with balance := setCell debited token recipient (debited token recipient + amount) }
  else none

def Ledgers.transfer (cap : ℕ) (ledgers : Ledgers τ α) (token : τ) (sender recipient : α) (amount : ℕ) :
    Option (Ledgers τ α) :=
  if amount ≤ ledgers.balance token sender then ledgers.move cap token sender recipient amount else none

def Ledgers.approve (ledgers : Ledgers τ α) (token : τ) (sender spender : α) (amount : ℕ) :
    Ledgers τ α :=
  { ledgers with
    allowance := Function.update ledgers.allowance token
      (setCell (ledgers.allowance token) sender spender amount) }

def Ledgers.transferFrom (cap : ℕ) (ledgers : Ledgers τ α) (token : τ) (sender source recipient : α)
    (amount : ℕ) : Option (Ledgers τ α) :=
  if amount ≤ ledgers.balance token source then
    if amount ≤ ledgers.allowance token source sender then
      (ledgers.approve token source sender (ledgers.allowance token source sender - amount)).move
        cap token source recipient amount
    else none
  else none

def Ledgers.mint (cap : ℕ) (ledgers : Ledgers τ α) (token : τ) (recipient : α) (amount : ℕ) :
    Option (Ledgers τ α) :=
  if ledgers.balance token recipient + amount ≤ cap ∧ ledgers.totalSupply token + amount ≤ cap then
    some
      { ledgers with
        balance := setCell ledgers.balance token recipient (ledgers.balance token recipient + amount)
        totalSupply := Function.update ledgers.totalSupply token (ledgers.totalSupply token + amount) }
  else none

def Op.apply (cap : ℕ) (ledgers : Ledgers τ α) : Op τ α → Option (Ledgers τ α)
  | .transfer token sender recipient amount => ledgers.transfer cap token sender recipient amount
  | .approve token sender spender amount => some (ledgers.approve token sender spender amount)
  | .transferFrom token sender source recipient amount => ledgers.transferFrom cap token sender source recipient amount
  | .mint token _ recipient amount => ledgers.mint cap token recipient amount

/-- A reverted operation leaves the ledgers as they were. -/
def perform (cap : ℕ) (ledgers : Ledgers τ α) (op : Op τ α) : Ledgers τ α :=
  (op.apply cap ledgers).getD ledgers

def performAll (cap : ℕ) (ledgers : Ledgers τ α) (ops : List (Op τ α)) : Ledgers τ α :=
  ops.foldl (perform cap) ledgers

@[simp] theorem performAll_nil (cap : ℕ) (ledgers : Ledgers τ α) :
    performAll cap ledgers [] = ledgers := rfl

@[simp] theorem performAll_cons (cap : ℕ) (ledgers : Ledgers τ α) (op : Op τ α)
    (rest : List (Op τ α)) :
    performAll cap ledgers (op :: rest) = performAll cap (perform cap ledgers op) rest := rfl

/-! ### Exact effects -/

theorem move_balance {cap : ℕ} {before after : Ledgers τ α} {token : τ} {source recipient : α}
    {amount : ℕ} (moved : before.move cap token source recipient amount = some after)
    (covered : amount ≤ before.balance token source) (other : τ) (account : α) :
    (after.balance other account : ℤ) = before.balance other account
      + (if other = token ∧ account = recipient then (amount : ℤ) else 0)
      - (if other = token ∧ account = source then (amount : ℤ) else 0) := by
  unfold Ledgers.move at moved
  simp only at moved
  split at moved
  · cases moved
    by_cases sameToken : other = token
    · subst sameToken
      by_cases atRecipient : account = recipient
      · subst atRecipient
        by_cases atSource : account = source
        · subst atSource
          simp only [setCell, and_self, if_true]
          omega
        · simp only [setCell, and_self, if_true, if_neg atSource, true_and]
          omega
      · by_cases atSource : account = source
        · subst atSource
          simp only [setCell, and_self, if_true, if_neg atRecipient, true_and]
          omega
        · simp only [setCell, true_and, if_neg atRecipient, if_neg atSource]
          omega
    · simp only [setCell, sameToken, false_and, if_false]
      omega
  · cases moved

theorem move_allowance {cap : ℕ} {before after : Ledgers τ α} {token : τ} {source recipient : α}
    {amount : ℕ} (moved : before.move cap token source recipient amount = some after) :
    after.allowance = before.allowance := by
  unfold Ledgers.move at moved
  simp only at moved
  split at moved
  · cases moved
    rfl
  · cases moved

theorem transfer_inv {cap : ℕ} {before after : Ledgers τ α} {token : τ} {sender recipient : α}
    {amount : ℕ} (done : before.transfer cap token sender recipient amount = some after) :
    amount ≤ before.balance token sender ∧
      before.move cap token sender recipient amount = some after := by
  unfold Ledgers.transfer at done
  split at done
  · exact ⟨‹_›, done⟩
  · cases done

theorem transferFrom_inv {cap : ℕ} {before after : Ledgers τ α} {token : τ}
    {sender source recipient : α} {amount : ℕ}
    (done : before.transferFrom cap token sender source recipient amount = some after) :
    amount ≤ before.balance token source ∧ amount ≤ before.allowance token source sender ∧
      (before.approve token source sender (before.allowance token source sender - amount)).move
        cap token source recipient amount = some after := by
  unfold Ledgers.transferFrom at done
  split at done
  · split at done
    · exact ⟨‹_›, ‹_›, done⟩
    · cases done
  · cases done

theorem mint_balance_le {cap : ℕ} {before after : Ledgers τ α} {token : τ} {recipient : α}
    {amount : ℕ} (done : before.mint cap token recipient amount = some after) (other : τ)
    (account : α) : before.balance other account ≤ after.balance other account := by
  unfold Ledgers.mint at done
  split at done
  · cases done
    simp only [setCell]
    split
    · rename_i same
      rw [same.1, same.2]
      omega
    · omega
  · cases done

theorem mint_allowance {cap : ℕ} {before after : Ledgers τ α} {token : τ} {recipient : α}
    {amount : ℕ} (done : before.mint cap token recipient amount = some after) :
    after.allowance = before.allowance := by
  unfold Ledgers.mint at done
  split at done
  · cases done
    rfl
  · cases done

theorem approve_allowance (ledgers : Ledgers τ α) (token : τ) (sender spender : α) (amount : ℕ)
    (other : τ) (owner account : α) :
    (ledgers.approve token sender spender amount).allowance other owner account =
      if other = token ∧ owner = sender ∧ account = spender then amount
      else ledgers.allowance other owner account := by
  by_cases sameToken : other = token
  · subst sameToken
    simp only [Ledgers.approve, Function.update_self, setCell, true_and]
  · simp only [Ledgers.approve, Function.update_of_ne sameToken, sameToken, false_and, if_false]

@[simp] theorem approve_balance (ledgers : Ledgers τ α) (token : τ) (sender spender : α)
    (amount : ℕ) : (ledgers.approve token sender spender amount).balance = ledgers.balance := rfl

/-! ### Strangers to an operation -/

def Op.parties : Op τ α → List α
  | .transfer _ sender recipient _ => [sender, recipient]
  | .approve .. => []
  | .transferFrom _ _ source recipient _ => [source, recipient]
  | .mint _ _ recipient _ => [recipient]

theorem move_balance_of_stranger {cap : ℕ} {before after : Ledgers τ α} {token : τ}
    {source recipient account : α} {amount : ℕ}
    (moved : before.move cap token source recipient amount = some after)
    (notSource : account ≠ source) (notRecipient : account ≠ recipient) (other : τ) :
    after.balance other account = before.balance other account := by
  unfold Ledgers.move at moved
  simp only at moved
  split at moved
  · cases moved
    simp only [setCell, notSource, notRecipient, and_false, if_false]
  · cases moved

theorem perform_balance_of_stranger (cap : ℕ) (ledgers : Ledgers τ α) {op : Op τ α} {account : α}
    (stranger : account ∉ op.parties) (token : τ) :
    (perform cap ledgers op).balance token account = ledgers.balance token account := by
  unfold perform
  cases done : op.apply cap ledgers with
  | none => rfl
  | some after =>
      rw [Option.getD_some]
      cases op with
      | transfer paid sender recipient amount =>
          simp only [Op.parties, List.mem_cons, List.not_mem_nil, or_false, not_or] at stranger
          exact move_balance_of_stranger (transfer_inv done).2 stranger.1 stranger.2 token
      | approve approved sender spender amount =>
          cases done
          rfl
      | transferFrom taken sender source recipient amount =>
          simp only [Op.parties, List.mem_cons, List.not_mem_nil, or_false, not_or] at stranger
          exact move_balance_of_stranger (transferFrom_inv done).2.2 stranger.1 stranger.2 token
      | mint minted sender recipient amount =>
          simp only [Op.parties, List.mem_singleton] at stranger
          simp only [Op.apply, Ledgers.mint] at done
          split at done
          · cases done
            simp only [setCell, stranger, and_false, if_false]
          · cases done

theorem performAll_balance_of_stranger (cap : ℕ) (ledgers : Ledgers τ α) {ops : List (Op τ α)}
    {account : α} (stranger : ∀ op ∈ ops, account ∉ op.parties) (token : τ) :
    (performAll cap ledgers ops).balance token account = ledgers.balance token account := by
  induction ops generalizing ledgers with
  | nil => rfl
  | cons op rest ih =>
      rw [performAll_cons, ih _ (fun later member => stranger later (List.mem_cons_of_mem op member))]
      exact perform_balance_of_stranger cap ledgers (stranger op List.mem_cons_self) token

/-! ### What an outsider can do to a holder -/

def drawn (cap : ℕ) (ledgers : Ledgers τ α) (op : Op τ α) (token : τ) (holder spender : α) : ℕ :=
  match op with
  | .transferFrom taken sender source recipient amount =>
      if taken = token ∧ sender = spender ∧ source = holder ∧
          (ledgers.transferFrom cap taken sender source recipient amount).isSome then amount else 0
  | _ => 0

/-- One operation of an outsider: every allowance of the holder shrinks by what was drawn on
it, and the balance by no more than the sender drew. -/
theorem perform_outsider (cap : ℕ) (ledgers : Ledgers τ α) {op : Op τ α} {holder : α}
    (outsider : op.sender ≠ holder) (token : τ) :
    (∀ spender, (perform cap ledgers op).allowance token holder spender +
        drawn cap ledgers op token holder spender = ledgers.allowance token holder spender) ∧
      ledgers.balance token holder ≤ (perform cap ledgers op).balance token holder +
        drawn cap ledgers op token holder op.sender := by
  cases op with
  | transfer paid sender recipient amount =>
      simp only [Op.sender] at outsider
      simp only [perform, Op.apply, drawn, Nat.add_zero]
      cases done : ledgers.transfer cap paid sender recipient amount with
      | none => simp
      | some after =>
          obtain ⟨covered, moved⟩ := transfer_inv done
          have exact := move_balance moved covered token holder
          have notSource : ¬(token = paid ∧ holder = sender) := fun same => outsider same.2.symm
          rw [if_neg notSource] at exact
          constructor
          · intro spender
            simp only [Option.getD_some, move_allowance moved]
          · simp only [Option.getD_some]
            split at exact <;> omega
  | approve approved sender spender amount =>
      simp only [Op.sender] at outsider
      simp only [perform, Op.apply, drawn, Nat.add_zero, Option.getD_some, approve_balance, le_refl,
        and_true]
      intro account
      rw [approve_allowance, if_neg (fun same => outsider same.2.1.symm)]
  | transferFrom taken sender source recipient amount =>
      simp only [perform, Op.apply, drawn, Op.sender]
      cases done : ledgers.transferFrom cap taken sender source recipient amount with
      | none => simp
      | some after =>
          obtain ⟨covered, granted, moved⟩ := transferFrom_inv done
          have exact := move_balance moved covered token holder
          rw [approve_balance] at exact
          simp only [Option.getD_some, Option.isSome_some, and_true, move_allowance moved,
            approve_allowance]
          constructor
          · intro spender
            by_cases drew : token = taken ∧ holder = source ∧ spender = sender
            · obtain ⟨rfl, rfl, rfl⟩ := drew
              simp only [and_self, if_true]
              omega
            · rw [if_neg drew, if_neg (fun same => drew ⟨same.1.symm, same.2.2.symm, same.2.1.symm⟩)]
              rfl
          · by_cases atHolder : token = taken ∧ holder = source
            · obtain ⟨rfl, rfl⟩ := atHolder
              simp only [and_self, if_true] at exact ⊢
              split at exact <;> omega
            · rw [if_neg atHolder] at exact
              split at exact <;> omega
  | mint minted sender recipient amount =>
      simp only [perform, Op.apply, drawn, Nat.add_zero]
      cases done : ledgers.mint cap minted recipient amount with
      | none => simp
      | some after =>
          simp only [Option.getD_some, mint_allowance done, implies_true, true_and]
          exact mint_balance_le done token holder

def drawnAll (cap : ℕ) : Ledgers τ α → List (Op τ α) → τ → α → α → ℕ
  | _, [], _, _, _ => 0
  | ledgers, op :: rest, token, holder, spender =>
      drawn cap ledgers op token holder spender +
        drawnAll cap (perform cap ledgers op) rest token holder spender

/-- Allowances are spent exactly: what is left is what was granted less what was drawn. -/
theorem performAll_allowance (cap : ℕ) (ledgers : Ledgers τ α) {ops : List (Op τ α)} {holder : α}
    (outsiders : ∀ op ∈ ops, op.sender ≠ holder) (token : τ) (spender : α) :
    (performAll cap ledgers ops).allowance token holder spender +
      drawnAll cap ledgers ops token holder spender = ledgers.allowance token holder spender := by
  induction ops generalizing ledgers with
  | nil => rfl
  | cons op rest ih =>
      have head := (perform_outsider cap ledgers
        (outsiders op List.mem_cons_self) token).1 spender
      have tail := ih (perform cap ledgers op)
        (fun later member => outsiders later (List.mem_cons_of_mem op member))
      simp only [performAll_cons, drawnAll]
      omega

/-- The balance falls by at most what the spenders in `granted` draw, when nobody else holds
an allowance. -/
theorem performAll_balance (cap : ℕ) {ledgers : Ledgers τ α} {ops : List (Op τ α)} {holder : α}
    (outsiders : ∀ op ∈ ops, op.sender ≠ holder) {token : τ} (granted : Finset α)
    (confined : ∀ spender, spender ∉ granted → ledgers.allowance token holder spender = 0) :
    ledgers.balance token holder ≤ (performAll cap ledgers ops).balance token holder +
      ∑ spender ∈ granted, drawnAll cap ledgers ops token holder spender := by
  induction ops generalizing ledgers with
  | nil => simp [drawnAll]
  | cons op rest ih =>
      obtain ⟨allowances, balance⟩ := perform_outsider cap ledgers
        (outsiders op List.mem_cons_self) token
      have stillConfined : ∀ spender, spender ∉ granted →
          (perform cap ledgers op).allowance token holder spender = 0 := by
        intro spender outside
        have spent := allowances spender
        rw [confined spender outside] at spent
        omega
      have tail := ih (fun later member => outsiders later (List.mem_cons_of_mem op member))
        stillConfined
      -- the sender of this operation draws nothing unless it holds an allowance
      have head : drawn cap ledgers op token holder op.sender ≤
          ∑ spender ∈ granted, drawn cap ledgers op token holder spender := by
        by_cases inside : op.sender ∈ granted
        · exact Finset.single_le_sum
            (fun spender _ => Nat.zero_le (drawn cap ledgers op token holder spender)) inside
        · have spent := allowances op.sender
          rw [confined op.sender inside] at spent
          omega
      simp only [performAll_cons, drawnAll, Finset.sum_add_distrib]
      omega

theorem performAll_balance_of_none (cap : ℕ) {ledgers : Ledgers τ α} {ops : List (Op τ α)}
    {holder : α} (outsiders : ∀ op ∈ ops, op.sender ≠ holder) {token : τ}
    (none : ∀ spender, ledgers.allowance token holder spender = 0) :
    ledgers.balance token holder ≤ (performAll cap ledgers ops).balance token holder := by
  simpa using performAll_balance cap outsiders ∅ (fun spender _ => none spender)

theorem performAll_balance_of_single (cap : ℕ) {ledgers : Ledgers τ α} {ops : List (Op τ α)}
    {holder : α} (outsiders : ∀ op ∈ ops, op.sender ≠ holder) {token : τ} {spender : α}
    (single : ∀ other, other ≠ spender → ledgers.allowance token holder other = 0) :
    ledgers.balance token holder ≤ (performAll cap ledgers ops).balance token holder +
      ledgers.allowance token holder spender := by
  have bound := performAll_balance cap outsiders {spender}
    (fun other outside => single other (Finset.notMem_singleton.mp outside))
  have spent := performAll_allowance cap ledgers outsiders token spender
  rw [Finset.sum_singleton] at bound
  omega

end TokenLedger
