/-
Computations with a state that end in a result or a revert, and the rules that
take such a computation apart: what a returned one went through, and which
reverts it can end in.
-/

import Mathlib.Init

namespace Revertible

/-- A state-passing computation that may revert with a reason. -/
abbrev Exec (σ ρ : Type) : Type → Type := StateT σ (Except ρ)

variable {σ ρ α β : Type}

def demand (condition : Bool) (revert : ρ) : Exec σ ρ Unit :=
  if condition then pure () else throw revert

theorem bind_ok {first : Exec σ ρ α} {next : α → Exec σ ρ β} {before : σ} {result : β × σ} :
    (first >>= next) before = .ok result ↔
      ∃ value middle, first before = .ok (value, middle) ∧ next value middle = .ok result := by
  change (first before >>= fun done => next done.1 done.2) = .ok result ↔ _
  cases first before with
  | error reason => simp [bind, Except.bind]
  | ok done =>
      obtain ⟨value, middle⟩ := done
      constructor
      · exact fun returned => ⟨value, middle, rfl, returned⟩
      · rintro ⟨_, _, ⟨⟩, returned⟩
        exact returned

theorem bind_error {first : Exec σ ρ α} {next : α → Exec σ ρ β} {before : σ} {reason : ρ} :
    (first >>= next) before = .error reason ↔
      first before = .error reason ∨
        ∃ value middle, first before = .ok (value, middle) ∧ next value middle = .error reason := by
  change (first before >>= fun done => next done.1 done.2) = .error reason ↔ _
  cases first before with
  | error other => simp [bind, Except.bind]
  | ok done =>
      obtain ⟨value, middle⟩ := done
      constructor
      · exact fun reverted => .inr ⟨value, middle, rfl, reverted⟩
      · rintro (⟨⟨⟩⟩ | ⟨_, _, ⟨⟩, reverted⟩)
        exact reverted

@[simp] theorem pure_ok {value : α} {before : σ} {result : α × σ} :
    (pure value : Exec σ ρ α) before = .ok result ↔ result = (value, before) := by
  change Except.ok (value, before) = Except.ok result ↔ _
  rw [Except.ok.injEq, eq_comm]

@[simp] theorem pure_error {value : α} {before : σ} {reason : ρ} :
    ¬ (pure value : Exec σ ρ α) before = .error reason := by
  rintro ⟨⟩

@[simp] theorem set_ok {before after : σ} {result : PUnit × σ} :
    (set after : Exec σ ρ PUnit) before = .ok result ↔ result = (⟨⟩, after) := by
  change Except.ok (PUnit.unit, after) = Except.ok result ↔ _
  rw [Except.ok.injEq, eq_comm]

@[simp] theorem set_error {before after : σ} {reason : ρ} :
    ¬ (set after : Exec σ ρ PUnit) before = .error reason := by
  rintro ⟨⟩

@[simp] theorem throw_error {thrown reason : ρ} {before : σ} :
    (throw thrown : Exec σ ρ α) before = .error reason ↔ thrown = reason := by
  change Except.error thrown = Except.error reason ↔ _
  rw [Except.error.injEq]

@[simp] theorem throw_ok {thrown : ρ} {before : σ} {result : α × σ} :
    ¬ (throw thrown : Exec σ ρ α) before = .ok result := by
  rintro ⟨⟩

@[simp] theorem demand_ok {condition : Bool} {revert : ρ} {before : σ} {result : Unit × σ} :
    demand condition revert before = .ok result ↔ condition = true ∧ result = ((), before) := by
  unfold demand
  cases condition with
  | false => simp
  | true => simp

@[simp] theorem demand_error {condition : Bool} {revert reason : ρ} {before : σ} :
    demand condition revert before = .error reason ↔ condition = false ∧ revert = reason := by
  unfold demand
  cases condition with
  | false => simp
  | true => simp

/-! ### The rules for the steps that decide or read, in front of the rest -/

@[simp] theorem demand_bind_ok {condition : Bool} {revert : ρ} {next : Unit → Exec σ ρ β}
    {before : σ} {result : β × σ} :
    (demand condition revert >>= next) before = .ok result ↔
      condition = true ∧ next () before = .ok result := by
  cases condition with
  | false => simp [bind_ok]
  | true => exact ⟨fun returned => ⟨rfl, returned⟩, And.right⟩

@[simp] theorem demand_bind_error {condition : Bool} {revert reason : ρ}
    {next : Unit → Exec σ ρ β} {before : σ} :
    (demand condition revert >>= next) before = .error reason ↔
      condition = false ∧ revert = reason ∨ condition = true ∧ next () before = .error reason := by
  cases condition with
  | false => simp [bind_error]
  | true => exact ⟨fun reverted => .inr ⟨rfl, reverted⟩, by rintro (⟨⟨⟩, -⟩ | ⟨-, reverted⟩); exact reverted⟩

@[simp] theorem get_bind {next : σ → Exec σ ρ β} {before : σ} :
    ((get : Exec σ ρ σ) >>= next) before = next before before := rfl

end Revertible
