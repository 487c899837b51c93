/-
Computations that can fail: what it says of the steps that a whole one returned.
-/

import Mathlib.Data.List.Induction

namespace Fallible

universe u v

section Bind

variable {ε : Type v} {α β : Type u} {call : Except ε α} {result : α}

theorem bind_eq_ok {next : α → Except ε β} {answer : β} :
    (call >>= next) = .ok answer ↔ ∃ result, call = .ok result ∧ next result = .ok answer := by
  cases call with
  | error reason => simp [bind, Except.bind]
  | ok result => simp [bind, Except.bind]

theorem ok_of_any {test : α → Bool} (any : call.toOption.any test = true) :
    ∃ result, call = .ok result ∧ test result = true := by
  cases call with
  | error reason => cases any
  | ok result => exact ⟨result, rfl, any⟩

def certified (call : Except ε α) : Except ε { result // call = .ok result } :=
  match call with
  | .ok result => .ok ⟨result, rfl⟩
  | .error reason => .error reason

end Bind

section Folds

variable {ε : Type v} {σ α : Type u} {step : σ → α → Except ε σ} {start final : σ}
  {items : List α} {item : α}

theorem foldlM_concat_eq_ok :
    (items ++ [item]).foldlM step start = .ok final ↔
      ∃ before, items.foldlM step start = .ok before ∧ step before item = .ok final := by
  rw [List.foldlM_append, bind_eq_ok]
  simp only [List.foldlM_cons, List.foldlM_nil, bind_pure]

end Folds

end Fallible
