/-
Ordered checks that stop at the first one that fails. The verdict carries the
reason of that check and the outcomes recorded up to it; an admitted input has
passed every check. A check may also raise. Nothing here knows what is being
checked.
-/

import Mathlib.Data.List.Forall2
import ArbitrageBot.Library.Fallible

namespace GuardChain

structure Guard (ν ρ : Type*) where
  check : ν
  passes : Bool
  reason : ρ

variable {ν ρ : Type*}

/-- The check that decides a rejection. -/
def firstFailure (guards : List (Guard ν ρ)) : Option (Guard ν ρ) :=
  guards.find? (fun guard => !guard.passes)

/-- The outcomes written down before the verdict, the failing one included. -/
def recorded : List (Guard ν ρ) → List (ν × Bool)
  | [] => []
  | guard :: rest =>
      if guard.passes then (guard.check, true) :: recorded rest else [(guard.check, false)]

theorem firstFailure_eq_none {guards : List (Guard ν ρ)} :
    firstFailure guards = none ↔ ∀ guard ∈ guards, guard.passes = true := by
  simp [firstFailure, List.find?_eq_none]

theorem firstFailure_mem {guards : List (Guard ν ρ)} {guard : Guard ν ρ}
    (found : firstFailure guards = some guard) : guard ∈ guards ∧ guard.passes = false := by
  constructor
  · exact List.mem_of_find?_eq_some found
  · simpa using List.find?_some found

theorem firstFailure_append_of_fails {first second : List (Guard ν ρ)} {guard : Guard ν ρ}
    (member : guard ∈ first) (fails : guard.passes = false) :
    firstFailure (first ++ second) = firstFailure first := by
  obtain ⟨decisive, found⟩ : ∃ decisive, firstFailure first = some decisive := by
    cases found : firstFailure first with
    | none =>
        have passes := firstFailure_eq_none.mp found guard member
        rw [fails] at passes
        cases passes
    | some decisive => exact ⟨decisive, rfl⟩
  unfold firstFailure at found ⊢
  rw [List.find?_append, found, Option.some_or]

theorem recorded_append_of_fails {first second : List (Guard ν ρ)} {guard : Guard ν ρ}
    (member : guard ∈ first) (fails : guard.passes = false) :
    recorded (first ++ second) = recorded first := by
  induction first with
  | nil => cases member
  | cons head rest ih =>
      rw [List.cons_append, recorded, recorded]
      cases passes : head.passes with
      | false => rfl
      | true =>
          rcases List.mem_cons.mp member with rfl | later
          · rw [passes] at fails
            cases fails
          · rw [ih later]

/-- A reason that only one check gives: it decides when all before it passed and it did not. -/
theorem firstFailure_reason_iff {front rest : List (Guard ν ρ)} {guard : Guard ν ρ}
    (before : ∀ other ∈ front, other.reason ≠ guard.reason)
    (behind : ∀ other ∈ rest, other.reason ≠ guard.reason) :
    (firstFailure (front ++ guard :: rest)).map Guard.reason = some guard.reason ↔
      (∀ other ∈ front, other.passes = true) ∧ guard.passes = false := by
  constructor
  · intro decided
    obtain ⟨decisive, found, same⟩ := Option.map_eq_some_iff.mp decided
    have fails := (firstFailure_mem found).2
    have member : decisive = guard := by
      rcases List.mem_append.mp (firstFailure_mem found).1 with early | late
      · exact absurd same (before decisive early)
      · rcases List.mem_cons.mp late with here | later
        · exact here
        · exact absurd same (behind decisive later)
    subst member
    refine ⟨fun other early => ?_, fails⟩
    by_contra stops
    rw [firstFailure_append_of_fails early (Bool.eq_false_iff.mpr stops)] at found
    exact before decisive (firstFailure_mem found).1 rfl
  · rintro ⟨passes, fails⟩
    have none := firstFailure_eq_none.mpr passes
    unfold firstFailure at none ⊢
    rw [List.find?_append, none, Option.none_or, List.find?_cons_of_pos (by simp [fails])]
    rfl

/-- The second chain lets through, check by check, whatever the first does. -/
def Eased (first second : List (Guard ν ρ)) : Prop :=
  List.Forall₂ (fun before after => before.passes = true → after.passes = true) first second

theorem Eased.refl (guards : List (Guard ν ρ)) : Eased guards guards :=
  List.forall₂_same.mpr fun _guard _member passed => passed

theorem Eased.append {first second third fourth : List (Guard ν ρ)} (front : Eased first second)
    (back : Eased third fourth) : Eased (first ++ third) (second ++ fourth) :=
  List.rel_append front back

theorem Eased.passes {first second : List (Guard ν ρ)} (eased : Eased first second)
    (passed : ∀ guard ∈ first, guard.passes = true) : ∀ guard ∈ second, guard.passes = true := by
  induction eased with
  | nil => exact passed
  | cons easier _rest ih =>
      rw [List.forall_mem_cons] at passed ⊢
      exact ⟨easier passed.1, ih passed.2⟩

/-! ### Checks that may raise -/

section Raising

variable {ε ρ : Type}

/-- The first refusal, unless a check before it raises. -/
def firstRefusal : List (Except ε (Option ρ)) → Except ε (Option ρ)
  | [] => .ok none
  | check :: rest => do
      match ← check with
      | some refusal => return some refusal
      | none => firstRefusal rest

theorem firstRefusal_eq_none {checks : List (Except ε (Option ρ))} :
    firstRefusal checks = .ok none ↔ ∀ check ∈ checks, check = .ok none := by
  induction checks with
  | nil => simp [firstRefusal]
  | cons check rest ih =>
      rw [List.forall_mem_cons, ← ih]
      constructor
      · intro passed
        obtain ⟨refusal, asked, passed⟩ := Fallible.bind_eq_ok.mp passed
        cases refusal with
        | some refusal => cases passed
        | none => exact ⟨asked, passed⟩
      · intro passed
        rw [firstRefusal, passed.1]
        exact passed.2

/-- A check passes exactly when its test answers no. -/
def refuseIf (test : Except ε Bool) (refusal : ρ) : Except ε (Option ρ) := do
  if ← test then return some refusal else return none

theorem refuseIf_eq_none {test : Except ε Bool} {refusal : ρ} :
    refuseIf test refusal = .ok none ↔ test = .ok false := by
  cases test with
  | error reason => simp [refuseIf, bind, Except.bind]
  | ok answer => cases answer <;> simp [refuseIf, bind, Except.bind, pure, Except.pure]

end Raising

end GuardChain
