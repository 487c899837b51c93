/-
How far sums in a decimal context stray from the exact ones. Sizes are counted in units of one
decimal place and errors in roundings, of half a unit each. Sums of whole units are not rounded.
-/

import ArbitrageBot.Library.PythonDecimal

namespace PythonDecimal

open DecimalContext Fallible

namespace Decimal

/-- `kept` stands for `exact`. -/
structure Estimate (place : Int) (whole : Prop) (units roundings : Nat) (exact kept : Rat) :
    Prop where
  size : |kept| ≤ units * 10 ^ place
  near : |kept - exact| ≤ roundings * (10 ^ place / 2)
  multiple : whole → ∃ count : Int, kept = count * 10 ^ place
  same : whole → kept = exact

def rational : Decimal → Rat
  | finite value => value
  | infinity _ | nan _ => 0

def Estimates (place : Int) (whole : Prop) (units roundings : Nat) (exact : Rat)
    (value : Decimal) : Prop :=
  ∃ kept, value = finite kept ∧ Estimate place whole units roundings exact kept

/-- The units of a place that a value comes to, the last one begun. -/
def unitsAt (place : Int) : Decimal → Nat
  | finite value => ⌈|value| / 10 ^ place⌉₊
  | infinity _ | nan _ => 0

section Estimates

variable {place : Int} {whole : Prop} {units more roundings others : Nat}
  {exact next kept : Rat} {first second result : Decimal}

theorem Estimate.zero : Estimate place whole 0 0 0 0 :=
  { size := by simp
    near := by simp
    multiple := fun _ => ⟨0, by simp⟩
    same := fun _ => rfl }

theorem Estimates.zero : Estimates place whole 0 0 0 0 := ⟨0, rfl, Estimate.zero⟩

theorem estimates_self {value : Rat}
    (multiple : whole → ∃ count : Int, value = count * 10 ^ place) :
    Estimates place whole (unitsAt place (finite value)) 0 value (finite value) := by
  refine ⟨value, rfl, ?_, by simp, multiple, fun _ => rfl⟩
  exact (div_le_iff₀ (pow_pos_rat place)).mp (Nat.le_ceil _)

theorem Estimates.negated (estimates : Estimates place whole units roundings exact first) :
    Estimates place whole units roundings (-exact) first.negated := by
  obtain ⟨kept, rfl, estimate⟩ := estimates
  refine ⟨-kept, rfl, by rw [abs_neg]; exact estimate.size, ?_, ?_, ?_⟩
  · rw [← neg_sub', abs_neg]
    exact estimate.near
  · intro whole
    obtain ⟨count, same⟩ := estimate.multiple whole
    exact ⟨-count, by rw [same, Int.cast_neg, neg_mul]⟩
  · intro whole
    rw [estimate.same whole]

/-- One rounding more, where the units are few enough for the context. -/
theorem Estimate.settle (estimate : Estimate place whole units roundings exact kept)
    (above : context.etiny ≤ place) (few : units ≤ 10 ^ 28)
    (ok : Decimal.settle kept = .ok result) :
    Estimates place whole units (roundings + 1) exact result := by
  obtain ⟨-, rfl⟩ := settle_eq_ok.mp ok
  have most : (units : Rat) ≤ 10 ^ 28 := by exact_mod_cast few
  have largest : context.Representable (units * 10 ^ place) :=
    ⟨units, place, above, by rw [Nat.abs_cast]; exact_mod_cast few, by simp⟩
  have sized : |kept| ≤ 10 ^ (context.precision + place : Int) := by
    refine estimate.size.trans ?_
    rw [zpow_add₀ (by norm_num), zpow_natCast]
    exact mul_le_mul_of_nonneg_right most (pow_pos_rat place).le
  have rounding := Context.rounded_near above sized
  have unrounded : whole → context.rounded kept = kept := by
    intro whole
    obtain ⟨count, same⟩ := estimate.multiple whole
    refine Context.Representable.rounded ⟨count, place, above, ?_, same⟩
    have size := estimate.size
    rw [same, abs_mul, abs_of_pos (pow_pos_rat place)] at size
    have counted := le_of_mul_le_mul_right size (pow_pos_rat place)
    exact_mod_cast counted.trans most
  refine ⟨context.rounded kept, rfl, Context.abs_rounded_le largest estimate.size, ?_, ?_, ?_⟩
  · calc |context.rounded kept - exact|
        ≤ |context.rounded kept - kept| + |kept - exact| := abs_sub_le _ _ _
      _ ≤ 10 ^ place / 2 + roundings * (10 ^ place / 2) := add_le_add rounding estimate.near
      _ = (roundings + 1 : Nat) * (10 ^ place / 2) := by push_cast; ring
  · intro whole
    rw [unrounded whole]
    exact estimate.multiple whole
  · intro whole
    rw [unrounded whole]
    exact estimate.same whole

theorem Estimates.add (left : Estimates place whole units roundings exact first)
    (right : Estimates place whole more others next second) (above : context.etiny ≤ place)
    (few : units + more ≤ 10 ^ 28) (ok : first.add second = .ok result) :
    Estimates place whole (units + more) (roundings + others + 1) (exact + next) result := by
  obtain ⟨kept, rfl, estimate⟩ := left
  obtain ⟨other, rfl, estimateOther⟩ := right
  refine Estimate.settle ⟨?_, ?_, ?_, ?_⟩ above few ok
  · calc |kept + other| ≤ |kept| + |other| := abs_add_le _ _
      _ ≤ units * 10 ^ place + more * 10 ^ place := add_le_add estimate.size estimateOther.size
      _ = (units + more : Nat) * 10 ^ place := by push_cast; ring
  · calc |kept + other - (exact + next)|
        = |(kept - exact) + (other - next)| := by ring_nf
      _ ≤ |kept - exact| + |other - next| := abs_add_le _ _
      _ ≤ roundings * (10 ^ place / 2) + others * (10 ^ place / 2) :=
        add_le_add estimate.near estimateOther.near
      _ = (roundings + others : Nat) * (10 ^ place / 2) := by push_cast; ring
  · intro whole
    obtain ⟨count, same⟩ := estimate.multiple whole
    obtain ⟨others, sameOther⟩ := estimateOther.multiple whole
    exact ⟨count + others, by rw [same, sameOther]; push_cast; ring⟩
  · intro whole
    rw [estimate.same whole, estimateOther.same whole]

theorem Estimates.sub (left : Estimates place whole units roundings exact first)
    (right : Estimates place whole more others next second) (above : context.etiny ≤ place)
    (few : units + more ≤ 10 ^ 28) (ok : first.sub second = .ok result) :
    Estimates place whole (units + more) (roundings + others + 1) (exact - next) result := by
  rw [sub_eq_add_neg]
  exact left.add right.negated above few ok

/-- A sum of estimates, from the left. -/
theorem Estimates.foldlM {α : Type} {items : List α} {value : α → Decimal} {size : α → Nat}
    {meant : α → Rat} {start final : Decimal}
    (each : ∀ item ∈ items, Estimates place whole (size item) others (meant item) (value item))
    (above : context.etiny ≤ place) (few : units + (items.map size).sum ≤ 10 ^ 28)
    (begun : Estimates place whole units roundings exact start)
    (ok : (items.map value).foldlM Decimal.add start = .ok final) :
    Estimates place whole (units + (items.map size).sum)
      (roundings + items.length * (others + 1)) (exact + (items.map meant).sum) final := by
  induction items generalizing start units roundings exact with
  | nil =>
      cases ok
      simpa using begun
  | cons item rest ih =>
      rw [List.map_cons, List.foldlM_cons] at ok
      obtain ⟨sum, added, ok⟩ := bind_eq_ok.mp ok
      rw [List.map_cons, List.sum_cons, ← Nat.add_assoc] at few
      have here := begun.add (each item List.mem_cons_self) above (by omega) added
      have all := ih (fun other member => each other (List.mem_cons_of_mem item member)) few here ok
      simp only [List.map_cons, List.sum_cons, List.length_cons]
      have counted : roundings + others + 1 + rest.length * (others + 1) =
          roundings + (rest.length + 1) * (others + 1) := by ring
      rwa [counted, Nat.add_assoc, add_assoc] at all

theorem Estimates.near (estimates : Estimates place whole units roundings exact first) :
    |first.rational - exact| ≤ roundings * (10 ^ place / 2) := by
  obtain ⟨kept, rfl, estimate⟩ := estimates
  exact estimate.near

/-- What estimates something else estimates itself without error. -/
theorem Estimates.itself (estimates : Estimates place whole units roundings exact (finite kept)) :
    Estimates place whole units 0 kept (finite kept) := by
  obtain ⟨_, same, estimate⟩ := estimates
  cases same
  exact ⟨kept, rfl, estimate.size, by simp, estimate.multiple, fun _ => rfl⟩

theorem Estimates.same (estimates : Estimates place whole units roundings exact first)
    (all : whole) : first.rational = exact := by
  obtain ⟨kept, rfl, estimate⟩ := estimates
  exact estimate.same all

end Estimates

/-! ### Finite results -/

section Finite

variable {first second : Decimal} {value : Rat}

theorem finite_of_add (ok : first.add second = .ok (finite value)) :
    (∃ left, first = finite left) ∧ ∃ right, second = finite right := by
  rcases first with _ | _ | (_ | _) <;> rcases second with _ | _ | (_ | _) <;>
    grind [add, invalidOperation]

theorem finite_of_sub (ok : first.sub second = .ok (finite value)) :
    (∃ left, first = finite left) ∧ ∃ right, second = finite right := by
  obtain ⟨left, right, same⟩ := finite_of_add ok
  cases second with
  | finite right => exact ⟨left, right, rfl⟩
  | infinity _ => cases same
  | nan _ => cases same

theorem finite_of_foldlM {values : List Decimal} {start : Decimal}
    (ok : values.foldlM add start = .ok (finite value)) :
    (∃ first, start = finite first) ∧ ∀ item ∈ values, ∃ kept, item = finite kept := by
  induction values generalizing start with
  | nil =>
      cases ok
      exact ⟨⟨value, rfl⟩, by simp⟩
  | cons item rest ih =>
      rw [List.foldlM_cons] at ok
      obtain ⟨sum, added, ok⟩ := bind_eq_ok.mp ok
      obtain ⟨⟨kept, rfl⟩, others⟩ := ih ok
      obtain ⟨start, here⟩ := finite_of_add added
      exact ⟨start, List.forall_mem_cons.mpr ⟨here, others⟩⟩

end Finite

end Decimal

end PythonDecimal
