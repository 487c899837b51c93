/-
Rounding a rational to the digits of a decimal context, ties to even: the last place that is kept
follows the size of the value, down to a smallest one. The rounding is monotone, leaves a value of
few enough digits as it is, and errs by half a last place at most.
-/

import Mathlib.Algebra.Order.Field.Rat
import Mathlib.Data.Int.Log
import Mathlib.Tactic.Ring
import ArbitrageBot.Library.DecimalRounding

namespace DecimalContext

open DecimalRounding

structure Context where
  precision : Nat
  emin : Int
  emax : Int
  positive : 0 < precision

/-! ### Rounding at a place -/

def roundAt (place : Int) (value : Rat) : Rat :=
  roundHalfEven (value / 10 ^ place) * 10 ^ place

section Place

variable {place : Int} {value lower upper : Rat}

theorem pow_pos_rat (place : Int) : (0 : Rat) < 10 ^ place := zpow_pos (by norm_num) place

theorem roundAt_mono (ordered : lower ≤ upper) : roundAt place lower ≤ roundAt place upper := by
  have scaled : lower / 10 ^ place ≤ upper / 10 ^ place :=
    div_le_div_of_nonneg_right ordered (pow_pos_rat place).le
  exact mul_le_mul_of_nonneg_right (Int.cast_le.mpr (roundHalfEven_mono scaled))
    (pow_pos_rat place).le

theorem roundAt_multiple (count place : Int) :
    roundAt place (count * 10 ^ place) = count * 10 ^ place := by
  rw [roundAt, mul_div_cancel_right₀ _ (pow_pos_rat place).ne', roundHalfEven_intCast]

theorem roundAt_near (place : Int) (value : Rat) :
    |roundAt place value - value| ≤ 10 ^ place / 2 := by
  have unit := pow_pos_rat place
  have apart : roundAt place value - value =
      ((roundHalfEven (value / 10 ^ place) : Rat) - value / 10 ^ place) * 10 ^ place := by
    rw [roundAt, sub_mul, div_mul_cancel₀ _ unit.ne']
  rw [apart, abs_mul, abs_of_pos unit]
  calc |(roundHalfEven (value / 10 ^ place) : Rat) - value / 10 ^ place| * 10 ^ place
      ≤ 1 / 2 * 10 ^ place := mul_le_mul_of_nonneg_right (roundHalfEven_near _) unit.le
    _ = 10 ^ place / 2 := by ring

theorem pow_eq_multiple {place higher : Int} (ordered : place ≤ higher) :
    ∃ count : Int, (10 : Rat) ^ higher = count * 10 ^ place := by
  refine ⟨10 ^ (higher - place).toNat, ?_⟩
  have split : higher = ((higher - place).toNat : Int) + place := by omega
  conv_lhs => rw [split, zpow_add₀ (by norm_num), zpow_natCast]
  push_cast
  rfl

theorem multiple_of_multiple {place higher : Int} (ordered : place ≤ higher) (count : Int) :
    ∃ more : Int, (count : Rat) * 10 ^ higher = more * 10 ^ place := by
  obtain ⟨factor, same⟩ := pow_eq_multiple ordered
  refine ⟨count * factor, ?_⟩
  rw [same]
  push_cast
  ring

end Place

/-! ### Rounding in a context -/

namespace Context

variable (context : Context)

/-- The last place of the smallest results. -/
def etiny : Int := context.emin - (context.precision - 1)

/-- The last place that is kept of a value. -/
def lastPlace (value : Rat) : Int :=
  max (Int.log 10 |value| - (context.precision - 1)) context.etiny

def rounded (value : Rat) : Rat := roundAt (context.lastPlace value) value

def overflows (value : Rat) : Bool :=
  context.rounded value ≠ 0 && context.emax < Int.log 10 |context.rounded value|

/-- A multiple of a place that is kept, of few enough digits. -/
def Representable (value : Rat) : Prop :=
  ∃ count place : Int, context.etiny ≤ place ∧ |count| ≤ 10 ^ context.precision ∧
    value = count * 10 ^ place

variable {context} {value lower upper : Rat}

theorem etiny_le_lastPlace (value : Rat) : context.etiny ≤ context.lastPlace value :=
  le_max_right _ _

theorem log_le_lastPlace (value : Rat) :
    Int.log 10 |value| + 1 ≤ context.lastPlace value + context.precision := by
  have kept : Int.log 10 |value| - (context.precision - 1) ≤ context.lastPlace value :=
    le_max_left _ _
  omega

theorem lt_pow_log (value : Rat) : |value| < 10 ^ (Int.log 10 |value| + 1) := by
  have below := Int.lt_zpow_succ_log_self (b := 10) (by norm_num) |value|
  exact_mod_cast below

theorem pow_log_le (some_ : value ≠ 0) : (10 : Rat) ^ Int.log 10 |value| ≤ |value| := by
  have above := Int.zpow_log_le_self (b := 10) (by norm_num) (abs_pos.mpr some_)
  exact_mod_cast above

theorem pow_mono {place higher : Int} (ordered : place ≤ higher) :
    (10 : Rat) ^ place ≤ 10 ^ higher :=
  zpow_le_zpow_right₀ (by norm_num) ordered

theorem rounded_zero : context.rounded 0 = 0 := by
  have multiple := roundAt_multiple 0 (context.lastPlace 0)
  rwa [Int.cast_zero, zero_mul] at multiple

/-- Rounding does not pass a multiple of the last place. -/
theorem rounded_le_multiple {count : Int} (below : value ≤ count * 10 ^ context.lastPlace value) :
    context.rounded value ≤ count * 10 ^ context.lastPlace value :=
  (roundAt_mono below).trans_eq (roundAt_multiple _ _)

theorem multiple_le_rounded {count : Int} (above : count * 10 ^ context.lastPlace value ≤ value) :
    count * 10 ^ context.lastPlace value ≤ context.rounded value :=
  (roundAt_multiple _ _).symm.trans_le (roundAt_mono above)

theorem rounded_of_multiple {count : Int} (same : value = count * 10 ^ context.lastPlace value) :
    context.rounded value = value :=
  le_antisymm ((rounded_le_multiple same.le).trans_eq same.symm)
    (same.trans_le (multiple_le_rounded same.ge))

theorem abs_count_le (value : Rat) :
    |roundHalfEven (value / 10 ^ context.lastPlace value)| ≤ 10 ^ context.precision := by
  have unit := pow_pos_rat (context.lastPlace value)
  have size : |value| ≤ 10 ^ context.precision * 10 ^ context.lastPlace value := by
    refine (lt_pow_log value).le.trans ((pow_mono (@log_le_lastPlace context value)).trans_eq ?_)
    rw [zpow_add₀ (by norm_num), zpow_natCast, mul_comm]
  obtain ⟨lower, upper⟩ := abs_le.mp size
  have least : ((-(10 ^ context.precision) : Int) : Rat) ≤
      value / 10 ^ context.lastPlace value := by
    rw [le_div_iff₀ unit]
    push_cast
    linarith
  have most : value / 10 ^ context.lastPlace value ≤ ((10 ^ context.precision : Int) : Rat) := by
    rw [div_le_iff₀ unit]
    push_cast
    exact upper
  rw [abs_le]
  constructor
  · rw [← roundHalfEven_intCast (-(10 ^ context.precision))]
    exact roundHalfEven_mono least
  · rw [← roundHalfEven_intCast (10 ^ context.precision)]
    exact roundHalfEven_mono most

theorem rounded_representable (value : Rat) : context.Representable (context.rounded value) :=
  ⟨_, _, etiny_le_lastPlace value, abs_count_le value, rfl⟩

/-! ### Values of few digits -/

theorem Representable.zero : context.Representable 0 :=
  ⟨0, context.etiny, le_rfl, by simp, by simp⟩

theorem Representable.neg (representable : context.Representable value) :
    context.Representable (-value) := by
  obtain ⟨count, place, above, few, rfl⟩ := representable
  refine ⟨-count, place, above, by rwa [abs_neg], ?_⟩
  push_cast
  ring

theorem Representable.abs (representable : context.Representable value) :
    context.Representable |value| := by
  rcases abs_choice value with same | negated
  · rwa [same]
  · rw [negated]
    exact representable.neg

/-- Few digits are a multiple of the last place, also where the value is a power of ten with one
digit more. -/
theorem Representable.multiple (representable : context.Representable value) :
    ∃ count : Int, value = count * 10 ^ context.lastPlace value := by
  obtain ⟨count, place, above, few, same⟩ := representable
  by_cases nothing : value = 0
  · exact ⟨0, by rw [nothing, Int.cast_zero, zero_mul]⟩
  rcases le_or_gt (context.lastPlace value) place with kept | larger
  · obtain ⟨more, multiple⟩ := multiple_of_multiple kept count
    exact ⟨more, same.trans multiple⟩
  · have positive := context.positive
    have size : |value| ≤ 10 ^ (context.precision + place : Int) := by
      rw [same, abs_mul, abs_of_pos (pow_pos_rat place), zpow_add₀ (by norm_num), zpow_natCast]
      exact mul_le_mul_of_nonneg_right (by exact_mod_cast few) (pow_pos_rat place).le
    have log : (context.precision : Int) + place ≤ Int.log 10 |value| := by
      unfold lastPlace at larger
      omega
    have power : |value| = 10 ^ (context.precision + place : Int) :=
      le_antisymm size ((pow_mono log).trans (pow_log_le nothing))
    have exponent : Int.log 10 |value| = context.precision + place := by
      rw [power]
      exact_mod_cast Int.log_zpow (R := Rat) (b := 10) (by norm_num) (context.precision + place)
    have within : context.lastPlace value ≤ context.precision + place := by
      unfold lastPlace
      omega
    obtain ⟨factor, multiple⟩ := pow_eq_multiple within
    rcases abs_choice value with upward | downward
    · exact ⟨factor, upward.symm.trans (power.trans multiple)⟩
    · refine ⟨-factor, ?_⟩
      rw [Int.cast_neg, neg_mul, ← multiple, ← power, downward, neg_neg]

theorem Representable.rounded (representable : context.Representable value) :
    context.rounded value = value := by
  obtain ⟨count, same⟩ := representable.multiple
  exact rounded_of_multiple same

theorem rounded_rounded (value : Rat) :
    context.rounded (context.rounded value) = context.rounded value :=
  (rounded_representable value).rounded

/-! ### Order -/

/-- Where the last places differ, the larger one is a digit of its value, whose first digit lies
above all of the other value. -/
theorem first_digit_between {smaller larger : Rat}
    (apart : context.lastPlace smaller < context.lastPlace larger) (some_ : larger ≠ 0) :
    |smaller| ≤ 10 ^ Int.log 10 |larger| ∧ (10 : Rat) ^ Int.log 10 |larger| ≤ |larger| ∧
      context.lastPlace larger ≤ Int.log 10 |larger| := by
  have positive := context.positive
  have logs : Int.log 10 |smaller| < Int.log 10 |larger| ∧
      context.lastPlace larger ≤ Int.log 10 |larger| := by
    unfold lastPlace at apart ⊢
    omega
  exact ⟨(lt_pow_log smaller).le.trans (pow_mono logs.1), pow_log_le some_, logs.2⟩

theorem lastPlace_mono (some_ : lower ≠ 0) (ordered : |lower| ≤ |upper|) :
    context.lastPlace lower ≤ context.lastPlace upper := by
  have logs := Int.log_mono_right (b := 10) (abs_pos.mpr some_) ordered
  unfold lastPlace
  omega

/-- Rounding keeps the order: between values of different last places lies a power of ten that
both places can express. -/
theorem rounded_mono (ordered : lower ≤ upper) :
    context.rounded lower ≤ context.rounded upper := by
  rcases lt_trichotomy (context.lastPlace lower) (context.lastPlace upper) with
    apart | same | apart
  · rcases lt_trichotomy upper 0 with negative | rfl | positive
    · have sizes : |upper| ≤ |lower| := by
        rw [abs_of_neg negative, abs_of_neg (ordered.trans_lt negative)]
        exact neg_le_neg ordered
      exact absurd (lastPlace_mono negative.ne sizes) (not_le.mpr apart)
    · have below : lower ≤ (0 : Int) * 10 ^ context.lastPlace lower := by simpa using ordered
      simpa [rounded_zero] using rounded_le_multiple below
    · obtain ⟨under, beyond, within⟩ := first_digit_between apart positive.ne'
      obtain ⟨first, left⟩ := pow_eq_multiple (apart.le.trans within)
      obtain ⟨second, right⟩ := pow_eq_multiple within
      have below := rounded_le_multiple (((le_abs_self lower).trans under).trans_eq left)
      have above := multiple_le_rounded
        (right.symm.trans_le (beyond.trans_eq (abs_of_pos positive)))
      exact below.trans ((left.symm.trans right).trans_le above)
  · unfold rounded
    rw [same]
    exact roundAt_mono ordered
  · rcases lt_trichotomy lower 0 with negative | rfl | positive
    · obtain ⟨under, beyond, within⟩ := first_digit_between apart negative.ne
      obtain ⟨first, left⟩ := pow_eq_multiple within
      obtain ⟨second, right⟩ := pow_eq_multiple (apart.le.trans within)
      have below : lower ≤ (-first : Int) * 10 ^ context.lastPlace lower := by
        rw [Int.cast_neg, neg_mul, ← left]
        exact le_neg_of_le_neg (beyond.trans_eq (abs_of_neg negative))
      have above : (-second : Int) * 10 ^ context.lastPlace upper ≤ upper := by
        rw [Int.cast_neg, neg_mul, ← right]
        exact neg_le_of_abs_le under
      refine (rounded_le_multiple below).trans (le_trans (le_of_eq ?_) (multiple_le_rounded above))
      rw [Int.cast_neg, Int.cast_neg, neg_mul, neg_mul, ← left, ← right]
    · have above : (0 : Int) * 10 ^ context.lastPlace upper ≤ upper := by simpa using ordered
      simpa [rounded_zero] using multiple_le_rounded above
    · have sizes : |lower| ≤ |upper| := by
        rw [abs_of_pos positive, abs_of_pos (positive.trans_le ordered)]
        exact ordered
      exact absurd (lastPlace_mono positive.ne' sizes) (not_le.mpr apart)

theorem rounded_le_of_le (ordered : value ≤ upper) (representable : context.Representable upper) :
    context.rounded value ≤ upper :=
  (rounded_mono ordered).trans_eq representable.rounded

theorem le_rounded_of_le (ordered : lower ≤ value) (representable : context.Representable lower) :
    lower ≤ context.rounded value :=
  representable.rounded.symm.trans_le (rounded_mono ordered)

theorem abs_rounded_le (representable : context.Representable upper) (ordered : |value| ≤ upper) :
    |context.rounded value| ≤ upper := by
  obtain ⟨above, below⟩ := abs_le.mp ordered
  exact abs_le.mpr ⟨le_rounded_of_le above representable.neg, rounded_le_of_le below representable⟩

theorem rounded_near {place : Int} (above : context.etiny ≤ place)
    (small : |value| ≤ 10 ^ (context.precision + place : Int)) :
    |context.rounded value - value| ≤ 10 ^ place / 2 := by
  have half : (0 : Rat) ≤ 10 ^ place / 2 := by have unit := pow_pos_rat place; positivity
  by_cases nothing : value = 0
  · rwa [nothing, rounded_zero, sub_zero, abs_zero]
  rcases small.lt_or_eq with below | power
  · have logs := (Int.lt_zpow_iff_log_lt (b := 10) (by norm_num) (abs_pos.mpr nothing)).mp
      (by exact_mod_cast below)
    have lower : context.lastPlace value ≤ place := by
      unfold lastPlace
      omega
    refine (roundAt_near _ value).trans ?_
    linarith [pow_mono lower]
  · -- a power of ten is not rounded
    have representable : context.Representable |value| := by
      refine ⟨10 ^ context.precision, place, above, by simp, ?_⟩
      rw [power, zpow_add₀ (by norm_num), zpow_natCast]
      push_cast
      rfl
    have kept : context.rounded value = value := by
      rcases abs_choice value with same | negated
      · exact (same ▸ representable).rounded
      · have negative := representable.neg
        rw [negated, neg_neg] at negative
        exact negative.rounded
    rwa [kept, sub_self, abs_zero]

/-! ### Overflow -/

theorem overflows_eq_false :
    context.overflows value = false ↔ |context.rounded value| < 10 ^ (context.emax + 1) := by
  by_cases nothing : context.rounded value = 0
  · simp [overflows, nothing, pow_pos_rat]
  · have size := abs_pos.mpr nothing
    have logs := Int.lt_zpow_iff_log_lt (b := 10) (by norm_num) (x := context.emax + 1) size
    push_cast at logs
    simp only [overflows, nothing, ne_eq, not_false_eq_true, decide_true, Bool.true_and,
      decide_eq_false_iff_not, not_lt]
    rw [logs]
    exact Int.lt_add_one_iff.symm

/-- What is no larger than a result does not overflow. -/
theorem not_overflows_of_abs_le (representable : context.Representable upper)
    (within : |upper| < 10 ^ (context.emax + 1)) (ordered : |value| ≤ |upper|) :
    context.overflows value = false :=
  overflows_eq_false.mpr ((abs_rounded_le representable.abs ordered).trans_lt within)

end Context

end DecimalContext
