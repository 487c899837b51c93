/-
Rounding exact rationals to a number of decimal places, by default (the default context) with
ties to even, on request toward zero; and `Decimal.quantize`, which rounds so as long as the
result has no more digits than the context.
-/

import Mathlib.Data.Rat.Floor
import Mathlib.Tactic.Linarith
import Mathlib.Tactic.Positivity

namespace DecimalRounding

def roundHalfEven (value : Rat) : Int :=
  let low := ⌊value⌋
  let rest := value - low
  if rest < 1 / 2 then low
  else if 1 / 2 < rest then low + 1
  else if low % 2 = 0 then low
  else low + 1

def nearest (places : Nat) (value : Rat) : Rat :=
  (roundHalfEven (value * 10 ^ places) : Rat) / 10 ^ places

/-- `Decimal.quantize`: more than 28 digits are an invalid operation. -/
def quantize (places : Nat) (value : Rat) : Except String Rat :=
  if |roundHalfEven (value * 10 ^ places)| < 10 ^ 28 then .ok (nearest places value)
  else .error "[<class 'decimal.InvalidOperation'>]"

/-- `ROUND_DOWN`, which is toward zero. -/
def roundDown (value : Rat) : Int :=
  if 0 ≤ value then ⌊value⌋ else ⌈value⌉

def quantizeDown (places : Nat) (value : Rat) : Rat :=
  (roundDown (value * 10 ^ places) : Rat) / 10 ^ places

/-- `ROUND_HALF_UP`, which is away from zero on a tie. -/
def roundHalfUp (value : Rat) : Int :=
  if 0 ≤ value then ⌊value + 1 / 2⌋ else ⌈value - 1 / 2⌉

theorem roundHalfEven_nonneg {value : Rat} (nonneg : 0 ≤ value) : 0 ≤ roundHalfEven value := by
  have low : 0 ≤ ⌊value⌋ := Int.floor_nonneg.mpr nonneg
  simp only [roundHalfEven]
  split
  · exact low
  · split
    · omega
    · split <;> omega

theorem nearest_nonneg (places : Nat) {value : Rat} (nonneg : 0 ≤ value) :
    0 ≤ nearest places value := by
  have scaled : 0 ≤ value * 10 ^ places := mul_nonneg nonneg (by positivity)
  exact div_nonneg (Int.cast_nonneg (roundHalfEven_nonneg scaled)) (by positivity)

theorem roundHalfEven_bounds (value : Rat) :
    ⌊value⌋ ≤ roundHalfEven value ∧ roundHalfEven value ≤ ⌊value⌋ + 1 := by
  simp only [roundHalfEven]
  split
  · omega
  · split
    · omega
    · split <;> omega

theorem roundHalfEven_mono {lower upper : Rat} (ordered : lower ≤ upper) :
    roundHalfEven lower ≤ roundHalfEven upper := by
  have floors : ⌊lower⌋ ≤ ⌊upper⌋ := Int.floor_le_floor ordered
  rcases Int.lt_or_eq_of_le floors with apart | same
  · have above := (roundHalfEven_bounds lower).2
    have below := (roundHalfEven_bounds upper).1
    omega
  · -- within one unit the tie is the only place where the value changes
    simp only [roundHalfEven, same]
    have rests : lower - ⌊upper⌋ ≤ upper - ⌊upper⌋ := sub_le_sub_right ordered _
    split
    · have below := (roundHalfEven_bounds upper).1
      simpa only [roundHalfEven] using below
    · rename_i notBelow
      rw [if_neg (not_lt.mpr (le_trans (not_lt.mp notBelow) rests))]
      split
      · rename_i above
        rw [if_pos (lt_of_lt_of_le above rests)]
      · split <;> split <;> omega

theorem nearest_mono (places : Nat) {lower upper : Rat} (ordered : lower ≤ upper) :
    nearest places lower ≤ nearest places upper := by
  have scaled : lower * 10 ^ places ≤ upper * 10 ^ places :=
    mul_le_mul_of_nonneg_right ordered (by positivity)
  exact div_le_div_of_nonneg_right (Int.cast_le.mpr (roundHalfEven_mono scaled)) (by positivity)

theorem roundDown_nonneg {value : Rat} (nonneg : 0 ≤ value) : 0 ≤ roundDown value := by
  rw [roundDown, if_pos nonneg]
  exact Int.floor_nonneg.mpr nonneg

theorem roundDown_mono {lower upper : Rat} (ordered : lower ≤ upper) :
    roundDown lower ≤ roundDown upper := by
  by_cases nonneg : 0 ≤ lower
  · rw [roundDown, roundDown, if_pos nonneg, if_pos (nonneg.trans ordered)]
    exact Int.floor_le_floor ordered
  · rw [roundDown, if_neg nonneg]
    by_cases crossing : 0 ≤ upper
    · have below : ⌈lower⌉ ≤ 0 := Int.ceil_le.mpr (le_of_lt (not_le.mp nonneg))
      exact below.trans (roundDown_nonneg crossing)
    · rw [roundDown, if_neg crossing]
      exact Int.ceil_le_ceil ordered

theorem quantizeDown_mono (places : Nat) {lower upper : Rat} (ordered : lower ≤ upper) :
    quantizeDown places lower ≤ quantizeDown places upper := by
  have scaled : lower * 10 ^ places ≤ upper * 10 ^ places :=
    mul_le_mul_of_nonneg_right ordered (by positivity)
  exact div_le_div_of_nonneg_right (Int.cast_le.mpr (roundDown_mono scaled)) (by positivity)

theorem quantizeDown_nonneg (places : Nat) {value : Rat} (nonneg : 0 ≤ value) :
    0 ≤ quantizeDown places value := by
  have scaled : 0 ≤ value * 10 ^ places := mul_nonneg nonneg (by positivity)
  exact div_nonneg (Int.cast_nonneg (roundDown_nonneg scaled)) (by positivity)

/-! ### What truncation loses -/

theorem quantizeDown_of_nonneg (places : Nat) {value : Rat} (nonneg : 0 ≤ value) :
    quantizeDown places value = (⌊value * 10 ^ places⌋ : Rat) / 10 ^ places := by
  rw [quantizeDown, roundDown, if_pos (mul_nonneg nonneg (by positivity))]

theorem quantizeDown_le (places : Nat) {value : Rat} (nonneg : 0 ≤ value) :
    quantizeDown places value ≤ value := by
  rw [quantizeDown_of_nonneg places nonneg, div_le_iff₀ (by positivity)]
  exact Int.floor_le _

theorem lt_quantizeDown_add (places : Nat) {value : Rat} (nonneg : 0 ≤ value) :
    value < quantizeDown places value + 1 / 10 ^ places := by
  rw [quantizeDown_of_nonneg places nonneg, ← add_div, lt_div_iff₀ (by positivity)]
  exact Int.lt_floor_add_one _

/-- Truncation toward zero does not move a value across a positive integer. -/
theorem intCast_le_quantizeDown (places : Nat) {bound : Int} (positive : 1 ≤ bound) (value : Rat) :
    (bound : Rat) ≤ quantizeDown places value ↔ (bound : Rat) ≤ value := by
  by_cases nonneg : 0 ≤ value
  · have scaled : (bound : Rat) * 10 ^ places = ((bound * 10 ^ places : Int) : Rat) := by
      push_cast
      rfl
    rw [quantizeDown_of_nonneg places nonneg, le_div_iff₀ (by positivity), scaled, Int.cast_le,
      Int.le_floor, ← scaled]
    exact mul_le_mul_iff_of_pos_right (by positivity)
  · have negative : value ≤ 0 := le_of_not_ge nonneg
    have above : (0 : Rat) < bound := by
      exact_mod_cast lt_of_lt_of_le one_pos positive
    have truncated : quantizeDown places value ≤ 0 := by
      have zero := quantizeDown_mono places negative
      rwa [quantizeDown_of_nonneg places le_rfl, zero_mul, Int.floor_zero, Int.cast_zero,
        zero_div] at zero
    exact iff_of_false (not_le.mpr (lt_of_le_of_lt truncated above))
      (not_le.mpr (lt_of_le_of_lt negative above))

theorem roundHalfUp_mono {lower upper : Rat} (ordered : lower ≤ upper) :
    roundHalfUp lower ≤ roundHalfUp upper := by
  unfold roundHalfUp
  by_cases low : 0 ≤ lower
  · rw [if_pos low, if_pos (low.trans ordered)]
    exact Int.floor_mono (by linarith)
  · rw [if_neg low]
    have below : ⌈lower - 1 / 2⌉ ≤ 0 := Int.ceil_le.mpr (by push_cast; linarith)
    by_cases high : 0 ≤ upper
    · rw [if_pos high]
      exact below.trans (Int.floor_nonneg.mpr (by linarith))
    · rw [if_neg high]
      exact Int.ceil_mono (by linarith)

/-! ### What rounding to the nearest loses -/

theorem roundHalfEven_intCast (value : Int) : roundHalfEven value = value := by
  simp only [roundHalfEven, Int.floor_intCast, sub_self]
  rw [if_pos (by norm_num)]

theorem roundHalfEven_near (value : Rat) : |(roundHalfEven value : Rat) - value| ≤ 1 / 2 := by
  have low := Int.floor_le value
  have high := Int.lt_floor_add_one value
  rw [abs_le]
  simp only [roundHalfEven]
  split
  · constructor <;> linarith
  · split
    · push_cast
      constructor <;> linarith
    · split
      · constructor <;> linarith
      · push_cast
        constructor <;> linarith

theorem nearest_near (places : Nat) (value : Rat) :
    |nearest places value - value| ≤ 1 / 2 / 10 ^ places := by
  have scale : (0 : Rat) < 10 ^ places := by positivity
  have apart : nearest places value - value =
      ((roundHalfEven (value * 10 ^ places) : Rat) - value * 10 ^ places) / 10 ^ places := by
    rw [nearest, sub_div, mul_div_cancel_right₀ _ scale.ne']
  rw [apart, abs_div, abs_of_pos scale]
  exact div_le_div_of_nonneg_right (roundHalfEven_near _) scale.le

/-- A value of no more places than are kept stays as it is. -/
theorem nearest_of_scaled {places : Nat} {value : Rat} {scaled : Int}
    (whole : value * 10 ^ places = scaled) : nearest places value = value := by
  have scale : (10 : Rat) ^ places ≠ 0 := by positivity
  rw [nearest, whole, roundHalfEven_intCast, ← whole, mul_div_cancel_right₀ _ scale]

theorem quantize_eq_ok {places : Nat} {value result : Rat}
    (quantized : quantize places value = .ok result) : result = nearest places value := by
  unfold quantize at quantized
  split at quantized
  · cases quantized
    rfl
  · cases quantized

/-- A value below ten to the 28 less the places has few enough digits. -/
theorem quantize_of_abs_lt {places : Nat} {value : Rat}
    (small : |value| * 10 ^ places + 1 ≤ 10 ^ 28) :
    quantize places value = .ok (nearest places value) := by
  have scale : (0 : Rat) < 10 ^ places := by positivity
  have near := roundHalfEven_near (value * 10 ^ places)
  have size : |(roundHalfEven (value * 10 ^ places) : Rat)| ≤ |value * 10 ^ places| + 1 / 2 := by
    have split := abs_sub_abs_le_abs_sub (roundHalfEven (value * 10 ^ places) : Rat)
      (value * 10 ^ places)
    linarith
  rw [abs_mul, abs_of_pos scale] at size
  have bound : (|roundHalfEven (value * 10 ^ places)| : Rat) < 10 ^ 28 := by linarith
  rw [quantize, if_pos (by exact_mod_cast bound)]

end DecimalRounding
