/-
Python's `Decimal` values and their arithmetic in the default context: 28 digits, ties to even, a
bounded exponent, and errors for the signals that are trapped. Zero is not told from its negative,
and a NaN has no payload.
-/

import ArbitrageBot.Library.DecimalContext
import ArbitrageBot.Library.Fallible

namespace PythonDecimal

open DecimalContext Fallible

inductive Decimal
  | finite (value : Rat)
  | infinity (negative : Bool)
  | nan (signaling : Bool)
deriving DecidableEq

namespace Decimal

instance : Zero Decimal := ⟨finite 0⟩

theorem zero_eq : (0 : Decimal) = finite 0 := rfl

def isNan : Decimal → Bool
  | nan _ => true
  | finite _ | infinity _ => false

@[simp] theorem isNan_finite (value : Rat) : (finite value).isNan = false := rfl

@[simp] theorem isNan_infinity (negative : Bool) : (infinity negative).isNan = false := rfl

@[simp] theorem isNan_nan (signaling : Bool) : (nan signaling).isNan = true := rfl

@[simp] theorem isNan_zero : (0 : Decimal).isNan = false := rfl

/-! ### Order -/

/-- A NaN is beside itself only. -/
def atMost : Decimal → Decimal → Bool
  | nan first, nan second => first = second
  | nan _, _ | _, nan _ => false
  | finite first, finite second => first ≤ second
  | infinity true, _ | _, infinity false => true
  | infinity false, _ | _, infinity true => false

instance : LE Decimal := ⟨fun first second => first.atMost second = true⟩

instance : DecidableLE Decimal := fun first second =>
  inferInstanceAs (Decidable (first.atMost second = true))

theorem le_def {first second : Decimal} : first ≤ second ↔ first.atMost second = true := .rfl

@[simp] theorem finite_le_finite {first second : Rat} :
    finite first ≤ finite second ↔ first ≤ second := by
  simp [le_def, atMost]

instance : PartialOrder Decimal where
  le_refl value := by
    cases value with
    | finite value => simp
    | infinity negative => cases negative <;> rfl
    | nan signaling => simp [le_def, atMost]
  le_trans first second third := by
    rcases first with _ | (_ | _) | _ <;> rcases second with _ | (_ | _) | _ <;>
      rcases third with _ | (_ | _) | _ <;> simp [le_def, atMost]
    · exact le_trans
    · rintro rfl
      exact id
  le_antisymm first second := by
    rcases first with _ | (_ | _) | _ <;> rcases second with _ | (_ | _) | _ <;>
      simp [le_def, atMost]
    · exact le_antisymm
    · exact fun same _ => same

instance : DecidableLT Decimal := fun first second =>
  decidable_of_iff (first ≤ second ∧ ¬second ≤ first) lt_iff_le_not_ge.symm

@[simp] theorem finite_lt_finite {first second : Rat} :
    finite first < finite second ↔ first < second := by
  simp [lt_iff_le_not_ge (α := Decimal)]
  exact le_of_lt

theorem finite_nonneg {value : Rat} : 0 ≤ finite value ↔ 0 ≤ value := finite_le_finite

theorem finite_pos {value : Rat} : 0 < finite value ↔ 0 < value := finite_lt_finite

/-- Only a NaN is beside a NaN. -/
theorem isNan_of_le {first second : Decimal} (ordered : first ≤ second) :
    first.isNan = second.isNan := by
  rcases first with _ | (_ | _) | _ <;> rcases second with _ | (_ | _) | _ <;>
    simp_all [le_def, atMost, isNan]

theorem le_or_lt_of_numbers {first second : Decimal} (left : first.isNan = false)
    (right : second.isNan = false) : first ≤ second ∨ second < first := by
  rcases first with _ | (_ | _) | _ <;> rcases second with _ | (_ | _) | _ <;>
    simp_all [lt_iff_le_not_ge (α := Decimal), le_def, atMost, isNan]
  exact (le_or_gt _ _).imp_right fun above => ⟨above.le, above⟩

/-! ### Signals -/

def invalidOperation {α : Type} : Except String α :=
  .error "[<class \x27decimal.InvalidOperation\x27>]"

/-- An order is asked of numbers only. -/
def compared (first second : Decimal) (answer : Bool) : Except String Bool :=
  if first.isNan || second.isNan then invalidOperation else .ok answer

/-- `first < second` -/
def isLess (first second : Decimal) : Except String Bool := compared first second (first < second)

/-- `first <= second` -/
def isAtMost (first second : Decimal) : Except String Bool := compared first second (first ≤ second)

theorem compared_eq_ok {first second : Decimal} {test answer : Bool} :
    compared first second test = .ok answer ↔
      (first.isNan = false ∧ second.isNan = false) ∧ test = answer := by
  cases left : first.isNan <;> cases right : second.isNan <;>
    simp [compared, invalidOperation, left, right]

theorem isLess_ok {first second : Decimal} (left : first.isNan = false)
    (right : second.isNan = false) : ∃ answer, isLess first second = .ok answer :=
  ⟨_, compared_eq_ok.mpr ⟨⟨left, right⟩, rfl⟩⟩

theorem isAtMost_ok_iff {first second : Decimal} :
    (∃ answer, isAtMost first second = .ok answer) ↔
      first.isNan = false ∧ second.isNan = false := by
  constructor
  · rintro ⟨answer, compared⟩
    exact (compared_eq_ok.mp compared).1
  · exact fun numbers => ⟨_, compared_eq_ok.mpr ⟨numbers, rfl⟩⟩

theorem isLess_eq_true {first second : Decimal} :
    isLess first second = .ok true ↔ first < second := by
  rw [isLess, compared_eq_ok, decide_eq_true_eq]
  refine ⟨And.right, fun less => ⟨?_, less⟩⟩
  have same := isNan_of_le less.le
  cases first with
  | finite value => exact ⟨rfl, same.symm⟩
  | infinity negative => exact ⟨rfl, same.symm⟩
  | nan signaling =>
      cases second with
      | finite value => cases same
      | infinity negative => cases same
      | nan other =>
          have equal : signaling = other := by simpa [le_def, atMost] using less.le
          rw [equal] at less
          exact absurd less (lt_irrefl _)

theorem isLess_eq_false {first second : Decimal} :
    isLess first second = .ok false ↔ second ≤ first ∧ first.isNan = false := by
  rw [isLess, compared_eq_ok, decide_eq_false_iff_not]
  constructor
  · rintro ⟨⟨left, right⟩, notLess⟩
    exact ⟨(le_or_lt_of_numbers right left).resolve_right notLess, left⟩
  · rintro ⟨ordered, left⟩
    exact ⟨⟨left, (isNan_of_le ordered).trans left⟩, ordered.not_gt⟩

/-- What is not below a bound is not below a smaller one. -/
theorem isLess_eq_false_of_le {first second third : Decimal} (ordered : third ≤ second)
    (notLess : isLess first second = .ok false) : isLess first third = .ok false := by
  rw [isLess_eq_false] at notLess ⊢
  exact ⟨ordered.trans notLess.1, notLess.2⟩

/-- What does not exceed a bound does not exceed a larger one. -/
theorem isLess_eq_false_of_ge {first second third : Decimal} (ordered : first ≤ third)
    (notLess : isLess first second = .ok false) : isLess third second = .ok false := by
  rw [isLess_eq_false] at notLess ⊢
  exact ⟨notLess.1.trans ordered, (isNan_of_le ordered).symm.trans notLess.2⟩

theorem isAtMost_eq_true {first second : Decimal} :
    isAtMost first second = .ok true ↔ first ≤ second ∧ first.isNan = false := by
  rw [isAtMost, compared_eq_ok, decide_eq_true_eq]
  constructor
  · rintro ⟨⟨left, -⟩, ordered⟩
    exact ⟨ordered, left⟩
  · rintro ⟨ordered, left⟩
    exact ⟨⟨left, (isNan_of_le ordered).symm.trans left⟩, ordered⟩

theorem isAtMost_eq_false {first second : Decimal} :
    isAtMost first second = .ok false ↔ second < first := by
  rw [← isLess_eq_true, isAtMost, isLess, compared_eq_ok, compared_eq_ok, decide_eq_false_iff_not,
    decide_eq_true_eq, and_comm (a := second.isNan = false)]
  refine and_congr_right fun numbers => ⟨fun above => ?_, fun less => less.not_ge⟩
  exact (le_or_lt_of_numbers numbers.1 numbers.2).resolve_left above

/-! ### Arithmetic -/

/-- The default context. -/
def context : Context := { precision := 28, emin := -999999, emax := 999999, positive := by decide }

/-- An exact result, as the context keeps it. -/
def settle (exact : Rat) : Except String Decimal :=
  if context.overflows exact then .error "[<class \x27decimal.Overflow\x27>]"
  else .ok (finite (context.rounded exact))

def negated : Decimal → Decimal
  | finite value => finite (-value)
  | infinity negative => infinity !negative
  | nan signaling => nan signaling

/-- `abs(value)`, which the context rounds as well. -/
def abs : Decimal → Except String Decimal
  | finite value => settle |value|
  | infinity _ => .ok (infinity false)
  | nan true => invalidOperation
  | nan false => .ok (nan false)

/-- `first + second` -/
def add : Decimal → Decimal → Except String Decimal
  | nan true, _ | _, nan true => invalidOperation
  | nan false, _ | _, nan false => .ok (nan false)
  | infinity first, infinity second =>
      if first = second then .ok (infinity first) else invalidOperation
  | infinity negative, finite _ | finite _, infinity negative => .ok (infinity negative)
  | finite first, finite second => settle (first + second)

/-- `first - second` -/
def sub (first second : Decimal) : Except String Decimal := add first second.negated

/-- `first * second` -/
def mul : Decimal → Decimal → Except String Decimal
  | nan true, _ | _, nan true => invalidOperation
  | nan false, _ | _, nan false => .ok (nan false)
  | infinity first, infinity second => .ok (infinity (first != second))
  | infinity negative, finite value | finite value, infinity negative =>
      if value = 0 then invalidOperation else .ok (infinity (negative != decide (value < 0)))
  | finite first, finite second => settle (first * second)

/-- `first / second` -/
def div : Decimal → Decimal → Except String Decimal
  | nan true, _ | _, nan true => invalidOperation
  | nan false, _ | _, nan false => .ok (nan false)
  | infinity _, infinity _ => invalidOperation
  | infinity negative, finite divisor => .ok (infinity (negative != decide (divisor < 0)))
  | finite _, infinity _ => .ok 0
  | finite dividend, finite divisor =>
      if divisor ≠ 0 then settle (dividend / divisor)
      else if dividend ≠ 0 then .error "[<class \x27decimal.DivisionByZero\x27>]"
      else .error "[<class \x27decimal.DivisionUndefined\x27>]"

/-- `Decimal(number)` of an integer -/
def ofNat (number : Nat) : Decimal := finite number

section Settle

variable {exact lower upper : Rat} {settled least most : Decimal}

theorem settle_eq_ok :
    settle exact = .ok settled ↔
      context.overflows exact = false ∧ finite (context.rounded exact) = settled := by
  cases outside : context.overflows exact <;> simp [settle, outside]

theorem settle_mono (ordered : lower ≤ upper) (left : settle lower = .ok least)
    (right : settle upper = .ok most) : least ≤ most := by
  obtain ⟨-, rfl⟩ := settle_eq_ok.mp left
  obtain ⟨-, rfl⟩ := settle_eq_ok.mp right
  exact finite_le_finite.mpr (Context.rounded_mono ordered)

end Settle

/-! ### Monotonicity -/

/-- What may stand beside each other in the order. -/
inductive Ordered : Decimal → Decimal → Prop
  | finite {first second : Rat} (ordered : first ≤ second) : Ordered (finite first) (finite second)
  | least {second : Decimal} (number : second.isNan = false) : Ordered (infinity true) second
  | most {first : Decimal} (number : first.isNan = false) : Ordered first (infinity false)
  | nan (signaling : Bool) : Ordered (nan signaling) (nan signaling)

theorem ordered_of_le {first second : Decimal} (ordered : first ≤ second) :
    Ordered first second := by
  have same := isNan_of_le ordered
  cases first with
  | finite value =>
      cases second with
      | finite other => exact .finite (finite_le_finite.mp ordered)
      | infinity negative =>
          cases negative with
          | false => exact .most rfl
          | true => cases ordered
      | nan signaling => cases same
  | infinity negative =>
      cases negative with
      | true => exact .least same.symm
      | false =>
          cases second with
          | finite value => cases ordered
          | infinity other =>
              cases other with
              | false => exact .most rfl
              | true => cases ordered
          | nan signaling => cases same
  | nan signaling =>
      cases second with
      | finite value => cases same
      | infinity negative => cases same
      | nan other =>
          have equal : signaling = other := by simpa [le_def, atMost] using ordered
          rw [equal]
          exact .nan other

@[simp] theorem infinity_le {value : Decimal} :
    infinity true ≤ value ↔ value.isNan = false := by
  rcases value with _ | (_ | _) | _ <;> simp [le_def, atMost, isNan]

@[simp] theorem le_infinity {value : Decimal} :
    value ≤ infinity false ↔ value.isNan = false := by
  rcases value with _ | (_ | _) | _ <;> simp [le_def, atMost, isNan]

section Results

variable {first second third fourth result other : Decimal}

theorem add_comm (first second : Decimal) : add first second = add second first := by
  rcases first with _ | _ | (_ | _) <;> rcases second with _ | _ | (_ | _) <;>
    grind [add]

theorem add_of_nan (isNan : first.isNan = true ∨ second.isNan = true)
    (ok : add first second = .ok result) : result = nan false := by
  rcases first with _ | _ | (_ | _) <;> rcases second with _ | _ | (_ | _) <;>
    simp_all [add, Decimal.isNan, invalidOperation]

theorem add_infinity {negative : Bool} (number : second.isNan = false)
    (ok : add (infinity negative) second = .ok result) : result = infinity negative := by
  cases second <;> grind [add, invalidOperation, Decimal.isNan]

theorem add_number (left : first.isNan = false) (right : second.isNan = false)
    (ok : add first second = .ok result) : result.isNan = false := by
  cases first <;> cases second <;> grind [add, invalidOperation, settle, Decimal.isNan]

theorem add_mono (left : first ≤ second) (right : third ≤ fourth)
    (ok : add first third = .ok result) (okOther : add second fourth = .ok other) :
    result ≤ other := by
  have leftNan := isNan_of_le left
  have rightNan := isNan_of_le right
  by_cases isNan : first.isNan = true ∨ third.isNan = true
  · rw [add_of_nan isNan ok, add_of_nan (isNan.imp leftNan.symm.trans rightNan.symm.trans) okOther]
  simp only [not_or, Bool.not_eq_true] at isNan
  rw [isNan.1] at leftNan
  rw [isNan.2] at rightNan
  have number := add_number isNan.1 isNan.2 ok
  have otherNumber := add_number leftNan.symm rightNan.symm okOther
  cases ordered_of_le left with
  | least _ =>
      rw [add_infinity isNan.2 ok]
      exact infinity_le.mpr otherNumber
  | most _ =>
      rw [add_infinity rightNan.symm okOther]
      exact le_infinity.mpr number
  | nan signaling => cases leftNan
  | finite leftOrdered =>
      cases ordered_of_le right with
      | finite rightOrdered => exact settle_mono (add_le_add leftOrdered rightOrdered) ok okOther
      | least _ =>
          rw [add_comm] at ok
          rw [add_infinity rfl ok]
          exact infinity_le.mpr otherNumber
      | most _ =>
          rw [add_comm] at okOther
          rw [add_infinity rfl okOther]
          exact le_infinity.mpr number
      | nan signaling => cases rightNan

theorem negated_le_negated (ordered : first ≤ second) : second.negated ≤ first.negated := by
  cases ordered_of_le ordered with
  | finite below => exact finite_le_finite.mpr (neg_le_neg below)
  | least number =>
      refine le_infinity.mpr ?_
      rw [← number]
      cases second <;> rfl
  | most number =>
      refine infinity_le.mpr ?_
      rw [← number]
      cases first <;> rfl
  | nan signaling => exact le_rfl

theorem sub_mono (left : first ≤ second) (right : fourth ≤ third)
    (ok : sub first third = .ok result) (okOther : sub second fourth = .ok other) :
    result ≤ other :=
  add_mono left (negated_le_negated right) ok okOther

theorem add_nonneg (left : 0 ≤ first) (right : 0 ≤ second) (ok : add first second = .ok result) :
    0 ≤ result :=
  add_mono left right (by decide +kernel) ok

/-! ### Products and quotients -/

theorem mul_of_nan (isNan : first.isNan = true ∨ second.isNan = true)
    (ok : mul first second = .ok result) : result = nan false := by
  rcases first with _ | _ | (_ | _) <;> rcases second with _ | _ | (_ | _) <;>
    simp_all [mul, Decimal.isNan, invalidOperation]

theorem mul_number (left : first.isNan = false) (right : second.isNan = false)
    (ok : mul first second = .ok result) : result.isNan = false := by
  cases first <;> cases second <;> grind [mul, invalidOperation, settle, Decimal.isNan]

theorem mul_infinity {negative : Bool} (nonneg : 0 ≤ first)
    (ok : mul first (infinity negative) = .ok result) : result = infinity negative := by
  cases first with
  | finite factor =>
      have notBelow : ¬factor < 0 := not_lt.mpr (finite_nonneg.mp nonneg)
      simp only [mul, notBelow, decide_false, Bool.bne_false] at ok
      split at ok
      · cases ok
      · exact (Except.ok.inj ok).symm
  | infinity other =>
      cases other with
      | false =>
          simp only [mul, Bool.false_bne] at ok
          exact (Except.ok.inj ok).symm
      | true => cases nonneg
  | nan signaling => cases nonneg

theorem infinity_mul {value : Rat} (ok : mul (infinity false) (finite value) = .ok result) :
    result = infinity (decide (value < 0)) := by
  grind [mul, invalidOperation]

theorem mul_mono (nonneg : 0 ≤ first) (right : third ≤ fourth)
    (ok : mul first third = .ok result) (okOther : mul first fourth = .ok other) :
    result ≤ other := by
  have leftNumber : first.isNan = false := (isNan_of_le nonneg).symm
  have rightNan := isNan_of_le right
  by_cases isNan : third.isNan = true
  · rw [mul_of_nan (.inr isNan) ok, mul_of_nan (.inr (rightNan.symm.trans isNan)) okOther]
  rw [Bool.not_eq_true] at isNan
  rw [isNan] at rightNan
  have number := mul_number leftNumber isNan ok
  have otherNumber := mul_number leftNumber rightNan.symm okOther
  cases ordered_of_le right with
  | least _ =>
      rw [mul_infinity nonneg ok]
      exact infinity_le.mpr otherNumber
  | most _ =>
      rw [mul_infinity nonneg okOther]
      exact le_infinity.mpr number
  | nan signaling => cases isNan
  | @finite lower upper ordered =>
      cases first with
      | finite factor =>
          exact settle_mono (mul_le_mul_of_nonneg_left ordered (finite_nonneg.mp nonneg)) ok okOther
      | infinity negative =>
          cases negative with
          | true => cases nonneg
          | false =>
              rw [infinity_mul ok, infinity_mul okOther]
              by_cases below : lower < 0
              · simp [below]
              · have notBelow : ¬upper < 0 := fun negative => below (ordered.trans_lt negative)
                simp [notBelow]
      | nan signaling => cases leftNumber

theorem settle_zero : settle 0 = .ok 0 := by decide +kernel

theorem mul_nonneg (left : 0 ≤ first) (right : 0 ≤ second) (ok : mul first second = .ok result) :
    0 ≤ result := by
  cases first with
  | finite factor =>
      refine mul_mono left right ?_ ok
      change settle (factor * 0) = .ok 0
      rw [mul_zero, settle_zero]
  | infinity negative =>
      cases negative with
      | true => cases left
      | false =>
          cases second with
          | finite value =>
              rw [infinity_mul ok, decide_eq_false (not_lt.mpr (finite_nonneg.mp right))]
              exact le_infinity.mpr rfl
          | infinity other =>
              rw [mul_infinity left ok]
              exact right
          | nan signaling => cases right
  | nan signaling => cases left

section Divisor

variable {divisor : Rat}

theorem infinity_div {negative : Bool} (positive : 0 < divisor)
    (ok : div (infinity negative) (finite divisor) = .ok result) : result = infinity negative := by
  simp only [div, not_lt.mpr positive.le, decide_false, Bool.bne_false] at ok
  exact (Except.ok.inj ok).symm

theorem nan_div {signaling : Bool}
    (ok : div (nan signaling) (finite divisor) = .ok result) : result = nan false := by
  cases signaling with
  | true => cases ok
  | false => exact (Except.ok.inj ok).symm

theorem finite_div {dividend : Rat} (positive : 0 < divisor) :
    div (finite dividend) (finite divisor) = settle (dividend / divisor) :=
  if_pos positive.ne'

theorem div_number (positive : 0 < divisor) (number : first.isNan = false)
    (ok : div first (finite divisor) = .ok result) : result.isNan = false := by
  cases first with
  | finite value =>
      rw [finite_div positive] at ok
      rw [← (settle_eq_ok.mp ok).2]
      rfl
  | infinity negative =>
      rw [infinity_div positive ok]
      rfl
  | nan signaling => cases number

theorem div_mono (positive : 0 < divisor) (left : first ≤ second)
    (ok : div first (finite divisor) = .ok result)
    (okOther : div second (finite divisor) = .ok other) : result ≤ other := by
  cases ordered_of_le left with
  | finite ordered =>
      rw [finite_div positive] at ok okOther
      exact settle_mono (div_le_div_of_nonneg_right ordered positive.le) ok okOther
  | least number =>
      rw [infinity_div positive ok]
      exact infinity_le.mpr (div_number positive number okOther)
  | most number =>
      rw [infinity_div positive okOther]
      exact le_infinity.mpr (div_number positive number ok)
  | nan signaling => rw [nan_div ok, nan_div okOther]

theorem div_nonneg (positive : 0 < divisor) (nonneg : 0 ≤ first)
    (ok : div first (finite divisor) = .ok result) : 0 ≤ result := by
  refine div_mono positive nonneg ?_ ok
  rw [zero_eq, finite_div positive, zero_div, settle_zero, zero_eq]

end Divisor

/-! ### Results of the context -/

/-- A value that the context leaves as it is: no finite value of too many digits. -/
def Settled (value : Decimal) : Prop := add value 0 = .ok value

theorem settled_of_settle {exact : Rat} (ok : settle exact = .ok result) : result.Settled := by
  obtain ⟨within, rfl⟩ := settle_eq_ok.mp ok
  have size := Context.overflows_eq_false.mp within
  refine settle_eq_ok.mpr ?_
  rw [add_zero, Context.rounded_rounded]
  refine ⟨Context.overflows_eq_false.mpr ?_, rfl⟩
  rwa [Context.rounded_rounded]

theorem settled_infinity (negative : Bool) : (infinity negative).Settled := rfl

theorem settled_nan : (nan false).Settled := rfl

theorem settled_add (ok : add first second = .ok result) : result.Settled := by
  by_cases isNan : first.isNan = true ∨ second.isNan = true
  · rw [add_of_nan isNan ok]
    exact settled_nan
  simp only [not_or, Bool.not_eq_true] at isNan
  cases first with
  | nan signaling => cases isNan.1
  | infinity negative =>
      rw [add_infinity isNan.2 ok]
      exact settled_infinity negative
  | finite value =>
      cases second with
      | nan signaling => cases isNan.2
      | infinity negative =>
          rw [add_comm] at ok
          rw [add_infinity rfl ok]
          exact settled_infinity negative
      | finite other => exact settled_of_settle ok

theorem settled_sub (ok : sub first second = .ok result) : result.Settled := settled_add ok

/-- What is taken off does not raise a value that the context keeps. -/
theorem sub_le_of_nonneg (settled : first.Settled) (nonneg : 0 ≤ second)
    (ok : sub first second = .ok result) : result ≤ first :=
  add_mono le_rfl (negated_le_negated nonneg) ok settled

theorem settled_zero : (0 : Decimal).Settled := by
  unfold Settled
  decide +kernel

/-- A mean of what the context keeps does not overflow. -/
theorem div_ofNat_ok {value : Decimal} {count : Nat} (settled : value.Settled)
    (some_ : 0 < count) : ∃ result, value.div (ofNat count) = .ok result := by
  have positive : (0 : Rat) < count := by exact_mod_cast some_
  cases value with
  | finite value =>
      obtain ⟨within, same⟩ := settle_eq_ok.mp settled
      have kept : context.rounded value = value := by
        have same := finite.inj same
        rwa [add_zero] at same
      rw [add_zero] at within
      have below := Context.overflows_eq_false.mp within
      rw [kept] at below
      have representable : context.Representable value :=
        kept ▸ Context.rounded_representable value
      have smaller : |value / count| ≤ |value| := by
        rw [abs_div, abs_of_pos positive]
        exact div_le_self (abs_nonneg value) (by exact_mod_cast some_)
      have fits := Context.not_overflows_of_abs_le representable below smaller
      exact ⟨_, (finite_div positive).trans (settle_eq_ok.mpr ⟨fits, rfl⟩)⟩
  | infinity negative => exact ⟨_, rfl⟩
  | nan signaling =>
      cases signaling with
      | true => cases settled
      | false => exact ⟨_, rfl⟩

/-- Nor does a share of a count. -/
theorem ofNat_div_ofNat_ok {part count : Nat} (atMost : part ≤ count) (some_ : 0 < count) :
    ∃ result, (ofNat part).div (ofNat count) = .ok result := by
  have positive : (0 : Rat) < count := by exact_mod_cast some_
  have representable : context.Representable 1 := ⟨1, 0, by decide, by decide, by simp⟩
  have smaller : |(part : Rat) / count| ≤ |1| := by
    rw [abs_div, abs_of_pos positive, Nat.abs_cast, abs_one, div_le_one positive]
    exact_mod_cast atMost
  have below : |(1 : Rat)| < 10 ^ (context.emax + 1) := by
    rw [abs_one]
    exact one_lt_zpow₀ (by norm_num) (by decide)
  have fits := Context.not_overflows_of_abs_le representable below smaller
  exact ⟨_, (finite_div positive).trans (settle_eq_ok.mpr ⟨fits, rfl⟩)⟩

/-! ### Sums of a list -/

section Sums

variable {values larger : List Decimal} {start final : Decimal}

theorem foldlM_add_mono (all : List.Forall₂ (· ≤ ·) values larger) (ordered : first ≤ second)
    (ok : values.foldlM add first = .ok result) (okOther : larger.foldlM add second = .ok other) :
    result ≤ other := by
  induction all generalizing first second with
  | nil =>
      cases ok
      cases okOther
      exact ordered
  | cons here _ ih =>
      rw [List.foldlM_cons] at ok okOther
      obtain ⟨next, added, ok⟩ := bind_eq_ok.mp ok
      obtain ⟨nextOther, addedOther, okOther⟩ := bind_eq_ok.mp okOther
      exact ih (add_mono ordered here added addedOther) ok okOther

theorem settled_of_foldlM (settled : start.Settled) (ok : values.foldlM add start = .ok final) :
    final.Settled := by
  induction values generalizing start with
  | nil =>
      cases ok
      exact settled
  | cons value rest ih =>
      rw [List.foldlM_cons] at ok
      obtain ⟨sum, added, ok⟩ := bind_eq_ok.mp ok
      exact ih (settled_add added) ok

theorem foldlM_add_nonneg (all : ∀ value ∈ values, 0 ≤ value) (nonneg : 0 ≤ start)
    (ok : values.foldlM add start = .ok final) : 0 ≤ final := by
  induction values generalizing start with
  | nil =>
      cases ok
      exact nonneg
  | cons value rest ih =>
      rw [List.forall_mem_cons] at all
      rw [List.foldlM_cons] at ok
      obtain ⟨next, added, ok⟩ := bind_eq_ok.mp ok
      exact ih all.2 (add_nonneg nonneg all.1 added) ok

end Sums

end Results

/-! ### Columns -/

/-- A finite value of so many digits in all, and so many behind the point. -/
def Fits (digits places : Nat) (value : Decimal) : Prop :=
  ∃ count : Int, |count| < 10 ^ digits ∧ value = finite (count / 10 ^ places)

theorem Fits.settled {digits places : Nat} {value : Decimal} (fits : value.Fits digits places)
    (few : digits ≤ 28) (short : places ≤ 1000026) : value.Settled := by
  obtain ⟨count, within, rfl⟩ := fits
  have most : |count| ≤ 10 ^ 28 := within.le.trans (pow_le_pow_right₀ (by norm_num) few)
  have scaled : (count / 10 ^ places : Rat) = count * 10 ^ (-places : Int) := by
    rw [zpow_neg, zpow_natCast, div_eq_mul_inv]
  have representable : context.Representable (count / 10 ^ places) := by
    refine ⟨count, -places, ?_, most, scaled⟩
    change (-999999 - ((28 : Nat) - 1) : Int) ≤ -places
    omega
  have size : |(count / 10 ^ places : Rat)| < 10 ^ (context.emax + 1) := by
    have whole : |(count / 10 ^ places : Rat)| ≤ |(count : Rat)| := by
      rw [abs_div, abs_of_pos (by positivity : (0 : Rat) < 10 ^ places)]
      exact div_le_self (abs_nonneg _) (one_le_pow₀ (by norm_num))
    have below : |(count : Rat)| ≤ 10 ^ (28 : Int) := by exact_mod_cast most
    exact (whole.trans below).trans_lt (zpow_lt_zpow_right₀ (by norm_num) (by decide))
  refine settle_eq_ok.mpr ?_
  rw [add_zero, representable.rounded]
  refine ⟨Context.overflows_eq_false.mpr ?_, rfl⟩
  rwa [representable.rounded]

end Decimal

end PythonDecimal
