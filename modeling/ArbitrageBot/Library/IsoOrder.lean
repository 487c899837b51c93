/-
The order of ISO texts. Digits have leading zeros and the greatest unit stands first, so whole
seconds of one zone compare as texts just as they compare in time.
-/

import Mathlib.Data.String.Basic
import ArbitrageBot.Library.IsoFormat

namespace Calendar

/-! ### Dates in order -/

theorem monthsAfter_le : ∀ leap : Bool, ∀ month ≤ 12, ∀ later ≤ 12, 1 ≤ month → month < later →
    daysBeforeMonth leap month + daysInMonth leap month ≤ daysBeforeMonth leap later := by
  decide

theorem dayOfYear_le : ∀ leap : Bool, ∀ month ≤ 12, 1 ≤ month →
    daysBeforeMonth leap month + daysInMonth leap month ≤ 365 + if leap then 1 else 0 := by
  decide

theorem succ_div_eq (past unit : Nat) :
    (past + 1) / unit = past / unit + if (past + 1) % unit = 0 then 1 else 0 := by
  rw [Nat.succ_div]
  simp only [Nat.dvd_iff_mod_eq_zero]

theorem daysBeforeYear_succ {year : Nat} (positive : 1 ≤ year) :
    daysBeforeYear (year + 1) = daysBeforeYear year + (365 + if isLeap year then 1 else 0) := by
  obtain ⟨past, rfl⟩ := Nat.exists_eq_add_of_le' positive
  have centuries : past / 100 ≤ past / 4 := by omega
  simp only [daysBeforeYear, Nat.add_sub_cancel, succ_div_eq past, isLeap, Bool.and_eq_true,
    Bool.or_eq_true, decide_eq_true_eq, ne_eq]
  by_cases four : (past + 1) % 4 = 0
  · by_cases hundred : (past + 1) % 100 = 0
    · by_cases fourHundred : (past + 1) % 400 = 0
      · simp only [four, hundred, fourHundred, not_true_eq_false, or_true, and_true, if_true]
        omega
      · simp only [four, hundred, fourHundred, not_true_eq_false, or_false, and_false, if_true,
          if_false]
        omega
    · have notFourHundred : ¬(past + 1) % 400 = 0 := by omega
      simp only [four, hundred, notFourHundred, not_false_eq_true, or_false, and_true, if_true,
        if_false]
      omega
  · have notHundred : ¬(past + 1) % 100 = 0 := by omega
    have notFourHundred : ¬(past + 1) % 400 = 0 := by omega
    simp only [four, notHundred, notFourHundred, false_and, if_false]
    omega

theorem yearsAfter_le {year later : Nat} (positive : 1 ≤ year) (before : year < later) :
    daysBeforeYear year + (365 + if isLeap year then 1 else 0) ≤ daysBeforeYear later := by
  induction later, before using Nat.le_induction with
  | base => rw [daysBeforeYear_succ positive]
  | succ later reached ih =>
      rw [daysBeforeYear_succ (by omega)]
      omega

def Date.before (one other : Date) : Prop :=
  one.year < other.year ∨ one.year = other.year ∧
    (one.month < other.month ∨ one.month = other.month ∧ one.day < other.day)

theorem Date.before_trichotomy (one other : Date) :
    one.before other ∨ one = other ∨ other.before one := by
  obtain ⟨year, month, day⟩ := one
  obtain ⟨year', month', day'⟩ := other
  simp only [Date.before, Date.mk.injEq]
  omega

theorem toOrdinal_lt_of_before {one other : Date} (valid : one.valid = true)
    (valid' : other.valid = true) (before : one.before other) :
    one.toOrdinal < other.toOrdinal := by
  simp only [Date.valid, Bool.and_eq_true, decide_eq_true_eq] at valid valid'
  obtain ⟨⟨⟨⟨⟨year, -⟩, month⟩, month12⟩, -⟩, day⟩ := valid
  obtain ⟨⟨⟨⟨-, -⟩, month12'⟩, day'⟩, -⟩ := valid'
  have inYear := dayOfYear_le (isLeap one.year) one.month month12 month
  unfold Date.toOrdinal
  rcases before with years | ⟨sameYear, months | ⟨sameMonth, days⟩⟩
  · have after := yearsAfter_le year years
    omega
  · have after := monthsAfter_le (isLeap one.year) one.month month12 other.month month12' month
      months
    rw [← sameYear]
    omega
  · rw [← sameYear, ← sameMonth]
    omega

theorem toOrdinal_lt_iff {one other : Date} (valid : one.valid = true)
    (valid' : other.valid = true) : one.toOrdinal < other.toOrdinal ↔ one.before other := by
  refine ⟨fun less => ?_, toOrdinal_lt_of_before valid valid'⟩
  rcases one.before_trichotomy other with before | rfl | after
  · exact before
  · exact absurd less (lt_irrefl _)
  · exact absurd less (toOrdinal_lt_of_before valid' valid after).asymm

end Calendar

namespace IsoFormat

open Calendar PythonDatetime

/-! ### Digits in order -/

theorem digit_lt : ∀ one < 10, ∀ other < 10, digit one < digit other ↔ one < other := by
  decide

theorem digit_inj : ∀ one < 10, ∀ other < 10, digit one = digit other ↔ one = other := by
  decide

theorem pad_lt {width one other : Nat} {front back : List Char} (small : one < 10 ^ width)
    (small' : other < 10 ^ width) :
    pad width one ++ front < pad width other ++ back ↔
      one < other ∨ one = other ∧ front < back := by
  induction width generalizing one other front back with
  | zero =>
      have zero : one = 0 := by omega
      have zero' : other = 0 := by omega
      simp only [zero, zero', pad, List.nil_append, lt_self_iff_false, false_or, true_and]
  | succ width ih =>
      rw [Nat.pow_succ] at small small'
      have last : one % 10 < 10 := Nat.mod_lt _ (by decide)
      have last' : other % 10 < 10 := Nat.mod_lt _ (by decide)
      rw [pad, pad, List.append_assoc, List.append_assoc, ih (by omega) (by omega),
        List.singleton_append, List.singleton_append, List.cons_lt_cons_iff,
        digit_lt _ last _ last', digit_inj _ last _ last']
      constructor
      · rintro (less | ⟨same, less | ⟨lastSame, rest⟩⟩)
        · exact .inl (by omega)
        · exact .inl (by omega)
        · exact .inr ⟨by omega, rest⟩
      · rintro (less | ⟨rfl, rest⟩)
        · by_cases same : one / 10 = other / 10
          · exact .inr ⟨same, .inl (by omega)⟩
          · exact .inl (by omega)
        · exact .inr ⟨rfl, .inr ⟨rfl, rest⟩⟩

theorem cons_lt (char : Char) {front back : List Char} :
    char :: front < char :: back ↔ front < back := by
  rw [List.cons_lt_cons_iff]
  simp only [lt_self_iff_false, true_and, false_or]

/-! ### Timestamps in order -/

def CivilTime.secondOfDay (time : CivilTime) : Nat :=
  time.hour * 3600 + time.minute * 60 + time.second

theorem isoformat_lt_iff {one other : CivilTime} (valid : one.valid = true)
    (valid' : other.valid = true) (whole : one.microsecond = 0) (whole' : other.microsecond = 0)
    (sameZone : one.offset = other.offset) :
    isoformat one < isoformat other ↔
      one.date.before other.date ∨
        one.date = other.date ∧ one.secondOfDay < other.secondOfDay := by
  simp only [CivilTime.valid, Date.valid, Bool.and_eq_true, decide_eq_true_eq] at valid valid'
  obtain ⟨⟨⟨⟨⟨⟨⟨⟨⟨⟨-, year⟩, -⟩, month⟩, -⟩, day⟩, hour⟩, minute⟩, second⟩, -⟩, -⟩ := valid
  obtain ⟨⟨⟨⟨⟨⟨⟨⟨⟨⟨-, year'⟩, -⟩, month'⟩, -⟩, day'⟩, hour'⟩, minute'⟩, second'⟩, -⟩, -⟩ := valid'
  have days := daysInMonth_le (isLeap one.date.year) one.date.month month
  have days' := daysInMonth_le (isLeap other.date.year) other.date.month month'
  rw [String.lt_iff_toList_lt]
  simp only [isoformat, String.toList_ofList, whole, whole', sameZone, cons_lt,
    @pad_lt 4 one.date.year other.date.year _ _ (by omega) (by omega),
    @pad_lt 2 one.date.month other.date.month _ _ (by omega) (by omega),
    @pad_lt 2 one.date.day other.date.day _ _ (by omega) (by omega),
    @pad_lt 2 one.hour other.hour _ _ (by omega) (by omega),
    @pad_lt 2 one.minute other.minute _ _ (by omega) (by omega),
    @pad_lt 2 one.second other.second _ _ (by omega) (by omega), lt_self_iff_false, and_false,
    or_false]
  obtain ⟨⟨y, mo, d⟩, h, mi, s, us, zone⟩ := one
  obtain ⟨⟨y', mo', d'⟩, h', mi', s', us', zone'⟩ := other
  simp only [Date.before, Date.mk.injEq, CivilTime.secondOfDay]
  dsimp only at *
  omega

theorem datetime_lt_iff {one other : CivilTime} (valid : one.valid = true)
    (valid' : other.valid = true) (whole : one.microsecond = 0) (whole' : other.microsecond = 0) :
    one.datetime.wall < other.datetime.wall ↔
      one.date.before other.date ∨
        one.date = other.date ∧ one.secondOfDay < other.secondOfDay := by
  have dates : one.date.valid = true ∧ other.date.valid = true := by
    simp only [CivilTime.valid, Bool.and_eq_true] at valid valid'
    exact ⟨valid.1.1.1.1.1, valid'.1.1.1.1.1⟩
  rw [← toOrdinal_lt_iff dates.1 dates.2]
  have same : one.date = other.date ↔ one.date.toOrdinal = other.date.toOrdinal := by
    refine ⟨congrArg Date.toOrdinal, fun equal => ?_⟩
    rcases one.date.before_trichotomy other.date with before | same | after
    · exact absurd equal (toOrdinal_lt_of_before dates.1 dates.2 before).ne
    · exact same
    · exact absurd equal.symm (toOrdinal_lt_of_before dates.2 dates.1 after).ne
  simp only [CivilTime.valid, Bool.and_eq_true, decide_eq_true_eq] at valid valid'
  obtain ⟨⟨⟨⟨⟨-, hour⟩, minute⟩, second⟩, -⟩, -⟩ := valid
  obtain ⟨⟨⟨⟨⟨-, hour'⟩, minute'⟩, second'⟩, -⟩, -⟩ := valid'
  simp only [same, CivilTime.datetime, CivilTime.secondOfDay, whole, whole', dayLength]
  omega

/-- Whole seconds in UTC: the earlier one is the smaller text. -/
theorem text_utc_lt_iff {one other : Int} (day : onCalendar one) (day' : onCalendar other)
    (whole : one % 1000000 = 0) (whole' : other % 1000000 = 0) :
    text (utc one) < text (utc other) ↔ one < other := by
  have valid := civil_valid (representable_utc day)
  have valid' := civil_valid (representable_utc day')
  have microsecond : (civil (utc one)).microsecond = 0 := by
    simp only [civil, utc, dayLength]
    omega
  have microsecond' : (civil (utc other)).microsecond = 0 := by
    simp only [civil, utc, dayLength]
    omega
  rw [text, text, isoformat_lt_iff valid valid' microsecond microsecond' rfl,
    ← datetime_lt_iff valid valid' microsecond microsecond', datetime_civil (representable_utc day),
    datetime_civil (representable_utc day')]
  exact Iff.rfl

end IsoFormat
