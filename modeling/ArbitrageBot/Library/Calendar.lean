/-
Days of the proleptic Gregorian calendar by number, day 1 being 1 January of year 1, as Python's
`datetime` module counts them: to a date by whole cycles of 400, 100 and 4 years, and back by the
days before a year and a month.
-/

import Mathlib.Data.List.Basic

namespace Calendar

def isLeap (year : Nat) : Bool := year % 4 = 0 && (year % 100 ≠ 0 || year % 400 = 0)

def daysBeforeYear (year : Nat) : Nat :=
  let past := year - 1
  past * 365 + past / 4 - past / 100 + past / 400

def daysInMonth (leap : Bool) (month : Nat) : Nat :=
  [31, 28, 31, 30, 31, 30, 31, 31, 30, 31, 30, 31].getD (month - 1) 0 +
    if leap && month = 2 then 1 else 0

def daysBeforeMonth (leap : Bool) (month : Nat) : Nat :=
  [0, 31, 59, 90, 120, 151, 181, 212, 243, 273, 304, 334].getD (month - 1) 0 +
    if leap && 2 < month then 1 else 0

structure Date where
  year : Nat
  month : Nat
  day : Nat
deriving DecidableEq

namespace Date

/-- The years that Python has. -/
def valid (date : Date) : Bool :=
  1 ≤ date.year && date.year ≤ 9999 && 1 ≤ date.month && date.month ≤ 12 && 1 ≤ date.day &&
    date.day ≤ daysInMonth (isLeap date.year) date.month

/-- `_ymd2ord` -/
def toOrdinal (date : Date) : Nat :=
  daysBeforeYear date.year + daysBeforeMonth (isLeap date.year) date.month + date.day

end Date

/-- Month and day of a day of the year, counted from 0; December is never more than one month
behind the estimate. -/
def monthDay (leap : Bool) (dayOfYear : Nat) : Nat × Nat :=
  let month := (dayOfYear + 50) / 32
  let preceding := daysBeforeMonth leap month
  if dayOfYear < preceding then
    (month - 1, dayOfYear - (preceding - daysInMonth leap (month - 1)) + 1)
  else (month, dayOfYear - preceding + 1)

/-- The last ordinal, 31 December 9999. -/
def maxOrdinal : Nat := 3652059

/-- `_ord2ymd` -/
def ofOrdinal (ordinal : Nat) : Date :=
  let days := ordinal - 1
  let n400 := days / 146097
  let in400 := days % 146097
  let n100 := in400 / 36524
  let in100 := in400 % 36524
  let n4 := in100 / 1461
  let in4 := in100 % 1461
  let n1 := in4 / 365
  let year := n400 * 400 + 1 + n100 * 100 + n4 * 4 + n1
  if n1 = 4 ∨ n100 = 4 then { year := year - 1, month := 12, day := 31 }
  else
    let leap : Bool := n1 = 3 && (n4 ≠ 24 || n100 = 3)
    let place := monthDay leap (in4 % 365)
    { year, month := place.1, day := place.2 }

/-! ### Months -/

theorem daysInMonth_le : ∀ leap : Bool, ∀ month ≤ 12, daysInMonth leap month ≤ 31 := by
  decide

structure Placed (leap : Bool) (dayOfYear : Nat) (place : Nat × Nat) : Prop where
  counted : daysBeforeMonth leap place.1 + place.2 = dayOfYear + 1
  month : 1 ≤ place.1 ∧ place.1 ≤ 12
  day : 1 ≤ place.2 ∧ place.2 ≤ daysInMonth leap place.1

theorem monthDay_checked :
    ∀ leap : Bool, ∀ dayOfYear ∈ List.range 365,
      daysBeforeMonth leap (monthDay leap dayOfYear).1 + (monthDay leap dayOfYear).2 =
          dayOfYear + 1 ∧
        (1 ≤ (monthDay leap dayOfYear).1 ∧ (monthDay leap dayOfYear).1 ≤ 12) ∧
        1 ≤ (monthDay leap dayOfYear).2 ∧
        (monthDay leap dayOfYear).2 ≤ daysInMonth leap (monthDay leap dayOfYear).1 := by
  decide +kernel

theorem monthDay_placed (leap : Bool) {dayOfYear : Nat} (inYear : dayOfYear < 365) :
    Placed leap dayOfYear (monthDay leap dayOfYear) := by
  obtain ⟨counted, month, day⟩ := monthDay_checked leap dayOfYear (List.mem_range.mpr inYear)
  exact ⟨counted, month, day⟩

/-! ### Years -/

section Years

variable {n400 n100 n4 n1 : Nat}

/-- The year that is so many whole cycles and years after year 1. -/
theorem isLeap_year (centuries : n100 ≤ 3) (cycles : n4 ≤ 24) (years : n1 ≤ 3) :
    isLeap (n400 * 400 + 1 + n100 * 100 + n4 * 4 + n1) = (n1 = 3 && (n4 ≠ 24 || n100 = 3)) := by
  rw [Bool.eq_iff_iff]
  simp only [isLeap, Bool.and_eq_true, Bool.or_eq_true, decide_eq_true_eq, ne_eq]
  omega

theorem daysBeforeYear_year (centuries : n100 ≤ 3) (cycles : n4 ≤ 24) (years : n1 ≤ 3) :
    daysBeforeYear (n400 * 400 + 1 + n100 * 100 + n4 * 4 + n1) =
      n400 * 146097 + n100 * 36524 + n4 * 1461 + n1 * 365 := by
  simp only [daysBeforeYear]
  omega

end Years

/-- A date whose ordinal is this one and whose month and day exist. -/
structure Date.Spells (date : Date) (ordinal : Nat) : Prop where
  counted : date.toOrdinal = ordinal
  year : 1 ≤ date.year
  month : 1 ≤ date.month ∧ date.month ≤ 12
  day : 1 ≤ date.day ∧ date.day ≤ daysInMonth (isLeap date.year) date.month

theorem spells_place {n400 n100 n4 n1 dayOfYear : Nat} (centuries : n100 ≤ 3) (cycles : n4 ≤ 24)
    (years : n1 ≤ 3) {place : Nat × Nat}
    (placed : Placed (n1 = 3 && (n4 ≠ 24 || n100 = 3)) dayOfYear place) :
    Date.Spells ⟨n400 * 400 + 1 + n100 * 100 + n4 * 4 + n1, place.1, place.2⟩
      (n400 * 146097 + n100 * 36524 + n4 * 1461 + n1 * 365 + dayOfYear + 1) := by
  have counted := placed.counted
  constructor
  · rw [Date.toOrdinal]
    dsimp only
    rw [daysBeforeYear_year centuries cycles years, isLeap_year centuries cycles years]
    omega
  · dsimp only
    omega
  · exact placed.month
  · dsimp only
    rw [isLeap_year centuries cycles years]
    exact placed.day

/-- The last day of a leap year. -/
theorem placed_last : Placed true 365 (12, 31) := by
  constructor <;> decide

theorem ofOrdinal_spells {ordinal : Nat} (positive : 1 ≤ ordinal) :
    (ofOrdinal ordinal).Spells ordinal := by
  unfold ofOrdinal
  dsimp only
  generalize n400Eq : (ordinal - 1) / 146097 = n400
  generalize in400Eq : (ordinal - 1) % 146097 = in400
  generalize n100Eq : in400 / 36524 = n100
  generalize in100Eq : in400 % 36524 = in100
  generalize n4Eq : in100 / 1461 = n4
  generalize in4Eq : in100 % 1461 = in4
  generalize n1Eq : in4 / 365 = n1
  have cycles : n4 ≤ 24 := by omega
  split
  · rename_i last
    by_cases century : n100 = 4
    · -- the last day of a cycle of 400 years
      have spelled := @spells_place n400 3 24 3 365 (by omega) (by omega) (by omega) (12, 31)
        placed_last
      have year : n400 * 400 + 1 + n100 * 100 + n4 * 4 + n1 - 1 =
          n400 * 400 + 1 + 3 * 100 + 24 * 4 + 3 := by omega
      have same : ordinal =
          n400 * 146097 + 3 * 36524 + 24 * 1461 + 3 * 365 + 365 + 1 := by omega
      rw [year, same]
      exact spelled
    · -- the last day of a cycle of four years that is not the last of a century
      have fourth : n1 = 4 := last.resolve_right century
      have leap : (decide (3 = 3) && (decide (n4 ≠ 24) || decide (n100 = 3))) = true := by
        have notLast : n4 ≠ 24 := by omega
        simp [notLast]
      have spelled := @spells_place n400 n100 n4 3 365 (by omega) cycles (by omega) (12, 31)
        (leap ▸ placed_last)
      have year : n400 * 400 + 1 + n100 * 100 + n4 * 4 + n1 - 1 =
          n400 * 400 + 1 + n100 * 100 + n4 * 4 + 3 := by omega
      have same : ordinal =
          n400 * 146097 + n100 * 36524 + n4 * 1461 + 3 * 365 + 365 + 1 := by omega
      rw [year, same]
      exact spelled
  · rename_i within
    obtain ⟨notFourth, notCentury⟩ := not_or.mp within
    have same : ordinal =
        n400 * 146097 + n100 * 36524 + n4 * 1461 + n1 * 365 + in4 % 365 + 1 := by omega
    have spelled := @spells_place n400 n100 n4 n1 (in4 % 365) (by omega) cycles (by omega) _
      (monthDay_placed _ (by omega))
    rw [same]
    exact spelled

theorem toOrdinal_ofOrdinal {ordinal : Nat} (positive : 1 ≤ ordinal) :
    (ofOrdinal ordinal).toOrdinal = ordinal :=
  (ofOrdinal_spells positive).counted

/-- The days before a year are enough to tell how far the years go. -/
theorem year_le_of_toOrdinal {date : Date} (some_ : 1 ≤ date.day)
    (bounded : date.toOrdinal ≤ maxOrdinal) : date.year ≤ 9999 := by
  unfold Date.toOrdinal daysBeforeYear maxOrdinal at bounded
  dsimp only at bounded
  omega

theorem ofOrdinal_valid {ordinal : Nat} (positive : 1 ≤ ordinal) (bounded : ordinal ≤ maxOrdinal) :
    (ofOrdinal ordinal).valid = true := by
  have spells := ofOrdinal_spells positive
  have year := year_le_of_toOrdinal spells.day.1 (spells.counted.symm ▸ bounded)
  simp only [Date.valid, Bool.and_eq_true, decide_eq_true_eq]
  exact ⟨⟨⟨⟨⟨spells.year, year⟩, spells.month.1⟩, spells.month.2⟩, spells.day.1⟩, spells.day.2⟩

end Calendar
