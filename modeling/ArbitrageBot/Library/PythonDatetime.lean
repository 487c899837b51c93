/-
Timestamps with and without a time zone, as Python compares them: two of the same kind compare,
two of different kinds raise. A naive timestamp that is read as UTC compares with every aware one.
-/

import Mathlib.Data.List.Basic

namespace PythonDatetime

/-- Microseconds on a clock, and how far that clock is ahead of UTC; a naive timestamp does not
say. -/
structure Datetime where
  wall : Int
  offset : Option Int
deriving DecidableEq

/-- `datetime.now(timezone.utc)` at an instant. -/
def utc (instant : Int) : Datetime := { wall := instant, offset := some 0 }

def mixedComparison : String := "can't compare offset-naive and offset-aware datetimes"

namespace Datetime

variable (datetime : Datetime)

def isAware : Bool := datetime.offset.isSome

/-- The instant that is meant, if no zone means UTC. -/
def instant : Int := datetime.wall - datetime.offset.getD 0

/-- `replace(tzinfo=timezone.utc)` of a naive timestamp, `astimezone(timezone.utc)` of others. -/
def inUtc : Datetime :=
  match datetime.offset with
  | none => { datetime with offset := some 0 }
  | some offset => { wall := datetime.wall - offset, offset := some 0 }

/-- `datetime > other` -/
def after (other : Datetime) : Except String Bool :=
  match datetime.offset, other.offset with
  | none, none => .ok (other.wall < datetime.wall)
  | some offset, some otherOffset => .ok (other.wall - otherOffset < datetime.wall - offset)
  | _, _ => .error mixedComparison

variable {datetime}

theorem instant_utc (instant : Int) : (utc instant).instant = instant := Int.sub_zero instant

theorem inUtc_eq : datetime.inUtc = utc datetime.instant := by
  unfold inUtc utc instant
  split <;> simp_all

theorem after_utc_of_aware (aware : datetime.isAware = true) (now : Int) :
    datetime.after (utc now) = .ok (now < datetime.instant) := by
  obtain ⟨offset, zone⟩ := Option.isSome_iff_exists.mp aware
  simp [after, instant, zone, utc]

theorem after_utc_of_naive (naive : datetime.isAware = false) (now : Int) :
    datetime.after (utc now) = .error mixedComparison := by
  have zone : datetime.offset = none := by simpa [isAware] using naive
  simp [after, zone, utc]

theorem inUtc_after (now : Int) :
    datetime.inUtc.after (utc now) = .ok (now < datetime.instant) := by
  rw [inUtc_eq, after_utc_of_aware rfl, instant_utc]

end Datetime

/-! ### Counting by a test that may raise -/

section Count

variable {α ε : Type*} {check : α → Except ε Bool} {rows : List α}

/-- `sum(1 for row in rows if check(row))` -/
def countWhere (check : α → Except ε Bool) : List α → Except ε Nat
  | [] => .ok 0
  | row :: rest => do
      let counted ← check row
      let others ← countWhere check rest
      return if counted then others + 1 else others

theorem countWhere_ok {test : α → Bool} (checked : ∀ row ∈ rows, check row = .ok (test row)) :
    countWhere check rows = .ok (rows.countP test) := by
  induction rows with
  | nil => rfl
  | cons row rest ih =>
      obtain ⟨here, behind⟩ := List.forall_mem_cons.mp checked
      rw [countWhere, here, ih behind, List.countP_cons]
      cases test row <;> rfl

theorem checked_of_countWhere {count : Nat} (counted : countWhere check rows = .ok count) :
    ∀ row ∈ rows, ∃ found, check row = .ok found := by
  induction rows generalizing count with
  | nil => exact fun row member => absurd member List.not_mem_nil
  | cons row rest ih =>
      rw [countWhere] at counted
      cases here : check row with
      | error raised =>
          rw [here] at counted
          cases counted
      | ok found =>
          rw [here] at counted
          cases behind : countWhere check rest with
          | error raised =>
              simp only [behind] at counted
              cases counted
          | ok others => exact List.forall_mem_cons.mpr ⟨⟨found, here⟩, ih behind⟩

end Count

end PythonDatetime
