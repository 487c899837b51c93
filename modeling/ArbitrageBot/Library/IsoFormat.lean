/-
The text that Python's `datetime.isoformat` writes and `datetime.fromisoformat` reads back: fixed
fields with leading zeros, a fraction only where there is one, and the distance from UTC in hours
and minutes where there is a zone. Other ISO 8601 forms, which Python also reads, are not written
and not read here.
-/

import Mathlib.Algebra.Group.Nat.Defs
import ArbitrageBot.Library.Calendar
import ArbitrageBot.Library.PythonDatetime

namespace IsoFormat

open Calendar PythonDatetime

/-- A `datetime` of a zone that is so many minutes ahead of UTC, or of none. -/
structure CivilTime where
  date : Date
  hour : Nat
  minute : Nat
  second : Nat
  microsecond : Nat
  offset : Option Int
deriving DecidableEq

def CivilTime.valid (time : CivilTime) : Bool :=
  time.date.valid && time.hour < 24 && time.minute < 60 && time.second < 60 &&
    time.microsecond < 1000000 && time.offset.all fun minutes => minutes.natAbs < 1440

/-! ### Writing -/

def digit (value : Nat) : Char := Char.ofNat (48 + value)

/-- A number with leading zeros, `%0{width}d`. -/
def pad : Nat → Nat → List Char
  | 0, _ => []
  | width + 1, value => pad width (value / 10) ++ [digit (value % 10)]

def fractionText (microsecond : Nat) : List Char :=
  if microsecond = 0 then [] else '.' :: pad 6 microsecond

def offsetText : Option Int → List Char
  | none => []
  | some minutes =>
      (if minutes < 0 then '-' else '+') ::
        (pad 2 (minutes.natAbs / 60) ++ ':' :: pad 2 (minutes.natAbs % 60))

def isoformat (time : CivilTime) : String :=
  String.ofList (pad 4 time.date.year ++ '-' :: (pad 2 time.date.month ++ '-' ::
    (pad 2 time.date.day ++ 'T' :: (pad 2 time.hour ++ ':' :: (pad 2 time.minute ++ ':' ::
      (pad 2 time.second ++ (fractionText time.microsecond ++ offsetText time.offset)))))))

/-! ### Reading -/

def digitValue (char : Char) : Option Nat :=
  if '0' ≤ char ∧ char ≤ '9' then some (char.toNat - 48) else none

def readDigits : Nat → List Char → Option Nat
  | value, [] => some value
  | value, char :: rest => do
      let next ← digitValue char
      readDigits (value * 10 + next) rest

/-- The number in so many characters, and what follows. -/
def number (width : Nat) (text : List Char) : Option (Nat × List Char) :=
  if text.length < width then none
  else (readDigits 0 (text.take width)).map fun value => (value, text.drop width)

def skip (expected : Char) (text : List Char) : Option (List Char) :=
  if text.head? = some expected then some text.tail else none

def readFraction (text : List Char) : Option (Nat × List Char) :=
  if text.head? = some '.' then number 6 text.tail else some (0, text)

def readOffset (text : List Char) : Option (Option Int) :=
  if text = [] then some none
  else do
    let sign : Int ←
      if text.head? = some '-' then some (-1) else if text.head? = some '+' then some 1 else none
    let hours ← number 2 text.tail
    let afterHours ← skip ':' hours.2
    let minutes ← number 2 afterHours
    if minutes.2 = [] then some (some (sign * (hours.1 * 60 + minutes.1 : Nat))) else none

def fromisoformat (text : String) : Option CivilTime := do
  let year ← number 4 text.toList
  let afterYear ← skip '-' year.2
  let month ← number 2 afterYear
  let afterMonth ← skip '-' month.2
  let day ← number 2 afterMonth
  let afterDay ← skip 'T' day.2
  let hour ← number 2 afterDay
  let afterHour ← skip ':' hour.2
  let minute ← number 2 afterHour
  let afterMinute ← skip ':' minute.2
  let second ← number 2 afterMinute
  let fraction ← readFraction second.2
  let offset ← readOffset fraction.2
  let time : CivilTime :=
    { date := { year := year.1, month := month.1, day := day.1 }
      hour := hour.1, minute := minute.1, second := second.1, microsecond := fraction.1, offset }
  if time.valid then some time else none

/-! ### Reading what is written -/

section Digits

variable {width value : Nat} {rest : List Char}

theorem length_pad (width value : Nat) : (pad width value).length = width := by
  induction width generalizing value with
  | zero => rfl
  | succ width ih => rw [pad, List.length_append, ih, List.length_singleton]

theorem digitValue_digit : ∀ value < 10, digitValue (digit value) = some value := by
  decide

theorem readDigits_append (start : Nat) (front back : List Char) :
    readDigits start (front ++ back) = (readDigits start front).bind fun read =>
      readDigits read back := by
  induction front generalizing start with
  | nil => rfl
  | cons char front ih =>
      rw [List.cons_append, readDigits, readDigits]
      cases digitValue char with
      | none => rfl
      | some next => exact ih (start * 10 + next)

theorem readDigits_pad (small : value < 10 ^ width) :
    readDigits 0 (pad width value) = some value := by
  induction width generalizing value with
  | zero =>
      have zero : value = 0 := by omega
      rw [zero]
      rfl
  | succ width ih =>
      have smaller : value / 10 < 10 ^ width := by
        rw [Nat.pow_succ] at small
        omega
      have last : value % 10 < 10 := Nat.mod_lt _ (by decide)
      rw [pad, readDigits_append, ih smaller, Option.bind_some, readDigits, digitValue_digit _ last]
      have whole : value / 10 * 10 + value % 10 = value := by omega
      rw [Option.bind_eq_bind, Option.bind_some, readDigits, whole]

theorem number_pad (small : value < 10 ^ width) :
    number width (pad width value ++ rest) = some (value, rest) := by
  have length := length_pad width value
  rw [number, if_neg (by rw [List.length_append]; omega), List.take_left' length,
    List.drop_left' length, readDigits_pad small]
  rfl

theorem skip_cons (char : Char) : skip char (char :: rest) = some rest := by
  rw [skip, List.head?_cons, if_pos rfl, List.tail_cons]

end Digits

theorem readFraction_written {microsecond : Nat} (small : microsecond < 1000000)
    {rest : List Char} (noFraction : rest.head? ≠ some '.') :
    readFraction (fractionText microsecond ++ rest) = some (microsecond, rest) := by
  unfold fractionText
  split
  · rename_i zero
    rw [List.nil_append, readFraction, if_neg noFraction, zero]
  · rw [List.cons_append, readFraction, List.head?_cons, if_pos rfl, List.tail_cons]
    exact number_pad small

theorem offsetText_head (offset : Option Int) : (offsetText offset).head? ≠ some '.' := by
  cases offset with
  | none => intro absent; cases absent
  | some minutes =>
      rw [offsetText, List.head?_cons]
      split <;> decide

theorem readOffset_written {offset : Option Int}
    (small : ∀ minutes, offset = some minutes → minutes.natAbs < 1440) :
    readOffset (offsetText offset) = some offset := by
  cases offset with
  | none => rfl
  | some minutes =>
      have bounded := small minutes rfl
      have hours := @number_pad 2 (minutes.natAbs / 60)
        (':' :: pad 2 (minutes.natAbs % 60)) (by omega)
      have rest := @number_pad 2 (minutes.natAbs % 60) [] (by omega)
      rw [List.append_nil] at rest
      have whole : minutes.natAbs / 60 * 60 + minutes.natAbs % 60 = minutes.natAbs := by omega
      unfold readOffset offsetText
      by_cases negative : minutes < 0
      · have value : -1 * (minutes.natAbs : Int) = minutes := by omega
        simp only [negative, if_true, List.head?_cons, List.tail_cons, Option.bind_eq_bind,
          Option.bind_some, hours, skip_cons, rest, whole, value, reduceCtorEq, if_false]
      · have value : 1 * (minutes.natAbs : Int) = minutes := by omega
        have plus : some '+' ≠ some '-' := by decide
        simp only [negative, if_true, List.head?_cons, List.tail_cons, Option.bind_eq_bind,
          Option.bind_some, hours, skip_cons, rest, whole, value, reduceCtorEq, if_false, plus]

/-- What is written is read back, to the microsecond and with its zone. -/
theorem fromisoformat_isoformat {time : CivilTime} (valid : time.valid = true) :
    fromisoformat (isoformat time) = some time := by
  have bounds := valid
  simp only [CivilTime.valid, Date.valid, Bool.and_eq_true, decide_eq_true_eq] at bounds
  obtain ⟨⟨⟨⟨⟨⟨⟨⟨⟨⟨-, year⟩, -⟩, month⟩, -⟩, day⟩, hour⟩, minute⟩, second⟩, microsecond⟩, offset⟩ :=
    bounds
  have days : time.date.day < 10 ^ 2 := by
    have within := daysInMonth_le (isLeap time.date.year) time.date.month month
    omega
  have zone : ∀ minutes, time.offset = some minutes → minutes.natAbs < 1440 := by
    intro minutes has
    simpa [has] using offset
  simp only [fromisoformat, isoformat, String.toList_ofList, Option.bind_eq_bind, Option.bind_some,
    @number_pad 4 _ _ (show time.date.year < 10 ^ 4 by omega),
    @number_pad 2 _ _ (show time.date.month < 10 ^ 2 by omega), number_pad days,
    @number_pad 2 _ _ (show time.hour < 10 ^ 2 by omega),
    @number_pad 2 _ _ (show time.minute < 10 ^ 2 by omega),
    @number_pad 2 _ _ (show time.second < 10 ^ 2 by omega), skip_cons,
    readFraction_written microsecond (offsetText_head time.offset), readOffset_written zone]
  exact if_pos valid

/-! ### Timestamps -/

def dayLength : Int := 86400000000

/-- The ordinal of 1 January 1970, from which timestamps count. -/
def epoch : Int := 719163

def minuteLength : Int := 60000000

def CivilTime.datetime (time : CivilTime) : Datetime :=
  { wall := (time.date.toOrdinal - epoch) * dayLength +
      ((time.hour * 3600 + time.minute * 60 + time.second) * 1000000 + time.microsecond : Nat)
    offset := time.offset.map fun minutes => minutes * minuteLength }

def civil (datetime : Datetime) : CivilTime :=
  let inDay := (datetime.wall % dayLength).toNat
  { date := ofOrdinal (datetime.wall / dayLength + epoch).toNat
    hour := inDay / 3600000000
    minute := inDay / 60000000 % 60
    second := inDay / 1000000 % 60
    microsecond := inDay % 1000000
    offset := datetime.offset.map fun offset => offset / minuteLength }

/-- The day is one of those that `datetime` has. -/
def onCalendar (wall : Int) : Prop :=
  1 ≤ wall / dayLength + epoch ∧ wall / dayLength + epoch ≤ maxOrdinal

/-- The zone is a whole number of minutes, less than a day of them. -/
structure Representable (datetime : Datetime) : Prop where
  day : onCalendar datetime.wall
  zone : ∀ offset, datetime.offset = some offset →
    offset % minuteLength = 0 ∧ (offset / minuteLength).natAbs < 1440

theorem representable_utc {instant : Int} (day : onCalendar instant) :
    Representable (utc instant) := by
  refine ⟨day, ?_⟩
  rintro offset ⟨⟩
  decide

section Timestamps

variable {datetime : Datetime}

theorem civil_valid (representable : Representable datetime) :
    (civil datetime).valid = true := by
  obtain ⟨⟨first, last⟩, zone⟩ := representable
  have date := @ofOrdinal_valid (datetime.wall / dayLength + epoch).toNat (by omega) (by omega)
  have within : (datetime.wall % dayLength).toNat < 86400000000 := by
    unfold dayLength
    omega
  unfold CivilTime.valid civil
  simp only [Bool.and_eq_true, decide_eq_true_eq]
  refine ⟨⟨⟨⟨⟨date, by omega⟩, by omega⟩, by omega⟩, by omega⟩, ?_⟩
  cases has : datetime.offset with
  | none => rfl
  | some offset => exact decide_eq_true (zone offset has).2

theorem datetime_civil (representable : Representable datetime) :
    (civil datetime).datetime = datetime := by
  obtain ⟨wall, offset⟩ := datetime
  obtain ⟨⟨first, last⟩, zone⟩ := representable
  dsimp only at first last zone
  have date := @toOrdinal_ofOrdinal (wall / dayLength + epoch).toNat (by omega)
  have sameWall : (civil ⟨wall, offset⟩).datetime.wall = wall := by
    simp only [CivilTime.datetime, civil, date]
    have parts := Int.mul_ediv_add_emod wall dayLength
    unfold dayLength epoch at *
    omega
  have sameOffset : (civil ⟨wall, offset⟩).datetime.offset = offset := by
    cases offset with
    | none => rfl
    | some offset =>
        have whole := (zone offset rfl).1
        simp only [CivilTime.datetime, civil, Option.map_some]
        unfold minuteLength at *
        congr 1
        omega
  rw [Datetime.mk.injEq]
  exact ⟨sameWall, sameOffset⟩

end Timestamps

/-- `datetime.isoformat()` -/
def text (datetime : Datetime) : String := isoformat (civil datetime)

/-- `datetime.fromisoformat(text)`, `none` where it raises. -/
def parse (text : String) : Option Datetime := (fromisoformat text).map CivilTime.datetime

theorem parse_text {datetime : Datetime} (representable : Representable datetime) :
    parse (text datetime) = some datetime := by
  rw [parse, text, fromisoformat_isoformat (civil_valid representable), Option.map_some,
    datetime_civil representable]

example : text (utc 1709210096000123) = "2024-02-29T12:34:56.000123+00:00" := by decide

example : parse "2023-02-29T12:34:56+00:00" = none := by decide

/-- The naive time of the same wall clock is written without the zone. -/
theorem text_utc (instant : Int) :
    text (utc instant) = text { wall := instant, offset := none } ++ "+00:00" := by
  rw [← String.toList_inj, String.toList_append]
  simp only [text, isoformat, String.toList_ofList, civil, utc, Option.map_some, Option.map_none,
    offsetText, List.append_nil, List.append_assoc, List.cons_append]
  rfl

theorem text_ne_empty (datetime : Datetime) : text datetime ≠ "" := by
  intro empty
  have length := congrArg (fun written : String => written.toList.length) empty
  simp [text, isoformat] at length

end IsoFormat
