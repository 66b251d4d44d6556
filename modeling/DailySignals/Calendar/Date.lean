/-!
# Calendar days

A date is a day of the proleptic Gregorian calendar, counted from 1970-01-01.
Order and distance are those of the day count; year, month and day of the month
are a view of it.  The calendar ends on both sides, and stepping past an end
gives nothing.
-/

set_option autoImplicit false

namespace DailySignals

namespace Calendar

/-- The first day, -262143-01-01. -/
def firstDay : Int := -96465292

/-- The last day, +262142-12-31. -/
def lastDay : Int := 95026236

end Calendar

/-- A day of the calendar. -/
structure Date where
  /-- Days since 1970-01-01. -/
  day : Int
  first_le : Calendar.firstDay ≤ day := by decide
  le_last : day ≤ Calendar.lastDay := by decide
  deriving DecidableEq

/-- A day as it is written. -/
structure CivilDate where
  year : Int
  month : Nat
  day : Nat
  deriving DecidableEq, Repr

namespace CivilDate

def isLeapYear (year : Int) : Bool :=
  year % 4 == 0 && (year % 100 != 0 || year % 400 == 0)

def daysInMonth (year : Int) (month : Nat) : Nat :=
  match month with
  | 2 => if isLeapYear year then 29 else 28
  | 4 | 6 | 9 | 11 => 30
  | _ => 31

/-- Whether the calendar has such a day in the month of that year. -/
def isReal (date : CivilDate) : Bool :=
  1 ≤ date.month && date.month ≤ 12 && 1 ≤ date.day &&
    date.day ≤ daysInMonth date.year date.month

/-- Days since 1970-01-01.  Years are taken to begin in March, so that the
leap day is the last day of its year, and come in eras of 400. -/
def toDayCount (date : CivilDate) : Int :=
  let year := if date.month ≤ 2 then date.year - 1 else date.year
  let month : Int := (date.month + 9) % 12
  let era := year / 400
  let yearOfEra := year % 400
  let dayOfYear := (153 * month + 2) / 5 + date.day - 1
  let dayOfEra := yearOfEra * 365 + yearOfEra / 4 - yearOfEra / 100 + dayOfYear
  era * 146097 + dayOfEra - 719468

/-- The written form of a day count. -/
def ofDayCount (count : Int) : CivilDate :=
  let shifted := count + 719468
  let era := shifted / 146097
  let dayOfEra := shifted % 146097
  let yearOfEra :=
    (dayOfEra - dayOfEra / 1460 + dayOfEra / 36524 - dayOfEra / 146096) / 365
  let dayOfYear := dayOfEra - (365 * yearOfEra + yearOfEra / 4 - yearOfEra / 100)
  let month := (5 * dayOfYear + 2) / 153
  let day := dayOfYear - (153 * month + 2) / 5 + 1
  let written := if month < 10 then month + 3 else month - 9
  let year := yearOfEra + era * 400 + (if written ≤ 2 then 1 else 0)
  ⟨year, written.toNat, day.toNat⟩

end CivilDate

namespace Date

instance : LT Date where
  lt left right := left.day < right.day

instance : LE Date where
  le left right := left.day ≤ right.day

instance : DecidableLT Date :=
  fun left right => inferInstanceAs (Decidable (left.day < right.day))

instance : DecidableLE Date :=
  fun left right => inferInstanceAs (Decidable (left.day ≤ right.day))

theorem le_iff {left right : Date} : left ≤ right ↔ left.day ≤ right.day :=
  Iff.rfl

theorem lt_iff {left right : Date} : left < right ↔ left.day < right.day :=
  Iff.rfl

theorem eq_of_day_eq {left right : Date} (same : left.day = right.day) :
    left = right := by
  cases left
  cases right
  cases same
  rfl

theorem ne_of_lt {left right : Date} (earlier : left < right) : left ≠ right := by
  intro same
  rw [lt_iff, same] at earlier
  omega

/-- The day with this count, if the calendar reaches it. -/
def ofDay? (day : Int) : Option Date :=
  if bounds : Calendar.firstDay ≤ day ∧ day ≤ Calendar.lastDay then
    some ⟨day, bounds.1, bounds.2⟩
  else none

/-- The day at which the calendar ends. -/
def last : Date :=
  ⟨Calendar.lastDay, by decide, by decide⟩

/-- The day with this written form, if there is one. -/
def ofCivil? (date : CivilDate) : Option Date :=
  if date.isReal then ofDay? date.toDayCount else none

def toCivil (date : Date) : CivilDate :=
  CivilDate.ofDayCount date.day

/-- The day some days later. -/
def addDays? (date : Date) (days : Nat) : Option Date :=
  ofDay? (date.day + days)

/-- The day some days earlier. -/
def subDays? (date : Date) (days : Nat) : Option Date :=
  ofDay? (date.day - days)

/-- Calendar days from `start` to `date`. -/
def daysSince (date start : Date) : Int :=
  date.day - start.day

theorem day_of_ofDay? {day : Int} {date : Date} (found : ofDay? day = some date) :
    date.day = day := by
  unfold ofDay? at found
  split at found
  · cases found; rfl
  · cases found

theorem day_of_addDays? {date later : Date} {days : Nat}
    (found : date.addDays? days = some later) : later.day = date.day + days :=
  day_of_ofDay? found

theorem addDays?_of_day_eq {date later : Date} {days : Nat}
    (reached : later.day = date.day + days) : date.addDays? days = some later := by
  have bounds : Calendar.firstDay ≤ date.day + days ∧ date.day + days ≤ Calendar.lastDay := by
    rw [← reached]
    exact ⟨later.first_le, later.le_last⟩
  rw [addDays?, ofDay?, dif_pos bounds]
  exact congrArg some (eq_of_day_eq reached.symm)

end Date

end DailySignals
