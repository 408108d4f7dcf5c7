/-
# The Gregorian calendar

Days are numbered from 1, the first day of the year 1. A date is accepted when
its year has four digits and its day exists; a week date names the year, the
week and the day of the week, where week 1 is the one with the year's first
Thursday.

Key definitions: `Date`, `Date.make?`, `Date.dayNumber`, `Date.ofDayNumber`,
`Date.ofWeek?`.
-/
import TwinQuery.Text.Basic

namespace TwinQuery

/-- A day of the calendar. -/
structure Date where
  year : Nat
  month : Nat
  day : Nat
deriving DecidableEq

/-- Whether the year has 366 days. -/
def isLeapYear (year : Nat) : Bool :=
  year % 4 == 0 && (year % 100 != 0 || year % 400 == 0)

/-- The number of days of a month. -/
def daysInMonth (year month : Nat) : Nat :=
  if month = 2 then (if isLeapYear year then 29 else 28)
  else if month = 4 || month = 6 || month = 9 || month = 11 then 30
  else 31

/-- The days before the first of January of a year. -/
def daysBeforeYear (year : Nat) : Nat :=
  let past := year - 1
  past * 365 + past / 4 - past / 100 + past / 400

/-- The days of a year before the first of a month. -/
def daysBeforeMonth (year : Nat) : (month : Nat) → Nat
  | 0 => 0
  | 1 => 0
  | month + 2 => daysBeforeMonth year (month + 1) + daysInMonth year (month + 1)

/-- The last day with a year of four digits. -/
def lastDayNumber : Nat := 3652059

namespace Date

/-- The date, when it exists and its year is from 1 to 9999. -/
def make? (year month day : Nat) : Option Date :=
  if 1 ≤ year && year ≤ 9999 && 1 ≤ month && month ≤ 12 && 1 ≤ day
      && day ≤ daysInMonth year month then
    some ⟨year, month, day⟩
  else none

/-- The number of a day, 1 for the first day of the year 1. -/
def dayNumber (d : Date) : Nat :=
  daysBeforeYear d.year + daysBeforeMonth d.year d.month + d.day

/-- The month and day at a place in a year, counted from 0: `months` of the
year are left to try. -/
def monthAndDay (year : Nat) : (months : Nat) → (rest : Nat) → Nat × Nat
  | 0, rest => (12, rest + 1)
  | months + 1, rest =>
    let month := 12 - months
    if rest < daysInMonth year month then (month, rest + 1)
    else monthAndDay year months (rest - daysInMonth year month)

/-- The date with the given number: whole cycles of 400, 100, 4 and 1 years
are taken off in turn. -/
def ofDayNumber (n : Nat) : Date :=
  let n0 := n - 1
  let (c400, r400) := (n0 / 146097, n0 % 146097)
  let c100 := min 3 (r400 / 36524)
  let r100 := r400 - c100 * 36524
  let (c4, r4) := (r100 / 1461, r100 % 1461)
  let c1 := min 3 (r4 / 365)
  let rest := r4 - c1 * 365
  let year := c400 * 400 + c100 * 100 + c4 * 4 + c1 + 1
  let (month, day) := monthAndDay year 12 rest
  ⟨year, month, day⟩

/-- The place of a date in its week, 0 for Monday. -/
def weekday (d : Date) : Nat := (d.dayNumber + 6) % 7

/-- Whether a year has 53 weeks. -/
def hasLongWeekYear (year : Nat) : Bool :=
  let first := weekday ⟨year, 1, 1⟩
  first == 3 || (first == 2 && isLeapYear year)

/-- The number of the Monday of week 1; it may lie in the year before. -/
def firstMonday (year : Nat) : Int :=
  let first := weekday ⟨year, 1, 1⟩
  let monday : Int := (dayNumber ⟨year, 1, 1⟩ : Int) - first
  if 3 < first then monday + 7 else monday

/-- The date of a year, week and day of the week, when they exist. -/
def ofWeek? (year week day : Nat) : Option Date :=
  if 1 ≤ year && year ≤ 9999 && 1 ≤ week && (week ≤ 52 || (week == 53 && hasLongWeekYear year))
      && 1 ≤ day && day ≤ 7 then
    let n := (firstMonday year + ((week - 1) * 7 + (day - 1) : Nat)).toNat
    if 1 ≤ n && n ≤ lastDayNumber then some (ofDayNumber n) else none
  else none

/-- The date as year, month and day with hyphens. -/
def display (d : Date) : Text :=
  Text.padLeft '0' 4 (Text.ofNat d.year) ++ "-" ++ Text.padLeft '0' 2 (Text.ofNat d.month) ++ "-" ++
    Text.padLeft '0' 2 (Text.ofNat d.day)

end Date

end TwinQuery
