/-
# Time stamps

A time stamp is a local time in microseconds, counted from the start of the
year 1, and possibly its offset from universal time. Two stamps with offsets
are compared by the instants they stand for.

Key definitions: `Stamp`, `Stamp.instant`, `Stamp.shift?`, `Stamp.toUtc?`,
`Stamp.display`, `Stamp.sameTime`.
-/
import TwinQuery.Time.Calendar

namespace TwinQuery

/-- A time stamp: local microseconds since the start of the year 1, and the
offset from universal time in microseconds, if it is known. -/
structure Stamp where
  micros : Int
  offset : Option Int
deriving DecidableEq

/-- The microseconds of a day. -/
def dayMicros : Int := 86400000000

/-- The first microsecond after the last day with a year of four digits. -/
def endMicros : Int := (lastDayNumber : Int) * dayMicros

namespace Stamp

/-- The stamp of a date and a time of day. -/
def ofParts (d : Date) (timeOfDay : Int) (offset : Option Int) : Stamp :=
  ⟨((d.dayNumber : Int) - 1) * dayMicros + timeOfDay, offset⟩

/-- Whether the local time has a year from 1 to 9999. -/
def inRange (s : Stamp) : Bool := 0 ≤ s.micros && s.micros < endMicros

/-- The instant in universal time; a stamp without offset is taken to be in
universal time already. -/
def instant (s : Stamp) : Int := s.micros - s.offset.getD 0

/-- The stamp `delta` microseconds later, unless it leaves the calendar. -/
def shift? (s : Stamp) (delta : Int) : Option Stamp :=
  let moved : Stamp := ⟨s.micros + delta, s.offset⟩
  if moved.inRange then some moved else none

/-- The same instant in universal time, unless it leaves the calendar. -/
def toUtc? (s : Stamp) : Option Stamp :=
  let moved : Stamp := ⟨s.instant, some 0⟩
  if moved.inRange then some moved else none

/-- Two digits. -/
def twoDigits (n : Nat) : Text := Text.padLeft '0' 2 (Text.ofNat n)

/-- The microseconds of a second, after a point, unless there are none. -/
def fraction (micros : Nat) : Text :=
  if micros = 0 then [] else '.' :: Text.padLeft '0' 6 (Text.ofNat micros)

/-- Hours, minutes and seconds of a number of microseconds. -/
def clockParts (micros : Nat) : Nat × Nat × Nat × Nat :=
  let seconds := micros / 1000000
  (seconds / 3600, seconds / 60 % 60, seconds % 60, micros % 1000000)

/-- An offset with its sign; seconds are written only when there are some. -/
def displayOffset (offset : Int) : Text :=
  let (h, m, s, us) := clockParts offset.natAbs
  (if offset < 0 then ['-'] else ['+'] : Text) ++ twoDigits h ++ ":" ++ twoDigits m ++
    (if s = 0 && us = 0 then [] else .char ':' :: twoDigits s ++ fraction us : Text)

/-- The date of a stamp. -/
def date (s : Stamp) : Date := Date.ofDayNumber (s.micros / dayMicros + 1).toNat

/-- Hours, minutes, seconds and microseconds of the time of day. -/
def clock (s : Stamp) : Nat × Nat × Nat × Nat := clockParts (s.micros % dayMicros).toNat

/-- The stamp with a mark between date and time of day, and the offset at the
end. -/
def displayWith (mark : CodePoint) (s : Stamp) : Text :=
  let (h, m, sec, us) := s.clock
  s.date.display ++ mark :: twoDigits h ++ ":" ++ twoDigits m ++ ":" ++ twoDigits sec ++
    fraction us ++ (match s.offset with | none => [] | some o => displayOffset o)

/-- The stamp in the international format. -/
def display (s : Stamp) : Text := s.displayWith 'T'

/-- Whether two stamps stand for the same time: the same instant if both have
an offset, the same local time if neither has one. -/
def sameTime (s t : Stamp) : Bool := s.offset.isSome == t.offset.isSome && s.instant == t.instant

end Stamp

end TwinQuery
