/-
# Intervals in days

An interval is given as a number of days and kept in microseconds. A whole
number counts exactly. Of a floating-point number the whole part counts
exactly; the fraction is multiplied out in floating point and rounded, a tie
to the even microsecond.

Key definitions: `intervalOfDays`.
-/
import TwinQuery.Fault
import TwinQuery.Time.Stamp

namespace TwinQuery

/-- The greatest number of days in an interval. -/
def longestInterval : Int := 999999999

/-- The interval, if it is not too long. Days beyond 32 bits are told apart. -/
def checkInterval (micros : Int) : Except Fault Int :=
  let days := micros / dayMicros
  if days < -2147483648 || 2147483647 < days then .error .daysUncountable
  else if days < -longestInterval || longestInterval < days then .error (.daysOutOfRange days)
  else .ok micros

/-- The microseconds of a floating-point number of days. -/
def microsOfDays (x : Binary64) : Except Fault Int :=
  match x with
  | .nan => .error .daysNan
  | .number negative rank =>
    if rank.val < infinityRank then
      let (whole, fraction) := Binary64.split negative rank.val
      .ok (whole * dayMicros + (fraction.timesNat dayMicros.toNat).roundToInt)
    else .error .daysInfinite

/-- The interval of the number of days that a document is. -/
def intervalOfDays (days : Doc) : Except Fault Int :=
  match days with
  | .atom (.int n) => checkInterval (n * dayMicros)
  | .atom (.bool b) => checkInterval (if b then dayMicros else 0)
  | .atom (.float x) => do checkInterval (← microsOfDays x)
  | other => .error (.daysNotNumber other.kind)

end TwinQuery
