/-
# Reading time stamps

The international format for dates and times, in its basic and extended
forms, with calendar or week dates, any one character between date and time,
a fraction of a second of which six digits count, and an offset or `Z`.

Where the date ends is decided by its form before it is read, because the
separator may be any character. The time of day is read up to the first sign
or `Z`; what stands between a complete time and the sign is skipped.

Key definitions: `Stamp.ofText?`.
-/
import TwinQuery.Time.Stamp

namespace TwinQuery

namespace Stamp

/-- The value of an ASCII digit. -/
def digitValue? (c : CodePoint) : Option Nat :=
  if c.isDigit then some (c.toNat - '0'.toNat) else none

/-- A number of exactly `count` digits, and the rest. -/
def digits? : (count : Nat) → (value : Nat) → Text → Option (Nat × Text)
  | 0, value, t => some (value, t)
  | _ + 1, _, [] => none
  | count + 1, value, c :: t =>
    match digitValue? c with
    | some d => digits? count (value * 10 + d) t
    | none => none

/-- How many characters the date takes, from its form alone. -/
def dateLength? (t : Text) : Option Nat :=
  if t.length < 7 then none
  else if t.length = 7 then some 7
  else if t[4]? == some (.char '-') then
    if t[5]? == some (.char 'W') then
      if t[8]? == some (.char '-') then
        if t.length = 9 then none
        else if (t[10]?.map CodePoint.isDigit).getD false then some 8
        else some 10
      else some 8
    else some 10
  else if t[4]? == some (.char 'W') then
    let digitsEnd := 7 + ((t.drop 7).takeWhile CodePoint.isDigit).length
    if digitsEnd < 9 then some digitsEnd
    else if digitsEnd % 2 = 0 then some 7 else some 8
  else some 8

/-- The week and the day of a week date, after the letter; the day is the
first when there is none. -/
def weekDate? (year : Nat) (extended : Bool) (t : Text) : Option Date := do
  let (week, t) ← digits? 2 0 t
  match t with
  | [] => Date.ofWeek? year week 1
  | c :: rest =>
    let t := if extended then rest else c :: rest
    if extended && c != '-' then none
    else
      let (day, _) ← digits? 1 0 t
      Date.ofWeek? year week day

/-- A date in basic or extended form, with nothing after it. -/
def date? (t : Text) : Option Date := do
  let (year, t) ← digits? 4 0 t
  let extended := t.head? == some (.char '-')
  let t := if extended then t.drop 1 else t
  match t with
  | 'W' :: t => weekDate? year extended t
  | _ =>
    let (month, t) ← digits? 2 0 t
    if extended && t.head? != some (.char '-') then none
    else
      let t := if extended then t.drop 1 else t
      let (day, t) ← digits? 2 0 t
      if t.isEmpty then Date.make? year month day else none

/-- What was read of a time of day: its fields, microseconds, and whether the
text ended with it. -/
structure Clock where
  fields : List Nat
  micros : Nat
  complete : Bool

/-- The fraction of a second: six digits count, further ones are skipped. -/
def fraction? (fields : List Nat) (t : Text) : Option Clock := do
  let count := min 6 t.length
  let (value, t) ← digits? count 0 t
  let rest := t.dropWhile CodePoint.isDigit
  some ⟨fields, value * Nat.pow 10 (6 - count), rest.isEmpty⟩

/-- Up to `left` further fields of two digits, then a fraction. Whether fields
are divided by colons is decided after the first one. A single ASCII
character may be left over; the time is then not complete. -/
def clock? : (left : Nat) → (colons : Option Bool) → (fields : List Nat) → Text → Option Clock
  | 0, _, fields, t => fraction? fields t
  | left + 1, colons, fields, t => do
    let (value, t) ← digits? 2 0 t
    let fields := fields ++ [value]
    match t with
    | [] => some ⟨fields, 0, true⟩
    | [c] => if c.toNat < 0x80 then some ⟨fields, 0, false⟩ else none
    | c :: rest =>
      let divided := colons.getD (c == ':')
      if divided && c == ':' then clock? left (some divided) fields rest
      else if c == '.' || c == ',' then fraction? fields rest
      else if !divided then clock? left (some divided) fields (c :: rest)
      else none

/-- Hours, minutes and seconds in seconds. -/
def Clock.seconds (c : Clock) : Nat :=
  (c.fields.getD 0 0) * 3600 + (c.fields.getD 1 0) * 60 + c.fields.getD 2 0

/-- Whether hours, minutes and seconds exist on a clock. -/
def Clock.isTimeOfDay (c : Clock) : Bool :=
  c.fields.getD 0 0 < 24 && c.fields.getD 1 0 < 60 && c.fields.getD 2 0 < 60

/-- An offset after its sign. An offset of no whole second is universal time,
and every offset is less than a day. -/
def offset? (negative : Bool) (t : Text) : Option Int := do
  let c ← clock? 3 none [] t
  if !c.complete then none
  else if c.seconds = 0 then some 0
  else
    let size : Int := (c.seconds : Int) * 1000000 + c.micros
    if size < dayMicros then some (if negative then -size else size) else none

/-- A character that begins an offset. -/
def beginsOffset (c : CodePoint) : Bool := c == '+' || c == '-' || c == 'Z'

/-- A time of day in microseconds and its offset. -/
def time? (t : Text) : Option (Int × Option Int) := do
  let body := t.takeWhile fun c => !beginsOffset c
  let zone := t.dropWhile fun c => !beginsOffset c
  let c ← clock? 3 none [] body
  let offset : Option Int ←
    match zone with
    | [] => if c.complete then some none else none
    | 'Z' :: rest => if rest.isEmpty then some (some 0) else none
    | sign :: rest => (offset? (sign == '-') rest).map some
  if c.isTimeOfDay then some ((c.seconds : Int) * 1000000 + c.micros, offset) else none

/-- The time stamp that a text in the international format stands for. -/
def ofText? (t : Text) : Option Stamp := do
  let length ← dateLength? t
  let date ← date? (t.take length)
  match t.drop length with
  | [] => some (ofParts date 0 none)
  | _ :: rest =>
    let (timeOfDay, offset) ← time? rest
    some (ofParts date timeOfDay offset)

end Stamp

end TwinQuery
