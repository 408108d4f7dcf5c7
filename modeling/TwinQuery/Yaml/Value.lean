/-
# What scalars of YAML stand for

A scalar with a tag stands for a value: its text, null, a truth value, a
number, a date or time stamp, or bytes. A plain scalar got its tag from its spelling
and nearly always has a value; a tag that is written down may not fit.

Underscores in numbers do not count. A number with colons is to base sixty;
with a point it is computed place by place in floating point.

Key definitions: `Yaml.intValue`, `Yaml.floatValue`, `Yaml.stampValue`,
`Yaml.Tag.scalar`.
-/
import TwinQuery.Fault
import TwinQuery.Text.Base64
import TwinQuery.Text.Blank
import TwinQuery.Text.Case
import TwinQuery.Yaml.Tag

namespace TwinQuery

namespace Yaml

/-! ### Integers -/

/-- The greatest number of decimal digits of an integer. -/
def longestInteger : Nat := 4300

/-- The letter that marks a base. -/
def baseLetter? (base : Nat) : Option CodePoint :=
  if base = 2 then some 'b' else if base = 8 then some 'o' else if base = 16 then some 'x' else none

/-- The digits without the mark of their base. -/
def dropBaseMark (base : Nat) (t : Text) : Text :=
  match t with
  | '0' :: letter :: rest => if baseLetter? base = some letter.toLower then rest else t
  | _ => t

/-- The integer that a text is to a base, with blanks around it and a sign
allowed. -/
def integerIn (base : Nat) (t : Text) : Except Fault Int :=
  let body := Text.strip t
  let digits := dropBaseMark base (dropSign body)
  if digits.isEmpty || !(digits.all fun c => (Json.hexValue? c).any (· < base)) then
    .error (.notInteger base t)
  else if base = 10 && longestInteger < digits.length then
    .error (.integerTooLong (some digits.length))
  else
    let n : Nat := digits.foldl (fun n c => n * base + (Json.hexValue? c).getD 0) 0
    .ok (if body.head? = some (.char '-') then -n else n)

/-- The integer with the given places to base sixty. -/
def sixties (places : List Int) : Int := places.foldl (fun n place => n * 60 + place) 0

/-- The integer of a text without sign and underscores: a leading zero marks
the base, and colons separate places to base sixty. -/
def magnitudeValue (t : Text) : Except Fault Int :=
  match t with
  | [] => .error .emptyNumber
  | ['0'] => .ok 0
  | '0' :: 'b' :: digits => integerIn 2 digits
  | '0' :: 'x' :: digits => integerIn 16 digits
  | '0' :: digits => integerIn 8 ('0' :: digits)
  | body =>
    if body.contains ':' then (Text.cutAt ':' body).mapM (integerIn 10) |>.map sixties
    else integerIn 10 body

/-- The integer that a text stands for. -/
def intValue (t : Text) : Except Fault Int :=
  let digits := t.filter (· != CodePoint.char '_')
  match digits with
  | [] => .error .emptyNumber
  | '-' :: rest => (magnitudeValue rest).map fun n => -n
  | rest => magnitudeValue (dropSign rest)

/-! ### Floating-point numbers -/

/-- The words for numbers without digits. -/
def floatWords : List (Text × Binary64) :=
  [("inf", Binary64.infinity false), ("infinity", Binary64.infinity false), ("nan", .nan)]

/-- The number of digits with a point and an exponent, both optional. -/
def decimalValue? (t : Text) : Option Binary64 :=
  let whole := t.takeWhile CodePoint.isDigit
  let rest := t.dropWhile CodePoint.isDigit
  let (fraction, rest) : Text × Text :=
    match rest with
    | '.' :: r => (r.takeWhile CodePoint.isDigit, r.dropWhile CodePoint.isDigit)
    | r => ([], r)
  let exponent : Option Int :=
    match rest with
    | [] => some 0
    | e :: r =>
      if (e == 'e' || e == 'E') && !(dropSign r).isEmpty && (dropSign r).all CodePoint.isDigit then
        let n : Int := Json.digitsValue (dropSign r)
        some (if r.head? = some (.char '-') then -n else n)
      else none
  if whole.isEmpty && fraction.isEmpty then none
  else
    exponent.map fun e =>
      Binary64.ofDecimal false (Json.digitsValue (whole ++ fraction)) (e - fraction.length)

/-- The number that a text in lower case is, with blanks around it and a sign
allowed. -/
def numberIn (t : Text) : Except Fault Binary64 :=
  let body := Text.strip t
  let digits := dropSign body
  match (floatWords.lookup digits).or (decimalValue? digits) with
  | some x => .ok (if body.head? = some (.char '-') then x.negate else x)
  | none => .error (.notNumber t)

/-- The number with the given places to base sixty, the last place first: each
place is multiplied and added in floating point. -/
def floatSixties (sum : Binary64) (unit : Nat) : List Binary64 → Binary64
  | [] => sum
  | place :: places =>
    floatSixties (sum.plus (place.times (Binary64.ofRatio false unit 1))) (unit * 60) places

/-- The number of a text without sign and underscores, in lower case. -/
def unsignedValue (t : Text) : Except Fault Binary64 :=
  if t = Text.ofString ".inf" then .ok (Binary64.infinity false)
  else if t = Text.ofString ".nan" then .ok .nan
  else if t.contains ':' then do
    let places ← (Text.cutAt ':' t).mapM numberIn
    return floatSixties (Binary64.zero false) 1 places.reverse
  else numberIn t

/-- The floating-point number that a text stands for. -/
def floatValue (t : Text) : Except Fault Binary64 :=
  let digits := Text.lower (t.filter (· != '_'))
  match digits with
  | [] => .error .emptyNumber
  | '-' :: rest => (unsignedValue rest).map Binary64.negate
  | rest => unsignedValue (dropSign rest)

/-! ### Dates and time stamps -/

/-- The date of three numbers, or what is wrong with it. -/
def dateOf (year month day : Nat) : Except Fault Date :=
  match Date.make? year month day with
  | some d => .ok d
  | none =>
    if year = 0 then .error (.yearOutOfRange year)
    else if month = 0 || 12 < month then .error .monthOutOfRange
    else .error .dayOutOfRange

/-- An offset, which must be less than a day. -/
def checkOffset (offset : Int) : Except Fault Int :=
  if offset.natAbs < dayMicros.natAbs then .ok offset else .error (.offsetOutOfRange offset)

/-- The microseconds of a time of day, or what is wrong with it. Of the
fraction of a second six digits count. -/
def timeOfDay (hour minute second : Nat) (fraction : Text) : Except Fault Int :=
  if 23 < hour then .error .hourOutOfRange
  else if 59 < minute then .error .minuteOutOfRange
  else if 59 < second then .error .secondOutOfRange
  else
    let six := fraction.take 6
    let micros := Json.digitsValue (six ++ List.replicate (6 - six.length) (.char '0'))
    .ok ((hour * 3600 + minute * 60 + second) * 1000000 + micros : Nat)

/-- The date or time stamp that a text stands for. A line feed at its end does
not count. -/
def stampValue (t : Text) : Except Fault Scalar :=
  match stampSpelling? (dropFinalBreak t) with
  | none => .error .notStamp
  | some s =>
    match s.clock with
    | none => return .date (← dateOf s.year s.month s.day)
    | some (hour, minute, second, fraction) => do
      let offset ← s.zone.mapM checkOffset
      let date ← dateOf s.year s.month s.day
      return .stamp (Stamp.ofParts date (← timeOfDay hour minute second fraction) offset)

/-! ### All scalars -/

/-- The words for truth values in lower case. -/
def truthWords : List (Text × Bool) :=
  [("yes", true), ("no", false), ("true", true), ("false", false), ("on", true), ("off", false)]

/-- The truth value that a text stands for. -/
def boolValue (t : Text) : Except Fault Bool :=
  match truthWords.lookup (Text.lower t) with
  | some b => .ok b
  | none => .error (.notTruthWord (Text.lower t))

/-- The bytes that a text in base sixty-four stands for. -/
def bytesValue (t : Text) : Except Fault Scalar :=
  match if t.all fun c => c.toNat < 0x80 then Base64.decode? t else none with
  | some values => .ok (.bytes values)
  | none => .error .badYaml

/-- The scalar that a text with a tag stands for. A tag that is not one of a
scalar fits no text. -/
def Tag.scalar (tag : Tag) (t : Text) : Except Fault Scalar :=
  match tag with
  | .null => .ok .null
  | .bool => return .bool (← boolValue t)
  | .int => return .int (← intValue t)
  | .float => return .float (← floatValue t)
  | .text => .ok (.text t)
  | .stamp => stampValue t
  | .binary => bytesValue t
  | _ => .error .badYaml

end Yaml

end TwinQuery
