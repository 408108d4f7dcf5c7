/-
# Tags of YAML

A tag says what a node stands for. It is written before the node, or, for a
plain scalar, follows from its spelling: words for null and truth values,
numbers, dates and time stamps in the spellings of YAML 1.1, the merge mark
`<<` and the value mark `=`. All else is a text.

Key definitions: `Yaml.Tag`, `Yaml.Tag.ofName`, `Yaml.Tag.ofPlain`.
-/
import TwinQuery.Json.Reader

namespace TwinQuery

namespace Yaml

/-- What a node stands for. -/
inductive Tag where
  | null
  | bool
  | int
  | float
  | text
  | stamp
  | binary
  | sequence
  | mapping
  | pairs
  | members
  | merge
  | value
  | other
deriving DecidableEq

/-- What the name of a standard tag begins with. -/
def standardStart : Text := "tag:yaml.org,2002:"

/-- The standard tags by the end of their name. -/
def standardTags : List (Text × Tag) :=
  [("null", .null), ("bool", .bool), ("int", .int), ("float", .float), ("str", .text),
   ("timestamp", .stamp), ("binary", .binary), ("seq", .sequence), ("map", .mapping),
   ("omap", .pairs), ("pairs", .pairs), ("set", .members), ("merge", .merge), ("value", .value)]

/-- The tag of a name. -/
def Tag.ofName (name : Text) : Tag :=
  ((Text.dropStart? standardStart name).bind fun ending => standardTags.lookup ending).getD .other

/-! ### Spellings -/

/-- The spellings of null. -/
def nullWords : List Text := ["~", "null", "Null", "NULL"]

/-- The spellings of truth values. -/
def boolWords : List Text :=
  ["yes", "Yes", "YES", "no", "No", "NO", "true", "True", "TRUE", "false", "False", "FALSE", "on",
   "On", "ON", "off", "Off", "OFF"]

/-- The text without its sign. -/
def dropSign (t : Text) : Text :=
  match t with
  | '-' :: rest => rest
  | '+' :: rest => rest
  | rest => rest

/-- Whether all characters are digits below `base` or underscores, and there
is one at least. -/
def isDigits (base : Nat) (t : Text) : Bool :=
  !t.isEmpty && t.all fun c => c == '_' || (Json.hexValue? c).any (· < base)

/-- Whether a text is a run of digits and underscores that begins with a
digit. -/
def isDigitRun : Text → Bool
  | [] => false
  | c :: rest => c.isDigit && (rest.isEmpty || isDigits 10 rest)

/-- Whether a text is a run of digits and underscores that begins with a digit
other than zero. -/
def isPlainDigits (t : Text) : Bool := isDigitRun t && t.head? != some (.char '0')

/-- Whether a text is a further place of a number to base sixty. -/
def isSixtieth : Text → Bool
  | [a] => a.isDigit
  | [a, b] => '0' ≤ a && a ≤ '5' && b.isDigit
  | _ => false

/-- Whether a text is spelled as an integer: binary, octal, decimal,
hexadecimal, or to base sixty with colons. -/
def spellsInt (t : Text) : Bool :=
  match dropSign t with
  | '0' :: 'b' :: digits => isDigits 2 digits
  | '0' :: 'x' :: digits => isDigits 16 digits
  | ['0'] => true
  | '0' :: digits => isDigits 8 digits
  | body =>
    match Text.cutAt ':' body with
    | first :: places => isPlainDigits first && places.all isSixtieth
    | [] => false

/-- Whether a text is empty or an exponent, which must have a sign. -/
def isExponent (t : Text) : Bool :=
  match t with
  | [] => true
  | e :: sign :: digits =>
    (e == 'e' || e == 'E') && (sign == '+' || sign == '-') && !digits.isEmpty &&
      digits.all CodePoint.isDigit
  | _ => false

/-- Whether a text is spelled as a floating-point number, which must have a
point: with an exponent or without, or to base sixty with colons, or infinite,
or not a number. -/
def spellsFloat (t : Text) : Bool :=
  let body := dropSign t
  let whole := body.takeWhile (· != CodePoint.char '.')
  let rest := (body.dropWhile (· != CodePoint.char '.')).drop 1
  let isPlace := fun c : CodePoint => c.isDigit || c == '_'
  let fraction := rest.takeWhile isPlace
  let ending := rest.dropWhile isPlace
  ([".inf", ".Inf", ".INF"] : List Text).contains body ||
    ([".nan", ".NaN", ".NAN"] : List Text).contains t ||
    (body.contains '.' &&
      match Text.cutAt ':' whole with
      | [[]] => t.head? == some (.char '.') && isDigitRun fraction && isExponent ending
      | [first] => isDigitRun first && isExponent ending
      | first :: places => isDigitRun first && places.all isSixtieth && ending.isEmpty
      | [] => false)

/-- The parts of a date or a time stamp, as they are spelled. -/
structure StampSpelling where
  year : Nat
  month : Nat
  day : Nat
  clock : Option (Nat × Nat × Nat × Text)
  zone : Option Int

/-- A number of `low` to `high` digits, and the rest. -/
def digitsBetween (low high : Nat) (t : Text) : Option (Nat × Text) :=
  let digits := (t.take high).takeWhile CodePoint.isDigit
  if low ≤ digits.length then some (Json.digitsValue digits, t.drop digits.length) else none

/-- What follows a given character. -/
def after? (mark : CodePoint) : Text → Option Text
  | c :: rest => if c = mark then some rest else none
  | [] => none

/-- Whether a character is a blank or a tab. -/
def isSpacing (c : CodePoint) : Bool := c == ' ' || c == '\t'

/-- What follows the mark between date and time of day: a letter T, or blanks
and tabs. -/
def afterDateMark? (t : Text) : Option Text :=
  match t with
  | c :: rest =>
    if c = 'T' || c = 't' then some rest
    else if isSpacing c then some (rest.dropWhile isSpacing)
    else none
  | [] => none

/-- The microseconds of hours and minutes. -/
def zoneMicros (hours minutes : Nat) : Int := ((hours * 60 + minutes) * 60000000 : Nat)

/-- The offset at the end of a time stamp, in microseconds, if there is one:
the letter Z, or a sign, hours and possibly minutes. -/
def zoneOf? (t : Text) : Option (Option Int) :=
  match t, t.dropWhile isSpacing with
  | [], _ => some none
  | _, ['Z'] => some (some 0)
  | _, sign :: rest => do
    let (hours, rest) ← digitsBetween 1 2 rest
    let minutes ←
      match rest with
      | [] => some 0
      | ':' :: rest => do
        let (minutes, rest) ← digitsBetween 2 2 rest
        if rest.isEmpty then some minutes else none
      | _ => none
    if sign = '+' then some (some (zoneMicros hours minutes))
    else if sign = '-' then some (some (-zoneMicros hours minutes))
    else none
  | _, [] => none

/-- The digits after the point of the seconds, if there is one, and the
rest. -/
def secondsFraction (t : Text) : Text × Text :=
  match t with
  | '.' :: rest => (rest.takeWhile CodePoint.isDigit, rest.dropWhile CodePoint.isDigit)
  | rest => ([], rest)

/-- The parts of the date or time stamp that a text is spelled as. Month, day
and hour may have one digit. -/
def stampSpelling? (t : Text) : Option StampSpelling := do
  let (year, t) ← digitsBetween 4 4 t
  let (month, t) ← digitsBetween 1 2 (← after? '-' t)
  let (day, t) ← digitsBetween 1 2 (← after? '-' t)
  if t.isEmpty then some ⟨year, month, day, none, none⟩
  else
    let (hour, t) ← digitsBetween 1 2 (← afterDateMark? t)
    let (minute, t) ← digitsBetween 2 2 (← after? ':' t)
    let (second, t) ← digitsBetween 2 2 (← after? ':' t)
    let (fraction, t) := secondsFraction t
    some ⟨year, month, day, some (hour, minute, second, fraction), ← zoneOf? t⟩

/-- Whether a text is spelled as a date or a time stamp; a date by itself has
two digits for month and day. -/
def spellsStamp (t : Text) : Bool :=
  match stampSpelling? t with
  | some s => s.clock.isSome || t.length == 10
  | none => false

/-- The text without a line feed at its end. -/
def dropFinalBreak (t : Text) : Text := if t.getLast? = some (.char '\n') then t.dropLast else t

/-- The tag that follows from the spelling of a scalar. A line feed at the end
does not count. -/
def Tag.ofPlain (t : Text) : Tag :=
  let word := dropFinalBreak t
  if t.isEmpty then .null
  else if boolWords.contains word then .bool
  else if spellsFloat word then .float
  else if spellsInt word then .int
  else if word = Text.ofString "<<" then .merge
  else if nullWords.contains word then .null
  else if spellsStamp word then .stamp
  else if word = [.char '='] then .value
  else if word = [.char '!'] || word = [.char '&'] || word = [.char '*'] then .other
  else .text

end Yaml

end TwinQuery
