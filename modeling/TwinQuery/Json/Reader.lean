/-
# Reading JSON

The reader takes a whole text and gives the document or the place of the
first mistake. Beside the standard it reads `NaN`, `Infinity` and
`-Infinity`; it refuses control characters inside strings. Of a repeated
name the last value counts. Integers of more than 4300 digits and documents
of more than some hundred levels are not read.

A mistake is reported by what is left of the text where it was seen, so that
its place is the difference of two lengths. Every step of the reader uses up
a part of the text, so as much fuel as there are characters is enough.

Key definitions: `Json.Mistake`, `Json.read`, `Json.offsetOf`.
-/
import TwinQuery.Document.Basic

namespace TwinQuery

namespace Json

/-- Why a text is not read: a mistake, with what is left of the text at its
place, an integer that is too long, or a list or an object too deep inside
others. -/
inductive Mistake where
  | at (rest : Text)
  | longInteger (digits : Nat)
  | deepList
  | deepObject

/-- The greatest number of digits of an integer. -/
def longestInteger : Nat := 4300

/-- How many lists and objects may stand inside each other. -/
def deepestLevel : Nat := 985

/-- The white space of JSON. -/
def isSpace (c : CodePoint) : Bool := c == ' ' || c == '\t' || c == '\n' || c == '\r'

/-- The text after white space. -/
def skipSpace (t : Text) : Text := t.dropWhile isSpace

/-- The value of a hexadecimal digit. -/
def hexValue? (c : CodePoint) : Option Nat :=
  if '0' ≤ c && c ≤ '9' then some (c.toNat - 48)
  else if 'a' ≤ c && c ≤ 'f' then some (c.toNat - 87)
  else if 'A' ≤ c && c ≤ 'F' then some (c.toNat - 55)
  else none

/-- The value of four hexadecimal digits. -/
def hex4? : Text → Option Nat
  | [a, b, c, d] => do
    let a ← hexValue? a
    let b ← hexValue? b
    let c ← hexValue? c
    let d ← hexValue? d
    some (((a * 16 + b) * 16 + c) * 16 + d)
  | _ => none

/-- The character after a backslash, for the escapes of one letter. -/
def shortEscape? (c : CodePoint) : Option CodePoint :=
  if c = '"' || c = '\\' || c = '/' then some c
  else if c = 'b' then some (CodePoint.ofNat 8)
  else if c = 'f' then some (CodePoint.ofNat 12)
  else if c = 'n' then some '\n'
  else if c = 'r' then some '\r'
  else if c = 't' then some '\t'
  else none

/-- Whether the unit is the first half of a pair. -/
def isHighUnit (n : Nat) : Bool := 0xD800 ≤ n && n ≤ 0xDBFF

/-- Whether the unit is the second half of a pair. -/
def isLowUnit (n : Nat) : Bool := 0xDC00 ≤ n && n ≤ 0xDFFF

/-- The second unit of a pair, when the text goes on with its escape and does
not end with it. -/
def lowUnit? : Text → Option (Except Mistake (Nat × Text))
  | '\\' :: 'u' :: rest =>
    if (rest.take 5).length < 5 then none
    else
      match hex4? (rest.take 4) with
      | none => some (.error (.at ('u' :: rest)))
      | some n => if isLowUnit n then some (.ok (n, rest.drop 4)) else none
  | _ => none

/-- What an escape by its code stands for, `rest` being what follows the letter,
and the text after it. Two halves that follow each other stand for one
character; a half without the other one is kept. -/
def unitEscape? (rest : Text) : Except Mistake (CodePoint × Text) :=
  if (rest.take 5).length < 5 then .error (.at ('u' :: rest))
  else
    match hex4? (rest.take 4) with
    | none => .error (.at ('u' :: rest))
    | some n =>
      if isHighUnit n then
        match lowUnit? (rest.drop 4) with
        | some (.error m) => .error m
        | some (.ok (low, after)) =>
          .ok (CodePoint.ofNat (0x10000 + (n - 0xD800) * 0x400 + (low - 0xDC00)), after)
        | none => .ok (CodePoint.ofNat n, rest.drop 4)
      else .ok (CodePoint.ofNat n, rest.drop 4)

/-- The rest of a string after its opening quote. `start` is the text from
that quote on, the place of a string that does not end. -/
def stringBody (start : Text) : (fuel : Nat) → (acc : Text) → Text → Except Mistake (Text × Text)
  | 0, _, _ => .error (.at start)
  | _ + 1, _, [] => .error (.at start)
  | fuel + 1, acc, c :: rest =>
    if c = '"' then .ok (acc.reverse, rest)
    else if c = '\\' then
      match rest with
      | [] => .error (.at start)
      | 'u' :: rest => do
        let (d, rest) ← unitEscape? rest
        stringBody start fuel (d :: acc) rest
      | e :: rest =>
        match shortEscape? e with
        | some d => stringBody start fuel (d :: acc) rest
        | none => .error (.at (c :: e :: rest))
    else if c.toNat < 32 then .error (.at (c :: rest))
    else stringBody start fuel (c :: acc) rest

/-- A string, from its opening quote on. -/
def readString (t : Text) : Except Mistake (Text × Text) :=
  stringBody t (t.length + 1) [] (t.drop 1)

/-- The value of a run of digits. -/
def digitsValue (digits : Text) : Nat :=
  digits.foldl (fun n c => n * 10 + (c.toNat - 48)) 0

/-- The run of digits that the text begins with, and the rest. -/
def digitRun (t : Text) : Text × Text :=
  (t.takeWhile CodePoint.isDigit, t.dropWhile CodePoint.isDigit)

/-- A point and the digits after it, when there are some. -/
def fractionPart (t : Text) : Option (Text × Text) :=
  match t with
  | '.' :: rest =>
    match digitRun rest with
    | ([], _) => none
    | found => some found
  | _ => none

/-- An exponent with its sign, when there are digits in it. -/
def exponentPart (t : Text) : Option (Int × Text) :=
  match t with
  | c :: rest =>
    if c = 'e' || c = 'E' then
      let (negative, rest) :=
        match rest with
        | '-' :: r => (true, r)
        | '+' :: r => (false, r)
        | r => (false, r)
      match digitRun rest with
      | ([], _) => none
      | (digits, after) =>
        let n : Int := digitsValue digits
        some (if negative then -n else n, after)
    else none
  | [] => none

/-- Whether a number begins with a minus sign, and what follows the sign. -/
def signPart (t : Text) : Bool × Text :=
  match t with
  | '-' :: rest => (true, rest)
  | _ => (false, t)

/-- The digits before the point, and the rest. A leading zero stands alone. -/
def wholePart (t : Text) : Text × Text :=
  match t with
  | '0' :: rest => (['0'], rest)
  | _ => digitRun t

/-- The number with the given parts: an integer unless there is a fraction or an
exponent. -/
def numberOf (negative : Bool) (digits : Text) (fraction : Option Text) (e : Option Int) : Scalar :=
  match fraction, e with
  | none, none =>
    let n : Int := digitsValue digits
    .int (if negative then -n else n)
  | f, e =>
    let f := f.getD []
    .float (.ofDecimal negative (digitsValue (digits ++ f)) (e.getD 0 - f.length))

/-- A number and the rest. -/
def readNumber (t : Text) : Option (Scalar × Text) :=
  match wholePart (signPart t).2 with
  | ([], _) => none
  | (digits, rest) =>
    let (fraction, rest) := ((fractionPart rest).map fun (f, r) => (some f, r)).getD (none, rest)
    let (e, rest) := ((exponentPart rest).map fun (e, r) => (some e, r)).getD (none, rest)
    some (numberOf (signPart t).1 digits fraction e, rest)

/-- The words that stand for a value. -/
def wordValues : List (Text × Scalar) :=
  [("null", .null), ("true", .bool true), ("false", .bool false), ("NaN", .float .nan),
   ("Infinity", .float (Binary64.infinity false)), ("-Infinity", .float (Binary64.infinity true))]

/-- A word that stands for a value, and the rest. -/
def readWord (t : Text) : Option (Scalar × Text) :=
  wordValues.findSome? fun (word, value) => (Text.dropStart? word t).map fun rest => (value, rest)

mutual

/-- A value and the rest; `depth` is how many lists and objects may still stand
inside each other. -/
def readValue : (fuel depth : Nat) → Text → Except Mistake (Doc × Text)
  | 0, _, t => .error (.at t)
  | fuel + 1, depth, t =>
    match t with
    | [] => .error (.at t)
    | c :: rest =>
      if c = '"' then do
        let (s, rest) ← readString t
        .ok (Doc.text s, rest)
      else if c = '\x7b' then
        match depth with
        | 0 => .error .deepObject
        | depth + 1 =>
          match skipSpace rest with
          | '\x7d' :: after => .ok (.object [], after)
          | inner => do
            let (fields, after) ← readFields fuel depth [] inner
            .ok (.object fields, after)
      else if c = '[' then
        match depth with
        | 0 => .error .deepList
        | depth + 1 =>
          match skipSpace rest with
          | ']' :: after => .ok (.list [], after)
          | inner => do
            let (items, after) ← readItems fuel depth [] inner
            .ok (.list items, after)
      else
        match (readWord t).orElse fun _ => readNumber t with
        | some (.int i, rest) =>
          if i.natAbs < Nat.pow 10 longestInteger then .ok (.atom (.int i), rest)
          else .error (.longInteger (Nat.toDigits 10 i.natAbs).length)
        | some (s, rest) => .ok (.atom s, rest)
        | none => .error (.at t)

/-- The items of a list up to its closing bracket, `acc` being those already
read, in reverse. -/
def readItems : (fuel depth : Nat) → (acc : List Doc) → Text → Except Mistake (List Doc × Text)
  | 0, _, _, t => .error (.at t)
  | fuel + 1, depth, acc, t => do
    let (item, rest) ← readValue fuel depth t
    match skipSpace rest with
    | ']' :: after => .ok ((item :: acc).reverse, after)
    | ',' :: after => readItems fuel depth (item :: acc) (skipSpace after)
    | other => .error (.at other)

/-- The fields of an object up to its closing brace, `acc` being those
already read. -/
def readFields : (fuel depth : Nat) → (acc : List (Scalar × Doc)) → Text →
    Except Mistake (List (Scalar × Doc) × Text)
  | 0, _, _, t => .error (.at t)
  | fuel + 1, depth, acc, t =>
    match t with
    | '"' :: _ => do
      let (name, rest) ← readString t
      match skipSpace rest with
      | ':' :: rest =>
        let (value, rest) ← readValue fuel depth (skipSpace rest)
        let acc := Fields.put (.text name) value acc
        match skipSpace rest with
        | '\x7d' :: after => .ok (acc, after)
        | ',' :: after => readFields fuel depth acc (skipSpace after)
        | other => .error (.at other)
      | other => .error (.at other)
    | _ => .error (.at t)

end

/-- The document that the whole text stands for. -/
def read (t : Text) : Except Mistake Doc := do
  let (d, rest) ← readValue (2 * t.length + 2) deepestLevel (skipSpace t)
  match skipSpace rest with
  | [] => .ok d
  | other => .error (.at other)

/-- The place where `rest` is what is left of a text, counted in characters
from the start. -/
def offsetOf (t rest : Text) : Nat := t.length - rest.length

end Json

end TwinQuery
