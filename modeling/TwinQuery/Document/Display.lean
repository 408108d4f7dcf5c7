/-
# The text of a document

A document that is put into a message or a query is written as a text: a text
as it is, null as `None`, truth values as `True` and `False`. Inside a list or
an object every text is quoted: with single quotes, or with double quotes when
it holds single quotes and no double ones. In quotes the backslash, the
surrounding quote and what is not printable are escaped. Bytes are quoted as
the ASCII text that they are, the others escaped.

An integer of more than 4300 digits is not written. YAML can hold one, which
stands there to another base; `Doc.hasLongInteger` tells whether there is one.

Key definitions: `Doc.display`, `Doc.literal`, `Text.quoted`,
`Doc.hasLongInteger`.
-/
import TwinQuery.Document.Basic
import TwinQuery.Number.Shortest
import TwinQuery.Text.Printable

namespace TwinQuery

/-- A number in hexadecimal with at least `width` digits. -/
def Text.hex (width n : Nat) : Text := Text.padLeft '0' width ((Nat.toDigits 16 n).map .char)

/-- A character inside quotes. -/
def Text.quotedChar (quote c : CodePoint) : Text :=
  if c = quote || c = '\\' then ['\\', c]
  else if c = '\n' then "\\n"
  else if c = '\r' then "\\r"
  else if c = '\t' then "\\t"
  else if isPrintable c then [c]
  else if c.toNat < 0x100 then "\\x" ++ Text.hex 2 c.toNat
  else if c.toNat < 0x10000 then "\\u" ++ Text.hex 4 c.toNat
  else "\\U" ++ Text.hex 8 c.toNat

/-- The quote that goes around a text. -/
def Text.quoteFor (t : Text) : CodePoint := if t.contains '\'' && !t.contains '"' then '"' else '\''

/-- A text in quotes. -/
def Text.quoted (t : Text) : Text :=
  t.quoteFor :: t.flatMap (Text.quotedChar t.quoteFor) ++ [t.quoteFor]

/-- A byte inside quotes. -/
def quotedByte (quote : CodePoint) (n : Nat) : Text :=
  if n < 0x80 then Text.quotedChar quote (CodePoint.ofNat n) else "\\x" ++ Text.hex 2 n

/-- Bytes, always in quotes. -/
def bytesLiteral (values : List Nat) : Text :=
  let quote := Text.quoteFor (values.map CodePoint.ofNat)
  [.char 'b', quote] ++ values.flatMap (quotedByte quote) ++ [quote]

/-- A length of time inside a list or an object: whole days, then the seconds
of a day, then microseconds. -/
def intervalLiteral (micros : Int) : Text :=
  let part := fun (name : Text) (n : Int) => if n = 0 then [] else [name ++ "=" ++ Text.ofInt n]
  let parts : List Text :=
    part "days" (micros / dayMicros) ++ part "seconds" (micros % dayMicros / 1000000) ++
      part "microseconds" (micros % 1000000)
  "datetime.timedelta(" ++ (if parts.isEmpty then [.char '0'] else Text.joinWith ", " parts) ++ ")"

/-- An offset inside a list or an object. -/
def offsetLiteral (micros : Int) : Text :=
  if micros = 0 then "datetime.timezone.utc"
  else "datetime.timezone(" ++ intervalLiteral micros ++ ")"

/-- A time stamp inside a list or an object: seconds and microseconds are left
out when they are zero. -/
def Stamp.literal (s : Stamp) : Text :=
  let (h, m, sec, us) := s.clock
  let tail := if us ≠ 0 then [sec, us] else if sec ≠ 0 then [sec] else []
  let numbers := [s.date.year, s.date.month, s.date.day, h, m] ++ tail
  "datetime.datetime(" ++ Text.joinWith ", " (numbers.map Text.ofNat) ++
    (match s.offset with | none => [] | some o => ", tzinfo=" ++ offsetLiteral o) ++ ")"

namespace Scalar

/-- A scalar as it stands by itself. -/
def display : Scalar → Text
  | .null => "None"
  | .bool b => if b then "True" else "False"
  | .int i => Text.ofInt i
  | .float x => x.display
  | .text t => t
  | .date d => d.display
  | .stamp s => s.displayWith ' '
  | .bytes values => bytesLiteral values

/-- A scalar inside a list or an object. -/
def literal : Scalar → Text
  | .text t => t.quoted
  | .date d =>
    "datetime.date(" ++ Text.joinWith ", " ([d.year, d.month, d.day].map Text.ofNat) ++ ")"
  | .stamp s => s.literal
  | s => s.display

end Scalar

namespace Doc

mutual

/-- A document inside a list or an object. -/
def literal : Doc → Text
  | .atom s => s.literal
  | .list items => "[" ++ Text.joinWith ", " (literalItems items) ++ "]"
  | .object fields => "\x7b" ++ Text.joinWith ", " (literalFields fields) ++ "\x7d"
  | .pair first second => "(" ++ literal first ++ ", " ++ literal second ++ ")"
  | .members [] => "set()"
  | .members items => "\x7b" ++ Text.joinWith ", " (items.map Scalar.literal) ++ "\x7d"
  | .enclosing .list => "[...]"
  | .enclosing _ => "\x7b...\x7d"

/-- The items of a list, each inside it. -/
def literalItems : List Doc → List Text
  | [] => []
  | item :: items => literal item :: literalItems items

/-- The fields of an object, each inside it. -/
def literalFields : List (Scalar × Doc) → List Text
  | [] => []
  | (key, value) :: fields => (key.literal ++ ": " ++ literal value) :: literalFields fields

end

/-- A document as it stands by itself. -/
def display : Doc → Text
  | .atom s => s.display
  | d => d.literal

end Doc

/-! ### Integers that are not written -/

/-- The greatest number of decimal digits of an integer that is written. -/
def longestNumeral : Nat := 4300

/-- Whether a scalar is an integer with more digits than are written. -/
def Scalar.isLongInteger : Scalar → Bool
  | .int i => longestNumeral < (Text.ofNat i.natAbs).length
  | _ => false

namespace Doc

mutual

/-- Whether there is an integer in a document that is not written. -/
def hasLongInteger : Doc → Bool
  | .atom s => s.isLongInteger
  | .list items => someLongInteger items
  | .object fields => someLongField fields
  | .pair first second => hasLongInteger first || hasLongInteger second
  | .members items => items.any Scalar.isLongInteger
  | .enclosing _ => false

/-- Whether there is such an integer in some item. -/
def someLongInteger : List Doc → Bool
  | [] => false
  | item :: items => hasLongInteger item || someLongInteger items

/-- Whether there is such an integer in some key or value. -/
def someLongField : List (Scalar × Doc) → Bool
  | [] => false
  | (key, value) :: fields =>
    key.isLongInteger || hasLongInteger value || someLongField fields

end

end Doc

end TwinQuery
