/-
# Writing JSON

Two layouts: on one line with characters as they are, and indented by two
blanks a level with every character beyond ASCII escaped. Floating-point
numbers that JSON has no notation for are written as words, other scalars as
their texts. A key that is not a text is written as the text of its value.
Pairs and sets are written as lists.

Key definitions: `Json.Layout`, `Json.write`, `Json.compact`, `Json.indented`.
-/
import TwinQuery.Document.Display

namespace TwinQuery

namespace Json

/-- How a document is laid out: indented or on one line, and with or without
characters beyond ASCII. -/
structure Layout where
  indent : Bool
  ascii : Bool

/-- One line, characters as they are. -/
def compact : Layout := ⟨false, false⟩

/-- Indented, ASCII only. -/
def indented : Layout := ⟨true, true⟩

/-- A unit of sixteen bits, as an escape. -/
def unitEscape (n : Nat) : Text := "\\u" ++ Text.hex 4 n

/-- A character beyond ASCII, as one escape or as a pair of them. -/
def charEscape (n : Nat) : Text :=
  if n < 0x10000 then unitEscape n
  else unitEscape (0xD800 + (n - 0x10000) / 0x400) ++ unitEscape (0xDC00 + (n - 0x10000) % 0x400)

/-- A character inside a string. -/
def stringChar (ascii : Bool) (c : CodePoint) : Text :=
  if c = '"' then "\\\""
  else if c = '\\' then "\\\\"
  else if c = '\n' then "\\n"
  else if c = '\r' then "\\r"
  else if c = '\t' then "\\t"
  else if c.toNat = 8 then "\\b"
  else if c.toNat = 12 then "\\f"
  else if c.toNat < 32 then unitEscape c.toNat
  else if ascii && 126 < c.toNat then charEscape c.toNat
  else [c]

/-- A text as a JSON string. -/
def string (ascii : Bool) (t : Text) : Text :=
  "\"" ++ t.flatMap (stringChar ascii) ++ "\""

/-- A scalar. -/
def scalar (ascii : Bool) : Scalar → Text
  | .null => "null"
  | .bool b => if b then "true" else "false"
  | .int i => Text.ofInt i
  | .float x => x.displayWith "NaN" "Infinity"
  | .text t => string ascii t
  | s => string ascii s.display

/-- A key, always a string. -/
def key (ascii : Bool) : Scalar → Text
  | .text t => string ascii t
  | .null => "\"null\""
  | .bool b => if b then "\"true\"" else "\"false\""
  | s => "\"" ++ scalar ascii s ++ "\""

/-- The break before an item at the given depth. -/
def newline (depth : Nat) : Text := '\n' :: List.replicate (2 * depth) ' '

/-- What stands between items at the given depth. -/
def separator (layout : Layout) (depth : Nat) : Text :=
  if layout.indent then ',' :: newline depth else ", "

/-- Items between brackets, at the depth of the items. -/
def enclose (layout : Layout) (depth : Nat) (opening closing : Text) : List Text → Text
  | [] => opening ++ closing
  | items =>
    let body := Text.joinWith (separator layout (depth + 1)) items
    if layout.indent then opening ++ newline (depth + 1) ++ body ++ newline depth ++ closing
    else opening ++ body ++ closing

mutual

/-- A document at the given depth. -/
def writeAt (layout : Layout) (depth : Nat) : Doc → Text
  | .atom s => scalar layout.ascii s
  | .list items => enclose layout depth "[" "]" (writeItems layout (depth + 1) items)
  | .object fields =>
    enclose layout depth "\x7b" "\x7d" (writeFields layout (depth + 1) fields)
  | .pair first second =>
    enclose layout depth "[" "]"
      [writeAt layout (depth + 1) first, writeAt layout (depth + 1) second]
  | .members items => enclose layout depth "[" "]" (items.map (scalar layout.ascii))
  | .enclosing kind => string layout.ascii (Doc.literal (.enclosing kind))

/-- The items of a list. -/
def writeItems (layout : Layout) (depth : Nat) : List Doc → List Text
  | [] => []
  | item :: items => writeAt layout depth item :: writeItems layout depth items

/-- The fields of an object. -/
def writeFields (layout : Layout) (depth : Nat) : List (Scalar × Doc) → List Text
  | [] => []
  | (k, value) :: fields =>
    (key layout.ascii k ++ ": " ++ writeAt layout depth value) :: writeFields layout depth fields

end

/-- A document in the given layout. -/
def write (layout : Layout) (d : Doc) : Text := writeAt layout 0 d

end Json

end TwinQuery
