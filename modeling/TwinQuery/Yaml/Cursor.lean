/-
# Places in a YAML text

The reader of YAML keeps track of lines and columns, because indentation is
structure. Line breaks here are the line feed and the three further breaks of
YAML; carriage returns are already gone.

Key definitions: `Yaml.Cursor`, `Yaml.Cursor.skip`, `Yaml.isBreak`,
`Yaml.isGap`, `Yaml.foldBreaks`.
-/
import TwinQuery.Text.Basic

namespace TwinQuery

namespace Yaml

/-- A place in a text: what follows, and how far it is from the start. -/
structure Cursor where
  rest : Text
  index : Nat
  line : Nat
  column : Nat

/-- A line break. -/
def isBreak (c : CodePoint) : Bool :=
  c == '\n' || c.toNat == 0x85 || c.toNat == 0x2028 || c.toNat == 0x2029

/-- A blank inside a line. -/
def isSpace (c : CodePoint) : Bool := c == ' ' || c == '\t'

/-- A blank or a line break. -/
def isGap (c : CodePoint) : Bool := isSpace c || isBreak c

/-- Whether the next character is a blank, a line break, or missing. -/
def isGapOrEnd : Option CodePoint → Bool
  | none => true
  | some c => isGap c

namespace Cursor

/-- The start of a text. -/
def ofText (t : Text) : Cursor := ⟨t, 0, 0, 0⟩

/-- The next character. -/
def peek? (c : Cursor) : Option CodePoint := c.rest.head?

/-- The place one character on. The byte order mark takes no column. -/
def step (c : Cursor) : Cursor :=
  match c.rest with
  | [] => c
  | ch :: rest =>
    if isBreak ch then ⟨rest, c.index + 1, c.line + 1, 0⟩
    else if ch.toNat = 0xFEFF then ⟨rest, c.index + 1, c.line, c.column⟩
    else ⟨rest, c.index + 1, c.line, c.column + 1⟩

/-- The place some characters on. -/
def skip : (count : Nat) → Cursor → Cursor
  | 0, c => c
  | count + 1, c => skip count c.step

/-- The place after the characters that satisfy `p`. -/
def skipWhile (p : CodePoint → Bool) (c : Cursor) : Cursor := skip (c.rest.takeWhile p).length c

/-- Whether a mark that begins or ends a document stands here. -/
def atDocumentMark (c : Cursor) : Bool :=
  (Text.startsWith "---" c.rest || Text.startsWith "..." c.rest) && isGapOrEnd c.rest[3]?

end Cursor

/-- A line break as it counts inside a scalar: most are line feeds. -/
def breakValue (c : CodePoint) : CodePoint := if c.toNat = 0x85 then '\n' else c

/-- The line breaks inside a scalar as they count: a single line feed is a
blank, and of several line feeds the first is dropped. -/
def foldBreaks (first : CodePoint) (more : Text) : Text :=
  if first != '\n' then first :: more
  else if more.isEmpty then [' ']
  else more

end Yaml

end TwinQuery
