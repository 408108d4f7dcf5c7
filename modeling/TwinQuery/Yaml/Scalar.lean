/-
# Scalars in YAML

A scalar is plain, in single or double quotes, or a block of indented lines.
Lines inside a plain or quoted scalar are folded; a block keeps its lines, or
folds those that begin with neither a blank nor a tab. Here is what the text
of a scalar is; what it stands for depends on its tag.

Key definitions: `Yaml.plainScalar`, `Yaml.quotedScalar`, `Yaml.blockScalar`.
-/
import TwinQuery.Fault
import TwinQuery.Json.Reader
import TwinQuery.Yaml.Cursor

namespace TwinQuery

namespace Yaml

/-! ### Plain scalars -/

/-- A bracket of a flow collection, or the comma in it. -/
def isFlowMark (c : CodePoint) : Bool :=
  c == ',' || c == '[' || c == ']' || c == '\x7b' || c == '\x7d'

/-- Whether a colon before the given character ends a plain scalar. -/
def colonEnds (flow : Bool) : Option CodePoint → Bool
  | none => true
  | some c => isGap c || (flow && isFlowMark c)

/-- The part of a plain scalar without blanks that the text begins with. -/
def plainRun (flow : Bool) : Text → Text
  | [] => []
  | c :: rest =>
    if isGap c || (c == ':' && colonEnds flow rest.head?) ||
        (flow && (isFlowMark c || c == '?')) then
      []
    else c :: plainRun flow rest

/-- The breaks at the start of a text and the blanks between them. Nothing is
given when a document mark follows one of the breaks. -/
def plainBreaks : (fuel : Nat) → Cursor → (breaks : Text) → Option Text × Cursor
  | 0, c, breaks => (some breaks, c)
  | fuel + 1, c, breaks =>
    match c.peek? with
    | none => (some breaks, c)
    | some ch =>
      if ch = ' ' then plainBreaks fuel c.step breaks
      else if isBreak ch then
        let next := c.step
        if next.atDocumentMark then (none, next)
        else plainBreaks fuel next (breaks ++ [breakValue ch])
      else (some breaks, c)

/-- The gap after a part of a plain scalar as it counts, the place after it,
and whether it held a line break. -/
def plainGap (c : Cursor) : Text × Cursor × Bool :=
  let blanks := c.rest.takeWhile (· == CodePoint.char ' ')
  let c := c.skip blanks.length
  match c.peek? with
  | none => (blanks, c, false)
  | some ch =>
    if isBreak ch then
      let next := c.step
      if next.atDocumentMark then ([], next, true)
      else
        match plainBreaks next.rest.length next [] with
        | (some breaks, after) => (foldBreaks (breakValue ch) breaks, after, true)
        | (none, after) => ([], after, true)
    else (blanks, c, false)

/-- A plain scalar: its text, the place after it, and whether a line break was
the last thing read. `acc` is what was read so far and `gap` the gap after
it. -/
def plainFrom (flow : Bool) (indent : Int) : (fuel : Nat) → Cursor → (acc gap : Text) →
    (broke : Bool) → Text × Cursor × Bool
  | 0, c, acc, _, broke => (acc, c, broke)
  | fuel + 1, c, acc, gap, broke =>
    if c.peek? == some (.char '#') then (acc, c, broke)
    else
      match plainRun flow c.rest with
      | [] => (acc, c, broke)
      | run =>
        let acc := acc ++ gap ++ run
        let (gap, c, broke) := plainGap (c.skip run.length)
        if gap.isEmpty || c.peek? == some (.char '#') || (!flow && (c.column : Int) < indent) then
          (acc, c, broke)
        else plainFrom flow indent fuel c acc gap broke

/-- The plain scalar that begins here. -/
def plainScalar (flow : Bool) (indent : Int) (c : Cursor) : Text × Cursor × Bool :=
  plainFrom flow indent (c.rest.length + 1) c [] [] false

/-! ### Quoted scalars -/

/-- The escapes of one letter in double quotes. -/
def escapeValue? (c : CodePoint) : Option Nat :=
  match c with
  | '0' => some 0
  | 'a' => some 7
  | 'b' => some 8
  | 't' => some 9
  | '\t' => some 9
  | 'n' => some 10
  | 'v' => some 11
  | 'f' => some 12
  | 'r' => some 13
  | 'e' => some 27
  | ' ' => some 32
  | '"' => some 34
  | '/' => some 47
  | '\\' => some 92
  | 'N' => some 0x85
  | '_' => some 0xA0
  | 'L' => some 0x2028
  | 'P' => some 0x2029
  | _ => none

/-- How many hexadecimal digits follow a letter in double quotes. -/
def codeLength? (c : CodePoint) : Option Nat :=
  match c with
  | 'x' => some 2
  | 'u' => some 4
  | 'U' => some 8
  | _ => none

/-- The value of hexadecimal digits. -/
def hexDigits? (t : Text) : Option Nat :=
  t.foldl (fun acc c => do return (← acc) * 16 + (← Json.hexValue? c)) (some 0)

/-- The line breaks at the start of a text, with the blanks around them
dropped. A document mark inside quotes is a mistake. -/
def quotedBreaks : (fuel : Nat) → Cursor → (breaks : Text) → Except Fault (Text × Cursor)
  | 0, c, breaks => .ok (breaks, c)
  | fuel + 1, c, breaks =>
    if c.atDocumentMark then .error .badYaml
    else
      let c := c.skipWhile isSpace
      match c.peek? with
      | some ch =>
        if isBreak ch then quotedBreaks fuel c.step (breaks ++ [breakValue ch]) else .ok (breaks, c)
      | none => .ok (breaks, c)

/-- The code point of a code. Halves that follow each other are not joined. -/
def codePointOf (n : Nat) : Except Fault CodePoint :=
  if 0x7FFFFFFF < n then .error .codeUncountable
  else if 0x10FFFF < n then .error .codeOutOfRange
  else .ok (CodePoint.ofNat n)

/-- What an escape in double quotes stands for, and the place after it; the
place given is after the backslash. -/
def escape (c : Cursor) : Except Fault (Text × Cursor) :=
  match c.peek? with
  | none => .error .badYaml
  | some ch =>
    match escapeValue? ch, codeLength? ch with
    | some n, _ => .ok ([CodePoint.ofNat n], c.step)
    | none, some count =>
      let digits := c.step.rest.take count
      match hexDigits? digits with
      | some n =>
        if digits.length = count then return ([← codePointOf n], c.skip (count + 1))
        else .error .badYaml
      | none => .error .badYaml
    | none, none =>
      if isBreak ch then quotedBreaks (c.rest.length + 1) c.step [] else .error .badYaml

/-- The rest of a quoted scalar after its opening quote, and the place after
its closing one. -/
def quotedFrom (quote : CodePoint) :
    (fuel : Nat) → Cursor → (acc : Text) → Except Fault (Text × Cursor)
  | 0, _, _ => .error .badYaml
  | fuel + 1, c, acc =>
    match c.peek? with
    | none => .error .badYaml
    | some ch =>
      if ch = quote then
        if quote = '\'' && c.rest[1]? == some (.char '\'') then
          quotedFrom quote fuel (c.skip 2) (acc ++ [ch])
        else .ok (acc, c.step)
      else if ch = '\\' && quote = '"' then do
        let (t, c) ← escape c.step
        quotedFrom quote fuel c (acc ++ t)
      else if isGap ch then
        let blanks := c.rest.takeWhile isSpace
        let c := c.skip blanks.length
        match c.peek? with
        | none => .error .badYaml
        | some ch =>
          if isBreak ch then do
            let (breaks, c) ← quotedBreaks (c.rest.length + 1) c.step []
            quotedFrom quote fuel c (acc ++ foldBreaks (breakValue ch) breaks)
          else quotedFrom quote fuel c (acc ++ blanks)
      else quotedFrom quote fuel c.step (acc ++ [ch])

/-- The quoted scalar that begins here. -/
def quotedScalar (quote : CodePoint) (c : Cursor) : Except Fault (Text × Cursor) :=
  quotedFrom quote (c.rest.length + 1) c.step []

/-! ### Blocks -/

/-- What happens to the line breaks at the end of a block: all are dropped,
one is kept, or all are kept. -/
inductive Chomping where
  | strip
  | clip
  | keep
deriving DecidableEq

/-- The sign that says what happens to the breaks at the end. -/
def chomping? : Option CodePoint → Option Chomping
  | some '+' => some .keep
  | some '-' => some .strip
  | _ => none

/-- The digit that says how far a block is indented; zero is a mistake. -/
def blockIndent? : Option CodePoint → Except Fault (Option Nat)
  | some c =>
    if c = '0' then .error .badYaml
    else if c.isDigit then .ok (some (c.toNat - 48))
    else .ok none
  | none => .ok none

/-- The sign and the digit after the mark of a block, in either order. -/
def blockHeader (c : Cursor) : Except Fault (Chomping × Option Nat × Cursor) :=
  match chomping? c.peek? with
  | some chomping => do
    match ← blockIndent? c.step.peek? with
    | some n => .ok (chomping, some n, c.skip 2)
    | none => .ok (chomping, none, c.step)
  | none => do
    match ← blockIndent? c.peek? with
    | some n =>
      match chomping? c.step.peek? with
      | some chomping => .ok (chomping, some n, c.skip 2)
      | none => .ok (.clip, some n, c.step)
    | none => .ok (.clip, none, c)

/-- The next line, when nothing but blanks and a comment are left of this
one. -/
def endLine (c : Cursor) : Except Fault Cursor :=
  let c := c.skipWhile (· == ' ')
  let c := if c.peek? == some (.char '#') then c.skipWhile (fun ch => !isBreak ch) else c
  match c.peek? with
  | none => .ok c
  | some ch => if isBreak ch then .ok c.step else .error .badYaml

/-- The line breaks before the first line of a block, the greatest column of
the blanks between them, and the place after them. -/
def blockLead : (fuel : Nat) → Cursor → (breaks : Text) → (widest : Nat) → Text × Nat × Cursor
  | 0, c, breaks, widest => (breaks, widest, c)
  | fuel + 1, c, breaks, widest =>
    match c.peek? with
    | none => (breaks, widest, c)
    | some ch =>
      if ch = ' ' then blockLead fuel c.step breaks (max widest c.step.column)
      else if isBreak ch then blockLead fuel c.step (breaks ++ [breakValue ch]) widest
      else (breaks, widest, c)

/-- The place after the blanks up to a column. -/
def skipIndent (column : Nat) (c : Cursor) : Cursor :=
  c.skip ((c.rest.takeWhile (· == CodePoint.char ' ')).take (column - c.column)).length

/-- The line breaks of empty lines in a block, and the place after them and
the indentation of the next line. -/
def blockBreaks (column : Nat) : (fuel : Nat) → Cursor → (breaks : Text) → Text × Cursor
  | 0, c, breaks => (breaks, c)
  | fuel + 1, c, breaks =>
    let c := skipIndent column c
    match c.peek? with
    | none => (breaks, c)
    | some ch =>
      if isBreak ch then blockBreaks column fuel c.step (breaks ++ [breakValue ch]) else (breaks, c)

/-- The break at the end of a line, nothing at the end of the text, and the
place after it. -/
def lineBreak (c : Cursor) : Text × Cursor :=
  match c.peek? with
  | none => ([], c)
  | some ch => if isBreak ch then ([breakValue ch], c.step) else ([], c)

/-- What stands between two lines of a block, before the breaks of the empty
lines between them. -/
def blockJoin (folded : Bool) (line next : Option CodePoint) (ending breaks : Text) : Text :=
  if folded && ending == [.char '\n'] && !line.any isSpace && !next.any isSpace then
    (if breaks.isEmpty then [' '] else [])
  else ending

/-- The lines of a block, each at the given column: the text up to the last
line, the break after that, the breaks of empty lines after it, and the place
after them. `acc` is the text so far and `breaks` are the empty lines after
it. -/
def blockLines (folded : Bool) (column : Nat) : (fuel : Nat) → Cursor → (acc ending breaks : Text) →
    Text × Text × Text × Cursor
  | 0, c, acc, ending, breaks => (acc, ending, breaks, c)
  | fuel + 1, c, acc, ending, breaks =>
    if c.column = column && c.peek?.isSome then
      let line := c.rest.takeWhile fun ch => !isBreak ch
      let acc := acc ++ breaks ++ line
      let first := line.head?
      let (ending, c) := lineBreak (c.skip line.length)
      let (breaks, c) := blockBreaks column (c.rest.length + 1) c []
      if c.column = column && c.peek?.isSome then
        blockLines folded column fuel c (acc ++ blockJoin folded first c.peek? ending breaks) ending
          breaks
      else (acc, ending, breaks, c)
    else (acc, ending, breaks, c)

/-- The block that begins here with its mark; `indent` is the column of the
block collection around it. -/
def blockScalar (folded : Bool) (indent : Int) (c : Cursor) : Except Fault (Text × Cursor) := do
  let (chomping, increment, c) ← blockHeader c.step
  if !(c.peek?.all fun ch : CodePoint => ch == ' ' || isBreak ch) then .error .badYaml
  else
    let c ← endLine c
    let least := (max (indent + 1) 1).toNat
    let (breaks, column, c) :=
      match increment with
      | some n =>
        let (breaks, c) := blockBreaks (least + n - 1) (c.rest.length + 1) c []
        (breaks, least + n - 1, c)
      | none =>
        let (breaks, widest, c) := blockLead (c.rest.length + 1) c [] 0
        (breaks, max least widest, c)
    let (t, ending, breaks, c) := blockLines folded column (c.rest.length + 1) c [] [] breaks
    .ok (t ++ (if chomping = .strip then [] else ending) ++
      (if chomping = .keep then breaks else []), c)

end Yaml

end TwinQuery
