/-
# Tokens of YAML

A YAML text as a list of tokens. Indentation becomes marks for the beginning
and the end of block collections. A key is recognised only when its colon is
reached: until then the place where it began is kept, one for each level of
flow collections, and the mark for a key is put in there afterwards. A key
lies on one line and is at most 1024 characters long.

Tokens are read as far as the text makes sense. A mistake becomes the last
token, at the place where a reader of tokens meets it: a token that may turn
out to begin a key is seen only when that is settled, so a mistake that comes
before hides it. A collection too deep inside others is a mistake, too.

Key definitions: `Yaml.Token`, `Yaml.scan`.
-/
import TwinQuery.Text.Utf8
import TwinQuery.Yaml.Scalar

namespace TwinQuery

namespace Yaml

/-- What a directive says: the version of YAML, the meaning of a handle of
tags, or something else. -/
inductive Directive where
  | version (major : Nat)
  | tagHandle (handle start : Text)
  | other
deriving DecidableEq

/-- A token. A tag has a handle, which stands for the start of its name, or its
whole name. -/
inductive Token where
  | blockMapping
  | blockSequence
  | blockEnd
  | flowMapping
  | flowMappingEnd
  | flowSequence
  | flowSequenceEnd
  | comma
  | dash
  | key
  | value
  | scalar (t : Text) (plain : Bool)
  | anchor (name : Text)
  | reference (name : Text)
  | tag (handle : Option Text) (ending : Text)
  | directive (d : Directive)
  | documentStart
  | documentEnd
  | broken (fault : Fault)

/-- How many levels deeper the tokens after a token are. -/
def Token.descent : Token → Int
  | .blockMapping => 1
  | .blockSequence => 1
  | .flowMapping => 1
  | .flowSequence => 1
  | .blockEnd => -1
  | .flowMappingEnd => -1
  | .flowSequenceEnd => -1
  | _ => 0

/-- How many collections may stand inside each other. -/
def deepestNode : Int := 488

/-- The tokens up to the one that begins a collection too deep. -/
def boundDepth (depth : Int) : List Token → List Token
  | [] => []
  | token :: rest =>
    if deepestNode < depth + token.descent then [.broken .nodeTooDeep]
    else token :: boundDepth (depth + token.descent) rest

/-! ### Names -/

/-- A character of an anchor or of the name of a directive. -/
def isNameChar (c : CodePoint) : Bool := c.isAlphanum || c == '-' || c == '_'

/-- Whether a word ends before the given character: a blank, a line break, or
the end of the text. -/
def endsWord : Option CodePoint → Bool
  | none => true
  | some c => c == ' ' || isBreak c

/-- The name after the mark of an anchor or of a reference to one, and the
place after it. -/
def anchorName (c : Cursor) : Except Fault (Text × Cursor) :=
  let name := c.step.rest.takeWhile isNameChar
  let after := c.skip (name.length + 1)
  let ends (ch : CodePoint) : Bool := isGap ch || (Text.ofString "?:,]\x7d%@\x60").contains ch
  if name.isEmpty || !after.peek?.all ends then .error .badYaml
  else .ok (name, after)

/-- A character of a tag. -/
def isTagChar (c : CodePoint) : Bool :=
  c.isAlphanum || (Text.ofString "-;/?:@&=+$,_.!~*'()[]%").contains c

/-- A tag with its escapes read: a percent sign and two hexadecimal digits are
a byte, and the bytes between other characters are UTF-8. `bytes` are those
just before. -/
def tagText (bytes : List Nat) : Text → Except Fault Text
  | '%' :: a :: b :: rest =>
    match Json.hexValue? a, Json.hexValue? b with
    | some m, some n => tagText (bytes ++ [16 * m + n]) rest
    | _, _ => .error .badYaml
  | c :: rest =>
    match Utf8.decode bytes with
    | .ok front => if c = '%' then .error .badYaml else return front ++ c :: (← tagText [] rest)
    | .error _ => .error .badYaml
  | [] =>
    match Utf8.decode bytes with
    | .ok front => .ok front
    | .error _ => .error .badYaml

/-- The part of a tag that begins here, which is not empty, and the place after
it. -/
def tagRun (c : Cursor) : Except Fault (Text × Cursor) := do
  let run := c.rest.takeWhile isTagChar
  if run.isEmpty then .error .badYaml else return (← tagText [] run, c.skip run.length)

/-- The handle of a tag that begins here: an exclamation mark, two of them, or
a name between two. -/
def tagHandle (c : Cursor) : Except Fault (Text × Cursor) :=
  let name := (c.rest.drop 1).takeWhile isNameChar
  match c.rest with
  | '!' :: ' ' :: _ => .ok (['!'], c.step)
  | '!' :: rest =>
    if rest[name.length]? = some (.char '!') then
      .ok (.char '!' :: name ++ [.char '!'], c.skip (name.length + 2))
    else .error .badYaml
  | _ => .error .badYaml

/-- The handle and the rest of a tag without angle brackets. -/
def shortTag (c : Cursor) : Except Fault (Option Text × Text × Cursor) := do
  let hasHandle := ((c.rest.drop 1).takeWhile fun ch => !endsWord (some ch)).contains '!'
  let (handle, c) ← if hasHandle then tagHandle c else .ok (['!'], c.step)
  let (ending, c) ← tagRun c
  .ok (some handle, ending, c)

/-- The handle and the rest of the tag that begins here, and the place after
it. -/
def tagParts (c : Cursor) : Except Fault (Option Text × Text × Cursor) := do
  let (handle, ending, c) ←
    if c.rest[1]? = some (.char '<') then do
      let (name, c) ← tagRun (c.skip 2)
      if c.peek? = some (.char '>') then .ok (none, name, c.step) else .error .badYaml
    else if isGapOrEnd c.rest[1]? then .ok (none, ['!'], c.step)
    else shortTag c
  if endsWord c.peek? then .ok (handle, ending, c) else .error .badYaml

/-- The number of a version that begins here, and the place after it. -/
def versionNumber (c : Cursor) : Except Fault (Nat × Cursor) :=
  let digits := c.rest.takeWhile CodePoint.isDigit
  if digits.isEmpty then .error .badYaml
  else .ok (Json.digitsValue digits, c.skip digits.length)

/-- The directive for the version of YAML, from its number on. -/
def versionDirective (c : Cursor) : Except Fault (Directive × Cursor) := do
  let (major, c) ← versionNumber c
  if c.peek? = some (.char '.') then
    let (_, c) ← versionNumber c.step
    if endsWord c.peek? then .ok (.version major, c) else .error .badYaml
  else .error .badYaml

/-- The directive for a handle of tags, from the handle on. -/
def handleDirective (c : Cursor) : Except Fault (Directive × Cursor) := do
  let (handle, c) ← tagHandle c
  if c.peek? = some (.char ' ') then
    let (start, c) ← tagRun (c.skipWhile (· == ' '))
    if endsWord c.peek? then .ok (.tagHandle handle start, c) else .error .badYaml
  else .error .badYaml

/-- The directive that begins here with its percent sign, and the place after
it. Of an unknown directive the whole line is taken. -/
def readDirective (c : Cursor) : Except Fault (Directive × Cursor) :=
  let name := c.step.rest.takeWhile isNameChar
  let c := c.skip (name.length + 1)
  if name.isEmpty || !endsWord c.peek? then .error .badYaml
  else if name = Text.ofString "YAML" then versionDirective (c.skipWhile (· == ' '))
  else if name = Text.ofString "TAG" then handleDirective (c.skipWhile (· == ' '))
  else .ok (.other, c.skipWhile fun ch => !isBreak ch)

/-! ### Progress -/

/-- A place where a key may have begun. A key that is required is one that
stands where the entries of the block mapping around it stand. -/
structure PendingKey where
  flowLevel : Nat
  token : Nat
  required : Bool
  index : Nat
  line : Nat
  column : Nat

/-- How far the text is read. `indent` is the column of the block collection
around the place, -1 when there is none, and `indents` are those outside
it. -/
structure Progress where
  cursor : Cursor
  tokens : List Token
  flowLevel : Nat
  indent : Int
  indents : List Int
  keyAllowed : Bool
  pending : List PendingKey

namespace Progress

/-- The start of a text. -/
def ofText (t : Text) : Progress := ⟨Cursor.ofText t, [], 0, -1, [], true, []⟩

/-- Whether the place is inside a flow collection. -/
def inFlow (s : Progress) : Bool := s.flowLevel != 0

/-- The progress with one more token. -/
def emit (s : Progress) (token : Token) : Progress := { s with tokens := s.tokens ++ [token] }

/-- The progress with a token put in before the one at a place. -/
def insert (s : Progress) (place : Nat) (token : Token) : Progress :=
  { s with tokens := s.tokens.take place ++ token :: s.tokens.drop place }

/-- The progress some characters on. -/
def forward (s : Progress) (count : Nat) : Progress := { s with cursor := s.cursor.skip count }

/-- The next character. -/
def peek? (s : Progress) (ahead : Nat) : Option CodePoint := s.cursor.rest[ahead]?

/-- Blanks, comments and line breaks skipped; after a line break outside flow
collections a key may begin. -/
def skipGaps : (fuel : Nat) → Progress → Progress
  | 0, s => s
  | fuel + 1, s =>
    let c := s.cursor.skipWhile (· == ' ')
    let c := if c.peek? == some (.char '#') then c.skipWhile (fun ch => !isBreak ch) else c
    match c.peek? with
    | some ch =>
      if isBreak ch then
        skipGaps fuel { s with cursor := c.step, keyAllowed := s.keyAllowed || !s.inFlow }
      else { s with cursor := c }
    | none => { s with cursor := c }

/-- Places where a key can no longer have begun are given up; it is a mistake
if one was required. -/
def dropStaleKeys (s : Progress) : Except Fault Progress :=
  let isStale := fun k : PendingKey =>
    k.line != s.cursor.line || 1024 < s.cursor.index - k.index
  if s.pending.any fun k => isStale k && k.required then .error .badYaml
  else .ok { s with pending := s.pending.filter fun k => !isStale k }

/-- The place of a key at the present level is given up; it is a mistake if it
was required. -/
def dropKey (s : Progress) : Except Fault Progress :=
  if s.pending.any fun k => k.flowLevel == s.flowLevel && k.required then .error .badYaml
  else .ok { s with pending := s.pending.filter fun k => k.flowLevel != s.flowLevel }

/-- A key may begin here, if one is allowed. -/
def saveKey (s : Progress) : Except Fault Progress :=
  if s.keyAllowed then do
    let required := !s.inFlow && s.indent == (s.cursor.column : Int)
    let key : PendingKey :=
      ⟨s.flowLevel, s.tokens.length, required, s.cursor.index, s.cursor.line, s.cursor.column⟩
    let s ← s.dropKey
    .ok { s with pending := key :: s.pending }
  else .ok s

/-- Block collections that are indented more than `column` end. -/
def unwind (column : Int) : (fuel : Nat) → Progress → Progress
  | 0, s => s
  | fuel + 1, s =>
    if !s.inFlow && column < s.indent then
      unwind column fuel
        { s with
          tokens := s.tokens ++ [.blockEnd]
          indent := s.indents.headD (-1)
          indents := s.indents.drop 1 }
    else s

/-- All block collections that are indented more than `column` end. -/
def unwindTo (s : Progress) (column : Int) : Progress := unwind column (s.indents.length + 1) s

/-- Whether a block collection begins at a column, and the progress in it. -/
def openBlock (s : Progress) (column : Nat) : Bool × Progress :=
  if s.indent < (column : Int) then
    (true, { s with indent := column, indents := s.indent :: s.indents })
  else (false, s)

/-- A document mark or a directive ends all block collections. -/
def endBlocks (s : Progress) : Except Fault Progress := do
  let s ← (s.unwindTo (-1)).dropKey
  .ok { s with keyAllowed := false }

/-- The mark of the start or the end of a document. -/
def documentMark (s : Progress) (token : Token) : Except Fault Progress := do
  .ok (((← s.endBlocks).emit token).forward 3)

/-- The opening bracket of a flow collection. -/
def openFlow (s : Progress) (token : Token) : Except Fault Progress := do
  let s ← s.saveKey
  .ok (({ s with flowLevel := s.flowLevel + 1, keyAllowed := true }.emit token).forward 1)

/-- The closing bracket of a flow collection. -/
def closeFlow (s : Progress) (token : Token) : Except Fault Progress := do
  let s ← s.dropKey
  if s.inFlow then
    .ok (({ s with flowLevel := s.flowLevel - 1, keyAllowed := false }.emit token).forward 1)
  else .error .badYaml

/-- The comma of a flow collection. -/
def commaMark (s : Progress) : Except Fault Progress := do
  let s ← { s with keyAllowed := true }.dropKey
  .ok ((s.emit .comma).forward 1)

/-- A block collection that begins at the present column, where a key is
allowed. -/
def beginBlock (s : Progress) (opening : Token) : Except Fault Progress :=
  if s.inFlow then .ok s
  else if !s.keyAllowed then .error .badYaml
  else
    let (opened, s) := s.openBlock s.cursor.column
    .ok (if opened then s.emit opening else s)

/-- The dash of a block sequence. -/
def dashMark (s : Progress) : Except Fault Progress := do
  let s ← s.beginBlock .blockSequence
  let s ← { s with keyAllowed := true }.dropKey
  .ok ((s.emit .dash).forward 1)

/-- The question mark before a key. -/
def keyMark (s : Progress) : Except Fault Progress := do
  let s ← s.beginBlock .blockMapping
  let s ← { s with keyAllowed := !s.inFlow }.dropKey
  .ok ((s.emit .key).forward 1)

/-- The colon before a value. If a key may have begun before it, the mark for
the key is put in there. -/
def valueMark (s : Progress) : Except Fault Progress := do
  match s.pending.find? fun k => k.flowLevel == s.flowLevel with
  | some k =>
    let s := { s with pending := s.pending.filter fun k => k.flowLevel != s.flowLevel }
    let s := s.insert k.token .key
    let s :=
      if s.inFlow then s
      else
        let (opened, s) := s.openBlock k.column
        if opened then s.insert k.token .blockMapping else s
    .ok (({ s with keyAllowed := false }.emit .value).forward 1)
  | none =>
    let s ← s.beginBlock .blockMapping
    let s ← { s with keyAllowed := !s.inFlow }.dropKey
    .ok ((s.emit .value).forward 1)

/-- A token that may begin a key and after which none may begin on the same
line. -/
def keyToken (s : Progress) (read : Cursor → Except Fault (Token × Cursor)) :
    Except Fault Progress := do
  let s ← s.saveKey
  let (token, c) ← read s.cursor
  .ok ({ s with cursor := c, keyAllowed := false }.emit token)

/-- A quoted scalar. -/
def quoted (s : Progress) (quote : CodePoint) : Except Fault Progress :=
  s.keyToken fun c => do
    let (t, c) ← quotedScalar quote c
    .ok (.scalar t false, c)

/-- A plain scalar. -/
def plain (s : Progress) : Except Fault Progress := do
  let s ← s.saveKey
  let (t, c, broke) := plainScalar s.inFlow (s.indent + 1) s.cursor
  .ok ({ s with cursor := c, keyAllowed := broke }.emit (.scalar t true))

/-- A block scalar; after it a key may begin. -/
def block (s : Progress) (folded : Bool) : Except Fault Progress := do
  let s ← { s with keyAllowed := true }.dropKey
  let (t, c) ← blockScalar folded s.indent s.cursor
  .ok ({ s with cursor := c }.emit (.scalar t false))

/-- Characters that cannot begin a plain scalar by themselves. -/
def indicators : List CodePoint :=
  ['-', '?', ':', ',', '[', ']', '\x7b', '\x7d', '#', '&', '*', '!', '|', '>', '\'', '"', '%', '@',
   '\x60']

/-- Whether a plain scalar begins here. -/
def beginsPlain (s : Progress) (ch : CodePoint) : Bool :=
  (!isGap ch && !indicators.contains ch) ||
    (!isGapOrEnd (s.peek? 1) && (ch == '-' || (!s.inFlow && (ch == '?' || ch == ':'))))

/-- A directive, whose line is used up. -/
def directive (s : Progress) : Except Fault Progress := do
  let s ← s.endBlocks
  let (d, c) ← readDirective s.cursor
  .ok ({ s with cursor := ← endLine c }.emit (.directive d))

/-- The progress with the next token, and whether the text is used up. -/
def next (s : Progress) : Except Fault (Bool × Progress) := do
  let s ← (s.skipGaps (s.cursor.rest.length + 1)).dropStaleKeys
  let s := s.unwindTo s.cursor.column
  match s.peek? 0 with
  | none => return (true, ← (s.unwindTo (-1)).dropKey)
  | some ch =>
    let s ←
      if ch = '%' && s.cursor.column = 0 then s.directive
      else if s.cursor.column = 0 && s.cursor.atDocumentMark then
        s.documentMark (if ch = '-' then .documentStart else .documentEnd)
      else if ch = '[' then s.openFlow .flowSequence
      else if ch = '\x7b' then s.openFlow .flowMapping
      else if ch = ']' then s.closeFlow .flowSequenceEnd
      else if ch = '\x7d' then s.closeFlow .flowMappingEnd
      else if ch = ',' then s.commaMark
      else if ch = '-' && isGapOrEnd (s.peek? 1) then s.dashMark
      else if ch = '?' && (s.inFlow || isGapOrEnd (s.peek? 1)) then s.keyMark
      else if ch = ':' && (s.inFlow || isGapOrEnd (s.peek? 1)) then s.valueMark
      else if ch = '*' then s.keyToken fun c => do
        let (name, c) ← anchorName c
        .ok (.reference name, c)
      else if ch = '&' then s.keyToken fun c => do
        let (name, c) ← anchorName c
        .ok (.anchor name, c)
      else if ch = '!' then s.keyToken fun c => do
        let (handle, ending, c) ← tagParts c
        .ok (.tag handle ending, c)
      else if (ch = '|' || ch = '>') && !s.inFlow then s.block (ch == '>')
      else if ch = '\'' || ch = '"' then s.quoted ch
      else if s.beginsPlain ch then s.plain
      else .error .badYaml
    .ok (false, s)

/-- The tokens up to a mistake. Those from the first on that may begin a key
are hidden by it. -/
def breakOff (s : Progress) (fault : Fault) : List Token :=
  let seen := (s.pending.map PendingKey.token).foldl min s.tokens.length
  s.tokens.take seen ++ [.broken fault]

end Progress

/-- All tokens from a place on; the block collections that are open at the end
of the text end there. -/
def scanFrom : (fuel : Nat) → Progress → List Token
  | 0, s => s.breakOff .badYaml
  | fuel + 1, s =>
    match s.dropStaleKeys with
    | .error fault => s.breakOff fault
    | .ok s =>
      match s.next with
      | .error fault => s.breakOff fault
      | .ok (true, s) => s.tokens
      | .ok (false, s) => scanFrom fuel s

/-- The text without a byte order mark at its start. -/
def dropByteOrderMark (t : Text) : Text :=
  match t with
  | c :: rest => if c.toNat = 0xFEFF then rest else c :: rest
  | [] => []

/-- The tokens of a text. -/
def scan (t : Text) : List Token :=
  boundDepth 0 (scanFrom (t.length + 2) (.ofText (dropByteOrderMark t)))

end Yaml

end TwinQuery
