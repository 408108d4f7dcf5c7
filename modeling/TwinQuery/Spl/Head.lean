/-
# The head of an SPL search

The head says where to search and for what: the index, the source type and
the source, how far back in time, the words to look for, and filters on
fields. Each of the first four is given by the first term that carries its
key; the words and the filters are what is left when index, source type and
source terms are taken out.

Key definitions: `SearchHead`, `SearchHead.ofText`, `freeText`,
`tableOfIndex`, `timespanOfEarliest`.
-/
import TwinQuery.Spl.Term

namespace TwinQuery

/-- A time relative to now: a number of seconds, minutes, hours or days, with
or without a minus sign. -/
def relativeTime? (t : Text) : Option Text :=
  let (sign, rest) : Text × Text := match t with | '-' :: r => (['-'], r) | r => ([], r)
  match rest.takeWhile isDigit, rest.dropWhile isDigit with
  | d :: digits, unit :: _ =>
    if unit = 's' || unit = 'm' || unit = 'h' || unit = 'd' then
      some (sign ++ (d :: digits) ++ [unit])
    else none
  | _, _ => none

/-- A time in double quotes; it may hold blanks but is not empty. -/
def quotedTime? : Text → Option Text
  | '"' :: rest =>
    match rest.takeWhile (· != CodePoint.char '"'), rest.dropWhile (· != CodePoint.char '"') with
    | c :: body, quote :: _ => some (.char '"' :: (c :: body) ++ [quote])
    | _, _ => none
  | _ => none

/-- The time that a text begins with: a relative time, else a quoted one, else
the first word. A relative time ends with its unit, whatever follows. -/
def timeValue? (t : Text) : Option Text :=
  match t.takeWhile isInk with
  | [] => none
  | c :: word => (relativeTime? t).or ((quotedTime? t).or (some (c :: word)))

/-- The time after the first `earliest=` that follows no word character and is
followed by a time. -/
def earliestFrom : (inWord : Bool) → Text → Option Text
  | _, [] => none
  | inWord, c :: rest =>
    match if inWord then none else Text.dropStart? "earliest=" (c :: rest) with
    | some after => (timeValue? after).or (earliestFrom (isWord c) rest)
    | none => earliestFrom (isWord c) rest

/-- A word without the index, source type and source terms in it. -/
def eraseLogSource (word : Text) : Text :=
  eraseField "source=" (eraseField "sourcetype=" (eraseField "index=" word))

/-- The head without its index, source type and source terms. -/
def freeText (head : Text) : Text := Text.strip (Text.mapWords eraseLogSource head)

/-- The keys whose terms say where and when to search. -/
def headKeys : List Text := ["index", "source", "sourcetype", "earliest"]

/-- Whether a word has the form key=value. -/
def isKeyed (word : Text) : Bool := word.contains '='

/-- The key of a word of the form key=value. -/
def keyOf (word : Text) : Text := word.takeWhile (· != '=')

/-- What an SPL search head says. Index, source type, source and earliest time
are kept as they are written, quotes and wildcards included. -/
structure SearchHead where
  index : Option Text
  sourcetype : Option Text
  source : Option Text
  earliest : Option Text
  terms : List Text
  filters : List Text
deriving DecidableEq

namespace SearchHead

/-- What the text of a head says. -/
def ofText (head : Text) : SearchHead where
  index := fieldValue "index=" head
  sourcetype := fieldValue "sourcetype=" head
  source := fieldValue "source=" head
  earliest := earliestFrom false head
  terms := (Text.words (freeText head)).filter fun word => !isKeyed word
  filters := (Text.words (freeText head)).filter fun word =>
    isKeyed word && !headKeys.contains (keyOf word)

end SearchHead

/-- The table for an index: its name without wildcards and quotes. -/
def tableOfIndex (index : Text) : Text := index.filter fun c => c != '*' && c != '"'

/-- The span of time for an earliest time: without quotes and without the
first minus sign. -/
def timespanOfEarliest (earliest : Text) : Text := (unquote earliest).erase '-'

end TwinQuery
