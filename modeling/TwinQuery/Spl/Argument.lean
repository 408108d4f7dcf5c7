/-
# Arguments of SPL commands

The parts that the commands with a rule of their own take from their
arguments: the options of `spath`, the span of `timechart`, the fields after
`by`, the two names of `rename`, and the key and direction of `sort`.

Key definitions: `SpathOptions.ofText?`, `takeSpan`, `splitByClause`,
`renamePair?`, `sortKey?`.
-/
import TwinQuery.Spl.Term

namespace TwinQuery

/-- The small ASCII letter that a character is matched as when case does not
count; the long s is an s. -/
def foldLetter (c : CodePoint) : CodePoint := if c = 'ſ' then 's' else c.toLower

/-- Whether a word is the given small-letter keyword when case does not
count. -/
def isKeyword (keyword word : Text) : Bool := word.map foldLetter == keyword

/-- The options of `spath`. -/
structure SpathOptions where
  path : Text
  output : Text
  input : Option Text
deriving DecidableEq

/-- The options of `spath`, when there are both a path and an output. -/
def SpathOptions.ofText? (args : Text) : Option SpathOptions :=
  match fieldValue "path=" args, fieldValue "output=" args with
  | some path, some output => some ⟨path, output, fieldValue "input=" args⟩
  | _, _ => none

/-- The span and the words without it, from the first word that carries one. -/
def takeSpanWord : List Text → Option (Text × List Text)
  | [] => none
  | word :: words =>
    match cutField "span=" word with
    | some ([], span) => some (span, words)
    | some (c :: before, span) => some (span, (c :: before) :: words)
    | none => (takeSpanWord words).map fun (span, rest) => (span, word :: rest)

/-- The span among the arguments and the other arguments, which are joined by
single blanks when a span is taken out. -/
def takeSpan (args : Text) : Option Text × Text :=
  match takeSpanWord (Text.words args) with
  | some (span, rest) => (some span, Text.joinWith " " rest)
  | none => (none, Text.strip args)

/-- What follows the keyword `by` and a blank, after any blanks. -/
def afterBy? (t : Text) : Option Text :=
  match t.dropWhile isBlank with
  | b :: y :: c :: rest => if isKeyword "by" [b, y] && isBlank c then some rest else none
  | _ => none

/-- The texts before and after the first keyword `by` that stands between
blanks. -/
def cutAtBy? : Text → Option (Text × Text)
  | [] => none
  | c :: rest =>
    match if isBlank c then afterBy? rest else none with
    | some after => some ([], after)
    | none => (cutAtBy? rest).map fun (before, after) => (c :: before, after)

/-- The aggregations and the fields after `by`, if there is such a clause. -/
def splitByClause (args : Text) : Text × Option Text :=
  match cutAtBy? (' ' :: Text.strip args) with
  | some (aggregations, fields) => (Text.strip aggregations, some (Text.strip fields))
  | none => (Text.strip args, none)

/-- The old and the new name around the first `as`. -/
def renamePairIn : List Text → Option (Text × Text)
  | old :: word :: new :: rest =>
    if isKeyword "as" word then some (old, new) else renamePairIn (word :: new :: rest)
  | _ => none

/-- The old and the new name of a `rename`. -/
def renamePair? (args : Text) : Option (Text × Text) := renamePairIn (Text.words args)

/-- The direction of a sort key. -/
inductive Direction where
  | ascending
  | descending
deriving DecidableEq

/-- The keyword of a direction. -/
def Direction.name : Direction → Text
  | .ascending => "asc"
  | .descending => "desc"

/-- The field and direction of `sort`: a minus sign before the field means
descending, a plus sign is dropped, and a sign that stands alone is taken for
the field. -/
def sortKey? (args : Text) : Option (Text × Direction) :=
  match args with
  | [] => none
  | sign :: rest =>
    match rest.takeWhile isInk with
    | [] => if isInk sign then some ([sign], .ascending) else none
    | c :: field =>
      if sign = '-' then some (c :: field, .descending)
      else if sign = '+' then some (c :: field, .ascending)
      else if isInk sign then some (sign :: c :: field, .ascending)
      else none

end TwinQuery
