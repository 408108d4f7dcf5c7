/-
# Queries as pipelines

A query is a head followed by stages, divided by `|`. Its lines are stripped
and joined by single blanks first, so layout does not matter; a mark inside
quotes divides like any other. The head is always there, even when it is
empty, and of the stages after it the empty ones are dropped.

Key definitions: `joinLines`, `Pipeline`, `Pipeline.ofQuery`,
`Pipeline.toList`, `stageVerb`, `stageArguments`.
-/
import TwinQuery.Text.Blank

namespace TwinQuery

/-- The mark between the stages of a query. -/
def pipe : CodePoint := '|'

/-- The lines of a query, stripped and without the empty ones, joined by
single blanks. -/
def joinLines (query : Text) : Text :=
  Text.joinWith " " (((Text.lines query).map Text.strip).filter fun line => !line.isEmpty)

/-- A query divided into its head and the stages after it. -/
structure Pipeline where
  head : Text
  stages : List Text
deriving DecidableEq

namespace Pipeline

/-- The pipeline of the pieces between the marks. -/
def ofPieces : List Text → Pipeline
  | [] => ⟨[], []⟩
  | head :: pieces => ⟨Text.strip head, (pieces.map Text.strip).filter fun piece => !piece.isEmpty⟩

/-- The pipeline of a query. -/
def ofQuery (query : Text) : Pipeline := ofPieces (Text.cutAt pipe (joinLines query))

/-- The head and the stages, in order. -/
def toList (p : Pipeline) : List Text := p.head :: p.stages

end Pipeline

/-- The first word of a stage: the name of its command or operator. -/
def stageVerb (stage : Text) : Text := (Text.strip stage).takeWhile isInk

/-- What is left of a stage when as many characters as `verb` has are taken
off its start. -/
def stageArguments (stage verb : Text) : Text :=
  Text.strip ((Text.strip stage).drop verb.length)

end TwinQuery
