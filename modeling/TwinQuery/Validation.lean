/-
# Validation

Structural checks of a query: is there a mark between stages, does the query
begin as it should, are its verbs known. The checks look at words only; what
they find are errors and warnings. Without a vocabulary the verbs are not
checked.

Key definitions: `Findings`, `validateSpl`, `validateKql`.
-/
import TwinQuery.Pipeline
import TwinQuery.Vocabulary.Basic

namespace TwinQuery

/-- What a validation found. -/
structure Findings where
  errors : List Text
  warnings : List Text
deriving DecidableEq

/-- A query is valid when no error was found. -/
def Findings.valid (f : Findings) : Bool := f.errors.isEmpty

/-- The starts of a word that begin a search rather than name a command. -/
def searchStarts : List Text := ["index=", "source=", "sourcetype="]

/-- The starts of a query that needs no mark. -/
def pipelessStarts : List Text := ["index=", "source="]

/-- Whether a text begins with one of the given starts. -/
def startsWithAny (starts : List Text) (t : Text) : Bool :=
  starts.any fun start => Text.startsWith start t

/-- The verbs of the pieces that are not blank. -/
def verbsOf (pieces : List Text) : List Text :=
  ((pieces.map Text.strip).filter fun piece => !piece.isEmpty).map stageVerb

/-- The warning that a query has no mark. -/
def missingPipe (what : Text) : Text :=
  "Query may be missing pipe character for chaining " ++ what

/-- The warnings on an SPL query without a mark. -/
def splPipeWarnings (query : Text) : List Text :=
  if query.contains pipe || startsWithAny pipelessStarts query then [] else [missingPipe "commands"]

/-- The warnings on unknown commands. -/
def splVerbWarnings (commands : VerbTable) (query : Text) : List Text :=
  ((verbsOf (Text.cutAt pipe query)).filter fun verb =>
      !commands.knows verb && !startsWithAny searchStarts verb).map
    fun verb => "Unknown SPL command: " ++ verb

/-- What is found in an SPL query. -/
def validateSpl (commands : Option VerbTable) (query : Text) : Findings :=
  ⟨[], splPipeWarnings query ++ (commands.map fun table => splVerbWarnings table query).getD []⟩

/-- The lines of a query that are not blank, stripped. -/
def filledLines (query : Text) : List Text :=
  ((Text.lines query).map Text.strip).filter fun line => !line.isEmpty

/-- The error of a KQL query that begins with a mark. -/
def kqlErrors (query : Text) : List Text :=
  match filledLines query with
  | (c :: _) :: _ => if c = pipe then ["KQL query must start with a table name, not a pipe"] else []
  | _ => []

/-- The warnings on a KQL query without a mark. -/
def kqlPipeWarnings (query : Text) : List Text :=
  if query.contains pipe then [] else [missingPipe "operators"]

/-- The warnings on unknown operators; the first piece is the table. -/
def kqlVerbWarnings (operators : VerbTable) (query : Text) : List Text :=
  ((verbsOf ((Text.cutAt pipe query).drop 1)).filter fun verb => !operators.knows verb).map
    fun verb => "Unknown KQL operator: " ++ verb

/-- What is found in a KQL query. -/
def validateKql (operators : Option VerbTable) (query : Text) : Findings :=
  ⟨kqlErrors query,
    kqlPipeWarnings query ++ (operators.map fun table => kqlVerbWarnings table query).getD []⟩

end TwinQuery
