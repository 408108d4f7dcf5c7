/-
# From SPL to KQL

The head of a search becomes a table and a `where` stage with its predicates:
the time first, then source type and source, then one predicate for each
word. A stage whose command is in the vocabulary becomes a stage by the rule
of that command, or its equivalent with the stage kept as a comment when
there is no rule; a stage whose command is unknown is kept with a warning.

Key definitions: `SplCommand`, `SearchHead.predicates`, `headToKql`,
`commandToKql`, `stageToKql`, `queryToKql`.
-/
import TwinQuery.Conversion.Fragment
import TwinQuery.Pipeline
import TwinQuery.Spl.Argument
import TwinQuery.Spl.Head
import TwinQuery.Vocabulary.Basic

namespace TwinQuery

/-- The SPL commands with a rule of their own; `filter` is the command
`where`. -/
inductive SplCommand where
  | stats
  | eval
  | filter
  | fields
  | table
  | sort
  | head
  | dedup
  | rename
  | mvexpand
  | spath
  | rex
  | timechart
  | other
deriving DecidableEq

namespace SplCommand

/-- The name of a command in a query. -/
def name : SplCommand → Text
  | .stats => "stats"
  | .eval => "eval"
  | .filter => "where"
  | .fields => "fields"
  | .table => "table"
  | .sort => "sort"
  | .head => "head"
  | .dedup => "dedup"
  | .rename => "rename"
  | .mvexpand => "mvexpand"
  | .spath => "spath"
  | .rex => "rex"
  | .timechart => "timechart"
  | .other => "other"

/-- The commands with a rule of their own. -/
def all : List SplCommand :=
  [.stats, .eval, .filter, .fields, .table, .sort, .head, .dedup, .rename, .mvexpand, .spath, .rex,
   .timechart]

/-- The command of a verb. -/
def ofVerb (verb : Text) : SplCommand := (all.find? fun command => command.name == verb).getD .other

end SplCommand

/-! ### The head -/

/-- The table that stands in for an index that is not given. -/
def placeholderTable : Text := "TableName"

namespace SearchHead

/-- The table to query. -/
def table (h : SearchHead) : Text := (h.index.map tableOfIndex).getD placeholderTable

/-- The predicate on the time. -/
def timePredicate (earliest : Text) : Text :=
  "TimeGenerated >= ago(" ++ timespanOfEarliest earliest ++ ")"

/-- The predicate on the source type. -/
def sourcetypePredicate (sourcetype : Text) : Text :=
  "SourceType == \"" ++ unquote sourcetype ++ "\""

/-- The predicate on the source. -/
def sourcePredicate (source : Text) : Text := "Source == \"" ++ unquote source ++ "\""

/-- The predicate for a word to look for. -/
def termPredicate (term : Text) : Text := "* contains \"" ++ unquote term ++ "\""

/-- The predicates of a head, the one on the time first. -/
def predicates (h : SearchHead) : List Text :=
  (h.earliest.map timePredicate).toList ++ (h.sourcetype.map sourcetypePredicate).toList ++
    (h.source.map sourcePredicate).toList ++ h.terms.map termPredicate

/-- The note on an index. -/
def indexNote (index : Text) : Text :=
  "Mapped index=\"" ++ index ++ "\" to table \"" ++ tableOfIndex index ++ "\""

/-- The note on a filter, which is not converted. -/
def filterNote (filter : Text) : Text :=
  "Field filter \"" ++ filter ++ "\" not translated - requires manual adjustment"

/-- The note on a time. -/
def earliestNote (earliest : Text) : Text :=
  "Translated earliest=" ++ unquote earliest ++ " to ago()"

/-- The notes on a head. -/
def notes (h : SearchHead) : List Text :=
  (h.index.map indexNote).toList ++ h.filters.map filterNote ++
    (h.earliest.map earliestNote).toList

/-- The table and, when there are predicates, the stage that applies them. -/
def toKql (h : SearchHead) : Fragment :=
  ⟨h.table ++
      (match h.predicates with
       | [] => []
       | predicates => "\n| where " ++ Text.joinWith " and " predicates),
    h.notes⟩

end SearchHead

/-- The KQL of a search head. -/
def headToKql (head : Text) : Fragment := (SearchHead.ofText head).toKql

/-! ### The commands -/

/-- The text without the empty braces in it. -/
def dropBraces : Text → Text
  | '\x7b' :: '\x7d' :: rest => dropBraces rest
  | c :: rest => c :: dropBraces rest
  | [] => []

/-- `fields` keeps fields, or drops them after a minus sign. -/
def fieldsToKql (args : Text) : Text :=
  match args with
  | '+' :: names => "project " ++ Text.strip names
  | '-' :: names => "project-away " ++ Text.strip names
  | names => "project " ++ names

/-- `sort` by its first key. -/
def sortToKql (args : Text) : Text :=
  match sortKey? args with
  | some (field, direction) => "order by " ++ field ++ " " ++ direction.name
  | none => "order by " ++ args

/-- `rename` by its first pair of names. -/
def renameToKql (args : Text) : Text :=
  match renamePair? args with
  | some (old, new) => "project-rename " ++ new ++ " = " ++ old
  | none => "project-rename " ++ args

/-- The field that `spath` reads when it names none. -/
def spathDefaultInput : Text := "dynamic_field"

/-- `spath` with a path and an output takes one value out of a JSON field. -/
def spathToKql (args : Text) : Fragment :=
  match SpathOptions.ofText? args with
  | some options =>
    let path := dropBraces options.path
    ⟨"extend " ++ options.output ++ " = tostring(" ++ options.input.getD spathDefaultInput ++ "." ++
        path ++ ")",
      ["spath: Extracting " ++ path ++ " from JSON"]⟩
  | none =>
    ⟨"extend /* spath " ++ args ++ " - requires manual adjustment */",
      ["spath requires manual adjustment for complex JSON parsing"]⟩

/-- `rex` is kept as a comment. -/
def rexToKql (args : Text) : Fragment :=
  ⟨"parse /* " ++ args ++ " - requires manual regex adjustment */",
    ["rex: Regular expression extraction may require manual adjustment"]⟩

/-- The span of `timechart` when it gives none. -/
def timechartDefaultSpan : Text := "1h"

/-- `timechart` groups by time and by the fields after `by`. -/
def timechartToKql (args : Text) : Text :=
  let (span, rest) := takeSpan args
  let bucket := "bin(TimeGenerated, " ++ span.getD timechartDefaultSpan ++ ")"
  match splitByClause rest with
  | (aggregations, some (c :: fields)) =>
    "summarize " ++ aggregations ++ " by " ++ bucket ++ ", " ++ (c :: fields)
  | _ => "summarize " ++ rest ++ " by " ++ bucket

/-- A command without a rule becomes its equivalent, with the stage as a
comment. -/
def genericToKql (stage verb : Text) (equivalent : Doc) : Fragment :=
  ⟨equivalent.display ++ " /* " ++ stage ++ " */",
    ["No specific translation for " ++ verb ++ ", using generic mapping"]⟩

/-- The KQL of a stage with a known command. -/
def commandToKql (stage verb : Text) (equivalent : Doc) : Fragment :=
  let args := stageArguments stage verb
  match SplCommand.ofVerb verb with
  | .stats => .plain ("summarize " ++ args)
  | .eval => .plain ("extend " ++ args)
  | .filter => .plain ("where " ++ args)
  | .fields => .plain (fieldsToKql args)
  | .table => .plain ("project " ++ args)
  | .sort => .plain (sortToKql args)
  | .head => .plain ("take " ++ args)
  | .dedup => .plain ("distinct " ++ args)
  | .rename => .plain (renameToKql args)
  | .mvexpand => .plain ("mv-expand " ++ args)
  | .spath => spathToKql args
  | .rex => rexToKql args
  | .timechart => .plain (timechartToKql args)
  | .other => genericToKql stage verb equivalent

/-- A stage with an unknown command is kept, with a warning. -/
def unknownToKql (stage verb : Text) : Fragment :=
  ⟨stage ++ " // WARNING: Unknown SPL command", ["Unknown command: " ++ verb]⟩

/-- The KQL of a stage after the head. -/
def stageToKql (commands : VerbTable) (stage : Text) : Fragment :=
  let verb := stageVerb stage
  match commands.find? verb with
  | some entry => commandToKql stage verb entry.equivalent
  | none => unknownToKql stage verb

/-- The KQL of a stage on a line of its own, after its mark. -/
def stageLineToKql (commands : VerbTable) (stage : Text) : Fragment :=
  Fragment.plain "\n| " ++ stageToKql commands stage

/-- The KQL of an SPL query. -/
def queryToKql (commands : VerbTable) (query : Text) : Fragment :=
  let p := Pipeline.ofQuery query
  headToKql p.head ++ Fragment.concat (p.stages.map (stageLineToKql commands))

end TwinQuery
