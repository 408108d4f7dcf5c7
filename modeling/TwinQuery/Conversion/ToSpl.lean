/-
# From KQL to SPL

The table becomes a search by the table mapping. A `where` stage is appended
to what stands before it; it filters the search only as long as no other
operator has come, and a later one is noted. Every other stage becomes a
command by the rule of its operator, or is kept with a warning when there is
no rule.

This is not the inverse of the other direction: the head of an SPL search is
read into its parts, and the head of a KQL query is one name.

Key definitions: `KqlOperator`, `tableToSpl`, `operatorToSpl`,
`stagesToSpl`, `queryToSpl`.
-/
import TwinQuery.Conversion.Fragment
import TwinQuery.Kql.Argument
import TwinQuery.Pipeline
import TwinQuery.TableMapping.Basic

namespace TwinQuery

/-- The KQL operators with a rule of their own; `filter` is the operator
`where`. -/
inductive KqlOperator where
  | filter
  | summarize
  | extend
  | project
  | projectAway
  | projectRename
  | order
  | take
  | distinct
  | mvExpand
  | parse
  | other
deriving DecidableEq

namespace KqlOperator

/-- The name of an operator in a query. -/
def name : KqlOperator → Text
  | .filter => "where"
  | .summarize => "summarize"
  | .extend => "extend"
  | .project => "project"
  | .projectAway => "project-away"
  | .projectRename => "project-rename"
  | .order => "order"
  | .take => "take"
  | .distinct => "distinct"
  | .mvExpand => "mv-expand"
  | .parse => "parse"
  | .other => "other"

/-- The operators with a rule of their own. -/
def all : List KqlOperator :=
  [.filter, .summarize, .extend, .project, .projectAway, .projectRename, .order, .take, .distinct,
   .mvExpand, .parse]

/-- The second names of operators. -/
def synonyms : List (Text × KqlOperator) := [("sort", .order), ("limit", .take)]

/-- The operator of a verb. -/
def ofVerb (verb : Text) : KqlOperator :=
  match synonyms.lookup verb with
  | some operator => operator
  | none => (all.find? fun operator => operator.name == verb).getD .other

end KqlOperator

/-! ### The head -/

/-- The part of a search on the source type, empty when there is none. -/
def Entry.sourcetypeTerm (e : Entry) : Text :=
  match e.sourcetype with
  | some (c :: sourcetype) => " sourcetype=\"" ++ (c :: sourcetype) ++ "\""
  | _ => []

/-- The search for an entry of the table mapping. -/
def Entry.search (e : Entry) : Text := "index=" ++ e.index ++ e.sourcetypeTerm

/-- The note on the place of a table. -/
def Entry.placeNote (e : Entry) (table : Text) : Text :=
  "Mapped table \"" ++ table ++ "\" to index=\"" ++ e.index ++ "\"" ++ e.sourcetypeTerm ++
    " (" ++ e.note ++ ")"

/-- The note on a table that the mapping does not know. -/
def unknownTableNote (table : Text) : Text :=
  "WARNING: Unknown table \"" ++ table ++ "\" - using default index. " ++
    "Please verify index/sourcetype in your Splunk environment!"

/-- The SPL search for a table. -/
def tableToSpl (m : TableMapping) (table : Text) : Except Fault Fragment := do
  let (entry, usedDefault) ← m.resolve table
  return ⟨entry.search,
    entry.placeNote table :: (if usedDefault then [unknownTableNote table] else [])⟩

/-! ### The operators -/

/-- `project-rename` by its first pair of names. -/
def projectRenameToSpl (args : Text) : Text :=
  match projectRenamePair? args with
  | some (new, old) => " | rename " ++ old ++ " as " ++ new
  | none => " | rename " ++ args

/-- `order by` its first key. -/
def orderToSpl (args : Text) : Text :=
  match orderKey? args with
  | some (field, some .descending) => " | sort -" ++ field
  | some (field, _) => " | sort +" ++ field
  | none => " | sort " ++ args

/-- The note on a `where` that no longer filters the search. -/
def lateFilterNote : Text :=
  "where after a piped command is appended to that command - requires manual adjustment"

/-- `where` is appended, not piped. -/
def filterToSpl (inline : Bool) (args : Text) : Fragment :=
  ⟨" " ++ singleEquals args, if inline then [] else [lateFilterNote]⟩

/-- A stage with an unknown operator is kept, with a warning. -/
def unknownToSpl (stage operator : Text) : Fragment :=
  ⟨" | " ++ stage ++ " /* WARNING: Manual translation needed */",
    ["Unknown KQL operator: " ++ operator]⟩

/-- The SPL of a stage; `inline` says whether `where` still filters the
search. -/
def operatorToSpl (stage operator : Text) (inline : Bool) : Fragment :=
  let args := stageArguments stage operator
  match KqlOperator.ofVerb operator with
  | .filter => filterToSpl inline args
  | .summarize => .plain (" | stats " ++ args)
  | .extend => .plain (" | eval " ++ args)
  | .project => .plain (" | fields " ++ args)
  | .projectAway => .plain (" | fields - " ++ args)
  | .projectRename => .plain (projectRenameToSpl args)
  | .order => .plain (orderToSpl args)
  | .take => .plain (" | head " ++ args)
  | .distinct => .plain (" | dedup " ++ args)
  | .mvExpand => .plain (" | mvexpand " ++ args)
  | .parse => ⟨" | rex " ++ args, ["parse requires manual adjustment for regex patterns"]⟩
  | .other => unknownToSpl stage operator

/-- Whether a stage is a `where`. -/
def isFilterStage (stage : Text) : Bool := KqlOperator.ofVerb (stageVerb stage) == .filter

/-- The SPL of the stages after the head. -/
def stagesToSpl : (inline : Bool) → List Text → Fragment
  | _, [] => ⟨[], []⟩
  | inline, stage :: stages =>
    operatorToSpl stage (stageVerb stage) inline ++
      stagesToSpl (inline && isFilterStage stage) stages

/-- The SPL of a KQL query. -/
def queryToSpl (m : TableMapping) (query : Text) : Except Fault Fragment := do
  let p := Pipeline.ofQuery query
  return (← tableToSpl m p.head) ++ stagesToSpl true p.stages

end TwinQuery
