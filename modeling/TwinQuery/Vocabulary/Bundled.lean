/-
# The bundled vocabulary

The commands of SPL and the operators of KQL that the library knows when no
other reference documents are given.

Key definitions: `bundledSpl`, `bundledKql`, `Vocabulary.bundled`.
-/
import TwinQuery.Vocabulary.Basic

namespace TwinQuery

/-- SPL commands: name, equivalent in KQL and description. -/
def splRows : List (String × String × String) :=
  [("search", "where", "Filters events using search terms and field comparisons"),
   ("stats", "summarize", "Calculates aggregate statistics over the results"),
   ("eval", "extend", "Calculates an expression and stores the result in a field"),
   ("where", "where", "Filters results using an eval expression"),
   ("fields", "project", "Keeps or removes fields from the results"),
   ("table", "project", "Returns a table containing only the specified fields"),
   ("sort", "order by", "Sorts the results by the specified fields"),
   ("head", "take", "Returns the first N results"),
   ("tail", "top", "Returns the last N results"),
   ("dedup", "distinct", "Removes results with duplicate field values"),
   ("rename", "project-rename", "Renames one or more fields"),
   ("mvexpand", "mv-expand", "Expands a multivalue field into separate events"),
   ("spath", "extend", "Extracts fields from structured JSON or XML data"),
   ("rex", "parse", "Extracts fields using regular expression named groups"),
   ("timechart", "summarize", "Creates a time series chart with statistics per time bucket"),
   ("chart", "summarize", "Returns results in a tabular output for charting"),
   ("top", "top", "Displays the most common values of a field"),
   ("rare", "top", "Displays the least common values of a field"),
   ("eventstats", "join", "Adds summary statistics to all search results"),
   ("streamstats", "serialize",
    "Adds cumulative summary statistics to each result in streaming order"),
   ("bin", "extend", "Puts continuous numerical values into discrete sets"),
   ("bucket", "extend", "Puts continuous numerical values into discrete sets"),
   ("lookup", "lookup", "Enriches events with fields from a lookup table"),
   ("inputlookup", "externaldata", "Loads search results from a lookup table"),
   ("join", "join", "Combines the results of a subsearch with the main search"),
   ("append", "union", "Appends the results of a subsearch to the current results"),
   ("transaction", "summarize", "Groups events into transactions"),
   ("fillnull", "extend", "Replaces null values with a specified value"),
   ("makemv", "extend", "Converts a single-valued field into a multivalue field"),
   ("regex", "where", "Keeps or removes results that match a regular expression"),
   ("iplocation", "extend", "Adds location information based on IP addresses"),
   ("convert", "extend", "Converts field values into numerical values"),
   ("reverse", "order by", "Reverses the order of the results"),
   ("addtotals", "extend", "Computes the sum of all numeric fields for each result"),
   ("tstats", "summarize", "Performs statistical queries on indexed fields in tsidx files"),
   ("metadata", "getschema", "Returns a list of sources, sourcetypes, or hosts"),
   ("eventcount", "count", "Returns the number of events in the specified indexes"),
   ("fieldsummary", "getschema", "Generates summary information for all or a subset of fields")]

/-- KQL operators: name, equivalent in SPL and description. -/
def kqlRows : List (String × String × String) :=
  [("where", "where", "Filters rows that satisfy a predicate"),
   ("summarize", "stats", "Aggregates groups of rows"),
   ("extend", "eval", "Creates calculated columns and appends them to the result set"),
   ("project", "fields", "Selects the columns to include in the output"),
   ("project-away", "fields -", "Selects the columns to exclude from the output"),
   ("project-keep", "fields", "Selects the columns to keep in the output"),
   ("project-rename", "rename", "Renames columns in the output"),
   ("project-reorder", "table", "Reorders columns in the output"),
   ("order", "sort", "Sorts the rows by one or more columns"),
   ("sort", "sort", "Sorts the rows by one or more columns"),
   ("take", "head", "Returns up to the specified number of rows"),
   ("limit", "head", "Returns up to the specified number of rows"),
   ("top", "sort", "Returns the first N records sorted by the specified columns"),
   ("distinct", "dedup", "Produces a table with the distinct combination of the provided columns"),
   ("mv-expand", "mvexpand",
    "Expands a multi-value dynamic array or property bag into multiple records"),
   ("parse", "rex", "Evaluates a string expression and parses its value into calculated columns"),
   ("join", "join", "Merges the rows of two tables on matching key values"),
   ("union", "append", "Combines rows from two or more tables"),
   ("lookup", "lookup",
    "Extends the columns of a fact table with values looked up in a dimension table"),
   ("count", "stats count", "Returns the number of records in the input record set"),
   ("render", "chart", "Instructs the user agent to render a visualization of the results"),
   ("make-series", "timechart", "Creates a series of aggregated values along a specified axis"),
   ("evaluate", "eval", "Invokes a query language extension plugin"),
   ("search", "search", "Searches a text pattern in multiple tables and columns"),
   ("serialize", "streamstats",
    "Marks the order of the input row set as safe for window functions"),
   ("sample", "head", "Returns up to the specified number of random rows"),
   ("getschema", "fieldsummary", "Produces a table that represents the schema of the input"),
   ("as", "eval", "Binds a name to the operator's input tabular expression"),
   ("externaldata", "inputlookup",
    "Returns a table whose schema is defined in the query and data is read from external storage")]

/-- The verbs of a list of rows. -/
def VerbTable.ofRows (rows : List (String × String × String)) : VerbTable :=
  rows.map fun (name, equivalent, description) =>
    (name, ⟨.text equivalent, .text description⟩)

/-- The SPL commands of the bundled vocabulary. -/
def bundledSpl : VerbTable := .ofRows splRows

/-- The KQL operators of the bundled vocabulary. -/
def bundledKql : VerbTable := .ofRows kqlRows

/-- The bundled vocabulary, loaded at the given time. -/
def Vocabulary.bundled (loadedAt : Stamp) : Vocabulary := ⟨bundledSpl, bundledKql, loadedAt⟩

end TwinQuery
