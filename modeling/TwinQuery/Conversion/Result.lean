/-
# Conversions

A conversion of a query from one language to the other: the query is
validated, converted, the outcome is validated, and the confidence is
computed from what was found and noted. A conversion to SPL whose table
cannot be resolved is still a conversion, with an empty outcome and the
reason as its note.

Key definitions: `Conversion`, `convertSpl`, `convertKql`,
`convertFrom`, `sourceLanguage`, `Conversion.toDoc`, `Conversion.report`.
-/
import TwinQuery.Confidence
import TwinQuery.Conversion.ToKql
import TwinQuery.Conversion.ToSpl
import TwinQuery.Language

namespace TwinQuery

/-- A converted query with all that was found on the way. -/
structure Conversion where
  query : Text
  outcome : Text
  source : Language
  target : Language
  inputFindings : Findings
  outputFindings : Findings
  notes : List Text
  confidence : Nat

/-- The conversion of `query` with the given outcome. -/
def Conversion.build (query : Text) (source target : Language)
    (inputFindings outputFindings : Findings) (f : Fragment) : Conversion :=
  ⟨query, f.text, source, target, inputFindings, outputFindings, f.notes,
    TwinQuery.confidence inputFindings outputFindings f.notes⟩

/-- The conversion of an SPL query. -/
def convertSpl (v : Vocabulary) (query : Text) : Conversion :=
  let f := queryToKql v.spl query
  .build query .spl .kql (validateSpl (some v.spl) query) (validateKql (some v.kql) f.text) f

/-- The outcome of a conversion that failed. -/
def failedFragment (fault : Fault) : Fragment := ⟨[], ["Translation error: " ++ fault.message]⟩

/-- The conversion of a KQL query. -/
def convertKql (v : Vocabulary) (m : TableMapping) (query : Text) : Conversion :=
  let f :=
    match queryToSpl m query with
    | .ok f => f
    | .error fault => failedFragment fault
  .build query .kql .spl (validateKql (some v.kql) query) (validateSpl (some v.spl) f.text) f

/-- What was found, as a document. -/
def Findings.toDoc (f : Findings) : Doc :=
  Doc.record
    [("valid", .bool f.valid), ("errors", .texts f.errors), ("warnings", .texts f.warnings)]

namespace Conversion

/-- A conversion as a document. -/
def toDoc (c : Conversion) : Doc :=
  Doc.record
    [("original_query", .text c.query),
     ("translated_query", .text c.outcome),
     ("source_language", .text c.source.name),
     ("target_language", .text c.target.name),
     ("input_validation", c.inputFindings.toDoc),
     ("output_validation", c.outputFindings.toDoc),
     ("translation_notes", .texts c.notes),
     ("confidence", .int c.confidence),
     ("validation",
      Doc.record [("input", c.inputFindings.toDoc), ("output", c.outputFindings.toDoc)])]

/-- The rule above and below a report. -/
def rule : Text := List.replicate 70 '='

/-- The lines on what was found in one of the queries. -/
def findingLines (label : Text) (f : Findings) : List Text :=
  if f.errors.isEmpty && f.warnings.isEmpty then []
  else
    ([[], "--- " ++ label ++ " VALIDATION ---"] : List Text) ++
      f.errors.map (Text.ofString "  [ERROR] " ++ ·) ++
      f.warnings.map (Text.ofString "  [WARNING] " ++ ·)

/-- The lines on the notes. -/
def noteLines (notes : List Text) : List Text :=
  if notes.isEmpty then []
  else ([[], "--- NOTES ---"] : List Text) ++ notes.map (Text.ofString "  - " ++ ·)

/-- A conversion as a report to read. -/
def report (c : Conversion) : Text :=
  Text.joinWith "\n"
    ([rule, c.source.title ++ " -> " ++ c.target.title ++ " TRANSLATION", rule, [],
      "Confidence: " ++ Text.ofNat c.confidence ++ "%", [], "--- TRANSLATED QUERY ---", [],
      c.outcome] ++
      noteLines c.notes ++ findingLines "INPUT" c.inputFindings ++
      findingLines "OUTPUT" c.outputFindings ++ [[], rule])

end Conversion

/-- The conversion of a query in the given language to the other one. -/
def convertFrom (v : Vocabulary) (m : TableMapping) (source : Language) (query : Text) :
    Conversion :=
  match source with
  | .spl => convertSpl v query
  | .kql => convertKql v m query

/-- The text of a query. -/
def queryText (query : Doc) : Except Fault Text :=
  match query with
  | .atom (.text t) => .ok t
  | other => .error (.queryNotText other.kind)

/-- The language to convert from when two documents name source and target;
the two must be different languages. -/
def sourceLanguage (source target : Doc) : Except Fault Language :=
  match Language.ofDoc source, Language.ofDoc target with
  | .ok .spl, .ok .kql => .ok .spl
  | .ok .kql, .ok .spl => .ok .kql
  | _, _ =>
    .error (.unsupportedConversion (Text.lower source.display) (Text.lower target.display))

end TwinQuery
